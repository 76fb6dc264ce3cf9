import Welfare.Proofs.Double.Finite
import Welfare.Proofs.Double.Rounding

/-!
# Packing doubles into bits

A rounded value is packed into 64 bits and unpacked again before the next operation.  Nothing is
lost on the way except that a value with too large an exponent turns into an infinity.

* `Stored` — what bits can be unpacked to.
* `settled`, `unpack_pack` — what is left of a value that has been packed.
* `units_settled` — its count: everything from the limit on is cut off there.
* `compare_units` — numbers compare as their counts do.
* `eq_of_units_eq` — a stored value is known by its count, apart from the two zeros.
-/

set_option autoImplicit false

namespace Welfare.Double

open Float.Model Float.Model.UnpackedFloat

variable {x y : UnpackedFloat} {b : BitVec Format.binary64.numBits}

/-! ## Bits and back -/

/-- A value that bits hold: it is canonical, and its exponent is in range. -/
def Stored : UnpackedFloat → Prop
  | .finite s m e hm => Canonical (.finite s m e hm) ∧ e ≤ 971
  | _ => True

/-- What a value turns into when it is packed. -/
def settled : UnpackedFloat → UnpackedFloat
  | .finite s m e hm => if 971 < e then .infinity s else .finite s m e hm
  | x => x

theorem settled_finite (s : Sign) {m : ℕ} {e : ℤ} (hm : 0 < m) :
    settled (.finite s m e hm) = if 971 < e then .infinity s else .finite s m e hm := rfl

theorem Stored.canonical (h : Stored x) : Canonical x := by
  cases x with
  | finite s m e hm => exact h.1
  | _ => trivial

/-- A value is not a number, an infinity, or finite. -/
theorem value_cases (u : UnpackedFloat) :
    u = .notANumber ∨ (∃ s, u = .infinity s) ∨ u.isFinite = true := by
  cases u with
  | notANumber => exact .inl rfl
  | infinity s => exact .inr (.inl ⟨s, rfl⟩)
  | _ => exact .inr (.inr rfl)

theorem unpackSign_packComponents {spec : Format} (s : Sign) (exponent : BitVec spec.exponentBits)
    (mantissa : BitVec spec.mantissaBitsWithoutImplicit) :
    unpackSign (packComponents spec s exponent mantissa) = s.toBitVec := by
  refine BitVec.eq_of_getLsbD_eq fun i hi ↦ ?_
  have hzero : i = 0 := by omega
  subst hzero
  delta unpackSign
  simp [packComponents, BitVec.getLsbD_append, BitVec.getElem_append]

theorem ofBitVec_toBitVec (s : Sign) : Sign.ofBitVec s.toBitVec = s := by
  cases s <;> rfl

/-- The leading digit of a mantissa is left out of the bits. -/
theorem toNat_one_append (mantissa : BitVec 52) :
    (1#1 ++ mantissa).toNat = 2 ^ 52 + mantissa.toNat := by
  rw [BitVec.toNat_append, ← Nat.shiftLeft_add_eq_or_of_lt mantissa.isLt]
  rfl

/-- Bits of a normal value. -/
theorem unpack_normal (s : Sign) {m : ℕ} {e : ℤ} (hm : 0 < m) (hlow : 2 ^ 52 ≤ m)
    (hhigh : m < 2 ^ 53) (he : -1074 ≤ e) (hle : e ≤ 971) :
    UnpackedFloat.unpack Format.binary64 (packComponents Format.binary64 s
      (BitVec.ofNat 11 (e + 1075).toNat) (BitVec.ofNat 52 m)) = .finite s m e hm := by
  have hexponent : (BitVec.ofNat 11 (e + 1075).toNat).toNat = (e + 1075).toNat := by
    rw [BitVec.toNat_ofNat, Nat.mod_eq_of_lt (by omega)]
  have hmantissa : (1#1 ++ BitVec.ofNat 52 m).toNat = m := by
    rw [toNat_one_append, BitVec.toNat_ofNat]
    omega
  generalize BitVec.ofNat 11 (e + 1075).toNat = field at hexponent ⊢
  have hones : field ≠ -1#11 := by
    rintro rfl
    simp at hexponent
    omega
  have hzeros : field ≠ 0#11 := by
    rintro rfl
    simp at hexponent
    omega
  delta UnpackedFloat.unpack
  dsimp only
  rw [unpackExponent_packComponents, if_neg hones, if_neg hzeros]
  refine (UnpackedFloat.finite.injEq ..).mpr ⟨?_, ?_, ?_⟩
  · rw [unpackSign_packComponents, ofBitVec_toBitVec]
  · rw [unpackMantissa_packComponents]
    exact hmantissa
  · show (field.toNat : ℤ) - 1075 = e
    omega

/-- Bits of a value below the normal ones. -/
theorem unpack_subnormal (s : Sign) {m : ℕ} (hm : 0 < m) (hhigh : m < 2 ^ 52) :
    UnpackedFloat.unpack Format.binary64 (packComponents Format.binary64 s 0#11
      (BitVec.ofNat 52 m)) = .finite s m (-1074) hm := by
  have hmantissa : (BitVec.ofNat 52 m).toNat = m := by
    rw [BitVec.toNat_ofNat, Nat.mod_eq_of_lt hhigh]
  have hzeros : BitVec.ofNat 52 m ≠ 0#52 := by
    intro h
    rw [h] at hmantissa
    simp at hmantissa
    omega
  have hones : (0#11 : BitVec 11) ≠ -1#11 := by decide
  delta UnpackedFloat.unpack
  dsimp only
  rw [unpackExponent_packComponents, if_neg hones, if_pos rfl,
    dif_neg (by rwa [unpackMantissa_packComponents])]
  refine (UnpackedFloat.finite.injEq ..).mpr ⟨?_, ?_, rfl⟩
  · rw [unpackSign_packComponents, ofBitVec_toBitVec]
  · rw [unpackMantissa_packComponents]
    exact hmantissa

/-- Packing turns a value into an infinity if its exponent is too large, and loses nothing
otherwise. -/
theorem unpack_pack (h : Canonical x) :
    UnpackedFloat.unpack Format.binary64 (UnpackedFloat.pack Format.binary64 x) = settled x := by
  cases x with
  | notANumber => rfl
  | infinity s => cases s <;> rfl
  | zero s => cases s <;> rfl
  | finite s m e hm =>
    obtain ⟨hhigh, he, hfull⟩ := h
    rw [pack_finite, settled_finite]
    by_cases hlarge : 971 < e
    · rw [if_pos hlarge, if_pos hlarge]
      cases s <;> rfl
    · rw [if_neg hlarge, if_neg hlarge]
      by_cases hnormal : m.log2 + 1 = 53
      · rw [if_pos hnormal]
        have hlow : 2 ^ 52 ≤ m := (Nat.le_log2 hm.ne').1 (by omega)
        exact unpack_normal s hm hlow hhigh he (by omega)
      · rw [if_neg hnormal]
        have hlt : m.log2 < 53 := (Nat.log2_lt hm.ne').2 hhigh
        have hlow : m < 2 ^ 52 := (Nat.log2_lt hm.ne').1 (by omega)
        obtain rfl : e = -1074 := by omega
        exact unpack_subnormal s hm hlow

/-- Bits can only be unpacked to a value that they can hold. -/
theorem stored_unpack (b : BitVec Format.binary64.numBits) :
    Stored (UnpackedFloat.unpack Format.binary64 b) := by
  obtain ⟨-, h | ⟨s, h⟩⟩ | ⟨hones, ⟨s, h⟩ | ⟨s, hm, h⟩ | ⟨hzeros, s, hm, h⟩⟩ := unpack_cases b
  · rw [h]
    trivial
  · rw [h]
    trivial
  · rw [h]
    trivial
  · rw [h]
    refine ⟨⟨?_, by decide, .inl rfl⟩, by decide⟩
    exact (unpackMantissa b).isLt.trans (by decide)
  · have hlt : (unpackMantissa b).toNat < 2 ^ 52 := (unpackMantissa b).isLt
    have hfield : (unpackExponent b).toNat < 2048 := (unpackExponent b).isLt
    have hlow : (unpackExponent b).toNat ≠ 0 := fun he ↦ hzeros (BitVec.eq_of_toNat_eq he)
    have hhigh : (unpackExponent b).toNat ≠ 2047 := fun he ↦ hones (BitVec.eq_of_toNat_eq he)
    have happend : (1#1 ++ unpackMantissa b).toNat = 2 ^ 52 + (unpackMantissa b).toNat :=
      toNat_one_append (unpackMantissa b)
    rw [h]
    exact ⟨⟨by omega, by omega, .inr (by omega)⟩, by omega⟩

theorem settled_of_stored (h : Stored x) : settled x = x := by
  cases x with
  | finite s m e hm => rw [settled_finite, if_neg (not_lt.2 h.2)]
  | _ => rfl

/-! ## Counts of stored values -/

theorem limit_pos : 0 < limit := by
  rw [limit]
  exact Int.natCast_pos.2 (Nat.mul_pos (Nat.two_pow_pos 52) (Nat.two_pow_pos _))

/-- A count that is cut off where the infinities begin. -/
def clamp (n : ℤ) : ℤ := max (-limit) (min n limit)

theorem clamp_mono {n k : ℤ} (h : n ≤ k) : clamp n ≤ clamp k := by
  rw [clamp, clamp]
  omega

theorem clamp_of_abs_lt {n : ℤ} (h : |n| < limit) : clamp n = n := by
  rw [abs_lt] at h
  rw [clamp]
  omega

theorem abs_apply (s : Sign) (n : ℤ) : |s.apply n| = |n| := by
  cases s with
  | positive => rfl
  | negative => exact abs_neg n

/-- A finite value that is stored counts less than an infinity. -/
theorem abs_units_lt (hfinite : x.isFinite = true) (h : Stored x) : |units x| < limit := by
  cases x with
  | infinity s => cases hfinite
  | notANumber => cases hfinite
  | zero s => exact limit_pos
  | finite s m e hm =>
    obtain ⟨⟨hm', he, -⟩, hle⟩ := h
    rw [units_finite, abs_apply, Nat.abs_cast, limit]
    exact_mod_cast magnitude_lt hm' he (.inr le_rfl) (by omega)

/-- Packing cuts the count off at the limit. -/
theorem units_settled (h : Canonical x) (hfinite : x.isFinite = true) :
    units (settled x) = clamp (units x) := by
  cases x with
  | infinity s => cases hfinite
  | notANumber => cases hfinite
  | zero s =>
    have hstored : Stored (.zero s) := trivial
    exact (clamp_of_abs_lt (abs_units_lt rfl hstored)).symm
  | finite s m e hm =>
    rw [settled_finite]
    by_cases hlarge : 971 < e
    · rw [if_pos hlarge]
      have hfull : 2 ^ 52 ≤ m := h.2.2.resolve_left (by omega)
      have hlimit : limit ≤ magnitude m e := by
        rw [limit]
        exact Int.ofNat_le.2 (magnitude_le hfull (by omega))
      have hpos := limit_pos
      rw [clamp]
      cases s with
      | positive =>
        show limit = max (-limit) (min (magnitude m e : ℤ) limit)
        omega
      | negative =>
        show -limit = max (-limit) (min (-(magnitude m e : ℤ)) limit)
        omega
    · rw [if_neg hlarge]
      have hstored : Stored (.finite s m e hm) := ⟨h, by omega⟩
      exact (clamp_of_abs_lt (abs_units_lt rfl hstored)).symm

/-! ## Comparing stored values -/

theorem swap_compare (n k : ℤ) : (compare n k).swap = compare (-n) (-k) := by
  rcases lt_trichotomy n k with hlt | rfl | hgt
  · rw [compare_lt_iff_lt.2 hlt, compare_gt_iff_gt.2 (neg_lt_neg hlt)]
    rfl
  · rw [compare_eq_iff_eq.2 rfl, compare_eq_iff_eq.2 rfl]
    rfl
  · rw [compare_gt_iff_gt.2 hgt, compare_lt_iff_lt.2 (neg_lt_neg hgt)]
    rfl

/-- What is finite lies between the infinities. -/
theorem compare_infinity (hfinite : x.isFinite = true) (h : Stored x) (t : Sign) :
    x.compare (.infinity t) = some (compare (units x) (units (.infinity t))) := by
  have hlt := abs_lt.1 (abs_units_lt hfinite h)
  cases t with
  | negative =>
    rw [compare_gt_iff_gt.2 (show units (.infinity .negative) < units x from hlt.1)]
    cases x with
    | finite s m e hm => cases s <;> rfl
    | zero s => rfl
    | _ => cases hfinite
  | positive =>
    rw [compare_lt_iff_lt.2 (show units x < units (.infinity .positive) from hlt.2)]
    cases x with
    | finite s m e hm => cases s <;> rfl
    | zero s => rfl
    | _ => cases hfinite

theorem infinity_compare (hfinite : y.isFinite = true) (h : Stored y) (s : Sign) :
    UnpackedFloat.compare (.infinity s) y = some (compare (units (.infinity s)) (units y)) := by
  have hlt := abs_lt.1 (abs_units_lt hfinite h)
  cases s with
  | negative =>
    rw [compare_lt_iff_lt.2 (show units (.infinity .negative) < units y from hlt.1)]
    cases y <;> first | rfl | cases hfinite
  | positive =>
    rw [compare_gt_iff_gt.2 (show units y < units (.infinity .positive) from hlt.2)]
    cases y <;> first | rfl | cases hfinite

/-- Finite values compare by their signs first. -/
theorem compare_of_isFinite (hxf : x.isFinite = true) (hyf : y.isFinite = true)
    (hx : Canonical x) (hy : Canonical y) :
    x.compare y = some (compare (units x) (units y)) := by
  cases x with
  | notANumber => cases hxf
  | infinity s => cases hxf
  | zero s =>
    cases y with
    | notANumber => cases hyf
    | infinity t => cases hyf
    | zero t => rw [units_zero, units_zero, compare_eq_iff_eq.2 rfl]; rfl
    | finite t n k hn =>
      have hpos : 0 < magnitude n k := Nat.mul_pos hn (Nat.two_pow_pos _)
      cases t <;> dsimp only [units_zero, units_finite, Sign.apply]
      · rw [compare_gt_iff_gt.2 (by omega)]; rfl
      · rw [compare_lt_iff_lt.2 (by omega)]; rfl
  | finite s m e hm =>
    have hmpos : 0 < magnitude m e := Nat.mul_pos hm (Nat.two_pow_pos _)
    cases y with
    | notANumber => cases hyf
    | infinity t => cases hyf
    | zero t =>
      cases s <;> dsimp only [units_zero, units_finite, Sign.apply]
      · rw [compare_lt_iff_lt.2 (by omega)]; rfl
      · rw [compare_gt_iff_gt.2 (by omega)]; rfl
    | finite t n k hn =>
      have hnpos : 0 < magnitude n k := Nat.mul_pos hn (Nat.two_pow_pos _)
      have hcompare := compare_magnitude hx.1 hx.2.1 hx.2.2 hy.1 hy.2.1 hy.2.2
      cases s <;> cases t <;> dsimp only [units_finite, Sign.apply]
      · rw [← swap_compare, ← hcompare]; rfl
      · rw [compare_lt_iff_lt.2 (by omega)]; rfl
      · rw [compare_gt_iff_gt.2 (by omega)]; rfl
      · rw [← hcompare]; rfl

/-- Values that are numbers compare as their counts do. -/
theorem compare_units (hx : Stored x) (hy : Stored y) (hxn : x.isNaN = false)
    (hyn : y.isNaN = false) : x.compare y = some (compare (units x) (units y)) := by
  rcases value_cases x with rfl | ⟨s, rfl⟩ | hxf
  · cases hxn
  · rcases value_cases y with rfl | ⟨t, rfl⟩ | hyf
    · cases hyn
    · have hpos := limit_pos
      cases s <;> cases t <;> dsimp only [units_infinity, Sign.apply]
      · rw [compare_eq_iff_eq.2 rfl]; rfl
      · rw [compare_lt_iff_lt.2 (by omega)]; rfl
      · rw [compare_gt_iff_gt.2 (by omega)]; rfl
      · rw [compare_eq_iff_eq.2 rfl]; rfl
    · exact infinity_compare hyf hy s
  · rcases value_cases y with rfl | ⟨t, rfl⟩ | hyf
    · cases hyn
    · exact compare_infinity hxf hx t
    · exact compare_of_isFinite hxf hyf hx.canonical hy.canonical

/-- A finite value is known by its count, unless it is a zero with a sign. -/
theorem eq_of_units_eq (hx : Canonical x) (hy : Canonical y) (hxf : x.isFinite = true)
    (hyf : y.isFinite = true) (hxz : x ≠ .zero .negative) (hyz : y ≠ .zero .negative)
    (h : units x = units y) : x = y := by
  cases x with
  | infinity s => cases hxf
  | notANumber => cases hxf
  | zero s =>
    cases y with
    | infinity t => cases hyf
    | notANumber => cases hyf
    | zero t =>
      cases s <;> cases t <;> first | rfl | exact absurd rfl hxz | exact absurd rfl hyz
    | finite t n k hn =>
      have hpos : 0 < magnitude n k := Nat.mul_pos hn (Nat.two_pow_pos _)
      cases t <;> dsimp only [units_zero, units_finite, Sign.apply] at h <;> omega
  | finite s m e hm =>
    have hmpos : 0 < magnitude m e := Nat.mul_pos hm (Nat.two_pow_pos _)
    cases y with
    | infinity t => cases hyf
    | notANumber => cases hyf
    | zero t => cases s <;> dsimp only [units_zero, units_finite, Sign.apply] at h <;> omega
    | finite t n k hn =>
      have hnpos : 0 < magnitude n k := Nat.mul_pos hn (Nat.two_pow_pos _)
      have hsame : s = t ∧ magnitude m e = magnitude n k := by
        cases s <;> cases t <;> dsimp only [units_finite, Sign.apply] at h <;>
          first | exact ⟨rfl, by omega⟩ | omega
      obtain ⟨rfl, hmagnitude⟩ := hsame
      obtain rfl : e = k := by
        rcases lt_trichotomy e k with hlt | heq | hgt
        · exact absurd hmagnitude (magnitude_lt hx.1 hx.2.1 hy.2.2 hlt).ne
        · exact heq
        · exact absurd hmagnitude (magnitude_lt hy.1 hy.2.1 hx.2.2 hgt).ne'
      obtain rfl : m = n := Nat.eq_of_mul_eq_mul_right (Nat.two_pow_pos _) hmagnitude
      rfl

/-- Rounding gives a zero with a sign only where it is told to. -/
theorem normalize_ne_negative_zero {e : ℤ} (he : -1074 ≤ e) (n : ℤ) :
    normalize Format.binary64 n e .positive ≠ .zero .negative := by
  intro h
  rcases eq_or_ne n 0 with rfl | hn
  · cases h
  · have hunits := (rounds_normalize he n .positive).units_eq
    rw [h] at hunits
    exact round_ne_zero (mul_ne_zero hn (by positivity)) hunits.symm

/-- A sum that starts without a sign on its zero never gets one. -/
theorem add_ne_negative_zero (hx : Canonical x) (hy : Canonical y) (hxz : x ≠ .zero .negative) :
    UnpackedFloat.add Format.binary64 x y ≠ .zero .negative := by
  cases x with
  | notANumber => exact fun h ↦ by cases h
  | infinity s =>
    cases y with
    | infinity t => cases s <;> cases t <;> exact fun h ↦ by cases h
    | _ => exact fun h ↦ by cases h
  | zero s =>
    cases s with
    | negative => exact absurd rfl hxz
    | positive =>
      cases y with
      | zero t => cases t <;> exact fun h ↦ by cases h
      | _ => exact fun h ↦ by cases h
  | finite s m e hm =>
    cases y with
    | finite t n k hn => exact normalize_ne_negative_zero (le_min hx.2.1 hy.2.1) _
    | _ => exact fun h ↦ by cases h

end Welfare.Double
