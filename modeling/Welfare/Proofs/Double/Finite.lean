import Mathlib.Algebra.Group.Nat.Defs
import Welfare.Json.Number

/-!
# Finite doubles

A double is packed into bits behind every operation, and packing turns a value whose exponent is
too large into an infinity.  Whether a result is finite is therefore a question about the exponent
before packing.

* `Fits` — an unpacked value that packing keeps finite.
* `unpack_cases` — what bits are unpacked to.
* `isFinite_of_add` — the parts of a finite sum are finite.
* `isFinite_toFloat` — the double of a number in a document is finite: an integer of 64 bits is far
  too small to overflow.
-/

set_option autoImplicit false

namespace Welfare.Double

open Float.Model Float.Model.UnpackedFloat

/-! ## Packing -/

/-- An unpacked value whose exponent the format can hold. -/
def Fits : UnpackedFloat → Prop
  | .zero _ => True
  | .finite _ _ e _ => e ≤ 971
  | _ => False

variable {x y : UnpackedFloat} {b : BitVec Format.binary64.numBits}

/-- What bits are unpacked to.  With every bit of the exponent set that is no finite value, with no
bit of it set it is a value of the smallest exponent, and otherwise the leading digit is added. -/
theorem unpack_cases (b : BitVec Format.binary64.numBits) :
    (unpackExponent b = -1#_ ∧ (UnpackedFloat.unpack Format.binary64 b = .notANumber ∨
      ∃ s, UnpackedFloat.unpack Format.binary64 b = .infinity s)) ∨
    (unpackExponent b ≠ -1#_ ∧ ((∃ s, UnpackedFloat.unpack Format.binary64 b = .zero s) ∨
      (∃ s hm, UnpackedFloat.unpack Format.binary64 b =
        .finite s (unpackMantissa b).toNat (-1074) hm) ∨
      (unpackExponent b ≠ 0#_ ∧ ∃ s hm, UnpackedFloat.unpack Format.binary64 b =
        .finite s (1#1 ++ unpackMantissa b).toNat ((unpackExponent b).toNat - 1075) hm))) := by
  delta UnpackedFloat.unpack
  dsimp only
  -- The fields are used in the types behind the tests, so the tests are settled from the outside in.
  by_cases hones : unpackExponent b = -1#_
  · rw [if_pos hones]
    refine .inl ⟨hones, ?_⟩
    by_cases hmantissa : unpackMantissa b = 0#_
    · rw [if_pos hmantissa]
      exact .inr ⟨_, rfl⟩
    · rw [if_neg hmantissa]
      exact .inl rfl
  · rw [if_neg hones]
    refine .inr ⟨hones, ?_⟩
    by_cases hzeros : unpackExponent b = 0#_
    · rw [if_pos hzeros]
      by_cases hmantissa : unpackMantissa b = 0#_
      · rw [dif_pos hmantissa]
        exact .inl ⟨_, rfl⟩
      · rw [dif_neg hmantissa, hzeros]
        exact .inr (.inl ⟨_, _, rfl⟩)
    · rw [if_neg hzeros]
      exact .inr (.inr ⟨hzeros, _, _, rfl⟩)

/-- Bits are those of a finite value unless every bit of the exponent is set. -/
theorem isFinite_unpack :
    (UnpackedFloat.unpack Format.binary64 b).isFinite = true ↔ unpackExponent b ≠ -1#_ := by
  obtain ⟨hones, h | ⟨s, h⟩⟩ | ⟨hones, ⟨s, h⟩ | ⟨s, hm, h⟩ | ⟨-, s, hm, h⟩⟩ := unpack_cases b
  · exact iff_of_false (by rw [h]; nofun) (not_not_intro hones)
  · exact iff_of_false (by rw [h]; nofun) (not_not_intro hones)
  · exact iff_of_true (by rw [h]; rfl) hones
  · exact iff_of_true (by rw [h]; rfl) hones
  · exact iff_of_true (by rw [h]; rfl) hones

/-- The largest exponent field of a finite value is 2046. -/
theorem exponent_le_of_ne {n : Nat} (hlt : n < 2048) (hne : n ≠ 2047) : (n : Int) - 1075 ≤ 971 := by
  omega

/-- The exponent of a finite value that is unpacked is at most the largest one. -/
theorem fits_unpack (h : unpackExponent b ≠ -1#_) :
    Fits (UnpackedFloat.unpack Format.binary64 b) := by
  obtain ⟨hones, -⟩ | ⟨-, ⟨s, hx⟩ | ⟨s, hm, hx⟩ | ⟨-, s, hm, hx⟩⟩ := unpack_cases b
  · exact absurd hones h
  · rw [hx]
    trivial
  · rw [hx]
    show (-1074 : Int) ≤ 971
    decide
  · rw [hx]
    have hne : (unpackExponent b).toNat ≠ 2047 := fun he ↦ h (BitVec.eq_of_toNat_eq he)
    exact exponent_le_of_ne (unpackExponent b).isLt hne

/-- A finite value becomes an infinity when its exponent is too large; otherwise its bits depend on
whether the mantissa has all the digits that the format has. -/
theorem pack_finite (s : Sign) (m : Nat) (e : Int) (hm : 0 < m) :
    UnpackedFloat.pack Format.binary64 (.finite s m e hm) =
      if 971 < e then packedInfinity Format.binary64 s
      else if m.log2 + 1 = 53 then
        packComponents Format.binary64 s (BitVec.ofNat 11 (e + 1075).toNat) (BitVec.ofNat 52 m)
      else packComponents Format.binary64 s 0#11 (BitVec.ofNat 52 m) := by
  have horder : (e + 1023 + 52).toNat = (e + 1075).toNat := by
    rw [Int.add_assoc]; rfl
  have hoverflow : 2 ^ 11 ≤ (e + 1075).toNat + 1 ↔ 971 < e := by omega
  show (if 2 ^ 11 ≤ (e + 1023 + 52).toNat + 1 then _ else if m.log2 + 1 = 53 then
    packComponents Format.binary64 s (BitVec.ofNat 11 (e + 1023 + 52).toNat) _ else _) = _
  simp only [horder, hoverflow]

/-- The exponent of packed bits has a bit that is not set exactly when the value fits. -/
theorem unpackExponent_pack :
    unpackExponent (UnpackedFloat.pack Format.binary64 x) ≠ -1#_ ↔ Fits x := by
  cases x with
  | notANumber => exact iff_of_false (by decide) id
  | infinity s => exact iff_of_false (by cases s <;> decide) id
  | zero s => exact iff_of_true (by cases s <;> decide) trivial
  | finite s m e hm =>
    rw [pack_finite]
    by_cases hlarge : 971 < e
    · rw [if_pos hlarge]
      exact iff_of_false (by simp [packedInfinity]) (Int.not_le.2 hlarge)
    · rw [if_neg hlarge]
      refine iff_of_true ?_ (Int.not_lt.1 hlarge)
      split <;> rw [unpackExponent_packComponents]
      · intro hones
        have := congrArg BitVec.toNat hones
        simp at this
        omega
      · decide

theorem isFinite_pack : (Float.Model.pack x).isFinite = true ↔ Fits x := by
  rw [Float.Model.isFinite, Float.Model.unpack, Float.Model.pack, isFinite_unpack,
    UInt64.toBitVec_ofBitVec, unpackExponent_pack]

/-! ## Rounding -/

/-- Shifting to the target exponent never lowers the exponent. -/
theorem snd_shiftToTargetExponent (spec : Format) (m : Nat) (e : Int) (a : Accuracy) :
    (shiftToTargetExponent spec m e a).2 = max e (spec.targetExponent (totalExponent m e)) := by
  rw [shiftToTargetExponent, shiftToExponent]
  omega

/-- Shifting bits out only makes a mantissa smaller. -/
theorem mantissa_repeat_shiftRightOne_le (em : ExtendedMantissa) (n : Nat) :
    (n.repeat ExtendedMantissa.shiftRightOne em).mantissa ≤ em.mantissa := by
  induction n with
  | zero => exact Nat.le_refl _
  | succ n ih => exact Nat.le_trans (Nat.div_le_self _ 2) ih

theorem mantissa_fst_shiftToTargetExponent_le (spec : Format) (m : Nat) (e : Int) :
    (shiftToTargetExponent spec m e .exact).1.mantissa ≤ m :=
  mantissa_repeat_shiftRightOne_le ⟨m, false, false⟩ _

/-- Rounding adds at most one unit in the last place. -/
theorem roundedMantissa_le (em : ExtendedMantissa) : em.roundedMantissa ≤ em.mantissa + 1 := by
  obtain ⟨m, r, s⟩ := em
  have hmod : m % 2 ≤ 1 := by omega
  cases r <;> cases s
  · exact Nat.le_succ m
  · exact Nat.le_succ m
  · exact Nat.add_le_add_left hmod m
  · exact Nat.le_refl _

/-- A mantissa of few bits asks for a small exponent. -/
theorem targetExponent_le {m k : Nat} (hk : 0 < k) (hm : m < 2 ^ k) (e : Int) :
    Format.binary64.targetExponent (totalExponent m e) ≤ max (k + e - 53) (-1074) := by
  have hlog : m.log2 < k := by
    by_cases hzero : m = 0
    · rw [hzero]; exact hk
    · exact (Nat.log2_lt hzero).2 hm
  show max (m.log2 + 1 + e - 53) (-1074) ≤ _
  omega

/-- Zero fits, and so does a value with a small exponent. -/
theorem fits_dite {c : Prop} [Decidable c] {s : Sign} {m : Nat} {e : Int} (hm : ¬ c → 0 < m)
    (he : e ≤ 971) : Fits (if h : c then .zero s else .finite s m e (hm h)) := by
  by_cases h : c
  · rw [dif_pos h]
    trivial
  · rw [dif_neg h]
    exact he

/-- A mantissa of at most 128 bits in front of the point rounds to a finite value.  The two shifts
raise the exponent by what the mantissa has too many, far from the limit of the format. -/
theorem fits_roundWithAccuracy {s : Sign} {m : Nat} {e : Int} (hm : m < 2 ^ 128) (he : e ≤ 0) :
    Fits (roundWithAccuracy Format.binary64 s m e .exact) := by
  rw [roundWithAccuracy]
  have hfirst := targetExponent_le (by decide) hm e
  have hexponent := snd_shiftToTargetExponent Format.binary64 m e .exact
  have hmantissa := mantissa_fst_shiftToTargetExponent_le Format.binary64 m e
  generalize shiftToTargetExponent Format.binary64 m e .exact = first at hexponent hmantissa ⊢
  obtain ⟨em, e'⟩ := first
  have hrounded : em.roundedMantissa < 2 ^ 129 := by
    have hstep := roundedMantissa_le em
    simp only at hmantissa
    omega
  have hsecond := targetExponent_le (by decide) hrounded e'
  have hfinal := snd_shiftToTargetExponent Format.binary64 em.roundedMantissa e' .exact
  have hle : (shiftToTargetExponent Format.binary64 em.roundedMantissa e' .exact).2 ≤ 971 := by
    simp only at hexponent
    omega
  exact fits_dite _ hle

/-- The rounding of a number of 64 bits is finite. -/
theorem fits_round {s : Sign} {m : Nat} (hm : m < 2 ^ 64) :
    Fits (UnpackedFloat.round Format.binary64 s m 0) := by
  rw [UnpackedFloat.round, decreaseExponent]
  have hlow : -52 ≤ Format.binary64.targetExponent (totalExponent m 0) := by
    show -52 ≤ max ((m.log2 : Int) + 1 + 0 - 53) (-1074)
    omega
  generalize Format.binary64.targetExponent (totalExponent m 0) = t at hlow
  refine fits_roundWithAccuracy ?_ (by omega)
  have hshift : 2 ^ (0 - t).toNat ≤ 2 ^ 52 := Nat.pow_le_pow_right (by decide) (by omega)
  calc m <<< (0 - t).toNat
      = m * 2 ^ (0 - t).toNat := Nat.shiftLeft_eq _ _
    _ ≤ m * 2 ^ 52 := Nat.mul_le_mul_left m hshift
    _ < 2 ^ 128 := by omega

theorem fits_ofNat {m : Nat} (hm : m < 2 ^ 64) : Fits (UnpackedFloat.ofNat Format.binary64 m) := by
  show Fits (UnpackedFloat.normalize Format.binary64 (m : Int) 0 .positive)
  rw [UnpackedFloat.normalize]
  split
  · next hneg => exact absurd (Int.compare_eq_lt.1 hneg) (Int.not_lt.2 (Int.natCast_nonneg m))
  · trivial
  · exact fits_round (by omega)

theorem fits_neg (h : Fits x) : Fits x.neg := by
  cases x with
  | zero s => trivial
  | finite s m e hm => exact h
  | infinity s => exact h
  | notANumber => exact h

/-! ## Finite results -/

/-- A finite value is a number. -/
theorem isNaN_unpacked (h : x.isFinite = true) : x.isNaN = false := by
  cases x with
  | notANumber => cases h
  | _ => rfl

/-- A finite value is no infinity. -/
theorem isInf_unpacked (h : x.isFinite = true) : x.isInf = false := by
  cases x with
  | infinity s => cases h
  | _ => rfl

theorem isNaN_of_isFinite {f : Float} (h : f.isFinite = true) : f.isNaN = false :=
  isNaN_unpacked (x := f.toModel.unpack) h

theorem isInf_of_isFinite {f : Float} (h : f.isFinite = true) : f.isInf = false :=
  isInf_unpacked (x := f.toModel.unpack) h

/-- A double is finite when what it unpacks to fits. -/
theorem fits_unpack_of_isFinite {m : Float.Model} (h : m.isFinite = true) : Fits m.unpack :=
  fits_unpack (isFinite_unpack.1 h)

theorem isFinite_neg {f : Float} (h : f.isFinite = true) : (-f).isFinite = true :=
  isFinite_pack.2 (fits_neg (fits_unpack_of_isFinite h))

/-- The double of a number in a document is finite. -/
theorem isFinite_toFloat (n : Json.Number) : n.toFloat.isFinite = true := by
  cases n with
  | double x hx => exact hx
  | int n hn =>
    have hmagnitude : (UInt64.ofNat n.natAbs).toFloat.isFinite = true :=
      isFinite_pack.2 (fits_ofNat (UInt64.ofNat n.natAbs).toNat_lt)
    show (if n < 0 then _ else _ : Float).isFinite = true
    split
    · exact isFinite_neg hmagnitude
    · exact hmagnitude

/-- Only finite values add up to one that fits. -/
theorem isFinite_of_fits_add (h : Fits (UnpackedFloat.add Format.binary64 x y)) :
    x.isFinite = true ∧ y.isFinite = true := by
  cases x with
  | notANumber => exact h.elim
  | infinity s =>
    cases y with
    | infinity t => cases s <;> cases t <;> exact h.elim
    | _ => exact h.elim
  | _ =>
    cases y with
    | notANumber => exact h.elim
    | infinity t => exact h.elim
    | _ => exact ⟨rfl, rfl⟩

/-- A sum is finite only if both of its parts are. -/
theorem isFinite_of_add {f g : Float} (h : (f + g).isFinite = true) :
    f.isFinite = true ∧ g.isFinite = true :=
  isFinite_of_fits_add (isFinite_pack.1 h)

end Welfare.Double
