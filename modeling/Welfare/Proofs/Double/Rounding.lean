import Welfare.Proofs.Double.Nearest

/-!
# How doubles are rounded

An exact result is a mantissa and an exponent.  It is rounded in two shifts: the first one drops the
binary digits that are too many, keeping of them what rounding needs to know, and the second one
makes room for the digit that rounding up may have carried out of the mantissa.

Counted in smallest doubles, of which `2 ^ 1074` make one, the two shifts together are the rounding
of whole numbers in `Double.round`.

* `Canonical` — an unpacked value written with as many digits as the format has.
* `units` — an unpacked value counted in smallest doubles.
* `iterate_shiftRightOne` — what the dropped digits leave behind.
* `Rounds`, `rounds_round`, `rounds_add` — rounding, and adding, in smallest doubles.
* `compare_magnitude` — exponents and mantissas compare as the counts do.
-/

set_option autoImplicit false

namespace Welfare.Double

open Float.Model Float.Model.UnpackedFloat

/-! ## Shifting digits out -/

/-- A mantissa without its last `k` binary digits, and what is kept of them. -/
def shifted (n k : ℕ) : ExtendedMantissa where
  mantissa := n / 2 ^ k
  roundBit := decide (2 ^ k ≤ 2 * (n % 2 ^ k))
  stickyBit := decide (2 * (n % 2 ^ k) ≠ 0 ∧ 2 * (n % 2 ^ k) ≠ 2 ^ k)

/-- Shifting one more digit out. -/
theorem shiftRightOne_shifted (n k : ℕ) : (shifted n k).shiftRightOne = shifted n (k + 1) := by
  have hlt := Nat.mod_lt n (Nat.two_pow_pos k)
  have hmod : n % (2 * 2 ^ k) = n % 2 ^ k + 2 ^ k * (n / 2 ^ k % 2) := by
    rw [mul_comm, Nat.mod_mul]
  simp only [ExtendedMantissa.shiftRightOne, shifted, pow_succ', hmod, ExtendedMantissa.mk.injEq]
  refine ⟨by rw [mul_comm 2, Nat.div_div_eq_div_mul], ?_⟩
  generalize n % 2 ^ k = rest at hlt ⊢
  rcases Nat.mod_two_eq_zero_or_one (n / 2 ^ k) with hbit | hbit <;>
    constructor <;> rw [Bool.eq_iff_iff] <;> simp [hbit] <;> omega

/-- Shifting any number of digits out. -/
theorem iterate_shiftRightOne (n k : ℕ) :
    k.repeat ExtendedMantissa.shiftRightOne ⟨n, false, false⟩ = shifted n k := by
  induction k with
  | zero => simp [Nat.repeat, shifted, Nat.mod_one]
  | succ k ih => rw [Nat.repeat, ih, shiftRightOne_shifted]

/-- What is kept of the dropped digits decides how the quotient is rounded. -/
theorem roundedMantissa_shifted (n k : ℕ) :
    (shifted n k).roundedMantissa = quotient n (2 ^ k) := by
  have hpos := Nat.two_pow_pos k
  unfold ExtendedMantissa.roundedMantissa shifted quotient
  generalize 2 ^ k = d at hpos ⊢
  rcases lt_trichotomy (2 * (n % d)) d with hlow | htie | hhigh
  · rw [if_pos hlow, decide_eq_false (by omega)]
    by_cases hexact : 2 * (n % d) = 0
    · rw [decide_eq_false (by omega)]
      rfl
    · rw [decide_eq_true (by omega)]
      rfl
  · rw [if_neg (by omega), if_pos htie, decide_eq_true (by omega), decide_eq_false (by omega)]
    rfl
  · rw [if_neg (by omega), if_neg (by omega), decide_eq_true (by omega), decide_eq_true (by omega)]
    rfl

/-- Shifting to an exponent drops a digit for every step that the exponent goes up. -/
theorem shiftToExponent_exact (m : ℕ) (e t : ℤ) :
    shiftToExponent m e .exact t = (shifted m (t - e).toNat, max e t) := by
  rw [shiftToExponent]
  exact Prod.ext (iterate_shiftRightOne m _) (by show e + ((t - e).toNat : ℤ) = _; omega)

/-! ## Counting in smallest doubles -/

/-- The number `m * 2 ^ e`, counted in smallest doubles. -/
def magnitude (m : ℕ) (e : ℤ) : ℕ := m * 2 ^ (e + 1074).toNat

theorem magnitude_le {m n : ℕ} {e k : ℤ} (hm : m ≤ n) (he : e ≤ k) :
    magnitude m e ≤ magnitude n k :=
  Nat.mul_le_mul hm (Nat.pow_le_pow_right (by decide) (by omega))

/-- A finite value is written with 53 binary digits, or with as many as the smallest double
allows. -/
def Canonical : UnpackedFloat → Prop
  | .finite _ m e _ => m < 2 ^ 53 ∧ -1074 ≤ e ∧ (e = -1074 ∨ 2 ^ 52 ≤ m)
  | _ => True

/-- The count at which the infinities begin: the first one whose exponent is out of range. -/
@[irreducible]
def limit : ℤ := magnitude (2 ^ 52) 972

/-- A value counted in smallest doubles.  An infinity stands at the limit, and what is not a number
counts for nothing. -/
def units : UnpackedFloat → ℤ
  | .infinity s => s.apply limit
  | .notANumber => 0
  | .zero _ => 0
  | .finite s m e _ => s.apply (magnitude m e)

theorem units_infinity (s : Sign) : units (.infinity s) = s.apply limit := rfl

theorem units_zero (s : Sign) : units (.zero s) = 0 := rfl

theorem units_finite (s : Sign) {m : ℕ} {e : ℤ} (hm : 0 < m) :
    units (.finite s m e hm) = s.apply (magnitude m e) := rfl

/-- A value is the rounding of an exact result. -/
structure Rounds (x : UnpackedFloat) (exact : ℤ) : Prop where
  isFinite : x.isFinite = true
  canonical : Canonical x
  units_eq : units x = round exact

theorem log2_mul_two_pow {m : ℕ} (hm : 0 < m) (k : ℕ) : (m * 2 ^ k).log2 = m.log2 + k := by
  have hpos : 0 < m * 2 ^ k := Nat.mul_pos hm (Nat.two_pow_pos k)
  rw [Nat.log2_eq_iff hpos.ne', Nat.pow_add, Nat.add_right_comm, Nat.pow_add]
  exact ⟨Nat.mul_le_mul_right _ (Nat.log2_self_le hm.ne'),
    Nat.mul_lt_mul_of_pos_right Nat.lt_log2_self (Nat.two_pow_pos k)⟩

/-- The exponent that the format asks for leaves as many digits out as are too many. -/
theorem targetExponent_eq {m : ℕ} {e : ℤ} (hm : 0 < m) (he : -1074 ≤ e) :
    Format.binary64.targetExponent (totalExponent m e) = excess (magnitude m e) - 1074 := by
  rw [magnitude, excess, log2_mul_two_pow hm]
  show max ((m.log2 : ℤ) + 1 + e - 53) (-1074) = _
  omega

/-- The first shift goes to the exponent that the format asks for. -/
theorem shiftToTargetExponent_exact {m : ℕ} {e : ℤ} (hm : 0 < m) (he : -1074 ≤ e) :
    shiftToTargetExponent Format.binary64 m e .exact =
      (shifted m (excess (magnitude m e) - 1074 - e).toNat,
        max e (excess (magnitude m e) - 1074)) := by
  rw [shiftToTargetExponent, targetExponent_eq hm he, shiftToExponent_exact]

/-! ## Rounding -/

/-- A mantissa of 53 digits is written as it is; of those with more, rounding makes only the power
of two, which is shifted once. -/
theorem shift_of_le {q : ℕ} {t : ℤ} (hpos : 0 < q) (hq : q ≤ 2 ^ 53) (ht : -1074 ≤ t) :
    shiftToTargetExponent Format.binary64 q t .exact =
      if q = 2 ^ 53 then (shifted q 1, t + 1) else (shifted q 0, t) := by
  have hlog : excess (magnitude q t) = q.log2 + (t + 1074).toNat - 52 := by
    rw [magnitude, excess, log2_mul_two_pow hpos]
  rw [shiftToTargetExponent_exact hpos ht, hlog]
  split_ifs with hcarry
  · rw [hcarry, Nat.log2_two_pow]
    exact Prod.ext (congrArg (shifted (2 ^ 53)) (by omega)) (by simp; omega)
  · have hdigits : q.log2 < 53 := (Nat.log2_lt hpos.ne').2 (lt_of_le_of_ne hq hcarry)
    exact Prod.ext (congrArg (shifted q) (by omega)) (by simp; omega)

theorem round_apply (s : Sign) (n : ℕ) : round (s.apply n) = s.apply (roundNat n) := by
  cases s with
  | positive => exact round_natCast n
  | negative => exact (round_neg n).trans (congrArg _ (round_natCast n))

/-- Whatever the mantissa is written as, its value is the rounded count. -/
theorem rounds_of_shift (s : Sign) {n : ℕ} (hn : 0 < n) :
    let final := shiftToTargetExponent Format.binary64 (quotient n (2 ^ excess n))
      (excess n - 1074) .exact
    Rounds (if h : final.1.mantissa = 0 then .zero s
      else .finite s final.1.mantissa final.2 (Nat.pos_of_ne_zero h)) (s.apply n) := by
  intro final
  have hround : magnitude (quotient n (2 ^ excess n)) (excess n - 1074) = roundNat n := by
    rw [magnitude, roundNat, show ((excess n : ℤ) - 1074 + 1074).toNat = excess n by omega]
  have hfull : excess n = 0 ∧ 0 < quotient n (2 ^ excess n) ∨
      2 ^ 52 ≤ quotient n (2 ^ excess n) := by
    rcases eq_or_ne (excess n) 0 with hzero | hexcess
    · exact .inl ⟨hzero, by rwa [hzero, pow_zero, quotient_one]⟩
    · exact .inr (le_quotient_excess hexcess)
  have hle := quotient_excess_le n
  have hfinal : final = _ := shift_of_le (by omega) hle (by omega)
  clear_value final
  generalize quotient n (2 ^ excess n) = q at *
  by_cases hcarry : q = 2 ^ 53
  · rw [if_pos hcarry, hcarry] at hfinal
    subst hfinal hcarry
    have hmantissa : (shifted (2 ^ 53) 1).mantissa = 2 ^ 52 := rfl
    rw [dif_neg (by rw [hmantissa]; decide)]
    refine ⟨rfl, ⟨by rw [hmantissa]; decide, by omega, .inr le_rfl⟩, ?_⟩
    rw [round_apply, units_finite, ← hround, magnitude, magnitude, hmantissa, ← pow_add, ← pow_add]
    congr 3
    omega
  · rw [if_neg hcarry] at hfinal
    subst hfinal
    have hmantissa : (shifted q 0).mantissa = q := Nat.div_one q
    rw [dif_neg (by rw [hmantissa]; omega)]
    refine ⟨rfl, ⟨by rw [hmantissa]; omega, by omega, by rw [hmantissa]; omega⟩, ?_⟩
    rw [round_apply, units_finite, hmantissa, hround]

theorem rounds_roundWithAccuracy (s : Sign) {m : ℕ} {e : ℤ} (hm : 0 < m) (he : -1074 ≤ e)
    (hle : e ≤ excess (magnitude m e) - 1074) :
    Rounds (roundWithAccuracy Format.binary64 s m e .exact) (s.apply (magnitude m e)) := by
  -- the first shift rounds the count: a common factor of it and its unit is left out
  have hquotient : quotient m (2 ^ (excess (magnitude m e) - 1074 - e).toNat) =
      quotient (magnitude m e) (2 ^ excess (magnitude m e)) := by
    have hsplit : excess (magnitude m e) =
        (excess (magnitude m e) - 1074 - e).toNat + (e + 1074).toNat := by omega
    rw [hsplit, pow_add, ← hsplit]
    exact (quotient_mul_right (by positivity) m _).symm
  rw [roundWithAccuracy, shiftToTargetExponent_exact hm he, max_eq_right hle]
  dsimp only
  rw [roundedMantissa_shifted, hquotient]
  exact rounds_of_shift s (Nat.mul_pos hm (Nat.two_pow_pos _))

/-- Rounding rounds the count. -/
theorem rounds_round (s : Sign) {m : ℕ} {e : ℤ} (hm : 0 < m) (he : -1074 ≤ e) :
    Rounds (UnpackedFloat.round Format.binary64 s m e) (s.apply (magnitude m e)) := by
  rw [UnpackedFloat.round, targetExponent_eq hm he, decreaseExponent]
  generalize ht : (excess (magnitude m e) : ℤ) - 1074 = t
  have hsame : magnitude (m <<< (e - t).toNat) (e - (e - t).toNat) = magnitude m e := by
    rw [magnitude, magnitude, Nat.shiftLeft_eq, mul_assoc, ← pow_add]
    congr 2
    omega
  have hrounds := rounds_roundWithAccuracy s (m := m <<< (e - t).toNat) (e := e - (e - t).toNat)
    (by rw [Nat.shiftLeft_eq]; positivity) (by omega) (by rw [hsame]; omega)
  rwa [hsame] at hrounds

/-- Rounding a signed mantissa rounds the count. -/
theorem rounds_normalize {e : ℤ} (he : -1074 ≤ e) (n : ℤ) (zeroSign : Sign) :
    Rounds (normalize Format.binary64 n e zeroSign) (n * 2 ^ (e + 1074).toNat) := by
  rw [UnpackedFloat.normalize]
  rcases lt_trichotomy n 0 with hneg | rfl | hpos
  · rw [Int.compare_eq_lt.2 hneg]
    have hcount : Sign.negative.apply (magnitude (-n).toNat e) = n * 2 ^ (e + 1074).toNat := by
      rw [magnitude, Nat.cast_mul, Int.toNat_of_nonneg (by omega)]
      push_cast
      exact (Int.neg_mul _ _).symm.trans (by rw [neg_neg])
    exact hcount ▸ rounds_round .negative (by omega) he
  · rw [zero_mul]
    exact ⟨rfl, trivial, rfl⟩
  · rw [Int.compare_eq_gt.2 hpos]
    have hcount : Sign.positive.apply (magnitude n.toNat e) = n * 2 ^ (e + 1074).toNat := by
      rw [magnitude, Nat.cast_mul, Int.toNat_of_nonneg hpos.le]
      push_cast
      rfl
    exact hcount ▸ rounds_round .positive (by omega) he

/-! ## Adding -/

variable {x y : UnpackedFloat}

theorem short_units (hfinite : x.isFinite = true) (h : Canonical x) : Short (units x) := by
  have hnat : ∀ {m : ℕ} {e : ℤ}, m < 2 ^ 53 → Short (magnitude m e) := fun {m e} hm ↦
    ⟨m, (e + 1074).toNat, by rw [Nat.abs_cast]; exact_mod_cast hm.le, by simp [magnitude]⟩
  cases x with
  | infinity s => cases hfinite
  | notANumber => cases hfinite
  | zero s => exact short_of_abs_le (by simp [units_zero])
  | finite s m e hm =>
    cases s with
    | positive => exact hnat h.1
    | negative => exact (hnat h.1).neg

/-- A finite value that is canonical is its own rounding. -/
theorem rounds_units (hfinite : x.isFinite = true) (h : Canonical x) : Rounds x (units x) :=
  ⟨hfinite, h, (round_of_short (short_units hfinite h)).symm⟩

/-- Lowering an exponent does not change the count. -/
theorem apply_shiftLeft (s : Sign) (m : ℕ) {e t : ℤ} (ht : -1074 ≤ t) (hle : t ≤ e) :
    s.apply (m <<< (e - t).toNat : ℕ) * 2 ^ (t + 1074).toNat = s.apply (magnitude m e) := by
  have hcount : (m <<< (e - t).toNat : ℕ) * 2 ^ (t + 1074).toNat = magnitude m e := by
    rw [magnitude, Nat.shiftLeft_eq, mul_assoc, ← pow_add]
    congr 2
    omega
  cases s with
  | positive =>
    rw [← hcount]
    push_cast
    rfl
  | negative =>
    rw [← hcount]
    push_cast
    exact Int.neg_mul _ _

/-- Finite values are added at the smaller one of their exponents. -/
theorem add_finite (s t : Sign) {m n : ℕ} {e k : ℤ} (hm : 0 < m) (hn : 0 < n) :
    UnpackedFloat.add Format.binary64 (.finite s m e hm) (.finite t n k hn) =
      normalize Format.binary64 (s.apply (m <<< (e - min e k).toNat : ℕ) +
        t.apply (n <<< (k - min e k).toNat : ℕ)) (min e k) .positive := rfl

/-- Adding finite values adds their counts and rounds. -/
theorem rounds_add (hxf : x.isFinite = true) (hx : Canonical x) (hyf : y.isFinite = true)
    (hy : Canonical y) : Rounds (UnpackedFloat.add Format.binary64 x y) (units x + units y) := by
  cases x with
  | infinity s => cases hxf
  | notANumber => cases hxf
  | zero s =>
    rw [units_zero, zero_add]
    cases y with
    | infinity t => cases hyf
    | notANumber => cases hyf
    | zero t => cases s <;> cases t <;> exact ⟨rfl, trivial, rfl⟩
    | finite t n k hn => exact rounds_units rfl hy
  | finite s m e hm =>
    cases y with
    | infinity t => cases hyf
    | notANumber => cases hyf
    | zero t =>
      rw [units_zero, add_zero]
      exact rounds_units rfl hx
    | finite t n k hn =>
      have hlow : -1074 ≤ min e k := le_min hx.2.1 hy.2.1
      have hrounds := rounds_normalize hlow
        (s.apply (m <<< (e - min e k).toNat : ℕ) + t.apply (n <<< (k - min e k).toNat : ℕ))
        .positive
      rwa [add_mul, apply_shiftLeft s m hlow (min_le_left e k),
        apply_shiftLeft t n hlow (min_le_right e k)] at hrounds

/-- Values add up to the same in either order. -/
theorem add_comm_unpacked (x y : UnpackedFloat) :
    UnpackedFloat.add Format.binary64 x y = UnpackedFloat.add Format.binary64 y x := by
  cases x <;> cases y
  case infinity.infinity s t => cases s <;> cases t <;> rfl
  case zero.zero s t => cases s <;> cases t <;> rfl
  case finite.finite => rw [add_finite, add_finite, min_comm, Int.add_comm]
  all_goals rfl

/-! ## Comparing -/

/-- With as many digits as the format has, the larger exponent makes the larger count. -/
theorem magnitude_lt {m n : ℕ} {e k : ℤ} (hm : m < 2 ^ 53) (he : -1074 ≤ e)
    (hn : k = -1074 ∨ 2 ^ 52 ≤ n) (hlt : e < k) : magnitude m e < magnitude n k := by
  have hsplit : (k + 1074).toNat = (k - e - 1).toNat + 1 + (e + 1074).toNat := by omega
  have hfull : 2 ^ 52 ≤ n := by omega
  calc m * 2 ^ (e + 1074).toNat
      < 2 ^ 53 * 2 ^ (e + 1074).toNat := Nat.mul_lt_mul_of_pos_right hm (Nat.two_pow_pos _)
    _ ≤ 2 ^ 53 * 2 ^ ((k - e - 1).toNat + (e + 1074).toNat) :=
        Nat.mul_le_mul_left _ (Nat.pow_le_pow_right (by decide) (by omega))
    _ = 2 ^ 52 * 2 ^ (k + 1074).toNat := by
        rw [hsplit, ← pow_add, ← pow_add]
        congr 1
        omega
    _ ≤ n * 2 ^ (k + 1074).toNat := Nat.mul_le_mul_right _ hfull

/-- Exponents are compared first, then mantissas: that is the order of the counts. -/
theorem compare_magnitude {m n : ℕ} {e k : ℤ} (hm : m < 2 ^ 53) (he : -1074 ≤ e)
    (hm' : e = -1074 ∨ 2 ^ 52 ≤ m) (hn : n < 2 ^ 53) (hk : -1074 ≤ k)
    (hn' : k = -1074 ∨ 2 ^ 52 ≤ n) :
    (compare e k).then (compare m n) = compare (magnitude m e : ℤ) (magnitude n k) := by
  rcases lt_trichotomy e k with hlt | rfl | hgt
  · rw [compare_lt_iff_lt.2 hlt, compare_lt_iff_lt.2 (Int.ofNat_lt.2 (magnitude_lt hm he hn' hlt))]
    rfl
  · have hpos := Nat.two_pow_pos (e + 1074).toNat
    rw [compare_eq_iff_eq.2 rfl, Ordering.eq_then, magnitude, magnitude]
    rcases lt_trichotomy m n with hlt | rfl | hgt
    · rw [compare_lt_iff_lt.2 hlt,
        compare_lt_iff_lt.2 (Int.ofNat_lt.2 (Nat.mul_lt_mul_of_pos_right hlt hpos))]
    · rw [compare_eq_iff_eq.2 rfl, compare_eq_iff_eq.2 rfl]
    · rw [compare_gt_iff_gt.2 hgt,
        compare_gt_iff_gt.2 (Int.ofNat_lt.2 (Nat.mul_lt_mul_of_pos_right hgt hpos))]
  · rw [compare_gt_iff_gt.2 hgt, compare_gt_iff_gt.2 (Int.ofNat_lt.2 (magnitude_lt hn hk hm' hgt))]
    rfl

end Welfare.Double
