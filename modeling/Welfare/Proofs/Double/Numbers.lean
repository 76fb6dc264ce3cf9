import Welfare.Proofs.Double.Addition

/-!
# The doubles of numbers in a document

Numbers are compared by their doubles.  Those are finite, so they compare as their counts do, and
the counts are whole numbers, in the usual order.

The count of an integer is the integer, rounded to 53 binary digits, in smallest doubles.  Rounding
does not reverse an order, but it can make two integers one.  It does so only where both are large,
and only if they are close to each other.

* `lt_iff_of_isFinite`, `le_iff_of_isFinite`, `beq_iff_of_isFinite` — comparing finite doubles.
* `round_mul_two_pow` — rounding does not depend on the unit.
* `eq_of_round_eq_of_abs_lt`, `abs_sub_le_of_round_eq` — what rounding cannot make one.
* `Json.Number.units`, `Json.Number.units_int` — the count of a number, and that of an integer.
-/

set_option autoImplicit false

namespace Welfare

namespace Double

open Float.Model Float.Model.UnpackedFloat

/-! ## Comparing finite doubles -/

section Comparing

variable {x y : Float}

theorem compare_value (hx : x.isFinite = true) (hy : y.isFinite = true) :
    (value x).compare (value y) = some (compare (count x) (count y)) :=
  compare_of_isFinite hx hy (stored_value x).canonical (stored_value y).canonical

theorem lt_iff_of_isFinite (hx : x.isFinite = true) (hy : y.isFinite = true) :
    x < y ↔ count x < count y := by
  have hlt : x < y ↔ (value x).lt (value y) = true := by
    show Float.lt x y = true ↔ _
    exact decide_eq_true_iff
  rw [hlt, UnpackedFloat.lt, compare_value hx hy, beq_iff_eq, Option.some_inj, compare_lt_iff_lt]

theorem le_iff_of_isFinite (hx : x.isFinite = true) (hy : y.isFinite = true) :
    x ≤ y ↔ count x ≤ count y := by
  rw [le_iff, and_iff_right (isNaN_of_isFinite hx), and_iff_right (isNaN_of_isFinite hy)]

theorem beq_iff_of_isFinite (hx : x.isFinite = true) (hy : y.isFinite = true) :
    (x == y) = true ↔ count x = count y := by
  show ((value x).compare (value y) == some .eq) = true ↔ _
  rw [compare_value hx hy, beq_iff_eq, Option.some_inj, compare_eq_iff_eq]

end Comparing

/-! ## What rounding makes one -/

section Rounding

variable {a b : ℤ}

theorem Short.mul_two_pow (h : Short a) (k : ℕ) : Short (a * 2 ^ k) := by
  obtain ⟨m, j, hm, rfl⟩ := h
  exact ⟨m, j + k, hm, by rw [pow_add, mul_assoc]⟩

theorem short_of_excess_eq_zero {n : ℕ} (h : excess n = 0) : Short (n : ℤ) := by
  have hlt := lt_two_pow_excess n
  rw [h, pow_zero, mul_one] at hlt
  exact short_of_abs_le (by rw [Nat.abs_cast]; exact_mod_cast hlt.le)

/-- A natural number in a smaller unit is rounded alike: the digits that are too many are the same,
and the zeros of the unit are behind them. -/
theorem roundNat_mul_two_pow (n k : ℕ) : roundNat (n * 2 ^ k) = roundNat n * 2 ^ k := by
  rcases eq_or_ne (excess n) 0 with hzero | hexcess
  · have hshort := short_of_excess_eq_zero hzero
    have hn : (roundNat n : ℤ) = n := by rw [← round_natCast, round_of_short hshort]
    have hunit : (roundNat (n * 2 ^ k) : ℤ) = (n * 2 ^ k : ℕ) := by
      rw [← round_natCast, round_of_short (by push_cast; exact hshort.mul_two_pow k)]
    rw [Int.natCast_inj.1 hunit, Int.natCast_inj.1 hn]
  · have hpos : 0 < n := Nat.pos_of_ne_zero (by rintro rfl; exact hexcess rfl)
    have hmore : excess (n * 2 ^ k) = excess n + k := by
      rw [excess] at hexcess
      rw [excess, excess, log2_mul_two_pow hpos]
      omega
    rw [roundNat, roundNat, hmore, pow_add, quotient_mul_right (Nat.two_pow_pos k), mul_assoc]

/-- A whole number in a smaller unit is rounded alike. -/
theorem round_mul_two_pow (a : ℤ) (k : ℕ) : round (a * 2 ^ k) = round a * 2 ^ k := by
  have hnat : ∀ n : ℕ, round ((n : ℤ) * 2 ^ k) = round n * 2 ^ k := by
    intro n
    have hcast : (n : ℤ) * 2 ^ k = (n * 2 ^ k : ℕ) := by push_cast; rfl
    rw [hcast, round_natCast, round_natCast, roundNat_mul_two_pow]
    push_cast
    rfl
  rcases Int.eq_nat_or_neg a with ⟨n, rfl | rfl⟩
  · exact hnat n
  · rw [Int.neg_mul, round_neg, round_neg, hnat, Int.neg_mul]

/-- A number with fewer than 54 digits stays apart from all others: it is its own rounding, and
what is larger is not rounded to less than `2 ^ 53`. -/
theorem eq_of_round_eq_of_abs_lt (ha : |a| < 2 ^ 53) (h : round a = round b) : a = b := by
  have hbound : ∀ n : ℤ, |n| ≤ 2 ^ 53 → round n = n :=
    fun n hn ↦ round_of_short (short_of_abs_le hn)
  rw [hbound a ha.le] at h
  rw [abs_lt] at ha
  rcases le_or_gt |b| (2 ^ 53) with hb | hb
  · rw [h, hbound b hb]
  · rcases lt_abs.1 hb with hpos | hneg
    · have hmono := round_mono hpos.le
      rw [hbound (2 ^ 53) (by norm_num)] at hmono
      omega
    · have hmono := round_mono (n := b) (k := -2 ^ 53) (by omega)
      rw [hbound (-2 ^ 53) (by norm_num)] at hmono
      omega

theorem abs_sub_round_le_of_lt (ha : |a| < 2 ^ 64) : 2 * |a - round a| ≤ 2 ^ 11 := by
  have hnat : ∀ n : ℕ, n < 2 ^ 64 → 2 * |(n : ℤ) - roundNat n| ≤ 2 ^ 11 := by
    intro n hn
    have hexcess : excess n ≤ 11 := by
      rcases Nat.eq_zero_or_pos n with rfl | hpos
      · decide
      · have hlog := (Nat.log2_lt hpos.ne').2 hn
        rw [excess]
        omega
    calc 2 * |(n : ℤ) - roundNat n| ≤ (2 ^ excess n : ℕ) :=
          two_mul_abs_sub_quotient_le (Nat.two_pow_pos _)
      _ ≤ 2 ^ 11 := by exact_mod_cast Nat.pow_le_pow_right (by decide) hexcess
  rcases Int.eq_nat_or_neg a with ⟨n, rfl | rfl⟩
  · rw [Nat.abs_cast] at ha
    rw [round_natCast]
    exact hnat n (by exact_mod_cast ha)
  · rw [abs_neg, Nat.abs_cast] at ha
    rw [round_neg, round_natCast, neg_sub_neg, abs_sub_comm]
    exact hnat n (by exact_mod_cast ha)

/-- Of numbers with at most 64 digits, rounding makes one only what is at most 2048 apart: each is
at most half of that from its rounding. -/
theorem abs_sub_le_of_round_eq (ha : |a| < 2 ^ 64) (hb : |b| < 2 ^ 64) (h : round a = round b) :
    |a - b| ≤ 2 ^ 11 := by
  have hda := abs_sub_round_le_of_lt ha
  have hdb := abs_sub_round_le_of_lt hb
  have htriangle := abs_sub_le a (round a) b
  rw [h, abs_sub_comm (round b) b, ← h] at htriangle
  rw [← h] at hdb
  omega

end Rounding

/-! ## Doubles of integers -/

section Integers

variable {x : Float}

theorem units_neg (u : UnpackedFloat) : units u.neg = -units u := by
  cases u with
  | notANumber => rfl
  | zero s => rfl
  | infinity s =>
    cases s with
    | negative => exact (neg_neg limit).symm
    | positive => rfl
  | finite s m e hm =>
    cases s with
    | negative => exact (neg_neg (magnitude m e : ℤ)).symm
    | positive => rfl

theorem stored_neg {u : UnpackedFloat} (h : Stored u) : Stored u.neg := by
  cases u with
  | finite s m e hm => exact h
  | _ => trivial

theorem count_neg (x : Float) : count (-x) = -count x := by
  have hstored := stored_neg (stored_value x)
  have hvalue : value (-x) = (value x).neg := by
    rw [← settled_of_stored hstored, ← unpack_pack hstored.canonical]
    exact congrArg (UnpackedFloat.unpack Format.binary64) (UInt64.toBitVec_ofBitVec _)
  rw [count, hvalue, units_neg, count]

theorem clamp_eq_self_of_abs_lt {n : ℤ} (h : |clamp n| < limit) : clamp n = n := by
  rw [abs_lt] at h
  rw [clamp] at h ⊢
  omega

/-- The double of a word of 64 bits counts as the word rounded: it is too small to be cut off. -/
theorem count_toFloat (w : UInt64) : count w.toFloat = round w.toNat * 2 ^ 1074 := by
  have hrounds : Rounds (UnpackedFloat.ofNat Format.binary64 w.toNat) (w.toNat * 2 ^ 1074) :=
    rounds_normalize (by decide) w.toNat .positive
  have hvalue : value w.toFloat = settled (UnpackedFloat.ofNat Format.binary64 w.toNat) := by
    rw [← unpack_pack hrounds.canonical]
    exact congrArg (UnpackedFloat.unpack Format.binary64) (UInt64.toBitVec_ofBitVec _)
  have hcount : count w.toFloat = clamp (round w.toNat * 2 ^ 1074) := by
    rw [count, hvalue, units_settled hrounds.canonical hrounds.isFinite, hrounds.units_eq,
      round_mul_two_pow]
  have hfinite : w.toFloat.isFinite = true := isFinite_pack.2 (fits_ofNat w.toNat_lt)
  have hlt := abs_count_lt hfinite
  rw [hcount] at hlt ⊢
  exact clamp_eq_self_of_abs_lt hlt

end Integers

end Double

namespace Json.Number

variable {m n : Number}

/-- Where a number stands: the count of its double. -/
def units (n : Number) : ℤ := Double.count n.toFloat

/-- An integer stands where it is rounded to. -/
theorem units_int {a : ℤ} (ha : -0x8000000000000000 ≤ a ∧ a < 0x10000000000000000) :
    (int a ha).units = Double.round a * 2 ^ 1074 := by
  have hmagnitude : (UInt64.ofNat a.natAbs).toNat = a.natAbs :=
    UInt64.toNat_ofNat_of_lt' (by show a.natAbs < 2 ^ 64; omega)
  have hcount : Double.count (UInt64.ofNat a.natAbs).toFloat =
      Double.round a.natAbs * 2 ^ 1074 := by
    rw [Double.count_toFloat, hmagnitude]
  rw [units]
  show Double.count (if a < 0 then _ else _) = _
  split
  · next hneg =>
    have hsign : (a.natAbs : ℤ) = -a := Int.ofNat_natAbs_of_nonpos hneg.le
    rw [Double.count_neg, hcount, hsign, Double.round_neg, Int.neg_mul, neg_neg]
  · next hpos =>
    rw [hcount, Int.natAbs_of_nonneg (not_lt.1 hpos)]

theorem toFloat_lt_iff : m.toFloat < n.toFloat ↔ m.units < n.units :=
  Double.lt_iff_of_isFinite (Double.isFinite_toFloat m) (Double.isFinite_toFloat n)

theorem toFloat_le_iff : m.toFloat ≤ n.toFloat ↔ m.units ≤ n.units :=
  Double.le_iff_of_isFinite (Double.isFinite_toFloat m) (Double.isFinite_toFloat n)

theorem toFloat_beq_iff : (m.toFloat == n.toFloat) = true ↔ m.units = n.units :=
  Double.beq_iff_of_isFinite (Double.isFinite_toFloat m) (Double.isFinite_toFloat n)

end Json.Number

end Welfare
