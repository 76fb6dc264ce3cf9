import Mathlib.Algebra.Order.Round
import Mathlib.Tactic.Linarith
import Mathlib.Tactic.Positivity
import Mathlib.Tactic.Ring

/-!
# Rounding to 53 binary digits

Every finite double is a whole number of smallest doubles, and sums of doubles are rounded to the
nearest whole number that 53 binary digits, with zeros behind them, can write.  This file is about
that rounding, on whole numbers alone.

What later files use of it does not depend on how a tie is broken.  A short number is its own
nearest short number, so rounding keeps it; and rounding cannot turn the order of two numbers
round, because swapping the two results would bring one of them nearer.

* `Short` — the numbers that 53 binary digits can write.
* `round` — rounding, with ties to the even neighbour.
* `abs_sub_round_le` — no short number is nearer than the rounded one.
* `round_of_short`, `round_mono`, `abs_sub_round_mul_le` — what follows: rounding keeps what is
  short, keeps the order, and changes a number by at most one part in `2 ^ 53`.
-/

set_option autoImplicit false

namespace Welfare.Double

/-! ## Short numbers -/

/-- A whole number that 53 binary digits and zeros behind them can write. -/
def Short (n : ℤ) : Prop := ∃ (m : ℤ) (k : ℕ), |m| ≤ 2 ^ 53 ∧ n = m * 2 ^ k

theorem short_of_abs_le {n : ℤ} (h : |n| ≤ 2 ^ 53) : Short n := ⟨n, 0, h, by simp⟩

theorem Short.neg {n : ℤ} (h : Short n) : Short (-n) := by
  obtain ⟨m, k, hm, rfl⟩ := h
  exact ⟨-m, k, by rwa [abs_neg], by rw [Int.neg_mul]⟩

/-- A short number that is no multiple of `2 ^ k` is small. -/
theorem Short.abs_le_of_not_dvd {n : ℤ} (h : Short n) {k : ℕ} (hk : ¬ (2 : ℤ) ^ k ∣ n) :
    |n| ≤ 2 ^ (52 + k) := by
  obtain ⟨m, j, hm, rfl⟩ := h
  have hj : j + 1 ≤ k := by
    by_contra hle
    exact hk (Dvd.dvd.mul_left (pow_dvd_pow 2 (by omega)) m)
  calc |m * 2 ^ j| = |m| * 2 ^ j := by rw [abs_mul, abs_of_pos (by positivity : (0 : ℤ) < 2 ^ j)]
    _ ≤ 2 ^ 53 * 2 ^ j := Int.mul_le_mul_of_nonneg_right hm (by positivity)
    _ = 2 ^ (53 + j) := (pow_add 2 53 j).symm
    _ ≤ 2 ^ (52 + k) := pow_le_pow_right₀ (by norm_num) (by omega)

/-! ## Rounding a quotient -/

/-- The quotient of `n` by `d`, rounded to the nearest whole number; a tie goes to the even one. -/
def quotient (n d : ℕ) : ℕ :=
  if 2 * (n % d) < d then n / d
  else if 2 * (n % d) = d then n / d + n / d % 2
  else n / d + 1

theorem quotient_one (n : ℕ) : quotient n 1 = n := by simp [quotient, Nat.mod_one]

/-- Rounding a quotient goes down or up. -/
theorem quotient_cases (n d : ℕ) :
    quotient n d = n / d ∧ 2 * (n % d) ≤ d ∨ quotient n d = n / d + 1 ∧ d ≤ 2 * (n % d) := by
  unfold quotient
  split_ifs with hlow htie
  · exact .inl ⟨rfl, by omega⟩
  · rcases Nat.mod_two_eq_zero_or_one (n / d) with heven | hodd
    · exact .inl ⟨by omega, by omega⟩
    · exact .inr ⟨by omega, by omega⟩
  · exact .inr ⟨rfl, by omega⟩

/-- A common factor of both numbers does not change the quotient. -/
theorem quotient_mul_right {c : ℕ} (hc : 0 < c) (n d : ℕ) :
    quotient (n * c) (d * c) = quotient n d := by
  have hmod : 2 * (n * c % (d * c)) = 2 * (n % d) * c := by
    rw [Nat.mul_mod_mul_right, Nat.mul_assoc]
  unfold quotient
  rw [Nat.mul_div_mul_right n d hc, hmod]
  simp only [Nat.mul_lt_mul_right hc, Nat.mul_left_inj hc.ne']

/-- The rounded quotient is off by at most half of the divisor. -/
theorem two_mul_abs_sub_quotient_le {n d : ℕ} (hd : 0 < d) :
    2 * |(n : ℤ) - (quotient n d * d : ℕ)| ≤ d := by
  have hdiv := Nat.div_add_mod' n d
  have hlt := Nat.mod_lt n hd
  rcases quotient_cases n d with ⟨hq, hr⟩ | ⟨hq, hr⟩
  · rw [hq, abs_of_nonneg (by omega)]
    omega
  · rw [hq, Nat.succ_mul, abs_of_nonpos (by omega)]
    omega

/-! ## Rounding a number -/

/-- How many binary digits of `n` are too many. -/
def excess (n : ℕ) : ℕ := n.log2 - 52

/-- A natural number rounded to 53 binary digits. -/
def roundNat (n : ℕ) : ℕ := quotient n (2 ^ excess n) * 2 ^ excess n

/-- A whole number rounded to 53 binary digits. -/
def round (n : ℤ) : ℤ := n.sign * roundNat n.natAbs

theorem round_natCast (n : ℕ) : round n = roundNat n := by
  rcases Nat.eq_zero_or_pos n with rfl | hn
  · decide
  · rw [round, Int.sign_natCast_of_ne_zero hn.ne', Int.natAbs_natCast, one_mul]

theorem round_neg (n : ℤ) : round (-n) = -round n := by
  rw [round, round, Int.sign_neg, Int.natAbs_neg, Int.neg_mul]

theorem lt_two_pow_excess (n : ℕ) : n < 2 ^ 53 * 2 ^ excess n := by
  rw [← pow_add]
  exact Nat.lt_log2_self.trans_le (Nat.pow_le_pow_right (by decide) (by rw [excess]; omega))

/-- A number with digits too many is large. -/
theorem two_pow_excess_le {n : ℕ} (h : excess n ≠ 0) : 2 ^ 52 * 2 ^ excess n ≤ n := by
  have hn : n ≠ 0 := by rintro rfl; exact h rfl
  rw [← pow_add, ← Nat.le_log2 hn]
  rw [excess] at h ⊢
  omega

theorem quotient_excess_le (n : ℕ) : quotient n (2 ^ excess n) ≤ 2 ^ 53 := by
  have hdiv : n / 2 ^ excess n < 2 ^ 53 :=
    (Nat.div_lt_iff_lt_mul (by positivity)).2 (lt_two_pow_excess n)
  rcases quotient_cases n (2 ^ excess n) with ⟨hq, _⟩ | ⟨hq, _⟩ <;> omega

/-- Either no digit is dropped, or 53 of them are kept. -/
theorem le_quotient_excess {n : ℕ} (h : excess n ≠ 0) : 2 ^ 52 ≤ quotient n (2 ^ excess n) := by
  have hdiv : 2 ^ 52 ≤ n / 2 ^ excess n :=
    (Nat.le_div_iff_mul_le (by positivity)).2 (two_pow_excess_le h)
  rcases quotient_cases n (2 ^ excess n) with ⟨hq, _⟩ | ⟨hq, _⟩ <;> omega

theorem short_roundNat (n : ℕ) : Short (roundNat n) := by
  refine ⟨quotient n (2 ^ excess n), excess n, ?_, by rw [roundNat]; push_cast; rfl⟩
  rw [abs_of_nonneg (Int.natCast_nonneg _)]
  exact_mod_cast quotient_excess_le n

/-- The rounded number is a nearest one among the multiples of the unit it is rounded to. -/
theorem abs_sub_roundNat_le_of_dvd {n : ℕ} {z : ℤ} (h : (2 : ℤ) ^ excess n ∣ z) :
    |(n : ℤ) - roundNat n| ≤ |n - z| := by
  have herror := two_mul_abs_sub_quotient_le (n := n) (d := 2 ^ excess n) (by positivity)
  have hunit : (2 : ℤ) ^ excess n ∣ (roundNat n : ℤ) - z := by
    refine Int.dvd_sub ⟨quotient n (2 ^ excess n), ?_⟩ h
    rw [roundNat, mul_comm]
    push_cast
    rfl
  rw [show quotient n (2 ^ excess n) * 2 ^ excess n = roundNat n from rfl] at herror
  push_cast at herror
  -- either both are the same multiple, or they are a whole unit apart
  rcases eq_or_ne ((roundNat n : ℤ) - z) 0 with hsame | hapart
  · rw [sub_eq_zero.1 hsame]
  · have hdist := Int.le_of_dvd (abs_pos.2 hapart) ((dvd_abs _ _).2 hunit)
    have htriangle := abs_sub_abs_le_abs_sub ((roundNat n : ℤ) - z) (roundNat n - n)
    rw [sub_sub_sub_cancel_left, abs_sub_comm (roundNat n : ℤ) n] at htriangle
    linarith

/-- No short number is nearer to a natural number than the rounded one. -/
theorem abs_sub_roundNat_le {n : ℕ} {z : ℤ} (h : Short z) : |(n : ℤ) - roundNat n| ≤ |n - z| := by
  by_cases hdvd : (2 : ℤ) ^ excess n ∣ z
  · exact abs_sub_roundNat_le_of_dvd hdvd
  · -- then `z` is no larger than the smallest number of as many digits as `n`
    have hexcess : excess n ≠ 0 := by
      intro hzero
      rw [hzero] at hdvd
      exact hdvd (one_dvd z)
    have hz : z ≤ 2 ^ (52 + excess n) := (le_abs_self z).trans (h.abs_le_of_not_dvd hdvd)
    have hn : (2 : ℤ) ^ (52 + excess n) ≤ n := by
      rw [pow_add]
      exact_mod_cast two_pow_excess_le hexcess
    calc |(n : ℤ) - roundNat n| ≤ |(n : ℤ) - 2 ^ (52 + excess n)| :=
          abs_sub_roundNat_le_of_dvd (pow_dvd_pow 2 (Nat.le_add_left _ _))
      _ = (n : ℤ) - 2 ^ (52 + excess n) := abs_of_nonneg (by linarith)
      _ ≤ n - z := by linarith
      _ ≤ |n - z| := le_abs_self _

/-! ## Rounding whole numbers -/

theorem short_round (n : ℤ) : Short (round n) := by
  rcases Int.eq_nat_or_neg n with ⟨k, rfl | rfl⟩
  · exact round_natCast k ▸ short_roundNat k
  · rw [round_neg, round_natCast]
    exact (short_roundNat k).neg

/-- No short number is nearer than the rounded one. -/
theorem abs_sub_round_le (n : ℤ) {z : ℤ} (h : Short z) : |n - round n| ≤ |n - z| := by
  rcases Int.eq_nat_or_neg n with ⟨k, rfl | rfl⟩
  · exact round_natCast k ▸ abs_sub_roundNat_le h
  · have hk := abs_sub_roundNat_le (n := k) h.neg
    rw [round_neg, round_natCast, abs_sub_comm, abs_sub_comm (-(k : ℤ)) z]
    calc |-(roundNat k : ℤ) - -k| = |(k : ℤ) - roundNat k| := by ring_nf
      _ ≤ |k - -z| := hk
      _ = |z - -k| := by ring_nf

theorem round_of_short {n : ℤ} (h : Short n) : round n = n := by
  have hdist := abs_sub_round_le n h
  rw [sub_self, abs_zero, abs_nonpos_iff] at hdist
  omega

@[simp] theorem round_zero : round 0 = 0 := rfl

theorem round_ne_zero {n : ℤ} (h : n ≠ 0) : round n ≠ 0 := by
  intro hzero
  have hone : |n| ≤ |n - n.sign| := by
    have hdist := abs_sub_round_le n (z := n.sign) (short_of_abs_le ?_)
    · rwa [hzero, sub_zero] at hdist
    · rcases Int.sign_trichotomy n with hs | hs | hs <;> rw [hs] <;> norm_num
  rcases lt_or_gt_of_ne h with hneg | hpos
  · rw [Int.sign_eq_neg_one_of_neg hneg] at hone
    rw [abs_of_neg hneg, abs_of_nonpos (by omega)] at hone
    omega
  · rw [Int.sign_eq_one_of_pos hpos] at hone
    rw [abs_of_pos hpos, abs_of_nonneg (by omega)] at hone
    omega

/-- Rounding keeps the order: if it did not, swapping the results would bring one nearer. -/
theorem round_mono {n k : ℤ} (h : n ≤ k) : round n ≤ round k := by
  rcases h.eq_or_lt with rfl | hlt
  · exact le_rfl
  · by_contra hturned
    have hn := abs_sub_round_le n (short_round k)
    have hk := abs_sub_round_le k (short_round n)
    rcases abs_cases (n - round n) with ⟨h₁, _⟩ | ⟨h₁, _⟩ <;>
      rcases abs_cases (n - round k) with ⟨h₂, _⟩ | ⟨h₂, _⟩ <;>
      rcases abs_cases (k - round k) with ⟨h₃, _⟩ | ⟨h₃, _⟩ <;>
      rcases abs_cases (k - round n) with ⟨h₄, _⟩ | ⟨h₄, _⟩ <;> omega

/-- Rounding up to 53 digits changes a number by at most one part in `2 ^ 53`. -/
theorem abs_sub_round_mul_le (n : ℤ) : |n - round n| * 2 ^ 53 ≤ |n| := by
  have hnat : ∀ k : ℕ, |(k : ℤ) - roundNat k| * 2 ^ 53 ≤ k := by
    intro k
    rcases eq_or_ne (excess k) 0 with hzero | hexcess
    · rw [roundNat, hzero, pow_zero, quotient_one, mul_one, sub_self, abs_zero, zero_mul]
      exact Int.natCast_nonneg k
    · have herror := two_mul_abs_sub_quotient_le (n := k) (d := 2 ^ excess k) (by positivity)
      rw [show quotient k (2 ^ excess k) * 2 ^ excess k = roundNat k from rfl] at herror
      have hlarge : (2 : ℤ) ^ 52 * 2 ^ excess k ≤ k := by exact_mod_cast two_pow_excess_le hexcess
      push_cast at herror
      linarith
  rcases Int.eq_nat_or_neg n with ⟨k, rfl | rfl⟩
  · rw [round_natCast, Nat.abs_cast]
    exact hnat k
  · rw [round_neg, round_natCast, abs_neg, Nat.abs_cast, neg_sub_neg, abs_sub_comm]
    exact hnat k

end Welfare.Double
