import Welfare.Proofs.Operator.Reading

/-!
# Integers of 64 bits under the operators

Integers are compared by their doubles, so the operators compare integers that have been rounded to
53 binary digits.  Up to `2 ^ 53` that changes nothing.  Beyond it, neighbours are rounded to one
number: `2 ^ 53 + 1` equals `2 ^ 53`, and is not greater.

Since rounding does not reverse an order, that is all that can go wrong: two integers are compared
as integers unless they are different and rounded to the same.  This takes two integers of which
neither is below `2 ^ 53`, not both are doubles, and which are at most 2048 apart.

* `Json.Integer` — the integers of a document.
* `Json.Integer.ComparedAs` — the answers of the operators, as a comparison of whole numbers.
* `Json.Integer.Distinguished` — integers that rounding does not make one.
* `Operator.neighbours_are_confused` — two integers that are taken for one.
* `Operator.integers_are_compared_rounded` — what every comparison of integers says, and when it is
  exact.
-/

set_option autoImplicit false

namespace Welfare

open Double (round Short)

namespace Json

/-- An integer that a document can hold. -/
abbrev Integer := { n : ℤ // -0x8000000000000000 ≤ n ∧ n < 0x10000000000000000 }

namespace Integer

/-- The value of a document that is the integer. -/
def json (a : Integer) : Json := .num (.int a.1 a.2)

/-- The operators answer for `a` and `b` what the comparison of `x` and `y` says. -/
structure ComparedAs (a b : Integer) (x y : ℤ) : Prop where
  equals : Operator.equals.holds (some a.json) b.json = true ↔ x = y
  lessThan : Operator.lessThan.holds (some a.json) b.json = true ↔ x < y
  lessThanEqual : Operator.lessThanEqual.holds (some a.json) b.json = true ↔ x ≤ y
  greaterThan : Operator.greaterThan.holds (some a.json) b.json = true ↔ y < x

/-- Rounding does not make one integer of two. -/
def Distinguished (a b : Integer) : Prop := round a = round b → a = b

variable {a b : Integer}

/-! ## Comparing what is rounded -/

theorem units_eq_iff :
    (Number.int a.1 a.2).units = (Number.int b.1 b.2).units ↔ round a = round b := by
  rw [Number.units_int, Number.units_int, mul_left_inj' (by positivity)]

theorem units_lt_iff :
    (Number.int a.1 a.2).units < (Number.int b.1 b.2).units ↔ round a < round b := by
  rw [Number.units_int, Number.units_int, mul_lt_mul_iff_left₀ (by positivity)]

theorem units_le_iff :
    (Number.int a.1 a.2).units ≤ (Number.int b.1 b.2).units ↔ round a ≤ round b := by
  rw [← not_lt, units_lt_iff, not_lt]

theorem exactView_eq_iff : a.json.exactView = b.json.exactView ↔ round a = round b :=
  Sum.inl_injective.eq_iff.trans units_eq_iff

/-- Integers are compared as their roundings. -/
theorem comparedAs_round (a b : Integer) : a.ComparedAs b (round a) (round b) where
  equals := by rw [json, json, Operator.equals_num, decide_eq_true_iff, units_eq_iff]
  lessThan := by rw [json, json, Operator.lessThan_num, decide_eq_true_iff, units_lt_iff]
  lessThanEqual := by rw [json, json, Operator.lessThanEqual_num, decide_eq_true_iff, units_le_iff]
  greaterThan := by rw [json, json, Operator.greaterThan_num, decide_eq_true_iff, units_lt_iff]

/-! ## Exact comparisons -/

theorem Distinguished.round_eq_iff (h : a.Distinguished b) : round a = round b ↔ (a : ℤ) = b :=
  ⟨fun hround ↦ congrArg Subtype.val (h hround), congrArg round⟩

theorem Distinguished.round_lt_iff (h : a.Distinguished b) : round a < round b ↔ (a : ℤ) < b := by
  constructor
  · intro hlt
    by_contra hle
    exact absurd (Double.round_mono (not_lt.1 hle)) (not_le.2 hlt)
  · intro hlt
    exact lt_of_le_of_ne (Double.round_mono hlt.le) fun hround ↦ hlt.ne (h.round_eq_iff.1 hround)

theorem Distinguished.round_le_iff (h : a.Distinguished b) : round a ≤ round b ↔ (a : ℤ) ≤ b := by
  rw [le_iff_lt_or_eq, le_iff_lt_or_eq, h.round_lt_iff, h.round_eq_iff]

theorem Distinguished.symm (h : a.Distinguished b) : b.Distinguished a :=
  fun hround ↦ (h hround.symm).symm

/-- The comparison is one of the integers exactly when rounding distinguishes them. -/
theorem comparedAs_self_iff : a.ComparedAs b a b ↔ a.Distinguished b := by
  have hround := comparedAs_round a b
  constructor
  · exact fun h heq ↦ Subtype.ext (h.equals.1 (hround.equals.2 heq))
  · intro h
    exact ⟨hround.equals.trans h.round_eq_iff, hround.lessThan.trans h.round_lt_iff,
      hround.lessThanEqual.trans h.round_le_iff, hround.greaterThan.trans h.symm.round_lt_iff⟩

/-- Rounding distinguishes an integer of fewer than 54 digits from all others, doubles from each
other, and what is more than 2048 apart. -/
theorem distinguished_of_apart (h : |(a : ℤ)| < 2 ^ 53 ∨ |(b : ℤ)| < 2 ^ 53 ∨
    (Short a ∧ Short b) ∨ 2 ^ 11 < |(a : ℤ) - b|) : a.Distinguished b := by
  intro hround
  refine Subtype.ext ?_
  rcases h with ha | hb | ⟨ha, hb⟩ | hapart
  · exact Double.eq_of_round_eq_of_abs_lt ha hround
  · exact (Double.eq_of_round_eq_of_abs_lt hb hround.symm).symm
  · rwa [Double.round_of_short ha, Double.round_of_short hb] at hround
  · have hbound : ∀ c : Integer, |(c : ℤ)| < 2 ^ 64 := fun c ↦ abs_lt.2 ⟨by omega, by omega⟩
    exact absurd (Double.abs_sub_le_of_round_eq (hbound a) (hbound b) hround) (not_le.2 hapart)

end Integer

end Json

namespace Operator

open Json (Integer)

/-- **Neighbours are confused.**  `2 ^ 53 + 1` is neither equal to `2 ^ 53` nor below it, but the
operators hold that it is equal, not greater, among the candidates, and between bounds that are
both `2 ^ 53`. -/
theorem neighbours_are_confused :
    let a : Integer := ⟨9007199254740993, by decide⟩
    let b : Integer := ⟨9007199254740992, by decide⟩
    (¬ a.ComparedAs b a b) ∧
    (b < a ∧ equals.holds (some a.json) b.json = true ∧
      greaterThan.holds (some a.json) b.json = false ∧
      lessThan.holds (some b.json) a.json = false ∧
      lessThanEqual.holds (some a.json) b.json = true) ∧
    (a ∉ [b] ∧ oneOf.holds (some a.json) (.arr [b.json]) = true) ∧
    (¬ a ≤ b ∧ between.holds (some a.json) (.arr [b.json, b.json]) = true) := by
  intro a b
  have hequals : equals.holds (some a.json) b.json = true := by decide +kernel
  refine ⟨fun h ↦ absurd (h.equals.1 hequals) (by decide), ⟨by decide, hequals, by decide +kernel,
    by decide +kernel, by decide +kernel⟩, ⟨by decide, by decide +kernel⟩,
    ⟨by decide, by decide +kernel⟩⟩

/-- **Integers are compared rounded.**  Every operator that compares integers compares what is left
of them when they are rounded to 53 binary digits, `in` with one of its candidates, and `between`
with both of its bounds.  So no answer reverses the order of integers, and it is exact for those
that rounding does not make one: whenever one of them has fewer than 54 digits, both are doubles, or
they are more than 2048 apart. -/
theorem integers_are_compared_rounded :
    (∀ a b : Integer,
      a.ComparedAs b (round a) (round b) ∧
      (a.ComparedAs b a b ↔ a.Distinguished b) ∧
      (|(a : ℤ)| < 2 ^ 53 ∨ |(b : ℤ)| < 2 ^ 53 ∨ (Short a ∧ Short b) ∨ 2 ^ 11 < |(a : ℤ) - b| →
        a.Distinguished b) ∧
      (a ≤ b → lessThanEqual.holds (some a.json) b.json = true ∧
        greaterThan.holds (some a.json) b.json = false ∧
        lessThan.holds (some b.json) a.json = false)) ∧
    (∀ (a : Integer) (cs : List Integer),
      (oneOf.holds (some a.json) (.arr (cs.map Integer.json)) = true ↔
        ∃ c ∈ cs, round a = round c) ∧
      ((∀ c ∈ cs, a.Distinguished c) →
        (oneOf.holds (some a.json) (.arr (cs.map Integer.json)) = true ↔ a ∈ cs))) ∧
    ∀ a low high : Integer,
      (between.holds (some a.json) (.arr [low.json, high.json]) = true ↔
        round low ≤ round a ∧ round a ≤ round high) ∧
      (a.Distinguished low → a.Distinguished high →
        (between.holds (some a.json) (.arr [low.json, high.json]) = true ↔
          low ≤ a ∧ a ≤ high)) := by
  refine ⟨fun a b ↦ ⟨Integer.comparedAs_round a b, Integer.comparedAs_self_iff,
    Integer.distinguished_of_apart, fun hle ↦ ?_⟩, fun a cs ↦ ?_, fun a low high ↦ ?_⟩
  · have hround := Double.round_mono hle
    exact ⟨(Integer.comparedAs_round a b).lessThanEqual.2 hround,
      Bool.eq_false_iff.2 fun h ↦ hround.not_gt ((Integer.comparedAs_round a b).greaterThan.1 h),
      Bool.eq_false_iff.2 fun h ↦ hround.not_gt ((Integer.comparedAs_round b a).lessThan.1 h)⟩
  · have hrounded : oneOf.holds (some a.json) (.arr (cs.map Integer.json)) = true ↔
        ∃ c ∈ cs, round a = round c := by
      simp only [oneOf_iff, Option.some_inj, exists_eq_left', List.mem_map,
        exists_exists_and_eq_and, Integer.exactView_eq_iff]
    refine ⟨hrounded, fun h ↦ hrounded.trans ⟨?_, fun ha ↦ ⟨a, ha, rfl⟩⟩⟩
    rintro ⟨c, hc, hround⟩
    exact (h c hc hround) ▸ hc
  · have hrounded : between.holds (some a.json) (.arr [low.json, high.json]) = true ↔
        round low ≤ round a ∧ round a ≤ round high := by
      rw [Integer.json, Integer.json, Integer.json, between_num, Bool.and_eq_true,
        decide_eq_true_iff, decide_eq_true_iff, Integer.units_le_iff, Integer.units_le_iff]
    exact ⟨hrounded, fun hlow hhigh ↦
      hrounded.trans (and_congr hlow.symm.round_le_iff hhigh.round_le_iff)⟩

/-- `2 ^ 53 + 1` is no double, but it is compared exactly with what is 4096 more, and not found
among that and the largest integer of all. -/
theorem account_numbers_far_apart :
    let a : Integer := ⟨9007199254740993, by decide⟩
    let b : Integer := ⟨9007199254745089, by decide⟩
    let c : Integer := ⟨18446744073709551615, by decide⟩
    2 ^ 11 < |(a : ℤ) - b| ∧ a.ComparedAs b a b ∧
    oneOf.holds (some a.json) (.arr [b.json, c.json]) = false ∧
    between.holds (some b.json) (.arr [a.json, c.json]) = true ∧
    lessThanEqual.holds (some a.json) b.json = true := by
  intro a b c
  obtain ⟨hcompared, hfound, hbetween⟩ := integers_are_compared_rounded
  have hapart : 2 ^ 11 < |(a : ℤ) - b| := by decide
  have hab : a.Distinguished b := (hcompared a b).2.2.1 (.inr (.inr (.inr hapart)))
  have hac : a.Distinguished c := (hcompared a c).2.2.1 (.inr (.inr (.inr (by decide))))
  have hba : b.Distinguished a := (hcompared b a).2.2.1 (.inr (.inr (.inr (by decide))))
  have hbc : b.Distinguished c := (hcompared b c).2.2.1 (.inr (.inr (.inr (by decide))))
  refine ⟨hapart, (hcompared a b).2.1.2 hab, Bool.eq_false_iff.2 fun h ↦ ?_,
    ((hbetween b a c).2 hba hbc).2 ⟨by decide, by decide⟩, ((hcompared a b).2.2.2 (by decide)).1⟩
  exact absurd (((hfound a [b, c]).2 (by simp [hab, hac])).1 h) (by decide)

end Operator

end Welfare
