import Welfare.Operator
import Welfare.Proofs.Json.Equality

/-!
# What operators look at

An operator does not look at all of a value.  Of a number it sees where its double stands, of a
text, in the loose comparison, the lower case, and of any other value the contents; what orders
numbers sees nothing but numbers.  So each operator has a description in which the two kinds of
equality are equality of what is seen, and the orders are those of whole numbers.

* `Json.exactView`, `Json.looseView` — what the two kinds of equality see of a value.
* `Json.sameUnder`, `Operator.equalsUnder` — the loose comparison, and the operator that makes it,
  with any function in the place of the lower case.
* `Json.sameValue_iff`, `Json.sameUnder_iff` — what looks the same is the same.
* `Operator.equals_iff`, `Operator.oneOf_iff`, `Operator.lessThan_iff`,
  `Operator.lessThanEqual_iff`, `Operator.greaterThan_iff`, `Operator.between_iff` — when each
  operator holds.
-/

set_option autoImplicit false

namespace Welfare

/-! ## Equality -/

namespace Json

/-- What is seen of a value where numbers are compared by magnitude. -/
def exactView : Json → ℤ ⊕ Content
  | .num n => .inl n.units
  | v => .inr v.content

/-- What is seen of a value where only the lower case of a text is. -/
def looseView (lower : String → String) : Json → String ⊕ (ℤ ⊕ Content)
  | .str s => .inl (lower s)
  | v => .inr v.exactView

/-- Loose equality, however the lower case of a text is made. -/
def sameUnder (lower : String → String) (v w : Json) : Bool :=
  match v, w with
  | .str s, .str t => lower s == lower t
  | v, w => v.sameValue w

variable {lower : String → String} {v w : Json}

/-- Values are the same when they look the same. -/
theorem sameValue_iff : v.sameValue w = true ↔ v.exactView = w.exactView := by
  cases v with
  | num m =>
    cases w with
    | num n => exact Number.toFloat_beq_iff.trans Sum.inl_injective.eq_iff.symm
    | _ => exact iff_of_false Bool.false_ne_true Sum.inl_ne_inr
  | _ =>
    cases w with
    | num n => exact iff_of_false Bool.false_ne_true Sum.inr_ne_inl
    | _ => exact beq_iff.trans Sum.inr_injective.eq_iff.symm

/-- Values are loosely the same when they look the same apart from case. -/
theorem sameUnder_iff : v.sameUnder lower w = true ↔ v.looseView lower = w.looseView lower := by
  have hexact : v.sameValue w = true ↔
      (Sum.inr v.exactView : String ⊕ (ℤ ⊕ Content)) = .inr w.exactView :=
    sameValue_iff.trans Sum.inr_injective.eq_iff.symm
  cases v with
  | str s =>
    cases w with
    | str t => exact beq_iff_eq.trans Sum.inl_injective.eq_iff.symm
    | _ => exact iff_of_false Bool.false_ne_true Sum.inl_ne_inr
  | _ =>
    cases w with
    | str t => exact iff_of_false Bool.false_ne_true Sum.inr_ne_inl
    | _ => exact hexact

/-- What looks the same looks the same apart from case. -/
theorem looseView_eq_of_exactView_eq (h : v.exactView = w.exactView) :
    v.looseView lower = w.looseView lower := by
  cases v with
  | str s =>
    cases w with
    | str t =>
      obtain rfl : s = t := by simpa [exactView, content] using h
      rfl
    | num n => exact absurd h Sum.inr_ne_inl
    | _ => simp [exactView, content] at h
  | _ =>
    cases w with
    | str t => simp [exactView, content] at h
    | _ => exact congrArg Sum.inr h

end Json

/-! ## Operators -/

theorem Json.float?_eq_some_iff {v : Json} {x : Float} :
    v.float? = some x ↔ ∃ n, v = .num n ∧ n.toFloat = x := by
  cases v <;> simp [Json.float?]

namespace Operator

/-- The operator `equals`, however the lower case of a text is made. -/
def equalsUnder (lower : String → String) (actual : Option Json) (operand : Json) : Bool :=
  actual.any (·.sameUnder lower operand)

variable {lower : String → String} {actual : Option Json} {operand : Json}

theorem equalsUnder_toLower : equalsUnder Text.toLower = equals.holds := rfl

theorem equalsUnder_iff : equalsUnder lower actual operand = true ↔
    ∃ v, actual = some v ∧ v.looseView lower = operand.looseView lower := by
  rw [equalsUnder, Option.any_eq_true]
  simp only [Json.sameUnder_iff]

theorem equals_iff : equals.holds actual operand = true ↔
    ∃ v, actual = some v ∧ v.looseView Text.toLower = operand.looseView Text.toLower := by
  rw [← equalsUnder_toLower, equalsUnder_iff]

theorem oneOf_iff {candidates : List Json} : oneOf.holds actual (.arr candidates) = true ↔
    ∃ v, actual = some v ∧ ∃ c ∈ candidates, v.exactView = c.exactView := by
  cases actual with
  | none => exact iff_of_false Bool.false_ne_true (by simp)
  | some v =>
    show candidates.any v.sameValue = true ↔ _
    simp only [List.any_eq_true, Json.sameValue_iff, Option.some_inj, exists_eq_left']

/-- A relation holds of two numbers only. -/
theorem compares_iff {relation : Float → Float → Bool} :
    compares relation actual operand = true ↔ ∃ m n, actual = some (.num m) ∧ operand = .num n ∧
      relation m.toFloat n.toFloat = true := by
  constructor
  · intro h
    unfold compares at h
    split at h
    · next x y hx hy =>
      obtain ⟨v, rfl, hv⟩ := Option.bind_eq_some_iff.1 hx
      obtain ⟨m, rfl, rfl⟩ := Json.float?_eq_some_iff.1 hv
      obtain ⟨n, rfl, rfl⟩ := Json.float?_eq_some_iff.1 hy
      exact ⟨m, n, rfl, rfl, h⟩
    · cases h
  · rintro ⟨m, n, rfl, rfl, h⟩
    exact h

theorem lessThan_iff : lessThan.holds actual operand = true ↔
    ∃ m n, actual = some (.num m) ∧ operand = .num n ∧ m.units < n.units := by
  simp only [holds, compares_iff, decide_eq_true_iff, Json.Number.toFloat_lt_iff]

theorem lessThanEqual_iff : lessThanEqual.holds actual operand = true ↔
    ∃ m n, actual = some (.num m) ∧ operand = .num n ∧ m.units ≤ n.units := by
  simp only [holds, compares_iff, decide_eq_true_iff, Json.Number.toFloat_le_iff]

theorem greaterThan_iff : greaterThan.holds actual operand = true ↔
    ∃ m n, actual = some (.num m) ∧ operand = .num n ∧ n.units < m.units := by
  simp only [holds, compares_iff, decide_eq_true_iff, Json.Number.toFloat_lt_iff]

theorem between_iff : between.holds actual operand = true ↔
    ∃ m low high, actual = some (.num m) ∧ operand = .arr [.num low, .num high] ∧
      low.units ≤ m.units ∧ m.units ≤ high.units := by
  have hbounds : ∀ m low high : Json.Number,
      (low.toFloat ≤ m.toFloat && m.toFloat ≤ high.toFloat : Bool) = true ↔
        low.units ≤ m.units ∧ m.units ≤ high.units := by
    intro m low high
    simp only [Bool.and_eq_true, decide_eq_true_iff, Json.Number.toFloat_le_iff]
  constructor
  · intro h
    change liesBetween actual operand = true at h
    unfold liesBetween at h
    split at h
    · next x low high hx =>
      split at h
      · next y z hy hz =>
        obtain ⟨v, rfl, hv⟩ := Option.bind_eq_some_iff.1 hx
        obtain ⟨m, rfl, rfl⟩ := Json.float?_eq_some_iff.1 hv
        obtain ⟨low, rfl, rfl⟩ := Json.float?_eq_some_iff.1 hy
        obtain ⟨high, rfl, rfl⟩ := Json.float?_eq_some_iff.1 hz
        exact ⟨m, low, high, rfl, rfl, (hbounds m low high).1 h⟩
      · cases h
    · cases h
  · rintro ⟨m, low, high, rfl, rfl, h⟩
    exact (hbounds m low high).2 h

/-! ## Numbers -/

section Numbers

variable {m n low high : Json.Number}

theorem equals_num : equals.holds (some (.num m)) (.num n) = decide (m.units = n.units) := by
  rw [Bool.eq_iff_iff, equals_iff, decide_eq_true_iff]
  simp [Json.looseView, Json.exactView]

theorem lessThan_num : lessThan.holds (some (.num m)) (.num n) = decide (m.units < n.units) := by
  rw [Bool.eq_iff_iff, lessThan_iff, decide_eq_true_iff]
  simp

theorem lessThanEqual_num :
    lessThanEqual.holds (some (.num m)) (.num n) = decide (m.units ≤ n.units) := by
  rw [Bool.eq_iff_iff, lessThanEqual_iff, decide_eq_true_iff]
  simp

theorem greaterThan_num :
    greaterThan.holds (some (.num m)) (.num n) = decide (n.units < m.units) := by
  rw [Bool.eq_iff_iff, greaterThan_iff, decide_eq_true_iff]
  simp

theorem between_num : between.holds (some (.num m)) (.arr [.num low, .num high]) =
    (decide (low.units ≤ m.units) && decide (m.units ≤ high.units)) := by
  rw [Bool.eq_iff_iff, between_iff, Bool.and_eq_true, decide_eq_true_iff, decide_eq_true_iff]
  simp

end Numbers

end Operator

end Welfare
