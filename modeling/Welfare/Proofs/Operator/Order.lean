import Welfare.Proofs.Operator.Equality

/-!
# The order of numbers

Four operators order numbers, and `equals` and `in` compare them as well.  All of them see a number
only where its double stands on the line of whole numbers, so their answers fit together: of two
numbers one is before the other, or they are equal; and no answer tells apart two numbers of one
double, `5` and `5.0` for instance.

Whatever is no number is before nothing, and nothing is before it.

* `Json.Renumbered` — a value, or for a number any other one of the same double.
* `Operator.holds_congr`, `Operator.between_congr_items`, `Operator.oneOf_congr_items` — no operator
  tells them apart.
* `Operator.orders_are_coherent` — how the answers fit together, and when there are none.
-/

set_option autoImplicit false

namespace Welfare

/-! ## Other numbers of the same double -/

/-- The same value, or numbers of the same double. -/
def Json.Renumbered (v w : Json) : Prop :=
  v = w ∨ ∃ m n : Number, v = .num m ∧ w = .num n ∧ (m.toFloat == n.toFloat) = true

namespace Json.Renumbered

variable {v w : Json}

theorem sameValue (h : v.Renumbered w) : v.sameValue w = true := by
  rcases h with rfl | ⟨m, n, rfl, rfl, hsame⟩
  · exact sameValue_iff.2 rfl
  · exact hsame

theorem symm (h : v.Renumbered w) : w.Renumbered v := by
  rcases h with rfl | ⟨m, n, rfl, rfl, hsame⟩
  · exact .inl rfl
  · exact .inr ⟨n, m, rfl, rfl, Number.toFloat_beq_iff.2 (Number.toFloat_beq_iff.1 hsame).symm⟩

/-- In the place of a number stands one with the same double. -/
theorem exists_num {m : Number} (h : (Json.num m).Renumbered w) :
    ∃ n, w = .num n ∧ m.units = n.units := by
  rcases h with rfl | ⟨m', n, hm, rfl, hsame⟩
  · exact ⟨m, rfl, rfl⟩
  · cases hm
    exact ⟨n, rfl, Number.toFloat_beq_iff.1 hsame⟩

end Json.Renumbered

namespace Operator

variable {actual actual' : Option Json} {operand v w : Json} {xs ys : List Json}

theorem holds_congr_actual (op : Operator) (h : v.Renumbered w) :
    op.holds (some v) operand = op.holds (some w) operand := by
  rcases h with rfl | ⟨m, n, rfl, rfl, hsame⟩
  · rfl
  · have hunits := Json.Number.toFloat_beq_iff.1 hsame
    rw [Bool.eq_iff_iff]
    cases op with
    | equals => simp [equals_iff, Json.looseView, Json.exactView, hunits]
    | greaterThan => simp [greaterThan_iff, hunits]
    | lessThan => simp [lessThan_iff, hunits]
    | lessThanEqual => simp [lessThanEqual_iff, hunits]
    | between => simp [between_iff, hunits]
    | oneOf =>
      cases operand with
      | arr xs => simp [oneOf_iff, Json.exactView, hunits]
      | _ => exact Iff.rfl
    | _ => exact Iff.rfl

theorem holds_congr_operand (op : Operator) (h : v.Renumbered w) :
    op.holds actual v = op.holds actual w := by
  rcases h with rfl | ⟨m, n, rfl, rfl, hsame⟩
  · rfl
  · have hunits := Json.Number.toFloat_beq_iff.1 hsame
    rw [Bool.eq_iff_iff]
    cases op with
    | equals => simp [equals_iff, Json.looseView, Json.exactView, hunits]
    | greaterThan => simp [greaterThan_iff, hunits]
    | lessThan => simp [lessThan_iff, hunits]
    | lessThanEqual => simp [lessThanEqual_iff, hunits]
    | between => simp [between_iff]
    | oneOf => cases actual <;> exact Iff.rfl
    | _ => exact Iff.rfl

theorem holds_congr (op : Operator) (hactual : Option.Rel Json.Renumbered actual actual')
    (hoperand : v.Renumbered w) : op.holds actual v = op.holds actual' w := by
  cases hactual with
  | none => exact op.holds_congr_operand hoperand
  | some h => exact (op.holds_congr_actual h).trans (op.holds_congr_operand hoperand)

theorem between_congr_items (h : List.Forall₂ Json.Renumbered xs ys) :
    between.holds actual (.arr xs) = between.holds actual (.arr ys) := by
  have hforth : ∀ {xs ys : List Json}, List.Forall₂ Json.Renumbered xs ys →
      between.holds actual (.arr xs) = true → between.holds actual (.arr ys) = true := by
    intro xs ys h hbetween
    obtain ⟨m, low, high, hm, hxs, hlow, hhigh⟩ := between_iff.1 hbetween
    cases hxs
    cases h with
    | cons hl h =>
      cases h with
      | cons hh h =>
        cases h
        obtain ⟨low', rfl, hlow'⟩ := hl.exists_num
        obtain ⟨high', rfl, hhigh'⟩ := hh.exists_num
        exact between_iff.2 ⟨m, low', high', hm, rfl, hlow' ▸ hlow, hhigh' ▸ hhigh⟩
  exact Bool.eq_iff_iff.2 ⟨hforth h, hforth (h.flip.imp fun _ _ ↦ .symm)⟩

theorem oneOf_congr_items (h : List.Forall₂ Json.Renumbered xs ys) :
    oneOf.holds actual (.arr xs) = oneOf.holds actual (.arr ys) :=
  oneOf_congr (.of_forall₂ (h.imp fun _ _ ↦ Json.Renumbered.sameValue))

/-! ## Coherence -/

/-- What is in order are two numbers. -/
theorem exists_num_of_holds {op : Operator} (hop : op ∈ [greaterThan, lessThan, lessThanEqual])
    (h : op.holds actual operand = true) : ∃ m n, actual = some (.num m) ∧ operand = .num n := by
  simp only [List.mem_cons, List.not_mem_nil, or_false] at hop
  rcases hop with rfl | rfl | rfl
  · obtain ⟨m, n, hm, hn, -⟩ := greaterThan_iff.1 h
    exact ⟨m, n, hm, hn⟩
  · obtain ⟨m, n, hm, hn, -⟩ := lessThan_iff.1 h
    exact ⟨m, n, hm, hn⟩
  · obtain ⟨m, n, hm, hn, -⟩ := lessThanEqual_iff.1 h
    exact ⟨m, n, hm, hn⟩

/-- **The orders fit together.**  The doubles of numbers are finite.  Of two numbers exactly one is
less than, equal to or greater than the other, as their doubles stand; less than or equal is just
that, and between two bounds is at least the lower and at most the upper one.  No operator tells
numbers of one double apart, be they the value or the operand, or, for `between` and `in`, an item
of it.  Where there is no number, or the operand is none (no two of them, for `between`), none of
the orders holds. -/
theorem orders_are_coherent :
    (∀ m n : Json.Number,
      m.toFloat.isFinite = true ∧
      [lessThan, equals, greaterThan].countP (·.holds (some (.num m)) (.num n)) = 1 ∧
      (lessThan.holds (some (.num m)) (.num n) = true ↔ m.units < n.units) ∧
      (lessThanEqual.holds (some (.num m)) (.num n) = true ↔
        lessThan.holds (some (.num m)) (.num n) = true ∨
          equals.holds (some (.num m)) (.num n) = true)) ∧
    (∀ m low high : Json.Number,
      between.holds (some (.num m)) (.arr [.num low, .num high]) = true ↔
        lessThanEqual.holds (some (.num low)) (.num m) = true ∧
          lessThanEqual.holds (some (.num m)) (.num high) = true) ∧
    (∀ actual actual', Option.Rel Json.Renumbered actual actual' →
      (∀ (op : Operator) (v w : Json), v.Renumbered w → op.holds actual v = op.holds actual' w) ∧
      ∀ op ∈ [oneOf, between], ∀ xs ys, List.Forall₂ Json.Renumbered xs ys →
        op.holds actual (.arr xs) = op.holds actual' (.arr ys)) ∧
    ∀ actual operand,
      ((∀ m, actual ≠ some (.num m)) ∨ (∀ n, operand ≠ .num n) →
        ∀ op ∈ [greaterThan, lessThan, lessThanEqual], op.holds actual operand = false) ∧
      ((∀ m, actual ≠ some (.num m)) ∨ (∀ low high, operand ≠ .arr [.num low, .num high]) →
        between.holds actual operand = false) := by
  refine ⟨fun m n ↦ ⟨Double.isFinite_toFloat m, ?_, ?_, ?_⟩, fun m low high ↦ ?_,
    fun actual actual' hactual ↦ ⟨fun op v w ↦ op.holds_congr hactual,
      fun op hop xs ys hitems ↦ ?_⟩,
    fun actual operand ↦ ⟨fun h op hop ↦ ?_, fun h ↦ ?_⟩⟩
  · simp only [List.countP_cons, List.countP_nil, lessThan_num, equals_num, greaterThan_num,
      decide_eq_true_iff]
    rcases lt_trichotomy m.units n.units with hlt | heq | hgt
    · rw [if_pos hlt, if_neg hlt.ne, if_neg hlt.not_gt]
    · rw [if_neg heq.not_lt, if_pos heq, if_neg heq.not_gt]
    · rw [if_neg hgt.not_gt, if_neg hgt.ne', if_pos hgt]
  · rw [lessThan_num, decide_eq_true_iff]
  · rw [lessThanEqual_num, lessThan_num, equals_num]
    simp only [decide_eq_true_iff, le_iff_lt_or_eq]
  · rw [between_num, lessThanEqual_num, lessThanEqual_num, Bool.and_eq_true]
  · refine Eq.trans ?_ (op.holds_congr hactual (.inl rfl))
    rcases List.mem_pair.1 hop with rfl | rfl
    · exact oneOf_congr_items hitems
    · exact between_congr_items hitems
  · refine Bool.eq_false_iff.2 fun hholds ↦ ?_
    obtain ⟨m, n, hm, hn⟩ := exists_num_of_holds hop hholds
    exact h.elim (· m hm) (· n hn)
  · refine Bool.eq_false_iff.2 fun hholds ↦ ?_
    obtain ⟨m, low, high, hm, hbounds, -⟩ := between_iff.1 hholds
    exact h.elim (· m hm) (· low high hbounds)

/-- An age of `18.0` between the bounds `18` and `18.0` is as good as one of `18`; the text `"18"`
is not, and neither are bounds of which there are three. -/
theorem eighteen_lies_between_eighteens :
    let whole : Json.Number := .int 18 (by decide)
    let double : Json.Number := .double 18.0 (by decide +kernel)
    (whole.toFloat == double.toFloat) = true ∧
    between.holds (some (.num double)) (.arr [.num whole, .num double]) = true ∧
    lessThan.holds (some (.num double)) (.num whole) = false ∧
    lessThanEqual.holds (some (.str "18")) (.num double) = false ∧
    between.holds (some (.num whole)) (.arr [.num whole, .num whole, .num double]) = false := by
  intro whole double
  obtain ⟨hnumbers, hbetween, hrenumbered, hclosed⟩ := orders_are_coherent
  have hsame : (whole.toFloat == double.toFloat) = true := by decide +kernel
  have hdouble : (Json.num whole).Renumbered (.num double) := .inr ⟨whole, double, rfl, rfl, hsame⟩
  have hactual := hrenumbered (some (.num whole)) (some (.num double)) (.some hdouble)
  refine ⟨hsame, ?_, ?_, (hclosed _ _).1 (.inl (by simp)) _ (by simp), (hclosed _ _).2 (.inr ?_)⟩
  · rw [← hactual.2 between (by simp) [.num whole, .num whole] _
      (.cons (.inl rfl) (.cons hdouble .nil)), hbetween]
    exact ⟨(hnumbers whole whole).2.2.2.2 (.inr (by decide +kernel)),
      (hnumbers whole whole).2.2.2.2 (.inr (by decide +kernel))⟩
  · rw [← hactual.1 lessThan (.num whole) _ (.inl rfl)]
    exact Bool.eq_false_iff.2 fun hless ↦ lt_irrefl _ ((hnumbers whole whole).2.2.1.1 hless)
  · simp

end Operator

end Welfare
