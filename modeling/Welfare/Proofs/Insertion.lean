import Mathlib.Data.List.InsertIdx

/-!
# One element more

What a list comes to when an element is put into it at some place: filters drop the element or keep
it behind those before it that they keep, and a place in one of two lists is a place in both of
them put together.

* `filter_insertIdx_of_neg`, `filter_insertIdx_of_pos`, `any_insertIdx_of_neg` — conditions.
* `append_insertIdx`, `insertIdx_append` — places.
-/

set_option autoImplicit false

namespace Welfare

variable {α : Type} {P : α → Bool} {a : α} {xs ys : List α}

/-- What a filter drops may stand anywhere. -/
theorem filter_insertIdx_of_neg (h : P a = false) (i : Nat) :
    (xs.insertIdx i a).filter P = xs.filter P := by
  induction xs generalizing i with
  | nil => cases i <;> simp [h]
  | cons x xs ih =>
    cases i with
    | zero => simp [h]
    | succ i => rw [List.insertIdx_succ_cons, List.filter_cons, List.filter_cons, ih]

/-- What a filter keeps stands behind those before it that are kept. -/
theorem filter_insertIdx_of_pos (h : P a = true) {i : Nat} (hi : i ≤ xs.length) :
    (xs.insertIdx i a).filter P = (xs.filter P).insertIdx ((xs.take i).countP P) a := by
  induction xs generalizing i with
  | nil =>
    obtain rfl : i = 0 := by simpa using hi
    simp [h]
  | cons x xs ih =>
    cases i with
    | zero => simp [h]
    | succ i =>
      rw [List.insertIdx_succ_cons, List.filter_cons, List.filter_cons, List.take_succ_cons,
        List.countP_cons, ih (by simpa using hi)]
      by_cases hx : P x <;> simp [hx]

/-- What does not satisfy a condition does not make a list satisfy it somewhere. -/
theorem any_insertIdx_of_neg (h : P a = false) (i : Nat) :
    (xs.insertIdx i a).any P = xs.any P := by
  induction xs generalizing i with
  | nil => cases i <;> simp [h]
  | cons x xs ih =>
    cases i with
    | zero => simp [h]
    | succ i => rw [List.insertIdx_succ_cons, List.any_cons, List.any_cons, ih]

/-- A place in the second list is a place behind the first. -/
theorem append_insertIdx (i : Nat) :
    xs ++ ys.insertIdx i a = (xs ++ ys).insertIdx (xs.length + i) a := by
  induction xs with
  | nil => simp
  | cons x xs ih =>
    rw [List.length_cons, Nat.succ_add, List.cons_append, List.cons_append,
      List.insertIdx_succ_cons, ih]

/-- A place in the first list stays where it is. -/
theorem insertIdx_append {i : Nat} (hi : i ≤ xs.length) :
    xs.insertIdx i a ++ ys = (xs ++ ys).insertIdx i a := by
  induction xs generalizing i with
  | nil =>
    obtain rfl : i = 0 := by simpa using hi
    simp
  | cons x xs ih =>
    cases i with
    | zero => simp
    | succ i =>
      rw [List.insertIdx_succ_cons, List.cons_append, List.cons_append, List.insertIdx_succ_cons,
        ih (by simpa using hi)]

end Welfare
