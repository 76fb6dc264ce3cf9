/-!
# Splitting at a separator

* `split` — the parts of a text between separators; there is always at least one.
* `cut?` — what comes before and after the first separator, if there is one.
* `split_append_cons`, `split_intercalate` — the parts of what was put together with separators.
-/

set_option autoImplicit false

namespace Welfare.Text

/-- The parts between separators. -/
def split (separator : Char) : List Char → List (List Char)
  | [] => [[]]
  | c :: cs =>
    if c = separator then [] :: split separator cs
    else match split separator cs with
      | [] => [[c]]
      | part :: parts => (c :: part) :: parts

/-- What comes before and after the first separator. -/
def cut? (separator : Char) (cs : List Char) : Option (List Char × List Char) :=
  match cs.dropWhile (· != separator) with
  | _ :: after => some (cs.takeWhile (· != separator), after)
  | [] => none

theorem split_ne_nil (separator : Char) (cs : List Char) : split separator cs ≠ [] := by
  cases cs with
  | nil => simp [split]
  | cons c cs =>
    unfold split
    split
    · simp
    · split <;> simp

/-- A text without the separator is its own only part. -/
theorem split_eq_singleton {separator : Char} {cs : List Char} (h : separator ∉ cs) :
    split separator cs = [cs] := by
  induction cs with
  | nil => rfl
  | cons c cs ih =>
    obtain ⟨hc, hcs⟩ := not_or.1 (mt List.mem_cons.2 h)
    simp [split, Ne.symm hc, ih hcs]

/-- The parts on the two sides of a separator. -/
theorem split_append_cons (separator : Char) (cs ds : List Char) :
    split separator (cs ++ separator :: ds) = split separator cs ++ split separator ds := by
  induction cs with
  | nil => simp [split]
  | cons c cs ih =>
    by_cases hc : c = separator
    · simp [split, hc, ih]
    · cases hs : split separator cs with
      | nil => exact absurd hs (split_ne_nil separator cs)
      | cons part parts => simp [split, hc, ih, hs]

/-- Parts that do not hold the separator are found again when they are joined with it. -/
theorem split_intercalate {separator : Char} {parts : List (List Char)} (hne : parts ≠ [])
    (h : ∀ part ∈ parts, separator ∉ part) :
    split separator ([separator].intercalate parts) = parts := by
  induction parts with
  | nil => exact absurd rfl hne
  | cons part parts ih =>
    obtain ⟨hpart, hparts⟩ := List.forall_mem_cons.1 h
    cases parts with
    | nil => rw [List.intercalate_singleton, split_eq_singleton hpart]
    | cons next parts =>
      rw [List.intercalate_cons_cons, List.append_assoc, List.singleton_append, split_append_cons,
        split_eq_singleton hpart, ih (List.cons_ne_nil _ _) hparts, List.singleton_append]

end Welfare.Text
