import Mathlib.Data.List.DropRight
import Welfare.Text.Blank

/-!
# Trimmed texts

A text is trimmed from both sides, one side after the other.  What is left can be told without the
order of the two: it stands in the text between blanks, and neither starts nor ends with one.  No
other text does.

* `TrimsTo` — what is left of a text when it is trimmed, and `trim_eq_iff`, that it is that.
* `TrimsTo.isAllBlank_eq` — a text is blank exactly when what is left of it is.
-/

set_option autoImplicit false

namespace Welfare.Text

variable {s t : String}

/-- The second text is the first one without the blanks at its ends. -/
structure TrimsTo (s t : String) : Prop where
  between : ∃ before after, s.toList = before ++ (t.toList ++ after) ∧
    (∀ c ∈ before, isBlank c = true) ∧ ∀ c ∈ after, isBlank c = true
  head : ∀ c, t.toList.head? = some c → isBlank c = false
  last : ∀ c, t.toList.getLast? = some c → isBlank c = false

theorem toList_trim (s : String) :
    (trim s).toList = (s.toList.dropWhile isBlank).rdropWhile isBlank := by
  rw [trim, trimEnd, trimStart, String.toList_ofList, String.toList_ofList]
  rfl

theorem head?_dropWhile_isBlank {cs : List Char} {c : Char}
    (h : (cs.dropWhile isBlank).head? = some c) : isBlank c = false := by
  have hnot := List.head?_dropWhile_not isBlank cs
  rwa [h] at hnot

/-- A trimmed text starts as the text does behind its first blanks. -/
theorem head?_trim (s : String) :
    (trim s).toList.head? = (s.toList.dropWhile isBlank).head? := by
  rw [toList_trim]
  cases hrest : s.toList.dropWhile isBlank with
  | nil => rfl
  | cons c cs =>
    have hc : isBlank c = false := head?_dropWhile_isBlank (congrArg List.head? hrest)
    have hne : (c :: cs).rdropWhile isBlank ≠ [] := fun hnil ↦ by
      have hall := List.rdropWhile_eq_nil_iff.1 hnil c List.mem_cons_self
      exact Bool.false_ne_true (hc.symm.trans hall)
    obtain ⟨after, hafter⟩ := List.rdropWhile_prefix isBlank (l := c :: cs)
    have hhead : ((c :: cs).rdropWhile isBlank ++ after).head? =
        ((c :: cs).rdropWhile isBlank).head? := List.head?_append_of_ne_nil _ hne
    rw [← hhead, hafter]

theorem trimsTo_trim (s : String) : TrimsTo s (trim s) where
  between := by
    refine ⟨s.toList.takeWhile isBlank, (s.toList.dropWhile isBlank).rtakeWhile isBlank, ?_,
      fun c hc ↦ List.mem_takeWhile_imp hc, fun c hc ↦ List.mem_rtakeWhile_imp hc⟩
    rw [toList_trim, List.rdropWhile_append_rtakeWhile, List.takeWhile_append_dropWhile]
  head c hc := by
    rw [head?_trim] at hc
    exact head?_dropWhile_isBlank hc
  last c hc := by
    rw [toList_trim, List.rdropWhile, List.getLast?_reverse] at hc
    exact head?_dropWhile_isBlank hc

theorem dropWhile_isBlank_append {before cs : List Char} (h : ∀ c ∈ before, isBlank c = true)
    (hcs : ∀ c, cs.head? = some c → isBlank c = false) :
    (before ++ cs).dropWhile isBlank = cs := by
  rw [List.dropWhile_append_of_pos h]
  cases cs with
  | nil => rfl
  | cons c cs => rw [List.dropWhile_cons_of_neg (by simp [hcs c rfl])]

/-- Nothing else is between blanks and neither starts nor ends with one. -/
theorem TrimsTo.eq_trim (h : TrimsTo s t) : trim s = t := by
  obtain ⟨before, after, hs, hbefore, hafter⟩ := h.between
  refine String.toList_inj.1 ?_
  rw [toList_trim, hs]
  by_cases hempty : t.toList = []
  · -- the text is blank, and nothing is left on the first side already
    have hblank : (before ++ ([] ++ after)).dropWhile isBlank = [] :=
      List.dropWhile_eq_nil_iff.2 (List.forall_mem_append.2 ⟨hbefore, hafter⟩)
    rw [hempty, hblank, List.rdropWhile_nil]
  · have hhead : (t.toList ++ after).head? = t.toList.head? := List.head?_append_of_ne_nil _ hempty
    have hlast : ∀ c, t.toList.reverse.head? = some c → isBlank c = false := by
      rw [List.head?_reverse]
      exact h.last
    rw [dropWhile_isBlank_append hbefore (hhead ▸ h.head), List.rdropWhile, List.reverse_append,
      dropWhile_isBlank_append (fun c hc ↦ hafter c (List.mem_reverse.1 hc)) hlast,
      List.reverse_reverse]

theorem trim_eq_iff : trim s = t ↔ TrimsTo s t :=
  ⟨fun h ↦ h ▸ trimsTo_trim s, TrimsTo.eq_trim⟩

theorem isAllBlank_iff : isAllBlank s = true ↔ ∀ c ∈ s.toList, isBlank c = true :=
  List.all_eq_true

/-- Blanks at the ends do not tell whether anything else is in a text. -/
theorem TrimsTo.isAllBlank_eq (h : TrimsTo s t) : isAllBlank t = isAllBlank s := by
  obtain ⟨before, after, hs, hbefore, hafter⟩ := h.between
  rw [Bool.eq_iff_iff, isAllBlank_iff, isAllBlank_iff, hs, List.forall_mem_append,
    List.forall_mem_append, and_iff_left hafter, and_iff_right hbefore]

end Welfare.Text
