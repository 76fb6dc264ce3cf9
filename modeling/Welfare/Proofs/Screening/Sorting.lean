import Welfare.Proofs.Catalog.Checks
import Welfare.Text.Numeral
import Welfare.Text.Split

/-!
# A screening loses nothing

A screening assesses every scheme of a list and sorts the assessments into two lists.  Being sorted
leaves no choice: a list that keeps the order and holds eligible assessments only is part of all the
eligible ones, and when both lists together are long enough, each of them is the whole part.

The summary counts the eligible schemes.  The number is the last word but one, so it is read off
the summary whatever the citizen is called, even if the name is a summary itself.

* `SortedInto` — assessments that are sorted into two lists.
* `sortedInto_iff` — there is one way to sort them.
* `summary_inj` — name and number are read off a summary.
* `Profile.screening_loses_nothing` — the laws of screening lists of schemes.
-/

set_option autoImplicit false

namespace Welfare

/-! ## Sorting -/

/-- Assessments are sorted into two lists: each keeps their order, one holds eligible assessments
and the other one ineligible ones, and both together are as long as the whole. -/
structure SortedInto (all eligible ineligible : List Assessment) : Prop where
  eligible_sublist : eligible.Sublist all
  ineligible_sublist : ineligible.Sublist all
  of_mem_eligible : ∀ a ∈ eligible, a.eligible = true
  of_mem_ineligible : ∀ a ∈ ineligible, a.eligible = false
  length_add : eligible.length + ineligible.length = all.length

/-- There is one way to sort assessments. -/
theorem sortedInto_iff {all es is : List Assessment} : SortedInto all es is ↔
    es = all.filter (·.eligible) ∧ is = all.filter (!·.eligible) := by
  have hlength := List.length_eq_length_filter_add (l := all) (·.eligible)
  constructor
  · intro h
    have hes_self : es = es.filter (·.eligible) :=
      (List.filter_eq_self.2 h.of_mem_eligible).symm
    have his_self : is = is.filter (!·.eligible) :=
      (List.filter_eq_self.2 fun a ha ↦ by rw [h.of_mem_ineligible a ha]; rfl).symm
    have hes : es.Sublist (all.filter (·.eligible)) :=
      List.sublist_filter_iff.2 ⟨es, h.eligible_sublist, hes_self⟩
    have his : is.Sublist (all.filter (!·.eligible)) :=
      List.sublist_filter_iff.2 ⟨is, h.ineligible_sublist, his_self⟩
    have hadd := h.length_add
    have hes_le := hes.length_le
    have his_le := his.length_le
    exact ⟨hes.eq_of_length (by omega), his.eq_of_length (by omega)⟩
  · rintro ⟨rfl, rfl⟩
    exact {
      eligible_sublist := List.filter_sublist
      ineligible_sublist := List.filter_sublist
      of_mem_eligible := fun a ha ↦ (List.mem_filter.1 ha).2
      of_mem_ineligible := fun a ha ↦ by simpa using (List.mem_filter.1 ha).2
      length_add := hlength.symm }

/-! ## The summary -/

theorem space_notMem_repr (n : Nat) : ' ' ∉ n.repr.toList := by
  rw [Nat.toList_repr]
  exact fun h ↦ absurd (Nat.isDigit_of_mem_toDigits (by decide) (by decide) h) (by decide)

/-- The last word of a text is found behind its last space. -/
theorem eq_of_append_space {front front' word word' : List Char} (hword : ' ' ∉ word)
    (hword' : ' ' ∉ word') (h : front ++ ' ' :: word = front' ++ ' ' :: word') :
    front = front' ∧ word = word' := by
  have hsplit := congrArg (Text.split ' ') h
  rw [Text.split_append_cons, Text.split_append_cons, Text.split_eq_singleton hword,
    Text.split_eq_singleton hword'] at hsplit
  obtain rfl := (List.append_singleton_inj.1 hsplit).2
  exact ⟨List.append_cancel_right h, rfl⟩

/-- Name and number are read off a summary. -/
theorem summary_inj {name name' : String} {m n : Nat}
    (h : name ++ " is eligible for " ++ toString m ++ " schemes." =
      name' ++ " is eligible for " ++ toString n ++ " schemes.") : name = name' ∧ m = n := by
  have hchars := congrArg String.toList h
  simp only [String.toList_append, Nat.toString_eq_repr] at hchars
  have hwords : (name.toList ++ " is eligible for".toList) ++ ' ' :: m.repr.toList =
      (name'.toList ++ " is eligible for".toList) ++ ' ' :: n.repr.toList := by
    simpa using List.append_cancel_right hchars
  obtain ⟨hfront, hnumber⟩ :=
    eq_of_append_space (space_notMem_repr m) (space_notMem_repr n) hwords
  have hdigits := congrArg Text.digits? hnumber
  rw [Nat.toList_repr, Nat.toList_repr, Text.digits?_toDigits, Text.digits?_toDigits] at hdigits
  exact ⟨String.toList_inj.1 (List.append_cancel_right hfront), Option.some_inj.1 hdigits⟩

/-! ## Screenings -/

namespace Profile

variable (p : Profile) (S T : List Scheme)

theorem ineligible_screen :
    (p.screen S).ineligible = (S.map (·.assess p)).filter (!·.eligible) := rfl

theorem total_screen : (p.screen S).total = S.length := by
  rw [Screening.total, ← List.length_append, perm_screen.length_eq, List.length_map]

theorem eligible_screen_append :
    (p.screen (S ++ T)).eligible = (p.screen S).eligible ++ (p.screen T).eligible := by
  rw [eligible_screen, List.map_append, List.filter_append]
  rfl

theorem ineligible_screen_append :
    (p.screen (S ++ T)).ineligible = (p.screen S).ineligible ++ (p.screen T).ineligible := by
  rw [ineligible_screen, List.map_append, List.filter_append]
  rfl

variable {S T}

theorem eligible_screen_perm (h : S.Perm T) :
    (p.screen S).eligible.Perm (p.screen T).eligible :=
  (h.map _).filter _

theorem ineligible_screen_perm (h : S.Perm T) :
    (p.screen S).ineligible.Perm (p.screen T).ineligible :=
  (h.map _).filter _

/-- **A screening loses nothing, repeats nothing and keeps the order.**  The two parts of a
screening are the lists that the assessments of the schemes are sorted into: those that say yes and
those that say no.  Together they are the assessments of all schemes, one for each.  The parts of
two lists one after the other are the parts of each, one after the other, and schemes in another
order give the same parts in another order.  The number in the summary counts the eligible schemes,
whatever the citizen is called. -/
theorem screening_loses_nothing (S : List Scheme) :
    (∀ es is, SortedInto (S.map (·.assess p)) es is ↔
      es = (p.screen S).eligible ∧ is = (p.screen S).ineligible) ∧
    (p.screen S).eligible = (S.map (·.assess p)).filter (·.eligible) ∧
    (p.screen S).ineligible = (S.map (·.assess p)).filter (!·.eligible) ∧
    ((p.screen S).eligible ++ (p.screen S).ineligible).Perm (S.map (·.assess p)) ∧
    (p.screen S).total = S.length ∧
    (∀ T, (p.screen (S ++ T)).eligible = (p.screen S).eligible ++ (p.screen T).eligible ∧
      (p.screen (S ++ T)).ineligible = (p.screen S).ineligible ++ (p.screen T).ineligible) ∧
    (∀ T, S.Perm T → (p.screen S).eligible.Perm (p.screen T).eligible ∧
      (p.screen S).ineligible.Perm (p.screen T).ineligible) ∧
    ∀ name n,
      (p.screen S).summary = name ++ " is eligible for " ++ toString n ++ " schemes." ↔
        name = p.subject ∧ n = (p.screen S).eligible.length := by
  refine ⟨fun es is ↦ sortedInto_iff, eligible_screen, p.ineligible_screen S, perm_screen,
    p.total_screen S, fun T ↦ ⟨p.eligible_screen_append S T, p.ineligible_screen_append S T⟩,
    fun T h ↦ ⟨p.eligible_screen_perm h, p.ineligible_screen_perm h⟩, fun name n ↦ ?_⟩
  constructor
  · intro h
    exact summary_inj h.symm
  · rintro ⟨rfl, rfl⟩
    rfl

/-- One of two schemes is listed twice, and the citizen is called like a summary. -/
theorem screening_of_a_repeated_scheme :
    let free : Scheme := { id := "S1", criteria := some { rules := some {} } }
    let closed : Scheme := { id := "S2" }
    let p : Profile := ⟨.obj [("full_name", .str "Asha is eligible for 9 schemes. Ravi")]⟩
    let schemes := [free, closed, free]
    schemes.Perm [closed, free, free] ∧
      SortedInto (schemes.map (·.assess p)) [free.assess p, free.assess p] [closed.assess p] ∧
      (p.screen schemes).eligible.Perm (p.screen [closed, free, free]).eligible ∧
      (p.screen schemes).total = 3 ∧
      (p.screen schemes).summary =
        "Asha is eligible for 9 schemes. Ravi is eligible for 2 schemes." ∧
      (p.screen schemes).eligible.length = 2 := by
  intro free closed p schemes
  have hperm : schemes.Perm [closed, free, free] := List.Perm.swap closed free [free]
  have hsummary : (p.screen schemes).summary =
      "Asha is eligible for 9 schemes. Ravi is eligible for 2 schemes." := by decide +kernel
  obtain ⟨hsorted, -, -, -, htotal, -, hperms, hnumber⟩ := p.screening_loses_nothing schemes
  have hfree : (free.assess p).eligible = true := by decide +kernel
  have hclosed : (closed.assess p).eligible = false := by decide +kernel
  refine ⟨hperm, (hsorted _ _).2 ⟨?_, ?_⟩, (hperms _ hperm).1, htotal, hsummary, ?_⟩
  · simp [eligible_screen, schemes, hfree, hclosed]
  · simp [ineligible_screen, schemes, hfree, hclosed]
  · exact ((hnumber "Asha is eligible for 9 schemes. Ravi" 2).1 hsummary).2.symm

end Profile

end Welfare
