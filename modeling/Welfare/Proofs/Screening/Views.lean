import Mathlib.Data.List.Infix
import Welfare.Screening

/-!
# What is read out of a screening

The citizen hears about the first few eligible schemes, and which documents are still needed for all
of them, each document once and in the order in which they come up.

Collecting goes through the documents that the eligible schemes list and notes every one that was
not noted before.  What is noted is never taken back, so collecting from a first part of the list
gives a first part of the result; this is what ties the schemes that are read out to the documents.

* `note`, `foldl_note` — collecting, and what it adds to what was noted before.
* `firstMentions_isPrefix` — a first part of a list gives a first part of the result.
* `eq_firstMentions_iff` — the result is determined by its members and their order.
* `Screening.documents` — the documents that the eligible schemes list.
* `Screening.views_are_consistent` — the views of a screening fit together.
-/

set_option autoImplicit false

namespace Welfare

variable {noted xs ys : List String} {x : String}

/-! ## Collecting -/

/-- Notes what was not noted before. -/
def note (noted : List String) (x : String) : List String :=
  if x ∈ noted then noted else noted ++ [x]

@[simp] theorem mem_firstMentions : x ∈ firstMentions xs ↔ x ∈ xs := by
  induction xs with
  | nil => simp [firstMentions]
  | cons y ys ih =>
    by_cases h : x = y
    · simp [firstMentions, h]
    · simp [firstMentions, h, ih]

theorem nodup_firstMentions (xs : List String) : (firstMentions xs).Nodup := by
  induction xs with
  | nil => exact List.nodup_nil
  | cons x xs ih => exact List.nodup_cons.2 ⟨by simp, ih.filter _⟩

theorem filter_firstMentions_cons_of_mem (h : x ∈ noted) :
    (firstMentions (x :: xs)).filter (· ∉ noted) = (firstMentions xs).filter (· ∉ noted) := by
  rw [firstMentions, List.filter_cons_of_neg (by simpa using h), List.filter_filter]
  refine List.filter_congr fun y _ ↦ ?_
  by_cases hy : y = x
  · simp [hy, h]
  · simp [hy]

theorem filter_firstMentions_cons_of_notMem (h : x ∉ noted) :
    (firstMentions (x :: xs)).filter (· ∉ noted) =
      x :: (firstMentions xs).filter (· ∉ noted ++ [x]) := by
  rw [firstMentions, List.filter_cons_of_pos (by simpa using h), List.filter_filter]
  refine congrArg (x :: ·) (List.filter_congr fun y _ ↦ ?_)
  by_cases hy : y = x
  · simp [hy]
  · simp [hy]

/-- Collecting adds, to what was noted before, the first mentions of everything else.

The induction is on the list, for anything noted so far: a new member joins it. -/
theorem foldl_note (noted xs : List String) :
    xs.foldl note noted = noted ++ (firstMentions xs).filter (· ∉ noted) := by
  induction xs generalizing noted with
  | nil => simp [firstMentions]
  | cons x xs ih =>
    rw [List.foldl_cons, ih, note]
    by_cases h : x ∈ noted
    · rw [if_pos h, filter_firstMentions_cons_of_mem h]
    · rw [if_neg h, filter_firstMentions_cons_of_notMem h, List.append_assoc,
        List.singleton_append]

/-- The first mentions are what is collected. -/
theorem firstMentions_eq_foldl (xs : List String) : firstMentions xs = xs.foldl note [] := by
  rw [foldl_note, List.nil_append, List.filter_eq_self.2 fun x _ ↦ decide_eq_true List.not_mem_nil]

/-- Collecting goes on behind a first part of a list. -/
theorem firstMentions_append (xs ys : List String) :
    firstMentions (xs ++ ys) = ys.foldl note (firstMentions xs) := by
  rw [firstMentions_eq_foldl, firstMentions_eq_foldl, List.foldl_append]

theorem firstMentions_isPrefix (h : xs <+: ys) : firstMentions xs <+: firstMentions ys := by
  obtain ⟨zs, rfl⟩ := h
  rw [firstMentions_append, foldl_note]
  exact List.prefix_append _ _

/-- What was mentioned before may be left out. -/
theorem firstMentions_of_repeated (h : x ∈ xs) :
    firstMentions (xs ++ x :: ys) = firstMentions (xs ++ ys) := by
  rw [firstMentions_append, firstMentions_append, List.foldl_cons, note,
    if_pos (mem_firstMentions.2 h)]

/-! ## The order -/

/-- What is mentioned first comes first. -/
theorem pairwise_firstMentions (xs : List String) :
    (firstMentions xs).Pairwise fun x y ↦ xs.idxOf x < xs.idxOf y := by
  induction xs with
  | nil => exact List.Pairwise.nil
  | cons x xs ih =>
    -- behind the first member, all places move up by one
    have hmoved : ∀ y ∈ (firstMentions xs).filter (· != x),
        (x :: xs).idxOf y = xs.idxOf y + 1 := fun y hy ↦
      List.idxOf_cons_ne xs (bne_iff_ne.1 (List.mem_filter.1 hy).2).symm
    refine List.pairwise_cons.2 ⟨fun y hy ↦ ?_, ?_⟩
    · rw [List.idxOf_cons_self, hmoved y hy]
      exact Nat.succ_pos _
    · refine (ih.filter _).imp_of_mem fun hy hz hlt ↦ ?_
      rw [hmoved _ hy, hmoved _ hz]
      exact Nat.succ_lt_succ hlt

/-- The first mentions are determined by what they are and by their order. -/
theorem eq_firstMentions_iff {xs ds : List String} : ds = firstMentions xs ↔
    (∀ d, d ∈ ds ↔ d ∈ xs) ∧ ds.Pairwise fun d e ↦ xs.idxOf d < xs.idxOf e := by
  constructor
  · rintro rfl
    exact ⟨fun d ↦ mem_firstMentions, pairwise_firstMentions xs⟩
  · rintro ⟨hmem, horder⟩
    have hnodup : ds.Nodup := horder.imp fun hlt ↦ ne_of_apply_ne xs.idxOf (Nat.ne_of_lt hlt)
    have hperm : ds.Perm (firstMentions xs) :=
      (List.perm_ext_iff_of_nodup hnodup (nodup_firstMentions xs)).2 fun d ↦ by
        rw [hmem, mem_firstMentions]
    exact hperm.eq_of_pairwise (fun _ _ _ _ hlt hgt ↦ absurd hlt (Nat.lt_asymm hgt)) horder
      (pairwise_firstMentions xs)

/-! ## Views -/

namespace Screening

/-- The documents that the eligible schemes list, one list after the other. -/
def documents (s : Screening) : List String := s.eligible.flatMap (·.missingDocuments)

variable (s : Screening)

theorem missingDocuments_eq : s.missingDocuments = firstMentions s.documents := rfl

theorem mem_documents {d : String} :
    d ∈ s.documents ↔ ∃ a ∈ s.eligible, d ∈ a.missingDocuments :=
  List.mem_flatMap

theorem top_isPrefix {n m : Nat} (h : n ≤ m) : s.top n <+: s.top m :=
  (List.take_prefix_take_left h).map _

theorem length_top (n : Nat) : (s.top n).length = min n s.eligible.length := by
  rw [top, List.length_map, List.length_take]

theorem getElem?_top {n i : Nat} {a : Assessment} (hi : i < n) (ha : s.eligible[i]? = some a) :
    (s.top n)[i]? = some a.brief := by
  rw [top, List.getElem?_map, List.getElem?_take_of_lt hi, ha, Option.map_some]

/-- The documents of the schemes that are read out. -/
theorem flatMap_top (n : Nat) : (s.top n).flatMap (·.missingDocuments) =
    (s.eligible.take n).flatMap (·.missingDocuments) := by
  rw [top, List.flatMap_map]
  rfl

theorem flatMap_top_isPrefix (n : Nat) :
    (s.top n).flatMap (·.missingDocuments) <+: s.documents := by
  rw [flatMap_top]
  exact (List.take_prefix n s.eligible).flatMap _

theorem flatMap_top_of_le {n : Nat} (h : s.eligible.length ≤ n) :
    (s.top n).flatMap (·.missingDocuments) = s.documents := by
  rw [flatMap_top, List.take_of_length_le h, documents]

/-- **The views of a screening fit together.**  The documents that are needed are those that some
eligible scheme lists, each once, in the order in which the lists first mention them; nothing else
has this property.  They are what is collected from the lists, so a document that is mentioned again
may be left out there, and the schemes that are not eligible do not matter.  Of the eligible schemes
the first ones are read out, as many as there are up to the number asked for, each with its name,
its score and its documents.  The documents of the schemes that are read out are the first of those
that are needed, and all of them when all schemes are read out. -/
theorem views_are_consistent :
    s.missingDocuments.Nodup ∧
    (∀ d, d ∈ s.missingDocuments ↔ ∃ a ∈ s.eligible, d ∈ a.missingDocuments) ∧
    (∀ ds, ds = s.missingDocuments ↔
      (∀ d, d ∈ ds ↔ ∃ a ∈ s.eligible, d ∈ a.missingDocuments) ∧
      ds.Pairwise fun d e ↦ s.documents.idxOf d < s.documents.idxOf e) ∧
    s.missingDocuments = s.documents.foldl note [] ∧
    (∀ (t : Screening) front d back, s.documents = front ++ d :: back → d ∈ front →
      t.documents = front ++ back → t.missingDocuments = s.missingDocuments) ∧
    (∀ t : Screening, t.eligible = s.eligible → t.missingDocuments = s.missingDocuments) ∧
    (∀ n m, n ≤ m → s.top n <+: s.top m) ∧
    (∀ n, (s.top n).length = min n s.eligible.length) ∧
    (∀ n i a, i < n → s.eligible[i]? = some a → ∃ b, (s.top n)[i]? = some b ∧
      b.schemeName = a.schemeName ∧ b.score = a.score ∧
      b.missingDocuments = a.missingDocuments) ∧
    (∀ n, firstMentions ((s.top n).flatMap (·.missingDocuments)) <+: s.missingDocuments) ∧
    ∀ n, s.eligible.length ≤ n →
      firstMentions ((s.top n).flatMap (·.missingDocuments)) = s.missingDocuments := by
  simp only [missingDocuments_eq, ← mem_documents]
  refine ⟨nodup_firstMentions _, fun d ↦ mem_firstMentions, fun ds ↦ eq_firstMentions_iff,
    firstMentions_eq_foldl _, fun t front d back hs hd ht ↦ ?_, fun t ht ↦ ?_,
    fun n m h ↦ s.top_isPrefix h, s.length_top, fun n i a hi ha ↦ ?_,
    fun n ↦ firstMentions_isPrefix (s.flatMap_top_isPrefix n), fun n h ↦ ?_⟩
  · rw [hs, ht, firstMentions_of_repeated hd]
  · rw [documents, documents, ht]
  · exact ⟨a.brief, s.getElem?_top hi ha, rfl, rfl, rfl⟩
  · rw [s.flatMap_top_of_le h]

/-- The first of two eligible schemes lists a document twice, and the second one repeats another. -/
theorem views_of_repeated_documents :
    let first : Assessment := {
      schemeId := "S1", schemeName := "Farmers", eligible := true, score := 25, reasoning := []
      missingDocuments := ["Land record", "Bank passbook", "Land record"], priorityBoost := 0 }
    let second : Assessment := {
      schemeId := "S2", schemeName := "Housing", eligible := true, score := 20, reasoning := []
      missingDocuments := ["Bank passbook", "Photo"], priorityBoost := 0 }
    let other : Assessment := { first with eligible := false, missingDocuments := ["Passport"] }
    let s : Screening :=
      { citizenId := none, eligible := [first, second], ineligible := [other], summary := "" }
    let briefer := { first with missingDocuments := ["Land record", "Bank passbook"] }
    let t : Screening := { s with eligible := [briefer, second] }
    s.missingDocuments = ["Land record", "Bank passbook", "Photo"] ∧
      t.missingDocuments = s.missingDocuments ∧
      { s with ineligible := [] }.missingDocuments = s.missingDocuments ∧
      s.top 1 <+: s.top 5 ∧ (s.top 5).length = 2 ∧
      (∃ b, (s.top 5)[1]? = some b ∧ b.schemeName = "Housing" ∧ b.score = 20) ∧
      firstMentions ((s.top 1).flatMap (·.missingDocuments)) <+: s.missingDocuments ∧
      firstMentions ((s.top 2).flatMap (·.missingDocuments)) = s.missingDocuments := by
  intro first second other s briefer t
  obtain ⟨-, -, -, -, hrepeated, hineligible, htop, hlength, hentry, hpart, hall⟩ :=
    s.views_are_consistent
  obtain ⟨b, hb, hname, hscore, -⟩ := hentry 5 1 second (by decide) rfl
  refine ⟨by decide, ?_, hineligible _ rfl, htop 1 5 (by decide), hlength 5,
    ⟨b, hb, hname, hscore⟩, hpart 1, hall 2 (by decide)⟩
  exact hrepeated t ["Land record", "Bank passbook"] "Land record" ["Bank passbook", "Photo"] rfl
    (by decide) rfl

end Screening

end Welfare
