import Welfare.Proofs.Profile.Places

/-!
# Bare names

A name without a dot stands for what is on record under it.  If there is nothing, the categories are
scanned, and the first that holds the name answers for it; it is then as if the name had been given
with that category in front.  A category answers only if it is a group, that is an object: a path
may go through a list by an index, but no name is ever looked for in a list.

So a scan reads very little of a profile, and the rest may change without being noticed.

* `Profile.heldIn`, `Profile.FirstHolds` — what a category holds under a name, and which category
  answers.
* `Profile.scan_cases`, `Profile.scan_eq_heldIn` — what a scan finds.
* `Profile.resolve_congr` — what a bare name depends on.
* `Profile.bare_names_agree_with_paths` — bare names and paths through a category.
-/

set_option autoImplicit false

namespace Welfare

/-! ## The order of scanning -/

namespace Category

theorem pairwise_all : all.Pairwise fun c d ↦ c.position < d.position := by decide

/-- The categories scanned before one are those in earlier positions. -/
theorem mem_before_iff {before after : List Category} {c d : Category}
    (h : all = before ++ c :: after) : d ∈ before ↔ d.position < c.position := by
  have hpairwise := pairwise_all
  rw [h, List.pairwise_append, List.pairwise_cons] at hpairwise
  obtain ⟨-, ⟨hafter, -⟩, hbefore⟩ := hpairwise
  refine ⟨fun hd ↦ hbefore d hd c List.mem_cons_self, fun hlt ↦ ?_⟩
  have hmem := d.mem_all
  rw [h, List.mem_append, List.mem_cons] at hmem
  rcases hmem with hd | rfl | hd
  · exact hd
  · exact absurd hlt (Nat.lt_irrefl _)
  · exact absurd hlt (Nat.lt_asymm (hafter d hd))

end Category

namespace Profile

variable {p q : Profile} {c : Category} {name : String}

/-- What a category holds under a name; a category that is not an object holds nothing. -/
def heldIn (p : Profile) (c : Category) (name : String) : Option Json :=
  (p.record.get? c.key).bind (·.get? name)

/-- A category is the first, in the order of scanning, that holds a name. -/
structure FirstHolds (p : Profile) (c : Category) (name : String) : Prop where
  held : (p.heldIn c name).isSome = true
  first : ∀ d : Category, d.position < c.position → p.heldIn d name = none

/-! ## Scans -/

/-- A scan finds what the first category that holds the name holds under it. -/
theorem scan_eq_heldIn (h : p.FirstHolds c name) : p.scan name = p.heldIn c name := by
  obtain ⟨w, hw⟩ := Option.isSome_iff_exists.1 h.held
  obtain ⟨before, after, hall⟩ := List.append_of_mem c.mem_all
  rw [hw]
  exact List.findSome?_eq_some_iff.2
    ⟨before, c, after, hall, hw, fun d hd ↦ h.first d ((Category.mem_before_iff hall).1 hd)⟩

/-- Some category is the first to hold a name, or a scan finds nothing since none holds it. -/
theorem scan_cases (p : Profile) (name : String) :
    (∃ c, p.FirstHolds c name) ∨ (∀ c, p.heldIn c name = none) ∧ p.scan name = none := by
  cases hscan : p.scan name with
  | none => exact .inr ⟨fun c ↦ List.findSome?_eq_none_iff.1 hscan c c.mem_all, rfl⟩
  | some w =>
    obtain ⟨before, c, after, hall, hw, hfirst⟩ := List.findSome?_eq_some_iff.1 hscan
    refine .inl ⟨c, Option.isSome_of_eq_some hw, fun d hd ↦ ?_⟩
    exact hfirst d ((Category.mem_before_iff hall).2 hd)

theorem scan_eq_none (h : ∀ c, p.heldIn c name = none) : p.scan name = none :=
  List.findSome?_eq_none_iff.2 fun c _ ↦ h c

/-- Scans agree when every category that the first one gets to holds the same. -/
theorem scan_congr (h : ∀ c : Category,
      (∀ d : Category, d.position < c.position → p.heldIn d name = none) →
      p.heldIn c name = q.heldIn c name) : p.scan name = q.scan name := by
  rcases p.scan_cases name with ⟨c, hc⟩ | ⟨hnone, hscan⟩
  · have hq : q.FirstHolds c name := by
      refine ⟨h c hc.first ▸ hc.held, fun d hd ↦ ?_⟩
      rw [← h d fun e he ↦ hc.first e (Nat.lt_trans he hd)]
      exact hc.first d hd
    rw [scan_eq_heldIn hc, scan_eq_heldIn hq, h c hc.first]
  · rw [hscan, scan_eq_none fun c ↦ by rw [← h c fun d _ ↦ hnone d, hnone c]]

/-! ## Names without a dot -/

theorem step_of_isObject {v : Json} (h : v.isObject = true) (key : String) :
    step v key = v.get? key := by
  cases v <;> simp_all [Json.isObject, step, Json.get?]

theorem isObject_of_get? {v w : Json} {key : String} (h : v.get? key = some w) :
    v.isObject = true := by
  cases v <;> simp_all [Json.isObject, Json.get?]

theorem segments_bare (hbare : '.' ∉ name.toList) : Field.segments ⟨name⟩ = [name] := by
  rw [Field.segments, Text.split_eq_singleton hbare, List.map_singleton, String.ofList_toList]

theorem traverse_bare (hbare : '.' ∉ name.toList) {v : Json} (h : v.isObject = true) :
    traverse v (Field.segments ⟨name⟩) = v.get? name := by
  rw [segments_bare hbare, traverse_cons, step_of_isObject h]
  cases v.get? name <;> rfl

/-- A bare name stands for what is under it at the top, or else for what a scan finds. -/
theorem resolve_bare (hobject : p.record.isObject = true) (hbare : '.' ∉ name.toList) :
    p.resolve ⟨name⟩ = (p.record.get? name).or (p.scan name) := by
  have hisBare : Field.isBare ⟨name⟩ = true := by simp [Field.isBare, hbare]
  rw [resolve, traverse_bare hbare hobject, hisBare]
  cases p.record.get? name <;> rfl

/-- A name behind a category that is an object stands for what the category holds. -/
theorem resolve_in_category (hobject : p.record.isObject = true) (hbare : '.' ∉ name.toList)
    (hheld : (p.heldIn c name).isSome = true) :
    p.resolve ⟨c.key ++ "." ++ name⟩ = p.heldIn c name := by
  obtain ⟨w, hw⟩ := Option.isSome_iff_exists.1 hheld
  obtain ⟨group, hgroup, hmember⟩ := Option.bind_eq_some_iff.1 hw
  have hisObject := isObject_of_get? hmember
  rw [resolve_dotted, traverse_bare c.dot_notMem_key hobject, hgroup, Option.bind_some,
    traverse_bare hbare hisObject, hmember, hw]

/-! ## What a bare name depends on -/

/-- Two profiles hold the same under a key, or both nothing. -/
def SameUnder (p q : Profile) (key : String) : Prop := p.record.get? key = q.record.get? key

/-- Whether a category is a group of attributes, that is an object. -/
def hasGroup (p : Profile) (c : Category) : Bool := (p.record.get? c.key).any Json.isObject

theorem SameUnder.heldIn_eq (h : p.SameUnder q c.key) : p.heldIn c name = q.heldIn c name := by
  rw [heldIn, heldIn, h]

theorem heldIn_eq_none (h : p.hasGroup c = false) : p.heldIn c name = none := by
  refine Option.eq_none_iff_forall_ne_some.2 fun w hw ↦ ?_
  obtain ⟨group, hgroup, hmember⟩ := Option.bind_eq_some_iff.1 hw
  have hisObject := isObject_of_get? hmember
  simp [hasGroup, hgroup, hisObject] at h

/-- A bare name depends on what is under it at the top and on what the categories hold under it, up
to the first that holds anything. -/
theorem resolve_congr (hp : p.record.isObject = true) (hq : q.record.isObject = true)
    (hbare : '.' ∉ name.toList) (hname : p.SameUnder q name)
    (hheld : ∀ c : Category,
      (∀ d : Category, d.position < c.position → p.heldIn d name = none) →
      p.heldIn c name = q.heldIn c name) : p.resolve ⟨name⟩ = q.resolve ⟨name⟩ := by
  rw [resolve_bare hp hbare, resolve_bare hq hbare, hname, scan_congr hheld]

/-- **Bare names agree with paths through a category.**  What is on record under the name itself
answers for it, be it `null` and whatever the categories hold.  If there is nothing, the name stands
for the same as with the first category in front that is an object and has it, or for nothing if
there is none.  So the name does not change its meaning while its own entry stays and the categories
stay, or those up to the first that holds it do, or those that change were no objects and are
none.  The entry of a name that is no category's key stays when only categories change. -/
theorem bare_names_agree_with_paths (hp : p.record.isObject = true) (hbare : '.' ∉ name.toList) :
    (∀ w, p.record.get? name = some w → p.resolve ⟨name⟩ = some w) ∧
    (p.record.get? name = none →
      (∀ c, p.FirstHolds c name → p.resolve ⟨name⟩ = p.resolve ⟨c.key ++ "." ++ name⟩ ∧
        p.resolve ⟨name⟩ = p.heldIn c name) ∧
      ((∀ c, p.heldIn c name = none) → p.resolve ⟨name⟩ = none)) ∧
    ∀ q : Profile, q.record.isObject = true → p.SameUnder q name →
      ((∀ c : Category, p.SameUnder q c.key) → p.resolve ⟨name⟩ = q.resolve ⟨name⟩) ∧
      (∀ c, p.FirstHolds c name →
        (∀ d : Category, d.position ≤ c.position → p.SameUnder q d.key) →
        p.resolve ⟨name⟩ = q.resolve ⟨name⟩) ∧
      ((∀ c : Category, p.SameUnder q c.key ∨ p.hasGroup c = false ∧ q.hasGroup c = false) →
        p.resolve ⟨name⟩ = q.resolve ⟨name⟩) := by
  have hresolve := resolve_bare hp hbare
  refine ⟨?_, ?_, ?_⟩
  · intro w hw
    simp [hresolve, hw]
  · intro hnone
    rw [hnone, Option.none_or] at hresolve
    refine ⟨?_, ?_⟩
    · intro c hc
      have hscan := hresolve.trans (scan_eq_heldIn hc)
      exact ⟨hscan.trans (resolve_in_category hp hbare hc.held).symm, hscan⟩
    · intro hheld
      rw [hresolve, scan_eq_none hheld]
  · intro q hq hname
    refine ⟨?_, ?_, ?_⟩
    · intro hcategories
      exact resolve_congr hp hq hbare hname fun c _ ↦ (hcategories c).heldIn_eq
    · intro c hc hcategories
      refine resolve_congr hp hq hbare hname fun d hreached ↦ (hcategories d ?_).heldIn_eq
      -- a scan does not get past the first category that holds the name
      refine Nat.le_of_not_lt fun hlt ↦ ?_
      have hheld := hc.held
      simp [hreached c hlt] at hheld
    · intro hcategories
      refine resolve_congr hp hq hbare hname fun c _ ↦ ?_
      rcases hcategories c with hsame | ⟨hpc, hqc⟩
      · exact hsame.heldIn_eq
      · rw [heldIn_eq_none hpc, heldIn_eq_none hqc]

/-- A name that is a numeral, under which a list of places could be indexed: a path goes into the
list, but the bare name stands for the `null` of the social group.  It keeps doing so when the
list is replaced by a text and the family behind is changed. -/
theorem numeral_is_not_looked_for_in_a_list :
    let p : Profile := ⟨.obj [
      ("location", .arr [.str "Bihar"]),
      ("social", .obj [("0", .null)]),
      ("family", .obj [("0", .str "Sita")])]⟩
    let q : Profile := ⟨.obj [
      ("location", .str "Bihar"),
      ("social", .obj [("0", .null)]),
      ("family", .obj [("0", .str "Sita")])]⟩
    let r : Profile := ⟨.obj [
      ("location", .arr [.str "Bihar"]),
      ("social", .obj [("0", .null)]),
      ("family", .obj [("0", .str "Gita"), ("size", .null)])]⟩
    p.FirstHolds .social "0" ∧ (p.resolve ⟨"location.0"⟩).isSome = true ∧
      p.resolve ⟨"0"⟩ = some .null ∧ p.resolve ⟨"0"⟩ = p.resolve ⟨"social.0"⟩ ∧
      p.resolve ⟨"0"⟩ = q.resolve ⟨"0"⟩ ∧ p.resolve ⟨"0"⟩ = r.resolve ⟨"0"⟩ := by
  intro p q r
  have hfirst : p.FirstHolds .social "0" := by
    refine ⟨by decide +kernel, fun d hd ↦ ?_⟩
    cases d <;> first | rfl | exact absurd hd (by decide)
  have hbare : '.' ∉ "0".toList := by decide
  obtain ⟨-, hscan, hchange⟩ := bare_names_agree_with_paths (p := p) rfl hbare
  obtain ⟨hpath, hnull⟩ := (hscan rfl).1 .social hfirst
  refine ⟨hfirst, by decide +kernel, hnull, hpath, ?_, ?_⟩
  · refine (hchange q rfl rfl).2.2 fun c ↦ ?_
    cases c with
    | location => exact .inr ⟨rfl, rfl⟩
    | _ => exact .inl rfl
  · refine (hchange r rfl rfl).2.1 .social hfirst fun d hd ↦ ?_
    cases d <;> first | rfl | exact absurd hd (by decide)

end Profile

end Welfare
