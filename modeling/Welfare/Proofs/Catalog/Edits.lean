import Welfare.Proofs.Scheme.Fields

/-!
# Edits that a catalog survives

Some members of a rule or a rule set may hold anything: whatever an author writes there, the catalog
is read, and everything else in it is read as before.  An edit of such members is described once as
a relation between values, and what survives it is carried from a rule through the rule set and the
criteria to the whole catalog.

* `Rule.Edited`, `RuleSet.Edited`, `Criteria.Edited`, `Scheme.Edited` — values before and after any
  number of edits.
* `Rule.frame`, `RuleSet.frame`, `Criteria.frame`, `Scheme.frame` — what edits leave alone.
* `Json.Survives` — what is read is the same before and after, but for what was edited.
* `Scheme.survives` — schemes survive edits.
-/

set_option autoImplicit false

namespace Welfare

open Json (Decoded Document Origin)
open Json.Document (ofJson)

/-! ## Reading before and after -/

namespace Json

variable {α β γ : Type} {read : Document → Decoded α} {f : α → γ} {edit : Json → Json → Prop}

/-- What `f` shows of what is read is the same before and after an edit. -/
def Survives (edit : Json → Json → Prop) (read : Document → Decoded α) (f : α → γ) : Prop :=
  ∀ v w : Json, v.DistinctKeys → w.DistinctKeys → edit v w →
    (read (ofJson v)).toOption.map f = (read (ofJson w)).toOption.map f

/-- The value is the same, or both are lists that were edited item by item. -/
def ListEdited (edit : Json → Json → Prop) (v w : Json) : Prop :=
  v = w ∨ ∃ xs ys, v = .arr xs ∧ w = .arr ys ∧ List.Forall₂ edit xs ys

/-- Objects that agree except under some keys. -/
structure AgreeApart (keys : List String) (v w : Json) : Prop where
  left : v.isObject = true
  right : w.isObject = true
  get?_eq : ∀ key ∉ keys, v.get? key = w.get? key

/-- Putting a member in its place changes nothing under other keys. -/
theorem agreeApart_put {keys : List String} {v : Json} {key : String} (hv : v.isObject = true)
    (hkey : key ∈ keys) (x : Json) : v.AgreeApart keys (v.put key x) where
  left := hv
  right := rfl
  get?_eq k hk := by
    have hne : k ≠ key := fun heq ↦ hk (heq ▸ hkey)
    rw [get?_put, if_neg hne]

/-- Putting a member in its place is an edit of this member alone. -/
theorem rel_get?_put {v x y : Json} {key : String} (hrefl : ∀ z, edit z z)
    (hx : v.get? key = some x) (hxy : edit x y) (k : String) :
    Option.Rel edit (v.get? k) ((v.put key y).get? k) := by
  rw [get?_put]
  by_cases hk : k = key
  · rw [if_pos hk, hk, hx]
    exact .some hxy
  · rw [if_neg hk]
    cases v.get? k with
    | none => exact .none
    | some z => exact .some (hrefl z)

/-- No edit of members makes `null` of an object, or an object of `null`. -/
theorem eq_null_iff {keys : List String} {v w : Json} (h : v = w ∨ v.AgreeApart keys w) :
    v = .null ↔ w = .null := by
  rcases h with rfl | h
  · exact Iff.rfl
  · obtain ⟨ms, rfl⟩ := exists_of_isObject h.left
    obtain ⟨ns, rfl⟩ := exists_of_isObject h.right
    exact iff_of_false nofun nofun

/-- Steps that go on from `f` alone give the same where `f` does. -/
theorem bind_eq_of_map_eq {x y : Option α} {g h : α → Option β} (hxy : x.map f = y.map f)
    (hgh : ∀ a b, f a = f b → g a = h b) : x.bind g = y.bind h := by
  cases x with
  | none =>
    cases y with
    | none => rfl
    | some b => cases hxy
  | some a =>
    cases y with
    | none => cases hxy
    | some b => exact hgh a b (Option.some.inj hxy)

namespace Survives

theorem mapM (h : Survives edit read f) {xs ys : List Json} (hxs : DistinctItems xs)
    (hys : DistinctItems ys) (hedit : List.Forall₂ edit xs ys) :
    ((Document.ofJsonItems xs).mapM read).toOption.map (List.map f) =
      ((Document.ofJsonItems ys).mapM read).toOption.map (List.map f) := by
  induction hedit with
  | nil => rfl
  | @cons x y xs ys hxy _ ih =>
    simp only [Document.ofJsonItems, List.mapM_cons, toOption_bind, Option.map_bind]
    refine bind_eq_of_map_eq (h x y hxs.1 hys.1 hxy) fun a b hab ↦ ?_
    simp only [Function.comp_apply, Option.map_bind]
    refine bind_eq_of_map_eq (ih hxs.2 hys.2) fun as bs habs ↦ ?_
    show some (f a :: as.map f) = some (f b :: bs.map f)
    rw [hab, habs]

theorem listOf (h : Survives edit read f) :
    Survives (ListEdited edit) (Document.listOf read) (List.map f) := by
  rintro v w hv hw (rfl | ⟨xs, ys, rfl, rfl, hedit⟩)
  · rfl
  · have hlist : ∀ zs, (Document.listOf read (ofJson (.arr zs))).toOption =
        ((Document.ofJsonItems zs).mapM read).toOption := fun zs ↦ by
      rw [ofJson, Document.listOf, toOption_bind]
      exact Option.bind_fun_some _
    rw [hlist, hlist, h.mapM hv hw hedit]

variable (hnull : ∀ v w, edit v w → (v = .null ↔ w = .null))
include hnull

theorem optional (h : Survives edit read f) :
    Survives edit (Document.optional read) (Option.map f) := by
  intro v w hv hw hedit
  by_cases hvnull : v = .null
  · rw [hvnull, (hnull v w hedit).1 hvnull]
  · have hwnull : w ≠ .null := fun hw ↦ hvnull ((hnull v w hedit).2 hw)
    rw [Document.optional_of_ne_null (Document.ofJson_ne_null hvnull),
      Document.optional_of_ne_null (Document.ofJson_ne_null hwnull), toOption_bind, toOption_bind,
      Option.map_bind, Option.map_bind]
    refine bind_eq_of_map_eq (h v w hv hw hedit) fun a b hab ↦ ?_
    exact congrArg (fun c ↦ some (some c)) hab

theorem orDefault [Inhabited α] (h : Survives edit read f) :
    Survives edit (Document.orDefault read) f := by
  intro v w hv hw hedit
  rw [Document.orDefault, Document.orDefault, toOption_bind, toOption_bind, Option.map_bind,
    Option.map_bind]
  refine bind_eq_of_map_eq (h.optional hnull v w hv hw hedit) fun a b hab ↦ ?_
  have hdefault := congrArg (·.getD (f default)) hab
  simp only [Option.getD_map] at hdefault
  exact congrArg some hdefault

omit hnull

/-- A field survives edits of its member. -/
theorem field? (h : Survives edit read f) {v w : Json} {name : String} (hv : v.DistinctKeys)
    (hw : w.DistinctKeys) (hedit : Option.Rel edit (v.get? name) (w.get? name)) :
    (v.field? name read).map (Option.map f) = (w.field? name read).map (Option.map f) := by
  cases hx : v.get? name with
  | none =>
    cases hy : w.get? name with
    | none => rw [field?_of_none hx, field?_of_none hy]
    | some y =>
      rw [hx, hy] at hedit
      cases hedit
  | some x =>
    cases hy : w.get? name with
    | none =>
      rw [hx, hy] at hedit
      cases hedit
    | some y =>
      rw [hx, hy] at hedit
      cases hedit with
      | some hxy =>
        rw [field?_of_some hx, field?_of_some hy, Option.map_map, Option.map_map]
        have hread := congrArg (Option.map some) (h x y (hv.get? hx) (hw.get? hy) hxy)
        rwa [Option.map_map, Option.map_map] at hread

end Survives

end Json

variable {v w : Json} {origin : Origin}

/-! ## Rules -/

namespace Rule

/-- A rule before and after edits of the members that may hold anything. -/
def Edited (v w : Json) : Prop :=
  v = w ∨ v.AgreeApart ["operator", "value", "weight", "priority_boost"] w

/-- Any value may be put under one of these keys. -/
theorem edited_put (hv : v.isObject = true) {key : String}
    (hkey : key ∈ ["operator", "value", "weight", "priority_boost"]) (x : Json) :
    Edited v (v.put key x) :=
  Or.inr (Json.agreeApart_put hv hkey x)

/-- A rule without what is read from the members that may hold anything. -/
def frame (r : Rule) : Rule :=
  { r with operator := .unsupported "", value := .null, weight := none, priorityBoost := none }

/-- What edits leave alone is read from the other members. -/
theorem map_frame_ofFields (v : Json) : (ofFields v).map frame = (do
    let id ← v.field? "rule_id" (Document.optional Document.asString)
    let field ← v.field? "field" Document.asString
    let disqualifies ← v.field? "disqualifies" (Document.optional Document.asBool)
    let explanation ← v.field? "explanation" Document.asString
    (ofDraft { id, field, disqualifies, explanation }).map frame) := by
  simp only [ofFields, Option.bind_eq_bind, Option.map_bind, Function.comp_def]
  refine congrArg _ (funext fun id ↦ congrArg _ (funext fun field ↦ ?_))
  refine congrArg _ (funext fun disqualifies ↦ congrArg _ (funext fun explanation ↦ ?_))
  cases field with
  | none => rfl
  | some path => rfl

/-- Rules survive edits. -/
theorem survives (origin : Origin) : Json.Survives Edited (decode origin) frame := by
  rintro v w hv hw (rfl | hedit)
  · rfl
  · obtain ⟨ms, rfl⟩ := Json.exists_of_isObject hedit.left
    obtain ⟨ns, rfl⟩ := Json.exists_of_isObject hedit.right
    have hsame := hedit.get?_eq
    rw [toOption_decode_obj hv.1, toOption_decode_obj hw.1, map_frame_ofFields, map_frame_ofFields,
      Json.field?_congr (hsame "rule_id" (by decide)) fun _ ↦ rfl,
      Json.field?_congr (hsame "field" (by decide)) fun _ ↦ rfl,
      Json.field?_congr (hsame "disqualifies" (by decide)) fun _ ↦ rfl,
      Json.field?_congr (hsame "explanation" (by decide)) fun _ ↦ rfl]

end Rule

/-! ## Rule sets -/

namespace RuleSet

/-- The members that hold rules. -/
def listNames : List String := ["inclusion_rules", "exclusion_rules", "special_priority_rules"]

/-- A rule set before and after edits of its rules, and of the member that may hold anything. -/
structure Changed (v w : Json) : Prop extends
    v.AgreeApart ("minimum_score" :: listNames) w where
  lists : ∀ key ∈ listNames, Option.Rel (Json.ListEdited Rule.Edited) (v.get? key) (w.get? key)

def Edited (v w : Json) : Prop := v = w ∨ Changed v w

/-- An edit of a list of rules is an edit of the rule set. -/
theorem edited_put (hv : v.isObject = true) {key : String} (hkey : key ∈ listNames) {x y : Json}
    (hx : v.get? key = some x) (hxy : Json.ListEdited Rule.Edited x y) : Edited v (v.put key y) :=
  Or.inr ⟨Json.agreeApart_put hv (List.mem_cons_of_mem _ hkey) y,
    fun k _ ↦ Json.rel_get?_put (fun _ ↦ Or.inl rfl) hx hxy k⟩

/-- Any value may be put in the place of the minimum. -/
theorem edited_put_minimumScore (hv : v.isObject = true) (x : Json) :
    Edited v (v.put "minimum_score" x) := by
  refine Or.inr ⟨Json.agreeApart_put hv List.mem_cons_self x, fun key hkey ↦ ?_⟩
  have hne : key ≠ "minimum_score" := fun heq ↦ absurd (heq ▸ hkey) (by decide)
  rw [Json.get?_put, if_neg hne]
  cases v.get? key with
  | none => exact .none
  | some z => exact .some (Or.inl rfl)

/-- A rule set without what is read from the members that may hold anything. -/
def frame (s : RuleSet) : RuleSet :=
  { s with
    inclusion := s.inclusion.map Rule.frame
    exclusion := s.exclusion.map Rule.frame
    priority := s.priority.map Rule.frame
    minimumScore := none }

/-- The frame of a rule set goes on from the frames of its rules. -/
theorem frame_ofDraft (draft : Draft) :
    frame (ofDraft draft) = ofDraft { draft with
      inclusion := draft.inclusion.map (List.map Rule.frame)
      exclusion := draft.exclusion.map (List.map Rule.frame)
      priority := draft.priority.map (List.map Rule.frame)
      minimumScore := none } := by
  have hgetD : ∀ x : Option (List Rule),
      (x.getD []).map Rule.frame = (x.map (List.map Rule.frame)).getD [] := by
    intro x
    cases x <;> rfl
  simp only [frame, ofDraft, hgetD]
  rfl

/-- A list of rules that may be left out survives edits of its rules. -/
theorem survives_list (origin : Origin) : Json.Survives (Json.ListEdited Rule.Edited)
    (Document.orDefault (Document.listOf (Rule.decode origin))) (List.map Rule.frame) := by
  refine (Rule.survives origin).listOf.orDefault ?_
  rintro v w (rfl | ⟨xs, ys, rfl, rfl, _⟩)
  · exact Iff.rfl
  · exact iff_of_false nofun nofun

/-- Rule sets survive edits. -/
theorem survives (origin : Origin) : Json.Survives Edited (decode origin) frame := by
  rintro v w hv hw (rfl | hedit)
  · rfl
  · obtain ⟨ms, rfl⟩ := Json.exists_of_isObject hedit.left
    obtain ⟨ns, rfl⟩ := Json.exists_of_isObject hedit.right
    have hsame := hedit.get?_eq
    have hlist := fun key hkey ↦ (survives_list origin).field? hv hw (hedit.lists key hkey)
    rw [toOption_decode_obj hv.1, toOption_decode_obj hw.1]
    simp only [ofFields, Option.bind_eq_bind, Option.map_bind, Function.comp_def, Option.pure_def,
      Option.map_some]
    refine Json.bind_eq_of_map_eq (hlist "inclusion_rules" (by decide)) fun inc inc' hinc ↦ ?_
    refine Json.bind_eq_of_map_eq (hlist "exclusion_rules" (by decide)) fun exc exc' hexc ↦ ?_
    refine Json.bind_eq_of_map_eq (hlist "special_priority_rules" (by decide))
      fun pri pri' hpri ↦ ?_
    rw [Json.field?_congr (hsame "rule_type" (by decide)) fun _ ↦ rfl,
      Json.field?_congr (hsame "logic" (by decide)) fun _ ↦ rfl,
      Json.field?_congr (hsame "alternative_schemes" (by decide)) fun _ ↦ rfl]
    simp only [frame_ofDraft, hinc, hexc, hpri]

end RuleSet

/-! ## Criteria -/

namespace Criteria

/-- Criteria before and after edits of their rules. -/
structure Changed (v w : Json) : Prop extends v.AgreeApart fieldNames w where
  rules : Option.Rel RuleSet.Edited (v.get? "engine_rules") (w.get? "engine_rules")

def Edited (v w : Json) : Prop := v = w ∨ Changed v w

/-- An edit of the rules is an edit of the criteria. -/
theorem edited_put (hv : v.isObject = true) {x y : Json} (hx : v.get? "engine_rules" = some x)
    (hxy : RuleSet.Edited x y) : Edited v (v.put "engine_rules" y) :=
  Or.inr ⟨Json.agreeApart_put hv List.mem_cons_self y,
    Json.rel_get?_put (fun _ ↦ Or.inl rfl) hx hxy _⟩

/-- Criteria with the frame of their rules. -/
def frame (c : Criteria) : Criteria := { c with rules := c.rules.map RuleSet.frame }

/-- Criteria survive edits. -/
theorem survives (origin : Origin) : Json.Survives Edited (decode origin) frame := by
  rintro v w hv hw (rfl | hedit)
  · rfl
  · obtain ⟨ms, rfl⟩ := Json.exists_of_isObject hedit.left
    obtain ⟨ns, rfl⟩ := Json.exists_of_isObject hedit.right
    have hnull : ∀ v w, RuleSet.Edited v w → (v = .null ↔ w = .null) :=
      fun v w h ↦ Json.eq_null_iff (h.imp_right RuleSet.Changed.toAgreeApart)
    have hrules := ((RuleSet.survives origin).optional hnull).field? hv hw hedit.rules
    have hother : Json.others fieldNames (.obj ms) = Json.others fieldNames (.obj ns) :=
      Json.others_congr hv.1 hw.1 hedit.get?_eq
    rw [toOption_decode_obj hv.1, toOption_decode_obj hw.1]
    simp only [ofFields, Option.bind_eq_bind, Option.map_bind, Function.comp_def, Option.pure_def,
      Option.map_some]
    refine Json.bind_eq_of_map_eq hrules fun x y hxy ↦ ?_
    simp only [frame, hother, ← Option.join_map_eq_map_join, hxy]

end Criteria

/-! ## Schemes -/

namespace Scheme

/-- A scheme before and after edits of its rules. -/
structure Changed (v w : Json) : Prop extends v.AgreeApart ["eligibility_criteria"] w where
  criteria : Option.Rel Criteria.Edited (v.get? "eligibility_criteria")
    (w.get? "eligibility_criteria")

def Edited (v w : Json) : Prop := v = w ∨ Changed v w

/-- An edit of the criteria is an edit of the scheme. -/
theorem edited_put (hv : v.isObject = true) {x y : Json}
    (hx : v.get? "eligibility_criteria" = some x) (hxy : Criteria.Edited x y) :
    Edited v (v.put "eligibility_criteria" y) :=
  Or.inr ⟨Json.agreeApart_put hv List.mem_cons_self y,
    Json.rel_get?_put (fun _ ↦ Or.inl rfl) hx hxy _⟩

/-- A scheme with the frame of its rules. -/
def frame (s : Scheme) : Scheme := { s with criteria := s.criteria.map Criteria.frame }

/-- Schemes survive edits. -/
theorem survives (origin : Origin) : Json.Survives Edited (decode origin) frame := by
  rintro v w hv hw (rfl | hedit)
  · rfl
  · obtain ⟨ms, rfl⟩ := Json.exists_of_isObject hedit.left
    obtain ⟨ns, rfl⟩ := Json.exists_of_isObject hedit.right
    have hsame := hedit.get?_eq
    have hnull : ∀ v w, Criteria.Edited v w → (v = .null ↔ w = .null) :=
      fun v w h ↦ Json.eq_null_iff (h.imp_right Criteria.Changed.toAgreeApart)
    have hcriteria := ((Criteria.survives origin).optional hnull).field? hv hw hedit.criteria
    have hfields : ["eligibility_criteria"] ⊆ fieldNames := by decide
    have hmetadata : Json.others fieldNames (.obj ms) = Json.others fieldNames (.obj ns) :=
      Json.others_congr hv.1 hw.1 fun key hkey ↦ hsame key fun hmem ↦ hkey (hfields hmem)
    rw [toOption_decode_obj hv.1, toOption_decode_obj hw.1]
    simp only [ofFields, Option.bind_eq_bind, Option.map_bind, Function.comp_def, Option.pure_def,
      Option.map_some]
    rw [Json.field?_congr (hsame "scheme_id" (by decide)) fun _ ↦ rfl,
      Json.field?_congr (hsame "scheme_name" (by decide)) fun _ ↦ rfl]
    refine congrArg _ (funext fun id ↦ congrArg _ (funext fun name ↦ ?_))
    refine Json.bind_eq_of_map_eq hcriteria fun x y hxy ↦ ?_
    refine congrArg _ (funext fun id ↦ ?_)
    simp only [frame, hmetadata, ← Option.join_map_eq_map_join, hxy]

/-- Lists of schemes survive edits of any number of their schemes. -/
theorem survives_list (origin : Origin) :
    Json.Survives (Json.ListEdited Edited) (decodeList origin) (List.map frame) :=
  (survives origin).listOf

end Scheme

end Welfare
