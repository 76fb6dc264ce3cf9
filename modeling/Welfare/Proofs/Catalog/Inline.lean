import Welfare.Assessment
import Welfare.Proofs.Catalog.Attachment
import Welfare.Proofs.Scheme.Fields

/-!
# Rule sets apart and in place

A rule set may stand apart, with the id of its scheme, or in its place inside the scheme.  The two
are read along different ways: apart, the members are put aside until the id is found, and only then
read as rules; in place, they are read at once.  Both come to the same rules, so that it does not
matter where an author writes them.

* `StandaloneRules.decode_eq_ok_iff` — what is read apart is what is read in place.
* `Json.withEngineRules` — the value of a scheme with a rule set put in its place.
* `Scheme.decode_withEngineRules` — what is read from it: the scheme under these rules.
* `Scheme.decodeList_withFirstRules` — the same for a whole catalog, the first rule set of each
  scheme put in its place.
* `standalone_rules_are_inline_rules` — attaching a rule set is writing it in place.
-/

set_option autoImplicit false

namespace Welfare

open Json (Decoded Document Origin Shape)
open Json.Document (ofJson ofJsonMembers)

/-! ## Rules that stand apart -/

namespace StandaloneRules

variable {o : Json} {id : String}

/-- Leaving the id out leaves the rules as they are. -/
theorem rules?_filter {ms : List Json.Member} (hms : (ms.map Prod.fst).Nodup) (origin : Origin) :
    rules? (ms.filter (·.1 != idName)) =
      (RuleSet.decode origin (ofJson (.obj ms))).toOption := by
  have hothers := nodup_filter hms (·.1 != idName)
  rw [rules?, RuleSet.toOption_readMembers hothers, RuleSet.toOption_decode_obj hms]
  refine RuleSet.ofFields_congr (fun key hkey ↦ ?_) .aside origin
  have hne : key ≠ idName := fun heq ↦ absurd (heq ▸ hkey) (by decide)
  have hfilter := lookup_filter (fun k ↦ k != idName) ms key
  exact hfilter.trans (if_pos (bne_iff_ne.2 hne))

/-- What is read apart is what is read in place. -/
theorem decode_eq_ok_iff (ho : o.DistinctKeys) (hid : o.get? idName = some (.str id))
    (origin : Origin) (r : StandaloneRules) :
    decode (ofJson o) = .ok r ↔
      r.schemeId = id ∧ RuleSet.decode origin (ofJson o) = .ok r.rules := by
  cases o with
  | obj ms =>
    have hlookup : ms.lookup idName = some (.str id) := hid
    rw [← Json.toOption_eq_some, ← Json.toOption_eq_some, toOption_decode ho.1, hlookup,
      rules?_filter ho.1 origin]
    obtain ⟨schemeId, rules⟩ := r
    show ((RuleSet.decode origin (ofJson (.obj ms))).toOption.bind fun rules ↦ some _) = _ ↔ _
    rw [Option.bind_eq_some_iff]
    constructor
    · rintro ⟨rules', hrules, heq⟩
      cases heq
      exact ⟨rfl, hrules⟩
    · rintro ⟨rfl, hrules⟩
      exact ⟨rules, hrules, rfl⟩
  | _ => cases hid

end StandaloneRules

/-! ## Rules in place -/

/-- The value of a scheme with a rule set put in its place. -/
def Json.withEngineRules (v o : Json) : Json :=
  v.put "eligibility_criteria" (((v.get? "eligibility_criteria").getD .null).put "engine_rules" o)

variable {v x o : Json} {rules : RuleSet} {origin origin' : Origin}

namespace Criteria

/-- What is kept of criteria. -/
theorem other_of_decode (hx : x.DistinctKeys) {c : Criteria}
    (h : decode origin (ofJson x) = .ok c) : c.other = x.others fieldNames := by
  obtain ⟨draft, hread, _⟩ := Json.Decoded.map_eq_ok.1 h
  obtain ⟨ms, rfl, _⟩ := Shape.exists_of_readObject hread
  have hfields := toOption_decode_obj hx.1 origin
  rw [h] at hfields
  obtain ⟨rules, _, hc⟩ := Option.bind_eq_some_iff.1 hfields.symm
  cases hc
  rfl

/-- Criteria with a rule set put in its place, or with nothing but a rule set. -/
theorem decode_put (hx : x.DistinctKeys) (ho : o.DistinctKeys) {c : Option Criteria}
    (h : (ofJson x).optional (decode origin) = .ok c)
    (hrules : RuleSet.decode origin' (ofJson o) = .ok rules) :
    decode origin' (ofJson (x.put "engine_rules" o)) =
      .ok { c.getD {} with rules := some rules } := by
  have hnull : o ≠ .null := by
    rintro rfl
    cases hrules
  have hother : (c.getD {}).other = x.others fieldNames := by
    cases c with
    | none =>
      have hnull : x = .null := by
        by_contra hne
        exact Document.ofJson_ne_null hne (Document.optional_eq_none h)
      rw [hnull]
      rfl
    | some c => exact other_of_decode hx (Document.optional_eq_some h)
  have hfield : (x.put "engine_rules" o).field? "engine_rules"
      (Document.optional (RuleSet.decode origin')) = some (some (some rules)) := by
    rw [Json.field?_of_some ((Json.get?_put x _ o _).trans (if_pos rfl)),
      Document.optional_ofJson hnull hrules]
    rfl
  rw [← Json.toOption_eq_some]
  refine (toOption_decode_obj (hx.put ho "engine_rules").1 origin').trans ?_
  show ofFields origin' (x.put "engine_rules" o) = _
  rw [ofFields, hfield, Json.others_put hx ho (by decide), ← hother]
  rfl

end Criteria

namespace Scheme

variable {s : Scheme}

/-- The fields of a scheme that is read. -/
theorem fields_of_decode (hv : v.DistinctKeys) (h : decode origin (ofJson v) = .ok s) :
    v.field? "scheme_id" Document.asString = some (some s.id) ∧
      (∃ name, v.field? "scheme_name" Document.asString = some name ∧ s.name = name.getD "") ∧
      (∃ c, v.field? "eligibility_criteria" (Document.optional (Criteria.decode origin)) = some c ∧
        s.criteria = c.join) ∧
      s.metadata = v.others fieldNames := by
  obtain ⟨draft, hread, _⟩ := Json.Decoded.bind_eq_ok.1 h
  obtain ⟨ms, rfl, _⟩ := Shape.exists_of_readObject hread
  have hfields := toOption_decode_obj hv.1 origin
  rw [h] at hfields
  obtain ⟨id, hid, hfields⟩ := Option.bind_eq_some_iff.1 hfields.symm
  obtain ⟨name, hname, hfields⟩ := Option.bind_eq_some_iff.1 hfields
  obtain ⟨c, hc, hfields⟩ := Option.bind_eq_some_iff.1 hfields
  obtain ⟨id, rfl, hfields⟩ := Option.bind_eq_some_iff.1 hfields
  cases hfields
  exact ⟨hid, ⟨name, hname, rfl⟩, ⟨c, hc, rfl⟩, rfl⟩

/-- With a rule set in its place the scheme is read under these rules. -/
theorem decode_withEngineRules (hv : v.DistinctKeys) (ho : o.DistinctKeys)
    (h : decode origin (ofJson v) = .ok s)
    (hrules : RuleSet.decode origin' (ofJson o) = .ok rules) :
    decode origin' (ofJson (v.withEngineRules o)) = .ok (s.withRules rules) := by
  obtain ⟨hid, ⟨name, hname, hname'⟩, ⟨c, hc, hc'⟩, hmetadata⟩ := fields_of_decode hv h
  have hx := hv.getD_get? "eligibility_criteria"
  have hx' := hx.put ho "engine_rules"
  have hcriteria := Criteria.decode_put hx ho (Json.optional_of_field? hc) hrules
  have hsame : ∀ key ≠ "eligibility_criteria", (v.withEngineRules o).get? key = v.get? key :=
    fun key hkey ↦ (Json.get?_put v _ _ key).trans (if_neg hkey)
  have hfield : (v.withEngineRules o).field? "eligibility_criteria"
      (Document.optional (Criteria.decode origin')) =
        some (some (some { s.criteria.getD {} with rules := some rules })) := by
    have hne := Json.put_ne_null ((v.get? "eligibility_criteria").getD .null) "engine_rules" o
    rw [Json.withEngineRules, Json.field?_of_some ((Json.get?_put v _ _ _).trans (if_pos rfl)),
      Document.optional_ofJson hne hcriteria, hc']
    rfl
  rw [← Json.toOption_eq_some]
  refine (toOption_decode_obj (hv.put hx' "eligibility_criteria").1 origin').trans ?_
  show ofFields origin' (v.withEngineRules o) = _
  rw [ofFields, Json.field?_congr (hsame _ (by decide)) fun _ ↦ rfl, hid,
    Json.field?_congr (hsame _ (by decide)) fun _ ↦ rfl, hname, hfield]
  show some (Scheme.mk s.id (name.getD "") _ ((v.withEngineRules o).others fieldNames)) = _
  rw [← hname', Json.withEngineRules, Json.others_put hv hx' (by decide), ← hmetadata]
  rfl

/-- The id of a scheme that is read. -/
theorem get?_id_of_decode (hv : v.DistinctKeys) (h : decode origin (ofJson v) = .ok s) :
    v.get? "scheme_id" = some (.str s.id) := by
  have hid := (fields_of_decode hv h).1
  cases hw : v.get? "scheme_id" with
  | none =>
    rw [Json.field?_of_none hw] at hid
    cases hid
  | some w =>
    rw [Json.field?_of_some hw] at hid
    obtain ⟨id, hread, heq⟩ := Option.map_eq_some_iff.1 hid
    cases heq
    rw [Document.asString_ofJson_eq_ok_iff.1 (Json.toOption_eq_some.1 hread)]

end Scheme

/-! ## Whole catalogs -/

/-- The id of a rule set that is read apart. -/
theorem StandaloneRules.get?_id_of_decode (ho : o.DistinctKeys) {r : StandaloneRules}
    (h : decode (ofJson o) = .ok r) : o.get? idName = some (.str r.schemeId) := by
  obtain ⟨draft, hread, _⟩ := Json.Decoded.bind_eq_ok.1 h
  obtain ⟨ms, rfl, _⟩ := Shape.exists_of_readObject hread
  have hdecode := toOption_decode ho.1
  rw [h] at hdecode
  obtain ⟨w, hw, hdecode⟩ := Option.bind_eq_some_iff.1 hdecode.symm
  obtain ⟨id, hid, hdecode⟩ := Option.bind_eq_some_iff.1 hdecode
  obtain ⟨rules, _, heq⟩ := Option.bind_eq_some_iff.1 hdecode
  cases heq
  rw [Document.asString_ofJson_eq_ok_iff.1 (Json.toOption_eq_some.1 hid)] at hw
  exact hw

/-- Whether the value of a scheme or of a rule set has an id. -/
def Json.hasId (id : String) (v : Json) : Bool :=
  (v.get? "scheme_id").bind Json.string? == some id

theorem Json.hasId_of_get? {id : String} (h : v.get? "scheme_id" = some (.str id)) (id' : String) :
    v.hasId id' = (id == id') := by
  rw [hasId, h]
  rfl

/-- The value of a scheme with the first rule set that has its id put in its place. -/
def Json.withFirstRules (os : List Json) (v : Json) : Json :=
  match os.find? fun o ↦ ((v.get? "scheme_id").bind Json.string?).any (hasId · o) with
  | some o => v.withEngineRules o
  | none => v

/-- The first rule set with an id is found at the same place among values and among records. -/
theorem find?_records {os : List Json} {records : List StandaloneRules} (id : String)
    (hos : Json.DistinctItems os)
    (h : List.Forall₂ (fun o r ↦ StandaloneRules.decode (ofJson o) = .ok r) os records) :
    Option.Rel (fun o r ↦ o.DistinctKeys ∧ StandaloneRules.decode (ofJson o) = .ok r)
      (os.find? (Json.hasId id)) (records.find? (·.schemeId == id)) := by
  induction h with
  | nil => exact .none
  | @cons o r os records hr _ ih =>
    have hid : o.hasId id = (r.schemeId == id) :=
      Json.hasId_of_get? (StandaloneRules.get?_id_of_decode hos.1 hr) id
    rw [List.find?_cons, List.find?_cons, hid]
    split
    · exact .some ⟨hos.1, hr⟩
    · exact ih hos.2

namespace Scheme

variable {s : Scheme} {os : List Json} {records : List StandaloneRules}

/-- A scheme with the first rule set of its id in its place is read under the rules that are
attached to it. -/
theorem decode_withFirstRules (hv : v.DistinctKeys) (hos : Json.DistinctItems os)
    (h : decode origin (ofJson v) = .ok s)
    (hrecords : List.Forall₂ (fun o r ↦ StandaloneRules.decode (ofJson o) = .ok r) os records) :
    decode origin (ofJson (v.withFirstRules os)) =
      .ok (match records.find? (·.schemeId == s.id) with
        | some record => s.withRules record.rules
        | none => s) := by
  have hfind := find?_records s.id hos hrecords
  rw [Json.withFirstRules, get?_id_of_decode hv h]
  show decode origin (ofJson (match os.find? (Json.hasId s.id) with | some o => _ | none => _)) = _
  generalize os.find? (Json.hasId s.id) = found at hfind ⊢
  generalize records.find? (·.schemeId == s.id) = found' at hfind ⊢
  cases hfind with
  | none => exact h
  | @some o r hr =>
    obtain ⟨ho, hr⟩ := hr
    have hid := StandaloneRules.get?_id_of_decode ho hr
    have hrules := ((StandaloneRules.decode_eq_ok_iff ho hid origin r).1 hr).2
    exact decode_withEngineRules hv ho h hrules

/-- Attaching rule sets to the schemes of a catalog gives the schemes that are read from the catalog
with the rule sets in their places. -/
theorem decodeList_withFirstRules {vs : List Json} {schemes : List Scheme}
    (hvs : Json.DistinctItems vs) (hos : Json.DistinctItems os)
    (hschemes : decodeList origin (ofJson (.arr vs)) = .ok schemes)
    (hrecords : StandaloneRules.decodeList (ofJson (.arr os)) = .ok records) :
    decodeList origin (ofJson (.arr (vs.map (Json.withFirstRules os)))) =
      .ok (attachRules schemes records) := by
  obtain ⟨_, heq, hread⟩ := Document.listOf_ofJson_eq_ok_iff.1 hschemes
  obtain ⟨_, heq', hread'⟩ := Document.listOf_ofJson_eq_ok_iff.1 hrecords
  cases heq
  cases heq'
  refine Document.listOf_ofJson_eq_ok_iff.2 ⟨_, rfl, ?_⟩
  clear hschemes
  induction hread with
  | nil => exact .nil
  | cons hs _ ih => exact .cons (decode_withFirstRules hvs.1 hos hs hread') (ih hvs.2)

end Scheme

/-! ## Apart and in place -/

/-- **Rule sets apart and in place are the same rule sets.**  An object with an id is read as a rule
set that stands apart exactly when it is read as one in its place, and the rules are the same.
Attaching it to a scheme with its id gives the scheme that is read when it is written in its place
in the criteria, in any order of members; so every profile is assessed alike. -/
theorem standalone_rules_are_inline_rules {id : String} (ho : o.DistinctKeys)
    (hid : o.get? "scheme_id" = some (.str id)) (origin origin' : Origin) :
    ((∃ r, StandaloneRules.decode (ofJson o) = .ok r) ↔
      ∃ rules, RuleSet.decode origin (ofJson o) = .ok rules) ∧
    ∀ r, StandaloneRules.decode (ofJson o) = .ok r →
      r.schemeId = id ∧ RuleSet.decode origin (ofJson o) = .ok r.rules ∧
      ∀ v s, v.DistinctKeys → Scheme.decode origin (ofJson v) = .ok s → s.id = id →
        ∃ t, attachRules [s] [r] = [t] ∧
          (∀ w, w.IsOrderingOf (v.withEngineRules o) →
            Scheme.decode origin' (ofJson w) = .ok t) ∧
          ∀ p, (attachRules [s] [r]).map (·.assess p) = [t.assess p] := by
  have hiff := StandaloneRules.decode_eq_ok_iff ho hid
  refine ⟨⟨fun ⟨r, hr⟩ ↦ ⟨r.rules, ((hiff origin r).1 hr).2⟩, fun ⟨rules, hrules⟩ ↦
    ⟨⟨id, rules⟩, (hiff origin _).2 ⟨rfl, hrules⟩⟩⟩, fun r hr ↦ ?_⟩
  obtain ⟨hschemeId, hrules⟩ := (hiff origin r).1 hr
  refine ⟨hschemeId, hrules, fun v s hv hs hsid ↦ ?_⟩
  have hattach : attachRules [s] [r] = [s.withRules r.rules] := by
    have hsame : r.schemeId = s.id := hschemeId.trans hsid.symm
    simp [attachRules, hsame]
  have hdecode : Scheme.decode origin' (ofJson (v.withEngineRules o)) = .ok (s.withRules r.rules) :=
    Scheme.decode_withEngineRules hv ho hs ((hiff origin' r).1 hr).2
  have hdistinct : (v.withEngineRules o).DistinctKeys :=
    hv.put ((hv.getD_get? "eligibility_criteria").put ho "engine_rules") "eligibility_criteria"
  refine ⟨s.withRules r.rules, hattach, fun w hw ↦ ?_, fun p ↦ by rw [hattach]; rfl⟩
  exact (Scheme.orderFree_decode origin').of_isOrderingOf hw hdistinct hdecode

/-- A rule set for farmers with a weight that is not a number, for a scheme whose criteria are
`null`. -/
theorem farmersRules_in_place :
    let o : Json := .obj [
      ("inclusion_rules", .arr [.obj [
        ("field", .str "occupation.type"),
        ("operator", .str "not_empty"),
        ("weight", .str "ten")]]),
      ("minimum_score", .null),
      ("scheme_id", .str "SCH001")]
    let v : Json := .obj [
      ("eligibility_criteria", .null),
      ("launch_year", .num (.int 2019 (by decide))),
      ("scheme_id", .str "SCH001")]
    o.DistinctKeys ∧ o.get? "scheme_id" = some (.str "SCH001") ∧
    ∃ r s t, StandaloneRules.decode (ofJson o) = .ok r ∧
      RuleSet.decode .value (ofJson o) = .ok r.rules ∧
      Scheme.decode .value (ofJson v) = .ok s ∧
      attachRules [s] [r] = [t] ∧
      Scheme.decode .text (ofJson (v.withEngineRules o)) = .ok t ∧
      s.rules = none ∧ t.rules = some r.rules := by
  intro o v
  have ho : o.SortedKeys := by decide
  have hv : v.SortedKeys := by decide
  have hplaced : (v.withEngineRules o).SortedKeys := by decide
  obtain ⟨⟨_, hread⟩, hsame⟩ :=
    standalone_rules_are_inline_rules ho.distinctKeys rfl .value .text
  obtain ⟨⟨id, rules⟩, hr⟩ := hread ⟨_, rfl⟩
  obtain ⟨rfl, hrules, hplace⟩ := hsame _ hr
  obtain ⟨t, hattach, hdecode, _⟩ := hplace v _ hv.distinctKeys rfl rfl
  refine ⟨ho.distinctKeys, rfl, _, _, t, hr, hrules, rfl, hattach, ?_, rfl, ?_⟩
  · exact hdecode _ (.refl hplaced.distinctKeys)
  · cases hattach
    rfl

end Welfare
