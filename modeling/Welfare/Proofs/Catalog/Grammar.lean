import Welfare.Proofs.Catalog.Edits
import Welfare.Proofs.Json.Accepts

/-!
# What a catalog may look like

The values that are read as rules, rule sets and schemes, described by their members alone.  The
description leaves aside the records that are given as lists of their fields; for all other values
it is exact.

* `Rule.WellFormed`, `RuleSet.WellFormed`, `Criteria.WellFormed`, `Scheme.WellFormed` — the values
  that are read.
* `RuleSet.Named`, `Criteria.Named`, `Scheme.Named` — no list stands in the place of a rule or a
  rule set.
* `Rule.accepts_iff`, `RuleSet.accepts_iff`, `Criteria.accepts_iff`, `Scheme.accepts_iff` — exactly
  the well-formed values are read.
* `catalog_accepts_exactly_its_grammar` — the same for catalogs, and what edits keep.
-/

set_option autoImplicit false

namespace Welfare

open Json (Accepts Document Origin Shape)
open Json.Document (ofJson)

variable {v : Json} (origin : Origin)

/-! ## Rules -/

namespace Rule

/-- The value of a rule: the operator, the value, the weight and the boost may be anything. -/
structure WellFormed (v : Json) : Prop where
  object : v.isObject = true
  id : ∀ w ∈ v.get? "rule_id", w = .null ∨ w.IsText
  field : ∃ w ∈ v.get? "field", w.IsText
  disqualifies : ∀ w ∈ v.get? "disqualifies", w = .null ∨ w.IsBool
  explanation : ∀ w ∈ v.get? "explanation", w.IsText

/-- No list stands in the place of the rule. -/
def Named (v : Json) : Prop := ∀ xs, v ≠ .arr xs

theorem isSome_ofDraft (draft : Draft) :
    (ofDraft draft).isSome = true ↔ draft.field.isSome = true := by
  rw [ofDraft, Option.isSome_map]

/-- The rule of an object is there when its fields are read. -/
theorem isSome_ofFields : (ofFields v).isSome = true ↔
    (∀ w ∈ v.get? "rule_id", Accepts (Document.optional Document.asString) w) ∧
    (∃ w ∈ v.get? "field", Accepts Document.asString w) ∧
    (∀ w ∈ v.get? "disqualifies", Accepts (Document.optional Document.asBool) w) ∧
    (∀ w ∈ v.get? "explanation", Accepts Document.asString w) := by
  refine Json.isSome_bind_field? fun id ↦ Json.isSome_bind_field?_required fun field ↦ ?_
  rw [and_comm, and_assoc]
  refine Json.isSome_bind_field? fun disqualifies ↦ Json.isSome_bind_field? fun explanation ↦ ?_
  exact isSome_ofDraft _

/-- Exactly the well-formed values are read as rules. -/
theorem accepts_iff (hv : v.DistinctKeys) (hnamed : Named v) :
    Accepts (decode origin) v ↔ WellFormed v := by
  by_cases hobject : v.isObject = true
  · obtain ⟨ms, rfl⟩ := Json.exists_of_isObject hobject
    rw [Json.accepts_iff_isSome, toOption_decode_obj hv.1, isSome_ofFields]
    simp only [Json.accepts_optional, Json.accepts_asString, Json.accepts_asBool]
    constructor
    · rintro ⟨hid, hfield, hdisqualifies, hexplanation⟩
      exact ⟨hobject, hid, hfield, hdisqualifies, hexplanation⟩
    · rintro ⟨_, hid, hfield, hdisqualifies, hexplanation⟩
      exact ⟨hid, hfield, hdisqualifies, hexplanation⟩
  · refine iff_of_false (fun ⟨r, hr⟩ ↦ hobject ?_) fun h ↦ hobject h.object
    obtain ⟨draft, hread, _⟩ := Json.Decoded.bind_eq_ok.1 hr
    exact Shape.isObject_of_readRecord hnamed hread

/-- What a rule takes from the members that may hold anything: an operator that is not a text is not
supported, and a weight or boost that is not a number is unset. -/
structure Lenient (v : Json) (r : Rule) : Prop where
  operator : r.operator = .ofJson ((v.get? "operator").map Json.sorted)
  value : r.value = ((v.get? "value").map Json.sorted).getD .null
  weight : r.weight = (v.get? "weight").bind Json.float?
  priorityBoost : r.priorityBoost = (v.get? "priority_boost").bind Json.float?

variable {origin} in
theorem lenient_of_decode (hv : v.DistinctKeys) (hnamed : Named v) {r : Rule}
    (h : decode origin (ofJson v) = .ok r) : Lenient v r := by
  obtain ⟨ms, rfl⟩ := Json.exists_of_isObject ((accepts_iff origin hv hnamed).1 ⟨r, h⟩).object
  have hfields := toOption_decode_obj hv.1 origin
  rw [h] at hfields
  obtain ⟨id, _, hfields⟩ := Option.bind_eq_some_iff.1 hfields.symm
  obtain ⟨field, _, hfields⟩ := Option.bind_eq_some_iff.1 hfields
  obtain ⟨disqualifies, _, hfields⟩ := Option.bind_eq_some_iff.1 hfields
  obtain ⟨explanation, _, hfields⟩ := Option.bind_eq_some_iff.1 hfields
  obtain ⟨path, _, rfl⟩ := Option.map_eq_some_iff.1 hfields
  refine ⟨?_, rfl, ?_, ?_⟩
  · show Option.getD (Option.map _ ((Json.obj ms).get? "operator")) _ = _
    cases (Json.obj ms).get? "operator" <;> rfl
  · show Option.join (Option.map _ ((Json.obj ms).get? "weight")) = _
    cases (Json.obj ms).get? "weight" <;> rfl
  · show Option.join (Option.map _ ((Json.obj ms).get? "priority_boost")) = _
    cases (Json.obj ms).get? "priority_boost" <;> rfl

end Rule

/-! ## Rule sets -/

namespace RuleSet

/-- The value of a rule set: the minimum may be anything. -/
structure WellFormed (v : Json) : Prop where
  object : v.isObject = true
  rules : ∀ key ∈ listNames,
    ∀ w ∈ v.get? key, w = .null ∨ w.IsListOf Rule.WellFormed
  ruleType : ∀ w ∈ v.get? "rule_type", w = .null ∨ w.IsText
  logic : ∀ w ∈ v.get? "logic", w = .null ∨ w.IsText
  alternatives : ∀ w ∈ v.get? "alternative_schemes", w = .null ∨ w.IsListOf Json.IsText

/-- No list stands in the place of the rule set or of one of its rules. -/
structure Named (v : Json) : Prop where
  ruleSet : ∀ xs, v ≠ .arr xs
  rules : ∀ key ∈ listNames,
    ∀ xs, v.get? key = some (.arr xs) → ∀ x ∈ xs, Rule.Named x

/-- The rule set of an object is there when its fields are read. -/
theorem isSome_ofFields : (ofFields origin v).isSome = true ↔
    (∀ key ∈ listNames, ∀ w ∈ v.get? key,
      Accepts (Document.orDefault (Document.listOf (Rule.decode origin))) w) ∧
    (∀ w ∈ v.get? "rule_type", Accepts (Document.optional Document.asString) w) ∧
    (∀ w ∈ v.get? "logic", Accepts (Document.optional Document.asString) w) ∧
    (∀ w ∈ v.get? "alternative_schemes",
      Accepts (Document.orDefault (Document.listOf Document.asString)) w) := by
  simp only [listNames, List.forall_mem_cons, List.not_mem_nil, IsEmpty.forall_iff, implies_true,
    and_true, and_assoc]
  refine Json.isSome_bind_field? fun inclusion ↦ Json.isSome_bind_field? fun exclusion ↦ ?_
  refine Json.isSome_bind_field? fun priority ↦ Json.isSome_bind_field? fun ruleType ↦ ?_
  refine Json.isSome_bind_field? fun logic ↦ ?_
  exact Json.isSome_bind_field?_some

/-- Exactly the well-formed values are read as rule sets. -/
theorem accepts_iff (hv : v.DistinctKeys) (hnamed : Named v) :
    Accepts (decode origin) v ↔ WellFormed v := by
  have htexts : Accepts Document.asString = Json.IsText :=
    funext fun w ↦ propext Json.accepts_asString
  have hrules : ∀ key ∈ listNames, ∀ w ∈ v.get? key,
      (w.IsListOf (Accepts (Rule.decode origin)) ↔ w.IsListOf Rule.WellFormed) := by
    rintro key hkey w hw
    refine Json.isListOf_congr fun xs hxs x hx ↦ ?_
    subst hxs
    have hitem := (hv.get? hw).of_mem hx
    exact Rule.accepts_iff origin hitem (hnamed.rules key hkey xs hw x hx)
  have hlists : (∀ key ∈ listNames, ∀ w ∈ v.get? key,
        w = .null ∨ w.IsListOf (Accepts (Rule.decode origin))) ↔
      ∀ key ∈ listNames, ∀ w ∈ v.get? key, w = .null ∨ w.IsListOf Rule.WellFormed := by
    refine forall₂_congr fun key hkey ↦ forall₂_congr fun w hw ↦ ?_
    rw [hrules key hkey w hw]
  by_cases hobject : v.isObject = true
  · obtain ⟨ms, rfl⟩ := Json.exists_of_isObject hobject
    rw [Json.accepts_iff_isSome, toOption_decode_obj hv.1, isSome_ofFields]
    simp only [Json.accepts_orDefault, Json.accepts_listOf, Json.accepts_optional,
      Json.accepts_asString, htexts]
    rw [hlists]
    constructor
    · rintro ⟨hlists, htype, hlogic, halternatives⟩
      exact ⟨hobject, hlists, htype, hlogic, halternatives⟩
    · rintro ⟨_, hlists, htype, hlogic, halternatives⟩
      exact ⟨hlists, htype, hlogic, halternatives⟩
  · refine iff_of_false (fun ⟨s, hs⟩ ↦ hobject ?_) fun h ↦ hobject h.object
    obtain ⟨draft, hread, _⟩ := Json.Decoded.bind_eq_ok.1 hs
    exact Shape.isObject_of_readRecord hnamed.ruleSet hread

end RuleSet

/-! ## Criteria -/

namespace Criteria

/-- The value of criteria: all members but the rules may be anything. -/
structure WellFormed (v : Json) : Prop where
  object : v.isObject = true
  rules : ∀ w ∈ v.get? "engine_rules", w = .null ∨ RuleSet.WellFormed w

/-- The criteria of an object are there when the rules are read. -/
theorem isSome_ofFields : (ofFields origin v).isSome = true ↔
    ∀ w ∈ v.get? "engine_rules", Accepts (Document.optional (RuleSet.decode origin)) w :=
  Json.isSome_bind_field?_some

/-- Exactly the well-formed values are read as criteria. -/
theorem accepts_iff (hv : v.DistinctKeys) (hnamed : ∀ w ∈ v.get? "engine_rules", RuleSet.Named w) :
    Accepts (decode origin) v ↔ WellFormed v := by
  have hrules : (∀ w ∈ v.get? "engine_rules", w = .null ∨ Accepts (RuleSet.decode origin) w) ↔
      ∀ w ∈ v.get? "engine_rules", w = .null ∨ RuleSet.WellFormed w := by
    refine forall₂_congr fun w hw ↦ ?_
    rw [RuleSet.accepts_iff origin (hv.get? hw) (hnamed w hw)]
  by_cases hobject : v.isObject = true
  · obtain ⟨ms, rfl⟩ := Json.exists_of_isObject hobject
    rw [Json.accepts_iff_isSome, toOption_decode_obj hv.1, isSome_ofFields]
    simp only [Json.accepts_optional]
    rw [hrules]
    exact ⟨fun h ↦ ⟨hobject, h⟩, fun h ↦ h.rules⟩
  · refine iff_of_false (fun ⟨c, hc⟩ ↦ hobject ?_) fun h ↦ hobject h.object
    obtain ⟨draft, hread, _⟩ := Json.Decoded.bind_eq_ok.1 hc
    exact Shape.isObject_of_readObject hread

end Criteria

/-! ## Schemes -/

namespace Scheme

/-- The value of a scheme: all members but the id, the name and the criteria may be anything. -/
structure WellFormed (v : Json) : Prop where
  object : v.isObject = true
  id : ∃ w ∈ v.get? "scheme_id", w.IsText
  name : ∀ w ∈ v.get? "scheme_name", w.IsText
  criteria : ∀ w ∈ v.get? "eligibility_criteria", w = .null ∨ Criteria.WellFormed w

/-- No list stands in the place of the rule set of the scheme or of one of its rules. -/
def Named (v : Json) : Prop :=
  ∀ c ∈ v.get? "eligibility_criteria", ∀ w ∈ c.get? "engine_rules", RuleSet.Named w

/-- The scheme of an object is there when its fields are read. -/
theorem isSome_ofFields : (ofFields origin v).isSome = true ↔
    (∃ w ∈ v.get? "scheme_id", Accepts Document.asString w) ∧
    (∀ w ∈ v.get? "scheme_name", Accepts Document.asString w) ∧
    (∀ w ∈ v.get? "eligibility_criteria",
      Accepts (Document.optional (Criteria.decode origin)) w) := by
  refine Json.isSome_bind_field?_required fun id ↦ ?_
  rw [and_comm, and_assoc]
  refine Json.isSome_bind_field? fun name ↦ Json.isSome_bind_field? fun criteria ↦ ?_
  cases id with
  | none => rfl
  | some id => rfl

/-- Exactly the well-formed values are read as schemes. -/
theorem accepts_iff (hv : v.DistinctKeys) (hnamed : Named v) :
    Accepts (decode origin) v ↔ WellFormed v := by
  have hcriteria : (∀ w ∈ v.get? "eligibility_criteria",
        w = .null ∨ Accepts (Criteria.decode origin) w) ↔
      ∀ w ∈ v.get? "eligibility_criteria", w = .null ∨ Criteria.WellFormed w := by
    refine forall₂_congr fun w hw ↦ ?_
    rw [Criteria.accepts_iff origin (hv.get? hw) (hnamed w hw)]
  by_cases hobject : v.isObject = true
  · obtain ⟨ms, rfl⟩ := Json.exists_of_isObject hobject
    rw [Json.accepts_iff_isSome, toOption_decode_obj hv.1, isSome_ofFields]
    simp only [Json.accepts_optional, Json.accepts_asString]
    rw [hcriteria]
    constructor
    · rintro ⟨hid, hname, hcriteria⟩
      exact ⟨hobject, hid, hname, hcriteria⟩
    · rintro ⟨_, hid, hname, hcriteria⟩
      exact ⟨hid, hname, hcriteria⟩
  · refine iff_of_false (fun ⟨s, hs⟩ ↦ hobject ?_) fun h ↦ hobject h.object
    obtain ⟨draft, hread, _⟩ := Json.Decoded.bind_eq_ok.1 hs
    exact Shape.isObject_of_readObject hread

/-- Exactly the lists of well-formed values are read as lists of schemes. -/
theorem accepts_list_iff (hv : v.DistinctKeys)
    (hnamed : ∀ xs, v = .arr xs → ∀ x ∈ xs, Named x) :
    Accepts (decodeList origin) v ↔ v.IsListOf WellFormed := by
  refine Json.accepts_listOf.trans (Json.isListOf_congr fun xs hxs x hx ↦ ?_)
  subst hxs
  exact accepts_iff origin (hv.of_mem hx) (hnamed xs rfl x hx)

end Scheme

/-! ## Catalogs -/

/-- **A catalog is read exactly when it is well formed.**  Where no list stands in the place of a
rule or a rule set, exactly the well-formed values are read as rules, as rule sets, as schemes and
as lists of schemes.  The members that may hold anything are read as unsupported or unset where they
do not fit.  So any number of edits of such members leaves a list of schemes readable, and leaves
alone what is read from all other members. -/
theorem catalog_accepts_exactly_its_grammar (hv : v.DistinctKeys) (origin : Origin) :
    (Rule.Named v → (Accepts (Rule.decode origin) v ↔ Rule.WellFormed v) ∧
      ∀ r, Rule.decode origin (ofJson v) = .ok r → Rule.Lenient v r) ∧
    (RuleSet.Named v → (Accepts (RuleSet.decode origin) v ↔ RuleSet.WellFormed v)) ∧
    (Scheme.Named v → (Accepts (Scheme.decode origin) v ↔ Scheme.WellFormed v)) ∧
    ((∀ xs, v = .arr xs → ∀ x ∈ xs, Scheme.Named x) →
      (Accepts (Scheme.decodeList origin) v ↔ v.IsListOf Scheme.WellFormed)) ∧
    ∀ w schemes, w.DistinctKeys → v.ListEdited Scheme.Edited w →
      Scheme.decodeList origin (ofJson v) = .ok schemes →
      ∃ schemes', Scheme.decodeList origin (ofJson w) = .ok schemes' ∧
        schemes'.map Scheme.frame = schemes.map Scheme.frame := by
  refine ⟨fun hnamed ↦ ⟨Rule.accepts_iff origin hv hnamed, fun r hr ↦ ?_⟩,
    RuleSet.accepts_iff origin hv, Scheme.accepts_iff origin hv, Scheme.accepts_list_iff origin hv,
    fun w schemes hw hedit hschemes ↦ ?_⟩
  · exact Rule.lenient_of_decode hv hnamed hr
  · have hframe := Scheme.survives_list origin v w hv hw hedit
    rw [hschemes] at hframe
    obtain ⟨schemes', hread, hsame⟩ := Option.map_eq_some_iff.1 hframe.symm
    exact ⟨schemes', Json.toOption_eq_some.1 hread, hsame⟩

/-- Two schemes, before and after an author breaks the operator of a rule of the first and the
minimum of the second. -/
theorem broken_operator_and_minimum_survived :
    let scheme (id : String) (rules : Json) : Json := .obj [
      ("eligibility_criteria", .obj [("engine_rules", rules)]),
      ("scheme_id", .str id)]
    let rules (operator : Json) : Json := .obj [
      ("inclusion_rules", .arr [.obj [("operator", operator), ("field", .str "aadhaar")]])]
    let minimum (score : Json) : Json := .obj [("minimum_score", score)]
    let v : Json := .arr [scheme "S1" (rules (.str "not_empty")), scheme "S2" (minimum .null)]
    let w : Json := .arr [scheme "S1" (rules (.arr [])), scheme "S2" (minimum (.str "many"))]
    v.DistinctKeys ∧ w.DistinctKeys ∧ v.ListEdited Scheme.Edited w ∧
    ∃ schemes schemes', Scheme.decodeList .text (ofJson v) = .ok schemes ∧
      Scheme.decodeList .text (ofJson w) = .ok schemes' ∧
      schemes'.map Scheme.frame = schemes.map Scheme.frame ∧
      schemes'.map Scheme.id = ["S1", "S2"] := by
  intro scheme rules minimum v w
  have hdistinct : ∀ operator score : Json, operator.DistinctKeys → score.DistinctKeys →
      Json.DistinctKeys (.arr [scheme "S1" (rules operator), scheme "S2" (minimum score)]) := by
    intro operator score hoperator hscore
    simp [scheme, rules, minimum, Json.DistinctKeys, Json.DistinctItems, Json.DistinctMembers,
      hoperator, hscore]
  have hv : v.DistinctKeys := hdistinct _ _ trivial trivial
  have hw : w.DistinctKeys := hdistinct _ _ trivial trivial
  have hrule : Rule.Edited (.obj [("operator", .str "not_empty"), ("field", .str "aadhaar")])
      (.obj [("operator", .arr []), ("field", .str "aadhaar")]) :=
    Rule.edited_put rfl (by decide) (.arr [])
  have hrules : RuleSet.Edited (rules (.str "not_empty")) (rules (.arr [])) :=
    RuleSet.edited_put rfl (by decide) rfl (Or.inr ⟨_, _, rfl, rfl, .cons hrule .nil⟩)
  have hminimum : RuleSet.Edited (minimum .null) (minimum (.str "many")) :=
    RuleSet.edited_put_minimumScore rfl (.str "many")
  have hscheme : ∀ id x y, RuleSet.Edited x y → Scheme.Edited (scheme id x) (scheme id y) :=
    fun id x y hxy ↦ Scheme.edited_put rfl rfl (Criteria.edited_put rfl rfl hxy)
  have hedit : v.ListEdited Scheme.Edited w :=
    Or.inr ⟨_, _, rfl, rfl, .cons (hscheme _ _ _ hrules) (.cons (hscheme _ _ _ hminimum) .nil)⟩
  obtain ⟨_, _, _, _, hsurvives⟩ := catalog_accepts_exactly_its_grammar hv .text
  obtain ⟨schemes', hread, hframe⟩ := hsurvives w _ hw hedit rfl
  refine ⟨hv, hw, hedit, _, schemes', rfl, hread, hframe, ?_⟩
  have hids := congrArg (List.map Scheme.id) hframe
  rw [List.map_map] at hids
  exact hids

end Welfare
