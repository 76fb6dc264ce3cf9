import Welfare.Proofs.Json.ByField
import Welfare.Proofs.Scheme.Codec

/-!
# The fields of a scheme

What is read from an object whose keys are not repeated, with every field looked up under its name:
for rules, for rule sets, for criteria and for schemes.  The fields for which any value will do are
set apart from those that a value may get wrong.

* `Rule.ofFields`, `RuleSet.ofFields`, `Criteria.ofFields`, `Scheme.ofFields` — the records of an
  object.
* `Rule.toOption_decode_obj`, `RuleSet.toOption_decode_obj`, `Criteria.toOption_decode_obj`,
  `Scheme.toOption_decode_obj` — these are the records that are read.
* `Rule.toOption_decode_origin`, `RuleSet.ofFields_congr` — rules and rule sets are the same
  wherever the document comes from.
-/

set_option autoImplicit false

namespace Welfare

open Json (Decoded Document Origin Shape Slot)
open Json.Document (ofJson ofJsonMembers)

/-! ## Values of any kind -/

theorem Json.float?_sorted (v : Json) : v.sorted.float? = v.float? := by
  cases v <;> rfl

theorem Json.Document.floatOrNone_ofJson (v : Json) :
    (ofJson v).floatOrNone = .ok v.float? := by
  rw [floatOrNone, asJson_ofJson]
  exact congrArg Except.ok v.float?_sorted

theorem Operator.ok_ofJson (v : Json) :
    (do return Operator.ofJson (some (← (Document.ofJson v).asJson)) : Decoded Operator) =
      .ok (.ofJson (some v.sorted)) := by
  rw [Document.asJson_ofJson]
  rfl

/-! ## Rules -/

variable {ms : List Json.Member}

namespace Rule

/-- The rule of a draft that has a field. -/
def ofDraft (draft : Draft) : Option Rule :=
  draft.field.map fun path ↦ {
    id := draft.id.join
    field := ⟨path⟩
    operator := draft.operator.getD (.ofJson none)
    value := draft.value.getD .null
    weight := draft.weight.join
    disqualifies := draft.disqualifies.join
    priorityBoost := draft.priorityBoost.join
    explanation := draft.explanation.getD "" }

theorem toOption_decode (origin : Origin) :
    (decode origin (ofJson (.obj ms))).toOption =
      (shape.readMembers {} (ofJsonMembers ms)).toOption.bind ofDraft := by
  rw [decode, Json.toOption_bind, Shape.toOption_readRecord_obj, Option.bind_map]
  refine congrArg (Option.bind _) (funext fun draft ↦ ?_)
  obtain ⟨id, field, operator, value, weight, disqualifies, priorityBoost, explanation⟩ := draft
  cases field with
  | none => rfl
  | some path => rfl

/-- The rule of an object. -/
def ofFields (v : Json) : Option Rule := do
  let id ← v.field? "rule_id" (Document.optional Document.asString)
  let field ← v.field? "field" Document.asString
  let disqualifies ← v.field? "disqualifies" (Document.optional Document.asBool)
  let explanation ← v.field? "explanation" Document.asString
  ofDraft {
    id, field, disqualifies, explanation
    operator := (v.get? "operator").map fun w ↦ .ofJson (some w.sorted)
    value := (v.get? "value").map Json.sorted
    weight := (v.get? "weight").map Json.float?
    priorityBoost := (v.get? "priority_boost").map Json.float? }

/-- The rule that is read from an object. -/
theorem toOption_decode_obj (hms : (ms.map Prod.fst).Nodup) (origin : Origin) :
    (decode origin (ofJson (.obj ms))).toOption = ofFields (.obj ms) := by
  rw [toOption_decode, orderFree_shape.toOption_readMembers_skim {} rfl (by decide) hms]
  refine Eq.trans (Slot.bind_foldlM_cons (fun id ↦ { id }) rfl rfl fun _ ↦ rfl)
    (congrArg (Option.bind _) (funext fun id ↦ ?_))
  refine Eq.trans (Slot.bind_foldlM_cons (fun field ↦ { id, field }) rfl rfl fun _ ↦ rfl)
    (congrArg (Option.bind _) (funext fun field ↦ ?_))
  refine Eq.trans (Slot.bind_foldlM_cons (fun operator ↦ { id, field, operator }) rfl rfl
    fun _ ↦ rfl) ?_
  rw [Json.field?_of_ok Operator.ok_ofJson, Option.bind_some]
  generalize Option.map _ _ = operator
  refine Eq.trans (Slot.bind_foldlM_cons (fun value ↦ { id, field, operator, value }) rfl rfl
    fun _ ↦ rfl) ?_
  rw [Json.field?_of_ok Document.asJson_ofJson, Option.bind_some]
  generalize Option.map _ _ = value
  refine Eq.trans (Slot.bind_foldlM_cons (fun weight ↦ { id, field, operator, value, weight })
    rfl rfl fun _ ↦ rfl) ?_
  rw [Json.field?_of_ok Document.floatOrNone_ofJson, Option.bind_some]
  generalize Option.map _ _ = weight
  refine Eq.trans (Slot.bind_foldlM_cons
    (fun disqualifies ↦ { id, field, operator, value, weight, disqualifies })
    rfl rfl fun _ ↦ rfl) (congrArg (Option.bind _) (funext fun disqualifies ↦ ?_))
  refine Eq.trans (Slot.bind_foldlM_cons
    (fun priorityBoost ↦ { id, field, operator, value, weight, disqualifies, priorityBoost })
    rfl rfl fun _ ↦ rfl) ?_
  rw [Json.field?_of_ok Document.floatOrNone_ofJson, Option.bind_some]
  generalize Option.map _ _ = priorityBoost
  refine Eq.trans (Slot.bind_foldlM_cons (fun explanation ↦ {
    id, field, operator, value, weight, disqualifies, priorityBoost, explanation }) rfl rfl
    fun _ ↦ rfl) rfl

/-- Where a rule comes from does not matter to what is read. -/
theorem toOption_decode_origin (origin origin' : Origin) (d : Document) :
    (decode origin d).toOption = (decode origin' d).toOption := by
  have hrecord :
      (shape.readRecord origin {} d).toOption = (shape.readRecord origin' {} d).toOption :=
    Shape.toOption_readRecord_origin _ origin origin' d
  rw [decode, decode, Json.toOption_bind, Json.toOption_bind, hrecord]

end Rule

/-! ## Rule sets -/

namespace RuleSet

/-- The members of a rule set that are read as fields. -/
def fieldNames : List String :=
  ["inclusion_rules", "exclusion_rules", "special_priority_rules", "minimum_score", "rule_type",
    "logic", "alternative_schemes"]

/-- The rule set of an object. -/
def ofFields (origin : Origin) (v : Json) : Option RuleSet := do
  let rules := Document.orDefault (Document.listOf (Rule.decode origin))
  let inclusion ← v.field? "inclusion_rules" rules
  let exclusion ← v.field? "exclusion_rules" rules
  let priority ← v.field? "special_priority_rules" rules
  let ruleType ← v.field? "rule_type" (Document.optional Document.asString)
  let logic ← v.field? "logic" (Document.optional Document.asString)
  let alternatives ← v.field? "alternative_schemes"
    (Document.orDefault (Document.listOf Document.asString))
  return ofDraft {
    inclusion, exclusion, priority, ruleType, logic, alternatives
    minimumScore := (v.get? "minimum_score").map Json.float? }

/-- The rule set that is read from members. -/
theorem toOption_readMembers (hms : (ms.map Prod.fst).Nodup) (origin : Origin) :
    ((shape origin).readMembers {} (ofJsonMembers ms)).toOption.map ofDraft =
      ofFields origin (.obj ms) := by
  have hnames : fieldNames.Nodup := by decide
  rw [(orderFree_shape origin).toOption_readMembers_skim {} rfl hnames hms, Option.map_eq_bind]
  refine Eq.trans (Slot.bind_foldlM_cons (fun inclusion ↦ { inclusion }) rfl rfl fun _ ↦ rfl)
    (congrArg (Option.bind _) (funext fun inclusion ↦ ?_))
  refine Eq.trans (Slot.bind_foldlM_cons (fun exclusion ↦ { inclusion, exclusion }) rfl rfl
    fun _ ↦ rfl) (congrArg (Option.bind _) (funext fun exclusion ↦ ?_))
  refine Eq.trans (Slot.bind_foldlM_cons (fun priority ↦ { inclusion, exclusion, priority })
    rfl rfl fun _ ↦ rfl) (congrArg (Option.bind _) (funext fun priority ↦ ?_))
  refine Eq.trans (Slot.bind_foldlM_cons
    (fun minimumScore ↦ { inclusion, exclusion, priority, minimumScore }) rfl rfl fun _ ↦ rfl) ?_
  rw [Json.field?_of_ok Document.floatOrNone_ofJson, Option.bind_some]
  generalize Option.map _ _ = minimumScore
  refine Eq.trans (Slot.bind_foldlM_cons
    (fun ruleType ↦ { inclusion, exclusion, priority, minimumScore, ruleType }) rfl rfl
    fun _ ↦ rfl) (congrArg (Option.bind _) (funext fun ruleType ↦ ?_))
  refine Eq.trans (Slot.bind_foldlM_cons
    (fun logic ↦ { inclusion, exclusion, priority, minimumScore, ruleType, logic }) rfl rfl
    fun _ ↦ rfl) (congrArg (Option.bind _) (funext fun logic ↦ ?_))
  exact Eq.trans (Slot.bind_foldlM_cons (fun alternatives ↦ {
    inclusion, exclusion, priority, minimumScore, ruleType, logic, alternatives }) rfl rfl
    fun _ ↦ rfl) rfl

/-- The rule set that is read from an object. -/
theorem toOption_decode_obj (hms : (ms.map Prod.fst).Nodup) (origin : Origin) :
    (decode origin (ofJson (.obj ms))).toOption = ofFields origin (.obj ms) := by
  rw [← toOption_readMembers hms, decode, Json.toOption_bind, Shape.toOption_readRecord_obj,
    Option.bind_map, Option.map_eq_bind]
  rfl

/-- The rule set of an object depends on the members that are its fields, and on nothing else. -/
theorem ofFields_congr {v w : Json} (h : ∀ key ∈ fieldNames, v.get? key = w.get? key)
    (origin origin' : Origin) : ofFields origin v = ofFields origin' w := by
  simp only [fieldNames, List.forall_mem_cons, List.not_mem_nil, IsEmpty.forall_iff,
    implies_true, and_true] at h
  obtain ⟨hinclusion, hexclusion, hpriority, hscore, htype, hlogic, halternatives⟩ := h
  have hrules : ∀ x, ((ofJson x).orDefault (Document.listOf (Rule.decode origin))).toOption =
      ((ofJson x).orDefault (Document.listOf (Rule.decode origin'))).toOption := fun x ↦
    Json.toOption_orDefault_congr
      (Json.toOption_listOf_congr (Rule.toOption_decode_origin origin origin')) (ofJson x)
  simp only [ofFields, Json.field?_congr hinclusion hrules, Json.field?_congr hexclusion hrules,
    Json.field?_congr hpriority hrules, Json.field?_congr htype fun _ ↦ rfl,
    Json.field?_congr hlogic fun _ ↦ rfl, Json.field?_congr halternatives fun _ ↦ rfl, hscore]

end RuleSet

/-! ## Criteria -/

namespace Criteria

/-- The criteria of an object. -/
def ofFields (origin : Origin) (v : Json) : Option Criteria := do
  let rules ← v.field? "engine_rules" (Document.optional (RuleSet.decode origin))
  return { rules := rules.join, other := v.others fieldNames }

/-- The criteria that are read from an object. -/
theorem toOption_decode_obj (hms : (ms.map Prod.fst).Nodup) (origin : Origin) :
    (decode origin (ofJson (.obj ms))).toOption = ofFields origin (.obj ms) := by
  have hnames : fieldNames.Nodup := by decide
  rw [decode, Json.toOption_bind, Shape.toOption_readObject_obj,
    (orderFree_shape origin).toOption_readMembers_store {} store rfl hnames hms rfl]
  exact Eq.trans (Slot.bind_foldlM_cons
    (fun rules ↦ { rules, other := (Json.obj ms).others fieldNames }) rfl rfl fun _ ↦ rfl) rfl

end Criteria

/-! ## Schemes -/

namespace Scheme

/-- The scheme of an object. -/
def ofFields (origin : Origin) (v : Json) : Option Scheme := do
  let id ← v.field? "scheme_id" Document.asString
  let name ← v.field? "scheme_name" Document.asString
  let criteria ← v.field? "eligibility_criteria" (Document.optional (Criteria.decode origin))
  let id ← id
  return {
    id
    name := name.getD ""
    criteria := criteria.join
    metadata := v.others fieldNames }

/-- The scheme that is read from an object. -/
theorem toOption_decode_obj (hms : (ms.map Prod.fst).Nodup) (origin : Origin) :
    (decode origin (ofJson (.obj ms))).toOption = ofFields origin (.obj ms) := by
  have hnames : fieldNames.Nodup := by decide
  rw [decode, Json.toOption_bind, Shape.toOption_readObject_obj,
    (orderFree_shape origin).toOption_readMembers_store {} store rfl hnames hms rfl]
  refine Eq.trans (Slot.bind_foldlM_cons
    (fun id ↦ { id, metadata := (Json.obj ms).others fieldNames }) rfl rfl fun _ ↦ rfl)
    (congrArg (Option.bind _) (funext fun id ↦ ?_))
  refine Eq.trans (Slot.bind_foldlM_cons
    (fun name ↦ { id, name, metadata := (Json.obj ms).others fieldNames }) rfl rfl fun _ ↦ rfl)
    (congrArg (Option.bind _) (funext fun name ↦ ?_))
  refine Eq.trans (Slot.bind_foldlM_cons
    (fun criteria ↦ { id, name, criteria, metadata := (Json.obj ms).others fieldNames })
    rfl rfl fun _ ↦ rfl)
    (congrArg (Option.bind _) (funext fun criteria ↦ ?_))
  cases id with
  | none => rfl
  | some id => rfl

end Scheme

end Welfare
