import Welfare.Rule
import Welfare.Json.Decode
import Welfare.Json.Printer

/-!
# Rules in JSON

Catalogs are authored by hand, so a rule is read with some leniency: an operator that is not a text
becomes an unsupported one, and a weight or boost that is not a number counts as unset.

* `Operator.decode`, `Rule.decode` — reading.
* `Rule.toJson` — writing; what is unset is left out.
-/

set_option autoImplicit false

namespace Welfare

open Json (Decoded Document Origin Shape Slot)

/-- The operator of a rule: a text names it, nothing names the empty tag, and any other value is
its own tag. -/
def Operator.ofJson : Option Json → Operator
  | none | some .null => .unsupported ""
  | some (.str tag) => .ofTag tag
  | some v => .unsupported v.compact

namespace Rule

/-- The fields of a rule that have been read. -/
structure Draft where
  id : Option (Option String) := none
  field : Option String := none
  operator : Option Operator := none
  value : Option Json := none
  weight : Option (Option Float) := none
  disqualifies : Option (Option Bool) := none
  priorityBoost : Option (Option Float) := none
  explanation : Option String := none

/-- The fields of a rule, in order. -/
def shape : Shape Draft where
  name := "Rule"
  slots := [
    .of "rule_id" (·.id) (fun d v => { d with id := some v }) (Document.optional Document.asString),
    .of "field" (·.field) (fun d v => { d with field := some v }) Document.asString,
    .of "operator" (·.operator) (fun d v => { d with operator := some v })
      (fun d => return .ofJson (some (← d.asJson))),
    .of "value" (·.value) (fun d v => { d with value := some v }) Document.asJson,
    .of "weight" (·.weight) (fun d v => { d with weight := some v }) Document.floatOrNone,
    .of "disqualifies" (·.disqualifies) (fun d v => { d with disqualifies := some v })
      (Document.optional Document.asBool),
    .of "priority_boost" (·.priorityBoost) (fun d v => { d with priorityBoost := some v })
      Document.floatOrNone,
    .of "explanation" (·.explanation) (fun d v => { d with explanation := some v })
      Document.asString]
  other := Shape.skimOther

/-- Reads a rule; only the field is required. -/
def decode (origin : Origin) (d : Document) : Decoded Rule := do
  let (draft, form) ← shape.readRecord origin {} d
  let field ← shape.require form "field" draft.field
  return {
    id := draft.id.join
    field := ⟨field⟩
    operator := draft.operator.getD (.ofJson none)
    value := draft.value.getD .null
    weight := draft.weight.join
    disqualifies := draft.disqualifies.join
    priorityBoost := draft.priorityBoost.join
    explanation := draft.explanation.getD "" }

/-- Writes a rule. -/
def toJson (r : Rule) : Json :=
  .obj (
    Json.optionalMember "rule_id" .str r.id ++
    [("field", .str r.field.path), ("operator", .str r.operator.tag), ("value", r.value)] ++
    Json.optionalMember "weight" Json.ofFloat r.weight ++
    Json.optionalMember "disqualifies" .bool r.disqualifies ++
    Json.optionalMember "priority_boost" Json.ofFloat r.priorityBoost ++
    [("explanation", .str r.explanation)])

end Rule

end Welfare
