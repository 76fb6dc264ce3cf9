import Welfare.RuleSet
import Welfare.Text.Blank

/-!
# Schemes

A scheme is one welfare programme of a catalog.  Only its id, its name and its rules matter for a
decision; everything else a catalog says about it is kept and written out again.

* `Criteria` — the rules of a scheme and what else is said about who may apply.
* `Scheme` — a programme.
* `Scheme.withRules` — the scheme under other rules.
* `Scheme.decode`, `Scheme.toJson` — reading and writing.
-/

set_option autoImplicit false

namespace Welfare

open Json (Decoded Document Origin Shape)

/-! ## Criteria -/

/-- Who may apply for a scheme. -/
structure Criteria where
  rules : Option RuleSet := none
  /-- The members that the rules do not account for, in order of key. -/
  other : List Json.Member := []
deriving BEq

namespace Criteria

/-- The parts of criteria that have been read. -/
structure Draft where
  rules : Option (Option RuleSet) := none
  other : List Json.Member := []

/-- The fields of criteria; all other members are kept. -/
def shape (origin : Origin) : Shape Draft where
  name := "EligibilityCriteria"
  slots := [
    .of "engine_rules" (·.rules) (fun d v => { d with rules := some v })
      (Document.optional (RuleSet.decode origin))]
  other draft key d := return { draft with other := Json.insertMember key (← d.asJson) draft.other }

/-- Reads criteria; they are always an object. -/
def decode (origin : Origin) (d : Document) : Decoded Criteria := do
  let draft ← (shape origin).readObject {} d
  return { rules := draft.rules.join, other := draft.other }

/-- Writes criteria. -/
def toJson (c : Criteria) : Json :=
  .obj (Json.optionalMember "engine_rules" RuleSet.toJson c.rules ++ c.other)

end Criteria

/-! ## Schemes -/

/-- A welfare programme. -/
structure Scheme where
  id : String
  name : String := ""
  criteria : Option Criteria := none
  /-- The members that decide nothing, in order of key. -/
  metadata : List Json.Member := []
deriving BEq

namespace Scheme

/-- The rules of the scheme, if it has any. -/
def rules (s : Scheme) : Option RuleSet :=
  s.criteria.bind Criteria.rules

/-- The scheme under other rules; whatever else its criteria say is kept. -/
def withRules (s : Scheme) (rules : RuleSet) : Scheme :=
  { s with criteria := some { s.criteria.getD {} with rules := some rules } }

/-- The name to show: the id stands in for a blank name. -/
def displayName (s : Scheme) : String :=
  if Text.isAllBlank s.name then s.id else s.name

/-- The parts of a scheme that have been read. -/
structure Draft where
  id : Option String := none
  name : Option String := none
  criteria : Option (Option Criteria) := none
  metadata : List Json.Member := []

/-- The fields of a scheme; all other members are kept. -/
def shape (origin : Origin) : Shape Draft where
  name := "Scheme"
  slots := [
    .of "scheme_id" (·.id) (fun d v => { d with id := some v }) Document.asString,
    .of "scheme_name" (·.name) (fun d v => { d with name := some v }) Document.asString,
    .of "eligibility_criteria" (·.criteria) (fun d v => { d with criteria := some v })
      (Document.optional (Criteria.decode origin))]
  other draft key d :=
    return { draft with metadata := Json.insertMember key (← d.asJson) draft.metadata }

/-- Reads a scheme; it is always an object, and only the id is required. -/
def decode (origin : Origin) (d : Document) : Decoded Scheme := do
  let draft ← (shape origin).readObject {} d
  let id ← (shape origin).require .named "scheme_id" draft.id
  return {
    id
    name := draft.name.getD ""
    criteria := draft.criteria.join
    metadata := draft.metadata }

/-- Reads a list of schemes. -/
def decodeList (origin : Origin) (d : Document) : Decoded (List Scheme) :=
  d.listOf (decode origin)

/-- Writes a scheme. -/
def toJson (s : Scheme) : Json :=
  .obj ([("scheme_id", .str s.id), ("scheme_name", .str s.name)] ++
    Json.optionalMember "eligibility_criteria" Criteria.toJson s.criteria ++ s.metadata)

@[simp] theorem rules_withRules (s : Scheme) (r : RuleSet) : (s.withRules r).rules = some r := rfl

@[simp] theorem id_withRules (s : Scheme) (r : RuleSet) : (s.withRules r).id = s.id := rfl

end Scheme

end Welfare
