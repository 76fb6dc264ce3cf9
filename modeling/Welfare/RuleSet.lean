import Welfare.Rule.Codec

/-!
# Rule sets

The rules of one scheme: who is included, who is excluded and who comes first, with the score that
is needed.

* `RuleSet` — the three lists and the minimum.
* `RuleSet.threshold` — the score that is needed.
* `RuleSet.decode`, `RuleSet.toJson` — reading and writing.
-/

set_option autoImplicit false

namespace Welfare

open Json (Decoded Document Origin Shape)

/-- The rules of one scheme. -/
structure RuleSet where
  inclusion : List Rule := []
  exclusion : List Rule := []
  priority : List Rule := []
  minimumScore : Option Float := none
  /-- Passed through for the readers of a catalog, as are `logic` and `alternatives`. -/
  ruleType : Option String := none
  logic : Option String := none
  alternatives : List String := []
deriving BEq

namespace RuleSet

/-- The score that is needed. -/
def threshold (s : RuleSet) : Float := s.minimumScore.getD 0.0

/-- The fields of a rule set that have been read. -/
structure Draft where
  inclusion : Option (List Rule) := none
  exclusion : Option (List Rule) := none
  priority : Option (List Rule) := none
  minimumScore : Option (Option Float) := none
  ruleType : Option (Option String) := none
  logic : Option (Option String) := none
  alternatives : Option (List String) := none

/-- The fields of a rule set, in order. -/
def shape (origin : Origin) : Shape Draft where
  name := "RuleSet"
  slots := [
    .of "inclusion_rules" (·.inclusion) (fun d v => { d with inclusion := some v })
      (Document.orDefault (Document.listOf (Rule.decode origin))),
    .of "exclusion_rules" (·.exclusion) (fun d v => { d with exclusion := some v })
      (Document.orDefault (Document.listOf (Rule.decode origin))),
    .of "special_priority_rules" (·.priority) (fun d v => { d with priority := some v })
      (Document.orDefault (Document.listOf (Rule.decode origin))),
    .of "minimum_score" (·.minimumScore) (fun d v => { d with minimumScore := some v })
      Document.floatOrNone,
    .of "rule_type" (·.ruleType) (fun d v => { d with ruleType := some v })
      (Document.optional Document.asString),
    .of "logic" (·.logic) (fun d v => { d with logic := some v })
      (Document.optional Document.asString),
    .of "alternative_schemes" (·.alternatives) (fun d v => { d with alternatives := some v })
      (Document.orDefault (Document.listOf Document.asString))]
  other := Shape.skimOther

/-- The rule set of a draft; nothing is required. -/
def ofDraft (draft : Draft) : RuleSet where
  inclusion := draft.inclusion.getD []
  exclusion := draft.exclusion.getD []
  priority := draft.priority.getD []
  minimumScore := draft.minimumScore.join
  ruleType := draft.ruleType.join
  logic := draft.logic.join
  alternatives := draft.alternatives.getD []

/-- Reads a rule set. -/
def decode (origin : Origin) (d : Document) : Decoded RuleSet := do
  let (draft, _) ← (shape origin).readRecord origin {} d
  return ofDraft draft

/-- The members of a rule set. -/
def members (s : RuleSet) : List Json.Member :=
  [("inclusion_rules", .arr (s.inclusion.map Rule.toJson)),
   ("exclusion_rules", .arr (s.exclusion.map Rule.toJson)),
   ("special_priority_rules", .arr (s.priority.map Rule.toJson))] ++
  Json.optionalMember "minimum_score" Json.ofFloat s.minimumScore ++
  Json.optionalMember "rule_type" .str s.ruleType ++
  Json.optionalMember "logic" .str s.logic ++
  (if s.alternatives.isEmpty then [] else [("alternative_schemes", .ofStrings s.alternatives)])

/-- Writes a rule set. -/
def toJson (s : RuleSet) : Json := .obj s.members

end RuleSet

end Welfare
