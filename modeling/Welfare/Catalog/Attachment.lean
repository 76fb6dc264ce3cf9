import Welfare.Scheme

/-!
# Attaching rule sets to schemes

Rule sets may be kept apart from the schemes they belong to.

* `StandaloneRules` — a rule set with the id of its scheme.
* `attachRules` — every scheme takes the rules of the first rule set with its id, and a scheme
  without one keeps its own.
* `StandaloneRules.decode`, `StandaloneRules.toJson` — reading and writing.
-/

set_option autoImplicit false

namespace Welfare

open Json (Decoded Document Shape)

/-- A rule set with the id of its scheme. -/
structure StandaloneRules where
  schemeId : String
  rules : RuleSet
deriving BEq

/-- Attaches rule sets to the schemes they belong to. -/
def attachRules (schemes : List Scheme) (records : List StandaloneRules) : List Scheme :=
  schemes.map fun s =>
    match records.find? (·.schemeId == s.id) with
    | some record => s.withRules record.rules
    | none => s

theorem length_attachRules (schemes : List Scheme) (records : List StandaloneRules) :
    (attachRules schemes records).length = schemes.length := by
  simp [attachRules]

namespace StandaloneRules

/-- What has been read: the id, and the other members put aside in order. -/
structure Draft where
  schemeId : Option String := none
  aside : List Document.Member := []

/-- The id is read at once.  Everything else is put aside until the whole object is read, which
takes sound values only. -/
def shape : Shape Draft where
  name := "RuleSetRecord"
  slots := [
    .of "scheme_id" (·.schemeId) (fun d v => { d with schemeId := some v }) Document.asString]
  other draft key d := do
    let _ ← d.asJson
    return { draft with aside := draft.aside ++ [(.ok key, d)] }

/-- Reads a rule set with its id: first the id, then the rules among the members put aside. -/
def decode (d : Document) : Decoded StandaloneRules := do
  let draft ← shape.readObject {} d
  let schemeId ← shape.require .named "scheme_id" draft.schemeId
  let rules ← (RuleSet.shape .aside).readMembers {} draft.aside
  return { schemeId, rules := .ofDraft rules }

/-- Reads a list of rule sets. -/
def decodeList (d : Document) : Decoded (List StandaloneRules) :=
  d.listOf decode

/-- Writes a rule set with its id. -/
def toJson (r : StandaloneRules) : Json :=
  .obj (("scheme_id", .str r.schemeId) :: r.rules.members)

end StandaloneRules

end Welfare
