import Welfare.Operator
import Welfare.Profile

/-!
# Rules

A rule is one authored condition: a field, an operator and an operand, with an explanation in the
words of the catalog's author.

* `Rule` — a condition.
* `Rule.holds` — whether a profile meets it.
* `Rule.points`, `Rule.boost` — what a met rule adds to a score.
* `Rule.documentLabel` — the document that a rule on the `documents` category asks for.
-/

set_option autoImplicit false

namespace Welfare

/-- One authored condition. -/
structure Rule where
  id : Option String := none
  field : Field
  operator : Operator
  value : Json
  weight : Option Float := none
  /-- Kept for the readers of a catalog: any exclusion that is met disqualifies. -/
  disqualifies : Option Bool := none
  priorityBoost : Option Float := none
  explanation : String
deriving BEq

namespace Rule

/-- Whether a profile meets the rule. -/
def holds (r : Rule) (p : Profile) : Bool :=
  r.operator.holds (p.resolve r.field) r.value

/-- What the rule adds to the score as an inclusion rule. -/
def points (r : Rule) : Float := r.weight.getD 0.0

/-- What the rule adds to the score as a priority rule. -/
def boost (r : Rule) : Float := r.priorityBoost.getD 0.0

/-- Whether the rule asks for a document. -/
def asksForDocument (r : Rule) : Bool :=
  r.field.category == some .documents

/-- The text without a suffix it may end in. -/
def dropSuffix (suffix text : List Char) : List Char :=
  if suffix.isSuffixOf text then text.take (text.length - suffix.length) else text

/-- The name of the document, taken from the explanation: `Aadhaar card required` asks for the
`Aadhaar card`. -/
def documentLabel (r : Rule) : String :=
  String.ofList (dropSuffix " required".toList (Text.trimEnd r.explanation).toList)

end Rule

end Welfare
