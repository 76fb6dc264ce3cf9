import Welfare.Scheme
import Welfare.Decimal.Layout

/-!
# Assessing a profile for one scheme

An assessment says whether a citizen may apply for a scheme, with a score and the trail of findings
that led there.

The trail lists, in the order of the rules, every exclusion that is met, then every inclusion rule,
met or failed, then every priority rule that is met.  When no exclusion is met and the score still
falls short, a last entry says so.

* `Finding` — the entries of the trail, with their wording.
* `Findings` — what the rules of a scheme find in a profile.
* `Assessment` — the result for one scheme.
* `Scheme.assess` — the decision.
* `Assessment.decode`, `Assessment.toJson` — reading and writing.
-/

set_option autoImplicit false

namespace Welfare

open Json (Decoded Document Origin Shape)

/-! ## Findings -/

/-- An entry of the trail. -/
inductive Finding where
  | disqualified (explanation : String)
  | passed (explanation : String)
  | failed (explanation : String)
  | boosted (boost : Float) (explanation : String)
  | belowThreshold (total minimum : Float)

namespace Finding

/-- Amounts in the trail are written positionally, and a whole amount without a point. -/
def amountLayout : Decimal.Layout where
  positional := none
  marksWhole := false
  tie := .up

/-- An amount as the trail writes it. -/
def amount (x : Float) : String := amountLayout.render x

/-- The wording of an entry. -/
def render : Finding → String
  | .disqualified explanation => "❌ Disqualified: " ++ explanation
  | .passed explanation => "✅ " ++ explanation
  | .failed explanation => "ℹ️ Failed: " ++ explanation
  | .boosted boost explanation => "⭐ Priority Boost (" ++ amount boost ++ "): " ++ explanation
  | .belowThreshold total minimum =>
    "⚠️ Total score (" ++ amount total ++ ") is below minimum threshold (" ++ amount minimum ++ ")"

end Finding

/-! ## What rules find -/

/-- What rules find in a profile, threshold aside. -/
structure Findings where
  /-- Whether an exclusion is met. -/
  disqualified : Bool := false
  /-- The points of the inclusion rules that are met. -/
  points : Float := 0.0
  /-- The boosts of the priority rules that are met. -/
  boost : Float := 0.0
  /-- The trail so far. -/
  trail : List Finding := []
  /-- The documents that are still needed. -/
  missingDocuments : List String := []

namespace Findings

/-- Looks at an exclusion. -/
def addExclusion (p : Profile) (f : Findings) (r : Rule) : Findings :=
  if r.holds p then
    { f with disqualified := true, trail := f.trail ++ [.disqualified r.explanation] }
  else f

/-- Looks at an inclusion rule.  One that fails may ask for a document. -/
def addInclusion (p : Profile) (f : Findings) (r : Rule) : Findings :=
  if r.holds p then
    { f with points := f.points + r.points, trail := f.trail ++ [.passed r.explanation] }
  else
    { f with
      trail := f.trail ++ [.failed r.explanation]
      missingDocuments :=
        if r.asksForDocument then f.missingDocuments ++ [r.documentLabel]
        else f.missingDocuments }

/-- Looks at a priority rule. -/
def addPriority (p : Profile) (f : Findings) (r : Rule) : Findings :=
  if r.holds p then
    { f with boost := f.boost + r.boost, trail := f.trail ++ [.boosted r.boost r.explanation] }
  else f

end Findings

/-- What the rules find in a profile: the exclusions come first, then the inclusion rules, then the
priority rules.  Every rule is looked at, whatever the others find. -/
def RuleSet.findings (s : RuleSet) (p : Profile) : Findings :=
  s.priority.foldl (.addPriority p) <|
    s.inclusion.foldl (.addInclusion p) <|
      s.exclusion.foldl (.addExclusion p) {}

namespace Findings

/-- The score. -/
def total (f : Findings) : Float := f.points + f.boost

/-- Whether the score is reached and nothing disqualifies. -/
def eligible (f : Findings) (minimum : Float) : Bool :=
  !f.disqualified && decide (minimum ≤ f.total)

/-- The whole trail: a score that falls short is noted, unless something disqualifies anyway. -/
def fullTrail (f : Findings) (minimum : Float) : List Finding :=
  f.trail ++
    if f.eligible minimum || f.disqualified then [] else [.belowThreshold f.total minimum]

end Findings

/-! ## Assessments -/

/-- The result for one scheme. -/
structure Assessment where
  schemeId : String
  schemeName : String
  eligible : Bool
  score : Float
  reasoning : List String
  missingDocuments : List String
  priorityBoost : Float

namespace Assessment

/-- The only entry of the trail of a scheme without rules. -/
def noRules : String := "No eligibility rules defined for this scheme."

end Assessment

/-- Assesses a profile for a scheme.  Nobody is eligible for a scheme without rules. -/
def Scheme.assess (s : Scheme) (p : Profile) : Assessment :=
  match s.rules with
  | none =>
    { schemeId := s.id, schemeName := s.name, eligible := false, score := 0.0
      reasoning := [Assessment.noRules], missingDocuments := [], priorityBoost := 0.0 }
  | some rules =>
    let found := rules.findings p
    { schemeId := s.id, schemeName := s.name
      eligible := found.eligible rules.threshold
      score := found.total
      reasoning := (found.fullTrail rules.threshold).map Finding.render
      missingDocuments := found.missingDocuments
      priorityBoost := found.boost }

namespace Assessment

/-! ## Assessments in JSON -/

/-- The fields of an assessment that have been read. -/
structure Draft where
  schemeId : Option String := none
  schemeName : Option String := none
  eligible : Option Bool := none
  score : Option Float := none
  reasoning : Option (List String) := none
  missingDocuments : Option (List String) := none
  priorityBoost : Option Float := none

/-- The fields of an assessment, in order. -/
def shape : Shape Draft where
  name := "SchemeEvaluation"
  slots := [
    .of "scheme_id" (·.schemeId) (fun d v => { d with schemeId := some v }) Document.asString,
    .of "scheme_name" (·.schemeName) (fun d v => { d with schemeName := some v })
      Document.asString,
    .of "is_eligible" (·.eligible) (fun d v => { d with eligible := some v }) Document.asBool,
    .of "score" (·.score) (fun d v => { d with score := some v }) Document.asFloat,
    .of "reasoning" (·.reasoning) (fun d v => { d with reasoning := some v })
      (Document.listOf Document.asString),
    .of "missing_documents" (·.missingDocuments) (fun d v => { d with missingDocuments := some v })
      (Document.listOf Document.asString),
    .of "priority_boost" (·.priorityBoost) (fun d v => { d with priorityBoost := some v })
      Document.asFloat]
  other := Shape.skimOther

/-- Reads an assessment; every field is required. -/
def decode (origin : Origin) (d : Document) : Decoded Assessment := do
  let (draft, form) ← shape.readRecord origin {} d
  let schemeId ← shape.require form "scheme_id" draft.schemeId
  let schemeName ← shape.require form "scheme_name" draft.schemeName
  let eligible ← shape.require form "is_eligible" draft.eligible
  let score ← shape.require form "score" draft.score
  let reasoning ← shape.require form "reasoning" draft.reasoning
  let missingDocuments ← shape.require form "missing_documents" draft.missingDocuments
  let priorityBoost ← shape.require form "priority_boost" draft.priorityBoost
  return { schemeId, schemeName, eligible, score, reasoning, missingDocuments, priorityBoost }

/-- Writes an assessment. -/
def toJson (a : Assessment) : Json :=
  .obj [
    ("scheme_id", .str a.schemeId),
    ("scheme_name", .str a.schemeName),
    ("is_eligible", .bool a.eligible),
    ("score", .ofFloat a.score),
    ("reasoning", .ofStrings a.reasoning),
    ("missing_documents", .ofStrings a.missingDocuments),
    ("priority_boost", .ofFloat a.priorityBoost)]

end Assessment

end Welfare
