import Welfare.Assessment

/-!
# Briefings

A briefing is everything that may be said when a decision is explained to a citizen.  It holds
nothing but what the profile, the catalog and the assessment say.

* `Briefing` — the facts.
* `Briefing.of` — the briefing on an assessment.
* `Briefing.toJson` — writing.
-/

set_option autoImplicit false

namespace Welfare

/-- The facts about one decision. -/
structure Briefing where
  citizenName : String
  schemeId : String
  schemeName : String
  schemeNameHindi : Option String
  eligible : Bool
  score : Float
  reasoning : List String
  missingDocuments : List String
  applicationProcess : Option Json

namespace Briefing

/-- The facts about an assessment of a profile for a scheme. -/
def of (p : Profile) (s : Scheme) (a : Assessment) : Briefing where
  citizenName := p.fullName.getD "Citizen"
  schemeId := a.schemeId
  schemeName := s.displayName
  schemeNameHindi := (s.metadata.lookup "scheme_name_hindi").bind Json.string?
  eligible := a.eligible
  score := a.score
  reasoning := a.reasoning
  missingDocuments := a.missingDocuments
  applicationProcess := s.metadata.lookup "application_process"

/-- The decision in words. -/
def verdict (b : Briefing) : String :=
  if b.eligible then "Eligible" else "Not Eligible"

/-- Writes a briefing. -/
def toJson (b : Briefing) : Json :=
  .obj (
    [("citizen_name", .str b.citizenName),
     ("scheme_id", .str b.schemeId),
     ("scheme_name", .str b.schemeName)] ++
    Json.optionalMember "scheme_name_hindi" .str b.schemeNameHindi ++
    [("verdict", .str b.verdict),
     ("score", .ofFloat b.score),
     ("reasoning", .ofStrings b.reasoning),
     ("missing_documents", .ofStrings b.missingDocuments)] ++
    Json.optionalMember "application_process" id b.applicationProcess)

end Briefing

end Welfare
