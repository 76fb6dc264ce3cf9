import Welfare.Assessment

/-!
# Screening a profile against many schemes

A screening assesses one profile for a list of schemes and sorts the assessments into two lists,
each in the order of the schemes.

* `Screening` — the result, with a summary in one sentence.
* `Profile.screen` — the screening of a profile.
* `Screening.top`, `Screening.missingDocuments` — what is read out to the citizen.
* `Screening.decode`, `Screening.toJson` — reading and writing.
-/

set_option autoImplicit false

namespace Welfare

open Json (Decoded Document Origin Shape)

/-- The result of a screening. -/
structure Screening where
  citizenId : Option String
  eligible : List Assessment
  ineligible : List Assessment
  summary : String

/-- How the citizen is called in a summary: by name, else by id. -/
def Profile.subject (p : Profile) : String :=
  (p.fullName <|> p.citizenId).getD "Citizen"

/-- Screens a profile against schemes. -/
def Profile.screen (p : Profile) (schemes : List Scheme) : Screening :=
  let assessments := schemes.map (·.assess p)
  let eligible := assessments.filter (·.eligible)
  { citizenId := p.citizenId
    eligible
    ineligible := assessments.filter (!·.eligible)
    summary := p.subject ++ " is eligible for " ++ toString eligible.length ++ " schemes." }

/-! ## Views -/

/-- What is read out about a scheme the citizen is eligible for. -/
structure Brief where
  schemeName : String
  score : Float
  missingDocuments : List String

/-- The part of an assessment that is read out. -/
def Assessment.brief (a : Assessment) : Brief where
  schemeName := a.schemeName
  score := a.score
  missingDocuments := a.missingDocuments

/-- Writes a brief. -/
def Brief.toJson (b : Brief) : Json :=
  .obj [
    ("scheme_name", .str b.schemeName),
    ("score", .ofFloat b.score),
    ("missing_documents", .ofStrings b.missingDocuments)]

/-- The members of a list in order of first mention, each once. -/
def firstMentions : List String → List String
  | [] => []
  | x :: xs => x :: (firstMentions xs).filter (· != x)

namespace Screening

/-- The number of schemes that were assessed. -/
def total (s : Screening) : Nat := s.eligible.length + s.ineligible.length

/-- The first `n` schemes the citizen is eligible for. -/
def top (s : Screening) (n : Nat) : List Brief := (s.eligible.take n).map Assessment.brief

/-- The documents that are still needed for the schemes the citizen is eligible for, each once, in
order of first mention. -/
def missingDocuments (s : Screening) : List String :=
  firstMentions (s.eligible.flatMap (·.missingDocuments))

/-! ## Screenings in JSON -/

/-- The fields of a screening that have been read. -/
structure Draft where
  citizenId : Option (Option String) := none
  eligible : Option (List Assessment) := none
  ineligible : Option (List Assessment) := none
  summary : Option String := none

/-- The fields of a screening, in order. -/
def shape (origin : Origin) : Shape Draft where
  name := "BatchResult"
  slots := [
    .of "citizen_id" (·.citizenId) (fun d v => { d with citizenId := some v })
      (Document.optional Document.asString),
    .of "eligible_schemes" (·.eligible) (fun d v => { d with eligible := some v })
      (Document.listOf (Assessment.decode origin)),
    .of "ineligible_schemes" (·.ineligible) (fun d v => { d with ineligible := some v })
      (Document.listOf (Assessment.decode origin)),
    .of "summary" (·.summary) (fun d v => { d with summary := some v }) Document.asString]
  other := Shape.skimOther

/-- Reads a screening; only the id of the citizen may be missing. -/
def decode (origin : Origin) (d : Document) : Decoded Screening := do
  let (draft, form) ← (shape origin).readRecord origin {} d
  let eligible ← (shape origin).require form "eligible_schemes" draft.eligible
  let ineligible ← (shape origin).require form "ineligible_schemes" draft.ineligible
  let summary ← (shape origin).require form "summary" draft.summary
  return { citizenId := draft.citizenId.join, eligible, ineligible, summary }

/-- The members of a screening. -/
def members (s : Screening) : List Json.Member :=
  Json.optionalMember "citizen_id" .str s.citizenId ++
  [("eligible_schemes", .arr (s.eligible.map Assessment.toJson)),
   ("ineligible_schemes", .arr (s.ineligible.map Assessment.toJson)),
   ("summary", .str s.summary)]

/-- Writes a screening. -/
def toJson (s : Screening) : Json := .obj s.members

end Screening

end Welfare
