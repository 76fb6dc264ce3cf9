import Welfare.Briefing
import Welfare.Command.Sample
import Welfare.Json.Printer
import Welfare.Screening

/-!
# The demonstration

The sample citizen is screened against the sample schemes, and the result is told in plain lines.

* `Demo.screeningLines` — the lines about a screening.
* `Demo.briefingLines` — the lines that explain the first scheme that fits.
* `Demo.text` — the demonstration.
-/

set_option autoImplicit false

namespace Welfare.Demo

/-- A line for a scheme that fits. -/
def topLine (b : Brief) : String :=
  let line := "  - " ++ b.schemeName ++ " (score " ++ Finding.amount b.score ++ ")"
  if b.missingDocuments.isEmpty then line
  else line ++ " | still needs: " ++ ", ".intercalate b.missingDocuments

/-- A line for a scheme that does not fit, with the last finding as the reason. -/
def reasonLine (a : Assessment) : String :=
  "  - " ++ a.schemeName ++ ": " ++ a.reasoning.getLast?.getD "no reasoning recorded"

/-- The lines about a screening. -/
def screeningLines (s : Screening) : List String :=
  [s.summary,
   "- " ++ toString s.eligible.length ++ " of " ++ toString s.total ++ " schemes matched"] ++
  (if s.eligible.isEmpty then [] else "Top matches:" :: (s.top 3).map topLine) ++
  (if s.ineligible.isEmpty then [] else "Not eligible:" :: s.ineligible.map reasonLine) ++
  (if s.missingDocuments.isEmpty then []
   else ["Documents to collect: " ++ ", ".intercalate s.missingDocuments])

/-- The lines that explain the first scheme that fits. -/
def briefingLines (p : Profile) (schemes : List Scheme) (s : Screening) : List String :=
  match s.eligible.head? with
  | none => []
  | some a =>
    match schemes.find? (·.id == a.schemeId) with
    | none => []
    | some scheme =>
      let briefing := Briefing.of p scheme a
      ["", "Explanation context for " ++ briefing.schemeName, briefing.toJson.pretty]

/-- The demonstration. -/
def text : String :=
  let screening := Sample.profile.screen Sample.schemes
  let lines := "Scheme eligibility demo" :: screeningLines screening ++
    briefingLines Sample.profile Sample.schemes screening
  String.join (lines.map (· ++ "\n"))

end Welfare.Demo
