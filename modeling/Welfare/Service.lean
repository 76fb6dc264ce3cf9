import Welfare.Catalog
import Welfare.Screening

/-!
# The eligibility service

What the service answers: assessments and screenings over the schemes of a source, and the schemes
themselves.

* `ServiceError` — why there is no answer, with the wording.
* `Source.check` — the assessment for one scheme.
* `Source.screenAll`, `Source.screenThese` — the screening against all schemes of the source, or
  against schemes the caller brings.
* `Source.schemes`, `Source.scheme` — the schemes.
-/

set_option autoImplicit false

namespace Welfare

/-- Why the service has no answer. -/
inductive ServiceError where
  | schemeNotFound (id : String)
  | catalog (e : CatalogError)

/-- The wording of an error. -/
def ServiceError.message : ServiceError → String
  | .schemeNotFound id => "scheme " ++ id ++ " not found"
  | .catalog e => e.message

namespace Source

/-- All schemes. -/
def schemes (s : Source) : Except ServiceError (List Scheme) :=
  s.list.mapError .catalog

/-- The scheme with an id. -/
def scheme (s : Source) (id : String) : Except ServiceError Scheme :=
  match s.fetch id with
  | .ok (some scheme) => .ok scheme
  | .ok none => .error (.schemeNotFound id)
  | .error e => .error (.catalog e)

/-- The assessment of a profile for the scheme with an id. -/
def check (s : Source) (p : Profile) (id : String) : Except ServiceError Assessment :=
  (s.scheme id).map (·.assess p)

/-- The screening of a profile against all schemes. -/
def screenAll (s : Source) (p : Profile) : Except ServiceError Screening :=
  s.schemes.map p.screen

/-- The screening of a profile against schemes the caller brings; the source is not asked. -/
def screenThese (_ : Source) (p : Profile) (schemes : List Scheme) : Screening :=
  p.screen schemes

end Source

end Welfare
