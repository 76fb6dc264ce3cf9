import Welfare.Libraries

/-!
# Log filters

* `LoggingError` — why there is no log, with the wording and the causes.
* `LogFilter.choose` — the filter in effect: the one that the variables ask for when it is sound,
  else the configured one.
-/

set_option autoImplicit false

namespace Welfare

/-- Why there is no log. -/
inductive LoggingError where
  /-- The configured filter is not sound, with the wording of each cause, outermost first. -/
  | invalidFilter (value : String) (causes : List String)
  | notInstalled (reason : String)

namespace LoggingError

/-- The wording of an error. -/
def message : LoggingError → String
  | .invalidFilter value _ => "invalid log filter '" ++ value ++ "' for eligibility service"
  | .notInstalled reason => "telemetry error: " ++ reason

/-- The causes of an error, outermost first. -/
def causes : LoggingError → List String
  | .invalidFilter _ causes => causes
  | .notInstalled reason => [reason]

end LoggingError

/-- The log filter in effect.  Variables that ask for a filter that is not sound ask for none. -/
def LogFilter.choose (l : Libraries) (v : Variables) (configured : String) :
    Except LoggingError String :=
  match l.defaultFilter? v with
  | some filter => .ok filter
  | none => (l.filter configured).mapError (.invalidFilter configured)

end Welfare
