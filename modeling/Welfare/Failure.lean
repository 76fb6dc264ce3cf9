import Welfare.Catalog
import Welfare.Http.Message
import Welfare.Settings
import Welfare.Settings.LogFilter

/-!
# Failures of a run

Everything that can end a run of the program, with its wording, its causes and the response that
reports it.

* `Failure` — why a run ends.
* `Failure.message`, `Failure.causes` — the wording, and the wording of each cause, outermost first;
  of input that cannot be decoded, up to the place where it was found.
* `Failure.response` — the response that reports it: input that cannot be read is the client's
  fault, everything else is not.
-/

set_option autoImplicit false

namespace Welfare

open Json (DecodeError)

/-- Why a run ends. -/
inductive Failure where
  | settings (e : SettingsError)
  | logging (e : LoggingError)
  | io (reason : String)
  | catalog (e : CatalogError)
  | input (e : DecodeError)

namespace Failure

/-- The wording of a failure.  What is wrong with input is worded up to its place. -/
def message : Failure → String
  | .settings e => "configuration error: " ++ e.message
  | .logging e => "telemetry error: " ++ e.message
  | .io reason => "io error: " ++ reason
  | .catalog e => "catalog error: " ++ e.message
  | .input e => "invalid json input: " ++ e.message

/-- The wording of each cause, outermost first. -/
def causes : Failure → List String
  | .settings e => e.message :: e.cause.toList
  | .logging e => e.message :: e.causes
  | .io reason => [reason]
  | .catalog e =>
    e.message ::
      match e with
      | .unreadable reason => [reason]
      | .invalid e => [e.message]
      | _ => []
  | .input e => [e.message]

/-- The status that reports a failure. -/
def status : Failure → Nat
  | .input _ | .catalog (.invalid _) => 400
  | _ => 500

/-- The response that reports a failure. -/
def response (f : Failure) : Http.Response := .error f.status f.message

end Failure

end Welfare
