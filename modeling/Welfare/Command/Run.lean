import Welfare.Catalog.Attachment
import Welfare.Command
import Welfare.Command.Demo
import Welfare.World

/-!
# Running a command

* `World.evaluate` — screening the profile of a file against the schemes of a file.
* `World.serve` — preparing the service.
* `World.run` — what a command does: print something, listen somewhere, or fail.
* `World.runArguments` — the end of a run with given arguments: exit code and what is printed.
-/

set_option autoImplicit false

namespace Welfare

open Json (Document)

/-- What a command does when nothing fails. -/
inductive Effect where
  | print (text : String)
  | listen (address : String) (source : Source)

/-- The end of a run. -/
inductive Ending where
  /-- The arguments were not understood. -/
  | usage
  | failed (f : Failure)
  | done (e : Effect)

namespace Ending

/-- The exit code of a run. -/
def exitCode : Ending → Nat
  | .usage => 2
  | .failed _ => 1
  | .done _ => 0

/-- What a run prints. -/
def output : Ending → String
  | .done (.print text) => text
  | _ => ""

/-- What a run prints about its failure, apart from the place ` at line N column M` that follows the
wording of input that cannot be decoded. -/
def errorOutput : Ending → String
  | .usage => Command.usage ++ "\n"
  | .failed f => "application error: " ++ f.message ++ "\n"
  | .done _ => ""

end Ending

/-- A screening with the time it was made, as a report shows it. -/
def Screening.report (s : Screening) (now : String) : Json :=
  .obj (("evaluated_at", .str now) :: s.members)

namespace World

/-! ## Evaluating files -/

/-- The schemes to evaluate: those of a file, with the rule sets of another file attached. -/
def schemes (w : World) (o : EvaluateOptions) : Except Failure (List Scheme) := do
  let schemes ← w.readFile (Scheme.decodeList .text) o.schemes
  match o.ruleSets with
  | none => return schemes
  | some path =>
    let records ← w.readFile StandaloneRules.decodeList path
    return attachRules schemes records

/-- Screens the profile of a file against the schemes of a file, and prints one report.  Files are
read in the order profile, schemes, rule sets. -/
def evaluate (w : World) (o : EvaluateOptions) : Except Failure String := do
  let profile ← w.readFile Document.asJson o.profile
  let schemes ← w.schemes o
  let report := ((Profile.mk profile).screen schemes).report w.now
  return (if o.pretty then report.pretty else report.compact) ++ "\n"

/-! ## Serving -/

/-- The settings of a run of `serve`: what the command line says goes first. -/
def overrule (o : ServeOptions) (s : Settings) : Settings :=
  { s with
    host := o.host.getD s.host
    port := o.port.getD s.port
    catalogPath := o.catalog <|> s.catalogPath }

/-- Prepares the service.  Settings, log, catalog and address are looked at in this order. -/
def serve (w : World) (o : ServeOptions) : Except Failure Effect := do
  let settings ← (Settings.load w.libraries w.entry w.environment).mapError .settings
  let settings := overrule o settings
  let _ ← (LogFilter.choose w.libraries w.inEffect settings.logLevel).mapError .logging
  let catalog ← (w.loadCatalog settings.catalogPath).mapError .catalog
  let address ← settings.socketAddress.mapError .settings
  return .listen address (.catalog catalog)

/-! ## Commands -/

/-- Does what a command says. -/
def run (w : World) : Command → Except Failure Effect
  | .serve options => w.serve options
  | .evaluate options => (w.evaluate options).map .print
  | .demo => .ok (.print Demo.text)
  | .help => .ok (.print (Command.usage ++ "\n"))
  | .version => .ok (.print (Command.programVersion ++ "\n"))

/-- Runs the program with arguments. -/
def runArguments (w : World) (args : List String) : Ending :=
  match Command.parse? args with
  | none => .usage
  | some command =>
    match w.run command with
    | .ok effect => .done effect
    | .error f => .failed f

end World

/-! ## What a command reads -/

/-- The files a command reads under variables, the file of assignments aside. -/
def Command.paths (v : Variables) : Command → List String
  | .serve o =>
    match Settings.ofVariables v with
    | .ok settings => (World.overrule o settings).catalogPath.toList
    | .error _ => []
  | .evaluate o => o.profile :: o.schemes :: o.ruleSets.toList
  | .demo | .help | .version => []

end Welfare
