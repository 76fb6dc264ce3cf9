import Welfare.Libraries
import Welfare.Settings.Address
import Welfare.Text.Blank

/-!
# Settings

* `Settings` — how the service runs.
* `SettingsError` — what is wrong with the variables, with the wording.
* `Settings.ofVariables` — the settings of variables.  A wrong port is reported before a blank path.
* `Settings.load` — the settings of a run: assignments are loaded, then the variables are read.
* `Settings.socketAddress` — where the service listens.
-/

set_option autoImplicit false

namespace Welfare

/-- The stage at which the service runs. -/
inductive Stage where
  | development
  | test
  | production
deriving DecidableEq, Repr

/-- How log lines are laid out. -/
inductive LogFormat where
  | compact
  | full
deriving DecidableEq, Repr

/-- A word of a variable: blanks around it do not count, nor does the case of ASCII letters. -/
def keyword (s : String) : String :=
  String.ofList ((Text.trim s).toList.map Char.toLower)

/-- The stage that a word names. -/
def Stage.ofWord (s : String) : Stage :=
  match keyword s with
  | "prod" | "production" => .production
  | "test" | "ci" => .test
  | _ => .development

/-- The layout that a word names. -/
def LogFormat.ofWord (s : String) : LogFormat :=
  match keyword s with
  | "full" | "verbose" => .full
  | _ => .compact

/-- What is wrong with the settings. -/
inductive SettingsError where
  | invalidPort
  | invalidHost
  | emptyCatalogPath
deriving DecidableEq, Repr

namespace SettingsError

/-- The wording of an error. -/
def message : SettingsError → String
  | .invalidPort => "APP_PORT must be a valid u16"
  | .invalidHost => "APP_HOST must parse to an IPv4 or IPv6 address"
  | .emptyCatalogPath => "SCHEME_CATALOG_PATH is set but empty"

/-- The cause of an error, if it has one. -/
def cause : SettingsError → Option String
  | .invalidHost => some "invalid IP address syntax"
  | _ => none

end SettingsError

/-- How the service runs. -/
structure Settings where
  stage : Stage
  host : String
  port : Nat
  logLevel : String
  logFormat : LogFormat
  /-- The file that holds the catalog, if there is one. -/
  catalogPath : Option String

namespace Settings

/-- A port: a numeral of sixteen bits. -/
def port? (s : String) : Option Nat := Text.numeral? 0x10000 s

/-- The variables that count. -/
def names : List String :=
  ["APP_ENV", "APP_HOST", "APP_PORT", "APP_LOG_LEVEL", "APP_LOG_FORMAT", "SCHEME_CATALOG_PATH",
   "RUST_LOG"]

/-- The path of the catalog: nothing when it is unset, and never blank. -/
def catalogPath? (value : Option String) : Except SettingsError (Option String) :=
  match value with
  | none => .ok none
  | some raw =>
    if Text.isAllBlank raw then .error .emptyCatalogPath else .ok (some (Text.trim raw))

/-- The settings of variables. -/
def ofVariables (v : Variables) : Except SettingsError Settings := do
  let port ← match port? ((v.get? "APP_PORT").getD "3000") with
    | some port => pure port
    | none => throw .invalidPort
  let catalogPath ← catalogPath? (v.get? "SCHEME_CATALOG_PATH")
  return {
    stage := .ofWord ((v.get? "APP_ENV").getD "development")
    host := (v.get? "APP_HOST").getD "127.0.0.1"
    port
    logLevel := (v.get? "APP_LOG_LEVEL").getD "info"
    logFormat := .ofWord ((v.get? "APP_LOG_FORMAT").getD "compact")
    catalogPath }

/-- The settings of a run among files, in an environment. -/
def load (l : Libraries) (files : Files) (environment : Variables) :
    Except SettingsError Settings :=
  ofVariables (l.loadAssignments files environment)

/-- Where a host listens on a port. -/
def socketAddressOf (host : String) (port : Nat) : Except SettingsError String :=
  match Address.ofHost? host with
  | some a => .ok (a.withPort port)
  | none => .error .invalidHost

/-- Where the service listens. -/
def socketAddress (s : Settings) : Except SettingsError String :=
  socketAddressOf s.host s.port

end Settings

end Welfare
