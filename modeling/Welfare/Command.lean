import Welfare.Text.Numeral
import Welfare.Text.Split

/-!
# The command line

Three commands: `serve` (also without any arguments), `evaluate` and `demo`.  An option is given at
most once, as `--name value` or `--name=value`, and nothing else is accepted.  Help may be asked for
anywhere; arguments are read from first to last, so a mistake before the question still counts and
one behind it does not.

* `Command` — what the program is told to do.
* `Command.scan` — reading the options of a command.
* `Command.parse?` — reading the arguments; there is nothing to do when they are not understood.
-/

set_option autoImplicit false

namespace Welfare

/-- What overrides the settings of `serve`. -/
structure ServeOptions where
  host : Option String := none
  port : Option Nat := none
  catalog : Option String := none
deriving DecidableEq, Repr

/-- The files of `evaluate`, and how the report is printed. -/
structure EvaluateOptions where
  profile : String
  schemes : String
  ruleSets : Option String
  pretty : Bool
deriving DecidableEq, Repr

/-- What the program is told to do. -/
inductive Command where
  | serve (options : ServeOptions)
  | evaluate (options : EvaluateOptions)
  | demo
  | help
  | version
deriving DecidableEq, Repr

namespace Command

/-- The arguments that are understood. -/
def usage : String :=
  "\n".intercalate [
    "usage: serve [--host HOST] [--port PORT] [--catalog FILE]",
    "       evaluate --profile FILE --schemes FILE [--rule-sets FILE] [--pretty]",
    "       demo"]

/-- The version of the program. -/
def programVersion : String := "0.1.0"

/-! ## Arguments -/

/-- An option that was given, with its value if it takes one. -/
abbrev Given := String × Option String

/-- An option that a command takes.  One that takes a value says which texts it accepts. -/
structure OptionSpec where
  name : String
  accepts : Option (String → Bool) := none

/-- Splits `--name=value`. -/
def splitValue (arg : String) : String × Option String :=
  match Text.cut? '=' arg.toList with
  | some (name, value) => (String.ofList name, some (String.ofList value))
  | none => (arg, none)

/-- A value of its own does not look like an option; a single dash is one. -/
def isValue (arg : String) : Bool :=
  match arg.toList with
  | '-' :: _ :: _ => false
  | _ => true

/-- Whether an argument is a long option, or starts with a short one. -/
def isFlag (long : String) (short : Char) (arg : String) : Bool :=
  arg == long || ['-', short].isPrefixOf arg.toList

/-- What the arguments of a command say. -/
inductive Told where
  /-- The options that were given, last one first. -/
  | options (given : List Given)
  | help

/-- Reads the arguments of a command behind the options already given.  The first argument that asks
for help or is not understood decides. -/
def scan (specs : List OptionSpec) (given : List Given) : List String → Option Told
  | [] => some (.options given)
  | ["--"] => some (.options given)
  | arg :: rest =>
    if isFlag "--help" 'h' arg then some .help
    else
      let (name, value) := splitValue arg
      match specs.find? (·.name == name) with
      | none => none
      | some spec =>
        if (given.lookup name).isSome then none
        else match spec.accepts, value, rest with
          | none, none, rest => scan specs ((name, none) :: given) rest
          | some accepts, some v, rest =>
            if accepts v then scan specs ((name, some v) :: given) rest else none
          | some accepts, none, v :: rest =>
            if isValue v && accepts v then scan specs ((name, some v) :: given) rest else none
          | _, _, _ => none

/-- The value that was given to an option. -/
def valueOf (given : List Given) (name : String) : Option String :=
  (given.lookup name).join

/-! ## Commands -/

/-- A path is not empty. -/
def isPath (s : String) : Bool := !s.isEmpty

/-- A port is a numeral of sixteen bits, and may have a sign. -/
def port? (s : String) : Option Nat :=
  ((Text.signedNumeral? s).filter fun n => decide (0 ≤ n ∧ n < 0x10000)).map Int.toNat

/-- The options of `serve`. -/
def serveSpecs : List OptionSpec :=
  [⟨"--host", some fun _ => true⟩, ⟨"--port", some fun s => (port? s).isSome⟩,
   ⟨"--catalog", some isPath⟩]

/-- The options of `evaluate`. -/
def evaluateSpecs : List OptionSpec :=
  [⟨"--profile", some isPath⟩, ⟨"--schemes", some isPath⟩, ⟨"--rule-sets", some isPath⟩,
   ⟨"--pretty", none⟩]

/-- The command `serve` under options. -/
def serveOf (given : List Given) : Option Command :=
  some <| .serve {
    host := valueOf given "--host"
    port := (valueOf given "--port").bind port?
    catalog := valueOf given "--catalog" }

/-- The command `evaluate` under options; the profile and the schemes are required. -/
def evaluateOf (given : List Given) : Option Command := do
  let profile ← valueOf given "--profile"
  let schemes ← valueOf given "--schemes"
  return .evaluate {
    profile, schemes
    ruleSets := valueOf given "--rule-sets"
    pretty := (given.lookup "--pretty").isSome }

/-- The command that the arguments behind its name make. -/
def withOptions (specs : List OptionSpec) (make : List Given → Option Command)
    (args : List String) : Option Command :=
  match scan specs [] args with
  | some (.options given) => make given
  | some .help => some .help
  | none => none

/-- The commands, by name. -/
def names : List String := ["serve", "evaluate", "demo", "help"]

/-- Reads the arguments. -/
def parse? : List String → Option Command
  | [] | ["--"] => some (.serve {})
  | "serve" :: args => withOptions serveSpecs serveOf args
  | "evaluate" :: args => withOptions evaluateSpecs evaluateOf args
  | "demo" :: args => withOptions [] (fun _ => some .demo) args
  | ["help"] => some .help
  | ["help", topic] => if names.contains topic then some .help else none
  | arg :: _ =>
    if isFlag "--help" 'h' arg then some .help
    else if isFlag "--version" 'V' arg then some .version
    else none

end Command

end Welfare
