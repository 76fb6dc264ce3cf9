import Std.Time.Format
import Welfare.Command.Run

/-!
# The program

The outer layer: it gathers what a run sees, lets the library decide, and prints.  A catalog that is
ready to be served is not served here; listening on an address is left to a host that has sockets.
-/

set_option autoImplicit false

namespace Welfare

/-- The number by which the system says that a folder is no file. -/
def folderCode : UInt32 := 21

/-- What a path leads to. -/
def readEntry (path : String) : IO (Except FileError Entry) := do
  try
    return .ok (.file (← IO.FS.readFile path))
  catch
    | .inappropriateType _ code _ =>
      return if code = folderCode then .ok .folder else .error .notAFolder
    | .invalidArgument .. => return .error .nameTooLong
    | _ => return .error .missing

/-- The variables of the environment that count. -/
def readEnvironment : IO (List (String × String)) :=
  Settings.names.filterMapM fun name => do
    return (← IO.getEnv name).map (name, ·)

/-- The time in words: date, time of day and the mark of universal time. -/
def timeInWords : IO String := do
  let now ← Std.Time.Timestamp.now
  let clock := Std.Time.DateTime.ofTimestamp now Std.Time.TimeZone.ZoneRules.UTC
  return clock.toPlainDateTime.toLeanDateTimeString ++ "Z"

/-- What a command sees: the variables, the time and the files it reads, which are plain. -/
def look (command : Command) : IO World := do
  let assignments ← readEntry Plain.assignmentsFile
  let bare : World := {
    libraries := .plain
    entry := fun path => if path = Plain.assignmentsFile then assignments else .error .missing
    environment := .ofBindings (← readEnvironment)
    now := ← timeInWords }
  let entries ← (command.paths bare.inEffect).mapM fun path => return (path, ← readEntry path)
  return { bare with entry := fun path => (entries.lookup path).getD (bare.entry path) }

/-- Prints the end of a run and gives its exit code. -/
def conclude (ending : Ending) : IO UInt32 := do
  IO.print ending.output
  IO.eprint ending.errorOutput
  return ending.exitCode.toUInt32

/-- Runs a command. -/
def runCommand (command : Command) : IO UInt32 := do
  let world ← look command
  match world.run command with
  | .ok (.listen address _) => conclude (.failed (.io ("cannot listen on " ++ address)))
  | .ok effect => conclude (.done effect)
  | .error f => conclude (.failed f)

end Welfare

/-- Runs the program with the arguments of the command line. -/
def main (args : List String) : IO UInt32 :=
  match Welfare.Command.parse? args with
  | some command => Welfare.runCommand command
  | none => Welfare.conclude .usage
