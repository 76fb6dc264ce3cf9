import Welfare.Libraries
import Welfare.Text.Alphanumeric
import Welfare.Text.Blank
import Welfare.Text.Numeral
import Welfare.Text.Split

/-!
# Libraries for plain files

The least that a run can do with: assignments in the folder of the run that are written plainly, and
log filters of plain directives.  Quotation marks, escapes and references to other variables are not
plain, nor are filters for spans and fields; other libraries read these too.  From the first line
that is not plain nothing is assigned, and a filter that is not plain is refused.

* `Plain.assignment?`, `Plain.assignments` — the assignment on a line, and those on lines.
* `Plain.Level`, `Plain.Directive` — the parts of a filter, each with its reader.
* `Plain.insert` — adding a directive: the more specific ones stand first.
* `Plain.filter?` — the filter of a text, in normal form.
* `Libraries.plain` — the libraries.
-/

set_option autoImplicit false

namespace Welfare

namespace Plain

/-! ## Assignments -/

/-- The characters of the name of a variable. -/
def isNameChar (c : Char) : Bool := c.isAlphanum || c == '_' || c == '.'

/-- Whether a character of a value is plain: blanks, the two quotation marks, the dollar sign and
the backslash are not. -/
def isPlain (c : Char) : Bool :=
  !(Text.isBlank c || [0x22, 0x27, 0x24, 0x5C].contains c.toNat)

/-- The assignment `NAME=VALUE` on a line.  A value that starts with a number sign is a comment, so
there is no value. -/
def assignment? (line : List Char) : Option (String × String) :=
  match Text.cut? '=' line with
  | none => none
  | some (name, value) =>
    if !name.head?.any (fun c => c.isAlpha || c == '_') || !name.all isNameChar then none
    else if value.head? == some '#' then some (String.ofList name, "")
    else if value.all isPlain then some (String.ofList name, String.ofList value)
    else none

/-- The assignments on lines, up to a line that is not plain.  Blank lines and comments assign
nothing. -/
def assignments : List (List Char) → List (String × String)
  | [] => []
  | line :: lines =>
    if (line.dropWhile Text.isBlank).head?.all (· == '#') then assignments lines
    else match assignment? line with
      | some a => a :: assignments lines
      | none => []

/-- The file in which assignments may stand. -/
def assignmentsFile : String := ".env"

/-- What is assigned in the folder of a run. -/
def assigned (files : Files) : List (String × String) :=
  match files assignmentsFile with
  | .ok (.file text) => assignments (Text.split '\n' text.toList)
  | _ => []

/-! ## Levels -/

/-- How much is logged, from silence to everything. -/
inductive Level where
  | off
  | error
  | warn
  | info
  | debug
  | trace
deriving DecidableEq, Repr

/-- The levels, each at the place of its number. -/
def levels : List Level := [.off, .error, .warn, .info, .debug, .trace]

/-- The word for a level. -/
def Level.word : Level → String
  | .off => "off"
  | .error => "error"
  | .warn => "warn"
  | .info => "info"
  | .debug => "debug"
  | .trace => "trace"

/-- The level that a word, in letters of either case, or a number names. -/
def level? (cs : List Char) : Option Level :=
  let word := String.ofList (cs.map Char.toLower)
  (Text.numeral? levels.length word).bind (levels[·]?) <|> levels.find? (·.word == word)

/-- What is wrong with a level that is none. -/
def badLevel : String :=
  "error parsing level filter: expected one of " ++
    ", ".intercalate (levels.map fun level => "\"" ++ level.word ++ "\"") ++ ", or a number 0-5"

/-! ## Directives -/

/-- What is logged of a target; without a target, of everything. -/
structure Directive where
  target : Option String := none
  level : Level
deriving DecidableEq, Repr

/-- Whether a target may start with a character. -/
def startsTarget (c : Char) : Bool :=
  Text.isAlphanumeric c || c == '-' || c == ':' || c == '_'

/-- Reads a directive: a level, a target with its level, or a target alone, of which everything is
logged.  Blanks in front do not count when its first character is looked at, but they belong to it:
then it is no level, and it may not hold an equals sign. -/
def directive? (cs : List Char) : Option Directive :=
  let body := cs.dropWhile Text.isBlank
  let target := body.takeWhile (· != '=')
  if !body.head?.any startsTarget || target.contains '[' then none
  else match Text.cut? '=' body with
    | none =>
      match level? cs with
      | some level => some { level }
      | none => some { target := String.ofList cs, level := .trace }
    | some (_, level) =>
      if body.length < cs.length then none
      else if level.isEmpty then some { target := String.ofList target, level := .trace }
      else (level? level).map fun level => { target := String.ofList target, level }

/-- The text of a directive. -/
def Directive.text (d : Directive) : String :=
  (d.target.map (· ++ "=")).getD "" ++ d.level.word

/-! ## Filters -/

/-- Whether a target is more specific than another one: the longer one is, and of targets of one
length the later one in the order of texts.  None at all is the least specific. -/
def moreSpecific : Option String → Option String → Bool
  | none, _ => false
  | some _, none => true
  | some a, some b =>
    b.utf8ByteSize < a.utf8ByteSize || (a.utf8ByteSize == b.utf8ByteSize && decide (b < a))

/-- The directives with one more.  More specific ones stand first, and the last directive for a
target replaces those before it. -/
def insert (d : Directive) : List Directive → List Directive
  | [] => [d]
  | e :: es =>
    if d.target = e.target then d :: es
    else if moreSpecific d.target e.target then d :: e :: es
    else e :: insert d es

/-- The filter of a text, in normal form: directives between commas, where an empty one does not
count. -/
def filter? (s : String) : Option String := do
  let directives ← ((Text.split ',' s.toList).filter (!·.isEmpty)).mapM directive?
  return ",".intercalate ((directives.foldl (fun ds d => insert d ds) []).map Directive.text)

end Plain

/-- Libraries for plain files.  What is wrong with a filter is put down to a level: the directive
holds none, and it is none. -/
def Libraries.plain : Libraries where
  loadAssignments files v := v.extend (Plain.assigned files)
  defaultFilter? v := (v.get? "RUST_LOG").bind Plain.filter?
  filter s :=
    match Plain.filter? s with
    | some filter => .ok filter
    | none => .error [Plain.badLevel, Plain.badLevel]

end Welfare
