import Welfare.Text.Split

/-!
# Files and folders

A run works in a folder, and names what it reads by a path.

* `FileError` — why there is no text under a path, with the wording.
* `Entry` — what a path leads to: a file with its text, or a folder.
* `Files` — what every path leads to.
* `Folder` — a folder of files.
* `Folder.follow` — what a path leads to from a folder.
-/

set_option autoImplicit false

namespace Welfare

/-- Why there is no text under a path. -/
inductive FileError where
  | missing
  /-- The path goes on behind a file. -/
  | notAFolder
  | nameTooLong
  /-- The path leads to a folder. -/
  | isAFolder
deriving DecidableEq, Repr

/-- The wording of an error. -/
def FileError.message : FileError → String
  | .missing => "No such file or directory (os error 2)"
  | .notAFolder => "Not a directory (os error 20)"
  | .nameTooLong => "File name too long (os error 36)"
  | .isAFolder => "Is a directory (os error 21)"

/-- What a path leads to. -/
inductive Entry where
  | file (text : String)
  | folder

/-- What every path leads to. -/
abbrev Files := String → Except FileError Entry

/-- A folder of files: their names and texts. -/
structure Folder where
  files : List (String × String)

namespace Folder

/-- The most bytes a name may have. -/
def longestName : Nat := 255

/-- The most bytes a path may have. -/
def longestPath : Nat := 4095

/-! ## Walking along a path -/

/-- Where a walk along a path stands. -/
inductive Place where
  /-- In the folder in which the walk began. -/
  | inside
  /-- In a folder outside, of which nothing is known but that it is one. -/
  | outside
  | file (text : String)

/-- The place that the next name of a path leads to.  No name, and a single dot, stay where they
are, but only a folder has a next name at all. -/
def step (f : Folder) (p : Place) (name : List Char) : Except FileError Place :=
  match p with
  | .file _ => .error .notAFolder
  | .outside =>
    if name = [] ∨ name = ['.'] ∨ name = ['.', '.'] then .ok .outside
    else if longestName < (String.ofList name).utf8ByteSize then .error .nameTooLong
    else .error .missing
  | .inside =>
    if name = [] ∨ name = ['.'] then .ok .inside
    else if name = ['.', '.'] then .ok .outside
    else if longestName < (String.ofList name).utf8ByteSize then .error .nameTooLong
    else match f.files.lookup (String.ofList name) with
      | some text => .ok (.file text)
      | none => .error .missing

/-- What a place is. -/
def Place.entry : Place → Entry
  | .inside | .outside => .folder
  | .file text => .file text

/-- What a path leads to.  A path that starts with a slash starts outside. -/
def follow (f : Folder) (path : String) : Except FileError Entry :=
  let cs := path.toList
  let start := if cs.head? = some '/' then Place.outside else Place.inside
  if cs = [] then .error .missing
  else if longestPath < path.utf8ByteSize then .error .nameTooLong
  else ((Text.split '/' cs).foldlM f.step start).map Place.entry

end Folder

end Welfare
