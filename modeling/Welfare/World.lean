import Welfare.Failure
import Welfare.Libraries.Plain

/-!
# What a run sees

* `World` — libraries, files, the environment and the time.
* `World.ofFolder` — what a run sees in a folder of plain files.
* `World.inEffect` — the variables of a run when assignments have been loaded.
* `World.readFile` — a file, decoded.
* `World.loadCatalog` — the catalog of a file.
-/

set_option autoImplicit false

namespace Welfare

open Json (Decoded Document)

/-- What a run sees. -/
structure World where
  libraries : Libraries
  /-- What a path leads to. -/
  entry : Files
  environment : Variables
  /-- The time of the run, in words. -/
  now : String

namespace World

/-- What a run sees in a folder of plain files. -/
def ofFolder (f : Folder) (environment : List (String × String)) (now : String) : World where
  libraries := .plain
  entry := f.follow
  environment := .ofBindings environment
  now

/-- The variables of a run when the assignments it finds have been loaded. -/
def inEffect (w : World) : Variables := w.libraries.loadAssignments w.entry w.environment

/-- Reads a file.  A folder is found like a file, but it has no text to decode. -/
def readFile {α : Type} (w : World) (decode : Document → Decoded α) (path : String) :
    Except Failure α := do
  match ← (w.entry path).mapError (.io ·.message) with
  | .file text => (Json.decodeText decode text).mapError .input
  | .folder => .error (.input (.unreadable FileError.isAFolder.message))

/-- Loads the catalog of a file; without a file it is empty. -/
def loadCatalog (w : World) (path : Option String) : Except CatalogError Catalog :=
  match path with
  | none => .ok .empty
  | some path => do
    match ← (w.entry path).mapError (.unreadable ·.message) with
    | .file text => Catalog.ofText text
    | .folder => .error (.invalid (.unreadable FileError.isAFolder.message))

end World

end Welfare
