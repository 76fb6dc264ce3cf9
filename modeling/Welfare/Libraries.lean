import Welfare.Folder
import Welfare.Settings.Variables

/-!
# Libraries

Two things that a run of the service needs are left to libraries, and are parameters here: adding
what a file of assignments assigns to the environment, and reading log filters.  Where the file is
looked for, and how assignments and filters are written, is the business of the libraries.  What is
relied on is what they document.

* `Libraries` — what libraries do for a run.
* `Libraries.LoadsAssignments` — assignments never replace a variable, and the first one counts.
* `Libraries.FindsFilter` — the filter that is asked for stands in one variable.
-/

set_option autoImplicit false

namespace Welfare

/-- What libraries do for a run. -/
structure Libraries where
  /-- The variables of an environment when the file of assignments that is found among the files, if
  there is one, has been loaded into it. -/
  loadAssignments : Files → Variables → Variables
  /-- The log filter that variables ask for, if they ask for one and it is sound. -/
  defaultFilter? : Variables → Option String
  /-- The log filter of a text, or, where the text is not sound, why: the wording of each cause,
  outermost first. -/
  filter : String → Except (List String) String

namespace Libraries

/-! ## What is documented -/

/-- Loading assignments as it is documented: the value of a variable of the environment is kept, and
of the assignments to any other name the first one is applied.  What the file that is found assigns
may depend on the environment, since values may be put together from variables. -/
structure LoadsAssignments (l : Libraries) (assigned : Files → Variables → List (String × String)) :
    Prop where
  /-- A variable that is set is kept. -/
  keeps : ∀ files v name value, v.get? name = some value →
    (l.loadAssignments files v).get? name = some value
  /-- A variable that is not set gets the first value that is assigned to it. -/
  applies_first : ∀ files v name, v.get? name = none →
    (l.loadAssignments files v).get? name = (assigned files v).lookup name

/-- Finding a log filter as it is documented: the variable `RUST_LOG` alone decides. -/
structure FindsFilter (l : Libraries) : Prop where
  reads_one : ∀ v v' : Variables, v.get? "RUST_LOG" = v'.get? "RUST_LOG" →
    l.defaultFilter? v = l.defaultFilter? v'

end Libraries

end Welfare
