/-!
# Variables

The service is configured by variables.  They come from the environment, and a file of assignments
may add to them.

* `Variables` — the value of each name that is set.
* `Variables.ofBindings` — the variables that a list of bindings sets.
* `Variables.extend` — the variables with those that are assigned besides.
-/

set_option autoImplicit false

namespace Welfare

/-- The variables of a run: the value of each name that is set. -/
structure Variables where
  get? : String → Option String

namespace Variables

/-- The variables of an environment; the first binding for a name counts. -/
def ofBindings (bindings : List (String × String)) : Variables where
  get? name := bindings.lookup name

/-- Variables with those that are assigned besides.  A variable that is set keeps its value, and any
other one gets the first value that is assigned to it. -/
def extend (v : Variables) (assigned : List (String × String)) : Variables where
  get? name := (v.get? name).or (assigned.lookup name)

theorem get?_extend (v : Variables) (assigned : List (String × String)) (name : String) :
    (v.extend assigned).get? name = (v.get? name).or (assigned.lookup name) := rfl

end Variables

end Welfare
