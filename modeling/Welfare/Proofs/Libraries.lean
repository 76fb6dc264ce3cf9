import Welfare.Libraries.Plain

/-!
# What is relied on of libraries

* `Libraries.LoadsAssignments.loadAssignments_eq` — what is documented of loading assignments
  settles what it gives.
* `Libraries.plain_loadsAssignments`, `Libraries.plain_findsFilter` — the libraries for plain files
  do what is documented.
-/

set_option autoImplicit false

namespace Welfare

theorem Variables.get?_inj {v v' : Variables} (h : ∀ name, v.get? name = v'.get? name) :
    v = v' := by
  cases v
  cases v'
  exact congrArg Variables.mk (funext h)

namespace Libraries

/-- Loading assignments gives the variables with those that are assigned besides. -/
theorem LoadsAssignments.loadAssignments_eq {l : Libraries}
    {assigned : Files → Variables → List (String × String)} (h : l.LoadsAssignments assigned)
    (files : Files) (v : Variables) :
    l.loadAssignments files v = v.extend (assigned files v) := by
  refine Variables.get?_inj fun name ↦ ?_
  rw [Variables.get?_extend]
  cases hvalue : v.get? name with
  | some value => rw [h.keeps files v name value hvalue, Option.some_or]
  | none => rw [h.applies_first files v name hvalue, Option.none_or]

theorem plain_loadsAssignments : plain.LoadsAssignments fun files _ ↦ Plain.assigned files where
  keeps files v name value h := by
    rw [plain, Variables.get?_extend, h, Option.some_or]
  applies_first files v name h := by
    rw [plain, Variables.get?_extend, h, Option.none_or]

theorem plain_findsFilter : plain.FindsFilter where
  reads_one v v' h := by
    simp only [plain, h]

end Libraries

end Welfare
