import Welfare.Json.Basic
import Welfare.Text.LowerCase

/-!
# Operators

An operator compares the value that a profile holds for a field with the operand of a rule.  A
missing value never passes, and neither does an operator that is not known.

* `Json.sameValue` — equality in which numbers are compared by magnitude.
* `Json.sameLoosely` — the same, but texts are compared without regard to case.
* `Operator` — the operators, with the tags that name them in a catalog.
* `Operator.holds` — whether a value passes.
-/

set_option autoImplicit false

namespace Welfare

/-! ## Equality of values -/

/-- Numbers are the same when their doubles are; anything else when it has the same structure. -/
def Json.sameValue (a b : Json) : Bool :=
  match a, b with
  | .num m, .num n => m.toFloat == n.toFloat
  | a, b => a == b

/-- Texts are the same when their lower cases are; anything else as `Json.sameValue` says. -/
def Json.sameLoosely (a b : Json) : Bool :=
  match a, b with
  | .str s, .str t => Text.toLower s == Text.toLower t
  | a, b => a.sameValue b

/-! ## Operators -/

/-- The comparison of a rule.  A tag that names no operator is kept as it is. -/
inductive Operator where
  | equals
  | greaterThan
  | lessThan
  | lessThanEqual
  | oneOf
  | notEmpty
  | between
  | unsupported (tag : String)
deriving DecidableEq, Repr

namespace Operator

/-- The tag that names an operator. -/
def tag : Operator → String
  | .equals => "equals"
  | .greaterThan => "greater_than"
  | .lessThan => "less_than"
  | .lessThanEqual => "less_than_equal"
  | .oneOf => "in"
  | .notEmpty => "not_empty"
  | .between => "between"
  | .unsupported tag => tag

/-- The operator that a tag names. -/
def ofTag (tag : String) : Operator :=
  match tag with
  | "equals" => .equals
  | "greater_than" => .greaterThan
  | "less_than" => .lessThan
  | "less_than_equal" => .lessThanEqual
  | "in" => .oneOf
  | "not_empty" => .notEmpty
  | "between" => .between
  | _ => .unsupported tag

/-- Whether the operator is one of the known ones. -/
def isSupported : Operator → Bool
  | .unsupported _ => false
  | _ => true

/-- Whether a relation holds between two numbers; it never holds of anything else. -/
def compares (relation : Float → Float → Bool) (actual : Option Json) (operand : Json) : Bool :=
  match actual.bind Json.float?, operand.float? with
  | some a, some b => relation a b
  | _, _ => false

/-- Whether a number lies between the two numbers of a list, both included. -/
def liesBetween (actual : Option Json) (operand : Json) : Bool :=
  match actual.bind Json.float?, operand with
  | some a, .arr [low, high] =>
    match low.float?, high.float? with
    | some low, some high => low ≤ a && a ≤ high
    | _, _ => false
  | _, _ => false

/-- Whether a value passes; `none` stands for a field that the profile does not have. -/
def holds (op : Operator) (actual : Option Json) (operand : Json) : Bool :=
  match op with
  | .equals => actual.any (·.sameLoosely operand)
  | .greaterThan => compares (fun a b => decide (b < a)) actual operand
  | .lessThan => compares (fun a b => decide (a < b)) actual operand
  | .lessThanEqual => compares (fun a b => decide (a ≤ b)) actual operand
  | .oneOf =>
    match actual, operand with
    | some a, .arr candidates => candidates.any a.sameValue
    | _, _ => false
  | .notEmpty =>
    match actual with
    | none | some .null => false
    | some (.arr items) => !items.isEmpty
    | some _ => true
  | .between => liesBetween actual operand
  | .unsupported _ => false

@[simp] theorem ofTag_tag_of_isSupported {op : Operator} (h : op.isSupported = true) :
    ofTag op.tag = op := by
  cases op with
  | unsupported tag => simp [isSupported] at h
  | _ => rfl

@[simp] theorem tag_ofTag (tag : String) : (ofTag tag).tag = tag := by
  unfold ofTag
  split <;> rfl

theorem ofTag_tag_ofTag (tag : String) : ofTag (ofTag tag).tag = ofTag tag := by
  rw [tag_ofTag]

end Operator

end Welfare
