import Welfare.Json.Number

/-!
# JSON values

A value is a scalar, a list or an object.  An object is the list of its members; the values that
come out of reading a document hold their members in increasing order of key, without repetition.

* `Json` — the values.
* `Json.beq` — structural equality: lists and objects are compared member by member, numbers as
  `Number.beq` says.
* `Json.get?` — the member of an object under a key.
* `Json.insertMember` — putting a member at its place in the order of keys.
* `Json.SortedKeys` — the order invariant of values that were read.
-/

set_option autoImplicit false

namespace Welfare

/-- A JSON value. -/
inductive Json where
  | null
  | bool (b : Bool)
  | num (n : Json.Number)
  | str (s : String)
  | arr (items : List Json)
  | obj (members : List (String × Json))

namespace Json

instance : Inhabited Json := ⟨.null⟩

/-- A member of an object. -/
abbrev Member := String × Json

/-! ## Equality -/

mutual

/-- Structural equality. -/
def beq : Json → Json → Bool
  | .null, .null => true
  | .bool a, .bool b => a == b
  | .num a, .num b => a == b
  | .str a, .str b => a == b
  | .arr xs, .arr ys => beqItems xs ys
  | .obj xs, .obj ys => beqMembers xs ys
  | _, _ => false

/-- Equality of lists, item by item. -/
def beqItems : List Json → List Json → Bool
  | [], [] => true
  | x :: xs, y :: ys => beq x y && beqItems xs ys
  | _, _ => false

/-- Equality of objects, member by member. -/
def beqMembers : List Member → List Member → Bool
  | [], [] => true
  | (k, x) :: xs, (l, y) :: ys => k == l && beq x y && beqMembers xs ys
  | _, _ => false

end

instance : BEq Json := ⟨beq⟩

/-! ## Parts of a value -/

/-- The value under `key`, when the value is an object that has one. -/
def get? (v : Json) (key : String) : Option Json :=
  match v with
  | .obj members => members.lookup key
  | _ => none

/-- The text of a string. -/
def string? : Json → Option String
  | .str s => some s
  | _ => none

/-- The double nearest to a number. -/
def float? : Json → Option Float
  | .num n => some n.toFloat
  | _ => none

def isObject : Json → Bool
  | .obj _ => true
  | _ => false

/-! ## Building values -/

/-- The value written for a double: its number, or `null` when it is infinite or NaN. -/
def ofFloat (x : Float) : Json :=
  match Number.ofFloat? x with
  | some n => .num n
  | none => .null

/-- The value written for a list of texts. -/
def ofStrings (xs : List String) : Json :=
  .arr (xs.map .str)

/-- The value written for a count. -/
def ofNat (n : Nat) : Json :=
  match Number.ofInt? n with
  | some k => .num k
  | none => ofFloat (Float.ofNat n)

/-- The members for something that may be unset. -/
def optionalMember {α : Type} (key : String) (write : α → Json) (x : Option α) : List Member :=
  (x.map fun a => (key, write a)).toList

/-- Puts a member at its place in the order of keys; a member with the same key is replaced. -/
def insertMember (key : String) (value : Json) : List Member → List Member
  | [] => [(key, value)]
  | (k, v) :: rest =>
    if key < k then (key, value) :: (k, v) :: rest
    else if key = k then (key, value) :: rest
    else (k, v) :: insertMember key value rest

/-! ## The order of keys -/

mutual

/-- Every object in the value lists its members in strictly increasing order of key. -/
def SortedKeys : Json → Prop
  | .arr xs => SortedItems xs
  | .obj ms => (ms.map Prod.fst).Pairwise (· < ·) ∧ SortedMembers ms
  | _ => True

/-- Every item is sorted. -/
def SortedItems : List Json → Prop
  | [] => True
  | x :: xs => SortedKeys x ∧ SortedItems xs

/-- The value of every member is sorted. -/
def SortedMembers : List Member → Prop
  | [] => True
  | (_, v) :: ms => SortedKeys v ∧ SortedMembers ms

end

end Json

end Welfare
