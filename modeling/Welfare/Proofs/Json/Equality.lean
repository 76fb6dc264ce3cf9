import Welfare.Json.Basic
import Welfare.Proofs.Double.Numbers

/-!
# Structural equality is an equivalence

Lists and objects are equal when their parts are, in order, and numbers when they are of one kind
and stand at one place.  So two values can be equal without being the same: `0.0` and `-0.0` are.

Equality looks at the contents of a value only, and values are equal exactly when their contents are
the same.  Hence it is an equivalence; no number stands in its way, since none is NaN.

* `Json.Content` — what equality looks at; the two kinds of numbers are kept apart.
* `Json.Number.beq_iff`, `Json.beq_iff` — what is equal has the same contents.
-/

set_option autoImplicit false

namespace Welfare.Json

/-! ## Contents -/

/-- What a number is to equality: an integer, or the count of a double. -/
def Number.content : Number → ℤ ⊕ ℤ
  | .int a _ => .inl a
  | .double x _ => .inr (Double.count x)

/-- What a value is to equality. -/
inductive Content where
  | null
  | bool (b : Bool)
  | num (n : ℤ ⊕ ℤ)
  | str (s : String)
  | arr (items : List Content)
  | obj (members : List (String × Content))

mutual

/-- The contents of a value. -/
def content : Json → Content
  | .null => .null
  | .bool b => .bool b
  | .num n => .num n.content
  | .str s => .str s
  | .arr xs => .arr (contentItems xs)
  | .obj ms => .obj (contentMembers ms)

/-- The contents of the items of a list. -/
def contentItems : List Json → List Content
  | [] => []
  | x :: xs => content x :: contentItems xs

/-- The contents of the members of an object. -/
def contentMembers : List Member → List (String × Content)
  | [] => []
  | (k, v) :: ms => (k, content v) :: contentMembers ms

end

/-! ## Equality -/

/-- Equal numbers have the same contents. -/
theorem Number.beq_iff {m n : Number} : (m == n) = true ↔ m.content = n.content := by
  cases m with
  | int a ha =>
    cases n with
    | int b hb =>
      show (a == b) = true ↔ _
      rw [beq_iff_eq, content, content, Sum.inl.injEq]
    | double y hy => exact iff_of_false Bool.false_ne_true Sum.inl_ne_inr
  | double x hx =>
    cases n with
    | int b hb => exact iff_of_false Bool.false_ne_true Sum.inr_ne_inl
    | double y hy =>
      show (x == y) = true ↔ _
      rw [Double.beq_iff_of_isFinite hx hy, content, content, Sum.inr.injEq]

mutual

theorem beq_iff_content : (v w : Json) → (beq v w = true ↔ v.content = w.content)
  | .null, w => by cases w <;> simp [beq, content]
  | .bool b, w => by cases w <;> simp [beq, content]
  | .num m, w => by cases w <;> simp [beq, content, Number.beq_iff]
  | .str s, w => by cases w <;> simp [beq, content]
  | .arr xs, w => by
    cases w with
    | arr ys => rw [beq, content, content, Content.arr.injEq, beqItems_iff_content xs ys]
    | _ => simp [beq, content]
  | .obj ms, w => by
    cases w with
    | obj ns => rw [beq, content, content, Content.obj.injEq, beqMembers_iff_content ms ns]
    | _ => simp [beq, content]

theorem beqItems_iff_content :
    (xs ys : List Json) → (beqItems xs ys = true ↔ contentItems xs = contentItems ys)
  | [], [] => iff_of_true rfl rfl
  | [], _ :: _ | _ :: _, [] => by simp [beqItems, contentItems]
  | x :: xs, y :: ys => by
    rw [beqItems, Bool.and_eq_true, beq_iff_content x y, beqItems_iff_content xs ys, contentItems,
      contentItems, List.cons.injEq]

theorem beqMembers_iff_content :
    (ms ns : List Member) → (beqMembers ms ns = true ↔ contentMembers ms = contentMembers ns)
  | [], [] => iff_of_true rfl rfl
  | [], _ :: _ | _ :: _, [] => by simp [beqMembers, contentMembers]
  | (k, v) :: ms, (l, w) :: ns => by
    rw [beqMembers, Bool.and_eq_true, Bool.and_eq_true, beq_iff_eq, beq_iff_content v w,
      beqMembers_iff_content ms ns, contentMembers, contentMembers, List.cons.injEq, Prod.mk.injEq]

end

/-- Equal values have the same contents. -/
theorem beq_iff {v w : Json} : (v == w) = true ↔ v.content = w.content :=
  beq_iff_content v w

end Welfare.Json
