/-!
# Numbers of a JSON document

A number is either an integer that fits 64 bits (signed or unsigned) or a finite double.  The two
kinds stay apart: `5` and `5.0` are different values with the same magnitude.

* `Number` — the two kinds, each carrying the bound that makes it a JSON number.
* `Number.toFloat` — the nearest double, which is what every comparison of magnitudes uses.
* `Number.ofFloat?` — the number written for a double; infinities and NaN have none.
-/

set_option autoImplicit false

namespace Welfare.Json

/-- A number: an integer of 64 bits, signed or unsigned, or a finite double. -/
inductive Number where
  | int (n : Int) (inRange : -0x8000000000000000 ≤ n ∧ n < 0x10000000000000000)
  | double (x : Float) (finite : x.isFinite = true)

namespace Number

/-- The double nearest to the number.  The magnitude of an integer fits 64 bits, and rounding it
commutes with the sign. -/
def toFloat : Number → Float
  | .int n _ =>
    let magnitude := (UInt64.ofNat n.natAbs).toFloat
    if n < 0 then -magnitude else magnitude
  | .double x _ => x

/-- The integer `n`, when it fits 64 bits. -/
def ofInt? (n : Int) : Option Number :=
  if h : -0x8000000000000000 ≤ n ∧ n < 0x10000000000000000 then some (.int n h) else none

/-- The double `x`, when it is finite. -/
def ofFloat? (x : Float) : Option Number :=
  if h : x.isFinite = true then some (.double x h) else none

/-- Equal numbers are of one kind: integers that are the same, or doubles of equal magnitude (so
`0.0` and `-0.0` are equal). -/
def beq : Number → Number → Bool
  | .int m _, .int n _ => m == n
  | .double x _, .double y _ => x == y
  | _, _ => false

instance : BEq Number := ⟨beq⟩

@[simp] theorem toFloat_double {x : Float} {h : x.isFinite = true} :
    (Number.double x h).toFloat = x := rfl

theorem ofFloat?_eq_some {x : Float} (h : x.isFinite = true) : ofFloat? x = some (.double x h) := by
  simp [ofFloat?, h]

theorem ofFloat?_eq_none {x : Float} (h : x.isFinite = false) : ofFloat? x = none := by
  simp [ofFloat?, h]

end Number

end Welfare.Json
