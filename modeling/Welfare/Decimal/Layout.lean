import Welfare.Decimal.Shortest

/-!
# Writing a double

The digits of a double are those of its shortest decimal.  A layout says where the point goes, when
an exponent is written instead, and whether a whole number shows that it is a double.

* `Layout` — the decisions of one format.
* `Layout.render` — the text of a double under a layout.
-/

set_option autoImplicit false

namespace Welfare.Decimal

/-- How a double is written. -/
structure Layout where
  /-- The powers of ten of the leading digit that are written positionally; others get an exponent.
  `none` writes every double positionally. -/
  positional : Option (Int × Int)
  /-- Whether a positional whole number ends in `.0`. -/
  marksWhole : Bool
  /-- Which of two equally near shortest decimals is written. -/
  tie : Tie

namespace Layout

/-- Digits with a point after the first `place` of them, filled with zeros as needed. -/
def withPoint (digits : List Char) (place : Int) (marksWhole : Bool) : List Char :=
  let count := (digits.length : Int)
  if place ≤ 0 then
    '0' :: '.' :: (List.replicate (-place).toNat '0' ++ digits)
  else if count ≤ place then
    digits ++ List.replicate (place - count).toNat '0' ++ (if marksWhole then ['.', '0'] else [])
  else
    digits.take place.toNat ++ '.' :: digits.drop place.toNat

/-- Digits with a point after the first, and the power of ten with its sign. -/
def withExponent (digits : List Char) (power : Int) : List Char :=
  let head := match digits with
    | [] => []
    | [d] => [d]
    | d :: rest => d :: '.' :: rest
  head ++ 'e' :: (if power < 0 then '-' else '+') :: Nat.toDigits 10 power.natAbs

/-- The text of a finite double's magnitude. -/
def magnitude (l : Layout) (b : Binary) : List Char :=
  let d := b.shortest l.tie
  if d.digits = 0 then
    '0' :: (if l.marksWhole then ['.', '0'] else [])
  else
    let digits := Nat.toDigits 10 d.digits
    let place := d.exponent + (digits.length : Int)
    match l.positional with
    | none => withPoint digits place l.marksWhole
    | some (least, most) =>
      if least < place ∧ place ≤ most + 1 then withPoint digits place l.marksWhole
      else withExponent digits (place - 1)

/-- The text of a double.  The sign of a zero is written; infinities and NaN go by name. -/
def render (l : Layout) (x : Float) : String :=
  if x.isNaN then "NaN"
  else
    let b := Binary.ofFloat x
    let body := if x.isInf then "inf".toList else l.magnitude b
    String.ofList (if b.negative then '-' :: body else body)

end Layout

end Welfare.Decimal
