import Welfare.Json.Document
import Welfare.Text.Numeral

/-!
# Literals

The two literals of JSON that carry data: numbers and texts.

A number literal is first split into its digits (`NumberLiteral.scan`) and then given a value
(`NumberLiteral.value`).  An integer that fits 64 bits is kept as it stands; any other number is a
double.  The double is computed from the leading digits, as many as fit 64 bits, rounded once and
then scaled by a single power of ten; digits that do not fit only move the point.

A text literal is scanned up to its closing quote (`scanText`).  Two escapes that form a surrogate
pair spell one character; half a pair spells none, which matters only if the text is needed.
-/

set_option autoImplicit false

namespace Welfare.Json

/-! ## Numbers -/

/-- The parts of a number literal. -/
structure NumberLiteral where
  negative : Bool
  /-- The digits before the point. -/
  whole : List Char
  /-- The digits after the point, if there is one. -/
  fraction : Option (List Char)
  /-- The power of ten, if there is one. -/
  exponent : Option Int

namespace NumberLiteral

/-- Splits off the digits at the front. -/
def takeDigits (cs : List Char) : List Char × List Char :=
  (cs.takeWhile Char.isDigit, cs.dropWhile Char.isDigit)

/-- The exponent after its letter: an optional sign and at least one digit. -/
def scanExponent (cs : List Char) : Except Fault (Int × List Char) :=
  let (negative, cs) := match cs with
    | '+' :: rest => (false, rest)
    | '-' :: rest => (true, rest)
    | _ => (false, cs)
  match takeDigits cs with
  | ([], []) => .error .endOfNumber
  | ([], _ :: _) => .error .badNumber
  | (ds, rest) => .ok (if negative then -(Text.digitsValue ds : Int) else Text.digitsValue ds, rest)

/-- An exponent, if its letter stands at the front. -/
def scanExponent? (cs : List Char) : Except Fault (Option Int × List Char) :=
  match cs with
  | 'e' :: rest | 'E' :: rest => do
    let (e, rest) ← scanExponent rest
    return (some e, rest)
  | _ => .ok (none, cs)

/-- A fraction, if a point stands at the front: at least one digit follows it. -/
def scanFraction? (cs : List Char) : Except Fault (Option (List Char) × List Char) :=
  match cs with
  | '.' :: rest =>
    match takeDigits rest with
    | ([], []) => .error .endOfNumber
    | ([], _ :: _) => .error .badNumber
    | (ds, rest) => .ok (some ds, rest)
  | _ => .ok (none, cs)

/-- The digits before the point: a single zero, or digits that do not start with one. -/
def scanWhole (cs : List Char) : Except Fault (List Char × List Char) :=
  match cs with
  | [] => .error .endOfNumber
  | '0' :: rest => if (rest.headD ' ').isDigit then .error .badNumber else .ok (['0'], rest)
  | c :: _ => if c.isDigit then .ok (takeDigits cs) else .error .badNumber

/-- Splits a number literal off the front. -/
def scan (cs : List Char) : Except Fault (NumberLiteral × List Char) := do
  let (negative, cs) := match cs with
    | '-' :: rest => (true, rest)
    | _ => (false, cs)
  let (whole, cs) ← scanWhole cs
  let (fraction, cs) ← scanFraction? cs
  let (exponent, cs) ← scanExponent? cs
  return ({ negative, whole, fraction, exponent }, cs)

/-! ### Values of number literals -/

/-- The bound below which the leading digits are kept. -/
def significandLimit : Nat := 0x10000000000000000

/-- Appends digits to a significand until one does not fit.  The second part counts the digits that
were appended, the third those that were left out. -/
def append (significand : Nat) : List Char → Nat × Nat × Nat
  | [] => (significand, 0, 0)
  | c :: cs =>
    let next := 10 * significand + (c.toNat - '0'.toNat)
    if next < significandLimit then
      let (s, kept, left) := append next cs
      (s, kept + 1, left)
    else (significand, 0, cs.length + 1)

/-- `x * 10 ^ e` by one multiplication or division.  A power beyond the doubles is split: a value
that is too small vanishes, one that is too large is none. -/
def scale : Nat → Float → Int → Option Float
  | 0, _, _ => some 0.0
  | steps + 1, x, e =>
    if e.natAbs ≤ 308 then
      let power : Float := OfScientific.ofScientific 1 false e.natAbs
      if 0 ≤ e then
        let y := x * power
        if y.isInf then none else some y
      else some (x / power)
    else if x == 0.0 then some x
    else if 0 ≤ e then none
    else scale steps (x / 1e308) (e + 308)

/-- The double of a literal, sign aside. -/
def magnitude (l : NumberLiteral) : Option Float :=
  let (s, _, left) := append 0 l.whole
  let (s, kept, _) := append s (l.fraction.getD [])
  scale 4 (Float.ofNat s) (l.exponent.getD 0 + left - kept)

/-- The integer that a literal spells, when it has neither point nor exponent and is not `-0`. -/
def integer? (l : NumberLiteral) : Option Int :=
  match l.fraction, l.exponent with
  | none, none =>
    let n := Text.digitsValue l.whole
    if l.negative then (if n = 0 then none else some (-n)) else some n
  | _, _ => none

/-- The number of a literal. -/
def value (l : NumberLiteral) : Except Fault Number :=
  match l.integer?.bind Number.ofInt? with
  | some n => .ok n
  | none =>
    match l.magnitude with
    | none => .error .numberTooLarge
    | some x =>
      match Number.ofFloat? (if l.negative then -x else x) with
      | some n => .ok n
      | none => .error .numberTooLarge

end NumberLiteral

/-! ## Texts -/

/-- The character of a one-letter escape. -/
def escaped? : Char → Option Char
  | '"' => some '"'
  | '\\' => some '\\'
  | '/' => some '/'
  | 'b' => some '\x08'
  | 'f' => some '\x0c'
  | 'n' => some '\n'
  | 'r' => some '\r'
  | 't' => some '\t'
  | _ => none

/-- What is known in the middle of a text literal. -/
structure TextState where
  /-- The characters so far, last one first. -/
  chars : List Char := []
  /-- The first half of a surrogate pair whose second half must come next. -/
  half : Option Nat := none
  /-- Why the text is none when it is needed. -/
  problem : Option Fault := none

namespace TextState

/-- Notes a problem, unless one came earlier. -/
def note (s : TextState) (f : Fault) : TextState :=
  { s with problem := s.problem <|> some f, half := none }

/-- Anything but the second half of a pair comes next. -/
def settle (s : TextState) : TextState :=
  if s.half.isSome then s.note .unfinishedPair else s

def push (s : TextState) (c : Char) : TextState :=
  { s with chars := c :: s.chars }

/-- A unit of sixteen bits comes next. -/
def pushUnit (s : TextState) (unit : Nat) : TextState :=
  match s.half with
  | some high =>
    if 0xDC00 ≤ unit ∧ unit ≤ 0xDFFF then
      { s with half := none }.push
        (Char.ofNat (0x10000 + (high - 0xD800) * 0x400 + (unit - 0xDC00)))
    else s.note .loneSurrogate
  | none =>
    if 0xD800 ≤ unit ∧ unit ≤ 0xDBFF then { s with half := some unit }
    else if 0xDC00 ≤ unit ∧ unit ≤ 0xDFFF then s.note .loneSurrogate
    else s.push (Char.ofNat unit)

/-- The text when its closing quote is reached. -/
def finish (s : TextState) : Except Fault String :=
  match s.settle.problem with
  | some f => .error f
  | none => .ok (String.ofList s.chars.reverse)

/-- The fault when the literal itself breaks off: a problem noted earlier comes first, unless the
text is skimmed. -/
def broken (s : TextState) (f : Fault) : Fault :=
  match s.problem with
  | some half => .brokenText half f
  | none => f

end TextState

/-- The fault of an escape that has fewer than four characters left for its code.  The code is four
bytes, so these characters may still fill it, with something that is no code. -/
def shortEscape (cs : List Char) : Fault :=
  if 4 ≤ (String.ofList cs).utf8ByteSize then .badEscape else .endOfText

/-- Scans a text literal after its opening quote.  The outer error says that the literal is broken,
the inner one that it is whole but spells no text. -/
def scanText (s : TextState) : List Char → Except Fault (Except Fault String × List Char)
  | [] => .error (s.broken .endOfText)
  | '"' :: rest => .ok (s.finish, rest)
  | '\\' :: 'u' :: a :: b :: c :: d :: rest =>
    match Text.hexValue? [a, b, c, d] with
    | some unit => scanText (s.pushUnit unit) rest
    | none => .error (s.broken .badEscape)
  | '\\' :: 'u' :: rest => .error (s.broken (shortEscape rest))
  | '\\' :: e :: rest =>
    let s := s.settle
    match escaped? e with
    | some c => scanText (s.push c) rest
    | none => .error (s.broken .badEscape)
  | ['\\'] => .error (s.broken .endOfText)
  | c :: rest =>
    let s := s.settle
    if c.toNat < 0x20 then .error (s.broken .controlCharacter)
    else scanText (s.push c) rest

end Welfare.Json
