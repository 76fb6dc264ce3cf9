/-!
# The shortest decimal of a double

A finite double is a whole number of units `m * 2 ^ q`.  The reals that round to it form an interval
around it, and among the decimals of that interval the shortest is the one lying on the coarsest
grid `10 ^ k`; of two such neighbours the nearer one is taken, and an exact tie goes as `Tie` says.

* `Binary` — sign, magnitude and exponent read off a double.
* `Decimal` — a decimal `digits * 10 ^ exponent`.
* `Binary.shortest` — the search over the grids, coarse to fine, in exact arithmetic.
-/

set_option autoImplicit false

namespace Welfare

/-- A finite decimal: `digits * 10 ^ exponent`. -/
structure Decimal where
  digits : Nat
  exponent : Int
deriving DecidableEq, Repr

/-- Which of two equally near decimals is taken. -/
inductive Tie where
  /-- The one of greater magnitude. -/
  | up
  /-- The one whose last digit is even. -/
  | toEven
deriving DecidableEq, Repr

/-- A finite double: `± mantissa * 2 ^ exponent`.  `atStep` marks the smallest mantissa of a binary
order, whose lower neighbour is only half as far away as its upper one. -/
structure Binary where
  negative : Bool
  mantissa : Nat
  exponent : Int
  atStep : Bool
deriving DecidableEq, Repr

namespace Binary

/-- The leading bit of a mantissa, which stands above the 52 bits that are stored. -/
def hiddenBit : Nat := 0x10000000000000

/-- Reads sign, mantissa and exponent off the bits of a finite double. -/
def ofFloat (x : Float) : Binary :=
  let bits : Nat := x.toBits.toNat
  let fraction : Nat := bits % hiddenBit
  let order : Nat := bits / hiddenBit % 0x800
  let negative := decide (0x8000000000000000 ≤ bits)
  if order = 0 then
    { negative, mantissa := fraction, exponent := -1074, atStep := false }
  else
    { negative, mantissa := hiddenBit + fraction, exponent := (order : Int) - 1075,
      atStep := decide (fraction = 0 ∧ 1 < order) }

/-- The interval of reals that round to a double, over a common denominator.  The ends belong to it
exactly when the mantissa is even, because halfway cases round to even. -/
structure Span where
  low : Nat
  value : Nat
  high : Nat
  denominator : Nat
  closed : Bool

/-- The span of a double, in quarters of its unit. -/
def span (b : Binary) : Span :=
  let scale := Nat.pow 2 (b.exponent - 2).toNat
  { low := (4 * b.mantissa - if b.atStep then 1 else 2) * scale
    value := 4 * b.mantissa * scale
    high := (4 * b.mantissa + 2) * scale
    denominator := Nat.pow 2 (2 - b.exponent).toNat
    closed := b.mantissa % 2 == 0 }

/-- Whether `n / denominator` lies in the span. -/
def Span.contains (s : Span) (n : Nat) : Bool :=
  if s.closed then decide (s.low ≤ n ∧ n ≤ s.high) else decide (s.low < n ∧ n < s.high)

/-- The span seen in units of `10 ^ k`. -/
def Span.onGrid (s : Span) (k : Int) : Span :=
  let shrink := Nat.pow 10 (-k).toNat
  { s with
    low := s.low * shrink, value := s.value * shrink, high := s.high * shrink
    denominator := s.denominator * Nat.pow 10 k.toNat }

/-- The whole number of the span that is nearest to its value, if there is one. -/
def Span.nearest? (s : Span) (tie : Tie) : Option Nat :=
  let below := s.value / s.denominator
  let above := below + 1
  match s.contains (below * s.denominator), s.contains (above * s.denominator) with
  | false, false => none
  | true, false => some below
  | false, true => some above
  | true, true =>
    let twice := 2 * (s.value % s.denominator)
    if twice < s.denominator then some below
    else if s.denominator < twice then some above
    else match tie with
      | .up => some above
      | .toEven => some (if below % 2 = 0 then below else above)

/-- Tries the grids `10 ^ k`, `10 ^ (k - 1)`, …, and takes the first that meets the span. -/
def Span.search (s : Span) (tie : Tie) : Nat → Int → Decimal
  | 0, k => ⟨(s.onGrid k).value / (s.onGrid k).denominator, k⟩
  | steps + 1, k =>
    match (s.onGrid k).nearest? tie with
    | some d => ⟨d, k⟩
    | none => s.search tie steps (k - 1)

/-- The shortest decimal that reads back as the double, sign aside.  The search starts at a grid
coarser than the value; seventeen digits always suffice, so twenty-two grids are enough. -/
def shortest (b : Binary) (tie : Tie) : Decimal :=
  if b.mantissa = 0 then ⟨0, 0⟩
  else
    let order := b.exponent + (b.mantissa.log2 : Int) + 1
    b.span.search tie 22 ((order * 1233).fdiv 4096 + 2)

end Binary

end Welfare
