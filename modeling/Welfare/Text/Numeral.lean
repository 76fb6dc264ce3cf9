/-!
# Numerals

* `digitsValue`, `hexValue?` — the value of decimal and of hexadecimal digits.
* `numeral?` — the value of an unsigned numeral below a limit: an optional plus sign, then at least
  one digit and nothing else.
* `signedNumeral?` — the same with an optional sign of either kind.
* `numeral?_repr` — a number that is written in decimal is read back.
-/

set_option autoImplicit false

namespace Welfare.Text

/-! ## Digits -/

/-- The value of decimal digits. -/
def digitsValue (cs : List Char) : Nat :=
  cs.foldl (fun n c => 10 * n + (c.toNat - '0'.toNat)) 0

/-- The value of a hexadecimal digit. -/
def hexDigit? (c : Char) : Option Nat :=
  if c.isDigit then some (c.toNat - '0'.toNat)
  else if 'a' ≤ c ∧ c ≤ 'f' then some (c.toNat - 'a'.toNat + 10)
  else if 'A' ≤ c ∧ c ≤ 'F' then some (c.toNat - 'A'.toNat + 10)
  else none

/-- The value of hexadecimal digits; there is none when a character is not one. -/
def hexValue? (cs : List Char) : Option Nat :=
  cs.foldlM (fun n c => (hexDigit? c).map (16 * n + ·)) 0

/-! ## Numerals -/

/-- The value of a numeral that consists of digits only. -/
def digits? (cs : List Char) : Option Nat :=
  if cs.isEmpty || !cs.all Char.isDigit then none else some (digitsValue cs)

/-- The characters behind an optional plus sign. -/
def dropPlus : List Char → List Char
  | '+' :: cs => cs
  | cs => cs

/-- The value of an unsigned numeral, if it is below the limit.  Leading zeros are allowed. -/
def numeral? (limit : Nat) (s : String) : Option Nat :=
  (digits? (dropPlus s.toList)).filter (· < limit)

/-- The value of a numeral with an optional sign. -/
def signedNumeral? (s : String) : Option Int :=
  match s.toList with
  | '-' :: cs => (digits? cs).map fun n => -(n : Int)
  | cs => (digits? (dropPlus cs)).map fun n => (n : Int)

/-- A number is the value of its decimal digits. -/
theorem digits?_toDigits (n : Nat) : digits? (Nat.toDigits 10 n) = some n := by
  have hdigits : (Nat.toDigits 10 n).all Char.isDigit = true :=
    List.all_eq_true.2 fun _ hc => Nat.isDigit_of_mem_toDigits (by decide) (by decide) hc
  have hvalue : digitsValue (Nat.toDigits 10 n) = n :=
    Nat.ofDigitChars_toDigits (by decide) (by decide)
  rw [digits?, hdigits, List.isEmpty_eq_false_iff.2 Nat.toDigits_ne_nil, hvalue]
  rfl

/-- Decimal digits do not open with a sign. -/
theorem dropPlus_toDigits (n : Nat) : dropPlus (Nat.toDigits 10 n) = Nat.toDigits 10 n := by
  unfold dropPlus
  split
  · next cs hcs =>
    have hplus : '+' ∈ Nat.toDigits 10 n := hcs ▸ List.mem_cons_self
    exact absurd (Nat.isDigit_of_mem_toDigits (by decide) (by decide) hplus) (by decide)
  · rfl

/-- A number below the limit is the value of the numeral that is written for it. -/
theorem numeral?_repr {limit n : Nat} (h : n < limit) : numeral? limit n.repr = some n := by
  rw [numeral?, Nat.toList_repr, dropPlus_toDigits, digits?_toDigits, Option.filter_some,
    decide_eq_true h, if_pos rfl]

end Welfare.Text
