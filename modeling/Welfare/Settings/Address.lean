import Welfare.Text.Numeral

/-!
# Network addresses

* `Address` — an address of version 4 or 6.
* `Address.parse?` — reading one.  Version 4: four decimal bytes without leading zeros.  Version 6:
  eight groups of up to four hexadecimal digits, where `::` stands for one or more groups of zeros
  and the last two groups may be written as an address of version 4.
* `Address.render` — writing one; the longest run of at least two groups of zeros is written `::`.
* `Address.withPort` — the text of an address with a port.
* `Address.ofHost?` — the address of a host, which may be called by name.
-/

set_option autoImplicit false

namespace Welfare

/-- A network address. -/
inductive Address where
  | v4 (bytes : List Nat)
  | v6 (groups : List Nat)
deriving DecidableEq, Repr

namespace Address

/-- Reads something off the front of a text. -/
abbrev Scan (α : Type) := List Char → Option (α × List Char)

/-! ## Reading -/

/-- A decimal byte: no leading zeros, at most 255. -/
def scanByte : Scan Nat := fun cs =>
  let digits := cs.takeWhile Char.isDigit
  let value := Text.digitsValue digits
  if digits.isEmpty || 3 < digits.length || (digits.head? == some '0' && 1 < digits.length)
      || 255 < value then none
  else some (value, cs.dropWhile Char.isDigit)

/-- A group of up to four hexadecimal digits. -/
def scanGroup : Scan Nat := fun cs =>
  let digits := cs.takeWhile fun c => (Text.hexDigit? c).isSome
  if digits.isEmpty || 4 < digits.length then none
  else (Text.hexValue? digits).map fun group => (group, cs.drop digits.length)

/-- A given character. -/
def scanChar (c : Char) : Scan Unit := fun cs =>
  match cs with
  | d :: rest => if d = c then some ((), rest) else none
  | [] => none

/-- Something that follows a separator, unless it comes first. -/
def separated {α : Type} (first : Bool) (separator : Char) (scan : Scan α) : Scan α := fun cs =>
  if first then scan cs
  else (scanChar separator cs).bind fun (_, rest) => scan rest

/-- The four bytes of an address of version 4. -/
def scanV4 : Scan (List Nat) := fun cs => do
  let (a, cs) ← scanByte cs
  let (b, cs) ← separated false '.' scanByte cs
  let (c, cs) ← separated false '.' scanByte cs
  let (d, cs) ← separated false '.' scanByte cs
  return ([a, b, c, d], cs)

/-- The two groups that four bytes fill. -/
def groupsOfBytes : List Nat → List Nat
  | [a, b, c, d] => [256 * a + b, 256 * c + d]
  | _ => []

/-- Groups, as many as there are and at most `room`.  Where two of them fit, an address of version 4
may stand in their place and is the last thing read, which the flag tells. -/
def scanGroups (first : Bool) : Nat → List Char → List Nat × Bool × List Char
  | 0, cs => ([], false, cs)
  | room + 1, cs =>
    match (if 0 < room then separated first ':' scanV4 cs else none) with
    | some (bytes, rest) => (groupsOfBytes bytes, true, rest)
    | none =>
      match separated first ':' scanGroup cs with
      | some (group, rest) =>
        let (groups, isV4, rest) := scanGroups false room rest
        (group :: groups, isV4, rest)
      | none => ([], false, cs)

/-- The eight groups of an address of version 6. -/
def scanV6 : Scan (List Nat) := fun cs => do
  let (head, isV4, cs) := scanGroups true 8 cs
  if head.length = 8 then return (head, cs)
  if isV4 then failure
  let (_, cs) ← scanChar ':' cs
  let (_, cs) ← scanChar ':' cs
  let (tail, _, cs) := scanGroups true (7 - head.length) cs
  return (head ++ List.replicate (8 - head.length - tail.length) 0 ++ tail, cs)

/-- Reads an address. -/
def parse? (s : String) : Option Address :=
  let whole {α : Type} : Option (α × List Char) → Option α
    | some (a, []) => some a
    | _ => none
  match scanV4 s.toList with
  | some result => (whole (some result)).map .v4
  | none => (whole (scanV6 s.toList)).map .v6

/-! ## Writing -/

/-- Where the first longest run of zeros starts, and how long it is. -/
def longestZeros (groups : List Nat) : Nat × Nat :=
  let runs := (List.range groups.length).map fun i =>
    (i, ((groups.drop i).takeWhile (· == 0)).length)
  runs.foldl (fun best run => if best.2 < run.2 then run else best) (0, 0)

/-- Groups in hexadecimal, with colons in between. -/
def renderGroups (groups : List Nat) : String :=
  ":".intercalate (groups.map fun g => String.ofList (Nat.toDigits 16 g))

/-- Bytes in decimal, with dots in between. -/
def renderBytes (bytes : List Nat) : String :=
  ".".intercalate (bytes.map toString)

/-- Writes an address. -/
def render : Address → String
  | .v4 bytes => renderBytes bytes
  | .v6 [0, 0, 0, 0, 0, 0xFFFF, a, b] =>
    "::ffff:" ++ renderBytes [a / 256, a % 256, b / 256, b % 256]
  | .v6 groups =>
    let (start, length) := longestZeros groups
    if 1 < length then
      renderGroups (groups.take start) ++ "::" ++ renderGroups (groups.drop (start + length))
    else renderGroups groups

/-- An address with a port; one of version 6 stands in brackets. -/
def withPort (a : Address) (port : Nat) : String :=
  match a with
  | .v4 _ => a.render ++ ":" ++ toString port
  | .v6 _ => "[" ++ a.render ++ "]:" ++ toString port

/-- The address of a host: a literal address, or `localhost` in any case. -/
def ofHost? (host : String) : Option Address :=
  if host.toList.map Char.toLower = "localhost".toList then some (.v4 [127, 0, 0, 1])
  else parse? host

end Address

end Welfare
