import Welfare.Json.Basic
import Welfare.Decimal.Layout

/-!
# Printing JSON

Two printed forms of a value: on one line without blanks, and indented.  Members are written in the
order in which the object lists them.

* `floatLayout` — how doubles are written: positionally from `1e-5` up to below `1e16`, and always
  so that they are not mistaken for integers.
* `quote` — a text literal; the quote, the backslash and the control characters are escaped.
* `Json.compact`, `Json.pretty` — the two forms.
-/

set_option autoImplicit false

namespace Welfare.Json

/-- Doubles are written positionally while the power of ten of the leading digit is from -5 to 15,
and a whole number ends in `.0`. -/
def floatLayout : Decimal.Layout where
  positional := some (-5, 15)
  marksWhole := true
  tie := .toEven

/-- The literal of a number. -/
def Number.print : Number → String
  | .int n _ => toString n
  | .double x _ => floatLayout.render x

/-- A hexadecimal digit. -/
def hexDigit (n : Nat) : Char := Nat.digitChar n

/-- A character inside a text literal. -/
def quoteChar (c : Char) : List Char :=
  match c with
  | '"' => ['\\', '"']
  | '\\' => ['\\', '\\']
  | '\x08' => ['\\', 'b']
  | '\x0c' => ['\\', 'f']
  | '\n' => ['\\', 'n']
  | '\r' => ['\\', 'r']
  | '\t' => ['\\', 't']
  | c =>
    if c.toNat < 0x20 then ['\\', 'u', '0', '0', hexDigit (c.toNat / 16), hexDigit (c.toNat % 16)]
    else [c]

/-- A text literal. -/
def quote (s : String) : String :=
  String.ofList ('"' :: s.toList.flatMap quoteChar ++ ['"'])

/-! ## On one line -/

mutual

/-- The value on one line, without blanks. -/
def compact : Json → String
  | .null => "null"
  | .bool b => if b then "true" else "false"
  | .num n => n.print
  | .str s => quote s
  | .arr items => "[" ++ ",".intercalate (compactItems items) ++ "]"
  | .obj members => "\x7b" ++ ",".intercalate (compactMembers members) ++ "\x7d"

/-- The items of a list, each on one line. -/
def compactItems : List Json → List String
  | [] => []
  | v :: vs => compact v :: compactItems vs

/-- The members of an object, each on one line. -/
def compactMembers : List Member → List String
  | [] => []
  | (k, v) :: ms => (quote k ++ ":" ++ compact v) :: compactMembers ms

end

/-! ## Indented -/

/-- A new line, indented by two blanks a level. -/
def newLine (level : Nat) : String :=
  String.ofList ('\n' :: List.replicate (2 * level) ' ')

/-- Parts between brackets, each on a line of its own; nothing stands between brackets without
parts. -/
def layOut (level : Nat) (opening closing : String) (parts : List String) : String :=
  if parts.isEmpty then opening ++ closing
  else
    opening ++ newLine (level + 1) ++ ("," ++ newLine (level + 1)).intercalate parts
      ++ newLine level ++ closing

mutual

/-- The value with one item or member a line; `level` is the depth at which it stands. -/
def prettyAt (level : Nat) : Json → String
  | .null => "null"
  | .bool b => if b then "true" else "false"
  | .num n => n.print
  | .str s => quote s
  | .arr items => layOut level "[" "]" (prettyItems (level + 1) items)
  | .obj members => layOut level "\x7b" "\x7d" (prettyMembers (level + 1) members)

/-- The items of a list. -/
def prettyItems (level : Nat) : List Json → List String
  | [] => []
  | v :: vs => prettyAt level v :: prettyItems level vs

/-- The members of an object. -/
def prettyMembers (level : Nat) : List Member → List String
  | [] => []
  | (k, v) :: ms => (quote k ++ ": " ++ prettyAt level v) :: prettyMembers level ms

end

/-- The value on indented lines. -/
def pretty (v : Json) : String := prettyAt 0 v

theorem compactItems_eq_map (items : List Json) : compactItems items = items.map compact := by
  induction items with
  | nil => rfl
  | cons v vs ih => simp [compactItems, ih]

theorem compactMembers_eq_map (members : List Member) :
    compactMembers members = members.map fun m => quote m.1 ++ ":" ++ compact m.2 := by
  induction members with
  | nil => rfl
  | cons m ms ih => simp [compactMembers, ih]

end Welfare.Json
