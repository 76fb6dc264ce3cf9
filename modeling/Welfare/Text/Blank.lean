import Welfare.Text.CodePoints

/-!
# Blanks and trimming

A blank is a character with the Unicode property `White_Space`.

* `isBlank` — the property.
* `trimStart`, `trimEnd`, `trim` — a text without the blanks at one or both of its ends.
-/

set_option autoImplicit false

namespace Welfare.Text

/-- The code points with the property `White_Space`. -/
def whiteSpace : CodePoints :=
  [(0x9, 0xD), (0x20, 0x20), (0x85, 0x85), (0xA0, 0xA0), (0x1680, 0x1680), (0x2000, 0x200A),
   (0x2028, 0x2029), (0x202F, 0x202F), (0x205F, 0x205F), (0x3000, 0x3000)]

/-- Whether a character is blank. -/
def isBlank (c : Char) : Bool := whiteSpace.contains c.toNat

/-- The text without the blanks at its start. -/
def trimStart (s : String) : String :=
  String.ofList (s.toList.dropWhile isBlank)

/-- The text without the blanks at its end. -/
def trimEnd (s : String) : String :=
  String.ofList (s.toList.reverse.dropWhile isBlank).reverse

/-- The text without the blanks at its ends. -/
def trim (s : String) : String := trimEnd (trimStart s)

/-- Whether nothing is left of a text when it is trimmed. -/
def isAllBlank (s : String) : Bool := s.toList.all isBlank

end Welfare.Text
