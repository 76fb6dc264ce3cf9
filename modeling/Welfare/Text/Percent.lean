import Welfare.Text.Numeral

/-!
# Percent-encoding

A percent sign with two hexadecimal digits stands for a byte; any other character stands for its own
bytes, a lone percent sign included.

* `percentDecode` — the bytes of an encoded text.
* `percentDecode?` — the decoded text, if its bytes are UTF-8.
-/

set_option autoImplicit false

namespace Welfare.Text

/-- The bytes that encoded bytes stand for. -/
def percentDecode : List UInt8 → List UInt8
  | 37 :: a :: b :: rest =>
    match hexValue? [Char.ofUInt8 a, Char.ofUInt8 b] with
    | some byte => byte.toUInt8 :: percentDecode rest
    | none => 37 :: percentDecode (a :: b :: rest)
  | b :: rest => b :: percentDecode rest
  | [] => []

/-- The text that an encoded text stands for. -/
def percentDecode? (s : String) : Option String :=
  String.fromUTF8? ⟨(percentDecode s.toUTF8.toList).toArray⟩

end Welfare.Text
