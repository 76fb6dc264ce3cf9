import Welfare.Text.Hidden

/-!
# Quoting a text in a message

A message quotes a text so that it can be read without doubt: quotes and backslashes are escaped,
and a character that does not show on its own is written by its code point.

* `quoted` — the quoted text.
-/

set_option autoImplicit false

namespace Welfare.Text

/-- A character inside a quoted text. -/
def quotedChar (c : Char) : List Char :=
  match c with
  | '"' => ['\\', '"']
  | '\\' => ['\\', '\\']
  | '\n' => ['\\', 'n']
  | '\r' => ['\\', 'r']
  | '\t' => ['\\', 't']
  | '\x00' => ['\\', '0']
  | c =>
    if hidden.contains c.toNat then
      '\\' :: 'u' :: '\x7b' :: Nat.toDigits 16 c.toNat ++ ['\x7d']
    else [c]

/-- The text in quotes. -/
def quoted (s : String) : String :=
  String.ofList ('"' :: s.toList.flatMap quotedChar ++ ['"'])

end Welfare.Text
