import Welfare.Text.Casing

/-!
# Lower case of a text

The lower case of a text replaces every character by its lower case.  One character has a lower case
of two characters, the dotted capital I.  One character has two lower cases, the capital sigma: `ς`
where it ends a word, and `σ` elsewhere.

* `lowerChar` — the lower case of a character on its own.
* `endsWord` — where a capital sigma ends a word.
* `toLower` — the lower case of a text.
-/

set_option autoImplicit false

namespace Welfare.Text

/-- The lower case of a character on its own. -/
def lowerChar (c : Char) : List Char :=
  if c.toNat = 0x130 then ['i', Char.ofNat 0x307]
  else [Char.ofNat (CaseRun.lower c.toNat caseRuns)]

/-- Whether a cased character comes first, after characters that casing ignores. -/
def meetsCased (cs : List Char) : Bool :=
  match cs.dropWhile fun c => caseIgnorable.contains c.toNat with
  | [] => false
  | c :: _ => cased.contains c.toNat

/-- A sigma ends a word when a cased character precedes it and none follows; `before` lists what
precedes, last character first. -/
def endsWord (before after : List Char) : Bool :=
  meetsCased before && !meetsCased after

/-- The lower case of the characters behind `before`. -/
def lowerFrom (before : List Char) : List Char → List Char
  | [] => []
  | c :: rest =>
    (if c = 'Σ' then [if endsWord before rest then 'ς' else 'σ'] else lowerChar c)
      ++ lowerFrom (c :: before) rest

/-- The lower case of a text. -/
def toLower (s : String) : String :=
  String.ofList (lowerFrom [] s.toList)

end Welfare.Text
