import Welfare.Json.Literal

/-!
# Reading a text

The reader turns a text into its document and what is left of the text behind it.  It never fails:
where the text stops being JSON, the document holds the fault and nothing is left.

* `Document.read` — the document at the front of a text.
* `Document.ofText` — the document of a text.
* `ended` — what must hold of the rest when a text is one document.
-/

set_option autoImplicit false

namespace Welfare.Json.Document

/-- What is left of a text: nothing at all once it stopped being JSON. -/
abbrev Rest := Option (List Char)

/-- The blanks of JSON. -/
def isBlank (c : Char) : Bool :=
  c == ' ' || c == '\n' || c == '\t' || c == '\r'

/-- The text without the blanks at its front. -/
def skipBlanks (cs : List Char) : List Char := cs.dropWhile isBlank

/-- Lists and objects may be nested this deep. -/
def deepest : Nat := 127

/-- A container on a level; below the deepest one it is no longer needed. -/
def onLevel (level : Nat) (d : Document) : Document :=
  if level ≤ deepest then d else .deep d

/-- The document of a literal word whose first letter was read. -/
def readWord (d : Document) : List Char → List Char → Document × Rest
  | [], cs => (d, some cs)
  | _ :: _, [] => (.fault .endOfValue, none)
  | w :: ws, c :: cs => if w = c then readWord d ws cs else (.fault .expectedWord, none)

/-- The document of a number. -/
def readNumber (cs : List Char) : Document × Rest :=
  match NumberLiteral.scan cs with
  | .ok (literal, rest) => (.num literal.value, some rest)
  | .error f => (.fault f, none)

/-- The document of a text after its opening quote. -/
def readText (cs : List Char) : Document × Rest :=
  match scanText {} cs with
  | .ok (s, rest) => (.str s, some rest)
  | .error f => (.fault f, none)

mutual

/-- The document at the front of a text, whose containers are on `level`. -/
def readValue : Nat → Nat → List Char → Document × Rest
  | 0, _, _ => (.fault .endOfValue, none)
  | fuel + 1, level, cs =>
    match skipBlanks cs with
    | [] => (.fault .endOfValue, none)
    | 'n' :: rest => readWord .null ['u', 'l', 'l'] rest
    | 't' :: rest => readWord (.bool true) ['r', 'u', 'e'] rest
    | 'f' :: rest => readWord (.bool false) ['a', 'l', 's', 'e'] rest
    | '"' :: rest => readText rest
    | '[' :: rest =>
      match skipBlanks rest with
      | [] => (onLevel level (.arr [] (some .endOfList)), none)
      | ']' :: rest => (onLevel level (.arr [] none), some rest)
      | rest =>
        let (items, closing, rest) := readItems fuel (level + 1) rest []
        (onLevel level (.arr items closing), rest)
    | '{' :: rest =>
      match skipBlanks rest with
      | [] => (onLevel level (.obj [] (some .endOfObject)), none)
      | '}' :: rest => (onLevel level (.obj [] none), some rest)
      | '"' :: rest =>
        let (members, closing, rest) := readMembers fuel (level + 1) rest []
        (onLevel level (.obj members closing), rest)
      | _ => (onLevel level (.obj [] (some .keyNotText)), none)
    | c :: rest =>
      if c = '-' ∨ c.isDigit then readNumber (c :: rest) else (.fault .expectedValue, none)

/-- List items from the start of one to the end of the list, after those already read. -/
def readItems : Nat → Nat → List Char → List Document → List Document × Option Fault × Rest
  | 0, _, _, items => (items.reverse, some .endOfList, none)
  | fuel + 1, level, cs, items =>
    let (item, rest) := readValue fuel level cs
    let items := item :: items
    match rest with
    | none => (items.reverse, none, none)
    | some rest =>
      match skipBlanks rest with
      | [] => (items.reverse, some .endOfList, none)
      | ']' :: rest => (items.reverse, none, some rest)
      | ',' :: rest =>
        match skipBlanks rest with
        | [] => (items.reverse, some .endAfterComma, none)
        | ']' :: _ => (items.reverse, some .trailingComma, none)
        | rest => readItems fuel level rest items
      | _ => (items.reverse, some .expectedCommaOrBracket, none)

/-- Members from behind the opening quote of a key to the end of the object, after those already
read. -/
def readMembers : Nat → Nat → List Char → List Member → List Member × Option Fault × Rest
  | 0, _, _, members => (members.reverse, some .endOfObject, none)
  | fuel + 1, level, cs, members =>
    match scanText {} cs with
    | .error f => (members.reverse, some f, none)
    | .ok (key, rest) =>
      let (value, rest) := match skipBlanks rest with
        | [] => (.fault .endOfObject, none)
        | ':' :: rest => readValue fuel level rest
        | _ => (.fault .expectedColon, none)
      let members := (key, value) :: members
      match rest with
      | none => (members.reverse, none, none)
      | some rest =>
        match skipBlanks rest with
        | [] => (members.reverse, some .endOfObject, none)
        | '}' :: rest => (members.reverse, none, some rest)
        | ',' :: rest =>
          match skipBlanks rest with
          | [] => (members.reverse, some .endAfterComma, none)
          | '"' :: rest => readMembers fuel level rest members
          | '}' :: _ => (members.reverse, some .trailingComma, none)
          | _ => (members.reverse, some .keyNotText, none)
        | _ => (members.reverse, some .expectedCommaOrBrace, none)

end

/-- The document at the front of a text and what is left behind it.  Every second call consumes a
character, so the length of the text bounds the number of calls. -/
def read (cs : List Char) : Document × Rest :=
  readValue (2 * cs.length + 2) 1 cs

/-- The document of a text. -/
def ofText (text : String) : Document × Rest :=
  read text.toList

/-- Nothing but blanks may be left behind the only document of a text. -/
def ended (rest : Rest) : Except Fault Unit :=
  match rest with
  | none => .error .endOfValue
  | some cs => if (skipBlanks cs).isEmpty then .ok () else .error .trailingText

end Welfare.Json.Document
