import Welfare.Json.Basic

/-!
# Documents

A document is what a text says while it is read from left to right.  A text that stops being JSON
still has a document: everything before the fault is there, and the fault stands at the place where
reading stops.  Whoever reads the document in order therefore meets the problems of a text in the
order in which they occur, whether they are faults of the text or data of the wrong kind.

Some faults count only when the value is needed: a number too large for a double, a text with half
of a surrogate pair, a container nested too deeply.  A value that nobody needs is only skimmed, and
skimming passes over these.

* `Fault` — the ways in which a text is not JSON, with their wording.
* `Document` — the values of a text, with faults in place.
* `Document.toJson` — the value of a document that is needed as a whole.
* `Document.skim` — passing over a document that is not needed.
* `Document.ofJson` — the faultless document of a value.
-/

set_option autoImplicit false

namespace Welfare

namespace Json

/-- A way in which a text is not JSON. -/
inductive Fault where
  /-- The text ends where a value should start, or inside a literal word. -/
  | endOfValue
  /-- The text ends after the comma that follows a list item or a member. -/
  | endAfterComma
  /-- The text ends inside a number. -/
  | endOfNumber
  | endOfList
  | endOfObject
  | endOfText
  | expectedColon
  | expectedCommaOrBracket
  | expectedCommaOrBrace
  | expectedWord
  | expectedValue
  | badEscape
  | badNumber
  | numberTooLarge
  | controlCharacter
  | keyNotText
  | loneSurrogate
  | unfinishedPair
  | trailingComma
  | trailingText
  | nestedTooDeeply
  /-- A text literal breaks off behind half of a surrogate pair.  The half is the fault when the
  text is needed, the break when it is not. -/
  | brokenText (half breach : Fault)
deriving DecidableEq, Repr

/-- The wording of a fault. -/
def Fault.message : Fault → String
  | .endOfValue | .endAfterComma | .endOfNumber => "EOF while parsing a value"
  | .endOfList => "EOF while parsing a list"
  | .endOfObject => "EOF while parsing an object"
  | .endOfText => "EOF while parsing a string"
  | .expectedColon => "expected `:`"
  | .expectedCommaOrBracket => "expected `,` or `]`"
  | .expectedCommaOrBrace => "expected `,` or `\x7d`"
  | .expectedWord => "expected ident"
  | .expectedValue => "expected value"
  | .badEscape => "invalid escape"
  | .badNumber => "invalid number"
  | .numberTooLarge => "number out of range"
  | .controlCharacter => "control character (\\u0000-\\u001F) found while parsing a string"
  | .keyNotText => "key must be a string"
  | .loneSurrogate => "lone leading surrogate in hex escape"
  | .unfinishedPair => "unexpected end of hex escape"
  | .trailingComma => "trailing comma"
  | .trailingText => "trailing characters"
  | .nestedTooDeeply => "recursion limit exceeded"
  | .brokenText half _ => half.message

/-- The values of a text in the order in which they stand there, up to its first fault. -/
inductive Document where
  | null
  | bool (b : Bool)
  /-- A number, or why it is none when it is needed. -/
  | num (n : Except Fault Number)
  /-- A text, or why it is none when it is needed. -/
  | str (s : Except Fault String)
  /-- A list, and what is wrong with its end. -/
  | arr (items : List Document) (closing : Option Fault)
  /-- An object with all its members, repeated keys included, and what is wrong with its end. -/
  | obj (members : List (Except Fault String × Document)) (closing : Option Fault)
  /-- A list or an object nested too deeply to be needed. -/
  | deep (inner : Document)
  /-- The place where the text stops being JSON. -/
  | fault (f : Fault)

namespace Document

/-- A member of an object: its key, or why it is none when it is needed, and its value. -/
abbrev Member := Except Fault String × Document

/-- The end of a list or an object, which counts once everything before it is read. -/
def closed : Option Fault → Except Fault Unit
  | none => .ok ()
  | some f => .error f

/-! ## Values -/

mutual

/-- The value of a document.  Of members with the same key the last one counts. -/
def toJson : Document → Except Fault Json
  | .null => .ok .null
  | .bool b => .ok (.bool b)
  | .num n => return .num (← n)
  | .str s => return .str (← s)
  | .arr items closing => do
    let values ← toJsonItems items
    closed closing
    return .arr values
  | .obj members closing => do
    let values ← toJsonMembers members []
    closed closing
    return .obj values
  | .deep _ => .error .nestedTooDeeply
  | .fault f => .error f

/-- The values of list items, first to last. -/
def toJsonItems : List Document → Except Fault (List Json)
  | [] => .ok []
  | d :: ds => do
    let v ← toJson d
    let vs ← toJsonItems ds
    return v :: vs

/-- Adds members, first to last, to those already read. -/
def toJsonMembers : List Member → List Json.Member → Except Fault (List Json.Member)
  | [], read => .ok read
  | (key, d) :: ms, read => do
    let k ← key
    let v ← toJson d
    toJsonMembers ms (insertMember k v read)

end

/-! ## Skimming -/

/-- A fault as it is met while skimming: after a comma the next item or key is missed at once, a
number is not told apart from its end, and half of a surrogate pair is not seen. -/
def skimmedInList : Fault → Fault
  | .trailingComma => .expectedValue
  | f => f

@[inherit_doc skimmedInList]
def skimmedInObject : Fault → Fault
  | .trailingComma => .keyNotText
  | .endAfterComma => .endOfObject
  | .brokenText _ f => f
  | f => f

@[inherit_doc skimmedInList]
def skimmedScalar : Fault → Fault
  | .endOfNumber => .badNumber
  | .brokenText _ f => f
  | f => f

mutual

/-- Passes over a document: only the shape of the text has to be right. -/
def skim : Document → Except Fault Unit
  | .arr items closing => do
    skimItems items
    closed (closing.map skimmedInList)
  | .obj members closing => do
    skimMembers members
    closed (closing.map skimmedInObject)
  | .deep inner => skim inner
  | .fault f => .error (skimmedScalar f)
  | _ => .ok ()

/-- Passes over list items. -/
def skimItems : List Document → Except Fault Unit
  | [] => .ok ()
  | d :: ds => do
    skim d
    skimItems ds

/-- Passes over members. -/
def skimMembers : List Member → Except Fault Unit
  | [] => .ok ()
  | (_, d) :: ms => do
    skim d
    skimMembers ms

end

/-! ## Documents of values -/

mutual

/-- The document of a value: nothing is wrong with it. -/
def ofJson : Json → Document
  | .null => .null
  | .bool b => .bool b
  | .num n => .num (.ok n)
  | .str s => .str (.ok s)
  | .arr items => .arr (ofJsonItems items) none
  | .obj members => .obj (ofJsonMembers members) none

/-- The documents of list items. -/
def ofJsonItems : List Json → List Document
  | [] => []
  | v :: vs => ofJson v :: ofJsonItems vs

/-- The documents of members. -/
def ofJsonMembers : List Json.Member → List Member
  | [] => []
  | (k, v) :: ms => (.ok k, ofJson v) :: ofJsonMembers ms

end

end Document

end Json

end Welfare
