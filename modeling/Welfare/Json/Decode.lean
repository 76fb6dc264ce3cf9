import Welfare.Json.Document.Reader

/-!
# Decoding documents into records

Records are decoded from documents, member by member in the order in which they stand there, and the
first problem is the one reported.

* `DecodeError` — the problems, with their wording.
* `Document.asString`, `asBool`, `asFloat`, `asJson`, `listOf`, `optional` — fields of simple kinds.
* `Shape` — the fields of a record, each a slot of a draft that is filled at most once.
* `Shape.readRecord`, `Shape.readObject` — filling a draft from a document.  A plain record may also
  be given as the list of its fields in order; a record that keeps its unknown members may not.
-/

set_option autoImplicit false

namespace Welfare.Json

/-! ## Errors -/

/-- What stands in a document where something else is wanted. -/
inductive Found where
  | null
  | bool (b : Bool)
  | num (n : Number)
  | str (s : String)
  | arr
  | obj

/-- What is wanted. -/
inductive Wanted where
  | string
  | boolean
  | float
  | sequence
  | record (name : String)

/-- A problem of a document that is to be decoded. -/
inductive DecodeError where
  /-- There is no text, for a reason. -/
  | unreadable (reason : String)
  /-- The text is not JSON. -/
  | malformed (f : Fault)
  | missingField (name : String)
  | duplicateField (name : String)
  | wrongType (found : Found) (wanted : Wanted)
  /-- A list of fields ends too early for a record of `size` fields. -/
  | tooShort (length : Nat) (record : String) (size : Nat)
  /-- A list of fields goes on after the last field. -/
  | tooLong (length : Nat)
  /-- A list of fields that was put aside before it was decoded goes on after the last field. -/
  | tooLongAside (length size : Nat)

abbrev Decoded := Except DecodeError

/-! ## Origins -/

/-- Where a document comes from.  This matters only for a record given as a list of more fields than
it has. -/
inductive Origin where
  /-- It is read from a text, which should have ended the list. -/
  | text
  /-- It stands for a value in hand, whose length is known. -/
  | value
  /-- It was put aside while the record around it was read. -/
  | aside
deriving DecidableEq, Repr

/-- The error of a list of `length` fields for a record of `size`. -/
def Origin.tooLong (origin : Origin) (length size : Nat) : DecodeError :=
  match origin with
  | .text => .malformed .trailingText
  | .value => .tooLong length
  | .aside => .tooLongAside length size

namespace Document

/-! ## Simple fields -/

/-- What stands in a document, if it is sound so far. -/
def found : Document → Except Fault Found
  | .null => .ok .null
  | .bool b => .ok (.bool b)
  | .num n => return .num (← n)
  | .str s => return .str (← s)
  | .arr .. => .ok .arr
  | .obj .. => .ok .obj
  | .deep inner => found inner
  | .fault f => .error f

/-- The error of a document where something else is wanted. -/
def mismatch {α : Type} (d : Document) (wanted : Wanted) : Decoded α :=
  match d.found with
  | .ok found => .error (.wrongType found wanted)
  | .error f => .error (.malformed f)

/-- A result on faultless text, as the result of decoding. -/
def sound {α : Type} (r : Except Fault α) : Decoded α :=
  r.mapError .malformed

def asString (d : Document) : Decoded String :=
  match d with
  | .str s => sound s
  | d => d.mismatch .string

def asBool (d : Document) : Decoded Bool :=
  match d with
  | .bool b => .ok b
  | d => d.mismatch .boolean

/-- The double nearest to a number. -/
def asFloat (d : Document) : Decoded Float :=
  match d with
  | .num n => return (← sound n).toFloat
  | d => d.mismatch .float

/-- Any value. -/
def asJson (d : Document) : Decoded Json :=
  sound d.toJson

/-- A list of things of one kind. -/
def listOf {α : Type} (item : Document → Decoded α) (d : Document) : Decoded (List α) :=
  match d with
  | .arr items closing => do
    let xs ← items.mapM item
    sound (closed closing)
    return xs
  | .deep (.arr ..) => .error (.malformed .nestedTooDeeply)
  | d => d.mismatch .sequence

/-- `null`, or a thing of some kind. -/
def optional {α : Type} (read : Document → Decoded α) (d : Document) : Decoded (Option α) :=
  match d with
  | .null => .ok none
  | d => return some (← read d)

/-- A thing of some kind, or `null` for the default. -/
def orDefault {α : Type} [Inhabited α] (read : Document → Decoded α) (d : Document) : Decoded α :=
  return (← d.optional read).getD default

/-- The double nearest to a number; any other value counts as none. -/
def floatOrNone (d : Document) : Decoded (Option Float) :=
  return (← d.asJson).float?

end Document

/-! ## Records -/

/-- A field of a record whose draft is a `σ`: its name, whether its slot is filled, and how a
document fills it. -/
structure Slot (σ : Type) where
  name : String
  filled : σ → Bool
  fill : σ → Document → Decoded σ

/-- A slot that holds an optional part of the draft. -/
def Slot.of {σ α : Type} (name : String) (get : σ → Option α) (set : σ → α → σ)
    (read : Document → Decoded α) : Slot σ where
  name
  filled draft := (get draft).isSome
  fill draft d := return set draft (← read d)

/-- The shape of a record: its name, its fields in order, and what becomes of other members. -/
structure Shape (σ : Type) where
  name : String
  slots : List (Slot σ)
  other : σ → String → Document → Decoded σ

namespace Shape

variable {σ : Type}

/-- Unknown members are skimmed and forgotten. -/
def skimOther (draft : σ) (_ : String) (d : Document) : Decoded σ := do
  Document.sound d.skim
  return draft

/-- Reads one member into a draft. -/
def readMember (shape : Shape σ) (draft : σ) (key : String) (d : Document) : Decoded σ :=
  match shape.slots.find? (·.name == key) with
  | some slot =>
    if slot.filled draft then .error (.duplicateField key) else slot.fill draft d
  | none => shape.other draft key d

/-- Reads members into a draft, first to last. -/
def readMembers (shape : Shape σ) (draft : σ) : List Document.Member → Decoded σ
  | [] => .ok draft
  | (key, d) :: rest => do
    let key ← Document.sound key
    let draft ← shape.readMember draft key d
    shape.readMembers draft rest

/-- Reads a list of fields into the slots, in order, as far as both go. -/
def fillSlots (draft : σ) : List (Slot σ) → List Document → Decoded σ
  | slot :: slots, d :: ds => do
    let draft ← slot.fill draft d
    fillSlots draft slots ds
  | _, _ => .ok draft

/-- How a draft came about, which decides how a missing field is reported. -/
inductive Form where
  /-- From members. -/
  | named
  /-- From a list of fields. -/
  | listed

/-- What is wrong behind the last field of a list of fields: there the end of the list is wanted. -/
def closingBehindLast : Fault → Fault
  | .expectedCommaOrBracket | .endAfterComma => .trailingText
  | f => f

/-- Reads a list of fields. -/
def readList (shape : Shape σ) (origin : Origin) (draft : σ) (items : List Document)
    (closing : Option Fault) : Decoded σ := do
  let size := shape.slots.length
  let draft ← fillSlots draft shape.slots items
  if size < items.length then .error (origin.tooLong items.length size)
  else if items.length = size then
    Document.sound (Document.closed (closing.map closingBehindLast))
    return draft
  else
    Document.sound (Document.closed closing)
    return draft

/-- Reads an object into a draft; nothing else will do. -/
def readObject (shape : Shape σ) (draft : σ) (d : Document) : Decoded σ :=
  match d with
  | .obj members closing => do
    let draft ← shape.readMembers draft members
    Document.sound (Document.closed closing)
    return draft
  | .deep (.obj ..) => .error (.malformed .nestedTooDeeply)
  | d => d.mismatch (.record shape.name)

/-- Reads an object or a list of fields into a draft. -/
def readRecord (shape : Shape σ) (origin : Origin) (draft : σ) (d : Document) :
    Decoded (σ × Form) :=
  match d with
  | .arr items closing => return (← shape.readList origin draft items closing, .listed)
  | .deep (.arr ..) => .error (.malformed .nestedTooDeeply)
  | d => return (← shape.readObject draft d, .named)

/-- The position of a field in its record. -/
def position (shape : Shape σ) (name : String) : Nat :=
  (shape.slots.map Slot.name).idxOf name

/-- The value of a required field. -/
def require {α : Type} (shape : Shape σ) (form : Form) (name : String) (slot : Option α) :
    Decoded α :=
  match slot, form with
  | some a, _ => .ok a
  | none, .named => .error (.missingField name)
  | none, .listed => .error (.tooShort (shape.position name) shape.name shape.slots.length)

end Shape

/-! ## Texts -/

/-- Decodes the document at the front of a text, whatever follows it. -/
def decodeFront {α : Type} (decode : Document → Decoded α) (text : String) : Decoded α :=
  decode (Document.ofText text).1

/-- Decodes a text that is one document. -/
def decodeText {α : Type} (decode : Document → Decoded α) (text : String) : Decoded α := do
  let (d, rest) := Document.ofText text
  let a ← decode d
  Document.sound (Document.ended rest)
  return a

/-- The value of a text. -/
def parse (text : String) : Decoded Json :=
  decodeText Document.asJson text

end Welfare.Json
