/-!
# Media types

A media type is a type and a subtype, each a token, with optional parameters `name=value` behind
semicolons; a value is a token or a quoted text.

* `MediaType.parse?` — reading one; letters count without case.
* `MediaType.isJson` — whether a body of that type is read as JSON: `application/json`, or an
  `application` type with the suffix `+json`.
-/

set_option autoImplicit false

namespace Welfare.Http

/-- A media type, without its parameters. -/
structure MediaType where
  type : List Char
  subtype : List Char

namespace MediaType

/-- The characters of a token. -/
def isToken (c : Char) : Bool :=
  c.isAlphanum || "!#$%&'*+-.^_`|~".toList.contains c

/-- The characters of a quoted parameter value. -/
def isQuotable (c : Char) : Bool :=
  31 < c.toNat && c.toNat != 127

/-- Where a reader stands in the parameters. -/
inductive Place where
  | beforeName
  | inName
  | beforeValue
  | inValue
  | openedQuote
  | inQuote
  | closedQuote
deriving DecidableEq, Repr

/-- The place behind one more character; none if the character may not stand there.

Blanks stand only before a name and behind a closing quote. A quoted value has at least one
character, so the first one behind the opening quote never closes it. -/
def Place.next (p : Place) (c : Char) : Option Place :=
  match p with
  | .beforeName => if c = ' ' then some .beforeName else if isToken c then some .inName else none
  | .inName => if c = '=' then some .beforeValue else if isToken c then some .inName else none
  | .beforeValue => if c = '"' then some .openedQuote else if isToken c then some .inValue else none
  | .inValue => if c = ';' then some .beforeName else if isToken c then some .inValue else none
  | .openedQuote => if isQuotable c then some .inQuote else none
  | .inQuote => if c = '"' then some .closedQuote else if isQuotable c then some .inQuote else none
  | .closedQuote =>
    if c = ';' then some .beforeName else if c = ' ' then some .closedQuote else none

/-- Whether the parameters may end here: the last value may be empty, and so may the list. -/
def Place.mayEnd (p : Place) : Bool :=
  match p with
  | .beforeName | .beforeValue | .inValue | .closedQuote => true
  | .inName | .openedQuote | .inQuote => false

/-- Whether the text is a list of parameters; the semicolon before the first one was read. -/
def areParameters (cs : List Char) : Bool :=
  (cs.foldlM Place.next .beforeName).any Place.mayEnd

/-- Whether a character may stand in the text of a media type at all: ASCII without controls, or a
tab. -/
def isVisible (c : Char) : Bool :=
  c == '\t' || (31 < c.toNat && c.toNat < 127)

/-- Reads a media type; anything but visible text is none. -/
def parse? (s : String) : Option MediaType :=
  let cs := if s.toList.all isVisible then s.toList.map Char.toLower else []
  let type := cs.takeWhile isToken
  match cs.dropWhile isToken with
  | '/' :: rest =>
    let subtype := rest.takeWhile isToken
    let accepted := match rest.dropWhile isToken with
      | [] => true
      | ';' :: parameters => areParameters parameters
      | _ => false
    if !type.isEmpty && !subtype.isEmpty && accepted then some ⟨type, subtype⟩ else none
  | _ => none

/-- The subtype before its last plus sign, and what follows the plus sign. -/
def splitSuffix (subtype : List Char) : List Char × Option (List Char) :=
  let suffix := (subtype.reverse.takeWhile (· != '+')).reverse
  if suffix.length + 1 < subtype.length then
    (subtype.take (subtype.length - suffix.length - 1), some suffix)
  else (subtype, none)

/-- Whether a body of the type is read as JSON. -/
def isJson (m : MediaType) : Bool :=
  let (base, suffix) := splitSuffix m.subtype
  m.type == "application".toList && (base == "json".toList || suffix == some "json".toList)

end MediaType

end Welfare.Http
