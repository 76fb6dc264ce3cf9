import Welfare.Json.Decode
import Welfare.Json.Printer
import Welfare.Text.Quoted

/-!
# The wording of decoding errors

A decoder also says where it stopped, ` at line N column M` behind its wording, when it read a text.
These places are not kept here, so wherever a wording is part of what is printed or answered, that
is printed or answered up to the place.

* `DecodeError.message` — the text of an error, up to its place.
* `DecodeError.isMalformed` — whether the text was not JSON at all.
-/

set_option autoImplicit false

namespace Welfare.Json

/-- What was found, in words. -/
def Found.message : Found → String
  | .null => "null"
  | .bool b => s!"boolean `{b}`"
  | .num (.int n _) => s!"integer `{n}`"
  | .num (.double x _) => s!"floating point `{floatLayout.render x}`"
  | .str s => s!"string {Text.quoted s}"
  | .arr => "sequence"
  | .obj => "map"

/-- What is wanted, in words. -/
def Wanted.message : Wanted → String
  | .string => "a string"
  | .boolean => "a boolean"
  | .float => "f64"
  | .sequence => "a sequence"
  | .record name => s!"struct {name}"

/-- The text of a decoding error, up to the place ` at line N column M` that follows it. -/
def DecodeError.message : DecodeError → String
  | .unreadable reason => reason
  | .malformed f => f.message
  | .missingField name => s!"missing field `{name}`"
  | .duplicateField name => s!"duplicate field `{name}`"
  | .wrongType found wanted => s!"invalid type: {found.message}, expected {wanted.message}"
  | .tooShort length record size =>
    s!"invalid length {length}, expected struct {record} with {size} elements"
  | .tooLong length => s!"invalid length {length}, expected fewer elements in array"
  | .tooLongAside length size =>
    let elements := if size = 1 then "element" else "elements"
    s!"invalid length {length}, expected {size} {elements} in sequence"

/-- Whether the text was not JSON, as opposed to JSON of the wrong kind. -/
def DecodeError.isMalformed : DecodeError → Bool
  | .malformed _ => true
  | _ => false

end Welfare.Json
