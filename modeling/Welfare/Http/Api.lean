import Welfare.Http.MediaType
import Welfare.Http.Message
import Welfare.Http.Route
import Welfare.Service

/-!
# The service over HTTP

* `CheckRequest`, `BatchRequest` — the bodies that are posted.
* `Server` — a running service: its source of schemes, and whether it is ready.
* `Server.respond` — the response to a request.
-/

set_option autoImplicit false

namespace Welfare.Http

open Welfare.Json (Decoded DecodeError Document Shape)

/-! ## Bodies -/

/-- A profile and the id of a scheme. -/
structure CheckRequest where
  profile : Profile
  schemeId : String

namespace CheckRequest

/-- The fields that have been read. -/
structure Draft where
  profile : Option Json := none
  schemeId : Option String := none

/-- The fields, in order. -/
def shape : Shape Draft where
  name := "CheckRequest"
  slots := [
    .of "profile" (·.profile) (fun d v => { d with profile := some v }) Document.asJson,
    .of "scheme_id" (·.schemeId) (fun d v => { d with schemeId := some v }) Document.asString]
  other := Shape.skimOther

/-- Reads the body of a check; both fields are required. -/
def decode (d : Document) : Decoded CheckRequest := do
  let (draft, form) ← shape.readRecord .text {} d
  let profile ← shape.require form "profile" draft.profile
  let schemeId ← shape.require form "scheme_id" draft.schemeId
  return { profile := ⟨profile⟩, schemeId }

end CheckRequest

/-- A profile and the schemes to screen it against; without schemes, those of the source. -/
structure BatchRequest where
  profile : Profile
  schemes : Option (List Scheme)

namespace BatchRequest

/-- The fields that have been read. -/
structure Draft where
  profile : Option Json := none
  schemes : Option (Option (List Scheme)) := none

/-- The fields, in order. -/
def shape : Shape Draft where
  name := "BatchRequest"
  slots := [
    .of "profile" (·.profile) (fun d v => { d with profile := some v }) Document.asJson,
    .of "schemes" (·.schemes) (fun d v => { d with schemes := some v })
      (Document.optional (Scheme.decodeList .text))]
  other := Shape.skimOther

/-- Reads the body of a screening; only the profile is required. -/
def decode (d : Document) : Decoded BatchRequest := do
  let (draft, form) ← shape.readRecord .text {} d
  let profile ← shape.require form "profile" draft.profile
  return { profile := ⟨profile⟩, schemes := draft.schemes.join }

end BatchRequest

/-! ## Responses -/

/-- The response to a body that cannot be read: a text that is not JSON is told apart from JSON of
the wrong kind. -/
def rejection (e : DecodeError) : Response :=
  if e.isMalformed then .text 400 "Failed to parse the request body as JSON"
  else .text 422 "Failed to deserialize the JSON body into the target type"

/-- The status of an error: only a missing scheme is the client's fault. -/
def errorStatus : ServiceError → Nat
  | .schemeNotFound _ => 404
  | .catalog _ => 500

/-- The response with a result, or with its error. -/
def answer {α : Type} (write : α → Json) : Except ServiceError α → Response
  | .ok a => .json 200 (write a)
  | .error e => .error (errorStatus e) e.message

/-- The response to a body, which has to be declared as JSON.  What follows the first document of
the body does not matter. -/
def withBody {α : Type} (decode : Document → Decoded α) (handle : α → Response) (r : Request) :
    Response :=
  if (r.contentType.bind MediaType.parse?).any MediaType.isJson then
    match Json.decodeFront decode r.body with
    | .ok a => handle a
    | .error e => rejection e
  else .text 415 "Expected request with `Content-Type: application/json`"

/-- A running service. -/
structure Server where
  source : Source
  ready : Bool

namespace Server

/-- The response to a check. -/
def check (s : Server) (r : CheckRequest) : Response :=
  answer Assessment.toJson (s.source.check r.profile r.schemeId)

/-- The response to a screening. -/
def batch (s : Server) (r : BatchRequest) : Response :=
  answer Screening.toJson <|
    match r.schemes with
    | some schemes => .ok (s.source.screenThese r.profile schemes)
    | none => s.source.screenAll r.profile

/-- The response with the scheme that a path segment names. -/
def scheme (s : Server) (segment : String) : Response :=
  match Text.percentDecode? segment with
  | some id => answer Scheme.toJson (s.source.scheme id)
  | none => .text 400 "Invalid URL: Invalid UTF-8 in `scheme_id`"

/-- The response of a resource to a method it allows. -/
def serve (s : Server) (route : Route) (r : Request) : Response :=
  match route with
  | .check => withBody CheckRequest.decode s.check r
  | .batch => withBody BatchRequest.decode s.batch r
  | .schemes => answer (fun schemes => .arr (schemes.map Scheme.toJson)) s.source.schemes
  | .scheme segment => s.scheme segment
  | .health => .json 200 (.obj [("status", .str "ok")])
  | .ready =>
    if s.ready then .json 200 (.obj [("status", .str "ready")])
    else .json 503 (.obj [("status", .str "initializing")])
  | .metrics => ⟨200, some "text/plain; version=0.0.4", none, .text ""⟩

/-- The response to a request.  Nothing but the head is sent in response to `HEAD`. -/
def respond (s : Server) (r : Request) : Response :=
  match Route.ofTarget? r.target with
  | none => .bare 404
  | some route =>
    if route.methods.contains r.method then
      let response := s.serve route r
      if r.method == "HEAD" then response.withoutBody else response
    else { Response.bare 405 with allow := some (",".intercalate route.methods) }

/-- A method that the resource allows is served, with the body of its response. -/
theorem respond_of_mem_methods {s : Server} {r : Request} {route : Route}
    (htarget : Route.ofTarget? r.target = some route) (hmethod : r.method ∈ route.methods)
    (hhead : r.method ≠ "HEAD") : s.respond r = s.serve route r := by
  have hallowed : route.methods.contains r.method = true := by simpa using hmethod
  simp only [respond, htarget, hallowed, if_true, beq_iff_eq, hhead, if_false]

end Server

end Welfare.Http
