import Welfare.Json.Basic

/-!
# Requests and responses

* `Http.Request` — what a client asks.
* `Http.Response` — what it is told.
* `Response.json`, `Response.text`, `Response.bare` — responses with a value, a text or nothing.
-/

set_option autoImplicit false

namespace Welfare.Http

/-- A request. -/
structure Request where
  method : String
  /-- The path as it is sent, with a query if there is one. -/
  target : String
  contentType : Option String
  body : String

/-- What a response carries. -/
inductive Body where
  | json (v : Json)
  | text (s : String)
  | empty

/-- A response. -/
structure Response where
  status : Nat
  contentType : Option String
  /-- The methods that are allowed, when the one asked for is not. -/
  allow : Option String
  body : Body

namespace Response

/-- A response with a value. -/
def json (status : Nat) (v : Json) : Response :=
  ⟨status, some "application/json", none, .json v⟩

/-- A response with a text. -/
def text (status : Nat) (s : String) : Response :=
  ⟨status, some "text/plain; charset=utf-8", none, .text s⟩

/-- A response without a body. -/
def bare (status : Nat) : Response := ⟨status, none, none, .empty⟩

/-- A response that names what went wrong. -/
def error (status : Nat) (message : String) : Response :=
  json status (.obj [("error", .str message)])

/-- The same response without its body. -/
def withoutBody (r : Response) : Response := { r with body := .empty }

end Response

end Welfare.Http
