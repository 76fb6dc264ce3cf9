import Welfare.Text.Percent

/-!
# Routes

* `Route` — the resources of the service.
* `Route.path` — the path in a target.
* `Route.ofTarget?` — the resource a target names; its path matters, to the letter, and nothing
  else.
* `Route.methods` — what may be done with a resource.
-/

set_option autoImplicit false

namespace Welfare.Http

/-- A resource of the service. -/
inductive Route where
  | check
  | batch
  | schemes
  /-- One scheme, by its id as the path spells it. -/
  | scheme (segment : String)
  | health
  | ready
  | metrics
deriving DecidableEq, Repr

namespace Route

/-- The characters of the name of a scheme, such as `http`. -/
def isSchemeChar (c : Char) : Bool :=
  c.isAlphanum || c == '+' || c == '-' || c == '.'

/-- Whether a character ends the path: a query or a fragment follows. -/
def endsPath (c : Char) : Bool := c == '?' || c == '#'

/-- The path of a target.

A target is a path as such, or a whole address: a scheme, a host and a path, which is `/` when the
address stops at the host.  The host does not matter.  A target that is only a host has no path. -/
def path (target : String) : List Char :=
  let cs := target.toList
  if cs.head? = some '/' || cs = ['*'] then cs.takeWhile (!endsPath ·)
  else match cs.dropWhile isSchemeChar with
    | ':' :: '/' :: '/' :: rest =>
      let path := (rest.dropWhile fun c => c != '/' && !endsPath c).takeWhile (!endsPath ·)
      if path.isEmpty then ['/'] else path
    | _ => []

/-- The path under which the schemes are found one by one. -/
def schemePrefix : List Char := "/api/v1/schemes/".toList

/-- The resource under a path. -/
def ofPath? (path : List Char) : Option Route :=
  if path = "/api/v1/eligibility/check".toList then some .check
  else if path = "/api/v1/eligibility/batch".toList then some .batch
  else if path = "/api/v1/schemes".toList then some .schemes
  else if path = "/health".toList then some .health
  else if path = "/ready".toList then some .ready
  else if path = "/metrics".toList then some .metrics
  else if schemePrefix.isPrefixOf path then
    let segment := path.drop schemePrefix.length
    if segment.isEmpty || segment.contains '/' then none
    else some (.scheme (String.ofList segment))
  else none

/-- The resource that a target names. -/
def ofTarget? (target : String) : Option Route := ofPath? (path target)

/-- The methods of a resource: assessments are posted, everything else is read. -/
def methods : Route → List String
  | .check | .batch => ["POST"]
  | _ => ["GET", "HEAD"]

end Route

end Welfare.Http
