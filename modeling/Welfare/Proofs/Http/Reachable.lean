import Mathlib.Data.List.TakeWhile
import Welfare.Http.Api
import Welfare.Proofs.Catalog.Checks
import Welfare.Proofs.Text.Percent

/-!
# Every scheme is reachable

The service lists its schemes, and it answers with one of them when its id is a segment of the path.
An id is any text; encoded, it is such a segment, and the segment leads back to the scheme that is
listed with the id.

* `Route.ofTarget?_segment` — a segment behind the path of the schemes asks for one scheme.
* `Server.respond_of_segment` — the answer to such a request.
* `every_scheme_is_reachable` — it is what the list says about the scheme, for every scheme of a
  catalog whose id is not empty.
-/

set_option autoImplicit false

namespace Welfare.Http

open Text (isSegmentChar percentDecode? percentEncode)

/-! ## Segments -/

namespace Route

/-- A text that is one segment of a path. -/
structure IsSegment (segment : String) : Prop where
  ne_empty : segment ≠ ""
  chars : ∀ c ∈ segment.toList, c ≠ '/' ∧ endsPath c = false

theorem isSegment_iff {segment : String} : IsSegment segment ↔
    segment ≠ "" ∧ segment.toList.all (fun c ↦ c != '/' && !endsPath c) = true := by
  simp only [List.all_eq_true, Bool.and_eq_true, bne_iff_ne, Bool.not_eq_true']
  exact ⟨fun h ↦ ⟨h.ne_empty, h.chars⟩, fun h ↦ ⟨h.1, h.2⟩⟩

instance (segment : String) : Decidable (IsSegment segment) :=
  decidable_of_iff _ isSegment_iff.symm

/-- An encoded text is a segment, unless it is empty. -/
theorem isSegment_percentEncode {id : String} (h : id ≠ "") (plain : UInt8 → Bool) :
    IsSegment (percentEncode plain id) where
  ne_empty := Text.percentEncode_ne_empty plain id h
  chars c hc := by
    have hchar := Text.isSegmentChar_of_mem_percentEncode plain id hc
    simp only [isSegmentChar, Bool.and_eq_true, bne_iff_ne, ne_eq] at hchar
    obtain ⟨⟨⟨-, hslash⟩, hquery⟩, hfragment⟩ := hchar
    exact ⟨hslash, by simp [endsPath, hquery, hfragment]⟩

/-- A target without a query that starts with a slash is a path. -/
theorem path_eq_toList {target : String} (hhead : target.toList.head? = some '/')
    (h : ∀ c ∈ target.toList, endsPath c = false) : path target = target.toList := by
  have hwhole : ∀ c ∈ target.toList, (!endsPath c) = true := by
    intro c hc
    rw [h c hc, Bool.not_false]
  simp only [path, hhead, decide_true, Bool.true_or, if_true]
  exact List.takeWhile_eq_self_iff.2 hwhole

/-- No other resource lies below the path of the schemes. -/
theorem ofPath?_append {segment : List Char} (hne : segment ≠ []) (h : '/' ∉ segment) :
    ofPath? (schemePrefix ++ segment) = some (.scheme (String.ofList segment)) := by
  have hbelow : schemePrefix.isPrefixOf (schemePrefix ++ segment) = true :=
    List.isPrefixOf_iff_prefix.2 (List.prefix_append _ _)
  have hother : ∀ other, schemePrefix.isPrefixOf other = false →
      schemePrefix ++ segment ≠ other := by
    rintro other hprefix rfl
    rw [hbelow] at hprefix
    cases hprefix
  rw [ofPath?, if_neg (hother _ (by decide)), if_neg (hother _ (by decide)),
    if_neg (hother _ (by decide)), if_neg (hother _ (by decide)), if_neg (hother _ (by decide)),
    if_neg (hother _ (by decide)), if_pos hbelow]
  simp [hne, h]

theorem ofTarget?_segment {segment : String} (h : IsSegment segment) :
    ofTarget? ("/api/v1/schemes/" ++ segment) = some (.scheme segment) := by
  have htext : ("/api/v1/schemes/" ++ segment).toList = schemePrefix ++ segment.toList :=
    String.toList_append
  have hall : schemePrefix.all (!endsPath ·) = true := by decide
  have hplain : ∀ c ∈ schemePrefix, endsPath c = false := by simpa using hall
  have hpath : path ("/api/v1/schemes/" ++ segment) = schemePrefix ++ segment.toList := by
    rw [← htext]
    refine path_eq_toList (by rw [htext]; rfl) fun c hc ↦ ?_
    rw [htext, List.mem_append] at hc
    exact hc.elim (hplain c) fun hc ↦ (h.chars c hc).2
  have hne : segment.toList ≠ [] := by simpa using h.ne_empty
  rw [ofTarget?, hpath, ofPath?_append hne fun hc ↦ (h.chars _ hc).1 rfl, String.ofList_toList]

end Route

/-! ## Answers -/

/-- A request that reads a target. -/
structure Request.Gets (r : Request) (target : String) : Prop where
  method : r.method = "GET"
  target : r.target = target

theorem Request.Gets.respond {r : Request} {target : String} (h : r.Gets target) {route : Route}
    (hroute : Route.ofTarget? target = some route) (hallowed : "GET" ∈ route.methods) (s : Server) :
    s.respond r = s.serve route r :=
  Server.respond_of_mem_methods (h.target ▸ hroute) (h.method ▸ hallowed)
    (by rw [h.method]; decide)

namespace Server

variable {r : Request} {c : Catalog} {s : Scheme} {segment id : String} (ready : Bool)

/-- All schemes of a catalog are listed. -/
theorem respond_of_listing (h : r.Gets "/api/v1/schemes") :
    (Server.mk (.catalog c) ready).respond r = .json 200 (.arr (c.schemes.map Scheme.toJson)) :=
  h.respond (show Route.ofTarget? "/api/v1/schemes" = some .schemes by decide) (by decide) _

/-- A segment is answered with the scheme of the id that it encodes. -/
theorem respond_of_segment (hsegment : Route.IsSegment segment)
    (hdecode : percentDecode? segment = some id) (h : r.Gets ("/api/v1/schemes/" ++ segment))
    (server : Server) :
    server.respond r = answer Scheme.toJson (server.source.scheme id) := by
  rw [h.respond (Route.ofTarget?_segment hsegment) (by simp [Route.methods]), serve, scheme,
    hdecode]

end Server

/-! ## Reachability -/

/-- **Every scheme is reachable.**  The element that is listed for a scheme with an id is the answer
to the id as a segment of the path, however it is encoded, and so are all other segments that decode
to the id.  A segment that decodes to anything else is answered with the text that was not found. -/
theorem every_scheme_is_reachable (c : Catalog) (ready : Bool) :
    let server : Server := ⟨.catalog c, ready⟩
    (∀ r : Request, r.Gets "/api/v1/schemes" → ∃ elements,
      server.respond r = .json 200 (.arr elements) ∧ elements.length = c.schemes.length ∧
      ∀ (i : Nat) (s : Scheme), c.schemes[i]? = some s → s.id ≠ "" → ∃ v, elements[i]? = some v ∧
        (∀ (plain : UInt8 → Bool) (r : Request),
          r.Gets ("/api/v1/schemes/" ++ percentEncode plain s.id) →
          server.respond r = .json 200 v) ∧
        ∀ (segment : String) (r : Request), Route.IsSegment segment →
          percentDecode? segment = some s.id → r.Gets ("/api/v1/schemes/" ++ segment) →
          server.respond r = .json 200 v) ∧
    ∀ (segment t : String) (r : Request), Route.IsSegment segment →
      percentDecode? segment = some t → (∀ s ∈ c.schemes, s.id ≠ t) →
      r.Gets ("/api/v1/schemes/" ++ segment) →
      server.respond r = .error 404 ("scheme " ++ t ++ " not found") := by
  intro server
  refine ⟨fun r hr ↦ ⟨_, Server.respond_of_listing ready hr, List.length_map _, ?_⟩, ?_⟩
  · intro i s hi hid
    have hs : s ∈ c.schemes := List.mem_of_getElem? hi
    have hfound : ∀ (segment : String) (r : Request), Route.IsSegment segment →
        percentDecode? segment = some s.id → r.Gets ("/api/v1/schemes/" ++ segment) →
        server.respond r = .json 200 s.toJson := by
      intro segment r hsegment hdecode hr
      rw [Server.respond_of_segment hsegment hdecode hr, Source.scheme_of_mem hs]
      rfl
    refine ⟨s.toJson, by rw [List.getElem?_map, hi, Option.map_some], fun plain r hr ↦ ?_, hfound⟩
    exact hfound _ r (Route.isSegment_percentEncode hid plain)
      (Text.percentDecode?_percentEncode plain s.id) hr
  · intro segment t r hsegment hdecode hmissing hr
    rw [Server.respond_of_segment hsegment hdecode hr, Source.scheme_eq_error_iff.2 hmissing]
    rfl

/-- A request that reads a target. -/
def get (target : String) : Request := ⟨"GET", target, none, ""⟩

/-- An id of signs that mean something in a path is found, and what it looks like undecoded is
not. -/
theorem reachable_with_reserved_signs :
    let s : Scheme := { id := "a/b%20 + ü." }
    let server : Server := ⟨.catalog ⟨[s], by decide⟩, true⟩
    ∃ v, server.respond (get "/api/v1/schemes") = .json 200 (.arr [v]) ∧
      server.respond (get "/api/v1/schemes/a%2Fb%2520%20+%20%C3%BC.") = .json 200 v ∧
      server.respond (get "/api/v1/schemes/%61%2fb%2520%20%2B%20%c3%bc%2E") = .json 200 v ∧
      server.respond (get "/api/v1/schemes/a%2Fb%20") = .error 404 "scheme a/b  not found" := by
  intro s server
  have hdistinct : ([s].map Scheme.id).Nodup := by decide
  obtain ⟨hlisted, hmissing⟩ := every_scheme_is_reachable ⟨[s], hdistinct⟩ true
  obtain ⟨elements, hresponse, -, hfound⟩ := hlisted (get "/api/v1/schemes") ⟨rfl, rfl⟩
  obtain ⟨v, hv, hencoded, hsegments⟩ := hfound 0 s rfl (by decide)
  cases hresponse
  cases hv
  have hencode : percentEncode (fun _ ↦ true) s.id = "a%2Fb%2520%20+%20%C3%BC." := by decide +kernel
  refine ⟨s.toJson, rfl, hencoded (fun _ ↦ true) _ ⟨rfl, by rw [hencode]; rfl⟩, ?_, ?_⟩
  · exact hsegments "%61%2fb%2520%20%2B%20%c3%bc%2E" _ (by decide) (by decide +kernel)
      ⟨rfl, rfl⟩
  · exact hmissing "a%2Fb%20" "a/b " _ (by decide) (by decide +kernel)
      (List.forall_mem_singleton.2 (by decide)) ⟨rfl, rfl⟩

end Welfare.Http
