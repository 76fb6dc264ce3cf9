import Welfare.Http.Api
import Welfare.Proofs.Catalog.Checks
import Welfare.Proofs.Json.ByField
import Welfare.Proofs.Json.Text
import Welfare.Proofs.Scheme.Codec

/-!
# Posted bodies and their answers

What is posted to the service says which schemes count: those that come with a screening, and those
of the source otherwise.  An answer therefore depends on the source only where the body leaves the
schemes to it, and an error says that the source failed or that it lacks the scheme asked for.

* `BatchRequest.decode_of_schemes`, `BatchRequest.decode_of_null`, `CheckRequest.decode_of_members` —
  what is read from a body.
* `Request.Posts` — a request with a body for one of the resources.
* `Server.respond_of_batch`, `Server.respond_of_check` — it is answered by what its body asks for.
* `posts_choose_their_schemes` — which schemes an answer is about, and what each status says.
-/

set_option autoImplicit false

namespace Welfare

open Json (Document Shape Slot Spells)
open Json.Document (ofJson)

namespace Http

/-! ## Bodies -/

/-- A body that has the profile, whose members may come in any order. -/
def HasProfile (v : Json) (p : Profile) : Prop :=
  (v.get? "profile").map Json.sorted = some p.record

variable {v S : Json} {p : Profile} {schemes : List Scheme} {id : String}

namespace BatchRequest

theorem orderFree_shape : shape.OrderFree :=
  .of_pair rfl rfl (fun _ _ ↦ rfl) (fun _ _ ↦ rfl) (fun _ _ _ ↦ rfl) Json.orderFree_asJson
    (Scheme.orderFree_decodeList .text).optional

theorem orderFree_decode : Json.OrderFree decode :=
  (orderFree_shape.readRecord .text {}).bind _

/-- Besides the profile only the schemes of a body matter, and whether they are missing or `null`
does not. -/
theorem toOption_decode (hv : v.DistinctKeys) (hp : HasProfile v p) :
    (decode (ofJson v)).toOption =
      ((ofJson ((v.get? "schemes").getD .null)).optional (Scheme.decodeList .text)).toOption.map
        fun schemes ↦ ⟨p, schemes⟩ := by
  cases v with
  | obj ms =>
    rw [← Json.map_join_field?, Option.map_map, Option.map_eq_bind, decode, Json.toOption_bind,
      Shape.toOption_readRecord_obj, Option.bind_map,
      orderFree_shape.toOption_readMembers_skim {} rfl (by decide) hv.1]
    refine Eq.trans (Slot.bind_foldlM_cons (fun profile ↦ ({ profile } : Draft)) rfl rfl
      fun _ ↦ rfl) ?_
    rw [Json.field?_of_ok Document.asJson_ofJson, hp]
    exact Slot.bind_foldlM_cons (fun schemes ↦ ({ profile := some p.record, schemes } : Draft))
      rfl rfl fun _ ↦ rfl
  | _ => cases hp

/-- A body with schemes asks for these. -/
theorem decode_of_schemes (hv : v.DistinctKeys) (hp : HasProfile v p)
    (hS : v.get? "schemes" = some S) (h : Scheme.decodeList .text (ofJson S) = .ok schemes) :
    decode (ofJson v) = .ok ⟨p, some schemes⟩ := by
  have hne : S ≠ .null := by
    rintro rfl
    cases h
  rw [← Json.toOption_eq_some, toOption_decode hv hp, hS, Option.getD_some,
    Document.optional_ofJson hne h]
  rfl

/-- A body without schemes asks for those of the service. -/
theorem decode_of_null (hv : v.DistinctKeys) (hp : HasProfile v p)
    (hS : (v.get? "schemes").getD .null = .null) :
    decode (ofJson v) = .ok ⟨p, none⟩ := by
  rw [← Json.toOption_eq_some, toOption_decode hv hp, hS]
  rfl

end BatchRequest

namespace CheckRequest

theorem orderFree_shape : shape.OrderFree :=
  .of_pair rfl rfl (fun _ _ ↦ rfl) (fun _ _ ↦ rfl) (fun _ _ _ ↦ rfl) Json.orderFree_asJson
    Json.orderFree_asString

theorem orderFree_decode : Json.OrderFree decode :=
  (orderFree_shape.readRecord .text {}).bind _

/-- A body with a profile and a text asks for the scheme with that id. -/
theorem decode_of_members (hv : v.DistinctKeys) (hp : HasProfile v p)
    (hid : v.get? "scheme_id" = some (.str id)) : decode (ofJson v) = .ok ⟨p, id⟩ := by
  cases v with
  | obj ms =>
    rw [← Json.toOption_eq_some, decode, Json.toOption_bind, Shape.toOption_readRecord_obj,
      Option.bind_map, orderFree_shape.toOption_readMembers_skim {} rfl (by decide) hv.1]
    refine Eq.trans (Slot.bind_foldlM_cons (fun profile ↦ ({ profile } : Draft)) rfl rfl
      fun _ ↦ rfl) ?_
    rw [Json.field?_of_ok Document.asJson_ofJson, hp]
    refine Eq.trans (Slot.bind_foldlM_cons
      (fun schemeId ↦ ({ profile := some p.record, schemeId } : Draft)) rfl rfl fun _ ↦ rfl) ?_
    rw [Json.field?_of_some hid]
    rfl
  | _ => cases hp

end CheckRequest

/-! ## Requests -/

/-- A request that posts a value to a resource, as JSON. -/
structure Request.Posts (r : Request) (route : Route) (v : Json) : Prop where
  method : r.method = "POST"
  target : Route.ofTarget? r.target = some route
  contentType : (r.contentType.bind MediaType.parse?).any MediaType.isJson = true
  body : Spells r.body v
  distinct : v.DistinctKeys

namespace Request.Posts

variable {r : Request} {route : Route}

theorem respond (h : r.Posts route v) (hallowed : "POST" ∈ route.methods) (s : Server) :
    s.respond r = s.serve route r :=
  Server.respond_of_mem_methods h.target (h.method ▸ hallowed) (by rw [h.method]; decide)

/-- A body is handled as what is read from its value. -/
theorem withBody {α : Type} {decode : Document → Json.Decoded α} {handle : α → Response} {a : α}
    (h : r.Posts route v) (hfree : Json.OrderFree decode) (ha : decode (ofJson v) = .ok a) :
    withBody decode handle r = handle a := by
  rw [Http.withBody, if_pos h.contentType, h.body.decodeFront hfree h.distinct ha]

end Request.Posts

namespace Server

variable {r : Request}

/-- A body with schemes is answered without the source. -/
theorem respond_of_schemes (h : r.Posts .batch v) (hp : HasProfile v p)
    (hS : v.get? "schemes" = some S) (hread : Scheme.decodeList .text (ofJson S) = .ok schemes)
    (s : Server) : s.respond r = .json 200 (p.screen schemes).toJson := by
  rw [h.respond (by decide), serve, h.withBody BatchRequest.orderFree_decode
    (BatchRequest.decode_of_schemes h.distinct hp hS hread)]
  rfl

/-- A body without schemes is answered with the schemes of the source. -/
theorem respond_of_batch (h : r.Posts .batch v) (hp : HasProfile v p)
    (hS : (v.get? "schemes").getD .null = .null) (s : Server) :
    s.respond r = answer Screening.toJson (s.source.screenAll p) := by
  rw [h.respond (by decide), serve, h.withBody BatchRequest.orderFree_decode
    (BatchRequest.decode_of_null h.distinct hp hS)]
  rfl

/-- A body with an id is answered with the scheme of the source. -/
theorem respond_of_check (h : r.Posts .check v) (hp : HasProfile v p)
    (hid : v.get? "scheme_id" = some (.str id)) (s : Server) :
    s.respond r = answer Assessment.toJson (s.source.check p id) := by
  rw [h.respond (by decide), serve, h.withBody CheckRequest.orderFree_decode
    (CheckRequest.decode_of_members h.distinct hp hid)]
  rfl

end Server

/-! ## What a source answers -/

section

variable {α : Type} {write : α → Json} {answered : Except ServiceError α}

theorem status_answer_eq_404_iff :
    (answer write answered).status = 404 ↔ ∃ id, answered = .error (.schemeNotFound id) := by
  rcases answered with (id | e) | a
  · simp [answer, Response.error, Response.json, errorStatus]
  · simp [answer, Response.error, Response.json, errorStatus]
  · simp [answer, Response.json]

theorem status_answer_eq_500_iff :
    (answer write answered).status = 500 ↔ ∃ e, answered = .error (.catalog e) := by
  rcases answered with (id | e) | a
  · simp [answer, Response.error, Response.json, errorStatus]
  · simp [answer, Response.error, Response.json, errorStatus]
  · simp [answer, Response.json]

end

end Http

namespace Source

variable {s : Source} {p : Profile} {id : String} {schemes : List Scheme} {e : CatalogError}

/-- A source that lists its schemes is the catalog of these. -/
theorem exists_catalog_of_list (h : s.list = .ok schemes) :
    ∃ c : Catalog, s = .catalog c ∧ c.schemes = schemes := by
  cases s with
  | catalog c =>
    cases h
    exact ⟨c, rfl, rfl⟩
  | offline reason => cases h

theorem screenAll_eq_catalog_iff : s.screenAll p = .error (.catalog e) ↔ s.list = .error e := by
  cases s with
  | catalog c => exact iff_of_false nofun nofun
  | offline reason => simp [screenAll, Source.schemes, list, Except.mapError, Except.map]

theorem check_eq_catalog_iff : s.check p id = .error (.catalog e) ↔ s.list = .error e := by
  cases s with
  | catalog c =>
    have hcheck : (catalog c).check p id ≠ .error (.catalog e) := by
      rw [check, scheme, fetch]
      intro h
      cases hfetch : c.fetch id with
      | none =>
        rw [hfetch] at h
        cases h
      | some t =>
        rw [hfetch] at h
        cases h
    exact iff_of_false hcheck (by simp [list])
  | offline reason => simp [check, scheme, fetch, list, Except.map]

/-- A scheme is missed exactly where the source answers without it. -/
theorem check_eq_schemeNotFound_iff {id' : String} :
    s.check p id = .error (.schemeNotFound id') ↔
      id' = id ∧ ∃ schemes, s.list = .ok schemes ∧ ∀ t ∈ schemes, t.id ≠ id := by
  cases s with
  | catalog c =>
    have hlist : (∃ schemes, (catalog c).list = .ok schemes ∧ ∀ t ∈ schemes, t.id ≠ id) ↔
        c.fetch id = none := by
      simp [list, Catalog.fetch_eq_none_iff]
    rw [hlist, check, scheme, fetch]
    cases c.fetch id with
    | none => simp [Except.map, eq_comm]
    | some t => simp [Except.map]
  | offline reason => simp [check, scheme, fetch, list, Except.map]

end Source

namespace Http

/-! ## Which schemes count -/

/-- **What is posted says which schemes count.**  A profile that comes with schemes is screened
against these, whatever they are: the source is not asked, so that all services give one answer.
Without schemes, or with `null`, it is screened against all schemes of the source.  A check is about
the scheme that has the id in the source.  The status is 500 exactly when the source fails, with its
message, and 404 exactly when it answers but has no such scheme. -/
theorem posts_choose_their_schemes :
    (∀ (r : Request) (v S : Json) (p : Profile) (schemes : List Scheme), r.Posts .batch v →
      HasProfile v p → v.get? "schemes" = some S →
      Scheme.decodeList .text (ofJson S) = .ok schemes →
      (∀ s : Server, s.respond r = .json 200 (p.screen schemes).toJson) ∧
        ∀ s t : Server, s.respond r = t.respond r) ∧
    (∀ (r : Request) (v : Json) (p : Profile) (s : Server), r.Posts .batch v → HasProfile v p →
      (v.get? "schemes").getD .null = .null →
      s.respond r = answer Screening.toJson (s.source.screenAll p) ∧
        (∀ schemes, s.source.list = .ok schemes →
          s.respond r = .json 200 (p.screen schemes).toJson) ∧
        (∀ e, s.source.list = .error e → s.respond r = .error 500 e.message) ∧
        ((s.respond r).status = 500 ↔ ∃ e, s.source.list = .error e)) ∧
    (∀ (r : Request) (v : Json) (p : Profile) (id : String) (s : Server), r.Posts .check v →
      HasProfile v p → v.get? "scheme_id" = some (.str id) →
      (∀ schemes, s.source.list = .ok schemes →
        (∀ t ∈ schemes, t.id = id → s.respond r = .json 200 (t.assess p).toJson) ∧
        ((∀ t ∈ schemes, t.id ≠ id) →
          s.respond r = .error 404 ("scheme " ++ id ++ " not found"))) ∧
        (∀ e, s.source.list = .error e → s.respond r = .error 500 e.message) ∧
        ((s.respond r).status = 404 ↔
          ∃ schemes, s.source.list = .ok schemes ∧ ∀ t ∈ schemes, t.id ≠ id) ∧
        ((s.respond r).status = 500 ↔ ∃ e, s.source.list = .error e)) := by
  refine ⟨?supplied, ?all, ?one⟩
  case supplied =>
    intro r v S p schemes h hp hS hread
    have hanswer := Server.respond_of_schemes h hp hS hread
    exact ⟨hanswer, fun s t ↦ (hanswer s).trans (hanswer t).symm⟩
  case all =>
    intro r v p s h hp hS
    rw [Server.respond_of_batch h hp hS s]
    refine ⟨rfl, fun schemes hlist ↦ ?_, fun e hlist ↦ ?_, ?_⟩
    · obtain ⟨c, hsource, rfl⟩ := Source.exists_catalog_of_list hlist
      rw [hsource]
      rfl
    · rw [Source.screenAll_eq_catalog_iff.2 hlist]
      rfl
    · simp only [status_answer_eq_500_iff, Source.screenAll_eq_catalog_iff]
  case one =>
    intro r v p id s h hp hid
    rw [Server.respond_of_check h hp hid s]
    refine ⟨fun schemes hlist ↦ ⟨?_, fun hmissing ↦ ?_⟩, fun e hlist ↦ ?_, ?_, ?_⟩
    · rintro t ht rfl
      obtain ⟨c, hsource, rfl⟩ := Source.exists_catalog_of_list hlist
      rw [hsource, Source.check_of_mem p ht]
      rfl
    · rw [Source.check_eq_schemeNotFound_iff.2 ⟨rfl, schemes, hlist, hmissing⟩]
      rfl
    · rw [Source.check_eq_catalog_iff.2 hlist]
      rfl
    · simp only [status_answer_eq_404_iff, Source.check_eq_schemeNotFound_iff, exists_eq_left]
    · simp only [status_answer_eq_500_iff, Source.check_eq_catalog_iff]

/-- A value that is posted as it is printed. -/
def post (target : String) (v : Json) : Request where
  method := "POST"
  target := target
  contentType := some "application/json"
  body := v.compact

theorem posts_post {target : String} {route : Route} (htarget : Route.ofTarget? target = some route)
    {v : Json} (hv : v.SortedKeys) (hread : Document.ofText v.compact = (ofJson v, some [])) :
    (post target v).Posts route v where
  method := rfl
  target := htarget
  contentType := by
    show ((some "application/json").bind MediaType.parse?).any MediaType.isJson = true
    decide +kernel
  body := .of_ofText hv.distinctKeys hread
  distinct := hv.distinctKeys

/-- With one scheme twice a profile is screened even where the source fails, without schemes it is
not; a check of a catalog finds its scheme, and no other. -/
theorem posts_to_a_failing_source_and_a_catalog :
    let listed : Scheme := { id := "S1" }
    let p : Profile := ⟨.str "anybody"⟩
    let twice : Json := .arr [.obj [("scheme_id", .str "S1")], .obj [("scheme_id", .str "S1")]]
    let screening (schemes : Json) : Request := post "/api/v1/eligibility/batch"
      (.obj [("profile", p.record), ("schemes", schemes)])
    let check (id : String) : Request := post "/api/v1/eligibility/check"
      (.obj [("profile", p.record), ("scheme_id", .str id)])
    let failing : Server := ⟨.offline "no database", true⟩
    let running : Server := ⟨.catalog ⟨[listed], by decide⟩, true⟩
    failing.respond (screening twice) = .json 200 (p.screen [listed, listed]).toJson ∧
      running.respond (screening twice) = failing.respond (screening twice) ∧
      failing.respond (screening .null) = .error 500 "catalog unavailable: no database" ∧
      running.respond (screening .null) = .json 200 (p.screen [listed]).toJson ∧
      running.respond (check "S1") = .json 200 (listed.assess p).toJson ∧
      running.respond (check "S2") = .error 404 "scheme S2 not found" := by
  intro listed p twice screening check failing running
  obtain ⟨hsupplied, hall, hone⟩ := posts_choose_their_schemes
  have hbatch : ∀ schemes ∈ [twice, .null], (screening schemes).Posts .batch
      (.obj [("profile", p.record), ("schemes", schemes)]) := by
    intro schemes hmem
    rcases List.mem_pair.1 hmem with rfl | rfl
    · exact posts_post (by decide) (by decide) (by cbv)
    · exact posts_post (by decide) (by decide) (by cbv)
  have hcheck : ∀ id ∈ ["S1", "S2"], (check id).Posts .check
      (.obj [("profile", p.record), ("scheme_id", .str id)]) := by
    intro id hmem
    rcases List.mem_pair.1 hmem with rfl | rfl
    · exact posts_post (by decide) (by decide) (by cbv)
    · exact posts_post (by decide) (by decide) (by cbv)
  obtain ⟨hscreened, hsame⟩ := hsupplied _ _ twice p [listed, listed] (hbatch _ (by simp)) rfl rfl rfl
  refine ⟨hscreened failing, hsame running failing, ?_, ?_, ?_, ?_⟩
  · exact (hall _ _ p failing (hbatch .null (by simp)) rfl rfl).2.2.1 _ rfl
  · exact (hall _ _ p running (hbatch .null (by simp)) rfl rfl).2.1 _ rfl
  · exact ((hone _ _ p "S1" running (hcheck "S1" (by simp)) rfl rfl).1 _ rfl).1 listed (by simp) rfl
  · exact ((hone _ _ p "S2" running (hcheck "S2" (by simp)) rfl rfl).1 _ rfl).2 (by decide)

end Http

end Welfare
