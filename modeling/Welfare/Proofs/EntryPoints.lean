import Welfare.Proofs.Catalog.Loading
import Welfare.Proofs.Command.Evaluation
import Welfare.Proofs.Http.Posts
import Welfare.Proofs.Screening.Codec

/-!
# All entry points agree

A profile can be screened in memory, through a catalog, over HTTP and from the command line.  These
ways load, write and read schemes and results by different code, and they all come to the screening
of the schemes that were read in the first place.

* `Catalog.ofText_of_spells` — the catalog of a text.
* `Server.respond_of_profile`, `Server.respond_of_candidates` — what a posted profile is answered.
* `World.evaluate_of_spells` — what the command prints.
* `Screening.report_without` — a report is a screening and the time it was made.
* `entry_points_agree` — all of them give one screening.
-/

set_option autoImplicit false

namespace Welfare

open Json (Decoded Document Origin Spells)
open Json.Document (ofJson)

/-! ## Catalogs -/

/-- The catalog of a text is that of the schemes it lists. -/
theorem Catalog.ofText_of_spells {text : String} {v : Json} {schemes : List Scheme}
    (htext : Spells text v) (hv : v.DistinctKeys)
    (h : Scheme.decodeList .text (ofJson v) = .ok schemes) :
    Catalog.ofText text = Catalog.ofSchemes schemes := by
  have hread := htext.decodeText (Scheme.orderFree_decodeList .text) hv h
  exact ofText_of_lists (decodeText_decodeList_eq_ok_iff.1 hread)

/-! ## Requests -/

namespace Http

/-- A request that posts a JSON body to be screened. -/
structure Request.PostsBatch (r : Request) : Prop where
  method : r.method = "POST"
  target : Route.ofTarget? r.target = some .batch
  contentType : (r.contentType.bind MediaType.parse?).any MediaType.isJson = true

/-- A request for all schemes. -/
structure Request.GetsSchemes (r : Request) : Prop where
  method : r.method = "GET"
  target : Route.ofTarget? r.target = some .schemes

/-- A body of which the text is known is posted. -/
theorem Request.PostsBatch.posts {r : Request} (h : r.PostsBatch) {v : Json} (hv : v.DistinctKeys)
    (hbody : Spells r.body v) : r.Posts .batch v :=
  ⟨h.method, h.target, h.contentType, hbody, hv⟩

theorem hasProfile_of_get? {v : Json} {p : Profile} (hp : p.record.SortedKeys)
    (h : v.get? "profile" = some p.record) : HasProfile v p := by
  rw [HasProfile, h, Option.map_some, hp.sorted_eq]

namespace Server

variable {s : Server} {r : Request}

/-- All schemes are answered as a list. -/
theorem respond_of_getsSchemes (h : r.GetsSchemes) {c : Catalog} (hs : s.source = .catalog c) :
    s.respond r = .json 200 (.arr (c.schemes.map Scheme.toJson)) := by
  have hallowed : r.method ∈ Route.schemes.methods := by
    rw [h.method]
    decide
  have hhead : r.method ≠ "HEAD" := by
    rw [h.method]
    decide
  rw [respond_of_mem_methods h.target hallowed hhead, serve, hs]
  rfl

variable {c : Catalog} {p : Profile}

/-- A posted profile is screened against the schemes of the catalog. -/
theorem respond_of_profile (h : r.PostsBatch) (hs : s.source = .catalog c)
    (hp : p.record.SortedKeys) (hbody : Spells r.body (.obj [("profile", p.record)])) :
    s.respond r = .json 200 (p.screen c.schemes).toJson := by
  have hdistinct : (Json.obj [("profile", p.record)]).DistinctKeys :=
    ⟨List.pairwise_singleton _ _, hp.distinctKeys, trivial⟩
  rw [respond_of_batch (h.posts hdistinct hbody) (hasProfile_of_get? hp rfl) rfl, hs]
  rfl

/-- A profile that is posted with schemes is screened against these. -/
theorem respond_of_candidates (h : r.PostsBatch) (hp : p.record.SortedKeys) {schemes : List Scheme}
    (hschemes : ∀ s ∈ schemes, s.Storable) (hbody : Spells r.body
      (.obj [("profile", p.record), ("schemes", .arr (schemes.map Scheme.toJson))])) :
    s.respond r = .json 200 (p.screen schemes).toJson := by
  have hkeys : ["profile", "schemes"].Nodup := by decide
  have hlist : (Json.arr (schemes.map Scheme.toJson)).DistinctKeys :=
    Json.distinctItems_map fun s hs ↦ Scheme.distinctKeys_toJson (hschemes s hs)
  have hdistinct : (Json.obj [("profile", p.record),
      ("schemes", .arr (schemes.map Scheme.toJson))]).DistinctKeys :=
    ⟨hkeys, hp.distinctKeys, hlist, trivial⟩
  exact respond_of_schemes (h.posts hdistinct hbody) (hasProfile_of_get? hp rfl) rfl
    (Document.listOf_ofJson fun s hs ↦ Scheme.decode_toJson (hschemes s hs) .text) s

end Server

end Http

/-! ## The command line -/

namespace World

variable {w : World} {p : Profile}

theorem holds_of_spells {α : Type} {decode : Document → Decoded α} {a : α} {path text : String}
    {v : Json} (hentry : w.entry path = .ok (.file text)) (htext : Spells text v)
    (hfree : Json.OrderFree decode) (hv : v.DistinctKeys) (ha : decode (ofJson v) = .ok a) :
    w.Holds decode path a :=
  ⟨text, hentry, htext.decodeText hfree hv ha⟩

/-- What is printed about the profile and the schemes of two files. -/
theorem evaluate_of_spells {o : EvaluateOptions} (hruleSets : o.ruleSets = none)
    {profileText schemesText : String} {v : Json} {schemes : List Scheme}
    (hprofile : w.entry o.profile = .ok (.file profileText)) (hp : p.record.SortedKeys)
    (hprofileText : Spells profileText p.record)
    (hschemes : w.entry o.schemes = .ok (.file schemesText)) (hv : v.DistinctKeys)
    (hschemesText : Spells schemesText v) (h : Scheme.decodeList .text (ofJson v) = .ok schemes) :
    w.evaluate o = .ok ((if o.pretty then ((p.screen schemes).report w.now).pretty
      else ((p.screen schemes).report w.now).compact) ++ "\n") := by
  have hrecord : (ofJson p.record).asJson = .ok p.record :=
    (Document.asJson_ofJson _).trans (congrArg Except.ok hp.sorted_eq)
  have hsupplies : w.Supplies o p.record schemes [] := {
    profile := holds_of_spells hprofile hprofileText Json.orderFree_asJson hp.distinctKeys hrecord
    schemes := holds_of_spells hschemes hschemesText (Scheme.orderFree_decodeList .text) hv h
    ruleSets := by rw [hruleSets] }
  rw [evaluate_of_supplies hsupplies, attachRules_nil]
  rfl

end World

namespace Screening

/-- The key of the time in a report. -/
abbrev timeKey : String := "evaluated_at"

theorem timeKey_notMem (s : Screening) : timeKey ∉ s.members.map Prod.fst :=
  fun h ↦ absurd (s.sublist_members.subset h) (by decide)

/-- A report without its time is the screening. -/
theorem report_without (s : Screening) (now : String) :
    (s.report now).without timeKey = s.toJson := by
  have hnone : ∀ m ∈ s.members, (m.1 != timeKey) = true := fun m hm ↦
    bne_iff_ne.2 fun heq ↦ s.timeKey_notMem (heq ▸ List.mem_map_of_mem hm)
  show Json.obj (List.filter _ _) = .obj s.members
  rw [List.filter_cons_of_neg (by simp), List.filter_eq_self.2 hnone]

theorem distinctKeys_report (s : Screening) (now : String) : (s.report now).DistinctKeys :=
  ⟨List.nodup_cons.2 ⟨s.timeKey_notMem, s.distinctKeys_toJson.1⟩, trivial, s.distinctKeys_toJson.2⟩

/-- The screening is read from a report that was read, without its time. -/
theorem decode_report {s : Screening} (h : s.Storable) (now : String) (origin : Origin) :
    decode origin (ofJson ((s.report now).sorted.without timeKey)) = .ok s := by
  refine (readsBack h origin).decode_eq _ ?_
  rw [← s.report_without now]
  exact Json.isOrderingOf_without timeKey (s.distinctKeys_report now)

end Screening

/-! ## Agreement -/

variable {S : Json} {schemes : List Scheme} {p : Profile}

/-- **All entry points agree.**  Let `S` list schemes with different ids, and let a profile be
screened against them with finite scores.  Then the screening is the answer

* of the catalog that is loaded from the schemes or from a text of `S`;
* to a posted profile, as a value from which the screening is read back;
* to a posted profile with the schemes that the service itself lists;
* of the command line, whose report without its time is a value from which the screening is read
  back. -/
theorem entry_points_agree (hS : S.SortedKeys)
    (hschemes : Scheme.decodeList .text (ofJson S) = .ok schemes)
    (hids : (schemes.map Scheme.id).Nodup) (hp : p.record.SortedKeys)
    (hfinite : ∀ a ∈ (p.screen schemes).eligible ++ (p.screen schemes).ineligible,
      a.score.isFinite = true) (origin : Origin) :
    ∃ c : Catalog, c.schemes = schemes ∧
      Catalog.ofSchemes schemes = .ok c ∧
      (∀ text, Spells text S → Catalog.ofText text = .ok c) ∧
      (Source.catalog c).screenAll p = .ok (p.screen schemes) ∧
      ReadsBack (Screening.decode origin) Screening.toJson (p.screen schemes) ∧
      (∀ (ready : Bool) (r : Http.Request), r.PostsBatch →
        Spells r.body (.obj [("profile", p.record)]) →
        (Http.Server.mk (.catalog c) ready).respond r = .json 200 (p.screen schemes).toJson) ∧
      (∀ (ready : Bool) (r : Http.Request), r.GetsSchemes → ∃ listing,
        (Http.Server.mk (.catalog c) ready).respond r = .json 200 listing ∧
        ∀ r : Http.Request, r.PostsBatch →
          Spells r.body (.obj [("profile", p.record), ("schemes", listing)]) →
          (Http.Server.mk (.catalog c) ready).respond r = .json 200 (p.screen schemes).toJson) ∧
      (∀ (w : World) args o profileText schemesText, Command.parse? args = some (.evaluate o) →
        o.ruleSets = none →
        w.entry o.profile = .ok (.file profileText) → Spells profileText p.record →
        w.entry o.schemes = .ok (.file schemesText) → Spells schemesText S →
        let report := (p.screen schemes).report w.now
        let output := (if o.pretty then report.pretty else report.compact) ++ "\n"
        w.runArguments args = .done (.print output) ∧
          (Spells output report → ∃ v, Json.parse output = .ok v ∧
            Screening.decode origin (ofJson (v.without "evaluated_at")) =
              .ok (p.screen schemes))) := by
  have hassessed : ∀ s ∈ schemes, (s.assess p).score.isFinite = true := fun s hs ↦ by
    have hmem : s.assess p ∈ schemes.map (·.assess p) := List.mem_map_of_mem hs
    refine hfinite _ (List.mem_append.2 ?_)
    cases heligible : (s.assess p).eligible with
    | true => exact .inl (List.mem_filter.2 ⟨hmem, heligible⟩)
    | false => exact .inr (List.mem_filter.2 ⟨hmem, by rw [heligible]; rfl⟩)
  have hstorable : (p.screen schemes).Storable := Profile.storable_screen hassessed
  have hlisted : ∀ s ∈ schemes, s.Storable := fun s hs ↦ by
    obtain ⟨d, hd⟩ := Document.exists_of_mem_listOf hschemes hs
    exact Scheme.storable_of_decode hd
  refine ⟨⟨schemes, hids⟩, rfl, Catalog.ofSchemes_of_nodup hids, fun text htext ↦ ?_, rfl,
    Screening.readsBack hstorable origin, fun ready r hr hbody ↦ ?_, fun ready r hr ↦ ?_, ?_⟩
  · rw [Catalog.ofText_of_spells htext hS.distinctKeys hschemes, Catalog.ofSchemes_of_nodup hids]
  · exact Http.Server.respond_of_profile (c := ⟨schemes, hids⟩) hr rfl hp hbody
  · refine ⟨_, Http.Server.respond_of_getsSchemes hr rfl, fun r hr hbody ↦ ?_⟩
    exact Http.Server.respond_of_candidates hr hp hlisted hbody
  · intro w args o profileText schemesText hargs hruleSets hprofile hprofileText hfile hfileText
    refine ⟨?_, fun houtput ↦ ?_⟩
    · exact World.runArguments_of_evaluate hargs (World.evaluate_of_spells hruleSets hprofile hp
        hprofileText hfile hS.distinctKeys hfileText hschemes)
    · have hdistinct := (p.screen schemes).distinctKeys_report w.now
      exact ⟨_, houtput.parse hdistinct, Screening.decode_report hstorable w.now origin⟩

/-- A catalog of one scheme, which asks for nothing. -/
def openCatalog : Json := .arr [.obj [
  ("eligibility_criteria", .obj [("engine_rules", .obj [])]), ("scheme_id", .str "S1")]]

/-- A citizen of whom only the gender is known. -/
def citizen : Profile := ⟨.obj [("gender", .str "female")]⟩

/-- The citizen asks for all schemes of the service. -/
def citizenRequest : Http.Request where
  method := "POST"
  target := "/api/v1/eligibility/batch"
  contentType := some "application/json"
  body := (Json.obj [("profile", citizen.record)]).compact

/-- The files of the citizen. -/
def citizenWorld : World where
  libraries := .plain
  entry path := .ok (.file (if path = "profile.json" then citizen.record.compact
    else openCatalog.compact))
  environment := .ofBindings []
  now := "today"

/-- Asking for nothing, the scheme is open to the citizen, whoever is asked. -/
theorem entry_points_agree_on_openCatalog :
    ∃ schemes c, Scheme.decodeList .text (ofJson openCatalog) = .ok schemes ∧
      (citizen.screen schemes).summary = "Citizen is eligible for 1 schemes." ∧
      Catalog.ofText openCatalog.compact = .ok c ∧
      (Source.catalog c).screenAll citizen = .ok (citizen.screen schemes) ∧
      (Http.Server.mk (.catalog c) true).respond citizenRequest =
        .json 200 (citizen.screen schemes).toJson ∧
      citizenWorld.runArguments
        ["evaluate", "--profile", "profile.json", "--schemes", "schemes.json"] =
          .done (.print (((citizen.screen schemes).report "today").compact ++ "\n")) := by
  have hS : openCatalog.SortedKeys := by decide
  have hp : citizen.record.SortedKeys := by decide
  have hcatalog : Spells openCatalog.compact openCatalog := .of_ofText hS.distinctKeys (by cbv)
  have hprofile : Spells citizen.record.compact citizen.record :=
    .of_ofText hp.distinctKeys (by cbv)
  have hbody : Spells citizenRequest.body (.obj [("profile", citizen.record)]) :=
    .of_ofText ⟨by decide, hp.distinctKeys, trivial⟩ (by cbv)
  have hpost : citizenRequest.PostsBatch := ⟨rfl, by decide, by decide +kernel⟩
  obtain ⟨c, -, -, htext, hall, -, hposted, -, hprinted⟩ :=
    entry_points_agree hS rfl (by decide) hp (by decide +kernel) .text
  refine ⟨_, c, rfl, by decide +kernel, htext _ hcatalog, hall, hposted true _ hpost hbody, ?_⟩
  exact (hprinted _ _ ⟨"profile.json", "schemes.json", none, false⟩ _ _ (by decide) rfl rfl
    hprofile rfl hcatalog).1

end Welfare
