import Welfare.Briefing
import Welfare.Proofs.Catalog.Checks
import Welfare.Proofs.Json.Accepts
import Welfare.Proofs.Screening.Codec

/-!
# Which results survive their JSON form

A score that is infinite or NaN is written as `null`, and `null` is not read as a number.  So a
result is read back exactly when its numbers are finite, and what is read is the result itself.

* `SurvivesWhen` — a thing is read back from its JSON form exactly under a condition.
* `Assessment.storable_of_accepts`, `Screening.storable_of_accepts` — only finite numbers are read.
* `Assessment.survivesWhen`, `Screening.survivesWhen` — the conditions for results.
* `results_survive_exactly_when_finite` — the results of the engine, and what is said about them
  after they were read back.
-/

set_option autoImplicit false

namespace Welfare

open Json (Accepts Decoded Document Origin Shape Spells)
open Json.Document (ofJson)

/-! ## JSON forms -/

section

variable {α : Type} {decode : Document → Decoded α} {encode : α → Json} {a : α} {condition : Prop}

/-- From the value that is written for `a`, in any order of its members, and from every text of this
value `a` is read under the condition, and otherwise nothing. -/
structure SurvivesWhen (decode : Document → Decoded α) (encode : α → Json) (a : α)
    (condition : Prop) : Prop where
  value : ∀ e : Json, e.IsOrderingOf (encode a) → ∀ b, decode (ofJson e) = .ok b ↔ condition ∧ b = a
  text : ∀ text, Spells text (encode a) → ∀ b,
    Json.decodeText decode text = .ok b ↔ condition ∧ b = a

/-- It is enough to look at the value as it is written: what can be read of it meets the condition,
and under the condition `a` is read. -/
theorem SurvivesWhen.of_orderFree (hfree : Json.OrderFree decode)
    (hdistinct : (encode a).DistinctKeys) (haccepts : Accepts decode (encode a) → condition)
    (hback : condition → decode (ofJson (encode a)) = .ok a) :
    SurvivesWhen decode encode a condition := by
  have hwritten : ∀ b, decode (ofJson (encode a)) = .ok b ↔ condition ∧ b = a := by
    intro b
    constructor
    · intro hb
      have hcondition : condition := haccepts ⟨b, hb⟩
      refine ⟨hcondition, ?_⟩
      rw [hback hcondition] at hb
      exact (Except.ok.inj hb).symm
    · rintro ⟨hcondition, rfl⟩
      exact hback hcondition
  exact {
    value := fun _ he b ↦ (hfree.eq_ok_iff he hdistinct).trans (hwritten b)
    text := fun _ htext b ↦ (htext.decodeText_eq_ok_iff hfree hdistinct).trans (hwritten b) }

end

/-! ## Numbers -/

/-- A double that is not finite is written as `null`, which is no number. -/
theorem Json.isFinite_of_accepts {x : Float} (h : Accepts Document.asFloat (.ofFloat x)) :
    x.isFinite = true := by
  by_contra hx
  obtain ⟨y, hy⟩ := h
  rw [Json.ofFloat, Json.Number.ofFloat?_eq_none (Bool.eq_false_iff.2 hx)] at hy
  cases hy

/-! ## Results -/

namespace Assessment

variable {a : Assessment} {origin : Origin}

/-- What can be read was written for finite numbers. -/
theorem storable_of_accepts (h : Accepts (decode origin) a.toJson) : a.Storable := by
  obtain ⟨b, hb⟩ := h
  obtain ⟨record, hread, -⟩ := Json.Decoded.bind_eq_ok.1 hb
  obtain ⟨draft, hmembers⟩ := Shape.exists_readMembers_of_readRecord hread
  have hscore : ("score", Json.ofFloat a.score) ∈ a.toJson.members := by
    simp [toJson, Json.members]
  have hboost : ("priority_boost", Json.ofFloat a.priorityBoost) ∈ a.toJson.members := by
    simp [toJson, Json.members]
  exact {
    score := Json.isFinite_of_accepts (Shape.accepts_of_mem rfl hmembers hscore)
    boost := Json.isFinite_of_accepts (Shape.accepts_of_mem rfl hmembers hboost) }

theorem survivesWhen (a : Assessment) (origin : Origin) :
    SurvivesWhen (decode origin) toJson a
      (a.score.isFinite = true ∧ a.priorityBoost.isFinite = true) := by
  refine .of_orderFree (orderFree_decode origin) a.distinctKeys_toJson ?_ ?_
  · intro h
    have hstorable := storable_of_accepts h
    exact ⟨hstorable.score, hstorable.boost⟩
  · rintro ⟨hscore, hboost⟩
    exact decode_toJson ⟨hscore, hboost⟩ origin

end Assessment

namespace Screening

variable {s : Screening} {origin : Origin}

/-- Assessments that can be read as a list were written for finite numbers one by one. -/
theorem storable_of_accepts_listOf {as : List Assessment}
    (h : Accepts (Document.listOf (Assessment.decode origin)) (.arr (as.map Assessment.toJson))) :
    ∀ a ∈ as, a.Storable := by
  obtain ⟨vs, hvs, haccepts⟩ := Json.accepts_listOf.1 h
  cases hvs
  intro a ha
  exact Assessment.storable_of_accepts (haccepts _ (List.mem_map_of_mem ha))

theorem storable_of_accepts (h : Accepts (decode origin) s.toJson) : s.Storable := by
  obtain ⟨t, ht⟩ := h
  obtain ⟨record, hread, -⟩ := Json.Decoded.bind_eq_ok.1 ht
  obtain ⟨draft, hmembers⟩ := Shape.exists_readMembers_of_readRecord hread
  have heligible : ("eligible_schemes", .arr (s.eligible.map Assessment.toJson)) ∈ s.members := by
    simp [members]
  have hineligible :
      ("ineligible_schemes", .arr (s.ineligible.map Assessment.toJson)) ∈ s.members := by
    simp [members]
  exact {
    eligible := storable_of_accepts_listOf (Shape.accepts_of_mem rfl hmembers heligible)
    ineligible := storable_of_accepts_listOf (Shape.accepts_of_mem rfl hmembers hineligible) }

theorem survivesWhen (s : Screening) (origin : Origin) :
    SurvivesWhen (decode origin) toJson s (∀ a ∈ s.eligible ++ s.ineligible,
      a.score.isFinite = true ∧ a.priorityBoost.isFinite = true) := by
  refine .of_orderFree (orderFree_decode origin) s.distinctKeys_toJson ?_ ?_
  · intro h a ha
    have hstorable := storable_of_accepts h
    rcases List.mem_append.1 ha with ha | ha
    · exact ⟨(hstorable.eligible a ha).score, (hstorable.eligible a ha).boost⟩
    · exact ⟨(hstorable.ineligible a ha).score, (hstorable.ineligible a ha).boost⟩
  · intro h
    refine decode_toJson { eligible := fun a ha ↦ ?_, ineligible := fun a ha ↦ ?_ } origin
    · obtain ⟨hscore, hboost⟩ := h a (List.mem_append_left _ ha)
      exact ⟨hscore, hboost⟩
    · obtain ⟨hscore, hboost⟩ := h a (List.mem_append_right _ ha)
      exact ⟨hscore, hboost⟩

/-- The screenings agree in everything that is read out to a citizen. -/
structure SameViews (s t : Screening) : Prop where
  eligible : s.eligible.length = t.eligible.length
  total : s.total = t.total
  top : ∀ n, s.top n = t.top n
  missingDocuments : s.missingDocuments = t.missingDocuments

end Screening

/-! ## Survival -/

/-- **Results survive their JSON form exactly when their numbers are finite.**  From what is written
for an assessment or a screening, as a value in any order of members or as a text of it, the very
same result is read when every score and every boost in it is finite, and nothing is read
otherwise.  So what is read out of a screening and what is said to explain an assessment is the same
before and after. -/
theorem results_survive_exactly_when_finite (p : Profile) (origin : Origin) :
    (∀ s : Scheme,
      SurvivesWhen (Assessment.decode origin) Assessment.toJson (s.assess p)
        ((s.assess p).score.isFinite = true ∧ (s.assess p).priorityBoost.isFinite = true) ∧
      ∀ e a, e.IsOrderingOf (s.assess p).toJson → Assessment.decode origin (ofJson e) = .ok a →
        ∀ q t, Briefing.of q t a = Briefing.of q t (s.assess p)) ∧
    ∀ schemes : List Scheme,
      SurvivesWhen (Screening.decode origin) Screening.toJson (p.screen schemes)
        (∀ a ∈ (p.screen schemes).eligible ++ (p.screen schemes).ineligible,
          a.score.isFinite = true ∧ a.priorityBoost.isFinite = true) ∧
      ∀ e s, e.IsOrderingOf (p.screen schemes).toJson → Screening.decode origin (ofJson e) = .ok s →
        s.SameViews (p.screen schemes) := by
  refine ⟨fun s ↦ ⟨(s.assess p).survivesWhen origin, fun e a he ha ↦ ?_⟩,
    fun schemes ↦ ⟨(p.screen schemes).survivesWhen origin, fun e s he hs ↦ ?_⟩⟩
  · obtain ⟨-, rfl⟩ := (((s.assess p).survivesWhen origin).value e he a).1 ha
    exact fun q t ↦ rfl
  · obtain ⟨-, rfl⟩ := (((p.screen schemes).survivesWhen origin).value e he s).1 hs
    exact ⟨rfl, rfl, fun _ ↦ rfl, rfl⟩

/-- A weight that is finite on its own gives an infinite score when it counts twice. -/
theorem infinite_score_does_not_survive :
    let wealthy : Rule := {
      field := ⟨"age"⟩, operator := .notEmpty, value := .null, weight := some 1e308
      explanation := "Any age" }
    let finite : Scheme := { id := "S1", criteria := some { rules := some {
      inclusion := [wealthy] } } }
    let infinite : Scheme := { id := "S2", criteria := some { rules := some {
      inclusion := [wealthy, wealthy] } } }
    let p : Profile := ⟨.obj [("age", .str "64"), ("citizen_id", .str "C1")]⟩
    Screening.decode .value (ofJson (p.screen [finite]).toJson.sorted) = .ok (p.screen [finite]) ∧
    (p.screen [finite]).eligible.length = 1 ∧
    (∀ s, Screening.decode .value (ofJson (p.screen [finite, infinite]).toJson) ≠ .ok s) ∧
    (∀ a, Assessment.decode .value (ofJson (infinite.assess p).toJson) ≠ .ok a) := by
  intro wealthy finite infinite p
  obtain ⟨hassess, hscreen⟩ := results_survive_exactly_when_finite p .value
  have hfinite : ∀ a ∈ (p.screen [finite]).eligible ++ (p.screen [finite]).ineligible,
      a.score.isFinite = true ∧ a.priorityBoost.isFinite = true := by decide +kernel
  have hinfinite : (infinite.assess p).score.isFinite = false := by decide +kernel
  have hmem : infinite.assess p ∈
      (p.screen [finite, infinite]).eligible ++ (p.screen [finite, infinite]).ineligible :=
    Profile.perm_screen.mem_iff.2 (List.mem_map_of_mem (by simp))
  refine ⟨?_, by decide +kernel, fun s hs ↦ ?_, fun a ha ↦ ?_⟩
  · exact ((hscreen _).1.value _ (Json.isOrderingOf_sorted _) _).2 ⟨hfinite, rfl⟩
  · have hall := (((hscreen _).1.value _ (.refl (Screening.distinctKeys_toJson _)) s).1 hs).1
    rw [(hall _ hmem).1] at hinfinite
    cases hinfinite
  · have hboth := (((hassess _).1.value _ (.refl (Assessment.distinctKeys_toJson _)) a).1 ha).1
    rw [hboth.1] at hinfinite
    cases hinfinite

end Welfare
