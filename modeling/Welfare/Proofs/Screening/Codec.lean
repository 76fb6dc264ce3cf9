import Welfare.Proofs.Catalog.RoundTrip
import Welfare.Screening

/-!
# Screenings are read back

A score that is infinite or NaN is written as `null`, which is not read back.  With finite scores a
screening is read back from what is written for it.  A finite score has a finite boost, since it is
the sum of the points and the boost.

* `Assessment.Storable`, `Screening.Storable` — assessments and screenings with finite numbers.
* `Scheme.isFinite_boost_of_score` — a finite score has a finite boost.
* `Screening.readsBack` — a screening with finite scores is read back.
-/

set_option autoImplicit false

namespace Welfare

open Json (Decoded Document Origin Shape Slot)
open Json.Document (ofJson ofJsonMembers)

theorem Json.Document.asFloat_ofFloat {x : Float} (h : x.isFinite = true) :
    (ofJson (.ofFloat x)).asFloat = .ok x := by
  rw [Json.ofFloat, Json.Number.ofFloat?_eq_some h]
  rfl

theorem Json.orderFree_asFloat : Json.OrderFree Document.asFloat := fun v _ ↦ by
  cases v <;> rfl

theorem Json.Document.listOf_ofStrings (xs : List String) :
    Document.listOf Document.asString (ofJson (.ofStrings xs)) = .ok xs :=
  Document.listOf_ofJson fun _ _ ↦ rfl

/-! ## Assessments -/

namespace Assessment

/-- An assessment that is read back from what is written for it. -/
structure Storable (a : Assessment) : Prop where
  score : a.score.isFinite = true
  boost : a.priorityBoost.isFinite = true

/-- What has been read at the end of an assessment that was written. -/
def draft (a : Assessment) : Draft where
  schemeId := some a.schemeId
  schemeName := some a.schemeName
  eligible := some a.eligible
  score := some a.score
  reasoning := some a.reasoning
  missingDocuments := some a.missingDocuments
  priorityBoost := some a.priorityBoost

/-- An assessment is read back from what is written for it. -/
theorem decode_toJson {a : Assessment} (h : a.Storable) (origin : Origin) :
    decode origin (ofJson a.toJson) = .ok a := by
  have hscore := Document.asFloat_ofFloat h.score
  have hboost := Document.asFloat_ofFloat h.boost
  have hreasoning := Document.listOf_ofStrings a.reasoning
  have hmissing := Document.listOf_ofStrings a.missingDocuments
  have hread : shape.readRecord origin {} (ofJson a.toJson) = .ok (a.draft, .named) := by
    refine Shape.readRecord_of ?_ origin
    refine Eq.trans (Shape.readMembers_cons_of (Shape.readMember_of rfl rfl rfl)) ?_
    refine Eq.trans (Shape.readMembers_cons_of (Shape.readMember_of rfl rfl rfl)) ?_
    refine Eq.trans (Shape.readMembers_cons_of (Shape.readMember_of rfl rfl rfl)) ?_
    refine Eq.trans (Shape.readMembers_cons_of (Shape.readMember_of rfl rfl hscore)) ?_
    refine Eq.trans (Shape.readMembers_cons_of (Shape.readMember_of rfl rfl hreasoning)) ?_
    refine Eq.trans (Shape.readMembers_cons_of (Shape.readMember_of rfl rfl hmissing)) ?_
    refine Eq.trans (Shape.readMembers_cons_of (Shape.readMember_of rfl rfl hboost)) ?_
    rfl
  rw [decode, hread]
  rfl

/-- An assessment is written without a repeated key. -/
theorem distinctKeys_toJson (a : Assessment) : a.toJson.DistinctKeys := by
  have hstrings : ∀ xs : List String, (Json.ofStrings xs).DistinctKeys :=
    fun _ ↦ Json.distinctItems_map fun _ _ ↦ trivial
  refine ⟨(by decide : (shape.slots.map Slot.name).Nodup), ?_⟩
  exact ⟨trivial, trivial, trivial, Json.distinctKeys_ofFloat _, hstrings _, hstrings _,
    Json.distinctKeys_ofFloat _, trivial⟩

theorem orderFree_shape : shape.OrderFree := by
  refine .of_skimOther rfl ?_ fun s hs draft ↦ ?_
  · simp only [shape, List.pairwise_cons, List.Pairwise.nil, List.mem_cons, List.not_mem_nil,
      or_false, forall_eq_or_imp, forall_eq, IsEmpty.forall_iff, implies_true, and_true]
    and_intros <;> exact Slot.commutes_of (fun _ _ ↦ rfl) (fun _ _ ↦ rfl) fun _ _ _ ↦ rfl
  · simp only [shape, List.mem_cons, List.not_mem_nil, or_false] at hs
    rcases hs with rfl | rfl | rfl | rfl | rfl | rfl | rfl
    · exact Slot.orderFree_of Json.orderFree_asString draft
    · exact Slot.orderFree_of Json.orderFree_asString draft
    · exact Slot.orderFree_of Json.orderFree_asBool draft
    · exact Slot.orderFree_of Json.orderFree_asFloat draft
    · exact Slot.orderFree_of Json.orderFree_asString.listOf draft
    · exact Slot.orderFree_of Json.orderFree_asString.listOf draft
    · exact Slot.orderFree_of Json.orderFree_asFloat draft

theorem orderFree_decode (origin : Origin) : Json.OrderFree (decode origin) :=
  (orderFree_shape.readRecord origin {}).bind _

end Assessment

/-! ## Screenings -/

namespace Screening

/-- A screening that is read back from what is written for it. -/
structure Storable (s : Screening) : Prop where
  eligible : ∀ a ∈ s.eligible, a.Storable
  ineligible : ∀ a ∈ s.ineligible, a.Storable

/-- What has been read at the end of a screening that was written. -/
def draft (s : Screening) : Draft where
  citizenId := s.citizenId.map some
  eligible := some s.eligible
  ineligible := some s.ineligible
  summary := some s.summary

theorem listOf_assessments {as : List Assessment} (h : ∀ a ∈ as, a.Storable) (origin : Origin) :
    Document.listOf (Assessment.decode origin) (ofJson (.arr (as.map Assessment.toJson))) =
      .ok as :=
  Document.listOf_ofJson fun a ha ↦ Assessment.decode_toJson (h a ha) origin

/-- A screening is read back from what is written for it. -/
theorem decode_toJson {s : Screening} (h : s.Storable) (origin : Origin) :
    decode origin (ofJson s.toJson) = .ok s := by
  have heligible := listOf_assessments h.eligible origin
  have hineligible := listOf_assessments h.ineligible origin
  have hread : (shape origin).readRecord origin {} (ofJson s.toJson) = .ok (s.draft, .named) := by
    refine Shape.readRecord_of ?_ origin
    refine Eq.trans (Shape.readMembers_optionalMember { citizenId := s.citizenId.map some }
      (fun hx ↦ by rw [hx]; rfl) fun _ hx ↦ by rw [hx]; rfl) ?_
    refine Eq.trans (Shape.readMembers_cons_of (Shape.readMember_of rfl rfl heligible)) ?_
    refine Eq.trans (Shape.readMembers_cons_of (Shape.readMember_of rfl rfl hineligible)) ?_
    refine Eq.trans (Shape.readMembers_cons_of (Shape.readMember_of rfl rfl rfl)) ?_
    rfl
  rw [decode, hread]
  show Except.ok (Screening.mk (s.citizenId.map some).join s.eligible s.ineligible s.summary) =
    .ok s
  rw [Document.join_map_some]

/-- The members of a screening are fields. -/
theorem sublist_members (s : Screening) :
    (s.members.map Prod.fst).Sublist ((shape .value).slots.map Slot.name) := by
  rw [members, List.map_append]
  exact (Json.sublist_optionalMember _ _ _).append (List.Sublist.refl _)

/-- A screening is written without a repeated key. -/
theorem distinctKeys_toJson (s : Screening) : s.toJson.DistinctKeys := by
  have hassessments : ∀ as : List Assessment, (Json.arr (as.map Assessment.toJson)).DistinctKeys :=
    fun _ ↦ Json.distinctItems_map fun a _ ↦ a.distinctKeys_toJson
  refine ⟨s.sublist_members.nodup (by decide), ?_⟩
  refine Json.distinctMembers_append (Json.distinctMembers_optionalMember fun _ _ ↦ trivial) ?_
  exact ⟨hassessments _, hassessments _, trivial, trivial⟩

theorem orderFree_shape (origin : Origin) : (shape origin).OrderFree := by
  refine .of_skimOther rfl ?_ fun s hs draft ↦ ?_
  · simp only [shape, List.pairwise_cons, List.Pairwise.nil, List.mem_cons, List.not_mem_nil,
      or_false, forall_eq_or_imp, forall_eq, IsEmpty.forall_iff, implies_true, and_true]
    and_intros <;> exact Slot.commutes_of (fun _ _ ↦ rfl) (fun _ _ ↦ rfl) fun _ _ _ ↦ rfl
  · simp only [shape, List.mem_cons, List.not_mem_nil, or_false] at hs
    rcases hs with rfl | rfl | rfl | rfl
    · exact Slot.orderFree_of Json.orderFree_asString.optional draft
    · exact Slot.orderFree_of (Assessment.orderFree_decode origin).listOf draft
    · exact Slot.orderFree_of (Assessment.orderFree_decode origin).listOf draft
    · exact Slot.orderFree_of Json.orderFree_asString draft

theorem orderFree_decode (origin : Origin) : Json.OrderFree (decode origin) :=
  ((orderFree_shape origin).readRecord origin {}).bind _

theorem readsBack {s : Screening} (h : s.Storable) (origin : Origin) :
    ReadsBack (decode origin) toJson s :=
  .of_orderFree (orderFree_decode origin) s.distinctKeys_toJson (decode_toJson h origin)

end Screening

/-! ## Finite scores -/

/-- A finite score has a finite boost. -/
theorem Scheme.isFinite_boost_of_score {s : Scheme} {p : Profile}
    (h : (s.assess p).score.isFinite = true) : (s.assess p).priorityBoost.isFinite = true := by
  unfold Scheme.assess at h ⊢
  split at h
  · exact h
  · exact (Double.isFinite_of_add h).2

/-- With finite scores a screening is storable. -/
theorem Profile.storable_screen {p : Profile} {schemes : List Scheme}
    (h : ∀ s ∈ schemes, (s.assess p).score.isFinite = true) : (p.screen schemes).Storable := by
  have hassessments : ∀ a ∈ schemes.map (·.assess p), a.Storable := fun a ha ↦ by
    obtain ⟨s, hs, rfl⟩ := List.mem_map.1 ha
    exact ⟨h s hs, Scheme.isFinite_boost_of_score (h s hs)⟩
  exact ⟨fun a ha ↦ hassessments a (List.mem_of_mem_filter ha),
    fun a ha ↦ hassessments a (List.mem_of_mem_filter ha)⟩

end Welfare
