import Welfare.Proofs.Json.AnyOrder
import Welfare.Proofs.Rule.Operator
import Welfare.RuleSet

/-!
# Rules are read back

Reading a rule is lenient, but what it gives needs no leniency any more: its operator is the one
that its tag names, its operand is sorted, its numbers are finite.  A rule like that is read back
from what is written for it.

* `Rule.Storable`, `RuleSet.Storable` — the rules and rule sets that are read back.
* `Rule.storable_of_decode`, `RuleSet.storable_of_decode` — whatever is read is storable.
* `Rule.decode_toJson`, `RuleSet.decode_toJson` — what is storable is read back.
* `Rule.orderFree_decode`, `RuleSet.orderFree_decode` — the order of members does not matter.
-/

set_option autoImplicit false

namespace Welfare

open Json (Decoded Document Origin Shape Slot)
open Json.Document (ofJson ofJsonMembers)

namespace Rule

/-- A rule that is read back from what is written for it. -/
structure Storable (r : Rule) : Prop where
  operator : r.operator.Stable
  value : r.value.SortedKeys
  weight : ∀ x, r.weight = some x → x.isFinite = true
  boost : ∀ x, r.priorityBoost = some x → x.isFinite = true

/-! ## Whatever is read is storable -/

/-- What has been read of a rule is storable. -/
structure Draft.Storable (draft : Draft) : Prop where
  operator : ∀ op, draft.operator = some op → op.Stable
  value : ∀ v, draft.value = some v → v.SortedKeys
  weight : ∀ x, draft.weight = some (some x) → x.isFinite = true
  boost : ∀ x, draft.priorityBoost = some (some x) → x.isFinite = true

theorem Draft.storable_empty : ({} : Draft).Storable :=
  ⟨nofun, nofun, nofun, nofun⟩

theorem keeps_storable : shape.Keeps Draft.Storable where
  slot s hs draft draft' d hdraft hfill := by
    obtain ⟨hoperator, hvalue, hweight, hboost⟩ := hdraft
    simp only [shape, List.mem_cons, List.not_mem_nil, or_false] at hs
    rcases hs with rfl | rfl | rfl | rfl | rfl | rfl | rfl | rfl
    · exact Shape.keeps_of (fun _ _ ↦ ⟨hoperator, hvalue, hweight, hboost⟩) hfill
    · exact Shape.keeps_of (fun _ _ ↦ ⟨hoperator, hvalue, hweight, hboost⟩) hfill
    · refine Shape.keeps_of (fun op hread ↦ ⟨fun _ hop ↦ ?_, hvalue, hweight, hboost⟩) hfill
      obtain ⟨v, _, rfl⟩ := Json.Decoded.map_eq_ok.1 hread
      cases hop
      exact Operator.stable_ofJson _
    · refine Shape.keeps_of (fun v hread ↦ ⟨hoperator, fun _ hv ↦ ?_, hweight, hboost⟩) hfill
      cases hv
      exact Json.sortedKeys_of_toJson (Document.asJson_eq_ok.1 hread)
    · refine Shape.keeps_of (fun x hread ↦ ⟨hoperator, hvalue, fun _ hx ↦ ?_, hboost⟩) hfill
      cases hx
      exact Document.isFinite_of_floatOrNone hread
    · exact Shape.keeps_of (fun _ _ ↦ ⟨hoperator, hvalue, hweight, hboost⟩) hfill
    · refine Shape.keeps_of (fun x hread ↦ ⟨hoperator, hvalue, hweight, fun _ hx ↦ ?_⟩) hfill
      cases hx
      exact Document.isFinite_of_floatOrNone hread
    · exact Shape.keeps_of (fun _ _ ↦ ⟨hoperator, hvalue, hweight, hboost⟩) hfill
  other _ _ _ _ hdraft hother := Shape.eq_of_skimOther rfl hother ▸ hdraft

/-- Whatever is read as a rule is storable. -/
theorem storable_of_decode {origin : Origin} {d : Document} {r : Rule}
    (h : decode origin d = .ok r) : r.Storable := by
  obtain ⟨⟨draft, form⟩, hread, h⟩ := Json.Decoded.bind_eq_ok.1 h
  obtain ⟨field, _, rfl⟩ := Json.Decoded.map_eq_ok.1 h
  have hdraft := keeps_storable.readRecord Draft.storable_empty hread
  refine ⟨?_, ?_, fun x hx ↦ ?_, fun x hx ↦ ?_⟩
  · show (draft.operator.getD _).Stable
    cases hop : draft.operator with
    | none => rfl
    | some op => exact hdraft.operator op hop
  · show (draft.value.getD _).SortedKeys
    cases hv : draft.value with
    | none => trivial
    | some v => exact hdraft.value v hv
  · exact hdraft.weight x (Option.join_eq_some_iff.1 hx)
  · exact hdraft.boost x (Option.join_eq_some_iff.1 hx)

/-! ## What is storable is read back -/

/-- What has been read at the end of a rule that was written. -/
def draft (r : Rule) : Draft where
  id := r.id.map some
  field := some r.field.path
  operator := some r.operator
  value := some r.value
  weight := r.weight.map some
  disqualifies := r.disqualifies.map some
  priorityBoost := r.priorityBoost.map some
  explanation := some r.explanation

/-- The members of a rule, first to last. -/
def members (r : Rule) : List Json.Member :=
  Json.optionalMember "rule_id" .str r.id ++
  ("field", .str r.field.path) :: ("operator", .str r.operator.tag) :: ("value", r.value) ::
  (Json.optionalMember "weight" Json.ofFloat r.weight ++
  (Json.optionalMember "disqualifies" .bool r.disqualifies ++
  (Json.optionalMember "priority_boost" Json.ofFloat r.priorityBoost ++
  [("explanation", .str r.explanation)])))

theorem toJson_eq (r : Rule) : r.toJson = .obj r.members := by
  simp only [toJson, members, List.append_assoc, List.cons_append, List.nil_append]

/-- The members of a storable rule lead to the draft of the rule, one after the other. -/
theorem readMembers_members {r : Rule} (h : r.Storable) :
    shape.readMembers {} (ofJsonMembers r.members) = .ok r.draft := by
  have hoperator : (do return Operator.ofJson (some (← (ofJson (.str r.operator.tag)).asJson)) :
      Decoded Operator) = .ok r.operator := congrArg Except.ok h.operator
  have hvalue : (ofJson r.value).asJson = .ok r.value :=
    (Document.asJson_ofJson r.value).trans (congrArg Except.ok h.value.sorted_eq)
  refine Eq.trans (Shape.readMembers_optionalMember { id := r.id.map some }
    (fun hx ↦ by rw [hx]; rfl) fun a hx ↦ by rw [hx]; rfl) ?_
  refine Eq.trans (Shape.readMembers_cons_of (Shape.readMember_of rfl rfl rfl)) ?_
  refine Eq.trans (Shape.readMembers_cons_of (Shape.readMember_of rfl rfl hoperator)) ?_
  refine Eq.trans (Shape.readMembers_cons_of (Shape.readMember_of rfl rfl hvalue)) ?_
  refine Eq.trans (Shape.readMembers_optionalMember { r.draft with
    disqualifies := none, priorityBoost := none, explanation := none }
    (fun hx ↦ by rw [draft, hx]; rfl) fun x hx ↦ ?_) ?_
  · rw [draft, hx]
    exact (Shape.readMember_of rfl rfl (Document.floatOrNone_ofFloat (h.weight x hx))).trans rfl
  refine Eq.trans (Shape.readMembers_optionalMember { r.draft with
    priorityBoost := none, explanation := none }
    (fun hx ↦ by rw [draft, hx]; rfl) fun b hx ↦ by rw [draft, hx]; rfl) ?_
  refine Eq.trans (Shape.readMembers_optionalMember { r.draft with explanation := none }
    (fun hx ↦ by rw [draft, hx]; rfl) fun x hx ↦ ?_) ?_
  · rw [draft, hx]
    exact (Shape.readMember_of rfl rfl (Document.floatOrNone_ofFloat (h.boost x hx))).trans rfl
  refine Eq.trans (Shape.readMembers_cons_of (Shape.readMember_of rfl rfl rfl)) ?_
  rfl

/-- A rule is read back from what is written for it. -/
theorem decode_toJson {r : Rule} (h : r.Storable) (origin : Origin) :
    decode origin (ofJson r.toJson) = .ok r := by
  rw [decode, toJson_eq, Shape.readRecord_of (readMembers_members h)]
  refine congrArg Except.ok ?_
  cases r with
  | mk id field operator value weight disqualifies priorityBoost explanation =>
    simp only [draft, Option.getD_some, Document.join_map_some]

/-! ## Members in any order -/

/-- A rule is written without a repeated key. -/
theorem distinctKeys_toJson {r : Rule} (h : r.Storable) : r.toJson.DistinctKeys := by
  have hsub : (r.members.map Prod.fst).Sublist (shape.slots.map Slot.name) := by
    simp only [members, List.map_append, List.map_cons, List.map_nil]
    refine (Json.sublist_optionalMember _ _ _).append ?_
    refine .cons_cons _ (.cons_cons _ (.cons_cons _ ?_))
    refine (Json.sublist_optionalMember _ _ _).append ?_
    refine (Json.sublist_optionalMember _ _ _).append ?_
    exact (Json.sublist_optionalMember _ _ _).append (List.Sublist.refl _)
  rw [toJson_eq]
  refine ⟨hsub.nodup (by decide), ?_⟩
  have hfloat : ∀ x : Option Float, ∀ y, x = some y → (Json.ofFloat y).DistinctKeys :=
    fun _ y _ ↦ Json.distinctKeys_ofFloat y
  refine Json.distinctMembers_append (Json.distinctMembers_optionalMember fun _ _ ↦ trivial) ?_
  refine ⟨trivial, trivial, h.value.distinctKeys, ?_⟩
  refine Json.distinctMembers_append (Json.distinctMembers_optionalMember (hfloat _)) ?_
  refine Json.distinctMembers_append (Json.distinctMembers_optionalMember fun _ _ ↦ trivial) ?_
  refine Json.distinctMembers_append (Json.distinctMembers_optionalMember (hfloat _)) ?_
  exact ⟨trivial, trivial⟩

theorem orderFree_shape : shape.OrderFree := by
  refine .of_skimOther rfl ?_ fun s hs draft ↦ ?_
  · simp only [shape, List.pairwise_cons, List.Pairwise.nil, List.mem_cons, List.not_mem_nil,
      or_false, forall_eq_or_imp, forall_eq, IsEmpty.forall_iff, implies_true, and_true]
    and_intros <;> exact Slot.commutes_of (fun _ _ ↦ rfl) (fun _ _ ↦ rfl) fun _ _ _ ↦ rfl
  · simp only [shape, List.mem_cons, List.not_mem_nil, or_false] at hs
    rcases hs with rfl | rfl | rfl | rfl | rfl | rfl | rfl | rfl
    · exact Slot.orderFree_of Json.orderFree_asString.optional draft
    · exact Slot.orderFree_of Json.orderFree_asString draft
    · exact Slot.orderFree_of (Json.orderFree_asJson.bind _) draft
    · exact Slot.orderFree_of Json.orderFree_asJson draft
    · exact Slot.orderFree_of Json.orderFree_floatOrNone draft
    · exact Slot.orderFree_of Json.orderFree_asBool.optional draft
    · exact Slot.orderFree_of Json.orderFree_floatOrNone draft
    · exact Slot.orderFree_of Json.orderFree_asString draft

/-- The order of members does not matter to what is read as a rule. -/
theorem orderFree_decode (origin : Origin) : Json.OrderFree (decode origin) :=
  (orderFree_shape.readRecord origin {}).bind _

end Rule

/-! ## Rule sets -/

namespace RuleSet

/-- A rule set that is read back from what is written for it. -/
structure Storable (s : RuleSet) : Prop where
  inclusion : ∀ r ∈ s.inclusion, r.Storable
  exclusion : ∀ r ∈ s.exclusion, r.Storable
  priority : ∀ r ∈ s.priority, r.Storable
  minimum : ∀ x, s.minimumScore = some x → x.isFinite = true

/-- What has been read of a rule set is storable. -/
structure Draft.Storable (draft : Draft) : Prop where
  inclusion : ∀ rs, draft.inclusion = some rs → ∀ r ∈ rs, r.Storable
  exclusion : ∀ rs, draft.exclusion = some rs → ∀ r ∈ rs, r.Storable
  priority : ∀ rs, draft.priority = some rs → ∀ r ∈ rs, r.Storable
  minimum : ∀ x, draft.minimumScore = some (some x) → x.isFinite = true

theorem Draft.storable_empty : ({} : Draft).Storable :=
  ⟨nofun, nofun, nofun, nofun⟩

theorem storable_of_mem {origin : Origin} {d : Document} {rs : List Rule}
    (h : d.orDefault (Document.listOf (Rule.decode origin)) = .ok rs) :
    ∀ r ∈ rs, r.Storable := fun r hr ↦ by
  obtain ⟨e, he⟩ := Document.exists_of_mem_orDefault h hr
  exact Rule.storable_of_decode he

theorem keeps_storable (origin : Origin) : (shape origin).Keeps Draft.Storable where
  slot s hs draft draft' d hdraft hfill := by
    obtain ⟨hinclusion, hexclusion, hpriority, hminimum⟩ := hdraft
    simp only [shape, List.mem_cons, List.not_mem_nil, or_false] at hs
    rcases hs with rfl | rfl | rfl | rfl | rfl | rfl | rfl
    · refine Shape.keeps_of (fun rs hread ↦ ⟨fun _ hrs ↦ ?_, hexclusion, hpriority, hminimum⟩) hfill
      cases hrs
      exact storable_of_mem hread
    · refine Shape.keeps_of (fun rs hread ↦ ⟨hinclusion, fun _ hrs ↦ ?_, hpriority, hminimum⟩) hfill
      cases hrs
      exact storable_of_mem hread
    · refine Shape.keeps_of
        (fun rs hread ↦ ⟨hinclusion, hexclusion, fun _ hrs ↦ ?_, hminimum⟩) hfill
      cases hrs
      exact storable_of_mem hread
    · refine Shape.keeps_of (fun x hread ↦ ⟨hinclusion, hexclusion, hpriority, fun _ hx ↦ ?_⟩) hfill
      cases hx
      exact Document.isFinite_of_floatOrNone hread
    · exact Shape.keeps_of (fun _ _ ↦ ⟨hinclusion, hexclusion, hpriority, hminimum⟩) hfill
    · exact Shape.keeps_of (fun _ _ ↦ ⟨hinclusion, hexclusion, hpriority, hminimum⟩) hfill
    · exact Shape.keeps_of (fun _ _ ↦ ⟨hinclusion, hexclusion, hpriority, hminimum⟩) hfill
  other _ _ _ _ hdraft hother := Shape.eq_of_skimOther rfl hother ▸ hdraft

theorem Draft.Storable.ofDraft {draft : Draft} (h : draft.Storable) : (ofDraft draft).Storable := by
  have hgetD : ∀ rules : Option (List Rule), (∀ rs, rules = some rs → ∀ r ∈ rs, r.Storable) →
      ∀ r ∈ rules.getD [], r.Storable := fun rules hrules r hr ↦ by
    cases rules with
    | none => cases hr
    | some rs => exact hrules rs rfl r hr
  exact ⟨hgetD _ h.inclusion, hgetD _ h.exclusion, hgetD _ h.priority,
    fun x hx ↦ h.minimum x (Option.join_eq_some_iff.1 hx)⟩

/-- Whatever is read as a rule set is storable. -/
theorem storable_of_decode {origin : Origin} {d : Document} {s : RuleSet}
    (h : decode origin d = .ok s) : s.Storable := by
  obtain ⟨⟨draft, form⟩, hread, h⟩ := Json.Decoded.bind_eq_ok.1 h
  cases h
  exact ((keeps_storable origin).readRecord Draft.storable_empty hread).ofDraft

/-- What has been read at the end of a rule set that was written. -/
def draft (s : RuleSet) : Draft where
  inclusion := some s.inclusion
  exclusion := some s.exclusion
  priority := some s.priority
  minimumScore := s.minimumScore.map some
  ruleType := s.ruleType.map some
  logic := s.logic.map some
  alternatives := if s.alternatives.isEmpty then none else some s.alternatives

theorem ofDraft_draft (s : RuleSet) : ofDraft s.draft = s := by
  cases s with
  | mk inclusion exclusion priority minimumScore ruleType logic alternatives =>
    cases alternatives <;> simp [ofDraft, draft, Document.join_map_some]

theorem orDefault_rules {rs : List Rule} (h : ∀ r ∈ rs, r.Storable)
    (origin : Origin) :
    (ofJson (.arr (rs.map Rule.toJson))).orDefault (Document.listOf (Rule.decode origin)) =
      .ok rs :=
  Document.orDefault_ofJson nofun
    (Document.listOf_ofJson fun r hr ↦ Rule.decode_toJson (h r hr) origin)

/-- The members of a storable rule set lead to its draft, one after the other. -/
theorem readMembers_members {s : RuleSet} (h : s.Storable) (origin : Origin) :
    (shape origin).readMembers {} (ofJsonMembers s.members) = .ok s.draft := by
  rw [members, List.append_assoc, List.append_assoc, List.append_assoc]
  refine Eq.trans (Shape.readMembers_cons_of (Shape.readMember_of rfl rfl
    (orDefault_rules h.inclusion origin))) ?_
  refine Eq.trans (Shape.readMembers_cons_of (Shape.readMember_of rfl rfl
    (orDefault_rules h.exclusion origin))) ?_
  refine Eq.trans (Shape.readMembers_cons_of (Shape.readMember_of rfl rfl
    (orDefault_rules h.priority origin))) ?_
  refine Eq.trans (Shape.readMembers_optionalMember { s.draft with
    ruleType := none, logic := none, alternatives := none }
    (fun hx ↦ by rw [draft, hx]; rfl) fun x hx ↦ ?_) ?_
  · rw [draft, hx]
    exact (Shape.readMember_of rfl rfl (Document.floatOrNone_ofFloat (h.minimum x hx))).trans rfl
  refine Eq.trans (Shape.readMembers_optionalMember { s.draft with
    logic := none, alternatives := none }
    (fun hx ↦ by rw [draft, hx]; rfl) fun _ hx ↦ by rw [draft, hx]; rfl) ?_
  refine Eq.trans (Shape.readMembers_optionalMember { s.draft with alternatives := none }
    (fun hx ↦ by rw [draft, hx]; rfl) fun _ hx ↦ by rw [draft, hx]; rfl) ?_
  by_cases hempty : s.alternatives.isEmpty
  · rw [draft, if_pos hempty, if_pos hempty]
    rfl
  · have hread : (ofJson (.ofStrings s.alternatives)).orDefault
        (Document.listOf Document.asString) = .ok s.alternatives :=
      Document.orDefault_ofJson nofun (Document.listOf_ofJson fun _ _ ↦ rfl)
    rw [draft, if_neg hempty, if_neg hempty]
    refine Eq.trans (Shape.readMembers_cons_of (Shape.readMember_of rfl rfl hread)) ?_
    rfl

/-- A rule set is read back from what is written for it. -/
theorem decode_toJson {s : RuleSet} (h : s.Storable) (origin : Origin) :
    decode origin (ofJson s.toJson) = .ok s := by
  rw [decode, toJson, Shape.readRecord_of (readMembers_members h origin)]
  exact congrArg Except.ok s.ofDraft_draft

theorem sublist_members (s : RuleSet) :
    (s.members.map Prod.fst).Sublist ((shape .value).slots.map Slot.name) := by
  simp only [members, List.map_append, List.map_cons, List.map_nil, List.append_assoc]
  refine .cons_cons _ (.cons_cons _ (.cons_cons _ ?_))
  refine (Json.sublist_optionalMember _ _ _).append ?_
  refine (Json.sublist_optionalMember _ _ _).append ?_
  refine (Json.sublist_optionalMember _ _ _).append ?_
  split
  · exact List.nil_sublist _
  · exact List.Sublist.refl _

theorem distinctMembers_members {s : RuleSet} (h : s.Storable) :
    Json.DistinctMembers s.members := by
  have hrules : ∀ rs : List Rule, (∀ r ∈ rs, r.Storable) →
      (Json.arr (rs.map Rule.toJson)).DistinctKeys :=
    fun rs hrs ↦ Json.distinctItems_map fun r hr ↦ Rule.distinctKeys_toJson (hrs r hr)
  simp only [members, List.append_assoc, List.cons_append, List.nil_append]
  refine ⟨hrules _ h.inclusion, hrules _ h.exclusion, hrules _ h.priority, ?_⟩
  refine Json.distinctMembers_append
    (Json.distinctMembers_optionalMember fun x _ ↦ Json.distinctKeys_ofFloat x) ?_
  refine Json.distinctMembers_append (Json.distinctMembers_optionalMember fun _ _ ↦ trivial) ?_
  refine Json.distinctMembers_append (Json.distinctMembers_optionalMember fun _ _ ↦ trivial) ?_
  split
  · trivial
  · exact ⟨Json.distinctItems_map fun _ _ ↦ trivial, trivial⟩

/-- A rule set is written without a repeated key. -/
theorem distinctKeys_toJson {s : RuleSet} (h : s.Storable) : s.toJson.DistinctKeys :=
  ⟨s.sublist_members.nodup (by decide), distinctMembers_members h⟩

theorem orderFree_shape (origin : Origin) : (shape origin).OrderFree := by
  refine .of_skimOther rfl ?_ fun s hs draft ↦ ?_
  · simp only [shape, List.pairwise_cons, List.Pairwise.nil, List.mem_cons, List.not_mem_nil,
      or_false, forall_eq_or_imp, forall_eq, IsEmpty.forall_iff, implies_true, and_true]
    and_intros <;> exact Slot.commutes_of (fun _ _ ↦ rfl) (fun _ _ ↦ rfl) fun _ _ _ ↦ rfl
  · have hrules := (Rule.orderFree_decode origin).listOf.orDefault
    simp only [shape, List.mem_cons, List.not_mem_nil, or_false] at hs
    rcases hs with rfl | rfl | rfl | rfl | rfl | rfl | rfl
    · exact Slot.orderFree_of hrules draft
    · exact Slot.orderFree_of hrules draft
    · exact Slot.orderFree_of hrules draft
    · exact Slot.orderFree_of Json.orderFree_floatOrNone draft
    · exact Slot.orderFree_of Json.orderFree_asString.optional draft
    · exact Slot.orderFree_of Json.orderFree_asString.optional draft
    · exact Slot.orderFree_of Json.orderFree_asString.listOf.orDefault draft

/-- The order of members does not matter to what is read as a rule set. -/
theorem orderFree_decode (origin : Origin) : Json.OrderFree (decode origin) :=
  ((orderFree_shape origin).readRecord origin {}).bind _

end RuleSet

end Welfare
