import Welfare.Proofs.Rule.Codec
import Welfare.Scheme

/-!
# Schemes are read back

A scheme and its criteria keep the members that are not fields of theirs.  These come out of reading
sorted and free of the names of fields, so that writing them behind the fields repeats no key, and
reading what was written keeps the same members.

* `Criteria.Storable`, `Scheme.Storable` — the criteria and schemes that are read back.
* `Scheme.storable_of_decode` — whatever is read is storable.
* `Scheme.decode_toJson` — what is storable is read back.
* `Scheme.orderFree_decode` — the order of members does not matter.
* `Scheme.get?_toJson` — the members that are not fields are written as they were read.
-/

set_option autoImplicit false

namespace Welfare

open Json (Decoded Document Origin Shape Slot)
open Json.Document (ofJson ofJsonMembers)

theorem nodup_append_of_unknown {ks names : List String} {ms : List Json.Member}
    (hks : ks.Sublist names) (hnames : names.Nodup) (hms : Shape.Unknown names ms) :
    (ks ++ ms.map Prod.fst).Nodup := by
  refine List.nodup_append.2 ⟨hks.nodup hnames, hms.sorted.distinctKeys.1, fun k hk l hl heq ↦ ?_⟩
  obtain ⟨m, hm, rfl⟩ := List.mem_map.1 hl
  exact hms.unknown m hm (heq ▸ hks.subset hk)

/-! ## Criteria -/

namespace Criteria

/-- The members of criteria that are read as fields. -/
def fieldNames : List String := ["engine_rules"]

/-- Criteria that are read back from what is written for them. -/
structure Storable (c : Criteria) : Prop where
  rules : ∀ s, c.rules = some s → s.Storable
  other : Shape.Unknown fieldNames c.other

/-- The place of the members that the rules do not account for. -/
def store : Shape.Store Draft where
  kept draft := draft.other
  keep draft ms := { draft with other := ms }
  kept_keep _ _ := rfl
  keep_keep _ _ _ := rfl
  keep_kept _ := rfl

/-- What has been read of criteria is storable. -/
structure Draft.Storable (draft : Draft) : Prop where
  rules : ∀ s, draft.rules = some (some s) → s.Storable
  other : Shape.Unknown fieldNames draft.other

theorem Draft.storable_empty : ({} : Draft).Storable :=
  ⟨nofun, Shape.unknown_nil fieldNames⟩

theorem keeps_storable (origin : Origin) : (shape origin).Keeps Draft.Storable where
  slot s hs draft draft' d hdraft hfill := by
    rw [List.mem_singleton.1 hs] at hfill
    refine Shape.keeps_of (fun x hread ↦ ⟨fun rules hrules ↦ ?_, hdraft.other⟩) hfill
    cases hrules
    exact RuleSet.storable_of_decode (Document.optional_eq_some hread)
  other hkey draft draft' d hdraft hother := by
    refine ⟨?_, store.unknown_other hdraft.other hkey hother⟩
    obtain ⟨v, _, rfl⟩ := Json.Decoded.map_eq_ok.1 hother
    exact hdraft.rules

/-- Whatever is read as criteria is storable. -/
theorem storable_of_decode {origin : Origin} {d : Document} {c : Criteria}
    (h : decode origin d = .ok c) : c.Storable := by
  obtain ⟨draft, hread, rfl⟩ := Json.Decoded.map_eq_ok.1 h
  have hdraft := (keeps_storable origin).readObject Draft.storable_empty hread
  exact ⟨fun s hs ↦ hdraft.rules s (Option.join_eq_some_iff.1 hs), hdraft.other⟩

/-- The members of storable criteria lead to a draft of them. -/
theorem readMembers_members {c : Criteria} (h : c.Storable) (origin : Origin) :
    (shape origin).readMembers {}
        (ofJsonMembers (Json.optionalMember "engine_rules" RuleSet.toJson c.rules ++ c.other)) =
      .ok { rules := c.rules.map some, other := c.other } := by
  refine Eq.trans (Shape.readMembers_optionalMember { rules := c.rules.map some }
    (fun hx ↦ by rw [hx]; rfl) fun s hx ↦ ?_) ?_
  · have hread : (ofJson s.toJson).optional (RuleSet.decode origin) = .ok (some s) :=
      Document.optional_ofJson nofun (RuleSet.decode_toJson (h.rules s hx) origin)
    rw [hx]
    exact (Shape.readMember_of rfl rfl hread).trans rfl
  · exact Shape.readMembers_unknown store rfl h.other rfl

/-- Criteria are read back from what is written for them. -/
theorem decode_toJson {c : Criteria} (h : c.Storable) (origin : Origin) :
    decode origin (ofJson c.toJson) = .ok c := by
  rw [decode, toJson, Shape.readObject_of (readMembers_members h origin)]
  show Except.ok (Criteria.mk (c.rules.map some).join c.other) = .ok c
  rw [Document.join_map_some]

theorem orderFree_shape (origin : Origin) : (shape origin).OrderFree := by
  refine .of_store store rfl (List.pairwise_singleton _ _) ?_ ?_
  · intro s hs
    rw [List.mem_singleton.1 hs]
    exact Json.commutes_store (fun _ _ ↦ rfl) (fun _ _ ↦ rfl) fun _ _ _ ↦ rfl
  · intro s hs draft
    rw [List.mem_singleton.1 hs]
    exact Slot.orderFree_of (RuleSet.orderFree_decode origin).optional draft

/-- The order of members does not matter to what is read as criteria. -/
theorem orderFree_decode (origin : Origin) : Json.OrderFree (decode origin) :=
  ((orderFree_shape origin).readObject {}).bind _

/-- Criteria are written without a repeated key. -/
theorem distinctKeys_toJson {c : Criteria} (h : c.Storable) : c.toJson.DistinctKeys := by
  refine ⟨?_, ?_⟩
  · rw [List.map_append]
    exact nodup_append_of_unknown (Json.sublist_optionalMember _ _ _) (by decide) h.other
  · refine Json.distinctMembers_append (Json.distinctMembers_optionalMember fun s hs ↦ ?_) ?_
    · exact RuleSet.distinctKeys_toJson (h.rules s hs)
    · exact h.other.sorted.distinctMembers

/-! ### Members that are not fields -/

/-- They are written as they are kept. -/
theorem get?_toJson {c : Criteria} {key : String} (hkey : key ∉ fieldNames) :
    c.toJson.get? key = c.other.lookup key := by
  show List.lookup key (_ ++ _) = _
  rw [List.lookup_append, Json.lookup_eq_none_of_notMem]
  · rfl
  · exact fun hmem ↦ hkey ((Json.sublist_optionalMember _ _ _).subset hmem)

/-- They are kept as they are read. -/
theorem lookup_other_of_decode {origin : Origin} {v : Json} {c : Criteria} (hv : v.SortedKeys)
    (h : decode origin (ofJson v) = .ok c) {key : String} (hkey : key ∉ fieldNames) :
    c.other.lookup key = v.get? key := by
  obtain ⟨draft, hread, rfl⟩ := Json.Decoded.map_eq_ok.1 h
  refine Shape.lookup_kept_of_readObject store rfl (fun s hs draft draft' d hfill ↦ ?_) rfl hv
    hread hkey
  rw [List.mem_singleton.1 hs] at hfill
  obtain ⟨_, _, rfl⟩ := Json.Decoded.map_eq_ok.1 hfill
  rfl

end Criteria

/-! ## Schemes -/

namespace Scheme

/-- The members of a scheme that are read as fields. -/
def fieldNames : List String := ["scheme_id", "scheme_name", "eligibility_criteria"]

/-- A scheme that is read back from what is written for it. -/
structure Storable (s : Scheme) : Prop where
  criteria : ∀ c, s.criteria = some c → c.Storable
  metadata : Shape.Unknown fieldNames s.metadata

/-- The place of the members that decide nothing. -/
def store : Shape.Store Draft where
  kept draft := draft.metadata
  keep draft ms := { draft with metadata := ms }
  kept_keep _ _ := rfl
  keep_keep _ _ _ := rfl
  keep_kept _ := rfl

/-- What has been read of a scheme is storable. -/
structure Draft.Storable (draft : Draft) : Prop where
  criteria : ∀ c, draft.criteria = some (some c) → c.Storable
  metadata : Shape.Unknown fieldNames draft.metadata

theorem Draft.storable_empty : ({} : Draft).Storable :=
  ⟨nofun, Shape.unknown_nil fieldNames⟩

theorem keeps_storable (origin : Origin) : (shape origin).Keeps Draft.Storable where
  slot s hs draft draft' d hdraft hfill := by
    obtain ⟨hcriteria, hmetadata⟩ := hdraft
    simp only [shape, List.mem_cons, List.not_mem_nil, or_false] at hs
    rcases hs with rfl | rfl | rfl
    · exact Shape.keeps_of (fun _ _ ↦ ⟨hcriteria, hmetadata⟩) hfill
    · exact Shape.keeps_of (fun _ _ ↦ ⟨hcriteria, hmetadata⟩) hfill
    · refine Shape.keeps_of (fun x hread ↦ ⟨fun c hc ↦ ?_, hmetadata⟩) hfill
      cases hc
      exact Criteria.storable_of_decode (Document.optional_eq_some hread)
  other hkey draft draft' d hdraft hother := by
    refine ⟨?_, store.unknown_other hdraft.metadata hkey hother⟩
    obtain ⟨v, _, rfl⟩ := Json.Decoded.map_eq_ok.1 hother
    exact hdraft.criteria

/-- Whatever is read as a scheme is storable. -/
theorem storable_of_decode {origin : Origin} {d : Document} {s : Scheme}
    (h : decode origin d = .ok s) : s.Storable := by
  obtain ⟨draft, hread, h⟩ := Json.Decoded.bind_eq_ok.1 h
  obtain ⟨id, _, rfl⟩ := Json.Decoded.map_eq_ok.1 h
  have hdraft := (keeps_storable origin).readObject Draft.storable_empty hread
  exact ⟨fun c hc ↦ hdraft.criteria c (Option.join_eq_some_iff.1 hc), hdraft.metadata⟩

/-- The members of a storable scheme lead to a draft of it. -/
theorem readMembers_members {s : Scheme} (h : s.Storable) (origin : Origin) :
    (shape origin).readMembers {}
        (ofJsonMembers ([("scheme_id", .str s.id), ("scheme_name", .str s.name)] ++
          Json.optionalMember "eligibility_criteria" Criteria.toJson s.criteria ++ s.metadata)) =
      .ok { id := some s.id, name := some s.name, criteria := s.criteria.map some,
            metadata := s.metadata } := by
  rw [List.append_assoc]
  refine Eq.trans (Shape.readMembers_cons_of (Shape.readMember_of rfl rfl rfl)) ?_
  refine Eq.trans (Shape.readMembers_cons_of (Shape.readMember_of rfl rfl rfl)) ?_
  refine Eq.trans (Shape.readMembers_optionalMember
    { id := some s.id, name := some s.name, criteria := s.criteria.map some }
    (fun hx ↦ by rw [hx]; rfl) fun c hx ↦ ?_) ?_
  · have hread : (ofJson c.toJson).optional (Criteria.decode origin) = .ok (some c) :=
      Document.optional_ofJson nofun (Criteria.decode_toJson (h.criteria c hx) origin)
    rw [hx]
    exact (Shape.readMember_of rfl rfl hread).trans rfl
  · exact Shape.readMembers_unknown store rfl h.metadata rfl

/-- A scheme is read back from what is written for it. -/
theorem decode_toJson {s : Scheme} (h : s.Storable) (origin : Origin) :
    decode origin (ofJson s.toJson) = .ok s := by
  rw [decode, toJson, Shape.readObject_of (readMembers_members h origin)]
  show Except.ok (Scheme.mk s.id s.name (s.criteria.map some).join s.metadata) = .ok s
  rw [Document.join_map_some]

theorem orderFree_shape (origin : Origin) : (shape origin).OrderFree := by
  refine .of_store store rfl ?_ (fun s hs ↦ ?_) fun s hs draft ↦ ?_
  · simp only [shape, List.pairwise_cons, List.Pairwise.nil, List.mem_cons, List.not_mem_nil,
      or_false, forall_eq_or_imp, forall_eq, IsEmpty.forall_iff, implies_true, and_true]
    and_intros <;> exact Slot.commutes_of (fun _ _ ↦ rfl) (fun _ _ ↦ rfl) fun _ _ _ ↦ rfl
  · simp only [shape, List.mem_cons, List.not_mem_nil, or_false] at hs
    rcases hs with rfl | rfl | rfl
    all_goals exact Json.commutes_store (fun _ _ ↦ rfl) (fun _ _ ↦ rfl) fun _ _ _ ↦ rfl
  · simp only [shape, List.mem_cons, List.not_mem_nil, or_false] at hs
    rcases hs with rfl | rfl | rfl
    · exact Slot.orderFree_of Json.orderFree_asString draft
    · exact Slot.orderFree_of Json.orderFree_asString draft
    · exact Slot.orderFree_of (Criteria.orderFree_decode origin).optional draft

/-- The order of members does not matter to what is read as a scheme. -/
theorem orderFree_decode (origin : Origin) : Json.OrderFree (decode origin) :=
  ((orderFree_shape origin).readObject {}).bind _

theorem orderFree_decodeList (origin : Origin) : Json.OrderFree (decodeList origin) :=
  (orderFree_decode origin).listOf

/-- The fields of a scheme that are written. -/
theorem sublist_members (s : Scheme) :
    (([("scheme_id", Json.str s.id), ("scheme_name", Json.str s.name)] ++
      Json.optionalMember "eligibility_criteria" Criteria.toJson s.criteria).map Prod.fst).Sublist
        fieldNames :=
  .cons_cons _ (.cons_cons _ (Json.sublist_optionalMember _ _ _))

/-- A scheme is written without a repeated key. -/
theorem distinctKeys_toJson {s : Scheme} (h : s.Storable) : s.toJson.DistinctKeys := by
  refine ⟨?_, ?_⟩
  · rw [List.map_append]
    exact nodup_append_of_unknown s.sublist_members (by decide) h.metadata
  · refine Json.distinctMembers_append ⟨trivial, trivial, ?_⟩ h.metadata.sorted.distinctMembers
    exact Json.distinctMembers_optionalMember fun c hc ↦
      Criteria.distinctKeys_toJson (h.criteria c hc)

/-! ### Members that are not fields -/

/-- They are written as they are kept. -/
theorem get?_toJson {s : Scheme} {key : String} (hkey : key ∉ fieldNames) :
    s.toJson.get? key = s.metadata.lookup key := by
  show List.lookup key (_ ++ _) = _
  rw [List.lookup_append, Json.lookup_eq_none_of_notMem]
  · rfl
  · exact fun hmem ↦ hkey (s.sublist_members.subset hmem)

/-- They are kept as they are read. -/
theorem lookup_metadata_of_decode {origin : Origin} {v : Json} {s : Scheme} (hv : v.SortedKeys)
    (h : decode origin (ofJson v) = .ok s) {key : String} (hkey : key ∉ fieldNames) :
    s.metadata.lookup key = v.get? key := by
  obtain ⟨draft, hread, h⟩ := Json.Decoded.bind_eq_ok.1 h
  obtain ⟨id, _, rfl⟩ := Json.Decoded.map_eq_ok.1 h
  refine Shape.lookup_kept_of_readObject store rfl (fun s hs draft draft' d hfill ↦ ?_) rfl hv
    hread hkey
  simp only [shape, List.mem_cons, List.not_mem_nil, or_false] at hs
  rcases hs with rfl | rfl | rfl
  all_goals
    obtain ⟨_, _, rfl⟩ := Json.Decoded.map_eq_ok.1 hfill
    rfl

/-- The criteria of a scheme are those of its member, if there is one. -/
theorem criteria_of_decode {origin : Origin} {v : Json} {s : Scheme} (hv : v.SortedKeys)
    (h : decode origin (ofJson v) = .ok s) :
    match v.get? "eligibility_criteria" with
    | none => s.criteria = none
    | some w => (ofJson w).optional (Criteria.decode origin) = .ok s.criteria := by
  obtain ⟨draft, hread, h⟩ := Json.Decoded.bind_eq_ok.1 h
  obtain ⟨id, _, rfl⟩ := Json.Decoded.map_eq_ok.1 h
  obtain ⟨ms, rfl, hmembers⟩ := Shape.exists_of_readObject hread
  have hslot : (shape origin).slots.find? (·.name == "eligibility_criteria") =
      some (.of "eligibility_criteria" (·.criteria) (fun d v ↦ { d with criteria := some v })
        (Document.optional (Criteria.decode origin))) := rfl
  have hslots : ∀ s ∈ (shape origin).slots, s.name ≠ "eligibility_criteria" →
      ∀ {draft draft' : Draft} {d : Document}, s.fill draft d = .ok draft' →
        draft'.criteria = draft.criteria := by
    intro s hs hname draft draft' d hfill
    simp only [shape, List.mem_cons, List.not_mem_nil, or_false] at hs
    rcases hs with rfl | rfl | rfl
    · obtain ⟨_, _, rfl⟩ := Json.Decoded.map_eq_ok.1 hfill
      rfl
    · obtain ⟨_, _, rfl⟩ := Json.Decoded.map_eq_ok.1 hfill
      rfl
    · exact absurd rfl hname
  have hother : ∀ {draft draft' : Draft} {key : String} {d : Document},
      (shape origin).other draft key d = .ok draft' → draft'.criteria = draft.criteria := by
    intro draft draft' key d hread
    obtain ⟨_, _, rfl⟩ := Json.Decoded.map_eq_ok.1 hread
    rfl
  have hfill := Shape.fill_of_lookup hslot (fun _ _ ↦ rfl) hslots hother hv.distinctKeys.1 hmembers
  show match ms.lookup "eligibility_criteria" with | none => _ | some w => _
  cases hw : ms.lookup "eligibility_criteria" with
  | none =>
    rw [hw] at hfill
    exact congrArg Option.join hfill
  | some w =>
    rw [hw] at hfill
    obtain ⟨x, hx, hdraft⟩ := hfill
    exact hx.trans (congrArg Except.ok (congrArg Option.join hdraft).symm)

/-- The member with the criteria is written when there are any. -/
theorem get?_criteria {s : Scheme} (h : s.Storable) :
    s.toJson.get? "eligibility_criteria" = s.criteria.map Criteria.toJson := by
  show List.lookup _ (_ ++ _) = _
  have hnone : s.metadata.lookup "eligibility_criteria" = none :=
    Json.lookup_eq_none_of_notMem fun hmem ↦ by
      obtain ⟨m, hm, hkey⟩ := List.mem_map.1 hmem
      exact h.metadata.unknown m hm (hkey ▸ by decide)
  rw [List.lookup_append, hnone]
  cases s.criteria with
  | none => rfl
  | some c => rfl

/-- The members of criteria that are not fields are written as they were read. -/
theorem get?_criteria_toJson {origin : Origin} {v : Json} {s : Scheme} (hv : v.SortedKeys)
    (h : decode origin (ofJson v) = .ok s) {key : String} (hkey : key ∉ Criteria.fieldNames) :
    (s.toJson.get? "eligibility_criteria").bind (·.get? key) =
      (v.get? "eligibility_criteria").bind (·.get? key) := by
  have hcriteria := criteria_of_decode hv h
  rw [get?_criteria (storable_of_decode h)]
  cases hw : v.get? "eligibility_criteria" with
  | none =>
    rw [hw] at hcriteria
    rw [hcriteria]
    rfl
  | some w =>
    rw [hw] at hcriteria
    cases hc : s.criteria with
    | none =>
      rw [hc] at hcriteria
      have hnull : w = .null := by
        by_contra hne
        exact Document.ofJson_ne_null hne (Document.optional_eq_none hcriteria)
      rw [hnull]
      rfl
    | some c =>
      rw [hc] at hcriteria
      have hdecode := Document.optional_eq_some hcriteria
      have hsorted : w.SortedKeys := hv.get? hw
      exact (Criteria.get?_toJson hkey).trans (Criteria.lookup_other_of_decode hsorted hdecode hkey)

end Scheme

end Welfare
