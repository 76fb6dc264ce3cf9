import Welfare.Catalog.Attachment
import Welfare.Proofs.Scheme.Codec

/-!
# Standalone rule sets are read back

A rule set with the id of its scheme is read in two steps: the id at once, and everything else from
the members that were put aside.  What is put aside depends on the order of members, so the order
does not matter only to the two steps together.

* `StandaloneRules.toOption_decode` — both steps, in terms of the members of an object: the id is
  looked up, the rules are read from the other members.
* `StandaloneRules.storable_of_decode`, `StandaloneRules.decode_toJson`,
  `StandaloneRules.orderFree_decode` — as for other records.
-/

set_option autoImplicit false

namespace Welfare.StandaloneRules

open Json (Decoded Document Origin Shape)
open Json.Document (ofJson ofJsonMembers)

/-- The name of the member with the id. -/
abbrev idName : String := "scheme_id"

/-! ## The two steps -/

/-- Members other than the id are put aside. -/
theorem readMembers_aside (draft : Draft) {ms : List Json.Member} (h : idName ∉ ms.map Prod.fst) :
    shape.readMembers draft (ofJsonMembers ms) =
      .ok { draft with aside := draft.aside ++ ofJsonMembers ms } := by
  induction ms generalizing draft with
  | nil => rw [ofJsonMembers, List.append_nil]; rfl
  | cons m ms ih =>
    obtain ⟨k, v⟩ := m
    rw [List.map_cons, List.mem_cons, not_or] at h
    have hmember : shape.readMember draft k (ofJson v) =
        .ok { draft with aside := draft.aside ++ [(.ok k, ofJson v)] } := by
      rw [Shape.readMember_other fun hk ↦ h.1 (List.mem_singleton.1 hk).symm]
      show (do let _ ← (ofJson v).asJson; return _) = _
      rw [Document.asJson_ofJson]
      rfl
    rw [Shape.readMembers_cons_of hmember, ih _ h.2, List.append_assoc]
    rfl

/-- The rules that are read from the members put aside. -/
def rules? (ms : List Json.Member) : Option RuleSet :=
  ((RuleSet.shape .aside).readMembers {} (ofJsonMembers ms)).toOption.map RuleSet.ofDraft

theorem filter_ne_of_notMem {ms : List Json.Member} (h : idName ∉ ms.map Prod.fst) :
    ms.filter (·.1 != idName) = ms := by
  refine List.filter_eq_self.2 fun m hm ↦ bne_iff_ne.2 fun heq ↦ ?_
  exact h (heq ▸ List.mem_map_of_mem hm)

/-- The draft of an object with an id. -/
theorem readMembers_of_id {front back : List Json.Member} {v : Json}
    (hfront : idName ∉ front.map Prod.fst) (hback : idName ∉ back.map Prod.fst) :
    shape.readMembers {} (ofJsonMembers (front ++ (idName, v) :: back)) = do
      let id ← (ofJson v).asString
      return { schemeId := some id, aside := ofJsonMembers (front ++ back) } := by
  rw [Shape.readMembers_append, readMembers_aside {} hfront]
  show shape.readMembers { aside := ofJsonMembers front } (ofJsonMembers ((idName, v) :: back)) = _
  rw [Shape.readMembers_cons, Shape.readMember_slot rfl rfl]
  show ((do let id ← (ofJson v).asString; return _) >>= _) = _
  cases (ofJson v).asString with
  | error e => rfl
  | ok id =>
    rw [Document.ofJsonMembers_append]
    exact readMembers_aside { schemeId := some id, aside := ofJsonMembers front } hback

/-- The id is looked up, and the rules are read from the other members. -/
theorem toOption_decode {ms : List Json.Member} (hms : (ms.map Prod.fst).Nodup) :
    (decode (ofJson (.obj ms))).toOption = do
      let v ← ms.lookup idName
      let schemeId ← (ofJson v).asString.toOption
      let rules ← rules? (ms.filter (·.1 != idName))
      return { schemeId, rules } := by
  cases hlookup : ms.lookup idName with
  | none =>
    have hnone : idName ∉ ms.map Prod.fst := fun hmem ↦ by
      obtain ⟨m, hm, hkey⟩ := List.mem_map.1 hmem
      exact bne_iff_ne.1 (List.lookup_eq_none_iff.1 hlookup m hm) hkey.symm
    rw [decode, Shape.readObject_of (readMembers_aside {} hnone)]
    rfl
  | some v =>
    obtain ⟨front, back, rfl, hne⟩ := List.lookup_eq_some_iff.1 hlookup
    have hfront : idName ∉ front.map Prod.fst := fun hmem ↦ by
      obtain ⟨m, hm, hkey⟩ := List.mem_map.1 hmem
      exact bne_iff_ne.1 (hne m hm) hkey.symm
    have hback : idName ∉ back.map Prod.fst := by
      rw [List.map_append, List.map_cons, List.nodup_append] at hms
      exact (List.nodup_cons.1 hms.2.1).1
    have hothers : (front ++ (idName, v) :: back).filter (·.1 != idName) = front ++ back := by
      rw [List.filter_append, List.filter_cons_of_neg (by simp), filter_ne_of_notMem hfront,
        filter_ne_of_notMem hback]
    rw [hothers, decode, ofJson, Shape.readObject, readMembers_of_id hfront hback]
    show _ = (ofJson v).asString.toOption.bind fun id ↦ _
    cases (ofJson v).asString with
    | error e => rfl
    | ok id =>
      show ((RuleSet.shape .aside).readMembers {} (ofJsonMembers (front ++ back)) >>= fun rules ↦
        pure (StandaloneRules.mk id (RuleSet.ofDraft rules)) : Decoded _).toOption =
          (rules? (front ++ back)).bind fun rules ↦ some ⟨id, rules⟩
      rw [Json.toOption_bind, rules?]
      cases ((RuleSet.shape .aside).readMembers {} (ofJsonMembers (front ++ back))).toOption with
      | none => rfl
      | some draft => rfl

/-! ## Round trip -/

/-- A rule set with an id that is read back from what is written for it. -/
def Storable (r : StandaloneRules) : Prop := r.rules.Storable

/-- Whatever is read as a rule set with an id is storable. -/
theorem storable_of_decode {d : Document} {r : StandaloneRules} (h : decode d = .ok r) :
    r.Storable := by
  obtain ⟨draft, _, h⟩ := Json.Decoded.bind_eq_ok.1 h
  obtain ⟨id, _, h⟩ := Json.Decoded.bind_eq_ok.1 h
  obtain ⟨rules, hread, rfl⟩ := Json.Decoded.map_eq_ok.1 h
  exact ((RuleSet.keeps_storable .aside).readMembers RuleSet.Draft.storable_empty hread).ofDraft

/-- The members of a rule set leave room for the id. -/
theorem idName_notMem (s : RuleSet) : idName ∉ s.members.map Prod.fst :=
  fun h ↦ absurd (s.sublist_members.subset h) (by decide)

/-- A rule set with an id is written without a repeated key. -/
theorem distinctKeys_toJson {r : StandaloneRules} (h : r.Storable) : r.toJson.DistinctKeys :=
  ⟨List.nodup_cons.2 ⟨idName_notMem r.rules, (RuleSet.distinctKeys_toJson h).1⟩,
    trivial, RuleSet.distinctMembers_members h⟩

/-- A rule set with an id is read back from what is written for it. -/
theorem decode_toJson {r : StandaloneRules} (h : r.Storable) :
    decode (ofJson r.toJson) = .ok r := by
  rw [← Json.toOption_eq_some, toJson, toOption_decode (distinctKeys_toJson h).1]
  have hothers : ((idName, Json.str r.schemeId) :: r.rules.members).filter (·.1 != idName) =
      r.rules.members := by
    rw [List.filter_cons_of_neg (by simp), filter_ne_of_notMem (idName_notMem r.rules)]
  rw [hothers, rules?, RuleSet.readMembers_members h]
  show some (StandaloneRules.mk r.schemeId (RuleSet.ofDraft r.rules.draft)) = some r
  rw [RuleSet.ofDraft_draft]

/-- Neither the order of the members put aside nor that inside their values matters. -/
theorem rules?_perm {ms ns : List Json.Member} (hms : Json.DistinctKeys (.obj ms))
    (hperm : (ms.map fun m ↦ (m.1, m.2.sorted)).Perm ns) : rules? ms = rules? ns := by
  have hshape := RuleSet.orderFree_shape .aside
  have hkeys : (ms.map fun m ↦ (m.1, m.2.sorted)).map Prod.fst = ms.map Prod.fst := by
    rw [List.map_map]; rfl
  rw [rules?, hshape.readMembers_map _ hms.2, hshape.readMembers_perm hperm (hkeys ▸ hms.1),
    ← rules?]

/-- The order of members does not matter to what is read as a rule set with an id. -/
theorem orderFree_decode : Json.OrderFree decode := fun v hv ↦ by
  cases v with
  | obj ms =>
    have hperm : (Json.sortedMembers ms []).Perm (ms.map fun m ↦ (m.1, m.2.sorted)) :=
      Json.perm_sortedMembers hv.1
    have hothers : rules? (ms.filter (·.1 != idName)) =
        rules? ((Json.sortedMembers ms []).filter (·.1 != idName)) := by
      refine rules?_perm (hv.filter _) ?_
      have hfilter := (hperm.filter (·.1 != idName)).symm
      rwa [List.filter_map] at hfilter
    rw [Json.sorted, toOption_decode hv.1, toOption_decode (Json.distinctKeys_sorted (.obj ms)).1,
      Json.lookup_sortedMembers hv.1, hothers]
    cases hid : ms.lookup idName with
    | none => rfl
    | some v => cases v <;> rfl
  | _ => rfl

end Welfare.StandaloneRules
