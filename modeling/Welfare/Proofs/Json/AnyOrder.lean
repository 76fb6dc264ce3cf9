import Mathlib.Data.List.Pairwise
import Welfare.Proofs.Json.Fields

/-!
# Members in any order

The members of an object may come in any order: what is read from them is the same.  Only the
problem that is reported when reading fails depends on the order, so results are compared as
options.

* `Commutes` — two steps that may be taken in either order.
* `Shape.Unordered` — a record any two fields of which commute.
* `Shape.Unordered.readMembers_perm` — permuted members give the same draft.
* `OrderFree` — a way of reading to which the order of members does not matter, at any depth.
* `Shape.OrderFree.readRecord` — records of such fields are read so.
-/

set_option autoImplicit false

namespace Welfare.Json

open Document (ofJsonMembers)

/-! ## Results -/

section

variable {α β : Type}

theorem toOption_bind (x : Decoded α) (f : α → Decoded β) :
    (x >>= f).toOption = x.toOption.bind fun a ↦ (f a).toOption := by
  cases x with
  | error e => rfl
  | ok a => rfl

theorem toOption_eq_some {x : Decoded α} {a : α} : x.toOption = some a ↔ x = .ok a := by
  cases x with
  | error e => exact iff_of_false nofun nofun
  | ok b => exact ⟨fun h ↦ by cases h; rfl, fun h ↦ by rw [h]; rfl⟩

end

/-! ## Steps in either order -/

variable {σ : Type}

/-- Two steps that lead to the same draft in either order. -/
def Commutes (f g : σ → Decoded σ) : Prop :=
  ∀ draft, (f draft >>= g).toOption = (g draft >>= f).toOption

theorem Commutes.symm {f g : σ → Decoded σ} (h : Commutes f g) : Commutes g f :=
  fun draft ↦ (h draft).symm

/-- The reading of a member into a slot. -/
def Slot.read (s : Slot σ) (key : String) (d : Document) (draft : σ) : Decoded σ :=
  if s.filled draft then .error (.duplicateField key) else s.fill draft d

section

variable {α β : Type} {name : String} {get : σ → Option α} {set : σ → α → σ}
  {read : Document → Decoded α}

theorem Slot.toOption_read_of (key : String) (d : Document) (draft : σ) :
    ((Slot.of name get set read).read key d draft).toOption =
      if (get draft).isSome then none else (read d).toOption.map (set draft) := by
  rw [Slot.read]
  split
  · next h => exact (if_pos h).symm
  · next h =>
    refine Eq.trans ?_ (if_neg h).symm
    show (read d >>= fun a ↦ pure (set draft a)).toOption = _
    rw [toOption_bind]
    cases (read d).toOption with
    | none => rfl
    | some a => rfl

/-- Slots that hold different parts of a draft commute. -/
theorem Slot.commutes_of {name' : String} {get' : σ → Option β} {set' : σ → β → σ}
    {read' : Document → Decoded β} (hget : ∀ draft b, get (set' draft b) = get draft)
    (hget' : ∀ draft a, get' (set draft a) = get' draft)
    (hset : ∀ draft a b, set' (set draft a) b = set (set' draft b) a)
    (k l : String) (d e : Document) :
    Commutes ((Slot.of name get set read).read k d) ((Slot.of name' get' set' read').read l e) := by
  intro draft
  rw [toOption_bind, toOption_bind, Slot.toOption_read_of, Slot.toOption_read_of]
  simp only [Slot.toOption_read_of]
  by_cases h : (get draft).isSome
  · by_cases h' : (get' draft).isSome
    · rw [if_pos h, if_pos h']; rfl
    · rw [if_pos h, if_neg h']
      cases (read' e).toOption with
      | none => rfl
      | some b => exact (if_pos (by rwa [hget])).symm
  · by_cases h' : (get' draft).isSome
    · rw [if_neg h, if_pos h']
      cases (read d).toOption with
      | none => rfl
      | some a => exact if_pos (by rwa [hget'])
    · rw [if_neg h, if_neg h']
      cases (read d).toOption with
      | none =>
        cases (read' e).toOption with
        | none => rfl
        | some b => exact (ite_self _).symm
      | some a =>
        cases (read' e).toOption with
        | none => exact ite_self _
        | some b =>
          refine (if_neg (by rwa [hget'])).trans (Eq.trans ?_ (if_neg (by rwa [hget])).symm)
          exact congrArg some (hset draft a b)

/-- Skimming commutes with everything: it leaves the draft alone. -/
theorem commutes_skimOther (f : σ → Decoded σ) (key : String) (d : Document) :
    Commutes f (Shape.skimOther · key d) := by
  intro draft
  rw [toOption_bind]
  cases hskim : Document.sound d.skim with
  | error e =>
    have hnone : ∀ a : σ, Shape.skimOther a key d = .error e := fun a ↦ by
      rw [Shape.skimOther, hskim]; rfl
    simp only [hnone]
    cases (f draft).toOption with
    | none => rfl
    | some a => rfl
  | ok u =>
    have hsome : ∀ a : σ, Shape.skimOther a key d = .ok a := fun a ↦ by
      rw [Shape.skimOther, hskim]; rfl
    simp only [hsome]
    exact Option.bind_fun_some _

variable {store : Shape.Store σ}

theorem toOption_store_other (draft : σ) (key : String) (v : Json) :
    store.other draft key (.ofJson v) =
      .ok (store.keep draft (insertMember key v.sorted (store.kept draft))) := by
  rw [Shape.Store.other, Document.asJson_ofJson]
  rfl

/-- Keeping an unknown member commutes with a slot that holds another part of the draft. -/
theorem commutes_store (hget : ∀ draft ms, get (store.keep draft ms) = get draft)
    (hkept : ∀ draft a, store.kept (set draft a) = store.kept draft)
    (hset : ∀ draft a ms, set (store.keep draft ms) a = store.keep (set draft a) ms)
    (k l : String) (d : Document) (v : Json) :
    Commutes ((Slot.of name get set read).read k d) (store.other · l (.ofJson v)) := by
  intro draft
  simp only [toOption_store_other]
  rw [toOption_bind, Slot.toOption_read_of]
  show _ = ((Slot.of name get set read).read k d _).toOption
  rw [Slot.toOption_read_of, hget]
  split
  · rfl
  · cases (read d).toOption with
    | none => rfl
    | some a =>
      refine congrArg some ?_
      rw [hkept, hset]

/-- Two unknown members with different keys are kept in either order. -/
theorem commutes_store_store {k l : String} (h : k ≠ l) (v w : Json) :
    Commutes (store.other · k (.ofJson v)) (store.other · l (.ofJson w)) := by
  intro draft
  simp only [toOption_store_other]
  show some (store.keep (store.keep draft _) _) = some (store.keep (store.keep draft _) _)
  rw [store.kept_keep, store.kept_keep, store.keep_keep, store.keep_keep,
    insertMember_comm h]

end

/-! ## Members in either order -/

namespace Shape

variable {shape : Shape σ}

/-- Any two members with different keys may be read in either order. -/
structure Unordered (shape : Shape σ) : Prop where
  slots : shape.slots.Pairwise fun s t ↦ ∀ k l d e, Commutes (s.read k d) (t.read l e)
  other : ∀ s ∈ shape.slots, ∀ k l d v, Commutes (s.read k d) (shape.other · l (.ofJson v))
  others : ∀ {k l : String}, k ≠ l → ∀ v w,
    Commutes (shape.other · k (.ofJson v)) (shape.other · l (.ofJson w))

namespace Unordered

theorem slot_slot (h : shape.Unordered) {s t : Slot σ} (hs : s ∈ shape.slots)
    (ht : t ∈ shape.slots) (hne : s ≠ t) (k l : String) (d e : Document) :
    Commutes (s.read k d) (t.read l e) := by
  have hsymm : Std.Symm fun s t : Slot σ ↦ ∀ k l d e, Commutes (s.read k d) (t.read l e) :=
    ⟨fun _ _ hst k l d e ↦ (hst l k e d).symm⟩
  exact h.slots.forall hs ht hne k l d e

theorem readMember_comm (h : shape.Unordered) {k l : String} (hne : k ≠ l) (v w : Json) :
    Commutes (shape.readMember · k (.ofJson v)) (shape.readMember · l (.ofJson w)) := by
  have hslot : ∀ {i : String} {s : Slot σ}, shape.slots.find? (·.name == i) = some s →
      ∀ d, (shape.readMember · i d) = s.read i d := fun hfind d ↦
    funext fun draft ↦ readMember_of_find? hfind
  have hother : ∀ {i : String}, shape.slots.find? (·.name == i) = none →
      ∀ d, (shape.readMember · i d) = (shape.other · i d) := fun hfind d ↦
    funext fun draft ↦ by rw [readMember, hfind]
  cases hk : shape.slots.find? (·.name == k) with
  | none =>
    cases hl : shape.slots.find? (·.name == l) with
    | none =>
      rw [hother hk, hother hl]
      exact h.others hne v w
    | some t =>
      rw [hother hk, hslot hl]
      exact (h.other t (List.mem_of_find?_eq_some hl) l k _ v).symm
  | some s =>
    cases hl : shape.slots.find? (·.name == l) with
    | none =>
      rw [hslot hk, hother hl]
      exact h.other s (List.mem_of_find?_eq_some hk) k l _ w
    | some t =>
      have hsk : s.name = k := by simpa using List.find?_some hk
      have htl : t.name = l := by simpa using List.find?_some hl
      have hst : s ≠ t := fun heq ↦ hne (by rw [← hsk, ← htl, heq])
      rw [hslot hk, hslot hl]
      exact h.slot_slot (List.mem_of_find?_eq_some hk) (List.mem_of_find?_eq_some hl) hst k l _ _

/-- Permuted members give the same draft. -/
theorem readMembers_perm (h : shape.Unordered) {ms ns : List Member} (hperm : ms.Perm ns)
    (hdistinct : (ms.map Prod.fst).Nodup) (draft : σ) :
    (shape.readMembers draft (ofJsonMembers ms)).toOption =
      (shape.readMembers draft (ofJsonMembers ns)).toOption := by
  induction hperm generalizing draft with
  | nil => rfl
  | cons m _ ih =>
    rw [readMembers_cons, readMembers_cons, toOption_bind, toOption_bind]
    exact congrArg _ (funext (ih (List.nodup_cons.1 hdistinct).2))
  | swap m n ms =>
    obtain ⟨k, v⟩ := m
    obtain ⟨l, w⟩ := n
    have hne : l ≠ k := fun heq ↦ (List.nodup_cons.1 hdistinct).1 (heq ▸ List.mem_cons_self)
    have hcomm := h.readMember_comm hne w v draft
    rw [toOption_bind, toOption_bind] at hcomm
    simp only [readMembers_cons, toOption_bind, ← Option.bind_assoc]
    rw [hcomm]
  | trans hfirst _ ih₁ ih₂ =>
    exact (ih₁ hdistinct draft).trans (ih₂ ((hfirst.map Prod.fst).nodup_iff.1 hdistinct) draft)

end Unordered

end Shape

/-! ## Reading at any depth -/

section

variable {α β : Type} {read : Document → Decoded α}

/-- The order of members does not matter, at any depth, to what is read. -/
def OrderFree (read : Document → Decoded α) : Prop :=
  ∀ v : Json, v.DistinctKeys → (read (.ofJson v)).toOption = (read (.ofJson v.sorted)).toOption

/-- Orderings of one value are read alike. -/
theorem OrderFree.eq_ok_iff (h : OrderFree read) {v w : Json} (hw : w.IsOrderingOf v)
    (hv : v.DistinctKeys) {a : α} : read (.ofJson w) = .ok a ↔ read (.ofJson v) = .ok a := by
  rw [← toOption_eq_some, ← toOption_eq_some, h w hw.distinct, hw.sorted_eq, ← h v hv]

theorem OrderFree.of_isOrderingOf (h : OrderFree read) {v w : Json} (hw : w.IsOrderingOf v)
    (hv : v.DistinctKeys) {a : α} (ha : read (.ofJson v) = .ok a) : read (.ofJson w) = .ok a :=
  (h.eq_ok_iff hw hv).2 ha

theorem OrderFree.bind (h : OrderFree read) (f : α → Decoded β) :
    OrderFree fun d ↦ read d >>= f := fun v hv ↦ by
  rw [toOption_bind, toOption_bind, h v hv]

theorem orderFree_asJson : OrderFree Document.asJson := fun v _ ↦ by
  rw [Document.asJson_ofJson, Document.asJson_ofJson, sorted_sorted]

theorem orderFree_floatOrNone : OrderFree Document.floatOrNone :=
  orderFree_asJson.bind _

theorem orderFree_asString : OrderFree Document.asString := fun v _ ↦ by
  cases v <;> rfl

theorem orderFree_asBool : OrderFree Document.asBool := fun v _ ↦ by
  cases v <;> rfl

theorem OrderFree.optional (h : OrderFree read) : OrderFree (Document.optional read) := by
  intro v hv
  by_cases hnull : v = .null
  · rw [hnull]; rfl
  · have hsorted : v.sorted ≠ .null := by
      cases v with
      | null => exact absurd rfl hnull
      | _ => exact nofun
    rw [Document.optional_of_ne_null (Document.ofJson_ne_null hnull),
      Document.optional_of_ne_null (Document.ofJson_ne_null hsorted)]
    exact h.bind _ v hv

theorem OrderFree.orDefault [Inhabited α] (h : OrderFree read) :
    OrderFree (Document.orDefault read) :=
  h.optional.bind _

theorem OrderFree.mapM (h : OrderFree read) (xs : List Json) (hxs : DistinctItems xs) :
    ((Document.ofJsonItems xs).mapM read).toOption =
      ((Document.ofJsonItems (sortedItems xs)).mapM read).toOption := by
  induction xs with
  | nil => rfl
  | cons x xs ih =>
    rw [sortedItems, Document.ofJsonItems, Document.ofJsonItems, List.mapM_cons, List.mapM_cons,
      toOption_bind, toOption_bind, h x hxs.1]
    refine congrArg _ (funext fun a ↦ ?_)
    rw [toOption_bind, toOption_bind, ih hxs.2]

theorem OrderFree.listOf (h : OrderFree read) : OrderFree (Document.listOf read) := fun v hv ↦ by
  cases v with
  | arr xs =>
    rw [sorted, Document.ofJson, Document.ofJson, Document.listOf, Document.listOf, toOption_bind,
      toOption_bind, h.mapM xs hv]
  | _ => rfl

end

theorem Slot.orderFree_of {α : Type} {name : String} {get : σ → Option α} {set : σ → α → σ}
    {read : Document → Decoded α} (h : OrderFree read) (draft : σ) :
    OrderFree ((Slot.of name get set read).fill draft) :=
  h.bind _

theorem orderFree_skimOther (draft : σ) (key : String) :
    OrderFree (Shape.skimOther draft key) := fun v _ ↦ by
  rw [Shape.skimOther, Shape.skimOther, skim_ofJson, skim_ofJson]

theorem orderFree_store (store : Shape.Store σ) (draft : σ) (key : String) :
    OrderFree (store.other draft key) :=
  orderFree_asJson.bind _

/-! ## Records -/

namespace Shape

variable {shape : Shape σ}

/-- A record whose members may come in any order, at any depth. -/
structure OrderFree (shape : Shape σ) : Prop extends shape.Unordered where
  fill : ∀ s ∈ shape.slots, ∀ draft, Json.OrderFree (s.fill draft)
  other_fill : ∀ draft key, Json.OrderFree (shape.other draft key)

namespace OrderFree

/-- Where unknown members are skimmed, only the slots count. -/
theorem of_skimOther (hother : shape.other = skimOther)
    (hslots : shape.slots.Pairwise fun s t ↦ ∀ k l d e, Commutes (s.read k d) (t.read l e))
    (hfill : ∀ s ∈ shape.slots, ∀ draft, Json.OrderFree (s.fill draft)) : shape.OrderFree where
  slots := hslots
  other _ _ _ l _ v := hother ▸ commutes_skimOther _ l (.ofJson v)
  others {_ l} _ _ w := hother ▸ commutes_skimOther _ l (.ofJson w)
  fill := hfill
  other_fill := hother ▸ orderFree_skimOther

/-- Two fields that are held apart, where unknown members are skimmed. -/
theorem of_pair {α β : Type} {name name' : String} {get : σ → Option α} {set : σ → α → σ}
    {read : Document → Decoded α} {get' : σ → Option β} {set' : σ → β → σ}
    {read' : Document → Decoded β}
    (hslots : shape.slots = [.of name get set read, .of name' get' set' read'])
    (hother : shape.other = skimOther) (hget : ∀ draft b, get (set' draft b) = get draft)
    (hget' : ∀ draft a, get' (set draft a) = get' draft)
    (hset : ∀ draft a b, set' (set draft a) b = set (set' draft b) a)
    (h : Json.OrderFree read) (h' : Json.OrderFree read') : shape.OrderFree := by
  refine .of_skimOther hother ?_ ?_
  · rw [hslots]
    exact List.pairwise_pair.2 (Slot.commutes_of hget hget' hset)
  · rw [hslots]
    intro s hs draft
    rcases List.mem_pair.1 hs with rfl | rfl
    · exact Slot.orderFree_of h draft
    · exact Slot.orderFree_of h' draft

/-- Where unknown members are kept, the slots have to leave them alone. -/
theorem of_store (store : Store σ) (hother : shape.other = store.other)
    (hslots : shape.slots.Pairwise fun s t ↦ ∀ k l d e, Commutes (s.read k d) (t.read l e))
    (hstore : ∀ s ∈ shape.slots, ∀ k l d v,
      Commutes (s.read k d) (store.other · l (.ofJson v)))
    (hfill : ∀ s ∈ shape.slots, ∀ draft, Json.OrderFree (s.fill draft)) : shape.OrderFree where
  slots := hslots
  other := hother ▸ hstore
  others hne v w := hother ▸ commutes_store_store hne v w
  fill := hfill
  other_fill := hother ▸ orderFree_store store

theorem readMember (h : shape.OrderFree) (draft : σ) (key : String) :
    Json.OrderFree (shape.readMember draft key) := fun v hv ↦ by
  cases hslot : shape.slots.find? (·.name == key) with
  | none =>
    rw [Shape.readMember, Shape.readMember, hslot]
    exact h.other_fill draft key v hv
  | some s =>
    rw [readMember_of_find? hslot, readMember_of_find? hslot]
    split
    · rfl
    · exact h.fill s (List.mem_of_find?_eq_some hslot) draft v hv

/-- Members with their values sorted give the same draft. -/
theorem readMembers_map (h : shape.OrderFree) (draft : σ) {ms : List Member}
    (hms : DistinctMembers ms) :
    (shape.readMembers draft (ofJsonMembers ms)).toOption =
      (shape.readMembers draft (ofJsonMembers (ms.map fun m ↦ (m.1, m.2.sorted)))).toOption := by
  induction ms generalizing draft with
  | nil => rfl
  | cons m ms ih =>
    obtain ⟨k, v⟩ := m
    rw [List.map_cons, readMembers_cons, readMembers_cons, toOption_bind, toOption_bind,
      h.readMember draft k v hms.1]
    exact congrArg _ (funext fun next ↦ ih next hms.2)

/-- Sorted members give the same draft. -/
theorem readMembers (h : shape.OrderFree) (draft : σ) {ms : List Member}
    (hms : DistinctKeys (.obj ms)) :
    (shape.readMembers draft (ofJsonMembers ms)).toOption =
      (shape.readMembers draft (ofJsonMembers (sortedMembers ms []))).toOption := by
  have hperm : (sortedMembers ms []).Perm (ms.map fun m ↦ (m.1, m.2.sorted)) :=
    perm_sortedMembers hms.1
  have hkeys : (ms.map fun m ↦ (m.1, m.2.sorted)).map Prod.fst = ms.map Prod.fst := by
    rw [List.map_map]; rfl
  rw [h.readMembers_map draft hms.2]
  exact (h.readMembers_perm hperm ((hperm.map Prod.fst).nodup_iff.2 (hkeys ▸ hms.1)) draft).symm

theorem readObject (h : shape.OrderFree) (draft : σ) :
    Json.OrderFree (shape.readObject draft) := fun v hv ↦ by
  cases v with
  | obj ms =>
    rw [sorted, Document.ofJson, Document.ofJson, Shape.readObject, Shape.readObject, toOption_bind,
      toOption_bind, h.readMembers draft hv]
  | _ => rfl

theorem fillSlots (h : shape.OrderFree) {slots : List (Slot σ)} (hslots : slots ⊆ shape.slots)
    (draft : σ) (xs : List Json) (hxs : DistinctItems xs) :
    (Shape.fillSlots draft slots (Document.ofJsonItems xs)).toOption =
      (Shape.fillSlots draft slots (Document.ofJsonItems (sortedItems xs))).toOption := by
  induction slots generalizing draft xs with
  | nil => cases xs <;> rfl
  | cons s slots ih =>
    cases xs with
    | nil => rfl
    | cons x xs =>
      rw [sortedItems, Document.ofJsonItems, Document.ofJsonItems, Shape.fillSlots, Shape.fillSlots,
        toOption_bind, toOption_bind, h.fill s (hslots List.mem_cons_self) draft x hxs.1]
      refine congrArg _ (funext fun next ↦ ih (fun t ht ↦ ?_) next xs hxs.2)
      exact hslots (List.mem_cons_of_mem s ht)

theorem length_ofJsonItems_sorted (xs : List Json) :
    (Document.ofJsonItems (sortedItems xs)).length = (Document.ofJsonItems xs).length := by
  induction xs with
  | nil => rfl
  | cons x xs ih => exact congrArg (· + 1) ih

theorem readRecord (h : shape.OrderFree) (origin : Origin) (draft : σ) :
    Json.OrderFree (shape.readRecord origin draft) := fun v hv ↦ by
  cases v with
  | obj ms => exact (h.readObject draft).bind _ (.obj ms) hv
  | arr xs =>
    have hslots := h.fillSlots (List.Subset.refl _) draft xs hv
    rw [sorted, Document.ofJson, Document.ofJson, Shape.readRecord, Shape.readRecord, toOption_bind,
      toOption_bind, Shape.readList, Shape.readList, toOption_bind, toOption_bind, hslots,
      length_ofJsonItems_sorted]
  | _ => rfl

end OrderFree

end Shape

end Welfare.Json
