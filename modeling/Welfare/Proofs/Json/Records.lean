import Welfare.Json.Decode
import Welfare.Proofs.Json.Order

/-!
# Reading records

A record is read by filling a draft, member by member.  This file says once what such a run does, so
that the facts about a record follow from facts about its fields.

* `Decoded.bind_eq_ok` — taking a successful computation apart.
* `Shape.Keeps` — a property of drafts that no field destroys; it holds of every draft that is read
  (`Shape.Keeps.readRecord`).
* `readMembers_cons`, `readMembers_optionalMember` — running through members that are written down.
* `lookup_kept` — a record that keeps its unknown members keeps exactly those.
* `fill_of_lookup` — a slot is filled from the member of its name, if there is one.
-/

set_option autoImplicit false

namespace Welfare.Json

open Document (ofJsonMembers)

/-! ## Successful computations -/

section

variable {α β : Type}

/-- A computation succeeds when both of its steps do. -/
theorem Decoded.bind_eq_ok {x : Decoded α} {f : α → Decoded β} {b : β} :
    x >>= f = .ok b ↔ ∃ a, x = .ok a ∧ f a = .ok b := by
  cases x with
  | error e => exact iff_of_false nofun fun ⟨_, h, _⟩ ↦ nomatch h
  | ok a => exact ⟨fun h ↦ ⟨a, rfl, h⟩, fun ⟨_, h, hf⟩ ↦ by cases h; exact hf⟩

theorem Decoded.map_eq_ok {x : Decoded α} {f : α → β} {b : β} :
    (do let a ← x; return f a) = .ok b ↔ ∃ a, x = .ok a ∧ b = f a := by
  refine Decoded.bind_eq_ok.trans (exists_congr fun a ↦ and_congr_right fun _ ↦ ?_)
  exact ⟨fun h ↦ by cases h; rfl, fun h ↦ by rw [h]; rfl⟩

theorem Document.sound_eq_ok {r : Except Fault α} {a : α} :
    Document.sound r = .ok a ↔ r = .ok a := by
  cases r with
  | error f => exact iff_of_false nofun nofun
  | ok b => exact ⟨fun h ↦ by cases h; rfl, fun h ↦ by rw [h]; rfl⟩

/-- Nothing is read where something else stands. -/
theorem Document.mismatch_ne_ok {d : Document} {wanted : Wanted} {a : α} :
    d.mismatch wanted ≠ .ok a := by
  rw [Document.mismatch]
  split <;> exact nofun

theorem Document.asJson_eq_ok {d : Document} {v : Json} : d.asJson = .ok v ↔ d.toJson = .ok v :=
  Document.sound_eq_ok

theorem Document.asJson_ofJson (v : Json) : (Document.ofJson v).asJson = .ok v.sorted :=
  Document.asJson_eq_ok.2 (toJson_ofJson v)

theorem Document.ofJsonMembers_append (ms ns : List Json.Member) :
    ofJsonMembers (ms ++ ns) = ofJsonMembers ms ++ ofJsonMembers ns := by
  induction ms with
  | nil => rfl
  | cons m ms ih => exact congrArg (_ :: ·) ih

end

/-! ## Properties of drafts -/

namespace Shape

variable {σ : Type} {shape : Shape σ} {P : σ → Prop}

/-- No field and no other member destroys the property. -/
structure Keeps (shape : Shape σ) (P : σ → Prop) : Prop where
  slot : ∀ s ∈ shape.slots, ∀ {draft draft' : σ} {d : Document},
    P draft → s.fill draft d = .ok draft' → P draft'
  other : ∀ {key : String}, key ∉ shape.slots.map Slot.name → ∀ {draft draft' : σ} {d : Document},
    P draft → shape.other draft key d = .ok draft' → P draft'

/-- Filling a slot keeps what does not depend on it and holds of what was read. -/
theorem keeps_of {α : Type} {name : String} {get : σ → Option α} {set : σ → α → σ}
    {read : Document → Decoded α} {draft draft' : σ} {d : Document}
    (hset : ∀ a, read d = .ok a → P (set draft a))
    (h : (Slot.of name get set read).fill draft d = .ok draft') : P draft' := by
  obtain ⟨a, hread, rfl⟩ := Decoded.map_eq_ok.1 h
  exact hset a hread

/-- Skimming leaves the draft alone. -/
theorem eq_of_skimOther (hskim : shape.other = skimOther) {draft draft' : σ} {key : String}
    {d : Document} (h : shape.other draft key d = .ok draft') : draft' = draft := by
  rw [hskim] at h
  obtain ⟨_, _, rfl⟩ := Decoded.map_eq_ok.1 h
  rfl

/-- A member is read into the slot of its name, or as an unknown member. -/
theorem readMember_cases {draft draft' : σ} {key : String} {d : Document}
    (h : shape.readMember draft key d = .ok draft') :
    (∃ s ∈ shape.slots, s.name = key ∧ s.fill draft d = .ok draft') ∨
      key ∉ shape.slots.map Slot.name ∧ shape.other draft key d = .ok draft' := by
  rw [readMember] at h
  split at h
  · next s hs =>
    split at h
    · cases h
    · exact Or.inl ⟨s, List.mem_of_find?_eq_some hs, by simpa using List.find?_some hs, h⟩
  · next hnone =>
    refine Or.inr ⟨fun hkey ↦ ?_, h⟩
    obtain ⟨s, hs, rfl⟩ := List.mem_map.1 hkey
    exact List.find?_eq_none.1 hnone s hs (beq_self_eq_true s.name)

namespace Keeps

variable {draft draft' : σ}

theorem readMember (h : shape.Keeps P) {key : String} {d : Document} (hdraft : P draft)
    (hread : shape.readMember draft key d = .ok draft') : P draft' := by
  obtain ⟨s, hs, _, hfill⟩ | ⟨hkey, hother⟩ := readMember_cases hread
  · exact h.slot s hs hdraft hfill
  · exact h.other hkey hdraft hother

theorem readMembers (h : shape.Keeps P) {ms : List Document.Member} (hdraft : P draft)
    (hread : shape.readMembers draft ms = .ok draft') : P draft' := by
  induction ms generalizing draft with
  | nil => cases hread; exact hdraft
  | cons m ms ih =>
    obtain ⟨k, _, hread⟩ := Decoded.bind_eq_ok.1 hread
    obtain ⟨next, hmember, hrest⟩ := Decoded.bind_eq_ok.1 hread
    exact ih (h.readMember hdraft hmember) hrest

theorem fillSlots (h : shape.Keeps P) {slots : List (Slot σ)} (hslots : slots ⊆ shape.slots)
    {ds : List Document} (hdraft : P draft) (hread : Shape.fillSlots draft slots ds = .ok draft') :
    P draft' := by
  induction slots generalizing draft ds with
  | nil => cases hread; exact hdraft
  | cons s slots ih =>
    cases ds with
    | nil => cases hread; exact hdraft
    | cons d ds =>
      obtain ⟨next, hfill, hrest⟩ := Decoded.bind_eq_ok.1 hread
      have hs : s ∈ shape.slots := hslots List.mem_cons_self
      exact ih (fun t ht ↦ hslots (List.mem_cons_of_mem s ht)) (h.slot s hs hdraft hfill) hrest

theorem readObject (h : shape.Keeps P) {d : Document} (hdraft : P draft)
    (hread : shape.readObject draft d = .ok draft') : P draft' := by
  unfold Shape.readObject at hread
  split at hread
  · obtain ⟨next, hmembers, hread⟩ := Decoded.bind_eq_ok.1 hread
    obtain ⟨_, _, rfl⟩ := Decoded.map_eq_ok.1 hread
    exact h.readMembers hdraft hmembers
  · cases hread
  · exact absurd hread Document.mismatch_ne_ok

theorem readList (h : shape.Keeps P) {origin : Origin} {items : List Document}
    {closing : Option Fault} (hdraft : P draft)
    (hread : shape.readList origin draft items closing = .ok draft') : P draft' := by
  obtain ⟨next, hfill, hread⟩ := Decoded.bind_eq_ok.1 hread
  have hnext : P next := h.fillSlots (List.Subset.refl _) hdraft hfill
  split at hread
  · cases hread
  · split at hread
    · obtain ⟨_, _, rfl⟩ := Decoded.map_eq_ok.1 hread
      exact hnext
    · obtain ⟨_, _, rfl⟩ := Decoded.map_eq_ok.1 hread
      exact hnext

/-- The property holds of every draft that is read. -/
theorem readRecord (h : shape.Keeps P) {origin : Origin} {d : Document} {form : Form}
    (hdraft : P draft) (hread : shape.readRecord origin draft d = .ok (draft', form)) :
    P draft' := by
  unfold Shape.readRecord at hread
  split at hread
  · obtain ⟨next, hlist, hpair⟩ := Decoded.map_eq_ok.1 hread
    cases hpair
    exact h.readList hdraft hlist
  · cases hread
  · obtain ⟨next, hobject, hpair⟩ := Decoded.map_eq_ok.1 hread
    cases hpair
    exact h.readObject hdraft hobject

end Keeps

/-! ## Running through members -/

variable {draft draft' : σ} {ms : List Member}

theorem readMembers_cons (shape : Shape σ) (draft : σ) (k : String) (v : Json) (ms : List Member) :
    shape.readMembers draft (ofJsonMembers ((k, v) :: ms)) =
      shape.readMember draft k (.ofJson v) >>= fun next ↦
        shape.readMembers next (ofJsonMembers ms) := rfl

/-- Members are read one part after the other. -/
theorem readMembers_append (shape : Shape σ) (draft : σ) (ms ns : List Member) :
    shape.readMembers draft (ofJsonMembers (ms ++ ns)) =
      shape.readMembers draft (ofJsonMembers ms) >>= fun next ↦
        shape.readMembers next (ofJsonMembers ns) := by
  induction ms generalizing draft with
  | nil => rfl
  | cons m ms ih =>
    obtain ⟨k, v⟩ := m
    rw [List.cons_append, readMembers_cons, readMembers_cons]
    cases shape.readMember draft k (.ofJson v) with
    | error e => rfl
    | ok next => exact ih next

/-- A member that can be read leads to the draft with it. -/
theorem readMembers_cons_of {k : String} {v : Json}
    (h : shape.readMember draft k (.ofJson v) = .ok draft') :
    shape.readMembers draft (ofJsonMembers ((k, v) :: ms)) =
      shape.readMembers draft' (ofJsonMembers ms) := by
  rw [readMembers_cons, h]
  rfl

/-- A member that was written only if it is set leads to one draft in both cases. -/
theorem readMembers_optionalMember {α : Type} {key : String} {write : α → Json} {x : Option α}
    (draft' : σ) (hnone : x = none → draft' = draft)
    (hsome : ∀ a, x = some a → shape.readMember draft key (.ofJson (write a)) = .ok draft') :
    shape.readMembers draft (ofJsonMembers (optionalMember key write x ++ ms)) =
      shape.readMembers draft' (ofJsonMembers ms) := by
  cases x with
  | none => rw [hnone rfl]; rfl
  | some a => exact readMembers_cons_of (hsome a rfl)

/-- A member with the name of a slot is read into the slot, once. -/
theorem readMember_of_find? {key : String} {d : Document} {s : Slot σ}
    (hslot : shape.slots.find? (·.name == key) = some s) :
    shape.readMember draft key d =
      if s.filled draft then .error (.duplicateField key) else s.fill draft d := by
  rw [readMember, hslot]

theorem readMember_slot {key : String} {d : Document} {s : Slot σ}
    (hslot : shape.slots.find? (·.name == key) = some s) (hempty : s.filled draft = false) :
    shape.readMember draft key d = s.fill draft d := by
  rw [readMember_of_find? hslot, if_neg (Bool.eq_false_iff.1 hempty)]

/-- A field that can be read is put into its slot. -/
theorem readMember_of {α : Type} {name key : String} {get : σ → Option α} {set : σ → α → σ}
    {read : Document → Decoded α} {d : Document} {a : α}
    (hslot : shape.slots.find? (·.name == key) = some (Slot.of name get set read))
    (hempty : (get draft).isSome = false) (hread : read d = .ok a) :
    shape.readMember draft key d = .ok (set draft a) := by
  rw [readMember_slot hslot hempty]
  show (do let a ← read d; return set draft a) = _
  rw [hread]
  rfl

theorem readMember_other {key : String} {d : Document} (h : key ∉ shape.slots.map Slot.name) :
    shape.readMember draft key d = shape.other draft key d := by
  have hnone : shape.slots.find? (·.name == key) = none :=
    List.find?_eq_none.2 fun s hs hkey ↦ h (beq_iff_eq.1 hkey ▸ List.mem_map_of_mem hs)
  rw [readMember, hnone]

/-- An object is read when its members are. -/
theorem readObject_of (h : shape.readMembers draft (ofJsonMembers ms) = .ok draft') :
    shape.readObject draft (.ofJson (.obj ms)) = .ok draft' := by
  rw [Document.ofJson, readObject, h]
  rfl

/-- Only objects are read as objects. -/
theorem exists_of_readObject {v : Json} (h : shape.readObject draft (.ofJson v) = .ok draft') :
    ∃ ms, v = .obj ms ∧ shape.readMembers draft (ofJsonMembers ms) = .ok draft' := by
  cases v with
  | obj ms =>
    rw [Document.ofJson, readObject] at h
    obtain ⟨next, hmembers, h⟩ := Decoded.bind_eq_ok.1 h
    cases h
    exact ⟨ms, rfl, hmembers⟩
  | _ => cases h

theorem readRecord_of (h : shape.readMembers draft (ofJsonMembers ms) = .ok draft')
    (origin : Origin) :
    shape.readRecord origin draft (.ofJson (.obj ms)) = .ok (draft', .named) := by
  show (do return (← shape.readObject draft (.ofJson (.obj ms)), Form.named)) = _
  rw [readObject_of h]
  rfl

/-! ## Slots -/

/-- A slot is filled from the member of its name, and stays as it is without one. -/
theorem fill_of_lookup {α : Type} {name : String} {get : σ → Option α} {set : σ → α → σ}
    {read : Document → Decoded α}
    (hslot : shape.slots.find? (·.name == name) = some (Slot.of name get set read))
    (hset : ∀ draft a, get (set draft a) = some a)
    (hslots : ∀ s ∈ shape.slots, s.name ≠ name → ∀ {draft draft' : σ} {d : Document},
      s.fill draft d = .ok draft' → get draft' = get draft)
    (hother : ∀ {draft draft' : σ} {key : String} {d : Document},
      shape.other draft key d = .ok draft' → get draft' = get draft)
    (hdistinct : (ms.map Prod.fst).Nodup)
    (hread : shape.readMembers draft (ofJsonMembers ms) = .ok draft') :
    match ms.lookup name with
    | none => get draft' = get draft
    | some v => ∃ a, read (.ofJson v) = .ok a ∧ get draft' = some a := by
  induction ms generalizing draft with
  | nil => cases hread; rfl
  | cons m ms ih =>
    obtain ⟨k, v⟩ := m
    rw [List.map_cons, List.nodup_cons] at hdistinct
    rw [readMembers_cons] at hread
    obtain ⟨next, hmember, hrest⟩ := Decoded.bind_eq_ok.1 hread
    have hnext := ih hdistinct.2 hrest
    rw [lookup_cons_eq_ite]
    by_cases hk : name = k
    · subst hk
      rw [lookup_eq_none_of_notMem hdistinct.1] at hnext
      rw [if_pos rfl]
      rw [readMember_of_find? hslot] at hmember
      split at hmember
      · cases hmember
      · obtain ⟨a, ha, rfl⟩ := Decoded.map_eq_ok.1 hmember
        exact ⟨a, ha, hnext.trans (hset draft a)⟩
    · have hget : get next = get draft := by
        obtain ⟨s, hs, rfl, hfill⟩ | ⟨_, hkeep⟩ := readMember_cases hmember
        · exact hslots s hs (Ne.symm hk) hfill
        · exact hother hkeep
      rw [if_neg hk]
      rw [hget] at hnext
      exact hnext

/-! ## Records that keep their unknown members -/

/-- A place in a draft for the unknown members of a record. -/
structure Store (σ : Type) where
  kept : σ → List Member
  keep : σ → List Member → σ
  kept_keep : ∀ draft ms, kept (keep draft ms) = ms
  keep_keep : ∀ draft ms ns, keep (keep draft ms) ns = keep draft ns
  keep_kept : ∀ draft, keep draft (kept draft) = draft

/-- Puts an unknown member in its place among those that are kept. -/
def Store.other (store : Store σ) (draft : σ) (key : String) (d : Document) : Decoded σ :=
  return store.keep draft (insertMember key (← d.asJson) (store.kept draft))

variable {store : Store σ}

/-- Members that a record keeps: they are sorted, and none of them is a field. -/
structure Unknown (fields : List String) (ms : List Member) : Prop where
  sorted : SortedKeys (.obj ms)
  unknown : ∀ m ∈ ms, m.1 ∉ fields

theorem unknown_nil (fields : List String) : Unknown fields [] :=
  ⟨sortedKeys_nil, nofun⟩

/-- Keeping a member that is not a field keeps the members sorted. -/
theorem Store.unknown_other (store : Store σ) {fields : List String} {key : String} {d : Document}
    (h : Unknown fields (store.kept draft)) (hkey : key ∉ fields)
    (hread : store.other draft key d = .ok draft') : Unknown fields (store.kept draft') := by
  obtain ⟨v, hv, rfl⟩ := Decoded.map_eq_ok.1 hread
  rw [store.kept_keep]
  refine ⟨h.sorted.insertMember (sortedKeys_of_toJson (Document.asJson_eq_ok.1 hv)), fun m hm ↦ ?_⟩
  rcases mem_insertMember hm with rfl | hm
  · exact hkey
  · exact h.unknown m hm

/-- Sorted members that are unknown are kept as they are. -/
theorem readMembers_keep (hother : shape.other = store.other)
    (hunknown : ∀ m ∈ ms, m.1 ∉ shape.slots.map Slot.name)
    (hkeys : ((store.kept draft ++ ms).map Prod.fst).Pairwise (· < ·))
    (hvalues : SortedMembers ms) : shape.readMembers draft (ofJsonMembers ms) =
      .ok (store.keep draft (store.kept draft ++ ms)) := by
  induction ms generalizing draft with
  | nil => rw [List.append_nil, store.keep_kept]; rfl
  | cons m ms ih =>
    obtain ⟨k, v⟩ := m
    have hlast : ∀ m ∈ store.kept draft, m.1 < k := by
      rw [List.map_append, List.pairwise_append] at hkeys
      exact fun m hm ↦ hkeys.2.2 m.1 (List.mem_map_of_mem hm) k List.mem_cons_self
    have hmember : shape.readMember draft k (.ofJson v) =
        .ok (store.keep draft (store.kept draft ++ [(k, v)])) := by
      rw [readMember_other (hunknown _ List.mem_cons_self), hother, Store.other,
        Document.asJson_ofJson, hvalues.1.sorted_eq]
      exact congrArg (fun ns ↦ Except.ok (store.keep draft ns)) (insertMember_of_lt hlast)
    rw [List.append_cons] at hkeys ⊢
    rw [readMembers_cons_of hmember,
      ih (fun m hm ↦ hunknown m (List.mem_cons_of_mem _ hm)) (by rwa [store.kept_keep]) hvalues.2,
      store.kept_keep, store.keep_keep]

/-- The unknown members of a record that was written are kept as they were. -/
theorem readMembers_unknown (store : Store σ) (hother : shape.other = store.other)
    (hms : Unknown (shape.slots.map Slot.name) ms) (hempty : store.kept draft = []) :
    shape.readMembers draft (ofJsonMembers ms) = .ok (store.keep draft ms) := by
  have h : shape.readMembers draft (ofJsonMembers ms) =
      .ok (store.keep draft (store.kept draft ++ ms)) :=
    readMembers_keep hother hms.unknown (by rw [hempty]; exact hms.sorted.1) hms.sorted.2
  rwa [hempty, List.nil_append] at h

/-- Among the members that are kept, those that were read are found again. -/
theorem lookup_kept (store : Store σ) (hother : shape.other = store.other)
    (hslots : ∀ s ∈ shape.slots, ∀ {draft draft' : σ} {d : Document},
      s.fill draft d = .ok draft' → store.kept draft' = store.kept draft)
    (hdistinct : (ms.map Prod.fst).Nodup) (hvalues : SortedMembers ms)
    (hread : shape.readMembers draft (ofJsonMembers ms) = .ok draft')
    {key : String} (hkey : key ∉ shape.slots.map Slot.name) :
    (store.kept draft').lookup key = (ms.lookup key <|> (store.kept draft).lookup key) := by
  induction ms generalizing draft with
  | nil => cases hread; rfl
  | cons m ms ih =>
    obtain ⟨k, v⟩ := m
    rw [List.map_cons, List.nodup_cons] at hdistinct
    rw [readMembers_cons] at hread
    obtain ⟨next, hmember, hrest⟩ := Decoded.bind_eq_ok.1 hread
    rw [ih hdistinct.2 hvalues.2 hrest, lookup_cons_eq_ite]
    obtain ⟨s, hs, rfl, hfill⟩ | ⟨_, hkeep⟩ := readMember_cases hmember
    · have hne : key ≠ s.name := fun h ↦ hkey (h ▸ List.mem_map_of_mem hs)
      rw [if_neg hne, hslots s hs hfill]
    · rw [hother] at hkeep
      obtain ⟨w, hw, rfl⟩ := Decoded.map_eq_ok.1 hkeep
      rw [Document.asJson_ofJson, hvalues.1.sorted_eq] at hw
      cases hw
      rw [store.kept_keep, lookup_insertMember]
      by_cases hk : key = k
      · rw [if_pos hk, if_pos hk, hk, lookup_eq_none_of_notMem hdistinct.1]
        rfl
      · rw [if_neg hk, if_neg hk]

/-- What is read from a sorted object keeps its unknown members as they are. -/
theorem lookup_kept_of_readObject (store : Store σ) (hother : shape.other = store.other)
    (hslots : ∀ s ∈ shape.slots, ∀ {draft draft' : σ} {d : Document},
      s.fill draft d = .ok draft' → store.kept draft' = store.kept draft)
    (hempty : store.kept draft = []) {v : Json} (hv : v.SortedKeys)
    (hread : shape.readObject draft (.ofJson v) = .ok draft') {key : String}
    (hkey : key ∉ shape.slots.map Slot.name) :
    (store.kept draft').lookup key = v.get? key := by
  obtain ⟨ms, rfl, hmembers⟩ := exists_of_readObject hread
  rw [lookup_kept store hother hslots hv.distinctKeys.1 hv.2 hmembers hkey, hempty]
  show (ms.lookup key <|> none) = ms.lookup key
  cases ms.lookup key with
  | none => rfl
  | some v => rfl

end Shape

end Welfare.Json
