import Welfare.Proofs.Json.Members

/-!
# Records, field by field

A record is read member by member, in the order of the document.  When no key is repeated this comes
to the same as looking the fields up, one after the other in the order of the record: no field
depends on another, and none on the members that are not fields.

* `Json.field?` — what a field is read as when it is looked up.
* `Shape.Unordered.toOption_readMembers` — reading member by member and reading field by field.
* `Slot.bind_foldlM_cons` — one field of a record that is read field by field.
* `Shape.toOption_readRecord_origin` — where a document comes from matters to errors only.
-/

set_option autoImplicit false

namespace Welfare.Json

open Document (ofJson ofJsonMembers)

/-! ## Fields -/

section

variable {α β : Type} {read read' : Document → Decoded α} {v w : Json} {name : String}

/-- What a field is read as: nothing when the value has no such member, and `none` when the member
cannot be read. -/
def field? (v : Json) (name : String) (read : Document → Decoded α) : Option (Option α) :=
  match v.get? name with
  | none => some none
  | some w => (read (.ofJson w)).toOption.map some

theorem field?_of_none (h : v.get? name = none) : v.field? name read = some none := by
  rw [field?, h]

theorem field?_of_some (h : v.get? name = some w) :
    v.field? name read = (read (ofJson w)).toOption.map some := by
  rw [field?, h]

/-- A field depends on its member only, and only on what is read from it. -/
theorem field?_congr (hget : v.get? name = w.get? name)
    (hread : ∀ x, (read (ofJson x)).toOption = (read' (ofJson x)).toOption) :
    v.field? name read = w.field? name read' := by
  cases hx : w.get? name with
  | none => rw [field?_of_none hx, field?_of_none (hget.trans hx)]
  | some x => rw [field?_of_some hx, field?_of_some (hget.trans hx), hread]

/-- A field that may be unset reads the same whether it is missing or `null`. -/
theorem map_join_field? : (v.field? name (Document.optional read)).map Option.join =
    ((ofJson ((v.get? name).getD .null)).optional read).toOption := by
  cases hw : v.get? name with
  | none =>
    rw [field?_of_none hw]
    rfl
  | some w =>
    rw [field?_of_some hw, Option.map_map, Option.getD_some]
    exact Option.map_id'

theorem optional_of_field? {x : Option (Option α)}
    (h : v.field? name (Document.optional read) = some x) :
    (ofJson ((v.get? name).getD .null)).optional read = .ok x.join := by
  rw [← toOption_eq_some, ← map_join_field?, h, Option.map_some]

/-- A field of a kind that any value will do for. -/
theorem field?_of_ok {f : Json → α} (h : ∀ x, read (ofJson x) = .ok (f x)) :
    v.field? name read = some ((v.get? name).map f) := by
  cases hx : v.get? name with
  | none => rw [field?_of_none hx, Option.map_none]
  | some x => rw [field?_of_some hx, h]; rfl

end

/-! ## Readers that agree -/

section

variable {α : Type} {read read' : Document → Decoded α}
  (h : ∀ d, (read d).toOption = (read' d).toOption)
include h

theorem toOption_mapM_congr (ds : List Document) :
    (ds.mapM read).toOption = (ds.mapM read').toOption := by
  induction ds with
  | nil => rfl
  | cons d ds ih => simp only [List.mapM_cons, toOption_bind, h d, ih]

theorem toOption_listOf_congr (d : Document) :
    (Document.listOf read d).toOption = (Document.listOf read' d).toOption := by
  unfold Document.listOf
  split
  · rw [toOption_bind, toOption_bind, toOption_mapM_congr h]
  · rfl
  · rfl

theorem toOption_orDefault_congr [Inhabited α] (d : Document) :
    (Document.orDefault read d).toOption = (Document.orDefault read' d).toOption := by
  unfold Document.orDefault Document.optional
  split
  · rfl
  · simp only [toOption_bind, h d]

end

/-! ## Reading field by field -/

variable {σ : Type} {ms : List Member}

/-- Reads the member of the slot's name, if there is one. -/
def Slot.readFrom (ms : List Member) (draft : σ) (s : Slot σ) : Decoded σ :=
  match ms.lookup s.name with
  | none => .ok draft
  | some v => s.read s.name (.ofJson v) draft

/-- A field is read into the draft, and the others after it. -/
theorem Slot.bind_foldlM_cons {α β : Type} {name : String} {get : σ → Option α} {set : σ → α → σ}
    {read : Document → Decoded α} {slots : List (Slot σ)} {draft : σ} {finish : σ → Option β}
    (put : Option α → σ) (hget : get draft = none) (hnone : put none = draft)
    (hsome : ∀ a, put (some a) = set draft a) :
    ((Slot.of name get set read :: slots).foldlM (Slot.readFrom ms) draft).toOption.bind finish =
      ((Json.obj ms).field? name read).bind fun x ↦
        (slots.foldlM (Slot.readFrom ms) (put x)).toOption.bind finish := by
  have hstep : (Slot.readFrom ms draft (Slot.of name get set read)).toOption =
      ((Json.obj ms).field? name read).map put := by
    show (match ms.lookup name with | none => _ | some v => _ : Decoded σ).toOption = _
    cases hlookup : ms.lookup name with
    | none =>
      have hfield : (Json.obj ms).field? name read = some none := field?_of_none hlookup
      rw [hfield, Option.map_some, hnone]
      rfl
    | some v =>
      have hfield : (Json.obj ms).field? name read = (read (ofJson v)).toOption.map some :=
        field?_of_some hlookup
      have hput : put ∘ some = set draft := funext hsome
      rw [hfield, Option.map_map, hput]
      refine (Slot.toOption_read_of name (ofJson v) draft).trans ?_
      rw [hget]
      rfl
  rw [List.foldlM_cons, toOption_bind, hstep, Option.bind_map, Option.bind_assoc]
  rfl

namespace Shape

variable {shape : Shape σ} {draft : σ}

/-- The members of slots are read one slot after the other. -/
theorem readMembers_pick (hnames : (shape.slots.map Slot.name).Nodup) {slots : List (Slot σ)}
    (hslots : slots ⊆ shape.slots) (draft : σ) :
    shape.readMembers draft (ofJsonMembers (pick (slots.map Slot.name) ms)) =
      slots.foldlM (Slot.readFrom ms) draft := by
  induction slots generalizing draft with
  | nil => rfl
  | cons s slots ih =>
    have hrest : slots ⊆ shape.slots := fun t ht ↦ hslots (List.mem_cons_of_mem s ht)
    have hfind : shape.slots.find? (·.name == s.name) = some s :=
      find?_of_mem hnames (hslots List.mem_cons_self)
    rw [List.map_cons, pick, List.filterMap_cons, List.foldlM_cons, Slot.readFrom]
    cases hlookup : ms.lookup s.name with
    | none => exact ih hrest draft
    | some v =>
      have hmember : shape.readMember draft s.name (ofJson v) = s.read s.name (ofJson v) draft :=
        readMember_of_find? hfind
      show shape.readMembers draft (ofJsonMembers ((s.name, v) :: pick (slots.map Slot.name) ms)) =
        s.read s.name (ofJson v) draft >>= slots.foldlM (Slot.readFrom ms)
      rw [readMembers_cons, hmember]
      exact congrArg _ (funext (ih hrest))

/-- Reading member by member is reading the unknown members first and then field by field. -/
theorem Unordered.toOption_readMembers (h : shape.Unordered)
    (hnames : (shape.slots.map Slot.name).Nodup) (hms : (ms.map Prod.fst).Nodup) {next : σ}
    (hnext : shape.readMembers draft
      (ofJsonMembers (ms.filter (·.1 ∉ shape.slots.map Slot.name))) = .ok next) :
    (shape.readMembers draft (ofJsonMembers ms)).toOption =
      (shape.slots.foldlM (Slot.readFrom ms) next).toOption := by
  rw [h.readMembers_perm (perm_pick hms hnames) hms, readMembers_append, hnext]
  exact congrArg Except.toOption (readMembers_pick hnames (List.Subset.refl _) next)

/-- Members that are not fields are passed over where they are skimmed. -/
theorem readMembers_skimmed (hother : shape.other = skimOther)
    (hms : ∀ m ∈ ms, m.1 ∉ shape.slots.map Slot.name) (draft : σ) :
    shape.readMembers draft (ofJsonMembers ms) = .ok draft := by
  induction ms with
  | nil => rfl
  | cons m ms ih =>
    have hmember : shape.readMember draft m.1 (ofJson m.2) = .ok draft := by
      rw [readMember_other (hms m List.mem_cons_self), hother, skimOther, skim_ofJson]
      rfl
    rw [readMembers_cons_of hmember, ih fun n hn ↦ hms n (List.mem_cons_of_mem m hn)]

/-- Members that are not fields are kept, in order, where they are stored. -/
theorem readMembers_stored {store : Store σ} (hother : shape.other = store.other)
    (hms : ∀ m ∈ ms, m.1 ∉ shape.slots.map Slot.name) (draft : σ) :
    shape.readMembers draft (ofJsonMembers ms) =
      .ok (store.keep draft (sortedMembers ms (store.kept draft))) := by
  induction ms generalizing draft with
  | nil => rw [sortedMembers, store.keep_kept]; rfl
  | cons m ms ih =>
    obtain ⟨k, v⟩ := m
    have hmember : shape.readMember draft k (ofJson v) =
        .ok (store.keep draft (insertMember k v.sorted (store.kept draft))) := by
      rw [readMember_other (hms _ List.mem_cons_self), hother, toOption_store_other]
    rw [readMembers_cons_of hmember, ih fun n hn ↦ hms n (List.mem_cons_of_mem _ hn),
      store.kept_keep, store.keep_keep, sortedMembers]

variable (draft)

/-- A record that skims unknown members is read field by field. -/
theorem OrderFree.toOption_readMembers_skim (h : shape.OrderFree) (hother : shape.other = skimOther)
    (hnames : (shape.slots.map Slot.name).Nodup) (hms : (ms.map Prod.fst).Nodup) :
    (shape.readMembers draft (ofJsonMembers ms)).toOption =
      (shape.slots.foldlM (Slot.readFrom ms) draft).toOption := by
  refine h.toOption_readMembers hnames hms (readMembers_skimmed hother (fun m hm ↦ ?_) draft)
  exact of_decide_eq_true (List.mem_filter.1 hm).2

/-- A record that keeps unknown members is read field by field after them. -/
theorem OrderFree.toOption_readMembers_store (h : shape.OrderFree) (store : Store σ)
    (hother : shape.other = store.other) (hnames : (shape.slots.map Slot.name).Nodup)
    (hms : (ms.map Prod.fst).Nodup) (hempty : store.kept draft = []) :
    (shape.readMembers draft (ofJsonMembers ms)).toOption =
      (shape.slots.foldlM (Slot.readFrom ms)
        (store.keep draft (others (shape.slots.map Slot.name) (.obj ms)))).toOption := by
  refine h.toOption_readMembers hnames hms ?_
  rw [others, ← hempty]
  refine readMembers_stored hother (fun m hm ↦ ?_) draft
  exact of_decide_eq_true (List.mem_filter.1 hm).2

/-! ## Objects and lists of fields -/

theorem toOption_readObject_obj (ms : List Member) :
    (shape.readObject draft (ofJson (.obj ms))).toOption =
      (shape.readMembers draft (ofJsonMembers ms)).toOption := by
  rw [Document.ofJson, readObject, toOption_bind]
  exact Option.bind_fun_some _

theorem toOption_readRecord_obj (origin : Origin) (ms : List Member) :
    (shape.readRecord origin draft (ofJson (.obj ms))).toOption =
      (shape.readMembers draft (ofJsonMembers ms)).toOption.map (·, Form.named) := by
  rw [← toOption_readObject_obj, Option.map_eq_bind]
  exact toOption_bind _ _

/-- Where a document comes from matters to the error of a list of fields that is too long, and to
nothing else. -/
theorem toOption_readRecord_origin (origin origin' : Origin) (d : Document) :
    (shape.readRecord origin draft d).toOption = (shape.readRecord origin' draft d).toOption := by
  unfold readRecord
  split
  · next items closing =>
    rw [toOption_bind, toOption_bind, readList, readList, toOption_bind, toOption_bind]
    split
    · rfl
    · rfl
  · rfl
  · rfl

end Shape

end Welfare.Json
