import Welfare.Proofs.Json.ByField

/-!
# Which values are read

A way of reading accepts a value when it gives a result and not a problem.  For a field that is
looked up under its name this is a condition on the member, if there is one.

* `Json.Accepts` — a value that is read.
* `accepts_asString`, `accepts_asBool`, `accepts_optional`, `accepts_orDefault`, `accepts_listOf` —
  what fields of simple kinds accept.
* `isSome_bind_field?`, `isSome_bind_field?_required` — what an optional and a required field accept.
* `Shape.isObject_of_readObject`, `Shape.isObject_of_readRecord` — records are objects.
* `Shape.accepts_of_mem` — the members of a record that is read are read by their slots.
-/

set_option autoImplicit false

namespace Welfare.Json

open Document (ofJson)

variable {α : Type} {read : Document → Decoded α} {v : Json} {name : String}

/-- The value is read. -/
def Accepts (read : Document → Decoded α) (v : Json) : Prop :=
  ∃ a, read (ofJson v) = .ok a

theorem accepts_iff_isSome : Accepts read v ↔ (read (ofJson v)).toOption.isSome = true := by
  rw [Option.isSome_iff_exists]
  exact exists_congr fun a ↦ toOption_eq_some.symm

/-! ## Simple kinds -/

/-- A text. -/
def IsText (v : Json) : Prop := ∃ s, v = .str s

/-- A truth value. -/
def IsBool (v : Json) : Prop := ∃ b, v = .bool b

/-- A list of values of some kind. -/
def IsListOf (kind : Json → Prop) (v : Json) : Prop := ∃ xs, v = .arr xs ∧ ∀ x ∈ xs, kind x

theorem accepts_asString : Accepts Document.asString v ↔ v.IsText :=
  exists_congr fun _ ↦ Document.asString_ofJson_eq_ok_iff

theorem accepts_asBool : Accepts Document.asBool v ↔ v.IsBool := by
  cases v with
  | bool b => exact iff_of_true ⟨b, rfl⟩ ⟨b, rfl⟩
  | _ => exact iff_of_false nofun nofun

theorem accepts_optional : Accepts (Document.optional read) v ↔ v = .null ∨ Accepts read v := by
  by_cases hv : v = .null
  · rw [hv]
    exact iff_of_true ⟨none, rfl⟩ (Or.inl rfl)
  · rw [or_iff_right hv, Accepts, Document.optional_of_ne_null (Document.ofJson_ne_null hv)]
    constructor
    · rintro ⟨x, hx⟩
      obtain ⟨a, ha, _⟩ := Decoded.map_eq_ok.1 hx
      exact ⟨a, ha⟩
    · rintro ⟨a, ha⟩
      exact ⟨some a, Decoded.map_eq_ok.2 ⟨a, ha, rfl⟩⟩

theorem accepts_orDefault [Inhabited α] :
    Accepts (Document.orDefault read) v ↔ v = .null ∨ Accepts read v := by
  rw [← accepts_optional]
  constructor
  · rintro ⟨a, ha⟩
    obtain ⟨x, hx, _⟩ := Decoded.map_eq_ok.1 ha
    exact ⟨x, hx⟩
  · rintro ⟨x, hx⟩
    exact ⟨x.getD default, Decoded.map_eq_ok.2 ⟨x, hx, rfl⟩⟩

/-- A list can be matched item by item when every item can be matched. -/
theorem exists_forall₂_iff {β γ : Type} {R : β → γ → Prop} {xs : List β} :
    (∃ ys, List.Forall₂ R xs ys) ↔ ∀ x ∈ xs, ∃ y, R x y := by
  induction xs with
  | nil => exact iff_of_true ⟨[], .nil⟩ nofun
  | cons x xs ih =>
    rw [List.forall_mem_cons, ← ih]
    constructor
    · rintro ⟨_, hxs⟩
      obtain ⟨y, ys, hy, hys, rfl⟩ := List.forall₂_cons_left_iff.1 hxs
      exact ⟨⟨y, hy⟩, ys, hys⟩
    · rintro ⟨⟨y, hy⟩, ys, hys⟩
      exact ⟨y :: ys, .cons hy hys⟩

theorem accepts_listOf : Accepts (Document.listOf read) v ↔ v.IsListOf (Accepts read) := by
  constructor
  · rintro ⟨as, has⟩
    obtain ⟨xs, rfl, hxs⟩ := Document.listOf_ofJson_eq_ok_iff.1 has
    exact ⟨xs, rfl, exists_forall₂_iff.1 ⟨as, hxs⟩⟩
  · rintro ⟨xs, rfl, hxs⟩
    obtain ⟨as, has⟩ := exists_forall₂_iff.2 hxs
    exact ⟨as, Document.listOf_ofJson_eq_ok_iff.2 ⟨xs, rfl, has⟩⟩

/-- The kind of the items matters only where it differs for an item. -/
theorem isListOf_congr {kind kind' : Json → Prop}
    (h : ∀ xs, v = .arr xs → ∀ x ∈ xs, (kind x ↔ kind' x)) :
    v.IsListOf kind ↔ v.IsListOf kind' := by
  refine exists_congr fun xs ↦ and_congr_right fun hv ↦ ?_
  exact forall₂_congr fun x hx ↦ h xs hv x hx

/-! ## Fields -/

/-- A field is read when its member is, if there is one. -/
theorem isSome_field? :
    (v.field? name read).isSome = true ↔ ∀ w ∈ v.get? name, Accepts read w := by
  cases hw : v.get? name with
  | none =>
    rw [field?_of_none hw]
    exact iff_of_true rfl nofun
  | some w =>
    rw [field?_of_some hw, Option.isSome_map, ← accepts_iff_isSome]
    simp

section

variable {β : Type} {f : Option α → Option β} {q : Prop}

/-- An optional field, and steps that do not depend on it: the field is read when its member is, if
there is one. -/
theorem isSome_bind_field? (h : ∀ x, (f x).isSome = true ↔ q) :
    ((v.field? name read).bind f).isSome = true ↔ (∀ w ∈ v.get? name, Accepts read w) ∧ q := by
  rw [← isSome_field?]
  cases v.field? name read with
  | none => simp
  | some x => exact (h x).trans (and_iff_right rfl).symm

/-- An optional field that nothing more is asked of. -/
theorem isSome_bind_field?_some {g : Option α → β} :
    ((v.field? name read).bind fun x ↦ some (g x)).isSome = true ↔
      ∀ w ∈ v.get? name, Accepts read w :=
  (isSome_bind_field? fun _ ↦ iff_of_true rfl trivial).trans (and_iff_left trivial)

/-- A required field, and steps that depend on nothing but its being there: the field is read when
its member is there and is read. -/
theorem isSome_bind_field?_required (h : ∀ x, (f x).isSome = true ↔ x.isSome = true ∧ q) :
    ((v.field? name read).bind f).isSome = true ↔ (∃ w ∈ v.get? name, Accepts read w) ∧ q := by
  cases hw : v.get? name with
  | none =>
    rw [field?_of_none hw, Option.bind_some, h]
    simp
  | some w =>
    have haccepts : (∃ w' ∈ some w, Accepts read w') ↔
        (read (ofJson w)).toOption.isSome = true := by
      rw [← accepts_iff_isSome]
      simp
    rw [field?_of_some hw, haccepts]
    cases (read (ofJson w)).toOption with
    | none => simp
    | some a => exact h (some a)

end

/-! ## Records -/

namespace Shape

variable {σ : Type} {shape : Shape σ} {draft : σ}

theorem isObject_of_readObject {next : σ} (h : shape.readObject draft (ofJson v) = .ok next) :
    v.isObject = true := by
  obtain ⟨ms, rfl, _⟩ := exists_of_readObject h
  rfl

/-- Besides lists of fields, only objects are read as records. -/
theorem isObject_of_readRecord {origin : Origin} {next : σ × Form} (hv : ∀ xs, v ≠ .arr xs)
    (h : shape.readRecord origin draft (ofJson v) = .ok next) : v.isObject = true := by
  cases v with
  | obj ms => rfl
  | arr xs => exact absurd rfl (hv xs)
  | _ => cases h

/-- A member with the name of a slot is read by the slot, whatever else is read. -/
theorem accepts_of_mem {get : σ → Option α} {set : σ → α → σ} {ms : List Member} {next : σ}
    (hslot : shape.slots.find? (·.name == name) = some (Slot.of name get set read))
    (hread : shape.readMembers draft (Document.ofJsonMembers ms) = .ok next)
    (hv : (name, v) ∈ ms) : Accepts read v := by
  induction ms generalizing draft with
  | nil => cases hv
  | cons m ms ih =>
    obtain ⟨k, w⟩ := m
    rw [readMembers_cons] at hread
    obtain ⟨draft', hmember, hrest⟩ := Decoded.bind_eq_ok.1 hread
    rcases List.mem_cons.1 hv with heq | hv
    · cases heq
      rw [readMember_of_find? hslot] at hmember
      split at hmember
      · cases hmember
      · obtain ⟨a, ha, -⟩ := Decoded.map_eq_ok.1 hmember
        exact ⟨a, ha⟩
    · exact ih hrest hv

/-- The members of an object that is read as a record are read. -/
theorem exists_readMembers_of_readRecord {origin : Origin} {ms : List Member} {next : σ × Form}
    (h : shape.readRecord origin draft (ofJson (.obj ms)) = .ok next) :
    ∃ draft', shape.readMembers draft (Document.ofJsonMembers ms) = .ok draft' := by
  have hoption := (toOption_readRecord_obj draft origin ms).symm.trans (toOption_eq_some.2 h)
  obtain ⟨draft', hdraft, -⟩ := Option.map_eq_some_iff.1 hoption
  exact ⟨draft', toOption_eq_some.1 hdraft⟩

end Shape

end Welfare.Json
