import Mathlib.Data.List.Forall2
import Welfare.Proofs.Double.Finite
import Welfare.Proofs.Json.Records

/-!
# Reading fields

Fields of simple kinds, each from two sides: what is read back from a value that was written, and
what is known of anything that is read, wherever it comes from.

* `asString_ofJson_eq_ok_iff` — texts.
* `floatOrNone_ofFloat`, `isFinite_of_floatOrNone` — finite doubles are read back, and only finite
  doubles are read.
* `listOf_ofJson`, `listOf_eq_ok_iff`, `exists_of_mem_listOf` — lists, item by item.
* `optional_ofJson`, `optional_eq_some` — things that may be unset.
* `orDefault_ofJson`, `eq_of_orDefault` — things with a default.
-/

set_option autoImplicit false

namespace Welfare.Json.Document

variable {α : Type} {read : Document → Decoded α} {d : Document} {v : Json} {a : α}

/-! ## Texts -/

/-- Only texts are read as texts. -/
theorem asString_ofJson_eq_ok_iff {s : String} : (ofJson v).asString = .ok s ↔ v = .str s := by
  cases v with
  | str t => exact ⟨fun h ↦ by cases h; rfl, fun h ↦ by cases h; rfl⟩
  | _ => exact iff_of_false nofun nofun

/-! ## Doubles -/

/-- A finite double is read back. -/
theorem floatOrNone_ofFloat {x : Float} (h : x.isFinite = true) :
    floatOrNone (ofJson (.ofFloat x)) = .ok (some x) := by
  rw [Json.ofFloat, Number.ofFloat?_eq_some h]
  rfl

/-- The doubles that are read are finite. -/
theorem isFinite_of_floatOrNone {x : Float} (h : floatOrNone d = .ok (some x)) :
    x.isFinite = true := by
  obtain ⟨v, _, hfloat⟩ := Decoded.map_eq_ok.1 h
  cases v with
  | num n =>
    cases hfloat
    exact Double.isFinite_toFloat n
  | _ => cases hfloat

/-! ## Things that may be unset -/

theorem optional_of_ne_null (h : d ≠ .null) : d.optional read = return some (← read d) := by
  cases d with
  | null => exact absurd rfl h
  | _ => rfl

theorem ofJson_ne_null (h : v ≠ .null) : ofJson v ≠ .null := by
  cases v with
  | null => exact absurd rfl h
  | _ => exact nofun

/-- What was set is read back as set. -/
theorem optional_ofJson (hv : v ≠ .null) (h : read (ofJson v) = .ok a) :
    (ofJson v).optional read = .ok (some a) := by
  rw [optional_of_ne_null (ofJson_ne_null hv), h]
  rfl

/-- What is set was read. -/
theorem optional_eq_some (h : d.optional read = .ok (some a)) : read d = .ok a := by
  by_cases hd : d = .null
  · rw [hd] at h
    cases h
  · rw [optional_of_ne_null hd] at h
    obtain ⟨b, hb, hab⟩ := Decoded.map_eq_ok.1 h
    cases hab
    exact hb

/-- Only `null` is read as unset. -/
theorem optional_eq_none (h : d.optional read = .ok none) : d = .null := by
  by_contra hd
  rw [optional_of_ne_null hd] at h
  obtain ⟨b, _, hb⟩ := Decoded.map_eq_ok.1 h
  cases hb

variable [Inhabited α]

theorem orDefault_ofJson (hv : v ≠ .null) (h : read (ofJson v) = .ok a) :
    (ofJson v).orDefault read = .ok a := by
  rw [orDefault, optional_ofJson hv h]
  rfl

/-- What is read with a default was read, unless it is the default. -/
theorem eq_of_orDefault (h : d.orDefault read = .ok a) : a = default ∨ read d = .ok a := by
  obtain ⟨x, hx, rfl⟩ := Decoded.map_eq_ok.1 h
  cases x with
  | none => exact Or.inl rfl
  | some b => exact Or.inr (optional_eq_some hx)

omit [Inhabited α]

/-- A field that is unset reads the same whether it is missing or `null`. -/
theorem join_map_some (x : Option α) : (x.map some).join = x := by
  cases x with
  | none => rfl
  | some a => rfl

/-! ## Lists -/

/-- A list of things that are read back is read back. -/
theorem listOf_ofJson {write : α → Json} {xs : List α}
    (h : ∀ a ∈ xs, read (ofJson (write a)) = .ok a) :
    listOf read (ofJson (.arr (xs.map write))) = .ok xs := by
  have hitems : (ofJsonItems (xs.map write)).mapM read = .ok xs := by
    induction xs with
    | nil => rfl
    | cons x xs ih =>
      rw [List.map_cons, ofJsonItems, List.mapM_cons, h x List.mem_cons_self,
        ih fun a ha ↦ h a (List.mem_cons_of_mem x ha)]
      rfl
  rw [ofJson, listOf, hitems]
  rfl

/-- A list is read item by item. -/
theorem mapM_eq_ok_iff {ds : List Document} {xs : List α} :
    ds.mapM read = .ok xs ↔ List.Forall₂ (fun d a ↦ read d = .ok a) ds xs := by
  induction ds generalizing xs with
  | nil =>
    rw [List.forall₂_nil_left_iff]
    exact ⟨fun h ↦ by cases h; rfl, fun h ↦ by rw [h]; rfl⟩
  | cons d ds ih =>
    rw [List.forall₂_cons_left_iff, List.mapM_cons, Decoded.bind_eq_ok]
    constructor
    · rintro ⟨a, ha, h⟩
      obtain ⟨as, has, rfl⟩ := Decoded.map_eq_ok.1 h
      exact ⟨a, as, ha, ih.1 has, rfl⟩
    · rintro ⟨a, as, ha, has, rfl⟩
      exact ⟨a, ha, Decoded.map_eq_ok.2 ⟨as, ih.2 has, rfl⟩⟩

theorem listOf_eq_ok_iff {xs : List α} : listOf read d = .ok xs ↔
    ∃ ds, d = .arr ds none ∧ List.Forall₂ (fun d a ↦ read d = .ok a) ds xs := by
  constructor
  · intro h
    unfold listOf at h
    split at h
    · next ds closing =>
      obtain ⟨as, has, h⟩ := Decoded.bind_eq_ok.1 h
      obtain ⟨_, hclosed, rfl⟩ := Decoded.map_eq_ok.1 h
      cases closing with
      | none => exact ⟨ds, rfl, mapM_eq_ok_iff.1 has⟩
      | some f => cases hclosed
    · cases h
    · exact absurd h mismatch_ne_ok
  · rintro ⟨ds, rfl, h⟩
    rw [listOf, mapM_eq_ok_iff.2 h]
    rfl

theorem ofJsonItems_eq_map (vs : List Json) : ofJsonItems vs = vs.map ofJson := by
  induction vs with
  | nil => rfl
  | cons v vs ih => rw [ofJsonItems, ih, List.map_cons]

theorem listOf_ofJson_eq_ok_iff {xs : List α} :
    listOf read (ofJson v) = .ok xs ↔
      ∃ vs, v = .arr vs ∧ List.Forall₂ (fun v a ↦ read (ofJson v) = .ok a) vs xs := by
  rw [listOf_eq_ok_iff]
  cases v with
  | arr vs =>
    simp only [ofJson, ofJsonItems_eq_map, arr.injEq, and_true, Json.arr.injEq, exists_eq_left',
      List.forall₂_map_left_iff]
  | _ => exact iff_of_false nofun nofun

/-- Every item of a list was read. -/
theorem exists_of_mem_listOf {xs : List α} (h : listOf read d = .ok xs) (ha : a ∈ xs) :
    ∃ d, read d = .ok a := by
  obtain ⟨ds, -, hitems⟩ := listOf_eq_ok_iff.1 h
  clear h
  induction hitems with
  | nil => cases ha
  | cons hb _ ih =>
    rcases List.mem_cons.1 ha with rfl | ha
    · exact ⟨_, hb⟩
    · exact ih ha

/-- A list that may be left out holds only what was read. -/
theorem exists_of_mem_orDefault {xs : List α} (h : d.orDefault (listOf read) = .ok xs)
    (ha : a ∈ xs) : ∃ d, read d = .ok a := by
  rcases eq_of_orDefault h with rfl | h
  · cases ha
  · exact exists_of_mem_listOf h ha

end Welfare.Json.Document
