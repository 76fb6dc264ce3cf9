import Welfare.Scheme
import Welfare.Json.Message

/-!
# Catalogs

A catalog is a list of schemes with different ids.

* `CatalogError` — why there is no catalog, with the wording.
* `Catalog` — the schemes, with the proof that no id is repeated.
* `Catalog.ofSchemes`, `Catalog.ofText` — loading; the first repeated id is reported.
* `Catalog.fetch` — the scheme with an id.
* `Source` — where schemes come from while the service runs: a catalog, or nothing that answers.
-/

set_option autoImplicit false

namespace Welfare

open Json (DecodeError Document)

/-! ## Errors -/

/-- Why there is no catalog. -/
inductive CatalogError where
  | unreadable (reason : String)
  | invalid (e : DecodeError)
  | duplicate (id : String)
  | unavailable (reason : String)

/-- The wording of an error.  Data that cannot be decoded is worded up to its place. -/
def CatalogError.message : CatalogError → String
  | .unreadable reason => "failed to read scheme catalog: " ++ reason
  | .invalid e => "invalid scheme catalog data: " ++ e.message
  | .duplicate id => "scheme " ++ id ++ " appears more than once in the catalog"
  | .unavailable reason => "catalog unavailable: " ++ reason

/-! ## Repeated ids -/

/-- The first member of a list that was seen before. -/
def firstRepeated (seen : List String) : List String → Option String
  | [] => none
  | x :: xs => if x ∈ seen then some x else firstRepeated (x :: seen) xs

theorem firstRepeated_eq_none_iff {seen xs : List String} :
    firstRepeated seen xs = none ↔ xs.Nodup ∧ ∀ x ∈ xs, x ∉ seen := by
  induction xs generalizing seen with
  | nil => simp [firstRepeated]
  | cons x xs ih =>
    unfold firstRepeated
    split
    · next h => simp [h]
    · next h =>
      rw [ih, List.nodup_cons]
      constructor
      · rintro ⟨hn, hs⟩
        refine ⟨⟨fun hx => hs x hx (by simp), hn⟩, fun y hy => ?_⟩
        rcases List.mem_cons.1 hy with rfl | hy
        · exact h
        · exact fun hys => hs y hy (by simp [hys])
      · rintro ⟨⟨hx, hn⟩, hs⟩
        refine ⟨hn, fun y hy hys => ?_⟩
        rcases List.mem_cons.1 hys with rfl | hys
        · exact hx hy
        · exact hs y (by simp [hy]) hys

/-! ## Catalogs -/

/-- Schemes with different ids. -/
structure Catalog where
  schemes : List Scheme
  distinct : (schemes.map Scheme.id).Nodup

namespace Catalog

/-- The catalog without schemes. -/
def empty : Catalog := ⟨[], List.nodup_nil⟩

/-- The catalog of schemes, unless an id is repeated. -/
def ofSchemes (schemes : List Scheme) : Except CatalogError Catalog :=
  match h : firstRepeated [] (schemes.map Scheme.id) with
  | some id => .error (.duplicate id)
  | none => .ok ⟨schemes, (firstRepeated_eq_none_iff.1 h).1⟩

/-- Loads a catalog from a text that lists its schemes. -/
def ofText (text : String) : Except CatalogError Catalog :=
  match Json.decodeText (Scheme.decodeList .text) text with
  | .ok schemes => ofSchemes schemes
  | .error e => .error (.invalid e)

/-- The scheme with an id. -/
def fetch (c : Catalog) (id : String) : Option Scheme :=
  c.schemes.find? (·.id == id)

theorem fetch_eq_some {c : Catalog} {id : String} {s : Scheme} (h : c.fetch id = some s) :
    s ∈ c.schemes ∧ s.id = id :=
  ⟨List.mem_of_find?_eq_some h, by simpa using List.find?_some h⟩

end Catalog

/-! ## Sources -/

/-- Where schemes come from. -/
inductive Source where
  | catalog (c : Catalog)
  /-- Every access fails, for a reason. -/
  | offline (reason : String)

namespace Source

/-- All schemes. -/
def list : Source → Except CatalogError (List Scheme)
  | .catalog c => .ok c.schemes
  | .offline reason => .error (.unavailable reason)

/-- The scheme with an id, if there is one. -/
def fetch (id : String) : Source → Except CatalogError (Option Scheme)
  | .catalog c => .ok (c.fetch id)
  | .offline reason => .error (.unavailable reason)

end Source

end Welfare
