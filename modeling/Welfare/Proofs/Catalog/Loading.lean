import Mathlib.Data.List.TakeWhile
import Welfare.Proofs.Catalog.Checks
import Welfare.Proofs.Json.Text

/-!
# Loading a catalog

A catalog is loaded by one run over its schemes, which remembers the ids it has met.  The run stops
at the first id it has met before; when it reaches the end, the ids are distinct, and a scheme is
found under an id exactly when it is listed with it.

* `firstRepeated_eq_some_iff` — where the run stops.
* `Catalog.ofSchemes_of_nodup`, `Catalog.ofSchemes_eq_error_iff` — what is loaded from schemes.
* `Catalog.fetch_eq_some_iff` — what is found under an id.
* `Lists` — a text that is a list of schemes; `decodeText_decodeList_eq_ok_iff` — it is read as such.
* `catalog_lists_each_id_once` — the invariant of catalogs, and why loading fails.
-/

set_option autoImplicit false

namespace Welfare

open Json (Document)

/-! ## The run over the ids -/

theorem firstRepeated_cons_eq_none_iff {seen xs : List String} {x : String} :
    firstRepeated seen (x :: xs) = none ↔ x ∉ seen ∧ firstRepeated (x :: seen) xs = none := by
  rw [firstRepeated]
  split
  · next h => simp [h]
  · next h => simp [h]

/-- The run stops at the first id that was met before: it passes the ids in front of it.

The induction is on the list, for any ids met so far: an id that is new joins them. -/
theorem firstRepeated_eq_some_iff {seen xs : List String} {x : String} :
    firstRepeated seen xs = some x ↔ ∃ before after, xs = before ++ x :: after ∧
      firstRepeated seen before = none ∧ (x ∈ before ∨ x ∈ seen) := by
  induction xs generalizing seen with
  | nil => simp [firstRepeated]
  | cons y ys ih =>
    by_cases hy : y ∈ seen
    · rw [firstRepeated, if_pos hy, Option.some_inj]
      constructor
      · rintro rfl
        exact ⟨[], ys, rfl, rfl, Or.inr hy⟩
      · rintro ⟨before, after, hsplit, hnone, -⟩
        cases before with
        | nil => exact (List.cons.inj hsplit).1
        | cons z before =>
          obtain ⟨rfl, -⟩ := List.cons.inj hsplit
          exact absurd hy (firstRepeated_cons_eq_none_iff.1 hnone).1
    · have hmem : ∀ before, x ∈ before ∨ x ∈ y :: seen ↔ x ∈ y :: before ∨ x ∈ seen := by
        intro before
        simp only [List.mem_cons]
        tauto
      rw [firstRepeated, if_neg hy, ih]
      constructor
      · rintro ⟨before, after, rfl, hnone, hx⟩
        exact ⟨y :: before, after, rfl, firstRepeated_cons_eq_none_iff.2 ⟨hy, hnone⟩,
          (hmem before).1 hx⟩
      · rintro ⟨before, after, hsplit, hnone, hx⟩
        cases before with
        | nil =>
          obtain ⟨rfl, -⟩ := List.cons.inj hsplit
          simp [hy] at hx
        | cons z before =>
          obtain ⟨rfl, rfl⟩ := List.cons.inj hsplit
          exact ⟨before, after, rfl, (firstRepeated_cons_eq_none_iff.1 hnone).2, (hmem before).2 hx⟩

namespace Catalog

variable {schemes : List Scheme} {c : Catalog}

/-! ## Schemes -/

/-- Schemes with different ids make a catalog. -/
theorem ofSchemes_of_nodup (h : (schemes.map Scheme.id).Nodup) :
    ofSchemes schemes = .ok ⟨schemes, h⟩ := by
  have hnone : firstRepeated [] (schemes.map Scheme.id) = none :=
    firstRepeated_eq_none_iff.2 ⟨h, fun _ _ ↦ List.not_mem_nil⟩
  unfold ofSchemes
  split
  · next id hid => rw [hnone] at hid; cases hid
  · rfl

theorem ofSchemes_eq_ok_iff : ofSchemes schemes = .ok c ↔ c.schemes = schemes := by
  constructor
  · exact schemes_of_ofSchemes
  · rintro rfl
    exact ofSchemes_of_nodup c.distinct

theorem exists_ofSchemes_iff : (∃ c, ofSchemes schemes = .ok c) ↔ (schemes.map Scheme.id).Nodup := by
  constructor
  · rintro ⟨c, hc⟩
    rw [← schemes_of_ofSchemes hc]
    exact c.distinct
  · intro h
    exact ⟨_, ofSchemes_of_nodup h⟩

/-- Loading fails when the run over the ids stops. -/
theorem ofSchemes_eq_error_iff_firstRepeated {e : CatalogError} : ofSchemes schemes = .error e ↔
    ∃ id, firstRepeated [] (schemes.map Scheme.id) = some id ∧ e = .duplicate id := by
  unfold ofSchemes
  split
  · next id hid => simp [hid, eq_comm]
  · next hnone => simp [hnone]

/-- Loading fails for one reason only, and it names the first id that is repeated. -/
theorem ofSchemes_eq_error_iff {e : CatalogError} : ofSchemes schemes = .error e ↔
    ∃ before s after, schemes = before ++ s :: after ∧ (before.map Scheme.id).Nodup ∧
      s.id ∈ before.map Scheme.id ∧ e = .duplicate s.id := by
  have hpassed : ∀ ids : List String, firstRepeated [] ids = none ↔ ids.Nodup := by
    intro ids
    rw [firstRepeated_eq_none_iff, and_iff_left fun _ _ ↦ List.not_mem_nil]
  rw [ofSchemes_eq_error_iff_firstRepeated]
  constructor
  · rintro ⟨id, hid, rfl⟩
    obtain ⟨ids, rest, hsplit, hnone, hmem⟩ := firstRepeated_eq_some_iff.1 hid
    obtain ⟨before, tail, rfl, rfl, htail⟩ := List.map_eq_append_iff.1 hsplit
    obtain ⟨s, after, rfl, rfl, -⟩ := List.map_eq_cons_iff.1 htail
    exact ⟨before, s, after, rfl, (hpassed _).1 hnone, hmem.resolve_right List.not_mem_nil, rfl⟩
  · rintro ⟨before, s, after, rfl, hnodup, hmem, rfl⟩
    refine ⟨s.id, firstRepeated_eq_some_iff.2 ⟨before.map Scheme.id, after.map Scheme.id, ?_,
      (hpassed _).2 hnodup, Or.inl hmem⟩, rfl⟩
    rw [List.map_append, List.map_cons]

/-! ## Ids -/

theorem fetch_eq_some_iff {id : String} {s : Scheme} :
    c.fetch id = some s ↔ s ∈ c.schemes ∧ s.id = id := by
  constructor
  · exact fetch_eq_some
  · rintro ⟨hs, rfl⟩
    exact fetch_of_mem hs

end Catalog

/-! ## Texts -/

theorem Json.Document.ended_eq_ok_iff {rest : Document.Rest} :
    Document.ended rest = .ok () ↔ ∃ cs, rest = some cs ∧ ∀ c ∈ cs, Document.isBlank c = true := by
  cases rest with
  | none => exact iff_of_false nofun nofun
  | some cs =>
    have hblank : Document.skipBlanks cs = [] ↔ ∀ c ∈ cs, Document.isBlank c = true :=
      List.dropWhile_eq_nil_iff
    simp [Document.ended, hblank]

/-- The text is one list, with nothing but blanks behind it, whose items are the schemes. -/
structure Lists (text : String) (schemes : List Scheme) : Prop where
  items : ∃ items, (Document.ofText text).1 = .arr items none ∧
    List.Forall₂ (fun d s ↦ Scheme.decode .text d = .ok s) items schemes
  ended : ∃ rest, (Document.ofText text).2 = some rest ∧ ∀ c ∈ rest, Document.isBlank c = true

theorem decodeText_decodeList_eq_ok_iff {text : String} {schemes : List Scheme} :
    Json.decodeText (Scheme.decodeList .text) text = .ok schemes ↔ Lists text schemes := by
  rw [Json.decodeText_eq_ok_iff, Json.Document.ended_eq_ok_iff, Scheme.decodeList,
    Json.Document.listOf_eq_ok_iff]
  exact ⟨fun ⟨hitems, hended⟩ ↦ ⟨hitems, hended⟩, fun h ↦ ⟨h.items, h.ended⟩⟩

namespace Catalog

variable {text : String} {c : Catalog}

/-- A text that lists schemes is loaded as these. -/
theorem ofText_of_lists {schemes : List Scheme} (h : Lists text schemes) :
    ofText text = ofSchemes schemes := by
  rw [ofText, decodeText_decodeList_eq_ok_iff.2 h]

/-- A text that does not list schemes is not loaded. -/
theorem exists_ofText_of_not_lists (h : ¬∃ schemes, Lists text schemes) :
    ∃ e, ofText text = .error (.invalid e) := by
  cases hdecode : Json.decodeText (Scheme.decodeList .text) text with
  | ok schemes => exact absurd ⟨schemes, decodeText_decodeList_eq_ok_iff.1 hdecode⟩ h
  | error e => exact ⟨e, by rw [ofText, hdecode]⟩

/-- What is loaded from a text, apart from why it cannot be read. -/
theorem ofText_eq_iff {r : Except CatalogError Catalog} (hr : ∀ e, r ≠ .error (.invalid e)) :
    ofText text = r ↔ ∃ schemes, Lists text schemes ∧ ofSchemes schemes = r := by
  constructor
  · intro h
    by_cases hlists : ∃ schemes, Lists text schemes
    · obtain ⟨schemes, hschemes⟩ := hlists
      exact ⟨schemes, hschemes, by rw [← ofText_of_lists hschemes, h]⟩
    · obtain ⟨e, he⟩ := exists_ofText_of_not_lists hlists
      exact absurd (h.symm.trans he) (hr e)
  · rintro ⟨schemes, hschemes, rfl⟩
    exact ofText_of_lists hschemes

theorem exists_ofText_eq_invalid_iff :
    (∃ e, ofText text = .error (.invalid e)) ↔ ¬∃ schemes, Lists text schemes := by
  constructor
  · rintro ⟨e, he⟩ ⟨schemes, hschemes⟩
    rw [ofText_of_lists hschemes, ofSchemes_eq_error_iff] at he
    obtain ⟨before, s, after, -, -, -, hs⟩ := he
    cases hs
  · exact exists_ofText_of_not_lists

end Catalog

/-! ## The invariant -/

/-- **A catalog lists every id once.**  Schemes make a catalog exactly when their ids are distinct;
otherwise the first one whose id came before is named.  A catalog lists the schemes it was made of,
in their order, and under an id it finds the scheme that is listed with it, or nothing if there is
none.  A text that is not a list of schemes cannot be read; any other text is loaded like the
schemes it lists. -/
theorem catalog_lists_each_id_once :
    (∀ schemes : List Scheme,
      ((∃ c, Catalog.ofSchemes schemes = .ok c) ↔ (schemes.map Scheme.id).Nodup) ∧
      (∀ e, Catalog.ofSchemes schemes = .error e ↔
        ∃ before s after, schemes = before ++ s :: after ∧ (before.map Scheme.id).Nodup ∧
          s.id ∈ before.map Scheme.id ∧ e = .duplicate s.id) ∧
      ∀ c, Catalog.ofSchemes schemes = .ok c →
        (Source.catalog c).list = .ok schemes ∧ c.schemes.length = schemes.length ∧
        ∀ id, (∀ s, (Source.catalog c).fetch id = .ok (some s) ↔ s ∈ schemes ∧ s.id = id) ∧
          ((Source.catalog c).fetch id = .ok none ↔ ∀ s ∈ schemes, s.id ≠ id)) ∧
    ∀ text : String,
      ((∃ e, Catalog.ofText text = .error (.invalid e)) ↔ ¬∃ schemes, Lists text schemes) ∧
      (∀ id, Catalog.ofText text = .error (.duplicate id) ↔
        ∃ schemes, Lists text schemes ∧ Catalog.ofSchemes schemes = .error (.duplicate id)) ∧
      ∀ c, Catalog.ofText text = .ok c ↔ Lists text c.schemes := by
  refine ⟨fun schemes ↦ ⟨Catalog.exists_ofSchemes_iff, fun e ↦ Catalog.ofSchemes_eq_error_iff,
    fun c hc ↦ ?_⟩, fun text ↦ ⟨Catalog.exists_ofText_eq_invalid_iff,
    fun id ↦ Catalog.ofText_eq_iff (by simp), fun c ↦ ?_⟩⟩
  · obtain rfl := Catalog.schemes_of_ofSchemes hc
    refine ⟨rfl, rfl, fun id ↦ ⟨fun s ↦ ?_, ?_⟩⟩
    · rw [Source.fetch, Except.ok.injEq, Catalog.fetch_eq_some_iff]
    · rw [Source.fetch, Except.ok.injEq, Catalog.fetch_eq_none_iff]
  · rw [Catalog.ofText_eq_iff (by simp)]
    simp only [Catalog.ofSchemes_eq_ok_iff, exists_eq_right']

/-- Of four schemes the third repeats the id of the first, and the fourth that of the second. -/
theorem third_of_four_schemes_repeats :
    let first : Scheme := { id := "S1" }
    let second : Scheme := { id := "S2" }
    let third : Scheme := { id := "S1", name := "Copy" }
    let listing (ids : List String) : Json := .arr (ids.map fun id ↦ .obj [("scheme_id", .str id)])
    Catalog.ofSchemes [first, second, third, second] = .error (.duplicate "S1") ∧
    (∃ c, Catalog.ofSchemes [first, second] = .ok c ∧ (Source.catalog c).list = .ok [first, second] ∧
      (Source.catalog c).fetch "S2" = .ok (some second) ∧
      (Source.catalog c).fetch "S3" = .ok none) ∧
    Catalog.ofText (listing ["S2", "S1", "S2"]).compact = .error (.duplicate "S2") := by
  intro first second third listing
  obtain ⟨hschemes, htexts⟩ := catalog_lists_each_id_once
  have hrepeats : Lists (listing ["S2", "S1", "S2"]).compact [second, first, second] := by
    have hread : Document.ofText (listing ["S2", "S1", "S2"]).compact =
        (.ofJson (listing ["S2", "S1", "S2"]), some []) := by cbv
    exact ⟨⟨_, congrArg Prod.fst hread, .cons rfl (.cons rfl (.cons rfl .nil))⟩,
      ⟨[], congrArg Prod.snd hread, by simp⟩⟩
  refine ⟨?_, ?_, ?_⟩
  · exact ((hschemes _).2.1 _).2 ⟨[first, second], third, [second], rfl, by decide, by decide, rfl⟩
  · obtain ⟨c, hc⟩ := (hschemes [first, second]).1.2 (by decide)
    obtain ⟨hlist, -, hfetch⟩ := (hschemes _).2.2 c hc
    exact ⟨c, hc, hlist, ((hfetch "S2").1 second).2 ⟨by simp, rfl⟩, (hfetch "S3").2.2 (by decide)⟩
  · exact ((htexts _).2.1 "S2").2 ⟨_, hrepeats,
      ((hschemes _).2.1 _).2 ⟨[second, first], second, [], rfl, by decide, by decide, rfl⟩⟩

end Welfare
