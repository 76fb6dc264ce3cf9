import Welfare.Proofs.Catalog.Attachment

/-!
# Catalogs survive a round trip

Whatever is read from a catalog can be written and read again without loss, although reading is
lenient and writing leaves things out.

* `ReadsBack` — reading gives a thing back from what was written for it, in any order of members.
* `reencode` — reading a value and writing it again.
* `catalog_records_read_back` — schemes, rule sets and standalone rule sets are read back, and a
  scheme keeps every member that is not a field.
-/

set_option autoImplicit false

namespace Welfare

open Json (Decoded Document Origin)
open Json.Document (ofJson)

section

variable {α : Type} {decode : Document → Decoded α} {encode : α → Json} {a : α} {v w : Json}

/-- What is written for `a` repeats no key, and `a` is read back from it, whatever the order of its
members. -/
structure ReadsBack (decode : Document → Decoded α) (encode : α → Json) (a : α) : Prop where
  distinct : (encode a).DistinctKeys
  decode_eq : ∀ e : Json, e.IsOrderingOf (encode a) → decode (ofJson e) = .ok a

/-- The value that is written for what was read. -/
def reencode (decode : Document → Decoded α) (encode : α → Json) (v : Json) : Option Json :=
  (decode (ofJson v)).toOption.map fun a ↦ (encode a).sorted

theorem ReadsBack.of_orderFree (hfree : Json.OrderFree decode) (hdistinct : (encode a).DistinctKeys)
    (h : decode (ofJson (encode a)) = .ok a) : ReadsBack decode encode a where
  distinct := hdistinct
  decode_eq _ he := hfree.of_isOrderingOf he hdistinct h

/-- Writing again what was read is idempotent when things are read back. -/
theorem reencode_idempotent (h : ∀ a, decode (ofJson v) = .ok a → ReadsBack decode encode a)
    (hw : reencode decode encode v = some w) : reencode decode encode w = some w := by
  obtain ⟨a, ha, rfl⟩ := Option.map_eq_some_iff.1 hw
  have hback := (h a (Json.toOption_eq_some.1 ha)).decode_eq _ (Json.isOrderingOf_sorted (encode a))
  rw [reencode, hback]
  rfl

end

theorem Scheme.readsBack {s : Scheme} (h : s.Storable) (origin : Origin) :
    ReadsBack (Scheme.decode origin) Scheme.toJson s :=
  .of_orderFree (Scheme.orderFree_decode origin) (Scheme.distinctKeys_toJson h)
    (Scheme.decode_toJson h origin)

theorem RuleSet.readsBack {s : RuleSet} (h : s.Storable) (origin : Origin) :
    ReadsBack (RuleSet.decode origin) RuleSet.toJson s :=
  .of_orderFree (RuleSet.orderFree_decode origin) (RuleSet.distinctKeys_toJson h)
    (RuleSet.decode_toJson h origin)

theorem StandaloneRules.readsBack {r : StandaloneRules} (h : r.Storable) :
    ReadsBack StandaloneRules.decode StandaloneRules.toJson r :=
  .of_orderFree StandaloneRules.orderFree_decode (StandaloneRules.distinctKeys_toJson h)
    (StandaloneRules.decode_toJson h)

/-! ## Members that are kept -/

/-- Sorting leaves the members of a value alone that are sorted already. -/
theorem map_sorted_eq {x : Option Json} (h : ∀ w, x = some w → w.SortedKeys) :
    x.map Json.sorted = x := by
  cases x with
  | none => rfl
  | some w => exact congrArg some (h w rfl).sorted_eq

variable {v : Json} {s : Scheme} {origin : Origin} {key : String}

/-- A member of a scheme that is not a field is written as it was read. -/
theorem Scheme.get?_sorted_toJson (hv : v.SortedKeys) (h : Scheme.decode origin (ofJson v) = .ok s)
    (hkey : key ∉ Scheme.fieldNames) : s.toJson.sorted.get? key = v.get? key := by
  rw [Json.get?_sorted (Scheme.distinctKeys_toJson (Scheme.storable_of_decode h)),
    Scheme.get?_toJson hkey, Scheme.lookup_metadata_of_decode hv h hkey]
  exact map_sorted_eq fun _ hw ↦ hv.get? hw

/-- A member of the criteria that is not a field is written as it was read. -/
theorem Scheme.get?_sorted_criteria (hv : v.SortedKeys)
    (h : Scheme.decode origin (ofJson v) = .ok s) (hkey : key ∉ Criteria.fieldNames) :
    (s.toJson.sorted.get? "eligibility_criteria").bind (·.get? key) =
      (v.get? "eligibility_criteria").bind (·.get? key) := by
  have hstorable := Scheme.storable_of_decode h
  have hsorted : ∀ w, (v.get? "eligibility_criteria").bind (·.get? key) = some w →
      w.SortedKeys := by
    intro w hw
    obtain ⟨c, hc, hw⟩ := Option.bind_eq_some_iff.1 hw
    exact (hv.get? hc).get? hw
  have hwritten := Scheme.get?_criteria_toJson hv h hkey
  rw [← map_sorted_eq hsorted, ← hwritten, Json.get?_sorted (Scheme.distinctKeys_toJson hstorable),
    Scheme.get?_criteria hstorable]
  cases hc : s.criteria with
  | none => rfl
  | some c => exact Json.get?_sorted (Criteria.distinctKeys_toJson (hstorable.criteria c hc)) key

/-! ## Round trips -/

/-- **Whatever is read from a catalog is read back from what is written for it.**  A scheme that was
read is written so that any order of the members gives it back; writing it again after reading is
idempotent; and the value written has, besides the fields, exactly the members of the value that was
read, in the scheme and in its criteria.  Rule sets and standalone rule sets are read back in the
same way. -/
theorem catalog_records_read_back (hv : v.SortedKeys) (origin : Origin) :
    (∀ s, Scheme.decode origin (ofJson v) = .ok s →
      (∀ origin', ReadsBack (Scheme.decode origin') Scheme.toJson s) ∧
      (∀ key ∉ ["scheme_id", "scheme_name", "eligibility_criteria"],
        s.toJson.sorted.get? key = v.get? key) ∧
      (∀ key ∉ ["engine_rules"],
        (s.toJson.sorted.get? "eligibility_criteria").bind (·.get? key) =
          (v.get? "eligibility_criteria").bind (·.get? key))) ∧
    (∀ w, reencode (Scheme.decode origin) Scheme.toJson v = some w →
      reencode (Scheme.decode origin) Scheme.toJson w = some w) ∧
    (∀ s, RuleSet.decode origin (ofJson v) = .ok s →
      ∀ origin', ReadsBack (RuleSet.decode origin') RuleSet.toJson s) ∧
    (∀ r, StandaloneRules.decode (ofJson v) = .ok r →
      ReadsBack StandaloneRules.decode StandaloneRules.toJson r) := by
  refine ⟨fun s hs ↦ ⟨?_, ?_, ?_⟩, fun w hw ↦ ?_, fun s hs origin' ↦ ?_, fun r hr ↦ ?_⟩
  · exact Scheme.readsBack (Scheme.storable_of_decode hs)
  · exact fun key hkey ↦ Scheme.get?_sorted_toJson hv hs hkey
  · exact fun key hkey ↦ Scheme.get?_sorted_criteria hv hs hkey
  · exact reencode_idempotent (fun s hs ↦ Scheme.readsBack (Scheme.storable_of_decode hs) origin) hw
  · exact RuleSet.readsBack (RuleSet.storable_of_decode hs) origin'
  · exact StandaloneRules.readsBack (StandaloneRules.storable_of_decode hr)

/-- A scheme of a catalog, with an integer for a weight, an operator that is not a text, a list that
is `null`, and members that are not fields. -/
def farmersScheme : Json := .obj [
  ("eligibility_criteria", .obj [
    ("engine_rules", .obj [
      ("exclusion_rules", .null),
      ("inclusion_rules", .arr [.obj [
        ("field", .str "occupation.type"),
        ("operator", .arr [.str "in"]),
        ("weight", .num (.int 10 (by decide)))]])]),
    ("summary", .str "Farmers")]),
  ("launch_year", .num (.int 2019 (by decide))),
  ("scheme_id", .str "SCH001")]

theorem farmersScheme_reads_back :
    farmersScheme.SortedKeys ∧
    ∃ s r, Scheme.decode .text (ofJson farmersScheme) = .ok s ∧
      StandaloneRules.decode (ofJson farmersScheme) = .ok r ∧
      Scheme.decode .value (ofJson s.toJson.sorted) = .ok s ∧
      s.toJson.sorted.get? "launch_year" = some (.num (.int 2019 (by decide))) ∧
      (s.toJson.sorted.get? "eligibility_criteria").bind (·.get? "summary") =
        some (.str "Farmers") ∧
      StandaloneRules.decode (ofJson r.toJson) = .ok r := by
  have hsorted : farmersScheme.SortedKeys := by decide
  obtain ⟨hscheme, _, _, hrules⟩ := catalog_records_read_back hsorted .text
  obtain ⟨hback, hmetadata, hother⟩ := hscheme _ rfl
  have hstandalone := hrules _ rfl
  refine ⟨hsorted, _, _, rfl, rfl, (hback .value).decode_eq _ (Json.isOrderingOf_sorted _), ?_, ?_,
    hstandalone.decode_eq _ (.refl hstandalone.distinct)⟩
  · rw [hmetadata "launch_year" (by decide)]
    rfl
  · rw [hother "summary" (by decide)]
    rfl

end Welfare
