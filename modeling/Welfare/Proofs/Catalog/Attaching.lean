import Mathlib.Data.List.Find
import Welfare.Catalog.Attachment
import Welfare.Proofs.Catalog.Loading

/-!
# The algebra of attaching

What a scheme takes from standalone rule sets is decided by its id alone: the rules of the first
rule set with that id, if there is one.  Attaching leaves the id as it is, so attaching twice looks
up the same id twice, and the second list is asked before the first: it is one look-up in the
second list put in front of the first.

* `rulesFor` — what is looked up; `rulesFor_append` — one list is asked before the other.
* `Scheme.withRules?` — the scheme under rules, if there are any for it;
  `Scheme.withRules?_withRules?` — the last rules count.
* `attachRules_eq_map`, `attachRules_congr` — attaching is a look-up for each scheme.
* `Catalog.ofSchemes_error_congr` — loading looks at the ids only.
* `attaching_is_first_match` — the laws of attaching.
-/

set_option autoImplicit false

namespace Welfare

/-! ## Looking up -/

section RulesFor

variable {id : String} {front back records : List StandaloneRules} {r : StandaloneRules}

/-- The rules for an id: those of the first rule set with it. -/
def rulesFor (records : List StandaloneRules) (id : String) : Option RuleSet :=
  (records.find? (·.schemeId == id)).map StandaloneRules.rules

/-- The rules for an id are looked for in the first list before the second. -/
theorem rulesFor_append :
    rulesFor (front ++ back) id = (rulesFor front id).or (rulesFor back id) := by
  rw [rulesFor, List.find?_append, Option.map_or]
  rfl

theorem rulesFor_cons_self : rulesFor (r :: records) r.schemeId = some r.rules := by
  rw [rulesFor, List.find?_cons_of_pos (by simp), Option.map_some]

theorem rulesFor_cons_of_ne (h : r.schemeId ≠ id) :
    rulesFor (r :: records) id = rulesFor records id := by
  rw [rulesFor, List.find?_cons_of_neg (by simpa using h), rulesFor]

theorem rulesFor_eq_none_iff : rulesFor records id = none ↔ ∀ r ∈ records, r.schemeId ≠ id := by
  rw [rulesFor, Option.map_eq_none_iff, List.find?_eq_none]
  simp only [beq_iff_eq, ne_eq]

/-- A rule set that has the id, behind others that do not, has the rules for it. -/
theorem rulesFor_of_first (h : ∀ q ∈ front, q.schemeId ≠ r.schemeId) :
    rulesFor (front ++ r :: back) r.schemeId = some r.rules := by
  rw [rulesFor_append, rulesFor_eq_none_iff.2 h, Option.none_or, rulesFor_cons_self]

/-- A rule set whose id came before is never found. -/
theorem rulesFor_of_repeated (h : ∃ q ∈ front, q.schemeId = r.schemeId) :
    rulesFor (front ++ r :: back) id = rulesFor (front ++ back) id := by
  rw [rulesFor_append, rulesFor_append]
  by_cases hid : r.schemeId = id
  · obtain ⟨q, hq, hrepeated⟩ := h
    have hsome : rulesFor front id ≠ none := fun hnone ↦
      rulesFor_eq_none_iff.1 hnone q hq (hrepeated.trans hid)
    obtain ⟨rules, hrules⟩ := Option.ne_none_iff_exists'.1 hsome
    rw [hrules, Option.some_or, Option.some_or]
  · rw [rulesFor_cons_of_ne hid]

/-- Rule sets with other ids may be dropped. -/
theorem rulesFor_filter {p : StandaloneRules → Bool}
    (h : ∀ r ∈ records, p r = false → r.schemeId ≠ id) :
    rulesFor (records.filter p) id = rulesFor records id := by
  rw [rulesFor, rulesFor, List.find?_filter]
  refine congrArg _ (List.find?_congr fun r hr ↦ ?_)
  by_cases hid : r.schemeId = id
  · have hp : p r = true := Bool.eq_true_of_not_eq_false fun hdropped ↦ h r hr hdropped hid
    simp [hid, hp]
  · simp [hid]

end RulesFor

/-! ## One scheme -/

namespace Scheme

variable (s : Scheme)

/-- The scheme under rules, if there are any for it. -/
def withRules? (rules : Option RuleSet) : Scheme := rules.elim s s.withRules

@[simp] theorem withRules?_none : s.withRules? none = s := rfl

@[simp] theorem withRules?_some (rules : RuleSet) : s.withRules? (some rules) = s.withRules rules :=
  rfl

@[simp] theorem id_withRules? (rules : Option RuleSet) : (s.withRules? rules).id = s.id := by
  cases rules <;> rfl

/-- The last rules count, where there are any. -/
theorem withRules?_withRules? (first second : Option RuleSet) :
    (s.withRules? first).withRules? second = s.withRules? (second.or first) := by
  cases second with
  | none => rw [Option.none_or, withRules?_none]
  | some rules => cases first <;> rfl

/-- The other scheme says the same as this one, whatever its rules are. -/
structure SameButRules (t : Scheme) : Prop where
  id : t.id = s.id
  name : t.name = s.name
  metadata : t.metadata = s.metadata
  /-- Absent criteria say nothing but that there are no rules. -/
  other : (t.criteria.getD {}).other = (s.criteria.getD {}).other

theorem sameButRules_withRules? (rules : Option RuleSet) : s.SameButRules (s.withRules? rules) := by
  cases rules <;> exact ⟨rfl, rfl, rfl, rfl⟩

end Scheme

/-! ## All schemes -/

section AttachRules

variable {schemes : List Scheme} {records : List StandaloneRules}

/-- Every scheme looks its rules up under its id. -/
theorem attachRules_eq_map :
    attachRules schemes records = schemes.map fun s ↦ s.withRules? (rulesFor records s.id) := by
  refine List.map_congr_left fun s _ ↦ ?_
  rw [rulesFor]
  cases records.find? (·.schemeId == s.id) <;> rfl

/-- Only what is found under the ids of the schemes matters. -/
theorem attachRules_congr {records' : List StandaloneRules}
    (h : ∀ s ∈ schemes, rulesFor records s.id = rulesFor records' s.id) :
    attachRules schemes records = attachRules schemes records' := by
  rw [attachRules_eq_map, attachRules_eq_map]
  exact List.map_congr_left fun s hs ↦ by rw [h s hs]

@[simp] theorem map_id_attachRules :
    (attachRules schemes records).map Scheme.id = schemes.map Scheme.id := by
  rw [attachRules_eq_map, List.map_map]
  exact List.map_congr_left fun s _ ↦ s.id_withRules? _

theorem getElem?_attachRules {i : Nat} {s : Scheme} (h : schemes[i]? = some s) :
    (attachRules schemes records)[i]? = some (s.withRules? (rulesFor records s.id)) := by
  rw [attachRules_eq_map, List.getElem?_map, h, Option.map_some]

/-- Rule sets attached one list after the other are attached at once, the last list in front. -/
theorem attachRules_attachRules (first second : List StandaloneRules) :
    attachRules (attachRules schemes first) second = attachRules schemes (second ++ first) := by
  simp only [attachRules_eq_map, List.map_map, Function.comp_def, Scheme.id_withRules?,
    Scheme.withRules?_withRules?, rulesFor_append]

/-- What is attached already is attached again without effect. -/
theorem attachRules_idem :
    attachRules (attachRules schemes records) records = attachRules schemes records := by
  rw [attachRules_attachRules]
  exact attachRules_congr fun s _ ↦ by rw [rulesFor_append, Option.or_self]

end AttachRules

/-- Whether schemes make a catalog, and which id is repeated, depends on their ids only. -/
theorem Catalog.ofSchemes_error_congr {schemes schemes' : List Scheme} {e : CatalogError}
    (h : schemes.map Scheme.id = schemes'.map Scheme.id) :
    ofSchemes schemes = .error e ↔ ofSchemes schemes' = .error e := by
  rw [ofSchemes_eq_error_iff_firstRepeated, ofSchemes_eq_error_iff_firstRepeated, h]

/-! ## The laws -/

/-- **Attaching is a look-up of the first match.**  Rule sets that are attached in two steps are
attached at once, those of the second step in front; attaching them again has no effect, and a rule
set behind another one with its id has none either.  Attaching keeps the schemes, their order and
whatever is said about them apart from their rules.  It changes nothing for a scheme without a rule
set, and puts any other scheme under the rules of the first rule set with its id.  Rule sets for
other schemes may be left out.  A catalog is made of the schemes afterwards exactly when one is made
of them before, and otherwise the same id is repeated. -/
theorem attaching_is_first_match (schemes : List Scheme) :
    (∀ first second, attachRules (attachRules schemes first) second =
      attachRules schemes (second ++ first)) ∧
    (∀ records, attachRules (attachRules schemes records) records = attachRules schemes records) ∧
    (∀ front r back, (∃ q ∈ front, q.schemeId = r.schemeId) →
      attachRules schemes (front ++ r :: back) = attachRules schemes (front ++ back)) ∧
    ∀ records,
      (attachRules schemes records).length = schemes.length ∧
      (∀ (i : Nat) (s : Scheme), schemes[i]? = some s →
        ∃ t, (attachRules schemes records)[i]? = some t ∧ s.SameButRules t ∧
          ((∀ r ∈ records, r.schemeId ≠ s.id) → t = s) ∧
          ∀ front r back, records = front ++ r :: back → r.schemeId = s.id →
            (∀ q ∈ front, q.schemeId ≠ s.id) → t = s.withRules r.rules) ∧
      (∀ p : StandaloneRules → Bool,
        (∀ r ∈ records, p r = false → ∀ s ∈ schemes, r.schemeId ≠ s.id) →
        attachRules schemes (records.filter p) = attachRules schemes records) ∧
      ∀ e, Catalog.ofSchemes (attachRules schemes records) = .error e ↔
        Catalog.ofSchemes schemes = .error e := by
  refine ⟨attachRules_attachRules, fun records ↦ attachRules_idem, fun front r back hrepeated ↦
    attachRules_congr fun s _ ↦ rulesFor_of_repeated hrepeated, fun records ↦
    ⟨length_attachRules schemes records, fun i s hs ↦ ?_, fun p hp ↦ ?_, fun e ↦
      Catalog.ofSchemes_error_congr map_id_attachRules⟩⟩
  · refine ⟨_, getElem?_attachRules hs, s.sameButRules_withRules? _, fun hnone ↦ ?_, ?_⟩
    · rw [rulesFor_eq_none_iff.2 hnone, Scheme.withRules?_none]
    · rintro front r back rfl hid hfront
      rw [← hid] at hfront ⊢
      rw [rulesFor_of_first hfront, Scheme.withRules?_some]
  · exact attachRules_congr fun s hs ↦ rulesFor_filter fun r hr hdropped ↦ hp r hr hdropped s hs

/-- Two of three schemes have the same id, the criteria of the first say something else as well, and
the rule sets name the first id twice and an id that no scheme has. -/
theorem attaching_to_three_schemes :
    let first : Scheme := { id := "S1", criteria := some { other := [("state", .str "all")] } }
    let second : Scheme := { id := "S2", criteria := some { rules := some {} } }
    let third : Scheme := { id := "S1", name := "Copy" }
    let schemes := [first, second, third]
    let strict : RuleSet := { minimumScore := some 5 }
    let early : StandaloneRules := ⟨"S1", strict⟩
    let late : StandaloneRules := ⟨"S1", {}⟩
    let stray : StandaloneRules := ⟨"S9", strict⟩
    attachRules (attachRules schemes [late, stray]) [early] = attachRules schemes [early] ∧
    (∃ t, (attachRules schemes [stray, early, late])[0]? = some t ∧
      t.criteria = some { rules := some strict, other := [("state", .str "all")] }) ∧
    (attachRules schemes [stray, early, late])[1]? = some second ∧
    Catalog.ofSchemes (attachRules schemes [stray, early, late]) = .error (.duplicate "S1") := by
  intro first second third schemes strict early late stray
  obtain ⟨htwice, -, hrepeated, hone⟩ := attaching_is_first_match schemes
  obtain ⟨-, hplaces, -, hcatalog⟩ := hone [stray, early, late]
  refine ⟨?_, ?_, ?_, ?_⟩
  · -- The late one is behind the early one, and then nobody asks for the stray one.
    have hlate := hrepeated [early] late [stray] ⟨early, by simp, rfl⟩
    have hstray := ((attaching_is_first_match schemes).2.2.2 [early, stray]).2.2.1
      (·.schemeId != "S9") (by decide +kernel)
    exact (htwice _ _).trans (hlate.trans hstray.symm)
  · obtain ⟨t, ht, -, -, hfound⟩ := hplaces 0 first rfl
    exact ⟨t, ht, by rw [hfound [stray] early [late] rfl rfl (by simp [stray, first])]; rfl⟩
  · obtain ⟨t, ht, -, hkept, -⟩ := hplaces 1 second rfl
    exact ht.trans (congrArg some (hkept (by simp [stray, early, late, second])))
  · exact (hcatalog _).2 (Catalog.ofSchemes_eq_error_iff.2
      ⟨[first, second], third, [], rfl, by decide, by decide, rfl⟩)

end Welfare
