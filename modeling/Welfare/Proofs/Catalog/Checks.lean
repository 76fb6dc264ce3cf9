import Welfare.Proofs.Keyed
import Welfare.Service

/-!
# Checks of one scheme and of all

A check of one scheme looks its id up; a screening runs through the list of all schemes and sorts
what it finds.  The two meet because no id is repeated in a catalog: the scheme that is found under
an id is the only one with it, so its assessment is the only one with it in a screening, too.

* `Catalog.fetch_of_mem`, `Catalog.fetch_eq_none_iff` — what is found under an id.
* `Source.check_of_mem`, `Source.check_eq_error_iff` — what a check answers.
* `Profile.perm_screen` — a screening is made of the assessments of all schemes.
* `Source.checks_agree_with_screening` — checks and screenings of one source say the same.
-/

set_option autoImplicit false

namespace Welfare

/-! ## Looking up -/

namespace Catalog

variable {c : Catalog} {schemes : List Scheme} {s : Scheme} {id : String}

/-- A catalog lists the schemes it was made of. -/
theorem schemes_of_ofSchemes (h : ofSchemes schemes = .ok c) : c.schemes = schemes := by
  unfold ofSchemes at h
  split at h
  · cases h
  · cases h
    rfl

/-- A scheme of the catalog is found under its id. -/
theorem fetch_of_mem (hs : s ∈ c.schemes) : c.fetch s.id = some s :=
  find?_of_mem c.distinct hs

theorem fetch_eq_none_iff : c.fetch id = none ↔ ∀ s ∈ c.schemes, s.id ≠ id := by
  rw [fetch, List.find?_eq_none]
  simp only [beq_iff_eq, ne_eq]

end Catalog

/-! ## Checks -/

namespace Source

variable {c : Catalog} {s : Scheme} {id : String}

theorem scheme_of_mem (hs : s ∈ c.schemes) : (catalog c).scheme s.id = .ok s := by
  rw [scheme, fetch, Catalog.fetch_of_mem hs]

theorem scheme_eq_error_iff :
    (catalog c).scheme id = .error (.schemeNotFound id) ↔ ∀ s ∈ c.schemes, s.id ≠ id := by
  rw [← Catalog.fetch_eq_none_iff, scheme, fetch]
  cases c.fetch id with
  | none => exact iff_of_true rfl rfl
  | some s => exact iff_of_false nofun nofun

variable (p : Profile)

/-- A check assesses the scheme with the id. -/
theorem check_of_mem (hs : s ∈ c.schemes) : (catalog c).check p s.id = .ok (s.assess p) := by
  rw [check, scheme_of_mem hs]
  rfl

theorem check_eq_error_iff :
    (catalog c).check p id = .error (.schemeNotFound id) ↔ ∀ s ∈ c.schemes, s.id ≠ id := by
  rw [← scheme_eq_error_iff, check]
  cases (catalog c).scheme id with
  | error e => exact ⟨fun h ↦ by cases h; rfl, fun h ↦ by cases h; rfl⟩
  | ok s => exact iff_of_false nofun nofun

/-- Checks of schemes of the catalog, one after the other. -/
theorem mapM_check {schemes : List Scheme} (h : schemes ⊆ c.schemes) :
    (schemes.map Scheme.id).mapM ((catalog c).check p) = .ok (schemes.map (·.assess p)) := by
  induction schemes with
  | nil => rfl
  | cons s schemes ih =>
    have hs : s ∈ c.schemes := h List.mem_cons_self
    rw [List.map_cons, List.map_cons, List.mapM_cons, check_of_mem p hs,
      ih fun t ht ↦ h (List.mem_cons_of_mem s ht)]
    rfl

end Source

/-! ## Screenings -/

@[simp] theorem Scheme.schemeId_assess (s : Scheme) (p : Profile) :
    (s.assess p).schemeId = s.id := by
  rw [assess]
  split <;> rfl

namespace Profile

variable {p : Profile} {schemes : List Scheme} {s : Scheme}

theorem eligible_screen :
    (p.screen schemes).eligible = (schemes.map (·.assess p)).filter (·.eligible) := rfl

/-- A screening is made of the assessments of all schemes. -/
theorem perm_screen : ((p.screen schemes).eligible ++ (p.screen schemes).ineligible).Perm
    (schemes.map (·.assess p)) :=
  List.filter_append_perm _ _

/-- Schemes with different ids are answered with different ids. -/
theorem nodup_schemeId_screen (h : (schemes.map Scheme.id).Nodup) :
    (((p.screen schemes).eligible ++ (p.screen schemes).ineligible).map
      Assessment.schemeId).Nodup := by
  rw [(perm_screen.map _).nodup_iff, List.map_map]
  have hids : Assessment.schemeId ∘ (·.assess p) = Scheme.id := funext (·.schemeId_assess p)
  rwa [hids]

/-- The assessment of a scheme stands in a screening, and no other one has its id. -/
theorem screen_eq_append (h : (schemes.map Scheme.id).Nodup) (hs : s ∈ schemes) :
    ∃ before after, (p.screen schemes).eligible ++ (p.screen schemes).ineligible =
        before ++ s.assess p :: after ∧
      ∀ a ∈ before ++ after, a.schemeId ≠ s.id := by
  have hmem : s.assess p ∈ (p.screen schemes).eligible ++ (p.screen schemes).ineligible :=
    perm_screen.mem_iff.2 (List.mem_map_of_mem hs)
  obtain ⟨before, after, happend⟩ := List.append_of_mem hmem
  have hnodup := nodup_schemeId_screen (p := p) h
  rw [happend, (List.perm_middle.map _).nodup_iff, List.map_cons, List.nodup_cons,
    Scheme.schemeId_assess] at hnodup
  exact ⟨before, after, happend, fun a ha heq ↦ hnodup.1 (heq ▸ List.mem_map_of_mem ha)⟩

theorem assess_mem_eligible_iff (hs : s ∈ schemes) :
    s.assess p ∈ (p.screen schemes).eligible ↔ (s.assess p).eligible = true := by
  rw [eligible_screen, List.mem_filter, and_iff_right (List.mem_map_of_mem hs)]

end Profile

/-! ## Agreement -/

/-- **Checks of one scheme and of all agree.**  Under an id that no scheme of a catalog has, nothing
is found.  Under any other id a check gives an assessment that stands in the screening exactly once,
as the only one with the id, among the eligible ones if it says so.  The checks of all ids, in the
order of the catalog, are the two parts of the screening when they are sorted.  A source that is
offline answers everything with its reason, except for schemes that are brought along. -/
theorem Source.checks_agree_with_screening :
    (∀ (schemes : List Scheme) (c : Catalog) (p : Profile), Catalog.ofSchemes schemes = .ok c →
      ∃ all, (catalog c).screenAll p = .ok all ∧
        (∀ id, ((catalog c).check p id = .error (.schemeNotFound id) ↔ ∀ s ∈ schemes, s.id ≠ id) ∧
          ((catalog c).scheme id = .error (.schemeNotFound id) ↔ ∀ s ∈ schemes, s.id ≠ id)) ∧
        (∀ id, (∃ s ∈ schemes, s.id = id) → ∃ a, (catalog c).check p id = .ok a ∧
          a.schemeId = id ∧
          (∃ before after, all.eligible ++ all.ineligible = before ++ a :: after ∧
            ∀ b ∈ before ++ after, b.schemeId ≠ id) ∧
          (a ∈ all.eligible ↔ a.eligible = true)) ∧
        ∃ as, (schemes.map Scheme.id).mapM ((catalog c).check p) = .ok as ∧
          all.eligible = as.filter (·.eligible) ∧ all.ineligible = as.filter (!·.eligible)) ∧
    (∀ (reason : String) (p : Profile) (id : String) (schemes : List Scheme),
      let unavailable := ServiceError.catalog (.unavailable reason)
      (offline reason).check p id = .error unavailable ∧
        (offline reason).screenAll p = .error unavailable ∧
        (offline reason).schemes = .error unavailable ∧
        (offline reason).scheme id = .error unavailable ∧
        (offline reason).screenThese p schemes = p.screen schemes) := by
  refine ⟨fun schemes c p h ↦ ?_, fun reason p id schemes ↦ ⟨rfl, rfl, rfl, rfl, rfl⟩⟩
  obtain rfl := Catalog.schemes_of_ofSchemes h
  refine ⟨p.screen c.schemes, rfl, fun id ↦ ⟨check_eq_error_iff p, scheme_eq_error_iff⟩, ?_,
    c.schemes.map (·.assess p), mapM_check p (List.Subset.refl _), rfl, rfl⟩
  rintro id ⟨s, hs, rfl⟩
  exact ⟨s.assess p, check_of_mem p hs, s.schemeId_assess p, Profile.screen_eq_append c.distinct hs,
    Profile.assess_mem_eligible_iff hs⟩

/-- Of two schemes, one is open to everybody and the other has no rules. -/
theorem Source.checks_of_two_schemes :
    let closed : Scheme := { id := "S1" }
    let free : Scheme := { id := "S2", criteria := some { rules := some {} } }
    let p : Profile := ⟨.obj []⟩
    ∃ c all a, Catalog.ofSchemes [closed, free] = .ok c ∧
      (catalog c).screenAll p = .ok all ∧
      (catalog c).check p "S3" = .error (.schemeNotFound "S3") ∧
      (catalog c).check p "S2" = .ok a ∧ a.schemeId = "S2" ∧ a ∈ all.eligible ∧
      all.ineligible.map Assessment.schemeId = ["S1"] := by
  intro closed free p
  have hcatalog : Catalog.ofSchemes [closed, free] = .ok ⟨[closed, free], by decide⟩ := rfl
  obtain ⟨all, hall, hmissing, hfound, _⟩ := checks_agree_with_screening.1 _ _ p hcatalog
  obtain ⟨a, hcheck, hid, _, heligible⟩ := hfound "S2" ⟨free, by simp, rfl⟩
  cases hall
  have ha : a = free.assess p := by
    cases hcheck
    rfl
  refine ⟨_, _, a, hcatalog, rfl, (hmissing "S3").1.2 (by decide), hcheck, hid,
    heligible.2 ?_, ?_⟩
  · rw [ha]
    decide +kernel
  · decide +kernel

end Welfare
