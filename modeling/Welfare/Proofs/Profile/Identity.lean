import Welfare.Briefing
import Welfare.Proofs.Json.Members
import Welfare.Proofs.Profile.BareName
import Welfare.Screening

/-!
# Who the citizen is taken for

The id and the name of the citizen are meant to be read at the top of a profile or in the personal
information.  They are looked up like any bare name, though, and a bare name that is found in
neither place is looked for in all other categories.  So a relative who is on record with a name
lends it to a citizen who is on record with none.

What stands in the two places meant for it, be it `null`, is found first and keeps the rest of the
profile out.  Only an entry that is missing from both lets another category answer for it.

* `Profile.ownEntry` — what stands in the two places.
* `Profile.resolve_of_ownEntry` — an entry of one's own keeps all others out.
* `Profile.exists_sameOwnEntries_resolve` — a missing one lets anything in.
* `Profile.relative_is_taken_for_citizen` — a name that belongs to somebody else.
* `Profile.identity_is_own_exactly_when_entered` — when the identity is the citizen's own.
-/

set_option autoImplicit false

namespace Welfare.Profile

variable {p q : Profile} {name : String}

/-! ## Entries of one's own -/

/-- What stands under a name at the top of a profile, or else in the personal information. -/
def ownEntry (p : Profile) (name : String) : Option Json :=
  (p.record.get? name).or (p.heldIn .personalInfo name)

/-- Two profiles with the same entries for the id and the name at the top, and the same personal
information. -/
structure SameOwnEntries (p q : Profile) : Prop where
  object : p.record.isObject = true
  object' : q.record.isObject = true
  citizenId : p.SameUnder q "citizen_id"
  fullName : p.SameUnder q "full_name"
  personalInfo : p.SameUnder q Category.personalInfo.key

/-- A name is settled between two profiles: it has an entry in its own place, or the categories of
both hold the same under it. -/
def Settled (p q : Profile) (name : String) : Prop :=
  (p.ownEntry name).isSome = true ∨ ∀ c, p.heldIn c name = q.heldIn c name

/-- An entry of one's own answers for its name, whatever the other categories hold. -/
theorem resolve_of_ownEntry (hp : p.record.isObject = true) (hbare : '.' ∉ name.toList)
    (h : (p.ownEntry name).isSome = true) : p.resolve ⟨name⟩ = p.ownEntry name := by
  rw [ownEntry] at h ⊢
  rw [resolve_bare hp hbare]
  cases hname : p.record.get? name with
  | some v => rfl
  | none =>
    rw [hname, Option.none_or] at h
    -- no category is scanned before the personal information
    have hfirst : p.FirstHolds .personalInfo name :=
      ⟨h, fun d hd ↦ absurd hd (Nat.not_lt_zero _)⟩
    rw [Option.none_or, Option.none_or, scan_eq_heldIn hfirst]

theorem resolve_eq_of_settled (hp : p.record.isObject = true) (hq : q.record.isObject = true)
    (hbare : '.' ∉ name.toList) (hname : p.SameUnder q name)
    (hinfo : p.SameUnder q Category.personalInfo.key) (h : p.Settled q name) :
    p.resolve ⟨name⟩ = q.resolve ⟨name⟩ := by
  have hown : p.ownEntry name = q.ownEntry name := by
    rw [ownEntry, ownEntry, hname, hinfo.heldIn_eq]
  rcases h with hentered | hheld
  · rw [resolve_of_ownEntry hp hbare hentered, resolve_of_ownEntry hq hbare (hown ▸ hentered), hown]
  · exact resolve_congr hp hq hbare hname fun c _ ↦ hheld c

/-! ## Entries of somebody else -/

/-- The profile with nothing on record about the place but one attribute. -/
def withLocation (p : Profile) (name : String) (v : Json) : Profile :=
  ⟨p.record.put Category.location.key (.obj [(name, v)])⟩

theorem sameUnder_withLocation {key : String} (h : key ≠ Category.location.key) (v : Json) :
    p.SameUnder (p.withLocation name v) key := by
  rw [SameUnder, withLocation, Json.get?_put, if_neg h]

theorem sameOwnEntries_withLocation (hp : p.record.isObject = true) (v : Json) :
    p.SameOwnEntries (p.withLocation name v) where
  object := hp
  object' := rfl
  citizenId := sameUnder_withLocation (by decide) v
  fullName := sameUnder_withLocation (by decide) v
  personalInfo := sameUnder_withLocation (by decide) v

/-- A name without an entry of its own stands for whatever the next category holds under it. -/
theorem resolve_withLocation (hbare : '.' ∉ name.toList) (hne : name ≠ Category.location.key)
    (h : p.ownEntry name = none) (v : Json) :
    (p.withLocation name v).resolve ⟨name⟩ = some v := by
  obtain ⟨htop, hinfo⟩ := Option.or_eq_none_iff.1 h
  have hheld : (p.withLocation name v).heldIn .location name = some v := by
    rw [heldIn, withLocation, Json.get?_put, if_pos rfl, Option.bind_some, Json.get?,
      lookup_cons_eq_ite, if_pos rfl]
  have hfirst : (p.withLocation name v).FirstHolds .location name := by
    refine ⟨Option.isSome_of_eq_some hheld, fun d hd ↦ ?_⟩
    have hsame : p.SameUnder (p.withLocation name v) Category.personalInfo.key :=
      sameUnder_withLocation (by decide) v
    cases d with
    | personalInfo => rw [← hsame.heldIn_eq, hinfo]
    | _ => exact absurd hd (by decide)
  have hsame : p.SameUnder (p.withLocation name v) name := sameUnder_withLocation hne v
  rw [resolve_bare rfl hbare, ← hsame, htop, Option.none_or, scan_eq_heldIn hfirst, hheld]

/-- A name without an entry of its own may stand for anything, for all that the own entries say. -/
theorem exists_sameOwnEntries_resolve (hp : p.record.isObject = true) (hbare : '.' ∉ name.toList)
    (hne : name ≠ Category.location.key) (h : ¬ (p.ownEntry name).isSome = true) (v : Json) :
    ∃ q, p.SameOwnEntries q ∧ q.resolve ⟨name⟩ = some v :=
  ⟨p.withLocation name v, sameOwnEntries_withLocation hp v,
    resolve_withLocation hbare hne (Option.not_isSome_iff_eq_none.1 h) v⟩

/-! ## The identity -/

theorem citizenId_congr (h : p.resolve ⟨"citizen_id"⟩ = q.resolve ⟨"citizen_id"⟩) :
    p.citizenId = q.citizenId := by
  rw [citizenId, citizenId, h]

theorem fullName_congr (h : p.resolve ⟨"full_name"⟩ = q.resolve ⟨"full_name"⟩) :
    p.fullName = q.fullName := by
  rw [fullName, fullName, h]

theorem citizenId_of_resolve {t : String} (h : p.resolve ⟨"citizen_id"⟩ = some (.str t)) :
    p.citizenId = some t := by
  rw [citizenId, h]
  rfl

theorem fullName_of_resolve {t : String} (h : p.resolve ⟨"full_name"⟩ = some (.str t))
    (hblank : Text.isAllBlank t = false) : p.fullName = some t := by
  rw [fullName, h, Option.bind_some, Json.string?, Option.filter_some, hblank]
  rfl

/-- There is always another name. -/
theorem exists_name_ne (x : Option String) : ∃ t, Text.isAllBlank t = false ∧ x ≠ some t := by
  refine ⟨x.getD "" ++ "x", ?_, fun h ↦ ?_⟩
  · have hblank : Text.isBlank 'x' = false := by decide
    simp [Text.isAllBlank, hblank]
  · have hlength := congrArg String.length (congrArg (Option.getD · "") h)
    simp at hlength

/-- Two citizens go by the same id and name, in every result and in every briefing; the summaries
are the same as well when they count as many schemes. -/
structure SameIdentity (p q : Profile) : Prop where
  citizenId : p.citizenId = q.citizenId
  fullName : p.fullName = q.fullName
  screening : ∀ ss ts : List Scheme, (p.screen ss).citizenId = (q.screen ts).citizenId
  summary : ∀ ss ts : List Scheme, (p.screen ss).eligible.length = (q.screen ts).eligible.length →
    (p.screen ss).summary = (q.screen ts).summary
  briefing : ∀ (s t : Scheme) (a b : Assessment),
    (Briefing.of p s a).citizenName = (Briefing.of q t b).citizenName

/-- Everything that names the citizen goes back to the id and the name. -/
theorem sameIdentity_of_eq (hid : p.citizenId = q.citizenId) (hname : p.fullName = q.fullName) :
    p.SameIdentity q := by
  refine ⟨hid, hname, fun _ _ ↦ hid, ?_, ?_⟩
  · intro ss ts hcount
    have hsubject : p.subject = q.subject := by rw [subject, subject, hid, hname]
    simp only [screen] at hcount ⊢
    rw [hsubject, hcount]
  · intro s t a b
    rw [Briefing.of, Briefing.of, hname]

theorem sameIdentity_of_settled (h : p.SameOwnEntries q) (hid : p.Settled q "citizen_id")
    (hname : p.Settled q "full_name") : p.SameIdentity q :=
  sameIdentity_of_eq
    (citizenId_congr <|
      resolve_eq_of_settled h.object h.object' (by decide) h.citizenId h.personalInfo hid)
    (fullName_congr <|
      resolve_eq_of_settled h.object h.object' (by decide) h.fullName h.personalInfo hname)

/-- An id that the own entries determine is entered there. -/
theorem isSome_ownEntry_citizenId (hp : p.record.isObject = true)
    (h : ∀ q, p.SameOwnEntries q → p.citizenId = q.citizenId) :
    (p.ownEntry "citizen_id").isSome = true := by
  by_contra hown
  obtain ⟨t, -, hne⟩ := exists_name_ne p.citizenId
  obtain ⟨q, hsame, hlent⟩ :=
    exists_sameOwnEntries_resolve hp (by decide) (by decide) hown (.str t)
  exact hne ((h q hsame).trans (citizenId_of_resolve hlent))

/-- A name that the own entries determine is entered there. -/
theorem isSome_ownEntry_fullName (hp : p.record.isObject = true)
    (h : ∀ q, p.SameOwnEntries q → p.fullName = q.fullName) :
    (p.ownEntry "full_name").isSome = true := by
  by_contra hown
  obtain ⟨t, hblank, hne⟩ := exists_name_ne p.fullName
  obtain ⟨q, hsame, hlent⟩ :=
    exists_sameOwnEntries_resolve hp (by decide) (by decide) hown (.str t)
  exact hne ((h q hsame).trans (fullName_of_resolve hlent hblank))

/-- **A relative is taken for the citizen.**  Neither profile has a name or an id of its own; one of
them has a family. -/
theorem relative_is_taken_for_citizen :
    let alone : Profile := ⟨.obj []⟩
    let related : Profile := ⟨.obj [("family", .obj [
      ("citizen_id", .str "CIT002"), ("full_name", .str "Ramesh Kumar")])]⟩
    alone.SameOwnEntries related ∧
      alone.citizenId = none ∧ related.citizenId = some "CIT002" ∧
      alone.fullName = none ∧ related.fullName = some "Ramesh Kumar" ∧
      (alone.screen []).summary = "Citizen is eligible for 0 schemes." ∧
      (related.screen []).summary = "Ramesh Kumar is eligible for 0 schemes." := by
  intro alone related
  have hsame : alone.SameOwnEntries related := ⟨rfl, rfl, rfl, rfl, rfl⟩
  exact ⟨hsame, by decide +kernel, by decide +kernel, by decide +kernel, by decide +kernel,
    by decide +kernel, by decide +kernel⟩

/-- **The identity is the citizen's own exactly when it is entered.**  Take another profile with the
same entries for the id and the name at the top, and with the same personal information.  Where the
id and the name are settled between the two, the citizens go by the same ones everywhere.  That this
is so for every such profile, whatever its other categories hold, means just that both the id and
the name have an entry at the top or in the personal information. -/
theorem identity_is_own_exactly_when_entered (hp : p.record.isObject = true) :
    (∀ q, p.SameOwnEntries q → p.Settled q "citizen_id" → p.Settled q "full_name" →
      p.SameIdentity q) ∧
    ((∀ q, p.SameOwnEntries q → p.SameIdentity q) ↔
      (p.ownEntry "citizen_id").isSome = true ∧ (p.ownEntry "full_name").isSome = true) := by
  refine ⟨fun q h hid hname ↦ sameIdentity_of_settled h hid hname, ?_, ?_⟩
  · intro hall
    exact ⟨isSome_ownEntry_citizenId hp fun q h ↦ (hall q h).citizenId,
      isSome_ownEntry_fullName hp fun q h ↦ (hall q h).fullName⟩
  · rintro ⟨hid, hname⟩ q h
    exact sameIdentity_of_settled h (.inl hid) (.inl hname)

/-- A name that is entered as `null` is an entry: the brother does not lend his, and the summary
goes by the id, as it does without the brother. -/
theorem brother_does_not_lend_his_name :
    let p : Profile := ⟨.obj [
      ("citizen_id", .str "CIT777"),
      ("family", .obj [("full_name", .str "Ramesh Rao")]),
      ("personal_info", .obj [("full_name", .null)])]⟩
    let q : Profile := ⟨.obj [
      ("citizen_id", .str "CIT777"),
      ("personal_info", .obj [("full_name", .null)])]⟩
    p.record.isObject = true ∧ p.SameOwnEntries q ∧ (p.ownEntry "full_name").isSome = true ∧
      p.fullName = q.fullName ∧ p.fullName = none ∧
      (p.screen []).summary = (q.screen []).summary ∧
      (p.screen []).summary = "CIT777 is eligible for 0 schemes." := by
  intro p q
  have hsame : p.SameOwnEntries q := ⟨rfl, rfl, rfl, rfl, rfl⟩
  have hsameIdentity := (identity_is_own_exactly_when_entered hsame.object).2.2 ⟨rfl, rfl⟩ q hsame
  have hcount : (p.screen []).eligible.length = (q.screen []).eligible.length := by decide +kernel
  exact ⟨hsame.object, hsame, rfl, hsameIdentity.fullName, by decide +kernel,
    hsameIdentity.summary [] [] hcount, by decide +kernel⟩

end Welfare.Profile
