import Welfare.Proofs.Libraries
import Welfare.Proofs.Settings.Loading
import Welfare.Proofs.Text.Numeral
import Welfare.Proofs.Text.Trimming

/-!
# What settings are loaded from

The environment and the assignments of a file are two layers: a name has the value that the
environment gives it, and otherwise the first one that is assigned to it.  Loading looks at six
names.  Two of them can be at fault, the port and the path of the catalog, and the port is looked at
first; when neither is, each field of the settings is made of the value of one name.

How the file is found and read does not matter for any of this.  It is left to a library, of which
no more is used than that it does not replace variables and applies first assignments.

* `InEffect` — the value of a name in effect, and `inEffect_iff`, that it is the one that is looked
  up.
* `Settings.ReadOff` — settings say what variables say.
* `Settings.AgreeFieldwise` — settings of two runs agree where the variables do.
* `Settings.load_is_exact` — when loading fails, with what, and what it gives otherwise.
-/

set_option autoImplicit false

namespace Welfare

/-! ## Values in effect -/

/-- Nothing is assigned to a name. -/
def LeavesUnset (assigned : List (String × String)) (name : String) : Prop :=
  ∀ a ∈ assigned, a.1 ≠ name

/-- The first assignment to a name gives it a value. -/
def AssignsFirst (assigned : List (String × String)) (name value : String) : Prop :=
  ∃ before after, assigned = before ++ (name, value) :: after ∧ LeavesUnset before name

theorem lookup_eq_none_iff_leavesUnset {assigned : List (String × String)} {name : String} :
    assigned.lookup name = none ↔ LeavesUnset assigned name := by
  simp only [List.lookup_eq_none_iff, LeavesUnset, bne_iff_ne, ne_comm]

theorem lookup_eq_some_iff_assignsFirst {assigned : List (String × String)} {name value : String} :
    assigned.lookup name = some value ↔ AssignsFirst assigned name value := by
  simp only [List.lookup_eq_some_iff, AssignsFirst, LeavesUnset, bne_iff_ne, ne_comm]

/-- The value of a name in effect: the one of the environment, else the first one that is assigned,
else none. -/
inductive InEffect (environment : Variables) (assigned : List (String × String)) (name : String) :
    Option String → Prop
  | environment {value : String} : environment.get? name = some value →
      InEffect environment assigned name (some value)
  | assigned {value : String} : environment.get? name = none → AssignsFirst assigned name value →
      InEffect environment assigned name (some value)
  | unset : environment.get? name = none → LeavesUnset assigned name →
      InEffect environment assigned name none

/-- A name has one value in effect, and it is the one that is looked up. -/
theorem inEffect_iff {environment : Variables} {assigned : List (String × String)} {name : String}
    {value : Option String} :
    InEffect environment assigned name value ↔ (environment.extend assigned).get? name = value := by
  rw [Variables.get?_extend]
  constructor
  · intro h
    cases h with
    | environment hset => rw [hset, Option.some_or]
    | assigned hunset hfirst =>
      rw [hunset, Option.none_or]
      exact lookup_eq_some_iff_assignsFirst.2 hfirst
    | unset hunset hnone =>
      rw [hunset, Option.none_or]
      exact lookup_eq_none_iff_leavesUnset.2 hnone
  · rintro rfl
    cases hset : environment.get? name with
    | some value => exact .environment hset
    | none =>
      rw [Option.none_or]
      cases hfirst : assigned.lookup name with
      | some value => exact .assigned hset (lookup_eq_some_iff_assignsFirst.1 hfirst)
      | none => exact .unset hset (lookup_eq_none_iff_leavesUnset.1 hfirst)

namespace Variables

variable {v : Variables}

/-! ## Faults -/

/-- The port is at fault when its variable is set and no numeral of sixteen bits. -/
theorem fault?_eq_invalidPort_iff_not_isNumeral : v.fault? = some .invalidPort ↔
    ∃ text, v.get? "APP_PORT" = some text ∧ ¬∃ n, Text.IsNumeral text n ∧ n ≤ 65535 := by
  rw [fault?_eq_invalidPort_iff]
  cases v.get? "APP_PORT" with
  | none => exact iff_of_false (by decide) nofun
  | some text =>
    rw [Option.getD_some, Settings.port?, Text.numeral?_eq_none_iff]
    simp [Nat.lt_succ_iff]

/-- The path is at fault when its variable is set to blanks only, unless the port is. -/
theorem fault?_eq_emptyCatalogPath_iff_forall_isBlank : v.fault? = some .emptyCatalogPath ↔
    v.fault? ≠ some .invalidPort ∧ ∃ text, v.get? "SCHEME_CATALOG_PATH" = some text ∧
      ∀ c ∈ text.toList, Text.isBlank c = true := by
  rw [fault?_eq_emptyCatalogPath_iff, Option.any_eq_true]
  simp only [Text.isAllBlank_iff]

theorem fault?_eq_none_iff : v.fault? = none ↔
    v.fault? ≠ some .invalidPort ∧ v.fault? ≠ some .emptyCatalogPath := by
  constructor
  · intro h
    simp [h]
  · rintro ⟨hport, hpath⟩
    refine Option.eq_none_iff_forall_ne_some.2 fun e ↦ ?_
    cases e with
    | invalidPort => exact hport
    | emptyCatalogPath => exact hpath
    | invalidHost => exact v.fault?_ne_invalidHost

end Variables

/-! ## Fields -/

namespace Settings

variable {v v' : Variables} {s s' : Settings}

/-- A value says which port it is: it is a numeral of it, and by default it is 3000. -/
def SaysPort : Option String → Nat → Prop
  | none, port => port = 3000
  | some text, port => Text.IsNumeral text port

/-- A value says which path it is: the trimmed value, which is not blank, and by default none. -/
def SaysCatalogPath : Option String → Option String → Prop
  | none, path? => path? = none
  | some text, path? => ∃ path, path? = some path ∧ Text.TrimsTo text path ∧
      ∃ c ∈ path.toList, Text.isBlank c = false

/-- Settings say what variables say: each field is made of the value of one name, and has its
default when the name is unset. -/
structure ReadOff (s : Settings) (v : Variables) : Prop where
  stage : s.stage = ((v.get? "APP_ENV").map Stage.ofWord).getD .development
  host : s.host = (v.get? "APP_HOST").getD "127.0.0.1"
  port : SaysPort (v.get? "APP_PORT") s.port
  port_le : s.port ≤ 65535
  logLevel : s.logLevel = (v.get? "APP_LOG_LEVEL").getD "info"
  logFormat : s.logFormat = ((v.get? "APP_LOG_FORMAT").map LogFormat.ofWord).getD .compact
  catalogPath : SaysCatalogPath (v.get? "SCHEME_CATALOG_PATH") s.catalogPath

/-- The word that stands for a stage that is not set says the default. -/
theorem stage_default : Stage.ofWord "development" = .development := by
  decide

theorem logFormat_default : LogFormat.ofWord "compact" = .compact := by
  decide

theorem port_default : port? "3000" = some 3000 := by
  decide

/-- A port that is read is the one that the value says, and has sixteen bits. -/
theorem saysPort_of_read {value : Option String} {port : Nat}
    (h : port? (value.getD "3000") = some port) : SaysPort value port ∧ port ≤ 65535 := by
  have hnumeral := Text.numeral?_eq_some_iff.1 h
  refine ⟨?_, Nat.le_of_lt_succ hnumeral.2⟩
  cases value with
  | none =>
    rw [Option.getD_none, port_default] at h
    exact (Option.some_inj.1 h).symm
  | some text => exact hnumeral.1

/-- What is not blank is not blank when it is trimmed either. -/
theorem saysCatalogPath_trim {value : Option String} (h : value.any Text.isAllBlank = false) :
    SaysCatalogPath value (value.map Text.trim) := by
  cases value with
  | none => rfl
  | some text =>
    have htrims := Text.trimsTo_trim text
    refine ⟨Text.trim text, rfl, htrims, ?_⟩
    rw [Option.any_some, ← htrims.isAllBlank_eq, Text.isAllBlank, List.all_eq_false] at h
    simpa only [Bool.not_eq_true] using h

/-- What variables say without a fault is read off them. -/
theorem readOff_settings (h : v.fault? = none) : v.settings.ReadOff v := by
  obtain ⟨hport, hpath⟩ := Variables.fault?_eq_none_iff.1 h
  obtain ⟨port, hvalue⟩ :=
    Option.ne_none_iff_exists'.1 (mt Variables.fault?_eq_invalidPort_iff.2 hport)
  have hread : v.settings.port = port := by rw [Variables.settings, hvalue, Option.getD_some]
  have hblank := not_and.1 (mt Variables.fault?_eq_emptyCatalogPath_iff.2 hpath) hport
  exact
    { stage := by rw [Variables.settings, ← stage_default, Option.getD_map]
      host := rfl
      port := hread ▸ (saysPort_of_read hvalue).1
      port_le := hread ▸ (saysPort_of_read hvalue).2
      logLevel := rfl
      logFormat := by rw [Variables.settings, ← logFormat_default, Option.getD_map]
      catalogPath := saysCatalogPath_trim (Bool.eq_false_iff.2 hblank) }

/-- Settings of two runs have those fields in common whose names have one value in effect. -/
structure AgreeFieldwise (v v' : Variables) (s s' : Settings) : Prop where
  stage : v.get? "APP_ENV" = v'.get? "APP_ENV" → s.stage = s'.stage
  host : v.get? "APP_HOST" = v'.get? "APP_HOST" → s.host = s'.host
  port : v.get? "APP_PORT" = v'.get? "APP_PORT" → s.port = s'.port
  logLevel : v.get? "APP_LOG_LEVEL" = v'.get? "APP_LOG_LEVEL" → s.logLevel = s'.logLevel
  logFormat : v.get? "APP_LOG_FORMAT" = v'.get? "APP_LOG_FORMAT" → s.logFormat = s'.logFormat
  catalogPath : v.get? "SCHEME_CATALOG_PATH" = v'.get? "SCHEME_CATALOG_PATH" →
    s.catalogPath = s'.catalogPath

theorem agreeFieldwise_settings (v v' : Variables) :
    AgreeFieldwise v v' v.settings v'.settings := by
  constructor <;> intro h <;> rw [Variables.settings, Variables.settings, h]

/-- The names whose values are loaded. -/
def loadedNames : List String :=
  ["APP_ENV", "APP_HOST", "APP_PORT", "APP_LOG_LEVEL", "APP_LOG_FORMAT", "SCHEME_CATALOG_PATH"]

theorem ofVariables_congr (h : ∀ name ∈ loadedNames, v.get? name = v'.get? name) :
    ofVariables v = ofVariables v' := by
  simp only [loadedNames, List.forall_mem_cons] at h
  obtain ⟨hstage, hhost, hport, hlevel, hformat, hpath, -⟩ := h
  rw [ofVariables_eq, ofVariables_eq, Variables.fault?_congr hport hpath, Variables.settings,
    Variables.settings, hstage, hhost, hport, hlevel, hformat, hpath]

/-- **Loading settings is exact.**  What counts of a name is its value in effect: the one of the
environment, else the first one that is assigned.  Loading fails with the port exactly when it is
set to something else than a numeral of at most 65535; without that fault it fails with the path
exactly when it is set to blanks only; and without either it succeeds.  The settings are then read
off the values of six names, each field off a name of its own, so two runs have a field in common as
soon as its name has the same value in both, and no seventh name matters. -/
theorem load_is_exact {l : Libraries} {assigned : Files → Variables → List (String × String)}
    (hl : l.LoadsAssignments assigned) (files : Files) (environment : Variables) :
    let v := environment.extend (assigned files environment)
    (∀ name value, InEffect environment (assigned files environment) name value ↔
      v.get? name = value) ∧
    (load l files environment = .error .invalidPort ↔
      ∃ text, v.get? "APP_PORT" = some text ∧ ¬∃ n, Text.IsNumeral text n ∧ n ≤ 65535) ∧
    (load l files environment = .error .emptyCatalogPath ↔
      load l files environment ≠ .error .invalidPort ∧
        ∃ text, v.get? "SCHEME_CATALOG_PATH" = some text ∧
          ∀ c ∈ text.toList, Text.isBlank c = true) ∧
    (load l files environment ≠ .error .invalidPort →
      load l files environment ≠ .error .emptyCatalogPath →
        ∃ s, load l files environment = .ok s ∧ s.ReadOff v) ∧
    ∀ files' environment',
      let v' := environment'.extend (assigned files' environment')
      (∀ s s', load l files environment = .ok s → load l files' environment' = .ok s' →
        AgreeFieldwise v v' s s') ∧
      ((∀ name ∈ loadedNames, v.get? name = v'.get? name) →
        load l files environment = load l files' environment') := by
  intro v
  have hload : ∀ files environment, load l files environment =
      ofVariables (environment.extend (assigned files environment)) := fun files environment ↦ by
    rw [load, hl.loadAssignments_eq]
  simp only [hload]
  refine ⟨fun name value ↦ inEffect_iff, ?_, ?_, ?_, fun files' environment' ↦
    ⟨?_, ofVariables_congr⟩⟩
  · rw [ofVariables_eq_error_iff, Variables.fault?_eq_invalidPort_iff_not_isNumeral]
  · rw [ofVariables_eq_error_iff, Ne, ofVariables_eq_error_iff,
      Variables.fault?_eq_emptyCatalogPath_iff_forall_isBlank]
  · intro hport hpath
    have hnone := Variables.fault?_eq_none_iff.2
      ⟨mt ofVariables_eq_error_iff.2 hport, mt ofVariables_eq_error_iff.2 hpath⟩
    exact ⟨v.settings, ofVariables_eq_ok_iff.2 ⟨hnone, rfl⟩, readOff_settings hnone⟩
  · intro s s' hs hs'
    obtain ⟨-, rfl⟩ := ofVariables_eq_ok_iff.1 hs
    obtain ⟨-, rfl⟩ := ofVariables_eq_ok_iff.1 hs'
    exact agreeFieldwise_settings _ _

/-- A file assigns the port twice, and the environment has the host and the path; another run finds
no file, and has the level of the log alone in common with the first. -/
theorem loaded_from_environment_and_file :
    let files := Folder.follow ⟨[(".env", "# ports\nAPP_PORT=+0080\nAPP_PORT=90")]⟩
    let environment := Variables.ofBindings
      [("APP_HOST", "::1"), ("SCHEME_CATALOG_PATH", " c.json ")]
    let assigned := [("APP_PORT", "+0080"), ("APP_PORT", "90")]
    let noFiles := Folder.follow ⟨[]⟩
    let environment' := Variables.ofBindings [("RUST_LOG", "off"), ("APP_PORT", "65535")]
    Libraries.plain.LoadsAssignments (fun files _ ↦ Plain.assigned files) ∧
      Plain.assigned files = assigned ∧
      InEffect environment assigned "APP_PORT" (some "+0080") ∧
      load .plain files environment ≠ .error .invalidPort ∧
      load .plain files environment ≠ .error .emptyCatalogPath ∧
      ∃ s, load .plain files environment = .ok s ∧
        s.host = "::1" ∧ s.port = 80 ∧ s.catalogPath = some "c.json" ∧
        (∃ s', load .plain noFiles environment' = .ok s' ∧ s.logLevel = s'.logLevel) ∧
        load .plain noFiles environment' =
          load .plain noFiles (.ofBindings [("APP_PORT", "65535")]) := by
  intro files environment assigned noFiles environment'
  have hplain := Libraries.plain_loadsAssignments
  have hassigned : Plain.assigned files = assigned := by decide +kernel
  obtain ⟨heffect, -, -, hread, hruns⟩ := load_is_exact hplain files environment
  simp only [hassigned] at heffect hread hruns
  have hload : ∀ environment, load .plain files environment =
      ofVariables (environment.extend assigned) := fun environment ↦ by
    rw [load, hplain.loadAssignments_eq, hassigned]
  have hfault : (environment.extend assigned).fault? = none := by decide +kernel
  have hport : load .plain files environment ≠ .error .invalidPort := by
    simp [hload, ofVariables_eq_error_iff, hfault]
  have hpath : load .plain files environment ≠ .error .emptyCatalogPath := by
    simp [hload, ofVariables_eq_error_iff, hfault]
  obtain ⟨s, hs, hfields⟩ := hread hport hpath
  have hs' : load .plain noFiles environment' =
      .ok (environment'.extend (Plain.assigned noFiles)).settings :=
    ofVariables_eq_ok_iff.2 ⟨by decide +kernel, rfl⟩
  refine ⟨hplain, hassigned, (heffect _ _).2 (by decide +kernel), hport, hpath, s, hs, ?_, ?_, ?_,
    ⟨_, hs', ((hruns noFiles environment').1 s _ hs hs').logLevel (by decide +kernel)⟩,
    ((load_is_exact hplain noFiles environment').2.2.2.2 _ _).2 (by decide +kernel)⟩
  · rw [hfields.host]
    decide +kernel
  · have hvalue : (environment.extend assigned).get? "APP_PORT" = some "+0080" := by decide +kernel
    have hnumeral : Text.IsNumeral "+0080" s.port := by
      have hread := hfields.port
      rwa [hvalue] at hread
    exact hnumeral.unique
      ⟨['+'], ['0', '0', '8', '0'], by decide +kernel, .inr rfl, by decide, by simp, rfl⟩
  · have hvalue : (environment.extend assigned).get? "SCHEME_CATALOG_PATH" = some " c.json " := by
      decide +kernel
    have hread := hfields.catalogPath
    rw [hvalue] at hread
    obtain ⟨path, heq, htrims, -⟩ := hread
    have htrim : Text.trim " c.json " = "c.json" := by decide +kernel
    rw [heq, ← htrims.eq_trim, htrim]

end Settings

end Welfare
