import Welfare.Settings

/-!
# Settings of variables

Variables give settings unless one of two variables is at fault: a port that is none, or a path that
is blank.  Otherwise the settings are read off the variables one by one.

* `Variables.fault?` — what is wrong with variables.
* `Variables.settings` — what they say.
* `Settings.ofVariables_eq` — reading them gives the one or the other;
  `Settings.ofVariables_eq_error_iff`, `Settings.ofVariables_eq_ok_iff` — which of them.
-/

set_option autoImplicit false

namespace Welfare

namespace Variables

/-- What is wrong with variables.  A wrong port is found before a blank path. -/
def fault? (v : Variables) : Option SettingsError :=
  if Settings.port? ((v.get? "APP_PORT").getD "3000") = none then some .invalidPort
  else if (v.get? "SCHEME_CATALOG_PATH").any Text.isAllBlank then some .emptyCatalogPath
  else none

/-- What variables say. -/
def settings (v : Variables) : Settings where
  stage := .ofWord ((v.get? "APP_ENV").getD "development")
  host := (v.get? "APP_HOST").getD "127.0.0.1"
  port := (Settings.port? ((v.get? "APP_PORT").getD "3000")).getD 0
  logLevel := (v.get? "APP_LOG_LEVEL").getD "info"
  logFormat := .ofWord ((v.get? "APP_LOG_FORMAT").getD "compact")
  catalogPath := (v.get? "SCHEME_CATALOG_PATH").map Text.trim

variable {v v' : Variables}

theorem fault?_eq_invalidPort_iff : v.fault? = some .invalidPort ↔
    Settings.port? ((v.get? "APP_PORT").getD "3000") = none := by
  rw [fault?]
  split
  · next hport => exact iff_of_true rfl hport
  · next hport =>
    refine iff_of_false ?_ hport
    split <;> nofun

theorem fault?_eq_emptyCatalogPath_iff : v.fault? = some .emptyCatalogPath ↔
    v.fault? ≠ some .invalidPort ∧ (v.get? "SCHEME_CATALOG_PATH").any Text.isAllBlank = true := by
  rw [Ne, fault?_eq_invalidPort_iff, fault?]
  split
  · next hport => exact iff_of_false nofun fun h ↦ h.1 hport
  · next hport =>
    rw [and_iff_right hport]
    split
    · next hblank => exact iff_of_true rfl hblank
    · next hblank => exact iff_of_false nofun hblank

/-- A wrong host is not found before the address is made. -/
theorem fault?_ne_invalidHost (v : Variables) : v.fault? ≠ some .invalidHost := by
  rw [fault?]
  split
  · nofun
  · split <;> nofun

theorem fault?_congr (hport : v.get? "APP_PORT" = v'.get? "APP_PORT")
    (hpath : v.get? "SCHEME_CATALOG_PATH" = v'.get? "SCHEME_CATALOG_PATH") :
    v.fault? = v'.fault? := by
  rw [fault?, fault?, hport, hpath]

end Variables

/-- Reading variables fails with what is wrong, or gives what they say. -/
theorem Settings.ofVariables_eq (v : Variables) :
    ofVariables v =
      match v.fault? with
      | some e => .error e
      | none => .ok v.settings := by
  rw [ofVariables, Variables.fault?, Variables.settings]
  cases hport : port? ((v.get? "APP_PORT").getD "3000") with
  | none => rfl
  | some port =>
    cases hpath : v.get? "SCHEME_CATALOG_PATH" with
    | none => rfl
    | some raw =>
      cases hblank : Text.isAllBlank raw with
      | false =>
        rw [catalogPath?, Option.any_some, hblank]
        rfl
      | true =>
        rw [catalogPath?, Option.any_some, hblank]
        rfl

theorem Settings.ofVariables_eq_error_iff {v : Variables} {e : SettingsError} :
    ofVariables v = .error e ↔ v.fault? = some e := by
  rw [ofVariables_eq]
  cases v.fault? with
  | none => exact iff_of_false nofun nofun
  | some e' => exact ⟨fun h ↦ congrArg some (Except.error.inj h), fun h ↦ Option.some_inj.1 h ▸ rfl⟩

theorem Settings.ofVariables_eq_ok_iff {v : Variables} {s : Settings} :
    ofVariables v = .ok s ↔ v.fault? = none ∧ v.settings = s := by
  rw [ofVariables_eq]
  cases v.fault? with
  | none => exact ⟨fun h ↦ ⟨rfl, Except.ok.inj h⟩, fun h ↦ congrArg Except.ok h.2⟩
  | some e => exact iff_of_false nofun nofun

end Welfare
