import Welfare.Command.Run
import Welfare.Proofs.Keyed
import Welfare.Proofs.Libraries
import Welfare.Proofs.Settings.Loading

/-!
# What the command line overrules

The service is set up by variables, and the command line goes before them.  It does so only after
the variables have been loaded, though, and loading looks at all of them: a port or a path that is
at fault there ends the run, also when the command line names another one.  The host is looked at
last, when the command line has spoken, so a host that is overruled never matters.

This is so with any libraries that load assignments and find log filters as they document it.

* `World.SameBut` — two runs that see the same, some variables aside.
* `World.prepare` — the service under given settings; `World.serve_eq` — serving is loading, then
  overruling, then preparing.
* `World.runArguments_congr` — without a fault, what is overruled does not matter.
* `World.errorOutput_eq_iff` — a fault can be told from what is printed.
* `World.overruled_port_still_counts` — variables that matter although they are overruled.
* `World.overruled_variables_matter_by_their_faults` — how overruled variables matter.
-/

set_option autoImplicit false

namespace Welfare

/-! ## Variables -/

namespace Variables

/-- Variables with one more, or with one that is replaced. -/
def set (v : Variables) (name text : String) : Variables where
  get? key := if key = name then some text else v.get? key

theorem get?_set (v : Variables) (name text key : String) :
    (v.set name text).get? key = if key = name then some text else v.get? key := rfl

theorem ofBindings_cons (name text : String) (bindings : List (String × String)) :
    ofBindings ((name, text) :: bindings) = (ofBindings bindings).set name text :=
  get?_inj fun key ↦ lookup_cons_eq_ite (name, text) bindings key

end Variables

/-- The variables that options of `serve` overrule. -/
def ServeOptions.overruled (o : ServeOptions) : List String :=
  (if o.host.isSome then ["APP_HOST"] else []) ++ (if o.port.isSome then ["APP_PORT"] else []) ++
    (if o.catalog.isSome then ["SCHEME_CATALOG_PATH"] else [])

theorem ServeOptions.mem_overruled {o : ServeOptions} {name : String} : name ∈ o.overruled ↔
    (o.host.isSome = true ∧ name = "APP_HOST") ∨ (o.port.isSome = true ∧ name = "APP_PORT") ∨
      (o.catalog.isSome = true ∧ name = "SCHEME_CATALOG_PATH") := by
  simp [overruled]

namespace World

variable {w w' : World} {names : List String} {o : ServeOptions} {args : List String}
  {assigned : Files → Variables → List (String × String)}

/-- Two runs use the same libraries, and see the same files and the same variables in effect apart
from some. -/
structure SameBut (names : List String) (w w' : World) : Prop where
  libraries : w.libraries = w'.libraries
  entry : ∀ path, w.entry path = w'.entry path
  get? : ∀ name, name ∉ names → w.inEffect.get? name = w'.inEffect.get? name

/-- A run with a variable of the environment set to a text. -/
def withVariable (w : World) (name text : String) : World :=
  { w with environment := w.environment.set name text }

/-- What is set in the environment is in effect. -/
theorem get?_withVariable (hload : w.libraries.LoadsAssignments assigned) (name text : String) :
    (w.withVariable name text).inEffect.get? name = some text :=
  hload.keeps _ _ _ _ (by rw [withVariable, Variables.get?_set, if_pos rfl])

/-- Where nothing that is assigned is put together from a variable, setting it changes nothing
else. -/
theorem sameBut_withVariable (hload : w.libraries.LoadsAssignments assigned) {name : String}
    (h : name ∈ names) (text : String)
    (hread : assigned w.entry (w.environment.set name text) = assigned w.entry w.environment) :
    SameBut names w (w.withVariable name text) where
  libraries := rfl
  entry _ := rfl
  get? key hkey := by
    have hne : key ≠ name := fun heq ↦ hkey (heq ▸ h)
    rw [inEffect, inEffect, withVariable, hload.loadAssignments_eq, hload.loadAssignments_eq,
      Variables.get?_extend, Variables.get?_extend, hread, Variables.get?_set, if_neg hne]

/-! ## Preparing the service -/

/-- Prepares the service under settings. -/
def prepare (w : World) (settings : Settings) : Except Failure Effect := do
  let _ ← (LogFilter.choose w.libraries w.inEffect settings.logLevel).mapError .logging
  let catalog ← (w.loadCatalog settings.catalogPath).mapError .catalog
  let address ← settings.socketAddress.mapError .settings
  return .listen address (.catalog catalog)

/-- A fault ends the run; otherwise the service is prepared under what the variables say, as far as
it is not overruled. -/
theorem serve_eq (w : World) (o : ServeOptions) :
    w.serve o =
      match w.inEffect.fault? with
      | some e => .error (.settings e)
      | none => w.prepare (overrule o w.inEffect.settings) := by
  rw [serve, Settings.load, ← inEffect, Settings.ofVariables_eq]
  cases w.inEffect.fault? <;> rfl

theorem loadCatalog_congr (h : ∀ path, w.entry path = w'.entry path) (path : Option String) :
    w.loadCatalog path = w'.loadCatalog path := by
  cases path with
  | none => rfl
  | some path => rw [loadCatalog, loadCatalog, h]

theorem prepare_congr (h : SameBut names w w') (hfilter : w.libraries.FindsFilter)
    (hlog : "RUST_LOG" ∉ names) (settings : Settings) :
    w.prepare settings = w'.prepare settings := by
  rw [prepare, prepare, loadCatalog_congr h.entry, LogFilter.choose, LogFilter.choose,
    ← h.libraries, hfilter.reads_one _ _ (h.get? _ hlog)]

/-- Settings that are overruled are independent of the variables that are. -/
theorem overrule_settings_congr {v v' : Variables}
    (h : ∀ name, name ∉ o.overruled → v.get? name = v'.get? name) :
    overrule o v.settings = overrule o v'.settings := by
  have hstage := h "APP_ENV" (by simp [ServeOptions.mem_overruled])
  have hlevel := h "APP_LOG_LEVEL" (by simp [ServeOptions.mem_overruled])
  have hformat := h "APP_LOG_FORMAT" (by simp [ServeOptions.mem_overruled])
  obtain ⟨host, port, catalog⟩ := o
  simp only [overrule, Variables.settings, hstage, hlevel, hformat]
  congr 1
  · cases host with
    | none => rw [h _ (by simp [ServeOptions.mem_overruled])]
    | some host => rfl
  · cases port with
    | none => rw [h _ (by simp [ServeOptions.mem_overruled])]
    | some port => rfl
  · cases catalog with
    | none => rw [h _ (by simp [ServeOptions.mem_overruled])]
    | some path => rfl

/-! ## Failures -/

/-- What the log, the catalog or the address is wrong with is no fault of the variables. -/
theorem prepare_ne_fault {settings : Settings} {e : SettingsError} (he : e ≠ .invalidHost) :
    w.prepare settings ≠ .error (.settings e) := by
  rw [prepare]
  cases LogFilter.choose w.libraries w.inEffect settings.logLevel with
  | error value => nofun
  | ok filter =>
    cases w.loadCatalog settings.catalogPath with
    | error e => nofun
    | ok catalog =>
      show (settings.socketAddress.mapError Failure.settings >>= _) ≠ _
      rw [Settings.socketAddress, Settings.socketAddressOf]
      split
      · nofun
      · intro h
        cases h
        exact he rfl

end World

theorem SettingsError.message_inj {e e' : SettingsError} : e.message = e'.message ↔ e = e' := by
  cases e <;> cases e' <;> simp [message]

/-- A fault of the settings can be told from its wording: other failures open with another word. -/
theorem Failure.eq_settings_of_message {f : Failure} {e : SettingsError}
    (h : f.message = (Failure.settings e).message) : f = .settings e := by
  cases f with
  | settings e' => rw [SettingsError.message_inj.1 ((String.append_right_inj _).1 h)]
  | logging e' =>
    have hwords : "telemetry error: " ++ e'.message = "configuration error: " ++ e.message := h
    simpa using congrArg String.toList hwords
  | io reason =>
    have hwords : "io error: " ++ reason = "configuration error: " ++ e.message := h
    simpa using congrArg String.toList hwords
  | catalog e' =>
    have hwords : "catalog error: " ++ e'.message = "configuration error: " ++ e.message := h
    simpa using congrArg String.toList hwords
  | input e' =>
    have hwords : "invalid json input: " ++ e'.message = "configuration error: " ++ e.message := h
    simpa using congrArg String.toList hwords

/-- Two runs end with the same exit code, and print the same about what is wrong. -/
structure Ending.SameOutcome (e e' : Ending) : Prop where
  exitCode : e.exitCode = e'.exitCode
  errorOutput : e.errorOutput = e'.errorOutput

namespace World

variable {w w' : World} {names : List String} {o : ServeOptions} {args : List String}
  {assigned : Files → Variables → List (String × String)}

/-! ## Runs -/

/-- A run ends as serving does. -/
theorem runArguments_serve (hargs : Command.parse? args = some (.serve o)) :
    w.runArguments args =
      match w.serve o with
      | .ok effect => .done effect
      | .error f => .failed f := by
  rw [runArguments, hargs]
  rfl

/-- With the same fault or none, what is overruled does not matter. -/
theorem runArguments_congr (hargs : Command.parse? args = some (.serve o))
    (hfilter : w.libraries.FindsFilter) (h : SameBut o.overruled w w')
    (hfault : w.inEffect.fault? = w'.inEffect.fault?) :
    w.runArguments args = w'.runArguments args := by
  have hlog : "RUST_LOG" ∉ o.overruled := by simp [ServeOptions.mem_overruled]
  rw [runArguments_serve hargs, runArguments_serve hargs, serve_eq, serve_eq, hfault,
    overrule_settings_congr h.get?, prepare_congr h hfilter hlog]

/-- A fault can be told from what is printed. -/
theorem errorOutput_eq_iff (hargs : Command.parse? args = some (.serve o)) {e : SettingsError}
    (he : e ≠ .invalidHost) :
    (w.runArguments args).errorOutput = (Ending.failed (.settings e)).errorOutput ↔
      w.inEffect.fault? = some e := by
  have hprinted : ∀ f : Failure, (Ending.failed f).errorOutput =
      (Ending.failed (.settings e)).errorOutput → f = .settings e := fun f h ↦
    Failure.eq_settings_of_message
      ((String.append_right_inj _).1 ((String.append_left_inj _).1 h))
  rw [runArguments_serve hargs, serve_eq]
  cases w.inEffect.fault? with
  | some e' =>
    constructor
    · intro h
      cases hprinted _ h
      rfl
    · intro h
      cases h
      rfl
  | none =>
    refine iff_of_false (fun h ↦ ?_) nofun
    cases hprepare : w.prepare (overrule o w.inEffect.settings) with
    | ok effect =>
      rw [hprepare] at h
      have hprinted : "" = "application error: " ++ (Failure.settings e).message ++ "\n" := h
      simp at hprinted
    | error f =>
      rw [hprepare] at h
      rw [hprinted f h] at hprepare
      exact prepare_ne_fault he hprepare

/-- Runs that end alike have the same fault. -/
theorem fault?_eq_of_sameOutcome (hargs : Command.parse? args = some (.serve o))
    (h : (w.runArguments args).SameOutcome (w'.runArguments args)) :
    w.inEffect.fault? = w'.inEffect.fault? := by
  refine Option.ext fun e ↦ ?_
  by_cases he : e = .invalidHost
  · subst he
    exact iff_of_false w.inEffect.fault?_ne_invalidHost w'.inEffect.fault?_ne_invalidHost
  · rw [← errorOutput_eq_iff hargs he, ← errorOutput_eq_iff hargs he, h.errorOutput]

/-- **Variables still count although they are overruled.**  The command line names another port, or
another path, and the host is wrong.  A port that is none, or a path that is blank, is reported
where the host is reported without it. -/
theorem overruled_port_still_counts :
    let world (environment : List (String × String)) : World :=
      ofFolder ⟨[("c.json", "[]")]⟩ environment "today"
    let withPort := ["serve", "--port", "8080", "--host", "nowhere"]
    let withCatalog := ["serve", "--catalog", "c.json", "--host", "nowhere"]
    let wrongHost :=
      "application error: configuration error: APP_HOST must parse to an IPv4 or IPv6 address\n"
    SameBut ["APP_PORT"] (world []) (world [("APP_PORT", "eighty")]) ∧
      Command.parse? withPort = some (.serve { host := some "nowhere", port := some 8080 }) ∧
      ((world []).runArguments withPort).errorOutput = wrongHost ∧
      ((world [("APP_PORT", "eighty")]).runArguments withPort).errorOutput =
        "application error: configuration error: APP_PORT must be a valid u16\n" ∧
    SameBut ["SCHEME_CATALOG_PATH"] (world []) (world [("SCHEME_CATALOG_PATH", " ")]) ∧
      Command.parse? withCatalog =
        some (.serve { host := some "nowhere", catalog := some "c.json" }) ∧
      ((world []).runArguments withCatalog).errorOutput = wrongHost ∧
      ((world [("SCHEME_CATALOG_PATH", " ")]).runArguments withCatalog).errorOutput =
        "application error: configuration error: SCHEME_CATALOG_PATH is set but empty\n" := by
  intro world withPort withCatalog wrongHost
  have hset : ∀ name text, world [(name, text)] = (world []).withVariable name text := fun _ _ ↦
    congrArg (World.mk .plain _ · "today") (Variables.ofBindings_cons _ _ [])
  have hsame : ∀ name text, SameBut [name] (world []) (world [(name, text)]) := fun name text ↦ by
    rw [hset]
    exact sameBut_withVariable Libraries.plain_loadsAssignments List.mem_cons_self text rfl
  refine ⟨hsame _ _, by decide, by decide +kernel, by decide +kernel, hsame _ _, by decide,
    by decide +kernel, by decide +kernel⟩

/-! ## How overruled variables matter -/

theorem fault?_withVariable_port (hload : w.libraries.LoadsAssignments assigned) (text : String) :
    (w.withVariable "APP_PORT" text).inEffect.fault? = some .invalidPort ↔
      Settings.port? text = none := by
  rw [Variables.fault?_eq_invalidPort_iff, get?_withVariable hload, Option.getD_some]

theorem fault?_withVariable_path (hload : w.libraries.LoadsAssignments assigned) {text : String}
    (hport : (w.withVariable "SCHEME_CATALOG_PATH" text).inEffect.fault? ≠ some .invalidPort) :
    (w.withVariable "SCHEME_CATALOG_PATH" text).inEffect.fault? = some .emptyCatalogPath ↔
      Text.isAllBlank text = true := by
  rw [Variables.fault?_eq_emptyCatalogPath_iff, and_iff_right hport, get?_withVariable hload,
    Option.any_some]

/-- Where only the host is overruled, or the port is at fault, no fault is added or taken away. -/
theorem fault?_eq_of_sameBut (h : SameBut o.overruled w w') (hport : o.port = none)
    (hcatalog : o.catalog = none ∨ w.inEffect.fault? = some .invalidPort) :
    w.inEffect.fault? = w'.inEffect.fault? := by
  have hsamePort := h.get? "APP_PORT" (by simp [ServeOptions.mem_overruled, hport])
  rcases hcatalog with hcatalog | hfault
  · have hsamePath := h.get? "SCHEME_CATALOG_PATH" (by simp [ServeOptions.mem_overruled, hcatalog])
    exact Variables.fault?_congr hsamePort hsamePath
  · have hwrong := Variables.fault?_eq_invalidPort_iff.1 hfault
    rw [hsamePort] at hwrong
    rw [hfault, Variables.fault?_eq_invalidPort_iff.2 hwrong]

/-- **Overruled variables matter by their faults, and only by these.**  Two runs of `serve` see the
same but for the variables that the command line overrules.  When the same is wrong with the
variables of both, or nothing is, they end in the same way; when they end alike, the same is wrong.
So a host that is overruled never matters, and the command line has the last word when it names no
port, and no path either unless the port of the variables is at fault anyway.  It has not when it
names them: a port of the environment that is none is always reported, and so is a blank path where
the port is sound, whatever the command line says. -/
theorem overruled_variables_matter_by_their_faults (w : World)
    (hload : w.libraries.LoadsAssignments assigned) (hfilter : w.libraries.FindsFilter)
    (hargs : Command.parse? args = some (.serve o)) :
    (∀ w', SameBut o.overruled w w' →
      (w.inEffect.fault? = w'.inEffect.fault? → w.runArguments args = w'.runArguments args) ∧
      ((w.runArguments args).SameOutcome (w'.runArguments args) →
        w.inEffect.fault? = w'.inEffect.fault?)) ∧
    (o.host.isSome = true → ∀ w', SameBut ["APP_HOST"] w w' →
      w.runArguments args = w'.runArguments args) ∧
    (o.port = none → (o.catalog = none ∨ w.inEffect.fault? = some .invalidPort) →
      ∀ w', SameBut o.overruled w w' → w.runArguments args = w'.runArguments args) ∧
    (∀ text, ((w.withVariable "APP_PORT" text).runArguments args).errorOutput =
        (Ending.failed (.settings .invalidPort)).errorOutput ↔
      Settings.port? text = none) ∧
    ∀ text, (w.withVariable "SCHEME_CATALOG_PATH" text).inEffect.fault? ≠ some .invalidPort →
      (((w.withVariable "SCHEME_CATALOG_PATH" text).runArguments args).errorOutput =
          (Ending.failed (.settings .emptyCatalogPath)).errorOutput ↔
        Text.isAllBlank text = true) := by
  refine ⟨fun w' h ↦ ⟨runArguments_congr hargs hfilter h, fault?_eq_of_sameOutcome hargs⟩,
    fun hhost w' h ↦ ?_, fun hport hcatalog w' h ↦ ?_, fun text ↦ ?_, fun text hport ↦ ?_⟩
  · have hsame : SameBut o.overruled w w' := by
      refine ⟨h.libraries, h.entry, fun name hname ↦ h.get? name fun hmem ↦ hname ?_⟩
      exact ServeOptions.mem_overruled.2 (.inl ⟨hhost, List.mem_singleton.1 hmem⟩)
    exact runArguments_congr hargs hfilter hsame <|
      Variables.fault?_congr (h.get? _ (by decide)) (h.get? _ (by decide))
  · exact runArguments_congr hargs hfilter h (fault?_eq_of_sameBut h hport hcatalog)
  · rw [errorOutput_eq_iff hargs (e := .invalidPort) nofun, fault?_withVariable_port hload]
  · rw [errorOutput_eq_iff hargs (e := .emptyCatalogPath) nofun,
      fault?_withVariable_path hload hport]

/-- The command line names a port and a host.  Another port or another host in the variables does
not matter, but a port that is none does. -/
theorem overruled_port_of_a_run :
    let w := ofFolder ⟨[(".env", "APP_PORT=80")]⟩ [] "today"
    let args := ["serve", "--host", "::1", "--port", "8080"]
    w.libraries.LoadsAssignments (fun files _ ↦ Plain.assigned files) ∧ w.libraries.FindsFilter ∧
      Command.parse? args = some (.serve { host := some "::1", port := some 8080 }) ∧
      w.runArguments args = (w.withVariable "APP_PORT" "+0081").runArguments args ∧
      w.runArguments args = (w.withVariable "APP_HOST" "nowhere").runArguments args ∧
      ((w.withVariable "APP_PORT" "eighty").runArguments args).errorOutput =
        "application error: configuration error: APP_PORT must be a valid u16\n" := by
  intro w args
  have hload := Libraries.plain_loadsAssignments
  have hargs : Command.parse? args = some (.serve { host := some "::1", port := some 8080 }) := by
    decide
  obtain ⟨hpairs, hhost, -, hport, -⟩ :=
    w.overruled_variables_matter_by_their_faults hload Libraries.plain_findsFilter hargs
  have hsame : SameBut ["APP_HOST", "APP_PORT"] w (w.withVariable "APP_PORT" "+0081") :=
    sameBut_withVariable hload (by decide) _ rfl
  have hfaults : w.inEffect.fault? = (w.withVariable "APP_PORT" "+0081").inEffect.fault? := by
    decide +kernel
  exact ⟨hload, Libraries.plain_findsFilter, hargs, (hpairs _ hsame).1 hfaults,
    hhost rfl _ (sameBut_withVariable hload (by decide) _ rfl), (hport "eighty").2 (by decide)⟩

end World

end Welfare
