import Welfare.Command.Run

/-!
# An evaluation prints one report or nothing

An evaluation reads a profile, schemes and, if they are asked for, rule sets, each from a file of
its own and in this order.  Nothing is printed before everything is read.  So there is one report
when every file can be read, and otherwise the first file that cannot be read is the reason why
there is none, whatever stands in the files behind it.

* `World.Holds`, `World.Fault` — what is read from a file, and why nothing is.
* `Input` — the files of an evaluation; `EvaluateOptions.inputs` — their order.
* `World.all_sound_or_first_fails` — all files can be read, or there is a first one that cannot.
* `World.evaluate_of_supplies`, `World.evaluate_of_first_fault` — the two ends of an evaluation.
* `World.evaluation_is_all_or_nothing` — what a run prints, and why it fails.
-/

set_option autoImplicit false

namespace Welfare

open Json (Decoded DecodeError Document)

/-! ## Files -/

namespace Folder

/-- A name that a file of a folder may have. -/
structure IsName (name : String) : Prop where
  toList_ne_nil : name.toList ≠ []
  toList_ne_dot : name.toList ≠ ['.']
  toList_ne_dots : name.toList ≠ ['.', '.']
  slash_notMem : '/' ∉ name.toList
  utf8ByteSize_le : name.utf8ByteSize ≤ longestName

/-- A name leads to the file that has it. -/
theorem follow_of_isName (f : Folder) {name : String} (h : IsName name) :
    f.follow name =
      match f.files.lookup name with
      | some text => .ok (.file text)
      | none => .error .missing := by
  have hhead : name.toList.head? ≠ some '/' := fun hslash ↦
    h.slash_notMem (List.mem_of_head? hslash)
  have hpath : ¬ longestPath < name.utf8ByteSize :=
    Nat.not_lt.2 (Nat.le_trans h.utf8ByteSize_le (by decide))
  simp only [follow, h.toList_ne_nil, if_neg hhead, if_neg hpath,
    Text.split_eq_singleton h.slash_notMem, List.foldlM_cons, List.foldlM_nil, step,
    h.toList_ne_dot, h.toList_ne_dots, or_self, if_false, String.ofList_toList,
    if_neg (Nat.not_lt.2 h.utf8ByteSize_le)]
  cases f.files.lookup name <;> rfl

end Folder

namespace World

variable {α : Type} {w w' : World} {decode : Document → Decoded α} {path : String} {a : α}
  {f : Failure}

/-- Nothing is found under a path. -/
def IsMissing (w : World) (path : String) : Prop := ∃ e, w.entry path = .error e

/-- There is a file under a path, and its text is decoded. -/
def Holds (w : World) (decode : Document → Decoded α) (path : String) (a : α) : Prop :=
  ∃ text, w.entry path = .ok (.file text) ∧ Json.decodeText decode text = .ok a

/-- Why nothing is read under a path. -/
inductive Fault (w : World) (decode : Document → Decoded α) (path : String) : Failure → Prop
  | missing {e : FileError} : w.entry path = .error e → Fault w decode path (.io e.message)
  | folder : w.entry path = .ok .folder →
      Fault w decode path (.input (.unreadable FileError.isAFolder.message))
  | undecodable {text : String} {e : DecodeError} : w.entry path = .ok (.file text) →
      Json.decodeText decode text = .error e → Fault w decode path (.input e)

theorem readFile_of_holds (h : w.Holds decode path a) : w.readFile decode path = .ok a := by
  obtain ⟨text, hentry, hdecode⟩ := h
  rw [readFile, hentry]
  show (Json.decodeText decode text).mapError _ = _
  rw [hdecode]
  rfl

/-- What is decoded from the only document of a file is read from the file. -/
theorem holds_of_document {text : String} {d : Document} (hentry : w.entry path = .ok (.file text))
    (hdocument : Document.ofText text = (d, some [])) (ha : decode d = .ok a) :
    w.Holds decode path a := by
  refine ⟨text, hentry, ?_⟩
  rw [Json.decodeText, hdocument]
  show (decode d >>= _) = _
  rw [ha]
  rfl

theorem readFile_of_fault (h : w.Fault decode path f) : w.readFile decode path = .error f := by
  rw [readFile]
  cases h with
  | missing hentry => rw [hentry]; rfl
  | folder hentry => rw [hentry]; rfl
  | @undecodable text e hentry hdecode =>
    rw [hentry]
    show (Json.decodeText decode text).mapError _ = _
    rw [hdecode]
    rfl

/-- A path is good for reading, or there is a reason why it is not. -/
theorem holds_or_fault (w : World) (decode : Document → Decoded α) (path : String) :
    (∃ a, w.Holds decode path a) ∨ ∃ f, w.Fault decode path f := by
  cases hentry : w.entry path with
  | error e => exact .inr ⟨_, .missing hentry⟩
  | ok entry =>
    cases entry with
    | folder => exact .inr ⟨_, .folder hentry⟩
    | file text =>
      cases hdecode : Json.decodeText decode text with
      | error e => exact .inr ⟨_, .undecodable hentry hdecode⟩
      | ok a => exact .inl ⟨a, text, hentry, hdecode⟩

theorem holds_congr (h : w.entry path = w'.entry path) :
    w.Holds decode path a ↔ w'.Holds decode path a := by
  rw [Holds, Holds, h]

theorem fault_congr (h : w.entry path = w'.entry path) (hf : w.Fault decode path f) :
    w'.Fault decode path f := by
  cases hf with
  | missing hentry => exact .missing (h ▸ hentry)
  | folder hentry => exact .folder (h ▸ hentry)
  | undecodable hentry hdecode => exact .undecodable (h ▸ hentry) hdecode

/-- What is missing is a failure to open a file, and everything else is bad input. -/
theorem Fault.cases_isMissing (h : w.Fault decode path f) :
    (w.IsMissing path ∧ ∃ reason, f = .io reason) ∨ (¬ w.IsMissing path ∧ ∃ e, f = .input e) := by
  have hfound {entry} (hentry : w.entry path = .ok entry) : ¬ w.IsMissing path := fun ⟨e, he⟩ ↦ by
    rw [hentry] at he
    cases he
  cases h with
  | missing hentry => exact .inl ⟨⟨_, hentry⟩, _, rfl⟩
  | folder hentry => exact .inr ⟨hfound hentry, _, rfl⟩
  | undecodable hentry _ => exact .inr ⟨hfound hentry, _, rfl⟩

end World

/-! ## The files of an evaluation -/

/-- A file of an evaluation: what it is read for, and its path. -/
inductive Input where
  | profile (path : String)
  | schemes (path : String)
  | ruleSets (path : String)

/-- The files of an evaluation, in the order in which they are read. -/
def EvaluateOptions.inputs (o : EvaluateOptions) : List Input :=
  .profile o.profile :: .schemes o.schemes :: (o.ruleSets.map Input.ruleSets).toList

/-- A report as it is printed. -/
def EvaluateOptions.print (o : EvaluateOptions) (report : Json) : String :=
  (if o.pretty then report.pretty else report.compact) ++ "\n"

theorem attachRules_nil (schemes : List Scheme) : attachRules schemes [] = schemes :=
  List.map_id schemes

namespace Input

variable {w w' : World} {i : Input} {f : Failure}

/-- The path of a file. -/
def path : Input → String
  | .profile path | .schemes path | .ruleSets path => path

/-- The file is there and holds what it is read for. -/
def IsSound (w : World) : Input → Prop
  | .profile path => ∃ v, w.Holds Document.asJson path v
  | .schemes path => ∃ schemes, w.Holds (Scheme.decodeList .text) path schemes
  | .ruleSets path => ∃ records, w.Holds StandaloneRules.decodeList path records

/-- Why a file is not good for what it is read for. -/
def FailsWith (w : World) (f : Failure) : Input → Prop
  | .profile path => w.Fault Document.asJson path f
  | .schemes path => w.Fault (Scheme.decodeList .text) path f
  | .ruleSets path => w.Fault StandaloneRules.decodeList path f

theorem isSound_or_failsWith (w : World) (i : Input) :
    i.IsSound w ∨ ∃ f, i.FailsWith w f := by
  cases i <;> exact World.holds_or_fault w _ _

theorem FailsWith.not_isSound (hi : i.FailsWith w f) : ¬ i.IsSound w := by
  cases i <;>
  · rintro ⟨a, ha⟩
    have hread := World.readFile_of_holds ha
    rw [World.readFile_of_fault hi] at hread
    cases hread

theorem IsSound.congr (hi : i.IsSound w) (h : w.entry i.path = w'.entry i.path) : i.IsSound w' := by
  cases i <;>
  · obtain ⟨a, ha⟩ := hi
    exact ⟨a, (World.holds_congr h).1 ha⟩

theorem FailsWith.congr (hi : i.FailsWith w f) (h : w.entry i.path = w'.entry i.path) :
    i.FailsWith w' f := by
  cases i <;> exact World.fault_congr h hi

theorem FailsWith.cases_isMissing (hi : i.FailsWith w f) :
    (w.IsMissing i.path ∧ ∃ reason, f = .io reason) ∨
      (¬ w.IsMissing i.path ∧ ∃ e, f = .input e) := by
  cases i <;> exact World.Fault.cases_isMissing hi

end Input

theorem EvaluateOptions.forall_inputs_isSound_iff {w : World} {o : EvaluateOptions} :
    (∀ i ∈ o.inputs, i.IsSound w) ↔
      (∃ record, w.Holds Document.asJson o.profile record) ∧
      (∃ schemes, w.Holds (Scheme.decodeList .text) o.schemes schemes) ∧
      ∀ path, o.ruleSets = some path →
        ∃ records, w.Holds StandaloneRules.decodeList path records := by
  rw [inputs, List.forall_mem_cons, List.forall_mem_cons]
  refine and_congr Iff.rfl (and_congr Iff.rfl ?_)
  cases o.ruleSets with
  | none => exact iff_of_true nofun nofun
  | some path => simp [Input.IsSound]

namespace World

variable {w w' : World} {o : EvaluateOptions} {f : Failure}

/-- Either all files can be read, or there is a first one that cannot. -/
theorem all_sound_or_first_fails (w : World) (inputs : List Input) :
    (∀ i ∈ inputs, i.IsSound w) ∨ ∃ before i after f, inputs = before ++ i :: after ∧
      (∀ j ∈ before, j.IsSound w) ∧ i.FailsWith w f := by
  induction inputs with
  | nil => exact .inl nofun
  | cons i inputs ih =>
    rcases i.isSound_or_failsWith w with hi | ⟨f, hf⟩
    · rcases ih with hall | ⟨before, j, after, f, rfl, hbefore, hf⟩
      · exact .inl (List.forall_mem_cons.2 ⟨hi, hall⟩)
      · exact .inr ⟨i :: before, j, after, f, rfl, List.forall_mem_cons.2 ⟨hi, hbefore⟩, hf⟩
    · exact .inr ⟨[], i, inputs, f, rfl, nofun, hf⟩

/-! ## The two ends of an evaluation -/

/-- What the files of an evaluation hold.  Without a file of rule sets there are none. -/
structure Supplies (w : World) (o : EvaluateOptions) (record : Json) (schemes : List Scheme)
    (records : List StandaloneRules) : Prop where
  profile : w.Holds Document.asJson o.profile record
  schemes : w.Holds (Scheme.decodeList .text) o.schemes schemes
  ruleSets : match o.ruleSets with
    | none => records = []
    | some path => w.Holds StandaloneRules.decodeList path records

theorem exists_supplies (h : ∀ i ∈ o.inputs, i.IsSound w) :
    ∃ record schemes records, w.Supplies o record schemes records := by
  obtain ⟨⟨record, hrecord⟩, hrest⟩ := List.forall_mem_cons.1 h
  obtain ⟨⟨schemes, hschemes⟩, hrest⟩ := List.forall_mem_cons.1 hrest
  cases hpath : o.ruleSets with
  | none => exact ⟨record, schemes, [], hrecord, hschemes, by rw [hpath]⟩
  | some path =>
    rw [hpath] at hrest
    obtain ⟨records, hrecords⟩ := hrest (.ruleSets path) List.mem_cons_self
    exact ⟨record, schemes, records, hrecord, hschemes, by rw [hpath]; exact hrecords⟩

variable {record : Json} {schemes : List Scheme} {records : List StandaloneRules}

theorem schemes_of_supplies (h : w.Supplies o record schemes records) :
    w.schemes o = .ok (attachRules schemes records) := by
  have hrecords := h.ruleSets
  rw [World.schemes, readFile_of_holds h.schemes]
  cases hpath : o.ruleSets with
  | none =>
    rw [hpath] at hrecords
    rw [hrecords, attachRules_nil]
    rfl
  | some path =>
    rw [hpath] at hrecords
    show w.readFile StandaloneRules.decodeList path >>= _ = _
    rw [readFile_of_holds hrecords]
    rfl

/-- When all files can be read, there is a report. -/
theorem evaluate_of_supplies (h : w.Supplies o record schemes records) :
    w.evaluate o = .ok (o.print (((Profile.mk record).screen (attachRules schemes records)).report
      w.now)) := by
  rw [evaluate, readFile_of_holds h.profile, schemes_of_supplies h]
  rfl

variable {before after : List Input} {i : Input}

/-- Of the files behind the profile, the first one that cannot be read is the reason. -/
theorem schemes_of_first_fault
    (hinputs : .schemes o.schemes :: (o.ruleSets.map Input.ruleSets).toList = before ++ i :: after)
    (hbefore : ∀ j ∈ before, j.IsSound w) (hf : i.FailsWith w f) : w.schemes o = .error f := by
  cases before with
  | nil =>
    obtain ⟨rfl, -⟩ := List.cons.inj hinputs
    rw [World.schemes, readFile_of_fault hf]
    rfl
  | cons j before =>
    obtain ⟨rfl, hruleSets⟩ := List.cons.inj hinputs
    obtain ⟨⟨schemes, hschemes⟩, -⟩ := List.forall_mem_cons.1 hbefore
    rw [World.schemes, readFile_of_holds hschemes]
    cases hpath : o.ruleSets with
    | none =>
      rw [hpath] at hruleSets
      exact absurd hruleSets.symm (List.append_ne_nil_of_right_ne_nil _ (List.cons_ne_nil _ _))
    | some path =>
      -- there is one file of rule sets, so it is the one that fails
      have hi : i = .ruleSets path := by
        have hmem : i ∈ (o.ruleSets.map Input.ruleSets).toList := by
          rw [hruleSets]
          exact List.mem_append_right _ List.mem_cons_self
        rw [hpath] at hmem
        exact List.mem_singleton.1 hmem
      subst hi
      show w.readFile StandaloneRules.decodeList path >>= _ = _
      rw [readFile_of_fault hf]
      rfl

/-- The first file that cannot be read is the reason why there is no report. -/
theorem evaluate_of_first_fault (hinputs : o.inputs = before ++ i :: after)
    (hbefore : ∀ j ∈ before, j.IsSound w) (hf : i.FailsWith w f) : w.evaluate o = .error f := by
  cases before with
  | nil =>
    obtain ⟨rfl, -⟩ := List.cons.inj hinputs
    rw [evaluate, readFile_of_fault hf]
    rfl
  | cons j before =>
    obtain ⟨rfl, hrest⟩ := List.cons.inj hinputs
    obtain ⟨⟨record, hrecord⟩, hbefore⟩ := List.forall_mem_cons.1 hbefore
    rw [evaluate, readFile_of_holds hrecord, schemes_of_first_fault hrest hbefore hf]
    rfl

/-! ## Runs -/

variable {args : List String}

/-- Arguments that say to evaluate print what is evaluated. -/
theorem runArguments_of_evaluate {text : String}
    (hargs : Command.parse? args = some (.evaluate o)) (h : w.evaluate o = .ok text) :
    w.runArguments args = .done (.print text) := by
  have hrun : w.run (.evaluate o) = .ok (.print text) := by
    rw [run, h]
    rfl
  rw [runArguments, hargs]
  simp only [hrun]

/-- Arguments that say to evaluate fail as the evaluation does. -/
theorem runArguments_of_evaluate_error (hargs : Command.parse? args = some (.evaluate o))
    (h : w.evaluate o = .error f) : w.runArguments args = .failed f := by
  have hrun : w.run (.evaluate o) = .error f := by
    rw [run, h]
    rfl
  rw [runArguments, hargs]
  simp only [hrun]

theorem runArguments_of_supplies (hargs : Command.parse? args = some (.evaluate o))
    (h : w.Supplies o record schemes records) : w.runArguments args = .done (.print (o.print
      (((Profile.mk record).screen (attachRules schemes records)).report w.now))) :=
  runArguments_of_evaluate hargs (evaluate_of_supplies h)

theorem runArguments_of_first_fault (hargs : Command.parse? args = some (.evaluate o))
    (hinputs : o.inputs = before ++ i :: after) (hbefore : ∀ j ∈ before, j.IsSound w)
    (hf : i.FailsWith w f) : w.runArguments args = .failed f :=
  runArguments_of_evaluate_error hargs (evaluate_of_first_fault hinputs hbefore hf)

/-- A run ends well when all files can be read. -/
theorem exitCode_eq_zero_iff (hargs : Command.parse? args = some (.evaluate o)) :
    (w.runArguments args).exitCode = 0 ↔ ∀ i ∈ o.inputs, i.IsSound w := by
  rcases all_sound_or_first_fails w o.inputs with hall | ⟨before, i, after, f, hinputs, hbefore, hf⟩
  · obtain ⟨record, schemes, records, h⟩ := exists_supplies hall
    rw [runArguments_of_supplies hargs h]
    exact iff_of_true rfl hall
  · rw [runArguments_of_first_fault hargs hinputs hbefore hf]
    refine iff_of_false Nat.one_ne_zero fun hall ↦ hf.not_isSound (hall i ?_)
    rw [hinputs]
    exact List.mem_append_right _ List.mem_cons_self

/-- **An evaluation prints one report or nothing.**  A run that is told to evaluate ends well
exactly when the file of the profile is there and is JSON, the file of the schemes is there and
lists schemes, and the file of the rule sets, if one is named, is there and lists rule sets.  Then
it prints one report and nothing else: that of the schemes with the rule sets attached.  Otherwise
it ends with exit code 1, prints no report, and says what is wrong with the first file that cannot
be read: it cannot be opened if it is missing, and it is bad input if it is not.  Whatever stands in
the files behind it, the run ends in the same way. -/
theorem evaluation_is_all_or_nothing (w : World)
    (hargs : Command.parse? args = some (.evaluate o)) :
    ((w.runArguments args).exitCode = 0 ↔
      (∃ record, w.Holds Document.asJson o.profile record) ∧
      (∃ schemes, w.Holds (Scheme.decodeList .text) o.schemes schemes) ∧
      ∀ path, o.ruleSets = some path →
        ∃ records, w.Holds StandaloneRules.decodeList path records) ∧
    (∀ record schemes records, w.Supplies o record schemes records →
      (w.runArguments args).output = o.print
        (((Profile.mk record).screen (attachRules schemes records)).report w.now) ∧
      (w.runArguments args).errorOutput = "") ∧
    ((w.runArguments args).exitCode ≠ 0 →
      (w.runArguments args).exitCode = 1 ∧ (w.runArguments args).output = "" ∧
      ∃ before i after f, o.inputs = before ++ i :: after ∧ (∀ j ∈ before, j.IsSound w) ∧
        i.FailsWith w f ∧
        (w.runArguments args).errorOutput = "application error: " ++ f.message ++ "\n" ∧
        ((w.IsMissing i.path ∧ ∃ reason, f = .io reason) ∨
          (¬ w.IsMissing i.path ∧ ∃ e, f = .input e)) ∧
        ∀ w' : World, (∀ j ∈ before ++ [i], w.entry j.path = w'.entry j.path) →
          w'.runArguments args = w.runArguments args) := by
  refine ⟨?_, fun record schemes records h ↦ ?_, fun hexit ↦ ?_⟩
  · rw [exitCode_eq_zero_iff hargs, EvaluateOptions.forall_inputs_isSound_iff]
  · rw [runArguments_of_supplies hargs h]
    exact ⟨rfl, rfl⟩
  · rcases all_sound_or_first_fails w o.inputs with
      hall | ⟨before, i, after, f, hinputs, hbefore, hf⟩
    · exact absurd ((exitCode_eq_zero_iff hargs).2 hall) hexit
    have hrun := runArguments_of_first_fault hargs hinputs hbefore hf
    rw [hrun]
    refine ⟨rfl, rfl, before, i, after, f, hinputs, hbefore, hf, rfl, hf.cases_isMissing, ?_⟩
    intro w' hsame
    have hbefore' : ∀ j ∈ before, j.IsSound w' := fun j hj ↦
      (hbefore j hj).congr (hsame j (List.mem_append_left _ hj))
    have hf' : i.FailsWith w' f := hf.congr (hsame i (List.mem_append_right _ List.mem_cons_self))
    exact runArguments_of_first_fault hargs hinputs hbefore' hf'

/-- A folder with a profile, a file that lists a scheme twice, and rules for another scheme. -/
def recordsFolder : Folder where
  files := [("profile.json", "null"),
    ("schemes.json", "[\x7b\"scheme_id\":\"S1\"\x7d,\x7b\"scheme_id\":\"S1\"\x7d]"),
    ("rules.json", "[\x7b\"scheme_id\":\"S9\"\x7d]")]

/-- In a folder, both schemes are evaluated.  Asked for schemes that are not there, the run fails
and does not get as far as the rule sets, which no profile can be read as. -/
theorem evaluation_in_a_folder :
    let w := ofFolder recordsFolder [] "today"
    let arguments (schemes ruleSets : String) :=
      ["evaluate", "--profile", "profile.json", "--schemes", schemes, "--rule-sets=" ++ ruleSets]
    let good := w.runArguments (arguments "schemes.json" "rules.json")
    let bad := w.runArguments (arguments "none.json" "profile.json")
    good.exitCode = 0 ∧
      good.output =
        (((Profile.mk .null).screen [{ id := "S1" }, { id := "S1" }]).report "today").compact
          ++ "\n" ∧
      bad.exitCode = 1 ∧ bad.output = "" ∧
      bad.errorOutput =
        "application error: io error: No such file or directory (os error 2)\n" := by
  intro w arguments good bad
  have hname : Folder.IsName "profile.json" ∧ Folder.IsName "schemes.json" ∧
      Folder.IsName "rules.json" ∧ Folder.IsName "none.json" := by
    refine ⟨?_, ?_, ?_, ?_⟩ <;>
    exact ⟨by decide, by decide, by decide, by decide, by decide⟩
  obtain ⟨hprofileName, hschemesName, hrulesName, hnoneName⟩ := hname
  let idOnly (id : String) : Json := .obj [("scheme_id", .str id)]
  have hprofile : w.Holds Document.asJson "profile.json" .null :=
    holds_of_document (d := .null) (recordsFolder.follow_of_isName hprofileName) (by cbv) rfl
  have hschemes :
      w.Holds (Scheme.decodeList .text) "schemes.json" [{ id := "S1" }, { id := "S1" }] :=
    holds_of_document (d := .ofJson (.arr [idOnly "S1", idOnly "S1"]))
      (recordsFolder.follow_of_isName hschemesName) (by cbv) rfl
  have hrules : w.Holds StandaloneRules.decodeList "rules.json" [⟨"S9", {}⟩] :=
    holds_of_document (d := .ofJson (.arr [idOnly "S9"]))
      (recordsFolder.follow_of_isName hrulesName) (by cbv) rfl
  have hnone : w.entry "none.json" = .error .missing := recordsFolder.follow_of_isName hnoneName
  have hgood : Command.parse? (arguments "schemes.json" "rules.json") =
      some (.evaluate ⟨"profile.json", "schemes.json", some "rules.json", false⟩) := by decide
  have hbad : Command.parse? (arguments "none.json" "profile.json") =
      some (.evaluate ⟨"profile.json", "none.json", some "profile.json", false⟩) := by decide
  obtain ⟨hexit, hreport, -⟩ := w.evaluation_is_all_or_nothing hgood
  obtain ⟨hexit', -, hfailed⟩ := w.evaluation_is_all_or_nothing hbad
  have hfails : bad.exitCode ≠ 0 := fun hzero ↦ by
    obtain ⟨-, ⟨schemes, text, hentry, -⟩, -⟩ := hexit'.1 hzero
    rw [hnone] at hentry
    cases hentry
  have hinputs : EvaluateOptions.inputs ⟨"profile.json", "none.json", some "profile.json", false⟩ =
      [.profile "profile.json"] ++ .schemes "none.json" :: [.ruleSets "profile.json"] := rfl
  have hrun : bad = .failed (.io FileError.missing.message) :=
    runArguments_of_first_fault hbad hinputs (List.forall_mem_singleton.2 ⟨_, hprofile⟩)
      (.missing hnone)
  refine ⟨hexit.2 ⟨⟨_, hprofile⟩, ⟨_, hschemes⟩, ?_⟩,
    (hreport _ _ _ ⟨hprofile, hschemes, hrules⟩).1, (hfailed hfails).1, (hfailed hfails).2.1, ?_⟩
  · rintro path hpath
    cases hpath
    exact ⟨_, hrules⟩
  · rw [hrun]
    rfl

end World

end Welfare
