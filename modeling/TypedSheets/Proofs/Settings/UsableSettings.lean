import TypedSheets.CommandLine
import TypedSheets.Proofs.Settings.Conformance
import TypedSheets.Proofs.Settings.SettingsFiles

/-!
# Settings that can be used

Settings are built from the mapping in a file, with values laid over it, and exactly of mappings that
conform. Most of what keeps them from being built is reported as such, and ends a request with the code for
that nothing could be done. Three things are not, and break the request off: a path that is too long, a file
that cannot be read, and a violation that has no wording.
-/

namespace TypedSheets.Settings

open FileTree

/-- What settings start from: the mapping in the file, or none of its entries where the file is missing and
need not be there. -/
inductive StartsFrom (t : FileTree) (p : Option Path) (required : Bool) : List (Value × Value) → Prop
  | absent (optional : required = false) (missing : ∀ path, p = some path → t.exists? path = .ok false) :
      StartsFrom t p required []
  | file (path : Path) (given : p = some path) (there : t.exists? path = .ok true)
      (data : List (Value × Value)) (held : HoldsMapping t path data) : StartsFrom t p required data

/-- What keeps settings from being built and is not reported. -/
inductive BreaksOff (t : FileTree) (p : Option Path) (values : List (String × Value)) (required : Bool) :
    Failure → Prop
  | longPath (path : Path) (given : p = some path)
      (long : t.exists? path = .error (.system .nameTooLong path)) :
      BreaksOff t p values required (.file (.system .nameTooLong path))
  | unreadable (path : Path) (given : p = some path) (there : t.exists? path = .ok true) (e : Failure)
      (cause : Unreadable t path e) : BreaksOff t p values required e
  | unworded (data : List (Value × Value)) (starts : StartsFrom t p required data)
      (violation : Unworded (override data values)) : BreaksOff t p values required (.oversized {})

section Building

variable {t : FileTree} {p : Option Path} {values : List (String × Value)} {required : Bool} {s : Settings}
  {e : Failure} {data : List (Value × Value)}

/-- Without a file there are no entries, unless there must be one. -/
def withoutFile (p : Option Path) (required : Bool) : Job (List (Value × Value)) :=
  if required then throw (.settings ("config file not found: " ++ (p.map Path.text).getD "None")) else pure []

/-- The mapping that settings start from. -/
def startingData (p : Option Path) (required : Bool) : Job (List (Value × Value)) :=
  match p with
  | none => withoutFile p required
  | some path => do if ← Job.ask (·.exists? path) then readData path else withoutFile p required

/-- Settings are built of that mapping with values laid over it. -/
theorem build_eq (p : Option Path) (values : List (String × Value)) (required : Bool) :
    build p values required =
      startingData p required >>= fun data => Job.ofExcept id (ofData (override data values)) := by
  cases p with
  | none => cases required <;> rfl
  | some path =>
    unfold startingData withoutFile build
    dsimp only
    rw [bind_assoc]
    congr 1
    funext there
    cases there <;> cases required <;> rfl

theorem isQuestion_withoutFile (p : Option Path) (required : Bool) :
    Job.IsQuestion (withoutFile p required) := by
  cases required
  · exact Job.isQuestion_pure _
  · exact Job.isQuestion_throw _

theorem isQuestion_startingData (p : Option Path) (required : Bool) :
    Job.IsQuestion (startingData p required) := by
  cases p with
  | none => exact isQuestion_withoutFile none required
  | some path =>
    refine (Job.isQuestion_ask _).bind fun there => ?_
    cases there
    · exact isQuestion_withoutFile _ required
    · exact isQuestion_readData path

theorem isQuestion_build (p : Option Path) (values : List (String × Value)) (required : Bool) :
    Job.IsQuestion (build p values required) := by
  rw [build_eq]
  exact (isQuestion_startingData p required).bind fun _ => Job.isQuestion_ofExcept id _

theorem withoutFile_eq_ok :
    Job.answer (withoutFile p required) t = .ok data ↔ required = false ∧ data = [] := by
  cases required
  · exact ⟨by rintro ⟨⟩; exact ⟨rfl, rfl⟩, by rintro ⟨-, rfl⟩; rfl⟩
  · exact iff_of_false (by rintro ⟨⟩) (by simp)

/-- That there is no file is reported. -/
theorem withoutFile_reports (ended : Job.answer (withoutFile p required) t = .error e) : ¬Escapes e := by
  cases required
  · cases ended
  · cases ended
    exact fun escapes => escapes _ rfl

/-- What is at a path is asked for first. -/
theorem answer_startingData (path : Path) :
    Job.answer (startingData (some path) required) t = match t.exists? path with
      | .error cause => .error (.file cause)
      | .ok true => Job.answer (readData path) t
      | .ok false => Job.answer (withoutFile (some path) required) t := by
  rw [startingData, Job.answer_bind (Job.isQuestion_ask _), Job.answer_ask]
  cases t.exists? path with
  | error cause => rfl
  | ok there => cases there <;> rfl

/-- Where there is no file, settings start without one. -/
theorem startsFrom_of_missing (missing : ∀ path, p = some path → t.exists? path = .ok false) :
    StartsFrom t p required data ↔ required = false ∧ data = [] := by
  constructor
  · rintro (⟨optional, _⟩ | ⟨path, given, there, _, _⟩)
    · exact ⟨optional, rfl⟩
    · rw [missing path given] at there
      cases there
  · rintro ⟨optional, rfl⟩
    exact .absent optional missing

theorem startingData_eq_ok :
    Job.answer (startingData p required) t = .ok data ↔ StartsFrom t p required data := by
  cases p with
  | none =>
    rw [startsFrom_of_missing (by rintro _ ⟨⟩)]
    exact withoutFile_eq_ok
  | some path =>
    rw [answer_startingData]
    cases asked : t.exists? path with
    | error cause =>
      refine iff_of_false (by rintro ⟨⟩) ?_
      rintro (⟨_, missing⟩ | ⟨_, ⟨⟩, there, _, _⟩)
      · cases asked.symm.trans (missing path rfl)
      · cases asked.symm.trans there
    | ok there =>
      cases there with
      | false =>
        rw [startsFrom_of_missing (by rintro _ ⟨⟩; exact asked)]
        exact withoutFile_eq_ok
      | true =>
        refine readData_eq_ok.trans ⟨.file path rfl asked data, ?_⟩
        rintro (⟨_, missing⟩ | ⟨_, ⟨⟩, _, _, held⟩)
        · cases asked.symm.trans (missing path rfl)
        · exact held

/-- What the start fails with and is not reported. -/
theorem startingData_escapes :
    Job.answer (startingData p required) t = .error e ∧ Escapes e ↔
      ∃ path, p = some path ∧ (t.exists? path = .error (.system .nameTooLong path) ∧
        e = .file (.system .nameTooLong path) ∨ t.exists? path = .ok true ∧ Unreadable t path e) := by
  cases p with
  | none => exact iff_of_false (fun both => withoutFile_reports both.1 both.2) (by simp)
  | some path =>
    rw [answer_startingData]
    simp only [Option.some.injEq, exists_eq_left']
    cases asked : t.exists? path with
    | error cause =>
      obtain rfl := exists?_eq_error asked
      constructor
      · rintro ⟨⟨⟩, -⟩
        exact .inl ⟨rfl, rfl⟩
      · rintro (⟨-, rfl⟩ | ⟨⟨⟩, -⟩)
        exact ⟨rfl, by simp [Escapes]⟩
    | ok there =>
      cases there with
      | false =>
        refine iff_of_false (fun both => withoutFile_reports both.1 both.2) ?_
        rintro (⟨⟨⟩, -⟩ | ⟨⟨⟩, -⟩)
      | true =>
        refine (readData_escapes asked).trans ⟨fun unreadable => .inr ⟨rfl, unreadable⟩, ?_⟩
        rintro (⟨⟨⟩, -⟩ | ⟨-, unreadable⟩)
        exact unreadable

/-- Building comes to what the start fails with, or to what its mapping gives. -/
theorem answer_build {start : Except Failure (List (Value × Value))}
    (started : Job.answer (startingData p required) t = start) :
    Job.answer (build p values required) t = start >>= fun data => ofData (override data values) := by
  rw [build_eq, Job.answer_bind (isQuestion_startingData p required), started]
  cases start with
  | error e => rfl
  | ok data =>
    refine (Job.answer_ofExcept id _ t).trans ?_
    show _ = ofData (override data values)
    cases ofData (override data values) <;> rfl

/-- Settings are built exactly of mappings that conform, and hold what is in these. -/
theorem build_eq_ok :
    Job.answer (build p values required) t = .ok s ↔
      ∃ data, StartsFrom t p required data ∧
        Conforms (override data values) ∧ BuiltFrom (override data values) s := by
  constructor
  · intro built
    rw [answer_build rfl] at built
    obtain ⟨data, started, made⟩ := bind_eq_ok built
    exact ⟨data, startingData_eq_ok.mp started, ofData_eq_ok.mp made⟩
  · rintro ⟨data, starts, made⟩
    rw [answer_build (startingData_eq_ok.mpr starts)]
    exact ofData_eq_ok.mpr made

/-- What keeps settings from being built and is not reported. -/
theorem build_escapes :
    Job.answer (build p values required) t = .error e ∧ Escapes e ↔ BreaksOff t p values required e := by
  constructor
  · rintro ⟨ended, escapes⟩
    rw [answer_build rfl, bind_eq_error] at ended
    rcases ended with failed | ⟨data, started, refused⟩
    · obtain ⟨path, given, ⟨long, rfl⟩ | ⟨there, unreadable⟩⟩ := startingData_escapes.mp ⟨failed, escapes⟩
      · exact .longPath path given long
      · exact .unreadable path given there e unreadable
    · rcases ofData_eq_error.mp refused with ⟨message, -, rfl⟩ | ⟨violation, rfl⟩
      · exact absurd rfl (escapes _)
      · exact .unworded data (startingData_eq_ok.mp started) violation
  · intro breaks
    have start (cause : ∃ path, p = some path ∧ (t.exists? path = .error (.system .nameTooLong path) ∧
        e = .file (.system .nameTooLong path) ∨ t.exists? path = .ok true ∧ Unreadable t path e)) :
        Job.answer (build p values required) t = .error e ∧ Escapes e := by
      obtain ⟨failed, escapes⟩ := startingData_escapes.mpr cause
      rw [answer_build failed]
      exact ⟨rfl, escapes⟩
    cases breaks with
    | longPath path given long => exact start ⟨path, given, .inl ⟨long, rfl⟩⟩
    | unreadable path given there _ cause => exact start ⟨path, given, .inr ⟨there, cause⟩⟩
    | unworded data starts violation =>
      rw [answer_build (startingData_eq_ok.mpr starts)]
      exact ⟨ofData_eq_error.mpr (.inr ⟨violation, rfl⟩), by simp [Escapes]⟩

end Building

end TypedSheets.Settings

namespace TypedSheets.CommandLine

open TypedSheets.Settings

/-- The path of the settings file of a request. -/
def Request.settingsPath (r : Request) (environment : List (String × String)) : Path :=
  match r.value? "--config" with
  | some text => .ofText text
  | none => Settings.resolvePath none (environment.lookup settingsVariable)

/-- A settings file that is named must be there. -/
def Request.needsFile (r : Request) : Bool := (r.value? "--config").isSome

/-- What the workspace is once a request is carried out. -/
def begun (w : Workspace) : Workspace := w.emit (.line ⟨.debug, "debug mode enabled"⟩)

section Requests

variable {clock : Clock} {environment full : List (String × String)} {arguments : List String} {r : Request}
  {w : Workspace}

theorem settings_eq (r : Request) (environment : List (String × String)) :
    settings r environment = Settings.build (some (r.settingsPath environment)) r.overrides r.needsFile := by
  unfold settings Request.settingsPath Request.needsFile
  cases r.value? "--config" <;> rfl

theorem isQuestion_fullEnvironment (environment : List (String × String)) :
    Job.IsQuestion (fullEnvironment environment) := by
  unfold fullEnvironment
  split
  · exact Job.isQuestion_pure _
  · intro w
    have got (v : Workspace) : (get : Job Workspace) v = (.ok v, v) := rfl
    rw [Job.answer, Job.run_bind, Job.run_bind, got, got]
    dsimp only
    cases w.files.read (Path.ofText ".env") with
    | error cause => rfl
    | ok content =>
      dsimp only
      cases content.text with
      | error e => rfl
      | ok text => exact Job.isQuestion_ofExcept _ _ w

/-- A request goes by its settings, unless it shows a directory that it names. -/
theorem execute_eq (needs : r.bareSource? = none)
    (read : Job.answer (fullEnvironment environment) w.files = .ok full) :
    execute clock environment r w =
      match Job.answer (Settings.build (some (r.settingsPath full)) r.overrides r.needsFile) w.files with
      | .ok s => guarded (perform clock r s) (begun w)
      | .error (.settings text) => (.ok exitFatal, (begun w).emit (.line ⟨.error, "config: " ++ text⟩))
      | .error e => (.error e, begun w) := by
  have only : Job.IsQuestion (settings r full) := by
    rw [settings_eq]
    exact isQuestion_build _ _ _
  have asked : settings r full (begun w) = (Job.answer (settings r full) w.files, begun w) := only (begun w)
  have logged : Job.log .debug "debug mode enabled" w = (.ok (), begun w) := rfl
  rw [← settings_eq, execute, Job.run_bind, isQuestion_fullEnvironment environment w, read]
  dsimp only
  rw [Job.run_bind, logged, needs]
  dsimp only
  rw [Job.run_bind, Job.run_attempt, asked]
  cases Job.answer (settings r full) w.files with
  | ok s => rfl
  | error e => cases e <;> rfl

/-- An environment file that cannot be used ends a request at once. -/
theorem execute_eq_error {e : Failure}
    (failed : Job.answer (fullEnvironment environment) w.files = .error e) :
    execute clock environment r w = (.error e, w) := by
  rw [execute, Job.run_bind, isQuestion_fullEnvironment environment w, failed]

/-- How settings decide a request. They are built exactly of mappings that conform. If they are not, that is
reported and nothing is done, except where something breaks off: then the request fails with it. -/
theorem settings_outcomes (clock : Clock) (environment : List (String × String)) (arguments : List String)
    (w : Workspace) :
    (∀ (p : Option Path) (values : List (String × Value)) (required : Bool),
      let built := Settings.build p values required w
      built.2 = w ∧
      (∀ s, built.1 = .ok s ↔ ∃ data, StartsFrom w.files p required data ∧
        Conforms (override data values) ∧ BuiltFrom (override data values) s) ∧
      ∀ e, (built.1 = .error e ∧ ∀ text, e ≠ .settings text) ↔ BreaksOff w.files p values required e) ∧
    ∀ r, parse arguments = .ok r → r.bareSource? = none →
      (∀ full, Job.answer (fullEnvironment environment) w.files = .ok full →
        let built := (Settings.build (some (r.settingsPath full)) r.overrides r.needsFile w).1
        let ran := run clock environment arguments w
        (∀ s, built = .ok s → ran = guarded (perform clock r s) (begun w)) ∧
        (∀ text, built = .error (.settings text) →
          ran = (.ok exitFatal, (begun w).emit (.line ⟨.error, "config: " ++ text⟩))) ∧
        ∀ e, BreaksOff w.files (some (r.settingsPath full)) r.overrides r.needsFile e →
          ran = (.error e, begun w)) ∧
      ∀ e, Job.answer (fullEnvironment environment) w.files = .error e →
        run clock environment arguments w = (.error e, w) := by
  constructor
  · intro p values required built
    have own : built = (Job.answer (Settings.build p values required) w.files, w) :=
      isQuestion_build p values required w
    rw [own]
    exact ⟨rfl, fun s => build_eq_ok, fun e => build_escapes⟩
  · intro r parsed needs
    have carried : run clock environment arguments w = execute clock environment r w := by
      rw [run, parsed]
    refine ⟨?_, fun e failed => carried.trans (execute_eq_error failed)⟩
    intro full read built ran
    have own : built =
        Job.answer (Settings.build (some (r.settingsPath full)) r.overrides r.needsFile) w.files := by
      show (Settings.build _ _ _ w).1 = _
      rw [isQuestion_build _ _ _ w]
    have ended : ran = _ := carried.trans (execute_eq needs read)
    rw [own, ended]
    refine ⟨fun s done => by rw [done], fun text reported => by rw [reported], ?_⟩
    intro e breaks
    obtain ⟨failed, escapes⟩ := build_escapes.mpr breaks
    rw [failed]
    cases e with
    | settings text => exact absurd rfl (escapes text)
    | _ => rfl

/-- A clock at the start of a day. -/
def someClock : Clock := { timestamp := "2024-01-01T00:00:00Z", stamp := "20240101-000000", elapsed := .nan }

/-- A tree with a directory where the settings file is looked for. -/
def misplacedTree : FileTree where
  entries := [(["config"], .directory), (["config", "masterdata.yml"], .directory)]

/-- The settings that are needed. -/
def givenSettings : List (String × Value) :=
  [("source_directory", .text "data"), ("code_destination", .text "gen"),
    ("asset_destination", .text "assets")]

theorem same_text_eq (a b : String) : Value.same (.text a) (.text b) = (a == b) := by
  simp [Value.same, Value.sameAtom, Value.numeral?, Value.dateTime?]

theorem override_givenSettings :
    override [] givenSettings = givenSettings.map fun entry => (.text entry.1, entry.2) := by
  simp [override, givenSettings, Value.putEntry, same_text_eq]

theorem conforms_givenSettings : Conforms (override [] givenSettings) := by
  rw [override_givenSettings]
  refine ⟨?_, ?_, ?_⟩
  · simp [OnlyKnown, givenSettings, keys]
  · simp [Complete, givenSettings, requiredKeys, Value.lookup?, same_text_eq]
  · simp [AdmittedUnder, givenSettings, keys, Value.lookup?, same_text_eq, demandOf, Admits]

theorem builtFrom_givenSettings : BuiltFrom (override [] givenSettings)
    { source := "data", code := "gen", asset := "assets", logs := "./logs" } := by
  rw [override_givenSettings]
  refine ⟨?_, ?_, ?_, ?_, ?_⟩ <;> simp [givenSettings, Value.lookup?, same_text_eq]

/-- Options may give all settings. Without any a request ends with the code for that nothing could be done,
and where there is a directory in the place of the settings file, it breaks off. -/
theorem settings_outcomes_misplaced :
    (∃ s, (Settings.build none givenSettings false {}).1 = .ok s ∧ s.logs = "./logs") ∧
    (run someClock [] ["generate"] {}).1 = .ok exitFatal ∧
    (run someClock [] ["generate"] { files := misplacedTree }).1 =
      .error (.file (.system .isDirectory Settings.defaultPath)) := by
  have parsed : parse ["generate"] = .ok { command := .generate } := rfl
  have needs : ({ command := .generate } : Request).bareSource? = none := rfl
  obtain ⟨builds, plain⟩ := settings_outcomes someClock [] ["generate"] {}
  obtain ⟨-, broken⟩ := settings_outcomes someClock [] ["generate"] { files := misplacedTree }
  refine ⟨?_, ?_, ?_⟩
  · have starts : StartsFrom {} none false [] := .absent rfl (by rintro _ ⟨⟩)
    have built := ((builds none givenSettings false).2.1 _).mpr
      ⟨[], starts, conforms_givenSettings, builtFrom_givenSettings⟩
    exact ⟨_, built, rfl⟩
  · have ended := ((plain _ parsed needs).1 [] rfl).2.1
      "config validation failed: 'source_directory' is a required property" rfl
    rw [ended]
  · have ended := ((broken _ parsed needs).1 [] rfl).2.2 _
      (.unreadable Settings.defaultPath rfl rfl _ (.directory rfl))
    rw [ended]

end Requests

end TypedSheets.CommandLine
