import TypedSheets.AssetFile

/-!
# Running jobs

What it means that a job ends with a result: each of its parts ended with one, and handed the
workspace on to the next. Questions about the files change nothing, and log lines leave the files
as they are.
-/

namespace TypedSheets.Job

variable {α β : Type}

/-- A job of two parts. -/
theorem run_bind (job : Job α) (next : α → Job β) (w : Workspace) :
    (job >>= next) w = match job w with
      | (.ok a, middle) => next a middle
      | (.error e, middle) => (.error e, middle) := by
  show ExceptT.bind job next w = _
  simp only [ExceptT.bind, ExceptT.mk, bind, StateT.bind]
  cases job w with
  | mk outcome middle => cases outcome <;> rfl

/-- A job of two parts ends with a result when both do, the second one where the first ended. -/
theorem bind_ok {job : Job α} {next : α → Job β} {w after : Workspace} {b : β}
    (ran : (job >>= next) w = (.ok b, after)) :
    ∃ a middle, job w = (.ok a, middle) ∧ next a middle = (.ok b, after) := by
  rw [run_bind] at ran
  split at ran
  · next a middle first => exact ⟨a, middle, first, ran⟩
  · cases ran

/-- A job of two parts fails where one of them does. -/
theorem bind_error {job : Job α} {next : α → Job β} {w after : Workspace} {e : Failure}
    (ran : (job >>= next) w = (.error e, after)) :
    job w = (.error e, after) ∨ ∃ a middle, job w = (.ok a, middle) ∧ next a middle = (.error e, after) := by
  rw [run_bind] at ran
  split at ran
  · next a middle first => exact .inr ⟨a, middle, first, ran⟩
  · next own middle first =>
    cases ran
    exact .inl first

theorem run_pure (a : α) (w : Workspace) : (pure a : Job α) w = (.ok a, w) := rfl

/-- A job whose result is only put in another form ends where the job ends. -/
theorem bind_pure_eq {job : Job α} {f : α → β} {w after : Workspace} {outcome : Except Failure β}
    (ran : (job >>= fun a => pure (f a)) w = (outcome, after)) :
    ∃ result, job w = (result, after) ∧ outcome = result.map f := by
  rw [run_bind] at ran
  split at ran
  · next a middle first =>
    cases ran
    exact ⟨.ok a, first, rfl⟩
  · next e middle first =>
    cases ran
    exact ⟨.error e, first, rfl⟩

/-- A question changes nothing. -/
theorem run_ask (question : FileTree → Except FileError α) (w : Workspace) :
    ask question w = match question w.files with
      | .ok answer => (.ok answer, w)
      | .error e => (.error (.file e), w) := by
  rw [ask, run_bind]
  show (match question w.files with
    | .ok answer => pure answer
    | .error e => throw (Failure.file e) : Job α) w = _
  cases question w.files <;> rfl

theorem ask_ok {question : FileTree → Except FileError α} {w after : Workspace} {a : α}
    (ran : ask question w = (.ok a, after)) : question w.files = .ok a ∧ after = w := by
  rw [run_ask] at ran
  split at ran
  · next answer found =>
    cases ran
    exact ⟨found, rfl⟩
  · cases ran

theorem run_ofExcept {ε : Type} (wrap : ε → Failure) (result : Except ε α) (w : Workspace) :
    ofExcept wrap result w = match result with
      | .ok a => (.ok a, w)
      | .error e => (.error (wrap e), w) := by
  cases result <;> rfl

theorem ofExcept_ok {ε : Type} {wrap : ε → Failure} {result : Except ε α} {w after : Workspace}
    {a : α} (ran : ofExcept wrap result w = (.ok a, after)) : result = .ok a ∧ after = w := by
  cases result with
  | ok found =>
    cases ran
    exact ⟨rfl, rfl⟩
  | error e => cases ran

/-- Log lines end with a result and leave the files. -/
theorem run_logAll (lines : List LogLine) (w : Workspace) :
    logAll lines w = (.ok (), { w with console := w.console ++ lines.map .line }) := rfl

theorem run_log (severity : Severity) (text : String) (w : Workspace) :
    log severity text w = (.ok (), w.emit (.line ⟨severity, text⟩)) := rfl

/-- A change of the files that ends with a result. -/
theorem change_ok {edit : FileTree → Except FileError FileTree} {w after : Workspace} {u : Unit}
    (ran : change edit w = (.ok u, after)) :
    ∃ files, edit w.files = .ok files ∧ after = { w with files } := by
  obtain ⟨files, middle, asked, changed⟩ := bind_ok ran
  obtain ⟨edited, rfl⟩ := ask_ok asked
  cases changed
  exact ⟨files, edited, rfl⟩

theorem makeDirectories_ok {p : Path} {w after : Workspace} {u : Unit}
    (ran : makeDirectories p w = (.ok u, after)) :
    ∃ outcome files, FileTree.makeDirectories (p.parts.length + 1) p w.files = (outcome, files) ∧
      after = { w with files } := by
  obtain ⟨_, _, got, rest⟩ := bind_ok ran
  cases got
  cases made : FileTree.makeDirectories (p.parts.length + 1) p w.files with
  | mk outcome files =>
    simp only [made] at rest
    obtain ⟨_, _, modified, ended⟩ := bind_ok rest
    cases modified
    cases outcome with
    | ok _ =>
      cases ended
      exact ⟨_, files, rfl, rfl⟩
    | error e => cases ended

theorem run_change (edit : FileTree → Except FileError FileTree) (w : Workspace) :
    change edit w = match edit w.files with
      | .ok files => (.ok (), { w with files })
      | .error e => (.error (.file e), w) := by
  rw [change, run_bind, run_ask]
  cases edit w.files <;> rfl

theorem run_makeDirectories (p : Path) (w : Workspace) :
    makeDirectories p w = match FileTree.makeDirectories (p.parts.length + 1) p w.files with
      | (.ok (), files) => (.ok (), { w with files })
      | (.error e, files) => (.error (.file e), { w with files }) := by
  have got : (get : Job Workspace) w = (.ok w, w) := rfl
  rw [makeDirectories, run_bind, got]
  dsimp only
  cases FileTree.makeDirectories (p.parts.length + 1) p w.files with
  | mk outcome files => cases outcome <;> rfl

/-- A job that fails in no other way than through the files. -/
def FailsInFiles (job : Job α) : Prop :=
  ∀ w e after, job w = (.error e, after) → ∃ cause, e = .file cause

theorem failsInFiles_pure (a : α) : FailsInFiles (pure a : Job α) := by
  intro w e after ran
  cases ran

theorem FailsInFiles.bind {job : Job α} {next : α → Job β} (first : FailsInFiles job)
    (second : ∀ a, FailsInFiles (next a)) : FailsInFiles (job >>= next) := by
  intro w e after ran
  rcases bind_error ran with failed | ⟨a, middle, _, failed⟩
  · exact first w e after failed
  · exact second a middle e after failed

theorem failsInFiles_ask (question : FileTree → Except FileError α) :
    FailsInFiles (ask question) := by
  intro w e after ran
  rw [run_ask] at ran
  split at ran
  · cases ran
  · cases ran
    exact ⟨_, rfl⟩

theorem failsInFiles_logAll (lines : List LogLine) : FailsInFiles (logAll lines) := by
  intro w e after ran
  cases ran

theorem failsInFiles_change (edit : FileTree → Except FileError FileTree) :
    FailsInFiles (change edit) := by
  refine FailsInFiles.bind (failsInFiles_ask edit) fun files => ?_
  intro w e after ran
  cases ran

theorem failsInFiles_makeDirectories (p : Path) : FailsInFiles (makeDirectories p) := by
  intro w e after ran
  rcases bind_error ran with failed | ⟨_, _, got, rest⟩
  · cases failed
  · cases got
    cases made : FileTree.makeDirectories (p.parts.length + 1) p w.files with
    | mk outcome files =>
      simp only [made] at rest
      rcases bind_error rest with failed | ⟨_, _, _, ended⟩
      · cases failed
      · cases outcome with
        | ok _ => cases ended
        | error cause =>
          cases ended
          exact ⟨cause, rfl⟩

/-- An attempt always ends with a result, and leaves the workspace as the job did. -/
theorem run_attempt (job : Job α) (w : Workspace) :
    attempt job w = (.ok (job w).1, (job w).2) := rfl

/-- A job that never says of a run as a whole that it cannot go on. -/
def NeverProcessing (job : Job α) : Prop :=
  ∀ w e after, job w = (.error e, after) → ∀ text, e ≠ .processing text

theorem FailsInFiles.neverProcessing {job : Job α} (fails : FailsInFiles job) : NeverProcessing job := by
  intro w e after ran text
  obtain ⟨cause, rfl⟩ := fails w e after ran
  simp

theorem neverProcessing_throw {e : Failure} (other : ∀ text, e ≠ .processing text) :
    NeverProcessing (throw e : Job α) := by
  intro w f after ran
  cases ran
  exact other

theorem neverProcessing_ofExcept {ε : Type} {wrap : ε → Failure} (other : ∀ e text, wrap e ≠ .processing text)
    (result : Except ε α) : NeverProcessing (ofExcept wrap result) := by
  intro w f after ran
  rw [run_ofExcept] at ran
  cases result with
  | ok a => cases ran
  | error e =>
    cases ran
    exact other e

theorem NeverProcessing.bind {job : Job α} {next : α → Job β} (first : NeverProcessing job)
    (second : ∀ a, NeverProcessing (next a)) : NeverProcessing (job >>= next) := by
  intro w e after ran
  rcases bind_error ran with failed | ⟨a, middle, -, failed⟩
  · exact first w e after failed
  · exact second a middle e after failed

/-- What follows an attempt may pass its failure on. -/
theorem NeverProcessing.attempt_bind {job : Job α} {next : Except Failure α → Job β}
    (first : NeverProcessing job) (done : ∀ a, NeverProcessing (next (.ok a)))
    (failed : ∀ e, (∀ text, e ≠ .processing text) → NeverProcessing (next (.error e))) :
    NeverProcessing (attempt job >>= next) := by
  intro w e after ran
  rw [run_bind, run_attempt] at ran
  dsimp only at ran
  cases own : job w with
  | mk result middle =>
    rw [own] at ran
    cases result with
    | ok a => exact done a middle e after ran
    | error cause => exact failed cause (first w cause middle own) middle e after ran

/-- A job that leaves the files as they are. -/
def KeepsFiles (job : Job α) : Prop := ∀ w, (job w).2.files = w.files

theorem KeepsFiles.eq {job : Job α} (keeps : KeepsFiles job) {w after : Workspace}
    {outcome : Except Failure α} (ran : job w = (outcome, after)) : after.files = w.files := by
  rw [← keeps w, ran]

theorem keepsFiles_pure (a : α) : KeepsFiles (pure a : Job α) := fun _ => rfl

theorem keepsFiles_throw (e : Failure) : KeepsFiles (throw e : Job α) := fun _ => rfl

theorem keepsFiles_log (severity : Severity) (text : String) : KeepsFiles (log severity text) :=
  fun _ => rfl

theorem keepsFiles_logAll (lines : List LogLine) : KeepsFiles (logAll lines) := fun _ => rfl

theorem KeepsFiles.bind {job : Job α} {next : α → Job β} (first : KeepsFiles job)
    (second : ∀ a, KeepsFiles (next a)) : KeepsFiles (job >>= next) := by
  intro w
  rw [run_bind]
  cases ran : job w with
  | mk outcome middle =>
    have same := first.eq ran
    cases outcome with
    | ok a => exact (second a middle).trans same
    | error e => exact same

theorem KeepsFiles.attempt {job : Job α} (keeps : KeepsFiles job) : KeepsFiles (attempt job) := keeps

/-- A job that keeps a property of the files, however it ends. -/
def Preserves (holds : FileTree → Prop) (job : Job α) : Prop := ∀ w, holds w.files → holds (job w).2.files

section Properties

variable {holds : FileTree → Prop}

theorem KeepsFiles.preserves {job : Job α} (keeps : KeepsFiles job) : Preserves holds job := by
  intro w own
  rw [keeps w]
  exact own

theorem Preserves.bind {job : Job α} {next : α → Job β} (first : Preserves holds job)
    (second : ∀ a, Preserves holds (next a)) : Preserves holds (job >>= next) := by
  intro w own
  have middle := first w own
  rw [run_bind]
  cases ran : job w with
  | mk outcome after =>
    rw [ran] at middle
    cases outcome with
    | ok a => exact second a after middle
    | error e => exact middle

theorem preserves_change {edit : FileTree → Except FileError FileTree}
    (step : ∀ t u, holds t → edit t = .ok u → holds u) : Preserves holds (change edit) := by
  intro w own
  rw [run_change]
  cases edited : edit w.files with
  | ok files => exact step _ _ own edited
  | error e => exact own

theorem preserves_makeDirectories {p : Path}
    (step : ∀ fuel t, holds t → holds (FileTree.makeDirectories fuel p t).2) :
    Preserves holds (makeDirectories p) := by
  intro w own
  have made := step (p.parts.length + 1) w.files own
  rw [run_makeDirectories]
  cases ran : FileTree.makeDirectories (p.parts.length + 1) p w.files with
  | mk outcome files =>
    rw [ran] at made
    cases outcome <;> exact made

end Properties

/-- What a job ends with when there are these files and nothing is on the console. -/
def answer (job : Job α) (t : FileTree) : Except Failure α := (job { files := t }).1

/-- A job that only asks: what it ends with depends on the files alone, and nothing changes. -/
def IsQuestion (job : Job α) : Prop := ∀ w, job w = (answer job w.files, w)

theorem IsQuestion.keepsFiles {job : Job α} (only : IsQuestion job) : KeepsFiles job := by
  intro w
  rw [only w]

theorem isQuestion_pure (a : α) : IsQuestion (pure a : Job α) := fun _ => rfl

theorem isQuestion_throw (e : Failure) : IsQuestion (throw e : Job α) := fun _ => rfl

theorem isQuestion_ofExcept {ε : Type} (wrap : ε → Failure) (result : Except ε α) :
    IsQuestion (ofExcept wrap result) := by
  cases result with
  | ok a => exact isQuestion_pure a
  | error e => exact isQuestion_throw (wrap e)

theorem isQuestion_ask (question : FileTree → Except FileError α) : IsQuestion (ask question) := by
  intro w
  rw [answer, run_ask, run_ask]
  cases question w.files <;> rfl

theorem IsQuestion.attempt {job : Job α} (only : IsQuestion job) : IsQuestion (attempt job) := by
  intro w
  rw [answer, run_attempt, run_attempt, only w]
  rfl

theorem IsQuestion.bind {job : Job α} {next : α → Job β} (first : IsQuestion job)
    (second : ∀ a, IsQuestion (next a)) : IsQuestion (job >>= next) := by
  intro w
  rw [answer, run_bind, run_bind, first w, first { files := w.files }]
  cases answer job w.files with
  | ok a => exact second a w
  | error e => rfl

theorem keepsFiles_ask (question : FileTree → Except FileError α) : KeepsFiles (ask question) :=
  (isQuestion_ask question).keepsFiles

/-- The parts of a question are asked about the same files. -/
theorem answer_bind {job : Job α} {next : α → Job β} (first : IsQuestion job) (t : FileTree) :
    answer (job >>= next) t = match answer job t with
      | .ok a => answer (next a) t
      | .error e => .error e := by
  rw [answer, run_bind, first { files := t }]
  cases answer job t <;> rfl

theorem answer_ask (question : FileTree → Except FileError α) (t : FileTree) :
    answer (ask question) t = (question t).mapError .file := by
  rw [answer, run_ask]
  cases question t <;> rfl

theorem answer_attempt (job : Job α) (t : FileTree) : answer (attempt job) t = .ok (answer job t) := rfl

theorem answer_ofExcept {ε : Type} (wrap : ε → Failure) (result : Except ε α) (t : FileTree) :
    answer (ofExcept wrap result) t = result.mapError wrap := by
  cases result <;> rfl

/-- Reading a document only asks about the files. -/
theorem isQuestion_readDocument (p : Path) : IsQuestion (readDocument p) :=
  (isQuestion_ask _).bind fun content =>
    (isQuestion_ofExcept id content.text).bind fun _ => isQuestion_ofExcept .document _

end TypedSheets.Job
