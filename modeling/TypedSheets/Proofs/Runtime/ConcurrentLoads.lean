import TypedSheets.Proofs.Files.Jobs
import TypedSheets.Proofs.Runtime.AccessorRuns

/-!
# Concurrent loads

The accessors of a registry may be loaded one after another, or each as its fetch completes. When the
two loaders deliver the same answers, the order in which the fetches complete cannot be told from what
is left behind: the accessors, the names of those that failed and the error lines are the same. Only
the warnings about repeated keys come in the order of completion.
-/

namespace TypedSheets

open TypedSheets.Schema

/-- The lines on the console that report errors. -/
def Workspace.errorLines (w : Workspace) : List LogLine :=
  w.log.filter fun line => line.severity = .error

/-- Lines that report no error leave the errors as they are. -/
theorem Workspace.errorLines_append_of_not_error (w : Workspace) (lines : List LogLine)
    (others : ∀ line ∈ lines, line.severity ≠ .error) :
    Workspace.errorLines { w with console := w.console ++ lines.map .line } = w.errorLines := by
  simpa [errorLines, log, List.filterMap_append, List.filterMap_map] using others

/-- A line that reports an error is added to the others. -/
theorem Workspace.errorLines_append_error (w : Workspace) (line : LogLine) (isError : line.severity = .error) :
    Workspace.errorLines { w with console := w.console ++ [line].map .line } = w.errorLines ++ [line] := by
  simp [errorLines, log, List.filterMap_append, isError]

/-- A loader with a fixed answer for every path: while the files are `steady`, each fetch ends with the
answer for its path, leaves the files steady, and reports no error by itself. -/
structure Serves (loader : Registry.Loader) (answer : String → Except Failure Value)
    (steady : FileTree → Prop) : Prop where
  answers : ∀ path w, steady w.files → (loader path w).1 = answer path
  keeps : ∀ path w, steady w.files → steady (loader path w).2.files
  quiet : ∀ path w, steady w.files → (loader path w).2.errorLines = w.errorLines

/-- A loader from a table serves what the table lists, whatever the files are. -/
theorem serves_fromTable (table : List (String × Except Failure Value)) :
    Serves (Registry.fromTable table) (fun path => (table.lookup path).getD (.error (.unlisted path)))
      fun _ => True where
  answers path w _ := by
    unfold Registry.fromTable
    cases table.lookup path with
    | none => rfl
    | some payload => cases payload <;> rfl
  keeps _ _ _ := trivial
  quiet path w _ := by
    unfold Registry.fromTable
    cases table.lookup path with
    | none => rfl
    | some payload => cases payload <;> rfl

/-- Reading an asset file only asks about the files. -/
theorem isQuestion_readAsset (base : Option Path) (path : String) : Job.IsQuestion (readAsset base path) := by
  refine Job.IsQuestion.bind (Job.isQuestion_readDocument _) fun value => ?_
  split
  · exact Job.isQuestion_pure value
  · exact Job.isQuestion_throw _

/-- A loader from the files below a directory serves what they hold, while they stay as they are. -/
theorem serves_readAsset (base : Option Path) (t : FileTree) :
    Serves (readAsset base) (fun path => Job.answer (readAsset base path) t) (· = t) where
  answers path w same := by rw [isQuestion_readAsset base path w, same]
  keeps path w same := by rw [isQuestion_readAsset base path w, same]
  quiet path w _ := by rw [isQuestion_readAsset base path w]

/-! ## What a load cannot fail with -/

/-- A result that is no cancellation. -/
def NotCancelled {α : Type} (result : Except Failure α) : Prop := result ≠ .error .cancelled

theorem notCancelled_ok {α : Type} (a : α) : NotCancelled (.ok a : Except Failure α) := by
  rintro ⟨⟩

theorem NotCancelled.bind {α β : Type} {result : Except Failure α} {next : α → Except Failure β}
    (first : NotCancelled result) (second : ∀ a, NotCancelled (next a)) : NotCancelled (result >>= next) := by
  cases result with
  | ok a => exact second a
  | error e =>
    intro cancelled
    cases cancelled
    exact first rfl

theorem notCancelled_mapError_record {α : Type} (result : Except RecordError α) :
    NotCancelled (result.mapError .record) := by
  cases result <;> rintro ⟨⟩

theorem notCancelled_convertValue (kind : FieldKind) (value : Value) :
    NotCancelled (convertValue kind value) := by
  have widens (n : Int) : NotCancelled (widened n) := by
    unfold widened
    split <;> rintro ⟨⟩
  have finds (e : Enumeration) (value : Value) : NotCancelled (memberFor e value) := by
    unfold memberFor
    split
    · rintro ⟨⟩
    · split <;> rintro ⟨⟩
  unfold convertValue
  split
  · split
    · exact notCancelled_ok _
    · exact finds _ _
  · exact finds _ _
  · exact widens _
  · exact widens _
  · exact notCancelled_ok _

theorem notCancelled_convertEntries (t : RecordType) (entries : List (Value × Value)) :
    NotCancelled (convertEntries t entries) := by
  induction entries with
  | nil => exact notCancelled_ok _
  | cons entry rest inductionHypothesis =>
    obtain ⟨key, value⟩ := entry
    unfold convertEntries
    split
    · split
      · exact (notCancelled_convertValue _ _).bind fun converted =>
          inductionHypothesis.bind fun others => notCancelled_ok _
      · rintro ⟨⟩
    · split <;> rintro ⟨⟩

theorem notCancelled_buildRecord (t : ContainerType) (item : Value) : NotCancelled (t.buildRecord item) := by
  unfold ContainerType.buildRecord
  split
  · split
    · rintro ⟨⟩
    · exact (notCancelled_mapError_record _).bind fun _ =>
        (notCancelled_convertEntries _ _).bind fun given => notCancelled_mapError_record _
  · rintro ⟨⟩

theorem notCancelled_buildRecords (t : ContainerType) (items : List Value) :
    NotCancelled (t.buildRecords items) := by
  induction items with
  | nil => exact notCancelled_ok _
  | cons item rest inductionHypothesis =>
    exact (notCancelled_buildRecord t item).bind fun record =>
      inductionHypothesis.bind fun others => notCancelled_ok _

/-- An asset that does not fit its container is no cancellation. -/
theorem notCancelled_fromAsset (t : ContainerType) (payload : Value) : NotCancelled (t.fromAsset payload) := by
  have rest (items : List Value) : NotCancelled (do
      let records ← t.buildRecords items
      pure ({ typeName := t.name, records } : Container)) :=
    (notCancelled_buildRecords t items).bind fun records => notCancelled_ok _
  unfold ContainerType.fromAsset
  dsimp only
  split
  · split
    · exact (notCancelled_ok []).bind rest
    · split
      · exact (notCancelled_mapError_record _).bind rest
      · exact (notCancelled_ok []).bind rest
  · rintro ⟨⟩

namespace Accessor

theorem notCancelled_load (a : Accessor) (c : Container) : NotCancelled (a.load c).2 := by
  unfold load
  dsimp only
  split <;> rintro ⟨⟩

/-- A load is cancelled only by its fetch. -/
theorem notCancelled_loadFetched (a : Accessor) {fetched : Except Failure Value}
    (uncancelled : NotCancelled fetched) : NotCancelled (a.loadFetched fetched).2 := by
  cases fetched with
  | error e => exact fun cancelled => uncancelled (by rw [Except.error.inj cancelled])
  | ok payload =>
    show NotCancelled (a.loadAsset payload).2
    unfold loadAsset
    cases built : a.type.container.fromAsset payload with
    | error e => exact fun cancelled => notCancelled_fromAsset _ payload (by rw [built, Except.error.inj cancelled])
    | ok c => exact a.notCancelled_load c

theorem severity_of_mem_load (a : Accessor) (c : Container) : ∀ line ∈ (a.load c).1, line.severity = .warning := by
  have warns (keys : List Value) : ∀ line ∈ keys.map a.duplicateLine, line.severity = .warning := by
    intro line present
    obtain ⟨key, -, rfl⟩ := List.mem_map.mp present
    rfl
  unfold load
  dsimp only
  split <;> exact warns _

/-- A load itself writes nothing but warnings. -/
theorem severity_of_mem_loadFetched (a : Accessor) (fetched : Except Failure Value) :
    ∀ line ∈ (a.loadFetched fetched).1, line.severity = .warning := by
  cases fetched with
  | error e => simp [loadFetched]
  | ok payload =>
    show ∀ line ∈ (a.loadAsset payload).1, _
    unfold loadAsset
    split
    · simp
    · exact a.severity_of_mem_load _

/-- What a load of a fetched asset takes over when it succeeds. -/
theorem loadFetched_ok {a b : Accessor} {fetched : Except Failure Value}
    (loaded : (a.loadFetched fetched).2 = .ok b) :
    ∃ payload container, fetched = .ok payload ∧ a.type.container.fromAsset payload = .ok container ∧
      b = { a with container := container, index := (indexRecords {} container.records).index
                   duplicates := (indexRecords {} container.records).duplicates } := by
  cases fetched with
  | error e => cases loaded
  | ok payload =>
    rw [loadFetched, loadAsset] at loaded
    cases built : a.type.container.fromAsset payload with
    | error e =>
      rw [built] at loaded
      cases loaded
    | ok container =>
      rw [built] at loaded
      obtain ⟨-, taken, -⟩ := load_ok (Prod.ext (y := (_, _)) rfl loaded)
      exact ⟨payload, container, rfl, built, taken⟩

end Accessor

namespace Registry

/-- What comes of loading an accessor with the answer for its asset. -/
def settledBy (answer : String → Except Failure Value) (a : Accessor) : Settled :=
  match (a.loadFetched (answer a.type.assetPath)).2 with
  | .ok loaded => (loaded, none)
  | .error e => (a, some e)

/-- The accessors that the answers for their assets fail to load, in order of registration, with the
failures. -/
def failures (answer : String → Except Failure Value) (accessors : List Accessor) :
    List (Accessor × Failure) :=
  accessors.filterMap fun a =>
    match (a.loadFetched (answer a.type.assetPath)).2 with
    | .ok _ => none
    | .error e => some (a, e)

/-- The names of failed accessors. -/
def failedNames (failed : List (Accessor × Failure)) : List String :=
  failed.map fun entry => entry.1.type.name

/-- The error lines of failed accessors. -/
def failureLines (failed : List (Accessor × Failure)) : List LogLine :=
  failed.map fun entry => failureLine entry.1 entry.2

end Registry

open Registry

section

variable {loader : Loader} {answer : String → Except Failure Value} {steady : FileTree → Prop}

/-- The step: loading one accessor settles it by the answer for its asset, and reports nothing. -/
theorem Serves.loadOne (serves : Serves loader answer steady) (a : Accessor) {w : Workspace}
    (calm : steady w.files) :
    ∃ after, loadOne loader a w = (.ok (settledBy answer a), after) ∧ steady after.files ∧
      after.errorLines = w.errorLines := by
  have answered := serves.answers a.type.assetPath w calm
  have kept := serves.keeps a.type.assetPath w calm
  have quiet := serves.quiet a.type.assetPath w calm
  cases fetched : loader a.type.assetPath w with
  | mk payload middle =>
    rw [fetched] at answered kept quiet
    dsimp only at answered
    subst answered
    have warnings := a.severity_of_mem_loadFetched (answer a.type.assetPath)
    refine ⟨{ middle with
      console := middle.console ++ (a.loadFetched (answer a.type.assetPath)).1.map .line }, ?_, kept, ?_⟩
    · rw [Registry.loadOne, Job.run_bind, Job.run_attempt, fetched, settledBy]
      dsimp only
      cases a.loadFetched (answer a.type.assetPath) with
      | mk lines outcome => cases outcome <;> rfl
    · rw [Workspace.errorLines_append_of_not_error _ _ fun line present => by
        rw [warnings line present]
        decide]
      exact quiet

/-- The run: when some fetches complete, in any order, exactly the accessors at their places are
settled. -/
theorem Serves.settle (serves : Serves loader answer steady) (order : List Nat) (once : order.Nodup)
    (all : List Settled) {w : Workspace} (calm : steady w.files) :
    ∃ done after, settle loader order all w = (.ok done, after) ∧ steady after.files ∧
      after.errorLines = w.errorLines ∧
      ∀ place, done[place]? = if place ∈ order then all[place]?.map fun entry => settledBy answer entry.1
        else all[place]? := by
  induction order generalizing all w with
  | nil => exact ⟨all, w, rfl, calm, rfl, by simp⟩
  | cons place rest inductionHypothesis =>
    obtain ⟨fresh, once⟩ := List.nodup_cons.mp once
    cases found : all[place]? with
    | none =>
      obtain ⟨done, after, ran, calm, quiet, settled⟩ := inductionHypothesis once all calm
      refine ⟨done, after, by simp only [Registry.settle, found, ran], calm, quiet, fun other => ?_⟩
      rw [settled other]
      by_cases here : other = place
      · subst here
        simp [found]
      · simp [here]
    | some entry =>
      obtain ⟨a, failure⟩ := entry
      obtain ⟨middle, first, calm, quietFirst⟩ := serves.loadOne a calm
      obtain ⟨done, after, ran, calm, quiet, settled⟩ :=
        inductionHypothesis once (all.set place (settledBy answer a)) calm
      refine ⟨done, after, ?_, calm, quiet.trans quietFirst, fun other => ?_⟩
      · simp only [Registry.settle, found, Job.run_bind, first, ran]
      · rw [settled other, List.getElem?_set]
        by_cases here : place = other
        · subst here
          have inside := (List.getElem?_eq_some_iff.mp found).1
          rw [if_neg fresh, if_pos rfl, if_pos inside, if_pos List.mem_cons_self, found]
          rfl
        · simp [here, Ne.symm here]

/-- When every fetch has completed, every accessor is settled. -/
theorem Serves.settle_all (serves : Serves loader answer steady) (accessors : List Accessor)
    {order : List Nat} (complete : order.Perm (List.range accessors.length)) {w : Workspace}
    (calm : steady w.files) :
    ∃ after, Registry.settle loader order (accessors.map fun a => (a, none)) w =
        (.ok (accessors.map (settledBy answer)), after) ∧
      steady after.files ∧ after.errorLines = w.errorLines := by
  have once : order.Nodup := complete.nodup_iff.mpr List.nodup_range
  obtain ⟨done, after, ran, calm, quiet, settled⟩ :=
    serves.settle order once (accessors.map fun a => (a, none)) calm
  have whole : done = accessors.map (settledBy answer) := by
    refine List.ext_getElem? fun place => ?_
    have held : place ∈ order ↔ place < accessors.length := by rw [complete.mem_iff, List.mem_range]
    rw [settled place]
    by_cases inside : place < accessors.length
    · simp [held.mpr inside, Function.comp_def]
    · simp [List.getElem?_eq_none (Nat.le_of_not_lt inside)]
  exact ⟨after, whole ▸ ran, calm, quiet⟩

end

section

variable {answer : String → Except Failure Value} {accessors : List Accessor}

/-- What the settled accessors say about the failures, when none is a cancellation. -/
theorem report_settled (uncancelled : ∀ a ∈ accessors, NotCancelled (answer a.type.assetPath))
    (w : Workspace) :
    ∃ after, report (accessors.map (settledBy answer)) w =
        (.ok (.ok (failedNames (failures answer accessors))), after) ∧
      after.errorLines = w.errorLines ++ failureLines (failures answer accessors) := by
  induction accessors generalizing w with
  | nil => exact ⟨w, rfl, (List.append_nil _).symm⟩
  | cons a rest inductionHypothesis =>
    have others := inductionHypothesis fun b present => uncancelled b (List.mem_cons_of_mem a present)
    have kept := a.notCancelled_loadFetched (uncancelled a List.mem_cons_self)
    rw [List.map_cons, settledBy, failures, List.filterMap_cons]
    cases outcome : (a.loadFetched (answer a.type.assetPath)).2 with
    | ok loaded => exact others w
    | error e =>
      have other : e ≠ .cancelled := fun cancelled => kept (by rw [outcome, cancelled])
      obtain ⟨after, ran, reported⟩ :=
        others { w with console := w.console ++ [failureLine a e].map .line }
      refine ⟨after, ?_, ?_⟩
      · rw [report]
        · rw [Job.run_bind, Job.run_logAll]
          dsimp only
          rw [Job.run_bind, ran]
          rfl
        · exact other
      · rw [reported, Workspace.errorLines_append_error _ _ rfl, failureLines, failureLines, List.map_cons,
          List.append_assoc]
        rfl

/-- An accessor that fails without being cancelled is reported, and the others are loaded. -/
theorem loadEach_cons_of_failed {loader : Loader} {a : Accessor} {e : Failure} {w middle : Workspace}
    (rest : List Accessor) (failed : loadOne loader a w = (.ok (a, some e), middle)) (other : e ≠ .cancelled) :
    loadEach loader (a :: rest) w = (do
      Job.logAll [failureLine a e]
      let others ← loadEach loader rest
      pure ⟨a :: others.accessors, others.outcome.map (a.type.name :: ·)⟩ : Job Loaded) middle := by
  rw [loadEach, Job.run_bind, failed]
  cases e with
  | cancelled => exact absurd rfl other
  | _ => rfl

/-- What loading one accessor after another leaves, when no fetch is cancelled. -/
theorem Serves.loadEach {loader : Loader} {steady : FileTree → Prop} (serves : Serves loader answer steady)
    (uncancelled : ∀ a ∈ accessors, NotCancelled (answer a.type.assetPath)) {w : Workspace}
    (calm : steady w.files) :
    ∃ after, Registry.loadEach loader accessors w =
        (.ok ⟨accessors.map fun a => (settledBy answer a).1,
          .ok (failedNames (failures answer accessors))⟩, after) ∧
      after.errorLines = w.errorLines ++ failureLines (failures answer accessors) := by
  induction accessors generalizing w with
  | nil => exact ⟨w, rfl, (List.append_nil _).symm⟩
  | cons a rest inductionHypothesis =>
    have others {w : Workspace} (calm : steady w.files) :=
      inductionHypothesis (fun b present => uncancelled b (List.mem_cons_of_mem a present)) calm
    have kept := a.notCancelled_loadFetched (uncancelled a List.mem_cons_self)
    obtain ⟨middle, first, calmMiddle, quiet⟩ := serves.loadOne a calm
    rw [settledBy] at first
    rw [List.map_cons, settledBy, failures, List.filterMap_cons]
    cases outcome : (a.loadFetched (answer a.type.assetPath)).2 with
    | ok loaded =>
      rw [outcome] at first
      obtain ⟨after, ran, reported⟩ := others calmMiddle
      refine ⟨after, ?_, by rw [reported, quiet]; rfl⟩
      rw [Registry.loadEach, Job.run_bind, first]
      dsimp only
      rw [Job.run_bind, ran]
      rfl
    | error e =>
      rw [outcome] at first
      have other : e ≠ .cancelled := fun cancelled => kept (by rw [outcome, cancelled])
      obtain ⟨after, ran, reported⟩ :=
        @others { middle with console := middle.console ++ [failureLine a e].map .line } calmMiddle
      refine ⟨after, ?_, ?_⟩
      · rw [loadEach_cons_of_failed rest first other, Job.run_bind, Job.run_logAll]
        dsimp only
        rw [Job.run_bind, ran]
        rfl
      · rw [reported, Workspace.errorLines_append_error _ _ rfl, quiet, failureLines, failureLines, List.map_cons,
          List.append_assoc]
        rfl

end

/-- Loading one after another and loading concurrently agree, in whatever order the fetches complete.
Given two loaders with the same answers, none of which is a cancellation: both loads end, with the same
accessors, the same names of failed ones in order of registration, and the same error lines in that
order. An accessor whose fetch or conversion failed is as before; every other one holds the container
of its asset, with the index and the repeated keys of its records. -/
theorem loadAllAsync_agrees {loader concurrent : Loader} {answer : String → Except Failure Value}
    {steady undisturbed : FileTree → Prop} (serves : Serves loader answer steady)
    (servesConcurrently : Serves concurrent answer undisturbed) (r : Registry)
    (uncancelled : ∀ a ∈ r.accessors, answer a.type.assetPath ≠ .error .cancelled) (w : Workspace)
    (calm : steady w.files) (calmConcurrently : undisturbed w.files) (order : List Nat)
    (complete : order.Perm (List.range r.accessors.length)) :
    ∃ (done : Registry) (after afterConcurrent : Workspace),
      r.loadAll loader w = (.ok (done, .ok (failedNames (failures answer r.accessors))), after) ∧
      r.loadAllAsync concurrent order w =
        (.ok (done, .ok (failedNames (failures answer r.accessors))), afterConcurrent) ∧
      after.errorLines = w.errorLines ++ failureLines (failures answer r.accessors) ∧
      afterConcurrent.errorLines = after.errorLines ∧
      done.accessors.length = r.accessors.length ∧
      ∀ (place : Nat) (a : Accessor), r.accessors[place]? = some a →
        (∀ e, (a.loadFetched (answer a.type.assetPath)).2 = .error e → done.accessors[place]? = some a) ∧
        ∀ b, (a.loadFetched (answer a.type.assetPath)).2 = .ok b →
          done.accessors[place]? = some b ∧
          ∃ payload container, answer a.type.assetPath = .ok payload ∧
            a.type.container.fromAsset payload = .ok container ∧
            b = { a with container := container, index := (indexRecords {} container.records).index
                         duplicates := (indexRecords {} container.records).duplicates } := by
  obtain ⟨after, ran, reported⟩ := serves.loadEach uncancelled calm
  obtain ⟨middle, settled, -, quiet⟩ := servesConcurrently.settle_all r.accessors complete calmConcurrently
  obtain ⟨afterConcurrent, concluded, reportedConcurrently⟩ := report_settled uncancelled middle
  refine ⟨{ accessors := r.accessors.map fun a => (settledBy answer a).1 }, after,
    afterConcurrent, ?_, ?_, reported, ?_, List.length_map _, ?_⟩
  · rw [loadAll, Job.run_bind, ran]
    rfl
  · rw [loadAllAsync, Job.run_bind, settled]
    dsimp only
    rw [Job.run_bind, concluded, List.map_map]
    rfl
  · rw [reportedConcurrently, quiet, reported]
  intro place a found
  have kept : (r.accessors.map fun a => (settledBy answer a).1)[place]? = some (settledBy answer a).1 := by
    rw [List.getElem?_map, found]
    rfl
  refine ⟨fun e refused => ?_, fun b loaded => ⟨?_, Accessor.loadFetched_ok loaded⟩⟩
  · rw [kept, settledBy, refused]
  · rw [kept, settledBy, loaded]

/-- The items, the kinds and the names of a game. -/
def gameAccess : List AccessorType :=
  [itemAccess,
   { identity := 1, className := "KindDAO", name := "Kind", assetPath := "Kind.asset"
     container := { name := "KindDTO", record := none } },
   { identity := 2, className := "NameDAO", name := "Name", assetPath := "Name.asset"
     container := { name := "NameDTO", record := none } }]

/-- The asset of the items is missing, that of the kinds holds no mapping, and that of the names lists
nothing. -/
def gameAssets : List (String × Except Failure Value) :=
  [("Item.asset", .error (.fetch "no such asset")), ("Kind.asset", .ok (.int 7)),
   ("Name.asset", .ok (.map []))]

/-- The fetches complete from the last to the first; the two failures are reported from the first to
the last. -/
theorem loadAllAsync_agrees_backwards :
    ∃ (done : Registry) (after afterConcurrent : Workspace),
      Registry.loadAll { accessors := gameAccess.map AccessorType.new } (fromTable gameAssets) {} =
        (.ok (done, .ok ["Item", "Kind"]), after) ∧
      Registry.loadAllAsync { accessors := gameAccess.map AccessorType.new } (fromTable gameAssets) [2, 1, 0] {} =
        (.ok (done, .ok ["Item", "Kind"]), afterConcurrent) ∧
      after.errorLines =
        [⟨.error, "failed to load Item from Item.asset: no such asset"⟩,
         ⟨.error, "failed to load Kind from Kind.asset: asset payload must be a mapping, got int"⟩] ∧
      afterConcurrent.errorLines = after.errorLines := by
  have serves := serves_fromTable gameAssets
  have uncancelled : ∀ a ∈ gameAccess.map AccessorType.new,
      (gameAssets.lookup a.type.assetPath).getD (.error (.unlisted a.type.assetPath)) ≠ .error .cancelled := by
    intro a present
    obtain ⟨t, listed, rfl⟩ := List.mem_map.mp present
    simp only [gameAccess, List.mem_cons, List.not_mem_nil, or_false] at listed
    rcases listed with rfl | rfl | rfl <;> rintro ⟨⟩
  obtain ⟨done, after, afterConcurrent, ran, ranConcurrently, reported, same, -⟩ :=
    loadAllAsync_agrees serves serves { accessors := gameAccess.map AccessorType.new } uncancelled {} trivial trivial
      [2, 1, 0] (by decide)
  exact ⟨done, after, afterConcurrent, ran, ranConcurrently, reported, same⟩

end TypedSheets
