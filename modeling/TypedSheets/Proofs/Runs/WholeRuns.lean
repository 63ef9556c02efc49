import TypedSheets.Proofs.Runs.ExportedFiles
import TypedSheets.Proofs.Runs.SecondRuns

/-!
# What a whole run comes to

A run sees to its schema files one after another. As what it writes leaves schema files alone, each of
them becomes what it would by itself, and what was written for all of them, with the entries that are
lost, tells what has become of the files. The log is written last, and to a place of its own.
-/

namespace TypedSheets.Run

open TypedSheets.Emission TypedSheets.Grid TypedSheets.Schema TypedSheets.Text FileTree

/-- The result of a schema file of a tree, with the entries that are lost. -/
def Becomes (t : FileTree)
    (becomes : Path → Except Unopened Workbook → List Written → FileResult → Prop) (p : Path)
    (seen : FileResult × List Written) : Prop :=
  ∃ opened, opening t p = .ok opened ∧ becomes p opened seen.2 seen.1

/-- The entries of a schema file in the order of time. -/
def chronicle (seen : FileResult × List Written) : List Written := seen.1.outcome.chronicle seen.2

/-- Each of the files of a run becomes what it would in the first tree. -/
theorem becomes_of_eachFile {t : FileTree} {work : Path → Job FileResult}
    {becomes : Path → Except Unopened Workbook → List Written → FileResult → Prop} {paths : List Path}
    (same : ∀ p ∈ paths, ∀ u, Grows t u → SchemaFile.reading u p = SchemaFile.reading t p)
    (each : ∀ p ∈ paths, ∀ before result after, Grows t before.files →
      work p before = (.ok result, after) → ∃ opened lost, opening before.files p = .ok opened ∧
        becomes p opened lost result ∧ Touches (result.outcome.chronicle lost) before.files after.files)
    {before after : Workspace} {results : List FileResult} (grows : Grows t before.files)
    (ran : eachFile work paths before = (.ok results, after)) :
    ∃ seen : List (FileResult × List Written), results = seen.map Prod.fst ∧
      List.Forall₂ (Becomes t becomes) paths seen ∧
      Touches (seen.flatMap chronicle) before.files after.files := by
  induction paths generalizing before results with
  | nil =>
    cases ran
    exact ⟨[], rfl, .nil, .refl _⟩
  | cons p rest inductionHypothesis =>
    obtain ⟨first, middle, own, ran⟩ := Job.bind_ok ran
    obtain ⟨others, last, later, ended⟩ := Job.bind_ok ran
    cases ended
    obtain ⟨opened, lost, opens, becomes, early⟩ := each p List.mem_cons_self before first middle grows own
    rw [opening_congr (same p List.mem_cons_self before.files grows)] at opens
    obtain ⟨seen, rfl, further, late⟩ := inductionHypothesis
      (fun q member => same q (List.mem_cons_of_mem p member))
      (fun q member => each q (List.mem_cons_of_mem p member)) (grows.trans early.grows) later
    exact ⟨(first, lost) :: seen, rfl, .cons ⟨opened, opens, becomes⟩ further, early.trans late⟩

section Ends

variable {β : Type} {clock : Clock} {source logs : Path} {greeting : List Path → String}
  {work : List Path → Job β} {records : β → List ErrorRecord} {before after : Workspace}

/-- A run that ends with a result has done its work and written its log. -/
theorem wholeRun_ok {b : β}
    (ran : wholeRun clock source logs greeting work records before = (.ok b, after)) :
    ∃ paths logged worked, SchemaFile.scanning before.files source = .ok paths ∧
      logged.files = before.files ∧ work paths logged = (.ok b, worked) ∧
      flush clock logs (records b) worked = (.ok (), after) := by
  obtain ⟨paths, _, scan, ran⟩ := Job.bind_ok ran
  rw [SchemaFile.run_scanSource] at scan
  obtain ⟨scanned, rfl⟩ := Prod.mk.inj scan
  obtain ⟨_, logged, logging, ran⟩ := Job.bind_ok ran
  obtain ⟨_, worked, works, ran⟩ := Job.bind_ok ran
  obtain ⟨_, _, flushing, ended⟩ := Job.bind_ok ran
  cases ended
  exact ⟨paths, logged, worked, scanned, (Job.keepsFiles_log _ _).eq logging, works, flushing⟩

/-- One that fails after its scan has failed in its work or in its flush. -/
theorem wholeRun_error {paths : List Path} {e : Failure}
    (scanned : SchemaFile.scanning before.files source = .ok paths)
    (ran : wholeRun clock source logs greeting work records before = (.error e, after)) :
    ∃ logged, logged.files = before.files ∧ (work paths logged = (.error e, after) ∨
      ∃ b worked, flush clock logs (records b) worked = (.error e, after)) := by
  rw [wholeRun, Job.run_bind, SchemaFile.run_scanSource, scanned] at ran
  rcases Job.bind_error ran with failed | ⟨_, logged, logging, ran⟩
  · cases failed
  · refine ⟨logged, (Job.keepsFiles_log _ _).eq logging, ?_⟩
    rcases Job.bind_error ran with failed | ⟨b, worked, -, ran⟩
    · exact .inl failed
    · rcases Job.bind_error ran with failed | ⟨_, _, -, ended⟩
      · exact .inr ⟨b, worked, failed⟩
      · cases ended

end Ends

section Places

variable {clock : Clock} {target : Destination} {root p : Path} {t : FileTree}
  {seen : FileResult × List Written}

/-- The modules of sheets that were seen to lie where they are named. -/
theorem paths_of_sheetsSeen {schema : String}
    {outcomes : List (String × Except ShapeError Description)} {sheets : List SheetOutcome}
    (seen : List.Forall₂ (SheetSeen target schema) outcomes sheets) :
    (sheets.flatMap SheetOutcome.artifacts).map Written.path =
      ((described outcomes).flatMap sheetModules).map (GeneratedModule.path target) := by
  induction seen with
  | nil => rfl
  | cons first _ inductionHypothesis =>
    rw [List.flatMap_cons, List.map_append, inductionHypothesis]
    cases first with
    | refused sheet e => rfl
    | written sheet d artifacts paths =>
      rw [paths]
      exact List.map_append.symm

/-- What was written for a schema file lies where the modules of its workbook do. -/
theorem places_of_generates (becomes : Becomes t (Generates clock target) p seen) :
    ((chronicle seen).map Written.path).Sublist (modulesAt target (workbookAt? t p)) := by
  obtain ⟨opened, opens, becomes⟩ := becomes
  obtain ⟨result, lost⟩ := seen
  cases becomes with
  | unopened u => exact List.nil_sublist _
  | finished w sheets shared seen paths =>
    rw [workbookAt?_eq_some.mpr opens, modulesAt, fileModules, ← described_verdicts]
    change ((sheets.flatMap SheetOutcome.artifacts ++ shared ++ []).map Written.path).Sublist _
    rw [List.append_nil, List.map_append, paths_of_sheetsSeen seen, paths, ← List.map_append]
    exact ((sharedModules_sublist w).append_left _).map _
  | givenUp w early late sheets lost e split seen few paths system =>
    rw [workbookAt?_eq_some.mpr opens, modulesAt, fileModules, ← described_verdicts, split]
    change ((sheets.flatMap SheetOutcome.artifacts ++ [] ++ lost).map Written.path).Sublist _
    have split : described (early ++ late) = described early ++ described late := List.filterMap_append
    rw [List.append_nil, List.map_append, paths_of_sheetsSeen seen, split, List.flatMap_append,
      List.append_assoc, List.map_append]
    exact paths.append_left _

/-- The assets of exported sheets lie where they are named. -/
theorem paths_of_sheetsExported {w : Workbook} {all : List Sheet} {sheets : List SheetOutcome}
    (seen : List.Forall₂ (SheetExported root w) all sheets) :
    ((sheets.flatMap SheetOutcome.artifacts).map Written.path).Sublist
      ((all.filterMap fun s => (interpretIn w.name (collectEnums w) s).toOption).map
        fun d => assetPath root d.schema d.sheet) := by
  induction seen with
  | nil => exact .slnil
  | @cons s outcome _ _ first _ inductionHypothesis =>
    rw [List.flatMap_cons, List.map_append]
    cases first with
    | refused e verdict =>
      rw [List.filterMap_cons_none (by rw [verdict]; rfl)]
      exact inductionHypothesis
    | stopped d i verdict cell =>
      rw [List.filterMap_cons_some (by rw [verdict]; rfl)]
      exact inductionHypothesis.cons _
    | written d records artifact verdict built path =>
      have accepts := (accepts_of_interpretIn verdict).1
      rw [← accepts.file, ← accepts.named] at path
      rw [List.filterMap_cons_some (by rw [verdict]; rfl)]
      dsimp only
      rw [List.map_singleton, List.map_cons, path]
      exact inductionHypothesis.cons_cons _

/-- What was written for a schema file lies where the assets of its workbook do. -/
theorem places_of_exportsTo (becomes : Becomes t (ExportsTo clock root) p seen) :
    ((chronicle seen).map Written.path).Sublist (assetsAt root (workbookAt? t p)) := by
  obtain ⟨opened, opens, becomes⟩ := becomes
  obtain ⟨result, lost⟩ := seen
  cases becomes with
  | unopened u => exact List.nil_sublist _
  | finished w sheets seen =>
    rw [workbookAt?_eq_some.mpr opens, assetsAt, accepted, interpretSheets, List.filterMap_map]
    change ((sheets.flatMap SheetOutcome.artifacts ++ [] ++ []).map Written.path).Sublist _
    rw [List.append_nil, List.append_nil]
    exact paths_of_sheetsExported seen
  | givenUp w lost e few paths system =>
    rw [workbookAt?_eq_some.mpr opens]
    exact paths

/-- What was written for some schema files lies at places of theirs. -/
theorem sublist_of_becomes {becomes : Path → Except Unopened Workbook → List Written → FileResult → Prop}
    {places : Path → List Path} {paths : List Path} {all : List (FileResult × List Written)}
    (each : List.Forall₂ (Becomes t becomes) paths all)
    (own : ∀ p seen, Becomes t becomes p seen →
      ((chronicle seen).map Written.path).Sublist (places p)) :
    ((all.flatMap chronicle).map Written.path).Sublist (paths.flatMap places) := by
  induction each with
  | nil => exact .slnil
  | cons first _ inductionHypothesis =>
    rw [List.flatMap_cons, List.map_append, List.flatMap_cons]
    exact (own _ _ first).append inductionHypothesis

end Places

section Files

variable {t : FileTree} {source root : Path} {paths : List Path} {clock : Clock} {target : Destination}
  {before after : Workspace}

/-- The schema files of a run that generates modules. -/
theorem generates_of_eachFile (found : Found t source paths) (split : IsSplit target.codeRoot)
    {results : List FileResult} (begins : before.files = t)
    (ran : eachFile (generateFile clock target) paths before = (.ok results, after)) :
    ∃ seen : List (FileResult × List Written), results = seen.map Prod.fst ∧
      List.Forall₂ (Becomes t (Generates clock target)) paths seen ∧
      Touches (seen.flatMap chronicle) t after.files := by
  subst begins
  refine becomes_of_eachFile found.same ?_ (.refl _) ran
  intro p member middle result last grows own
  apply generates_of_generateFile split _ own
  intro w opened
  rw [workbookAt?_congr (found.same p member middle.files grows)] at opened
  exact found.distinct p member w opened

/-- The schema files of a run that exports. -/
theorem exportsTo_of_eachFile (found : Found t source paths) (split : IsSplit root)
    {results : List FileResult} (begins : before.files = t)
    (ran : eachFile (exportFile clock root) paths before = (.ok results, after)) :
    ∃ seen : List (FileResult × List Written), results = seen.map Prod.fst ∧
      List.Forall₂ (Becomes t (ExportsTo clock root)) paths seen ∧
      Touches (seen.flatMap chronicle) t after.files := by
  subst begins
  refine becomes_of_eachFile found.same ?_ (.refl _) ran
  intro p member middle result last grows own
  apply exportsTo_of_exportFile split _ own
  intro w opened
  rw [workbookAt?_congr (found.same p member middle.files grows)] at opened
  exact found.distinct p member w opened

/-- The part of a run that generates modules, when it ends with a result: all that was written, in the
order of time, lies where the modules of the workbooks do. -/
theorem generates_of_generateAll (found : Found t source paths) (split : IsSplit target.codeRoot)
    {files : List FileResult} {shared : List Written} (begins : before.files = t)
    (ran : generateAll clock target paths before = (.ok (files, shared), after)) :
    ∃ seen : List (FileResult × List Written), files = seen.map Prod.fst ∧
      List.Forall₂ (Becomes t (Generates clock target)) paths seen ∧
      Touches (seen.flatMap chronicle ++ shared) t after.files ∧
      ((seen.flatMap chronicle ++ shared).map Written.path).Sublist (modulePlaces target t paths) ∧
      shared.map Written.path = if (files.flatMap FileResult.entries).isEmpty then []
        else [GeneratedModule.registry.path target] := by
  obtain ⟨results, between, each, rest⟩ := Job.bind_ok ran
  obtain ⟨_, registered, registry, ended⟩ := Job.bind_ok rest
  cases ended
  obtain ⟨seen, same, becomes, touches⟩ := generates_of_eachFile found split begins each
  obtain ⟨shared, last, rfl, path⟩ := touches_of_writeRegistry split registry
  refine ⟨seen, same, becomes, touches.trans last, ?_, path⟩
  rw [List.map_append, modulePlaces, path]
  refine (sublist_of_becomes becomes fun p seen => places_of_generates).append ?_
  split_ifs
  · exact List.nil_sublist _
  · exact .refl _

end Files

end TypedSheets.Run
