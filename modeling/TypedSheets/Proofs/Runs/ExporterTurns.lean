import TypedSheets.Proofs.Runs.Interruptions
import TypedSheets.Proofs.Runtime.ConcurrentLoads
import TypedSheets.SchemaExporter

/-!
# Exporters in turn

The exporters that are generated for schema files have their turns one after another. Each exports its own
file as it would by itself: what the others write are no schema files, so that a file that could be read at
the beginning is read as the same workbook, and its assets get the same content. But an exporter that fails
ends the run, and one that cannot read its file fails. `exportAll_in_turn` says which exporters have their
turns and why the next one has none; `exportAll_unreadable_first` is a run in which a file that can be read
is not exported.
-/

namespace TypedSheets

open TypedSheets.Emission TypedSheets.Grid TypedSheets.Run TypedSheets.Schema TypedSheets.Text FileTree

section Workbooks

variable {w : Workbook} {root : Path} {selection : Option (List String)} {before after : Workspace}

/-- The export of a workbook makes the files grow. -/
theorem grows_of_exportWorkbook (identifier : isIdentifier w.name = true) (split : IsSplit root)
    {outcome : Except Failure WorkbookExport}
    (ran : exportWorkbook w root selection before = (outcome, after)) : Grows before.files after.files := by
  obtain ⟨exported, sheets, -⟩ := exportSheets_of_exportWorkbook ran
  obtain ⟨_, touches, -⟩ := touches_of_exportSheets (fun d member => by
    obtain ⟨-, schema, sheet⟩ := named_of_accepted_of_name identifier (List.mem_filter.mp member).1
    exact isProduct_assetPath split schema sheet) sheets
  exact touches.grows

/-- The outcome of an accepted sheet has its name. -/
theorem Run.AssetSeen.sheet_eq {d : Description} {o : SheetOutcome} (seen : AssetSeen root d o) :
    o.sheet = d.sheet := by
  cases seen <;> rfl

/-- Only sheets that are selected succeed. -/
theorem isSelected_of_succeeded (identifier : isIdentifier w.name = true) (split : IsSplit root)
    {result : WorkbookExport} (ran : exportWorkbook w root selection before = (.ok result, after))
    {o : SheetOutcome} (member : o ∈ result.sheets) (succeeded : o.succeeded = true) :
    isSelected selection o.sheet = true := by
  obtain ⟨exported, sheets, rfl⟩ := exportWorkbook_ok ran
  obtain ⟨-, seen⟩ := sheetsEnd_of_exportSheets identifier split
    (fun d member => (List.mem_filter.mp member).1) sheets
  obtain ⟨e, present, rfl⟩ := List.mem_map.mp member
  rw [List.mem_mergeSort, List.mem_append, List.mem_append] at present
  rcases present with (stopped | inside) | absent
  · obtain ⟨_, -, rfl⟩ := List.mem_map.mp stopped
    cases succeeded
  · obtain ⟨d, chosen, outcome⟩ := exists_of_forall₂ seen (List.mem_map_of_mem inside)
    rw [outcome.sheet_eq]
    exact (List.mem_filter.mp chosen).2
  · obtain ⟨_, -, rfl⟩ := List.mem_map.mp absent
    cases succeeded

section Assets

variable {t u : FileTree} {result : WorkbookExport} {sheet : String} {d : Description} {records : List Entries}

/-- The asset of a selected sheet that yields records holds them. -/
theorem IsolatedExport.read_eq_ok (isolated : IsolatedExport w root selection t u result)
    (member : sheet ∈ w.sheetNames.filter (isSelected selection)) (yields : Yields w sheet d records) :
    ∃ text, (sheetAsset sheet records).text = .ok text ∧
      u.read (assetPath root w.name sheet) = .ok (.bytes (encodeUtf8 text)) := by
  obtain ⟨own, -, outcomes⟩ := isolated.outcomes
  obtain ⟨o, -, outcome⟩ := exists_of_forall₂ outcomes.flip member
  obtain ⟨-, artifact, text, -, path, content, held⟩ := outcome.written d records yields
  rw [path] at held
  exact ⟨text, content, held⟩

/-- So two exports of a workbook leave the same assets, whatever was there before. -/
theorem IsolatedExport.read_eq {v z : FileTree} {other : WorkbookExport}
    (first : IsolatedExport w root selection t u result) (second : IsolatedExport w root selection v z other)
    (member : sheet ∈ w.sheetNames.filter (isSelected selection)) (yields : Yields w sheet d records) :
    u.read (assetPath root w.name sheet) = z.read (assetPath root w.name sheet) := by
  obtain ⟨text, content, held⟩ := first.read_eq_ok member yields
  obtain ⟨again, contentAgain, heldAgain⟩ := second.read_eq_ok member yields
  rw [content] at contentAgain
  rw [held, heldAgain, Except.ok.inj contentAgain]

end Assets

end Workbooks

namespace SchemaExporter

variable {x : SchemaExporter}

/-- An exporter as one is generated: it is bound to a schema file whose stem is an identifier, and to a root
of assets. -/
structure IsGenerated (x : SchemaExporter) : Prop where
  source : ∃ directory file, x.source = (Path.ofText directory).child file ∧ '/' ∉ file.toList ∧
    SchemaFile.isName file = true
  schema : x.schema = x.source.stem
  identifier : isIdentifier x.schema = true
  root : ∃ asset, x.assetRoot = (Path.ofText asset).child rootDirectory

theorem IsGenerated.ending (generated : IsGenerated x) :
    ∃ name, x.source.parts.getLast? = some name ∧ SchemaFile.isName name = true := by
  obtain ⟨directory, file, source, noSlash, isName⟩ := generated.source
  refine ⟨file, ?_, isName⟩
  rw [source, child_eq_below _ (SchemaFile.isComponent_of_isName noSlash isName), Path.below,
    List.getLast?_concat]

/-- A file that can be read is read as the same workbook later on. -/
theorem IsGenerated.reading_eq (generated : IsGenerated x) {t u : FileTree} (grows : Grows t u)
    {w : Workbook} (red : SchemaFile.reading t x.source = .ok (.ok w)) :
    SchemaFile.reading u x.source = .ok (.ok w) := by
  obtain ⟨name, ending, isName⟩ := generated.ending
  obtain ⟨-, content, held, -⟩ := SchemaFile.reading_eq_ok red
  rw [SchemaFile.reading_of_grows ending isName held grows, red]

theorem IsGenerated.split (generated : IsGenerated x) : IsSplit x.assetRoot := by
  obtain ⟨asset, root⟩ := generated.root
  rw [root]
  exact isSplit_root asset

theorem IsGenerated.workbook (generated : IsGenerated x) {t : FileTree} {w : Workbook}
    (red : SchemaFile.reading t x.source = .ok (.ok w)) : isIdentifier w.name = true := by
  rw [SchemaFile.name_of_reading red, ← generated.schema]
  exact generated.identifier

/-- The sheets that an exporter exports. -/
def selection (x : SchemaExporter) : Option (List String) := some (x.containers.map Prod.fst)

/-- Each of these has a container type. -/
theorem exists_container {sheet : String} (selected : isSelected x.selection sheet = true) :
    ∃ t, x.containers.lookup sheet = some t := by
  rw [selection, isSelected, Option.all_some, List.contains_iff_mem] at selected
  obtain ⟨entry, member, rfl⟩ := List.mem_map.mp selected
  rw [← Option.ne_none_iff_exists', Ne, List.lookup_eq_none_iff]
  exact fun absent => absurd (absent entry member) (by simp)

theorem isQuestion_readBack (t : ContainerType) (artifacts : List Written) :
    Job.IsQuestion (readBack t artifacts) := by
  induction artifacts with
  | nil => exact Job.isQuestion_pure ()
  | cons written rest inductionHypothesis =>
    exact (isQuestion_readAsset none _).bind fun payload =>
      (Job.isQuestion_ofExcept id _).bind fun _ => inductionHypothesis

/-- The outcome of a sheet after its assets are read back. -/
def checked (x : SchemaExporter) (files : FileTree) (o : SheetOutcome) : SheetOutcome :=
  match o.error, x.containers.lookup o.sheet with
  | none, some t =>
    match Job.answer (readBack t o.artifacts) files with
    | .ok _ => o
    | .error e => { o with error := some (staleText t e) }
  | _, _ => o

/-- A check only adds a failure. -/
theorem kept_checked (x : SchemaExporter) (files : FileTree) (o : SheetOutcome) :
    (x.checked files o).schema = o.schema ∧ (x.checked files o).sheet = o.sheet ∧
      (x.checked files o).artifacts = o.artifacts := by
  unfold checked
  split
  · split <;> exact ⟨rfl, rfl, rfl⟩
  · exact ⟨rfl, rfl, rfl⟩

/-- The check of a sheet that has a container type ends with a result and leaves the files alone. -/
theorem run_verify {o : SheetOutcome} (bound : o.succeeded = true → ∃ t, x.containers.lookup o.sheet = some t)
    (before : Workspace) :
    ∃ after, x.verify o before = (.ok (x.checked before.files o), after) ∧ after.files = before.files := by
  unfold verify checked
  cases failed : o.error with
  | some text => exact ⟨_, rfl, rfl⟩
  | none =>
    obtain ⟨t, found⟩ := bound (by rw [SheetOutcome.succeeded, failed]; rfl)
    dsimp only
    rw [found]
    dsimp only
    rw [Job.run_bind, Job.run_attempt, isQuestion_readBack t o.artifacts before]
    cases Job.answer (readBack t o.artifacts) before.files with
    | ok _ => exact ⟨_, rfl, rfl⟩
    | error e => exact ⟨_, rfl, rfl⟩

/-- So do the checks of several. -/
theorem run_verifyAll {sheets : List SheetOutcome}
    (bound : ∀ o ∈ sheets, o.succeeded = true → ∃ t, x.containers.lookup o.sheet = some t)
    (before : Workspace) :
    ∃ after, x.verifyAll sheets before = (.ok (sheets.map (x.checked before.files)), after) ∧
      after.files = before.files := by
  induction sheets generalizing before with
  | nil => exact ⟨before, rfl, rfl⟩
  | cons o rest inductionHypothesis =>
    obtain ⟨first, further⟩ := List.forall_mem_cons.mp bound
    obtain ⟨middle, checks, kept⟩ := run_verify first before
    obtain ⟨after, others, same⟩ := inductionHypothesis further middle
    refine ⟨after, ?_, same.trans kept⟩
    rw [verifyAll, Job.run_bind, checks]
    dsimp only
    rw [Job.run_bind, others, kept]
    rfl

/-- An exporter reads its schema file and exports the workbook. -/
theorem run_export (x : SchemaExporter) (before : Workspace) :
    x.export_ before = match SchemaFile.reading before.files x.source with
      | .error e => (.error e, before)
      | .ok (.error text) =>
        (.error (.issue { kind := .unreadableFile, message := text, place := { file := x.schema } }), before)
      | .ok (.ok w) =>
        (exportWorkbook w x.assetRoot x.selection >>= fun result =>
          x.verifyAll result.sheets >>= fun sheets => pure { result with sheets }) before := by
  rw [export_, Job.run_bind, SchemaFile.run_read]
  cases SchemaFile.reading before.files x.source with
  | error e => rfl
  | ok read => cases read <;> rfl

/-- A workspace in which an exporter has its turn. -/
def announced (x : SchemaExporter) (before : Workspace) : Workspace :=
  before.emit (.line ⟨.info, "export start: " ++ x.schema⟩)

/-- An exporter that fails ends the run, -/
theorem exportAll_of_error {rest : List SchemaExporter} {before after : Workspace} {e : Failure}
    (failed : x.export_ (x.announced before) = (.error e, after)) :
    exportAll (x :: rest) before = (.error e, after) := by
  rw [exportAll, Job.run_bind, Job.run_log]
  dsimp only
  rw [Job.run_bind, show before.emit _ = x.announced before from rfl, failed]

/-- and after another one the run goes on. -/
theorem exportAll_of_ok {rest : List SchemaExporter} {before middle after : Workspace} {r : WorkbookExport}
    {outcome : Except Failure (List WorkbookExport)}
    (exports : x.export_ (x.announced before) = (.ok r, middle))
    (further : exportAll rest middle = (outcome, after)) :
    exportAll (x :: rest) before = (outcome.map (r :: ·), after) := by
  rw [exportAll, Job.run_bind, Job.run_log]
  dsimp only
  rw [Job.run_bind, show before.emit _ = x.announced before from rfl, exports]
  dsimp only
  rw [Job.run_bind, further]
  cases outcome <;> rfl

/-- A schema file that cannot be read fails its exporter. -/
theorem export_of_unreadable {before : Workspace} {text : String}
    (read : SchemaFile.reading before.files x.source = .ok (.error text)) :
    x.export_ before = (.error (.issue
      { kind := .unreadableFile, message := text, place := { file := x.schema } }), before) := by
  rw [run_export, read]

/-- A workbook that is exported is checked, sheet by sheet, when what succeeds has a container type. -/
theorem run_export_of_bound {before middle : Workspace} {w : Workbook}
    (read : SchemaFile.reading before.files x.source = .ok (.ok w)) {written : WorkbookExport}
    (exports : exportWorkbook w x.assetRoot x.selection before = (.ok written, middle))
    (bound : ∀ o ∈ written.sheets, o.succeeded = true → ∃ t, x.containers.lookup o.sheet = some t) :
    ∃ after, x.export_ before =
        (.ok { written with sheets := written.sheets.map (x.checked middle.files) }, after) ∧
      after.files = middle.files := by
  obtain ⟨after, checks, kept⟩ := run_verifyAll bound middle
  refine ⟨after, ?_, kept⟩
  rw [run_export, read]
  dsimp only
  rw [Job.run_bind, exports]
  dsimp only
  rw [Job.run_bind, checks]
  rfl

/-- So it is by an exporter that is generated. -/
theorem run_export_of_exportWorkbook (generated : IsGenerated x) {before middle : Workspace} {w : Workbook}
    (read : SchemaFile.reading before.files x.source = .ok (.ok w)) {written : WorkbookExport}
    (exports : exportWorkbook w x.assetRoot x.selection before = (.ok written, middle)) :
    ∃ after, x.export_ before =
        (.ok { written with sheets := written.sheets.map (x.checked middle.files) }, after) ∧
      after.files = middle.files :=
  run_export_of_bound read exports fun _ member succeeded => exists_container
    (isSelected_of_succeeded (generated.workbook read) generated.split exports member succeeded)

/-- An exporter exports a workbook: it reads it from its schema file, and its sheets are exported and
checked. -/
structure ExportsBook (x : SchemaExporter) (w : Workbook) (start : FileTree) (r : WorkbookExport)
    (after : FileTree) : Prop where
  read : SchemaFile.reading start x.source = .ok (.ok w)
  grows : Grows start after
  isolated : w.sheetNames.Nodup → ∃ written, IsolatedExport w x.assetRoot x.selection start after written ∧
    r = { written with sheets := written.sheets.map (x.checked after) }

/-- The workbook is the one that is read. -/
theorem ExportsBook.eq_of_reading {w v : Workbook} {start after : FileTree} {r : WorkbookExport}
    (exported : ExportsBook x w start r after) (read : SchemaFile.reading start x.source = .ok (.ok v)) :
    w = v := by
  rw [exported.read] at read
  exact Except.ok.inj (Except.ok.inj read)

/-- Why an exporter fails, and what it leaves behind. -/
inductive StopsRun (x : SchemaExporter) (start : FileTree) : Failure → FileTree → Prop
  /-- There is no schema file, or its content is no workbook. -/
  | unreadable (text : String) (read : SchemaFile.reading start x.source = .ok (.error text)) :
      StopsRun x start (.issue
        { kind := .unreadableFile, message := text, place := { file := x.schema } }) start
  /-- The system does not let the schema file be read. -/
  | refused (e : Failure) (read : SchemaFile.reading start x.source = .error e) : StopsRun x start e start
  /-- An asset is not written. -/
  | unwritten (w : Workbook) (e : Failure) (read : SchemaFile.reading start x.source = .ok (.ok w))
      (cause : Blames x.assetRoot e ∨ e = .oversized {} ∧ HasUnwritableRecords w) (after : FileTree)
      (grows : Grows start after) : StopsRun x start e after

/-- How the export of a generated exporter ends. -/
theorem ends_of_export (generated : IsGenerated x) {before after : Workspace}
    {outcome : Except Failure WorkbookExport} (ran : x.export_ before = (outcome, after)) :
    (∀ r, outcome = .ok r → ∃ w, ExportsBook x w before.files r after.files) ∧
      ∀ e, outcome = .error e → StopsRun x before.files e after.files := by
  cases read : SchemaFile.reading before.files x.source with
  | error e =>
    rw [run_export, read] at ran
    cases ran
    exact ⟨nofun, fun _ same => Except.error.inj same ▸ .refused e read⟩
  | ok opened =>
    cases opened with
    | error text =>
      rw [export_of_unreadable read] at ran
      cases ran
      exact ⟨nofun, fun _ same => Except.error.inj same ▸ .unreadable text read⟩
    | ok w =>
      have identifier := generated.workbook read
      cases exports : exportWorkbook w x.assetRoot x.selection before with
      | mk result middle =>
        have grows := grows_of_exportWorkbook identifier generated.split exports
        cases result with
        | error e =>
          have cause := blames_of_exportWorkbook identifier generated.split exports
          rw [run_export, read] at ran
          dsimp only at ran
          rw [Job.run_bind, exports] at ran
          cases ran
          exact ⟨nofun, fun _ same => Except.error.inj same ▸ .unwritten w e read cause _ grows⟩
        | ok written =>
          obtain ⟨last, exported, kept⟩ := run_export_of_exportWorkbook generated read exports
          rw [exported] at ran
          cases ran
          rw [kept]
          refine ⟨fun r same => ⟨w, read, grows, fun distinct => ⟨written, ?_, ?_⟩⟩, nofun⟩
          · exact .of_exportWorkbook distinct exports
          · exact (Except.ok.inj same).symm

/-- The turn of an exporter in a run that has begun with a tree. -/
structure HasTurn (begun : FileTree) (x : SchemaExporter) (start : FileTree) (r : WorkbookExport)
    (after : FileTree) : Prop where
  /-- It is the export of the exporter by itself. -/
  ran : ∃ before last, before.files = start ∧ last.files = after ∧ x.export_ before = (.ok r, last)
  exported : ∃ w, ExportsBook x w start r after
  /-- A file that could be read at the beginning is read as the same workbook, -/
  kept : ∀ w, SchemaFile.reading begun x.source = .ok (.ok w) →
    SchemaFile.reading start x.source = .ok (.ok w)
  /-- and its assets are those of an export at the beginning. -/
  assets : ∀ w, SchemaFile.reading begun x.source = .ok (.ok w) → w.sheetNames.Nodup →
    ∀ before own last, before.files = begun → x.export_ before = (.ok own, last) →
      ∀ sheet ∈ w.sheetNames.filter (isSelected x.selection), ∀ d records, Yields w sheet d records →
        after.read (assetPath x.assetRoot w.name sheet) = last.files.read (assetPath x.assetRoot w.name sheet)

theorem hasTurn_of_export (generated : IsGenerated x) {begun : FileTree} {before after : Workspace}
    (grows : Grows begun before.files) {r : WorkbookExport} (ran : x.export_ before = (.ok r, after)) :
    HasTurn begun x before.files r after.files := by
  obtain ⟨w, exported⟩ := (ends_of_export generated ran).1 r rfl
  have kept (v : Workbook) (read : SchemaFile.reading begun x.source = .ok (.ok v)) :
      SchemaFile.reading before.files x.source = .ok (.ok v) := generated.reading_eq grows read
  refine ⟨⟨before, after, rfl, rfl, ran⟩, ⟨w, exported⟩, kept, ?_⟩
  intro v read distinct first own last files alone sheet member d records yields
  obtain rfl : w = v := exported.eq_of_reading (kept v read)
  obtain ⟨u, other⟩ := (ends_of_export generated alone).1 own rfl
  obtain rfl : u = w := other.eq_of_reading (by rw [files, read])
  obtain ⟨_, isolated, -⟩ := exported.isolated distinct
  obtain ⟨_, isolatedAlone, -⟩ := other.isolated distinct
  exact isolated.read_eq isolatedAlone member yields

/-- Exporters that have their turns one after another, in a run that has begun with a tree. -/
inductive Turns (begun : FileTree) : FileTree → List SchemaExporter → List WorkbookExport → FileTree → Prop
  | none (start : FileTree) : Turns begun start [] [] start
  | next {x : SchemaExporter} {rest : List SchemaExporter} {r : WorkbookExport}
      {results : List WorkbookExport} {start middle after : FileTree} (turn : HasTurn begun x start r middle)
      (further : Turns begun middle rest results after) :
      Turns begun start (x :: rest) (r :: results) after

theorem StopsRun.grows {start after : FileTree} {e : Failure} (stops : StopsRun x start e after) :
    Grows start after := by
  cases stops with
  | unreadable text read => exact .refl start
  | refused e read => exact .refl start
  | unwritten w e read cause after grows => exact grows

/-- A file that could be read at the beginning does not stop the run: only what is written below the root
does. -/
theorem StopsRun.blames (generated : IsGenerated x) {begun start after : FileTree} {e : Failure}
    (grows : Grows begun start) (stops : StopsRun x start e after) {w : Workbook}
    (read : SchemaFile.reading begun x.source = .ok (.ok w)) :
    Blames x.assetRoot e ∨ e = .oversized {} ∧ HasUnwritableRecords w := by
  have later := generated.reading_eq grows read
  cases stops with
  | unreadable text unread =>
    rw [later] at unread
    cases unread
  | refused e unread =>
    rw [later] at unread
    cases unread
  | unwritten v e again cause after _ =>
    rw [later] at again
    cases again
    exact cause

/-- The exporters of a run have their turns up to the one that stops it. -/
theorem turns_of_exportAll {xs : List SchemaExporter} (generated : ∀ x ∈ xs, IsGenerated x)
    {begun : FileTree} {before after : Workspace} (grows : Grows begun before.files)
    {outcome : Except Failure (List WorkbookExport)} (ran : exportAll xs before = (outcome, after)) :
    ∃ early late results middle, xs = early ++ late ∧ Grows begun middle ∧
      Turns begun before.files early results middle ∧
      match late with
      | [] => outcome = .ok results ∧ after.files = middle
      | x :: _ => ∃ e, outcome = .error e ∧ StopsRun x middle e after.files := by
  induction xs generalizing before outcome with
  | nil =>
    cases ran
    exact ⟨[], [], [], _, rfl, grows, .none _, rfl, rfl⟩
  | cons x rest inductionHypothesis =>
    obtain ⟨first, further⟩ := List.forall_mem_cons.mp generated
    have same : (x.announced before).files = before.files := rfl
    rw [← same] at grows ⊢
    cases exports : x.export_ (x.announced before) with
    | mk result middle =>
      cases result with
      | error e =>
        rw [exportAll_of_error exports] at ran
        cases ran
        exact ⟨[], x :: rest, [], _, rfl, grows, .none _, e, rfl, (ends_of_export first exports).2 e rfl⟩
      | ok r =>
        have turn := hasTurn_of_export first grows exports
        obtain ⟨w, exported⟩ := turn.exported
        cases others : exportAll rest middle with
        | mk outcome last =>
          rw [exportAll_of_ok exports others] at ran
          cases ran
          obtain ⟨early, late, results, end_, rfl, grown, turns, ends⟩ :=
            inductionHypothesis further (grows.trans exported.grows) others
          refine ⟨x :: early, late, r :: results, end_, rfl, grown, .next turn turns, ?_⟩
          cases late with
          | nil => exact ⟨by rw [ends.1]; rfl, ends.2⟩
          | cons y behind =>
            obtain ⟨e, rfl, stops⟩ := ends
            exact ⟨e, rfl, stops⟩

/-- A run over generated exporters. Those before the first that fails have their turns, each of which is the
export of the exporter by itself, and leaves the assets that this would have left at the beginning. The one
that fails ends the run with its failure, and those behind it do nothing: its file cannot be read, or an
asset is not written. -/
theorem exportAll_in_turn {xs : List SchemaExporter} (generated : ∀ x ∈ xs, IsGenerated x)
    {before after : Workspace} {outcome : Except Failure (List WorkbookExport)}
    (ran : exportAll xs before = (outcome, after)) :
    ∃ early late results middle, xs = early ++ late ∧
      Turns before.files before.files early results middle ∧
      match late with
      | [] => outcome = .ok results ∧ after.files = middle
      | x :: _ => ∃ e, outcome = .error e ∧ StopsRun x middle e after.files ∧
        ∀ w, SchemaFile.reading before.files x.source = .ok (.ok w) →
          Blames x.assetRoot e ∨ e = .oversized {} ∧ HasUnwritableRecords w := by
  obtain ⟨early, late, results, middle, rfl, grows, turns, ends⟩ :=
    turns_of_exportAll generated (.refl _) ran
  refine ⟨early, late, results, middle, rfl, turns, ?_⟩
  cases late with
  | nil => exact ends
  | cons x behind =>
    obtain ⟨e, failed, stops⟩ := ends
    have own : IsGenerated x := generated x (List.mem_append_right _ List.mem_cons_self)
    exact ⟨e, failed, stops, fun w read => stops.blames own grows read⟩

/-- The tree with the workbook of weapons and a file beside it that is no workbook. -/
def brokenTree : FileTree :=
  { entries := armoryTree.entries ++ [(["data", "Broken.xlsx"], .file (.bytes []))] }

/-- The exporter of the workbook. -/
def armoryExporter : SchemaExporter where
  source := armoryFile
  assetRoot := (Path.ofText "assets").child rootDirectory
  schema := "Armory"
  containers := [("Weapon", { name := "WeaponDTO", record := some weaponDescription.recordType })]

/-- The exporter of the other file. -/
def brokenExporter : SchemaExporter :=
  { armoryExporter with source := (Path.ofText "data").child "Broken.xlsx", schema := "Broken" }

/-- The issue with that file. -/
def brokenIssue : Issue where
  kind := .unreadableFile
  message := "failed to read Broken.xlsx: BadZipFile: File is not a zip file"
  place := { file := "Broken" }

theorem isGenerated_armoryExporter : IsGenerated armoryExporter :=
  ⟨⟨"data", "Armory.xlsx", rfl, by decide, by decide⟩, rfl, by decide, "assets", rfl⟩

theorem isGenerated_brokenExporter : IsGenerated brokenExporter :=
  ⟨⟨"data", "Broken.xlsx", rfl, by decide, by decide⟩, rfl, by decide, "assets", rfl⟩

theorem reading_brokenTree : SchemaFile.reading brokenTree armoryFile = .ok (.ok armory) := rfl

theorem reading_brokenFile :
    SchemaFile.reading brokenTree brokenExporter.source = .ok (.error brokenIssue.message) := by
  decide +kernel

theorem read_weaponAsset :
    brokenTree.read (assetPath armoryExporter.assetRoot "Armory" "Weapon") = .ok (.bytes []) := rfl

/-- The workbook can be exported by itself. -/
theorem export_armoryExporter {w : Workspace} (files : w.files = brokenTree) :
    ∃ own after, armoryExporter.export_ w = (.ok own, after) := by
  have there : w.files.isFile?
      (assetPath ((Path.ofText "assets").child rootDirectory) "Armory" "Weapon") = .ok true := by
    rw [files]
    decide +kernel
  obtain ⟨written, middle, exports⟩ := exportWorkbook_armory there armoryExporter.selection rfl
  have read : SchemaFile.reading w.files armoryFile = .ok (.ok armory) := by
    rw [files, reading_brokenTree]
  obtain ⟨after, ran, -⟩ := run_export_of_exportWorkbook isGenerated_armoryExporter read exports
  exact ⟨_, after, ran⟩

/-- The text of an asset is not empty. -/
theorem ne_empty_of_text {a : Asset} {text : String} (content : a.text = .ok text) : text ≠ "" := by
  obtain ⟨name, -, content⟩ := bind_eq_ok content
  obtain ⟨recordType, -, content⟩ := bind_eq_ok content
  have lines (list : List Char) : String.ofList (name ++ '\n' :: recordType ++ '\n' :: list) ≠ "" := by
    intro empty
    have characters := congrArg String.toList empty
    simp at characters
  dsimp only at content
  split at content
  · cases content
    exact lines _
  · obtain ⟨list, -, content⟩ := bind_eq_ok content
    cases content
    exact lines list

/-- Then the asset of its sheet, which was empty, is not. -/
theorem read_weaponAsset_of_export {start after : FileTree} {r : WorkbookExport}
    (exported : ExportsBook armoryExporter armory start r after) :
    ∃ content, after.read (assetPath armoryExporter.assetRoot "Armory" "Weapon") = .ok content ∧
      content ≠ .bytes [] := by
  obtain ⟨written, isolated, -⟩ := exported.isolated (by decide)
  have yields : Yields armory "Weapon" weaponDescription [[("id", .int 7), ("kind", .int 1)]] := by
    refine ⟨?_, rfl, rfl⟩
    rw [accepted_armory]
    exact List.mem_cons_self
  obtain ⟨text, content, held⟩ := isolated.read_eq_ok (by decide) yields
  refine ⟨_, held, fun empty => ne_empty_of_text content ?_⟩
  have decoded := decodeUtf8_encodeUtf8 text
  rw [FileContent.bytes.inj empty] at decoded
  exact (Except.ok.inj decoded).symm

/-- A file that is no workbook ends the run, and a workbook that can be exported by itself is not exported. -/
theorem exportAll_unreadable_first :
    (∀ x ∈ [brokenExporter, armoryExporter], IsGenerated x) ∧
    SchemaFile.reading brokenTree armoryExporter.source = .ok (.ok armory) ∧
    (∃ own after content, armoryExporter.export_ { files := brokenTree } = (.ok own, after) ∧
      after.files.read (assetPath armoryExporter.assetRoot "Armory" "Weapon") = .ok content ∧
      content ≠ .bytes []) ∧
    ∃ after, exportAll [brokenExporter, armoryExporter] { files := brokenTree } =
        (.error (.issue brokenIssue), after) ∧
      after.files.read (assetPath armoryExporter.assetRoot "Armory" "Weapon") = .ok (.bytes []) := by
  refine ⟨?_, reading_brokenTree, ?_, ?_⟩
  · simp only [List.forall_mem_cons]
    exact ⟨isGenerated_brokenExporter, isGenerated_armoryExporter, nofun⟩
  · obtain ⟨own, after, ran⟩ := export_armoryExporter (w := { files := brokenTree }) rfl
    obtain ⟨w, exported⟩ := (ends_of_export isGenerated_armoryExporter ran).1 own rfl
    obtain rfl : w = armory := exported.eq_of_reading reading_brokenTree
    obtain ⟨content, held, filled⟩ := read_weaponAsset_of_export exported
    exact ⟨own, after, content, ran, held, filled⟩
  · have failed : brokenExporter.export_ (brokenExporter.announced { files := brokenTree }) =
        (.error (.issue brokenIssue), brokenExporter.announced { files := brokenTree }) :=
      export_of_unreadable reading_brokenFile
    exact ⟨_, exportAll_of_error failed, read_weaponAsset⟩

/-- The workbook before the file that is no workbook: its exporter has its turn. -/
theorem exportAll_in_turn_armory : ∃ r middle after,
    (∀ x ∈ [armoryExporter, brokenExporter], IsGenerated x) ∧
    exportAll [armoryExporter, brokenExporter] { files := brokenTree } =
      (.error (.issue brokenIssue), after) ∧
    Turns brokenTree brokenTree [armoryExporter] [r] middle ∧
    StopsRun brokenExporter middle (.issue brokenIssue) after.files := by
  have generated : ∀ x ∈ [armoryExporter, brokenExporter], IsGenerated x := by
    simp only [List.forall_mem_cons]
    exact ⟨isGenerated_armoryExporter, isGenerated_brokenExporter, nofun⟩
  obtain ⟨own, last, exports⟩ : ∃ own after,
      armoryExporter.export_ (armoryExporter.announced { files := brokenTree }) = (.ok own, after) :=
    export_armoryExporter rfl
  obtain ⟨w, exported⟩ := (ends_of_export isGenerated_armoryExporter exports).1 own rfl
  have unreadable : SchemaFile.reading last.files brokenExporter.source =
      .ok (.error brokenIssue.message) := by
    have kept : Grows brokenTree last.files := exported.grows
    rw [SchemaFile.reading_of_grows rfl (by decide) rfl kept, reading_brokenFile]
  have failed : brokenExporter.export_ (brokenExporter.announced last) =
      (.error (.issue brokenIssue), brokenExporter.announced last) := export_of_unreadable unreadable
  have ran : exportAll [armoryExporter, brokenExporter] { files := brokenTree } =
      (.error (.issue brokenIssue), brokenExporter.announced last) :=
    exportAll_of_ok exports (exportAll_of_error failed)
  obtain ⟨early, late, results, middle, split, turns, ends⟩ := exportAll_in_turn generated ran
  rcases early with _ | ⟨first, _ | ⟨second, more⟩⟩
  · obtain rfl : late = [armoryExporter, brokenExporter] := split.symm
    obtain ⟨e, failed, -, blames⟩ := ends
    cases failed
    rcases blames armory reading_brokenTree with (system | ⟨-, _, other⟩) | ⟨other, -⟩
    · cases system
    · cases other
    · cases other
  · obtain ⟨rfl, rfl⟩ := List.cons.inj split
    obtain ⟨e, failed, stops, -⟩ := ends
    cases failed
    cases turns with
    | next turn further =>
      cases further
      exact ⟨_, middle, _, generated, ran, .next turn (.none middle), stops⟩
  · obtain ⟨-, behind⟩ := List.cons.inj split
    obtain ⟨-, nothing⟩ := List.cons.inj behind
    obtain ⟨-, rfl⟩ := List.append_eq_nil_iff.mp nothing.symm
    cases ends.1

end SchemaExporter

end TypedSheets
