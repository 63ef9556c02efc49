import TypedSheets.Proofs.Export.OversizedIntegers
import TypedSheets.Proofs.Runs.ExportedFiles
import TypedSheets.Proofs.Runs.OpenedFiles
import TypedSheets.Proofs.Runs.LoggedErrors

/-!
# What interrupts the work on schema files

Whatever a schema file holds, the work on it ends with an outcome that speaks of all its sheets, and the
next file is worked on: what is wrong with a sheet, a cell or a name fails the sheet, and what the system
refuses fails the file. Only two things are no failure of a file and end the run instead: an integer that
has no decimal text where one is to be written, and a null character on a path that the settings give.
-/

namespace TypedSheets.Run

open TypedSheets.Emission TypedSheets.Grid TypedSheets.Schema TypedSheets.Text FileTree

section Names

variable {w : Workbook}

/-- Every sheet is spoken for. -/
theorem names_of_lookups (w : Workbook) : (lookups w).map Prod.fst = w.sheetNames := by
  have spoken : ∀ name ∈ w.sheetNames, (verdict? w name).isSome = true := by
    intro name member
    obtain ⟨s, inside, rfl⟩ := List.mem_map.mp member
    unfold verdict? lastWith?
    cases refusal : (refused w).reverse.find? fun e => e.place.sheet == s.name with
    | some e => rfl
    | none =>
      have none := List.find?_eq_none.mp refusal
      cases verdict : interpretIn w.name (collectEnums w) s with
      | error e =>
        have own := (interpretIn_refusesAt _ e verdict).2
        exact absurd (beq_iff_eq.mpr own)
          (none e (List.mem_reverse.mpr (mem_refused.mpr ⟨s, inside, verdict⟩)))
      | ok d =>
        have own := (accepts_of_interpretIn verdict).1.named
        dsimp only
        rw [Option.isSome_map, List.find?_isSome]
        exact ⟨d, List.mem_reverse.mpr (mem_accepted.mpr ⟨s, inside, verdict⟩), beq_iff_eq.mpr own⟩
  rw [lookups, List.map_filterMap, List.filterMap_congr, List.filterMap_some]
  intro name member
  obtain ⟨verdict, own⟩ := Option.isSome_iff_exists.mp (spoken name member)
  rw [own]
  rfl

/-- The outcomes of sheets have their names. -/
theorem names_of_sheetsSeen {target : Destination} {schema : String}
    {outcomes : List (String × Except ShapeError Description)} {sheets : List SheetOutcome}
    (seen : List.Forall₂ (SheetSeen target schema) outcomes sheets) :
    sheets.map SheetOutcome.sheet = outcomes.map Prod.fst := by
  induction seen with
  | nil => rfl
  | cons own _ inductionHypothesis => cases own <;> exact congrArg (_ :: ·) inductionHypothesis

end Names

/-- A failure that writing below a root can meet: the system refuses it, or the root has a null
character. -/
def Blames (root : Path) (e : Failure) : Prop :=
  e.isSystem = true ∨ hasNull root = true ∧ ∃ making, e = .file (.embeddedNull making)

section Writing

variable {root : Path} {before after : Workspace} {e : Failure}

theorem blames_of_unwritten {a : Artifact} (product : IsProduct a.path) (null : hasNull a.path = hasNull root)
    (ran : writeArtifact a before = (.error e, after)) : Blames root e := by
  cases has : hasNull a.path with
  | false => exact .inl (neverFile_of_unwritten product has ran).2
  | true =>
    rw [run_writeArtifact_of_null product has] at ran
    cases ran
    exact .inr ⟨null.symm.trans has, true, rfl⟩

theorem blames_of_writeArtifacts {artifacts : List Artifact} (products : ∀ a ∈ artifacts, IsProduct a.path)
    (nulls : ∀ a ∈ artifacts, hasNull a.path = hasNull root)
    (ran : writeArtifacts artifacts before = (.error e, after)) : Blames root e := by
  induction artifacts generalizing before with
  | nil => cases ran
  | cons a rest inductionHypothesis =>
    rcases Job.bind_error ran with failed | ⟨written, middle, -, ran⟩
    · exact blames_of_unwritten (products a List.mem_cons_self) (nulls a List.mem_cons_self) failed
    · rcases Job.bind_error ran with failed | ⟨_, _, _, ended⟩
      · exact inductionHypothesis (fun b member => products b (List.mem_cons_of_mem a member))
          (fun b member => nulls b (List.mem_cons_of_mem a member)) failed
      · cases ended

/-- Asking whether something is there fails through the system alone. -/
theorem isSystem_of_warnIfStale {target : Destination} {schema sheet : String}
    (ran : warnIfStale target schema sheet before = (.error e, after)) : e.isSystem = true := by
  rw [warnIfStale, Job.run_bind, Job.run_ask] at ran
  cases asked : before.files.exists? (target.recordPath schema sheet) with
  | ok there =>
    rw [asked] at ran
    cases there <;> cases ran
  | error cause =>
    rw [asked] at ran
    cases ran
    rw [exists?_eq_error asked]
    rfl

end Writing

/-- How the work on schema files ends: each is reported, or it is interrupted by an integer of one of
them or by a null character on one of some paths. -/
inductive FilesEnd (reported : Path → Except Unopened Workbook → FileOutcome → Prop)
    (oversized : Workbook → Prop) (places : List Path) (t : FileTree) (paths : List Path) :
    Except Failure (List FileOutcome) → Prop
  | reported (outcomes : List FileOutcome)
      (each : List.Forall₂ (fun p f => ∃ opened, opening t p = .ok opened ∧ reported p opened f)
        paths outcomes) : FilesEnd reported oversized places t paths (.ok outcomes)
  | oversized (p : Path) (member : p ∈ paths) (w : Workbook) (opens : opening t p = .ok (.ok w))
      (long : oversized w) : FilesEnd reported oversized places t paths (.error (.oversized {}))
  | null (place : Path) (member : place ∈ places) (has : hasNull place = true) (making : Bool) :
      FilesEnd reported oversized places t paths (.error (.file (.embeddedNull making)))

section Ends

variable {reported : Path → Except Unopened Workbook → FileOutcome → Prop} {oversized : Workbook → Prop}
  {places : List Path} {t : FileTree} {p : Path} {clock : Clock}

/-- A file that is reported. -/
theorem FilesEnd.single {opened : Except Unopened Workbook} (opens : opening t p = .ok opened)
    {f : FileOutcome} (own : reported p opened f) : FilesEnd reported oversized places t [p] (.ok [f]) :=
  .reported [f] (.cons ⟨opened, opens, own⟩ .nil)

/-- The report of a single file. -/
theorem FilesEnd.reported_of_single {outcomes : List FileOutcome}
    (ends : FilesEnd reported oversized places t [p] (.ok outcomes)) :
    ∃ f opened, outcomes = [f] ∧ opening t p = .ok opened ∧ reported p opened f := by
  cases ends with
  | reported outcomes each =>
    cases each with
    | cons own none =>
      cases none
      obtain ⟨opened, opens, reports⟩ := own
      exact ⟨_, opened, rfl, opens, reports⟩

/-- A failure in the work on a file fails the file or interrupts the run. -/
theorem FilesEnd.aborted {w : Workbook} (opens : opening t p = .ok (.ok w)) {place : Path}
    (configured : place ∈ places) {e : Failure} (cause : Blames place e ∨ e = .oversized {} ∧ oversized w)
    {work : FileWork} {text : String}
    (givenUp : e.isSystem = true → reported p (.ok w)
      { path := p, status := .failed, sheets := work.sheets,
        error := some (text ++ " write failed: " ++ e.message) })
    {u : FileTree} {before after : Workspace} (grows : Grows u before.files)
    {outcome : Except Failure FileResult}
    (ran : (do
      let (outcome, records) ← Run.aborted clock p w.name text work e
      pure ({ outcome, records } : FileResult)) before = (outcome, after)) :
    Grows u after.files ∧
      FilesEnd reported oversized places t [p] (outcome.map fun r => [r.outcome]) := by
  unfold Run.aborted at ran
  split at ran
  · next system =>
    cases ran
    exact ⟨grows, .single opens (givenUp system)⟩
  · next other =>
    cases ran
    refine ⟨grows, ?_⟩
    rcases cause with (system | ⟨has, making, rfl⟩) | ⟨rfl, long⟩
    · exact absurd system other
    · exact .null place configured has making
    · exact .oversized p List.mem_cons_self w opens long

/-- A file that interrupts the run leaves none of the others to work on. -/
theorem FilesEnd.interrupted {rest : List Path} {e : Failure}
    (first : FilesEnd reported oversized places t [p] (.error e)) :
    FilesEnd reported oversized places t (p :: rest) (.error e) := by
  cases first with
  | oversized q member w opens long =>
    rw [List.mem_singleton.mp member] at opens
    exact .oversized p List.mem_cons_self w opens long
  | null place member has making => exact .null place member has making

/-- A file that is reported comes before the others. -/
theorem FilesEnd.cons {rest : List Path} {f : FileOutcome} {others : Except Failure (List FileOutcome)}
    (first : FilesEnd reported oversized places t [p] (.ok [f]))
    (further : FilesEnd reported oversized places t rest others) :
    FilesEnd reported oversized places t (p :: rest) (others.map (f :: ·)) := by
  obtain ⟨_, opened, ⟨⟩, own⟩ := first.reported_of_single
  cases further with
  | reported outcomes each => exact .reported (f :: outcomes) (.cons ⟨opened, own⟩ each)
  | oversized q member w opens long => exact .oversized q (List.mem_cons_of_mem p member) w opens long
  | null place member has making => exact .null place member has making

/-- A file of a tree comes to the same in another tree that opens it alike. -/
theorem FilesEnd.congr {u : FileTree} (same : opening u p = opening t p)
    {outcome : Except Failure (List FileOutcome)} (ends : FilesEnd reported oversized places u [p] outcome) :
    FilesEnd reported oversized places t [p] outcome := by
  cases outcome with
  | ok outcomes =>
    obtain ⟨f, opened, rfl, opens, own⟩ := ends.reported_of_single
    exact .single (same.symm.trans opens) own
  | error e =>
    cases ends with
    | oversized q member w opens long =>
      rw [List.mem_singleton.mp member, same] at opens
      exact .oversized p List.mem_cons_self w opens long
    | null place member has making => exact .null place member has making

end Ends

section Modules

variable {clock : Clock} {target : Destination} {p : Path} {w : Workbook} {before after : Workspace}
  {places : List Path}

/-- A sheet is accepted and an enumeration is oversized: the enumeration module cannot be rendered. -/
def HasUnwritableEnums (w : Workbook) : Prop := described (lookups w) ≠ [] ∧ EnumsOversized w

/-- What is reported of a schema file when modules are generated, from what opening it comes to. -/
inductive ModulesReported (target : Destination) (p : Path) :
    Except Unopened Workbook → FileOutcome → Prop
  | unopened (u : Unopened) : ModulesReported target p (.error u) (u.outcome p)
  | finished (w : Workbook) (sheets : List SheetOutcome) (shared : List Written)
      (named : sheets.map SheetOutcome.sheet = w.sheetNames)
      (seen : List.Forall₂ (SheetSeen target w.name) (lookups w) sheets)
      (writable : ¬HasUnwritableEnums w) : ModulesReported target p (.ok w) (.ofSheets p sheets shared)
  | givenUp (w : Workbook) (early late : List (String × Except ShapeError Description))
      (sheets : List SheetOutcome) (e : Failure) (split : lookups w = early ++ late)
      (seen : List.Forall₂ (SheetSeen target w.name) early sheets) (system : e.isSystem = true) :
      ModulesReported target p (.ok w)
        { path := p, status := .failed, sheets, error := some ("artifact write failed: " ++ e.message) }

/-- The modules of a workbook have a null character on their paths only where the code root has one. -/
theorem hasNull_of_paths {artifacts : List Artifact} {modules : List GeneratedModule}
    (identifier : isIdentifier w.name = true) (among : ∀ m ∈ modules, m ∈ fileModules w)
    (paths : artifacts.map Artifact.path = modules.map (GeneratedModule.path target)) :
    ∀ a ∈ artifacts, hasNull a.path = hasNull target.code := by
  intro a member
  have listed : a.path ∈ modules.map (GeneratedModule.path target) := by
    rw [← paths]
    exact List.mem_map_of_mem member
  obtain ⟨m, own, path⟩ := List.mem_map.mp listed
  obtain ⟨schema, sheets⟩ := schema_of_fileModules (among m own)
  rw [← path]
  apply GeneratedModule.hasNull_path target _ sheets
  intro name same
  rw [schema] at same
  cases same
  exact identifier

/-- What stops the work on sheets is to blame for it. -/
theorem blames_of_generateSheets (identifier : isIdentifier w.name = true) (split : IsSplit target.codeRoot)
    {outcomes : List (String × Except ShapeError Description)}
    (accepts : ∀ d ∈ described outcomes, d ∈ accepted w) {work done : FileWork} {e : Failure}
    (ran : generateSheets clock target w.name outcomes work before = (.ok (done, some e), after)) :
    Blames target.code e := by
  induction outcomes generalizing work before with
  | nil => cases ran
  | cons outcome rest inductionHypothesis =>
    obtain ⟨sheet, verdict⟩ := outcome
    cases verdict with
    | error refusal =>
      rw [generateSheets, Job.run_bind, run_note] at ran
      dsimp only at ran
      rw [Job.run_bind, Job.run_attempt] at ran
      cases warned : warnIfStale target w.name sheet
          (before.emit (.line ⟨.error, refusal.issue.kind.code ++ ": " ++ refusal.issue.text⟩)) with
      | mk answer middle =>
        rw [warned] at ran
        cases answer with
        | ok _ => exact inductionHypothesis accepts ran
        | error failure =>
          cases ran
          exact .inl (isSystem_of_warnIfStale warned)
    | ok d =>
      have own : d ∈ accepted w := accepts d List.mem_cons_self
      rw [generateSheets, Job.run_bind, Job.run_attempt] at ran
      cases wrote : writeArtifacts (sheetArtifacts target d) before with
      | mk answer middle =>
        rw [wrote] at ran
        cases answer with
        | ok artifacts =>
          exact inductionHypothesis (fun other member => accepts other (List.mem_cons_of_mem d member)) ran
        | error failure =>
          cases ran
          refine blames_of_writeArtifacts (isProduct_sheetArtifacts split identifier own) ?_ wrote
          refine hasNull_of_paths identifier ?_ (sheetArtifacts_paths_of_accepted target identifier own)
          intro m listed
          exact List.mem_append_left _ (List.mem_flatMap.mpr ⟨d, own, listed⟩)

/-- The modules of a file as a whole are written, or an oversized enumeration or the writing is to blame. -/
theorem generateShared_ends (identifier : isIdentifier w.name = true) (split : IsSplit target.codeRoot)
    {outcome : Except Failure (List Written)}
    (ran : generateShared target p w (described (lookups w)) before = (outcome, after)) :
    Grows before.files after.files ∧ (∀ written, outcome = .ok written → ¬HasUnwritableEnums w) ∧
      ∀ e, outcome = .error e → Blames target.code e ∨ e = .oversized {} ∧ HasUnwritableEnums w := by
  have accepts : ∀ d ∈ described (lookups w), d ∈ accepted w := fun d => accepted_of_lookups
  have rendered : fault? (fileArtifacts target w.name p ((collectEnums w).map Prod.snd)
      (described (lookups w))) = some {} ↔ EnumsOversized w := fault?_fileArtifacts accepts
  unfold generateShared at ran
  split at ran
  · next empty =>
    cases ran
    refine ⟨.refl _, fun _ _ unwritable => unwritable.1 (List.isEmpty_iff.mp empty), ?_⟩
    rintro e ⟨⟩
  · next some =>
    dsimp only at ran
    rw [Job.run_bind, Job.run_ofExcept] at ran
    cases shared : fileArtifacts target w.name p ((collectEnums w).map Prod.snd) (described (lookups w)) with
    | error cause =>
      rw [shared] at ran rendered
      cases ran
      refine ⟨.refl _, by rintro _ ⟨⟩, ?_⟩
      rintro _ ⟨⟩
      exact .inr ⟨rfl, fun none => some (List.isEmpty_iff.mpr none), rendered.mp rfl⟩
    | ok artifacts =>
      rw [shared] at ran rendered
      have products := isProduct_fileArtifacts split identifier shared
      obtain ⟨written, touches, -⟩ := touches_of_writeArtifacts products ran
      refine ⟨touches.grows, fun _ _ unwritable => ?_, ?_⟩
      · cases rendered.mpr unwritable.2
      · rintro e rfl
        refine .inl (blames_of_writeArtifacts products ?_ ran)
        exact hasNull_of_paths identifier (fun m listed => List.mem_append_right _ listed)
          (fileArtifacts_paths identifier shared)

/-- The work on a schema file ends with an outcome, unless something interrupts the run. -/
theorem filesEnd_of_generateFile (split : IsSplit target.codeRoot) (code : target.code ∈ places)
    {opened : Except Unopened Workbook} (opens : opening before.files p = .ok opened)
    {outcome : Except Failure FileResult} (ran : generateFile clock target p before = (outcome, after)) :
    Grows before.files after.files ∧
      FilesEnd (ModulesReported target) HasUnwritableEnums places before.files [p]
        (outcome.map fun r => [r.outcome]) := by
  cases opened with
  | error u =>
    rw [generateFile, Job.run_bind, run_openFile, opens] at ran
    cases ran
    exact ⟨.refl _, .single opens (.unopened u)⟩
  | ok w =>
    have identifier := (named_of_workbookAt? (workbookAt?_eq_some.mpr opens)).1
    rw [run_generateFile_of_opening opens, workOn, Job.run_bind] at ran
    cases sheets : generateSheets clock target w.name (lookups w) {}
        { before with console := before.console ++ (interpretationLog w).map .line } with
    | mk result middle =>
      obtain ⟨work, stopped, rfl, -⟩ := generateSheets_stopped sheets
      obtain ⟨early, late, outcomes, lost, parts, ends, seen⟩ :=
        sheetsSeen_of_generateSheets identifier split (fun d => accepted_of_lookups) sheets
      have given : work.sheets = outcomes := seen.outcomes
      have grows : Grows before.files middle.files := seen.touches.grows
      rw [sheets] at ran
      dsimp only [finishFile] at ran
      cases stopped with
      | some e =>
        have cause := blames_of_generateSheets identifier split (fun d => accepted_of_lookups) sheets
        refine FilesEnd.aborted opens code (.inl cause) ?_ grows ran
        intro system
        rw [given]
        exact .givenUp w early late outcomes e parts seen.seen system
      | none =>
        obtain rfl := ends rfl
        rw [List.append_nil] at parts
        have succeeded : work.succeeded = described (lookups w) := by
          rw [parts]
          exact seen.succeeded
        have all := seen.seen
        rw [← parts] at all
        dsimp only at ran
        rw [Job.run_bind, Job.run_attempt] at ran
        cases shared : generateShared target p w work.succeeded middle with
        | mk result last =>
          rw [shared] at ran
          rw [succeeded] at shared
          obtain ⟨further, written, cause⟩ := generateShared_ends identifier split shared
          cases result with
          | error e =>
            refine FilesEnd.aborted opens code (cause e rfl) ?_ (grows.trans further) ran
            intro system
            rw [given]
            exact .givenUp w (lookups w) [] outcomes e (List.append_nil _).symm all system
          | ok artifacts =>
            cases ran
            refine ⟨grows.trans further, .single opens ?_⟩
            rw [given]
            have named := (names_of_sheetsSeen all).trans (names_of_lookups w)
            exact .finished w outcomes artifacts named all (written artifacts rfl)

end Modules

section Assets

variable {clock : Clock} {root p : Path} {w : Workbook} {d : Description} {before after : Workspace}
  {places : List Path}

/-- A cell of an accepted sheet names an oversized member: the asset of the sheet cannot be written. -/
def HasUnwritableRecords (w : Workbook) : Prop := ∃ d ∈ accepted w, RecordsOversized d

/-- What becomes of an accepted sheet that is exported: a cell stops it, or its asset is written. -/
inductive AssetSeen (root : Path) (d : Description) : SheetOutcome → Prop
  | stopped (i : Issue) (cell : coercionIssue? d = some i) :
      AssetSeen root d (.failed d.schema d.sheet i.text)
  | written (records : List Entries) (artifact : Written) (built : buildRecords d = .ok records)
      (path : artifact.path = assetPath root d.schema d.sheet) :
      AssetSeen root d
        { schema := d.schema, sheet := d.sheet, artifacts := [artifact], records := records.length }

/-- What is reported of a schema file that is exported, from what opening it comes to. -/
inductive AssetsReported (root : Path) (p : Path) : Except Unopened Workbook → FileOutcome → Prop
  | unopened (u : Unopened) : AssetsReported root p (.error u) (u.outcome p)
  | finished (w : Workbook) (sheets each : List SheetOutcome) (order : sheets.Perm each)
      (seen : List.Forall₂ (SheetExported root w) w.sheets each) (writable : ¬HasUnwritableRecords w) :
      AssetsReported root p (.ok w) (.ofSheets p sheets [])
  | givenUp (w : Workbook) (e : Failure) (system : e.isSystem = true) :
      AssetsReported root p (.ok w)
        { path := p, status := .failed, error := some ("asset write failed: " ++ e.message) }

/-- The outcome of an accepted sheet is that of its sheet. -/
theorem AssetSeen.sheetExported {s : Sheet} (verdict : interpretIn w.name (collectEnums w) s = .ok d)
    {o : SheetOutcome} (seen : AssetSeen root d o) : SheetExported root w s o := by
  have accepts := (accepts_of_interpretIn verdict).1
  cases seen with
  | stopped i cell =>
    rw [accepts.file, accepts.named]
    exact .stopped d i verdict cell
  | written records artifact built path =>
    rw [length_of_buildRecords built]
    rw [accepts.file, accepts.named] at path ⊢
    exact .written d records artifact verdict built path

/-- The outcomes of refused sheets and of accepted ones are those of all sheets, in another order. -/
theorem exists_sheetsExported (w : Workbook) (sheets : List Sheet) {outcomes : List SheetOutcome}
    (seen : List.Forall₂ (AssetSeen root)
      (sheets.filterMap fun s => (interpretIn w.name (collectEnums w) s).toOption) outcomes) :
    ∃ each, List.Forall₂ (SheetExported root w) sheets each ∧
      ((sheets.filterMap fun s =>
        match interpretIn w.name (collectEnums w) s with
        | .ok _ => none
        | .error e => some e).map (fun e => SheetOutcome.failed w.name e.place.sheet e.text) ++
          outcomes).Perm each := by
  induction sheets generalizing outcomes with
  | nil =>
    cases seen
    exact ⟨[], .nil, .refl _⟩
  | cons s rest inductionHypothesis =>
    cases verdict : interpretIn w.name (collectEnums w) s with
    | error e =>
      rw [List.filterMap_cons_none (by rw [verdict]; rfl)] at seen
      obtain ⟨each, all, order⟩ := inductionHypothesis seen
      refine ⟨.failed w.name s.name e.text :: each, .cons (.refused e verdict) all, ?_⟩
      rw [List.filterMap_cons_some (by rw [verdict]), List.map_cons,
        (interpretIn_refusesAt _ e verdict).2]
      exact order.cons _
    | ok d =>
      rw [List.filterMap_cons_some (by rw [verdict]; rfl)] at seen
      cases seen with
      | @cons _ o _ others first further =>
        obtain ⟨each, all, order⟩ := inductionHypothesis further
        refine ⟨o :: each, .cons (first.sheetExported verdict) all, ?_⟩
        rw [List.filterMap_cons_none (by rw [verdict])]
        exact List.perm_middle.trans (order.cons o)

/-- What the export of an accepted sheet comes to: its asset is written, or a cell, the writing or an
oversized integer is to blame. -/
def SheetEnds (root : Path) (d : Description) : Except Failure (Written × Nat) → Prop
  | .ok (artifact, count) => ¬RecordsOversized d ∧
      AssetSeen root d { schema := d.schema, sheet := d.sheet, artifacts := [artifact], records := count }
  | .error e => (∃ i, e = .issue i ∧ coercionIssue? d = some i) ∨ Blames root e ∨
      e = .oversized {} ∧ RecordsOversized d

theorem sheetEnds_of_exportSheet (identifier : isIdentifier w.name = true) (split : IsSplit root)
    (described : d ∈ accepted w) {outcome : Except Failure (Written × Nat)}
    (ran : exportSheet root d before = (outcome, after)) : SheetEnds root d outcome := by
  obtain ⟨-, schema, sheet⟩ := named_of_accepted_of_name identifier described
  rw [exportSheet, Job.run_bind, Job.run_ofExcept] at ran
  rcases buildRecords_of_accepted described with ⟨records, built⟩ | ⟨cause, place, refused⟩
  · have unwritable (e : AssetError) := fault?_sheetAsset built (e := e)
    rw [built] at ran
    dsimp only at ran
    rw [Job.run_bind, Job.run_ofExcept] at ran
    cases content : (sheetAsset d.sheet records).text with
    | error e =>
      rw [content] at ran unwritable
      cases ran
      obtain ⟨rfl, long⟩ := (unwritable e).mp rfl
      exact .inr (.inr ⟨rfl, long⟩)
    | ok text =>
      rw [content] at ran unwritable
      dsimp only at ran
      rw [Job.run_bind] at ran
      cases wrote : writeArtifact ⟨assetPath root d.schema d.sheet, text⟩ before with
      | mk result middle =>
        rw [wrote] at ran
        cases result with
        | error e =>
          cases ran
          exact .inr (.inl (blames_of_unwritten (isProduct_assetPath split schema sheet)
            (hasNull_assetPath schema sheet) wrote))
        | ok written =>
          cases ran
          refine ⟨fun long => ?_, .written records written built (writeArtifact_ok wrote).2⟩
          cases (unwritable (.oversized {})).mpr ⟨rfl, long⟩
  · rw [refused] at ran
    cases ran
    refine .inl ⟨cause.issue place, rfl, ?_⟩
    rw [coercionIssue?, refused]

/-- What the export of some accepted sheets comes to: each has its outcome, or the writing or an oversized
integer is to blame. -/
def SheetsEnd (root : Path) (ds : List Description) : Except Failure (List Exported) → Prop
  | .ok exported => (∀ d ∈ ds, ¬RecordsOversized d) ∧
      List.Forall₂ (AssetSeen root) ds (exported.map Prod.fst)
  | .error e => Blames root e ∨ e = .oversized {} ∧ ∃ d ∈ ds, RecordsOversized d

/-- A sheet that has its outcome before the others. -/
theorem SheetsEnd.cons {rest : List Description} {first : Exported}
    {outcome : Except Failure (List Exported)} (short : ¬RecordsOversized d)
    (seen : AssetSeen root d first.1) (further : SheetsEnd root rest outcome) :
    SheetsEnd root (d :: rest) (outcome.map (first :: ·)) := by
  cases outcome with
  | ok exported => exact ⟨List.forall_mem_cons.mpr ⟨short, further.1⟩, .cons seen further.2⟩
  | error e =>
    refine further.imp_right fun ⟨same, other, member, long⟩ => ?_
    exact ⟨same, other, List.mem_cons_of_mem d member, long⟩

theorem sheetsEnd_of_exportSheets (identifier : isIdentifier w.name = true) (split : IsSplit root)
    {ds : List Description} (accepts : ∀ d ∈ ds, d ∈ accepted w) {outcome : Except Failure (List Exported)}
    (ran : exportSheets root ds before = (outcome, after)) : SheetsEnd root ds outcome := by
  induction ds generalizing before outcome with
  | nil =>
    cases ran
    exact ⟨fun d member => absurd member List.not_mem_nil, .nil⟩
  | cons d rest inductionHypothesis =>
    have further := fun other member => accepts other (List.mem_cons_of_mem d member)
    rw [exportSheets, Job.run_bind, Job.run_attempt] at ran
    cases exports : exportSheet root d before with
    | mk result middle =>
      have ends := sheetEnds_of_exportSheet identifier split (accepts d List.mem_cons_self) exports
      rw [exports] at ran
      dsimp only at ran
      cases result with
      | ok both =>
        dsimp only at ran
        rw [pure_bind] at ran
        obtain ⟨result, others, rfl⟩ := Job.bind_pure_eq ran
        exact .cons ends.1 ends.2 (inductionHypothesis further others)
      | error e =>
        rcases ends with ⟨i, rfl, cell⟩ | cause
        · have short : ¬RecordsOversized d := by
            rintro ⟨records, built, -⟩
            rw [coercionIssue?, built] at cell
            cases cell
          dsimp only at ran
          rw [pure_bind] at ran
          obtain ⟨result, others, rfl⟩ := Job.bind_pure_eq ran
          exact .cons short (.stopped i cell) (inductionHypothesis further others)
        · have blamed : SheetsEnd root (d :: rest) (.error e) :=
            cause.imp_right fun oversized => ⟨oversized.1, d, List.mem_cons_self, oversized.2⟩
          cases e with
          | issue i =>
            rcases cause with (system | ⟨-, _, other⟩) | ⟨other, -⟩
            · cases system
            · cases other
            · cases other
          | _ =>
            cases ran
            exact blamed

/-- When the export of a workbook fails, the writing or an oversized integer is to blame. -/
theorem blames_of_exportWorkbook (identifier : isIdentifier w.name = true) (split : IsSplit root)
    {selection : Option (List String)} {e : Failure}
    (ran : exportWorkbook w root selection before = (.error e, after)) :
    Blames root e ∨ e = .oversized {} ∧ HasUnwritableRecords w := by
  obtain ⟨exported, sheets, failed⟩ := exportSheets_of_exportWorkbook ran
  cases exported with
  | ok own => cases failed
  | error cause =>
    cases failed
    have ends := sheetsEnd_of_exportSheets identifier split
      (fun d member => (List.mem_filter.mp member).1) sheets
    exact ends.imp_right fun ⟨same, d, member, long⟩ => ⟨same, d, (List.mem_filter.mp member).1, long⟩

/-- A workbook is exported with an outcome for each sheet, or the writing or an oversized integer is to
blame. -/
theorem exportWorkbook_ends (identifier : isIdentifier w.name = true) (split : IsSplit root)
    {outcome : Except Failure WorkbookExport}
    (ran : exportWorkbook w root none before = (outcome, after)) :
    (∀ result, outcome = .ok result → ¬HasUnwritableRecords w ∧
      ∃ each, result.sheets.Perm each ∧ List.Forall₂ (SheetExported root w) w.sheets each) ∧
    ∀ e, outcome = .error e → Blames root e ∨ e = .oversized {} ∧ HasUnwritableRecords w := by
  have chosen : (accepted w).filter (fun d => isSelected none d.sheet) = accepted w := List.filter_true _
  have all : (refused w).filter (fun e => isSelected none e.place.sheet) = refused w := List.filter_true _
  have missing : missingNames w none = [] := rfl
  refine ⟨?_, ?_⟩
  · rintro result rfl
    obtain ⟨exported, sheets, rfl⟩ := exportWorkbook_ok ran
    rw [chosen] at sheets
    obtain ⟨short, seen⟩ := sheetsEnd_of_exportSheets identifier split (fun _ member => member) sheets
    refine ⟨not_exists.mpr fun d both => short d both.1 both.2, ?_⟩
    rw [accepted, interpretSheets, List.filterMap_map] at seen
    obtain ⟨each, outcomes, order⟩ := exists_sheetsExported w w.sheets seen
    refine ⟨each, ?_, outcomes⟩
    refine .trans ((List.mergeSort_perm _ _).map Prod.fst) ?_
    rw [all, missing, List.map_nil, List.append_nil, List.map_append, List.map_map, refused,
      interpretSheets, List.filterMap_map]
    exact order
  · rintro e rfl
    exact blames_of_exportWorkbook identifier split ran

/-- A schema file that is exported ends with an outcome, unless something interrupts the run. -/
theorem filesEnd_of_exportFile (split : IsSplit root) (configured : root ∈ places)
    {opened : Except Unopened Workbook} (opens : opening before.files p = .ok opened)
    {outcome : Except Failure FileResult} (ran : exportFile clock root p before = (outcome, after)) :
    Grows before.files after.files ∧
      FilesEnd (AssetsReported root) HasUnwritableRecords places before.files [p]
        (outcome.map fun r => [r.outcome]) := by
  rw [exportFile, Job.run_bind, run_openFile, opens] at ran
  cases opened with
  | error u =>
    cases ran
    exact ⟨.refl _, .single opens (.unopened u)⟩
  | ok w =>
    have identifier := (named_of_workbookAt? (workbookAt?_eq_some.mpr opens)).1
    have products : ∀ d ∈ accepted w, IsProduct (assetPath root d.schema d.sheet) := by
      intro d described
      obtain ⟨-, schema, sheet⟩ := named_of_accepted_of_name identifier described
      exact isProduct_assetPath split schema sheet
    dsimp only at ran
    rw [Job.run_bind, Job.run_attempt] at ran
    cases exports : exportWorkbook w root none before with
    | mk result middle =>
      obtain ⟨_, touches, -⟩ := touches_of_exportWorkbook products exports
      obtain ⟨done, failed⟩ := exportWorkbook_ends identifier split exports
      rw [exports] at ran
      cases result with
      | error e =>
        refine FilesEnd.aborted opens configured (failed e rfl) ?_ touches.grows ran
        exact fun system => .givenUp w e system
      | ok exported =>
        obtain ⟨writable, each, order, seen⟩ := done exported rfl
        obtain ⟨records, noted, notes⟩ := run_noteAll clock w.name exported.issues middle
        dsimp only at ran
        rw [Job.run_bind, notes] at ran
        cases ran
        refine ⟨?_, .single opens (.finished w exported.sheets each order seen writable)⟩
        rw [(noteAll_eq notes).2]
        exact touches.grows

end Assets

end TypedSheets.Run
