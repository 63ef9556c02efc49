import TypedSheets.Export
import TypedSheets.Proofs.Export.Coercions
import TypedSheets.Proofs.Files.Artifacts
import TypedSheets.Proofs.Files.AssetPaths

/-!
# Exporting sheets one after another

A sheet whose rows coerce is exported into its own asset file; one whose rows do not leaves the
files as they were. As the assets of different sheets lie at different locations, no sheet touches
what another one wrote.
-/

namespace TypedSheets

open TypedSheets.Emission TypedSheets.Schema TypedSheets.Text FileTree

/-- The path of an asset leads to the encoding of the records of its sheet. -/
def HoldsAsset (path : Path) (sheet : String) (records : List Entries) (files : FileTree) : Prop :=
  ∃ text at_, (sheetAsset sheet records).text = .ok text ∧ hasNull path = false ∧
    files.locate path = .ok at_ ∧ files.fileAt? at_ = some (.bytes (encodeUtf8 text))

/-- What an exported sheet answers: either its records are in its asset file, or a cell that does
not coerce stopped it. -/
inductive Exports (root : Path) (files : FileTree) (d : Description) : Exported → Prop where
  | written (records : List Entries) (artifact : Written) (built : buildRecords d = .ok records)
      (path : artifact.path = assetPath root d.schema d.sheet)
      (held : HoldsAsset artifact.path d.sheet records files) :
      Exports root files d ({ schema := d.schema, sheet := d.sheet, artifacts := [artifact],
                              records := records.length }, none)
  | stopped (cause : CoercionCause) (place : Place)
      (refused : buildRecords d = .error (.cell cause place)) :
      Exports root files d (stoppedBy d.schema d.sheet (cause.issue place))

/-- A sheet that is exported holds its asset, and nothing else has changed. -/
theorem exportSheet_ok {root : Path} {d : Description} {before after : Workspace}
    {artifact : Written} {count : Nat}
    (ran : exportSheet root d before = (.ok (artifact, count), after)) :
    ∃ records text, buildRecords d = .ok records ∧ count = records.length ∧
      (sheetAsset d.sheet records).text = .ok text ∧
      artifact.path = assetPath root d.schema d.sheet ∧
      Holding artifact.path (encodeUtf8 text) before.files after.files := by
  obtain ⟨records, _, coerced, rendering⟩ := Job.bind_ok ran
  obtain ⟨built, rfl⟩ := Job.ofExcept_ok coerced
  obtain ⟨text, _, rendered, writing⟩ := Job.bind_ok rendering
  obtain ⟨content, rfl⟩ := Job.ofExcept_ok rendered
  obtain ⟨written, middle, saw, logging⟩ := Job.bind_ok writing
  obtain ⟨holding, path⟩ := writeArtifact_ok saw
  obtain ⟨_, _, logged, ended⟩ := Job.bind_ok logging
  rw [Job.run_log] at logged
  cases logged
  cases ended
  refine ⟨records, text, built, rfl, content, path, ?_⟩
  rw [path]
  exact holding

/-- Only a cell stops a sheet by an issue, and then nothing was done. -/
theorem exportSheet_issue {root : Path} {d : Description} {before after : Workspace} {i : Issue}
    (ran : exportSheet root d before = (.error (.issue i), after)) :
    after = before ∧ ∃ cause place, buildRecords d = .error (.cell cause place) ∧
      i = cause.issue place := by
  rcases Job.bind_error ran with failed | ⟨records, _, coerced, rendering⟩
  · cases built : buildRecords d with
    | ok records =>
      rw [built] at failed
      cases failed
    | error e =>
      rw [built] at failed
      cases e with
      | cell cause place =>
        cases failed
        exact ⟨rfl, cause, place, rfl, rfl⟩
      | unknownType declared => cases failed
  · rcases Job.bind_error rendering with failed | ⟨text, _, rendered, writing⟩
    · cases content : (sheetAsset d.sheet records).text with
      | ok text =>
        rw [content] at failed
        cases failed
      | error e =>
        rw [content] at failed
        cases e <;> cases failed
    · rcases Job.bind_error writing with failed | ⟨written, _, saw, logging⟩
      · obtain ⟨cause, impossible⟩ := writeArtifact_failsInFiles _ _ _ _ failed
        cases impossible
      · rcases Job.bind_error logging with failed | ⟨_, _, _, ended⟩
        · cases failed
        · cases ended

/-- The first sheet answers before the others are exported, and changes at most its own asset. -/
theorem exportSheets_cons {root : Path} {d : Description} {rest : List Description}
    {before after : Workspace} {exported : List Exported}
    (ran : exportSheets root (d :: rest) before = (.ok exported, after)) :
    ∃ first others middle, exported = first :: others ∧
      exportSheets root rest middle = (.ok others, after) ∧ Exports root middle.files d first ∧
      KeepsDirectories before.files middle.files ∧
      ∀ at_, (first.2 = none → middle.files.locate (assetPath root d.schema d.sheet) ≠ .ok at_) →
        middle.files.fileAt? at_ = before.files.fileAt? at_ := by
  obtain ⟨_, _, attempted, matched⟩ := Job.bind_ok ran
  rw [Job.run_attempt] at attempted
  cases exports : exportSheet root d before with
  | mk result middle =>
    rw [exports] at attempted
    cases attempted
    cases result with
    | ok done =>
      obtain ⟨artifact, count⟩ := done
      obtain ⟨first, last, answered, further⟩ := Job.bind_ok matched
      cases answered
      obtain ⟨others, _, later, ended⟩ := Job.bind_ok further
      cases ended
      obtain ⟨records, text, built, rfl, content, path, holding⟩ := exportSheet_ok exports
      obtain ⟨at_, located, found, frame⟩ := holding.located
      refine ⟨_, others, middle, rfl, later, .written records artifact built path
        ⟨text, at_, content, holding.noNull, located, found⟩, holding.kept, ?_⟩
      intro other elsewhere
      refine frame other ?_
      rintro rfl
      rw [← path] at elsewhere
      exact elsewhere rfl located
    | error e =>
      cases e with
      | issue i =>
        obtain ⟨first, last, answered, further⟩ := Job.bind_ok matched
        cases answered
        obtain ⟨others, _, later, ended⟩ := Job.bind_ok further
        cases ended
        obtain ⟨rfl, cause, place, refused, rfl⟩ := exportSheet_issue exports
        exact ⟨_, others, middle, rfl, later, .stopped cause place refused, .refl _, fun _ _ => rfl⟩
      | _ =>
        obtain ⟨first, last, thrown, _⟩ := Job.bind_ok matched
        cases thrown

/-- What stands at the location of an asset stays when nothing else changes there. -/
theorem Exports.later {root : Path} {d : Description} {middle after : FileTree} {e : Exported}
    (exports : Exports root middle d e) (kept : KeepsDirectories middle after)
    (same : ∀ at_, middle.locate (assetPath root d.schema d.sheet) = .ok at_ →
      after.fileAt? at_ = middle.fileAt? at_) : Exports root after d e := by
  cases exports with
  | written records artifact built path held =>
    obtain ⟨text, at_, content, noNull, located, found⟩ := held
    refine .written records artifact built path
      ⟨text, at_, content, noNull, locate_kept kept _ _ located, ?_⟩
    rw [path] at located
    rw [same at_ located]
    exact found
  | stopped cause place refused => exact .stopped cause place refused

/-- An answer is about its own sheet. -/
theorem Exports.sheet_eq {root : Path} {files : FileTree} {d : Description} {e : Exported}
    (exports : Exports root files d e) : e.1.schema = d.schema ∧ e.1.sheet = d.sheet := by
  cases exports <;> exact ⟨rfl, rfl⟩

/-- So the answers stand under the names of the sheets. -/
theorem sheets_of_exports {root : Path} {files : FileTree} {ds : List Description}
    {exported : List Exported} (answers : List.Forall₂ (Exports root files) ds exported) :
    exported.map (fun e => e.1.sheet) = ds.map Description.sheet := by
  induction answers with
  | nil => rfl
  | cons first _ inductionHypothesis =>
    rw [List.map_cons, List.map_cons, first.sheet_eq.2, inductionHypothesis]

/-- After a run over different sheets every sheet has its answer, and every file is as it was that
is not the asset of an exported sheet. -/
theorem exportSheets_ok {root : Path} {schema : String} {ds : List Description}
    {before after : Workspace} {exported : List Exported}
    (named : ∀ d ∈ ds, d.schema = schema ∧ isIdentifier d.sheet = true)
    (distinct : (ds.map Description.sheet).Nodup)
    (ran : exportSheets root ds before = (.ok exported, after)) :
    List.Forall₂ (Exports root after.files) ds exported ∧
      KeepsDirectories before.files after.files ∧
      ∀ at_, (∀ e ∈ exported, e.2 = none →
          after.files.locate (assetPath root schema e.1.sheet) ≠ .ok at_) →
        after.files.fileAt? at_ = before.files.fileAt? at_ := by
  induction ds generalizing before exported with
  | nil =>
    cases ran
    exact ⟨.nil, .refl _, fun _ _ => rfl⟩
  | cons d rest inductionHypothesis =>
    obtain ⟨first, others, middle, rfl, later, exports, kept, frame⟩ := exportSheets_cons ran
    obtain ⟨fresh, distinctRest⟩ := List.nodup_cons.mp distinct
    obtain ⟨answers, keptLater, frameLater⟩ := inductionHypothesis
      (fun other member => named other (List.mem_cons_of_mem d member)) distinctRest later
    obtain ⟨rfl, identifier⟩ := named d List.mem_cons_self
    refine ⟨.cons (exports.later keptLater ?_) answers, kept.trans keptLater, ?_⟩
    · intro at_ located
      refine frameLater at_ fun e member _ elsewhere => ?_
      have present : e.1.sheet ∈ rest.map Description.sheet := by
        rw [← sheets_of_exports answers]
        exact List.mem_map_of_mem member
      have differ : d.sheet ≠ e.1.sheet := by
        intro same
        rw [same] at fresh
        exact fresh present
      obtain ⟨other, inside, same⟩ := List.mem_map.mp present
      have otherIdentifier := (named other (List.mem_cons_of_mem d inside)).2
      rw [same] at otherIdentifier
      exact assetPath_apart differ (Yaml.slash_not_mem_of_isIdentifier _ identifier)
        (Yaml.slash_not_mem_of_isIdentifier _ otherIdentifier) (locate_kept keptLater _ _ located) elsewhere rfl
    · intro at_ elsewhere
      rw [frameLater at_ fun e member => elsewhere e (List.mem_cons_of_mem first member)]
      refine frame at_ fun written located => ?_
      refine elsewhere first List.mem_cons_self written ?_
      rw [exports.sheet_eq.2]
      exact locate_kept keptLater _ _ located

end TypedSheets
