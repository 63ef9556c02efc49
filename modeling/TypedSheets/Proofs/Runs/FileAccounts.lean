import Mathlib.Algebra.BigOperators.Group.List.Basic
import TypedSheets.Proofs.Runs.WholeRuns

/-!
# The accounts of a file

What a run counts of a schema file, and whom its records name, follows from the workbook that is opened:
a file fails when it cannot be opened or when one of its sheets does, and there is one record for each of
these. A run that writes assets counts another kind of failed sheets than one that writes modules.
-/

namespace TypedSheets.Run

open TypedSheets.Emission TypedSheets.Grid TypedSheets.Schema TypedSheets.Text FileTree

/-- What a run makes of a workbook: the sheets that fail, and how many artifacts and records there are. -/
structure Yield where
  fails : Workbook → Sheet → Bool
  artifacts : Workbook → Nat
  records : Workbook → Nat

namespace Yield

variable (y : Yield)

/-- The sheets that fail in a file, if it can be opened. -/
def failing : Option Workbook → List Sheet
  | none => []
  | some w => w.sheets.filter (y.fails w)

/-- A file fails when it cannot be opened or a sheet of it fails. -/
def fileFails : Option Workbook → Bool
  | none => true
  | some w => w.sheets.any (y.fails w)

/-- What the records of a file name: the file as a whole, or each of the sheets that fail. -/
def culprits (p : Path) : Option Workbook → List (String × String)
  | none => [(p.stem, fileLevel)]
  | some w => (y.failing (some w)).map fun s => (p.stem, orElse s.name fileLevel)

/-- A file fails when there is something to record. -/
theorem culprits_ne_nil (p : Path) (opened : Option Workbook) :
    y.culprits p opened ≠ [] ↔ y.fileFails opened = true := by
  cases opened with
  | none => exact iff_of_true (List.cons_ne_nil _ _) rfl
  | some w =>
    rw [culprits, fileFails, Ne, List.map_eq_nil_iff, failing, List.filter_eq_nil_iff, List.any_eq_true]
    push Not
    rfl

/-- What becomes of a file when the work on it is not given up. -/
structure Settles (p : Path) (opened : Option Workbook) (r : FileResult) : Prop where
  path : r.outcome.path = p
  status : r.outcome.status = if y.fileFails opened then .failed else .success
  failedSheets : r.outcome.failedSheets = (y.failing opened).length
  artifacts : r.outcome.allArtifacts.length = (opened.map y.artifacts).getD 0
  records : r.outcome.records = (opened.map fun w => (y.records w : Int)).getD 0
  logged : (r.records.map fun record => (record.file, record.sheet)).Perm (y.culprits p opened)

end Yield

/-- The sheets that are refused, when modules are generated. -/
def isRefused (w : Workbook) (s : Sheet) : Bool :=
  match interpretIn w.name (collectEnums w) s with
  | .error _ => true
  | .ok _ => false

/-- The sheets that are refused or stopped by a cell, when assets are exported. -/
def isStopped (w : Workbook) (s : Sheet) : Bool :=
  match interpretIn w.name (collectEnums w) s with
  | .error _ => true
  | .ok d => (coercionIssue? d).isSome

/-- The accepted sheets whose cells all coerce. -/
def exportable (w : Workbook) : List Description :=
  (accepted w).filter fun d => (coercionIssue? d).isNone

/-- Three modules for each accepted sheet, and two for a workbook that has one. -/
def modulesYield : Yield where
  fails := isRefused
  artifacts w := 3 * (accepted w).length + 2 * (if (accepted w).isEmpty then 0 else 1)
  records _ := 0

/-- One asset for each exported sheet, with a record for each data row. -/
def assetsYield : Yield where
  fails := isStopped
  artifacts w := (exportable w).length
  records w := ((exportable w).map fun d => d.rows.length).sum

section Outcomes

variable {p : Path} {sheets : List SheetOutcome} {artifacts : List Written}

/-- The records of the sheets of a file add up. -/
theorem records_ofSheets :
    (FileOutcome.ofSheets p sheets artifacts).records = (sheets.map SheetOutcome.records).sum := by
  rw [FileOutcome.records, List.sum_eq_foldl, List.foldl_map]
  rfl

/-- The failed sheets of a file are those of the workbook that fail, and the file fails with them. -/
theorem failed_ofSheets {fails : Sheet → Bool} {all : List Sheet}
    (each : sheets.map (fun s => !s.succeeded) = all.map fails) :
    (FileOutcome.ofSheets p sheets artifacts).failedSheets = (all.filter fails).length ∧
      (FileOutcome.ofSheets p sheets artifacts).status =
        if all.any fails then .failed else .success := by
  have counts : (sheets.countP fun s => !s.succeeded) = (all.filter fails).length := by
    have both := congrArg (List.countP id) each
    rw [List.countP_map, List.countP_map] at both
    exact both.trans List.countP_eq_length_filter
  refine ⟨counts, ?_⟩
  rw [FileOutcome.ofSheets, counts]
  dsimp only
  cases some : all.any fails with
  | true =>
    obtain ⟨s, member, failed⟩ := List.any_eq_true.mp some
    have inside := List.mem_filter.mpr ⟨member, failed⟩
    rw [if_neg (List.length_pos_of_mem inside).ne', if_pos rfl]
  | false =>
    have none : all.filter fails = [] := by
      rw [List.filter_eq_nil_iff]
      intro s member failed
      rw [List.any_eq_false] at some
      exact some s member failed
    rw [none, List.length_nil, if_pos rfl, if_neg Bool.false_ne_true]

end Outcomes

theorem filled_of_isIdentifier {name : String} (identifier : isIdentifier name = true) : name ≠ "" := by
  rintro rfl
  revert identifier
  decide

section Files

variable {clock : Clock} {target : Destination} {root p : Path} {t : FileTree}
  {seen : FileResult × List Written}

/-- The record of an issue names its file and sheet. -/
theorem ofIssue_names (timestamp file : String) (i : Issue) {sheet schema own : String} (name : schema ≠ "")
    (place : i.place.file = schema ∧ i.place.sheet = own) (fallback : orElse own sheet = own) :
    ((ErrorRecord.ofIssue timestamp file sheet i).file, (ErrorRecord.ofIssue timestamp file sheet i).sheet) =
      (schema, orElse own fileLevel) := by
  rw [ErrorRecord.ofIssue, place.1, place.2, fallback]
  exact Prod.ext (if_neg name) rfl

/-- A file that cannot be opened has one record, which names the file as a whole. -/
theorem record_of_unopened {u : Unopened} (opened : opening t p = .ok (.error u)) (timestamp : String) :
    ((ErrorRecord.ofIssue timestamp p.stem u.sheet u.issue).file,
      (ErrorRecord.ofIssue timestamp p.stem u.sheet u.issue).sheet) = (p.stem, fileLevel) := by
  have file : orElse p.stem p.stem = p.stem := by
    rw [orElse]
    split_ifs <;> rfl
  unfold opening at opened
  split at opened
  · cases opened
  · cases opened
    exact Prod.ext file rfl
  · next w read =>
    have name := SchemaFile.name_of_reading read
    split at opened
    · next e refused =>
      cases opened
      rw [checkSchemaName] at refused
      split_ifs at refused
      cases refused
      rw [name]
      exact Prod.ext file rfl
    · cases opened

/-- A sheet that is seen to fails when it is refused, and has no records. -/
theorem SheetSeen.counts {schema : String} {w : Workbook} {s : Sheet} {o : SheetOutcome}
    (seen : SheetSeen target schema (s.name, interpretIn w.name (collectEnums w) s) o) :
    (!o.succeeded) = isRefused w s ∧ o.records = 0 := by
  unfold isRefused
  cases verdict : interpretIn w.name (collectEnums w) s with
  | error e =>
    rw [verdict] at seen
    cases seen
    exact ⟨rfl, rfl⟩
  | ok d =>
    rw [verdict] at seen
    cases seen
    exact ⟨rfl, rfl⟩

theorem length_sheetModules (ds : List Description) : (ds.flatMap sheetModules).length = 3 * ds.length := by
  induction ds with
  | nil => rfl
  | cons d rest inductionHypothesis =>
    rw [List.flatMap_cons, List.length_append, inductionHypothesis, List.length_cons, sheetModules]
    simp only [List.length_cons, List.length_nil]
    omega

theorem length_sharedModules (w : Workbook) :
    (sharedModules w).length = 2 * if (accepted w).isEmpty then 0 else 1 := by
  unfold sharedModules
  split_ifs <;> rfl

/-- The records of refused sheets name them in their order. -/
theorem names_of_refusals {w : Workbook} (name : w.name ≠ "") (sheets : List Sheet) :
    (refusalRecords clock w.name
        (sheets.map fun s => (s.name, interpretIn w.name (collectEnums w) s))).map
      (fun record => (record.file, record.sheet)) =
    (sheets.filter (isRefused w)).map fun s => (w.name, orElse s.name fileLevel) := by
  induction sheets with
  | nil => rfl
  | cons s rest inductionHypothesis =>
    rw [List.map_cons, refusalRecords]
    cases verdict : interpretIn w.name (collectEnums w) s with
    | error e =>
      have own : orElse s.name s.name = s.name := by
        rw [orElse]
        split_ifs <;> rfl
      have place := interpretIn_refusesAt (collectEnums w) e verdict
      rw [List.filterMap_cons_some (by rfl), List.filter_cons_of_pos (by rw [isRefused, verdict]),
        List.map_cons, List.map_cons, ofIssue_names _ _ _ name place own]
      exact congrArg _ inductionHypothesis
    | ok d =>
      rw [List.filterMap_cons_none (by rfl),
        List.filter_cons_of_neg (by rw [isRefused, verdict]; exact Bool.false_ne_true)]
      exact inductionHypothesis

/-- A file whose modules are all written is settled. -/
theorem settles_of_generates (becomes : Becomes t (Generates clock target) p seen)
    (finished : ¬seen.1.outcome.WriteFailed) :
    modulesYield.Settles p (workbookAt? t p) seen.1 := by
  obtain ⟨opened, opens, becomes⟩ := becomes
  obtain ⟨result, lost⟩ := seen
  cases becomes with
  | unopened u =>
    rw [workbookAt?_eq_none opens]
    refine ⟨rfl, rfl, rfl, rfl, rfl, ?_⟩
    rw [List.map_singleton, record_of_unopened opens]
    exact .refl _
  | finished w sheets shared seen paths =>
    have known := workbookAt?_eq_some.mpr opens
    obtain ⟨identifier, name⟩ := named_of_workbookAt? known
    have modules := congrArg List.length (paths_of_sheetsSeen seen)
    have sharedLength := congrArg List.length paths
    rw [List.length_map, List.length_map] at modules sharedLength
    rw [described_verdicts, length_sheetModules] at modules
    rw [length_sharedModules] at sharedLength
    rw [verdicts, List.forall₂_map_left_iff] at seen
    have failed :
        (FileOutcome.ofSheets p sheets shared).failedSheets = (w.sheets.filter (isRefused w)).length ∧
        (FileOutcome.ofSheets p sheets shared).status =
          if w.sheets.any (isRefused w) then .failed else .success :=
      failed_ofSheets (map_of_forall₂ seen fun s o own => own.counts.1)
    have none : sheets.map SheetOutcome.records = w.sheets.map fun _ => 0 :=
      map_of_forall₂ seen fun s o own => own.counts.2
    rw [known]
    refine ⟨rfl, failed.2, failed.1, ?_, ?_, ?_⟩
    · change (shared ++ sheets.flatMap SheetOutcome.artifacts).length = _
      rw [List.length_append, modules, sharedLength, Nat.add_comm]
      rfl
    · rw [records_ofSheets, none]
      simp [modulesYield]
    · rw [Yield.culprits, Yield.failing, ← name]
      exact .of_eq (names_of_refusals (filled_of_isIdentifier identifier) w.sheets)
  | givenUp w early late sheets lost e split seen few paths system =>
    exact absurd ⟨e.message, rfl⟩ finished

/-- A sheet that is exported fails when it is refused or a cell stops it. -/
theorem succeeded_of_exported {w : Workbook} {s : Sheet} {o : SheetOutcome}
    (exported : SheetExported root w s o) : (!o.succeeded) = isStopped w s := by
  unfold isStopped
  cases exported with
  | refused e verdict =>
    rw [verdict]
    rfl
  | stopped d i verdict cell =>
    rw [verdict]
    dsimp only
    rw [cell]
    rfl
  | written d records artifact verdict built path =>
    rw [verdict]
    dsimp only
    rw [coercionIssue?, built]
    rfl

/-- The sheets that are exported have one asset each, with a record for each data row. -/
theorem counts_of_sheetsExported {w : Workbook} {all : List Sheet} {sheets : List SheetOutcome}
    (each : List.Forall₂ (SheetExported root w) all sheets) :
    (sheets.flatMap SheetOutcome.artifacts).length =
        ((all.filterMap fun s => (interpretIn w.name (collectEnums w) s).toOption).filter
          fun d => (coercionIssue? d).isNone).length ∧
      (sheets.map SheetOutcome.records).sum =
        ((((all.filterMap fun s => (interpretIn w.name (collectEnums w) s).toOption).filter
          fun d => (coercionIssue? d).isNone).map fun d => d.rows.length).sum : Nat) := by
  induction each with
  | nil => exact ⟨rfl, rfl⟩
  | @cons s o _ _ first _ inductionHypothesis =>
    obtain ⟨artifacts, records⟩ := inductionHypothesis
    rw [List.flatMap_cons, List.length_append, artifacts, List.map_cons, List.sum_cons, records]
    cases first with
    | refused e verdict =>
      rw [List.filterMap_cons_none (by rw [verdict]; rfl)]
      exact ⟨Nat.zero_add _, Int.zero_add _⟩
    | stopped d i verdict cell =>
      rw [List.filterMap_cons_some (by rw [verdict]; rfl),
        List.filter_cons_of_neg (by rw [cell]; exact Bool.false_ne_true)]
      exact ⟨Nat.zero_add _, Int.zero_add _⟩
    | written d built artifact verdict rows path =>
      rw [List.filterMap_cons_some (by rw [verdict]; rfl),
        List.filter_cons_of_pos (by rw [coercionIssue?, rows]; rfl), List.length_cons, List.map_cons,
        List.sum_cons]
      exact ⟨Nat.add_comm _ _, (Nat.cast_add _ _).symm⟩

/-- The issue of a cell that stops a sheet names the sheet. -/
theorem place_of_coercionIssue {d : Description} {i : Issue} (stopped : coercionIssue? d = some i) :
    i.place.file = d.schema ∧ i.place.sheet = d.sheet := by
  unfold coercionIssue? at stopped
  split at stopped
  · next cause place refused =>
    cases stopped
    exact coerceRows_place refused
  · cases stopped

/-- The records of an export name the sheets that fail: the refused ones first. -/
theorem names_of_exportIssues {w : Workbook} (name : w.name ≠ "") :
    ((exportIssues w).map (ErrorRecord.ofIssue clock.timestamp w.name "")).map
      (fun record => (record.file, record.sheet)) |>.Perm
    ((w.sheets.filter (isStopped w)).map fun s => (w.name, orElse s.name fileLevel)) := by
  have fallback (own : String) : orElse own "" = own := by
    rw [orElse]
    split_ifs with empty
    · exact empty.symm
    · rfl
  rw [exportIssues, refused, accepted, interpretSheets, List.filterMap_map, List.filterMap_map]
  induction w.sheets with
  | nil => exact .refl _
  | cons s rest inductionHypothesis =>
    simp only [List.map_append, List.map_map] at inductionHypothesis ⊢
    cases verdict : interpretIn w.name (collectEnums w) s with
    | error e =>
      have place := interpretIn_refusesAt (collectEnums w) e verdict
      have names := ofIssue_names clock.timestamp w.name e.issue name place (fallback s.name)
      rw [List.filterMap_cons_some (by rw [Function.comp_apply, verdict]),
        List.filterMap_cons_none (by rw [Function.comp_apply, verdict]; rfl),
        List.filter_cons_of_pos (by rw [isStopped, verdict]), List.map_cons, List.map_cons, List.cons_append]
      simp only [Function.comp_apply, names]
      exact inductionHypothesis.cons _
    | ok d =>
      have accepts := (accepts_of_interpretIn verdict).1
      rw [List.filterMap_cons_none (by rw [Function.comp_apply, verdict]),
        List.filterMap_cons_some (by rw [Function.comp_apply, verdict]; rfl)]
      cases cell : coercionIssue? d with
      | none =>
        rw [List.filterMap_cons_none cell,
          List.filter_cons_of_neg (by
            rw [isStopped, verdict]
            dsimp only
            rw [cell]
            exact Bool.false_ne_true)]
        exact inductionHypothesis
      | some i =>
        have place := place_of_coercionIssue cell
        rw [accepts.file, accepts.named] at place
        have names := ofIssue_names clock.timestamp w.name i name place (fallback s.name)
        rw [List.filterMap_cons_some cell,
          List.filter_cons_of_pos (by rw [isStopped, verdict]; dsimp only; rw [cell]; rfl), List.map_cons,
          List.map_cons]
        simp only [Function.comp_apply, names]
        exact List.perm_middle.trans (inductionHypothesis.cons _)

/-- A file whose export is not given up is settled. -/
theorem settles_of_exportsTo (becomes : Becomes t (ExportsTo clock root) p seen)
    (finished : ¬seen.1.outcome.AssetFailed) :
    assetsYield.Settles p (workbookAt? t p) seen.1 := by
  obtain ⟨opened, opens, becomes⟩ := becomes
  obtain ⟨result, lost⟩ := seen
  cases becomes with
  | unopened u =>
    rw [workbookAt?_eq_none opens]
    refine ⟨rfl, rfl, rfl, rfl, rfl, ?_⟩
    rw [List.map_singleton, record_of_unopened opens]
    exact .refl _
  | finished w sheets seen =>
    have known := workbookAt?_eq_some.mpr opens
    obtain ⟨identifier, name⟩ := named_of_workbookAt? known
    have failed : (FileOutcome.ofSheets p sheets []).failedSheets = (w.sheets.filter (isStopped w)).length ∧
        (FileOutcome.ofSheets p sheets []).status =
          if w.sheets.any (isStopped w) then .failed else .success :=
      failed_ofSheets (map_of_forall₂ seen fun s o own => succeeded_of_exported own)
    obtain ⟨artifacts, records⟩ := counts_of_sheetsExported seen
    have all : exportable w = (w.sheets.filterMap fun s =>
        (interpretIn w.name (collectEnums w) s).toOption).filter fun d => (coercionIssue? d).isNone := by
      rw [exportable, accepted, interpretSheets, List.filterMap_map]
      rfl
    rw [← all] at artifacts records
    rw [known]
    refine ⟨rfl, failed.2, failed.1, artifacts, ?_, ?_⟩
    · rw [records_ofSheets]
      exact records
    · rw [Yield.culprits, Yield.failing, ← name]
      exact names_of_exportIssues (filled_of_isIdentifier identifier)
  | givenUp w lost e few paths system =>
    exact absurd ⟨e.message, rfl⟩ finished

/-- The registry takes in the accepted sheets of a file whose modules are all written. -/
theorem entries_of_generates (becomes : Becomes t (Generates clock target) p seen)
    (finished : ¬seen.1.outcome.WriteFailed) :
    seen.1.entries = ((workbookAt? t p).map registryEntries).getD [] := by
  obtain ⟨opened, opens, becomes⟩ := becomes
  obtain ⟨result, lost⟩ := seen
  cases becomes with
  | unopened u =>
    rw [workbookAt?_eq_none opens]
    rfl
  | finished w sheets shared seen paths =>
    rw [workbookAt?_eq_some.mpr opens]
    rfl
  | givenUp w early late sheets lost e split seen few paths system =>
    exact absurd ⟨e.message, rfl⟩ finished

end Files

end TypedSheets.Run
