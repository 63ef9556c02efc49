import TypedSheets.Proofs.Files.AssetRoundTrip
import TypedSheets.Proofs.Files.PathTexts
import TypedSheets.Proofs.Runs.ExporterTurns

/-!
# Verified exports

An exporter exports the sheets that it has container types for, and then reads every asset back. Nothing is
written from then on, so that an asset that loads is one that loads at the end. An asset that does not load
turns the outcome of its sheet into a failure, and is of no account for the other sheets
(`exports_verified`).

So there are two kinds of failures. A sheet that yields no records has written nothing, and there is an issue
that says why. A sheet whose asset does not load has been written, and no issue speaks of it
(`failed_sheets`).
-/

namespace TypedSheets

open TypedSheets.Emission TypedSheets.Grid TypedSheets.Schema TypedSheets.Text TypedSheets.Yaml FileTree

/-- The container that the asset at a path loads into. -/
def ContainerType.loadAt (t : ContainerType) (files : FileTree) (p : Path) : Except Failure Container :=
  Job.answer (readAsset none p.text) files >>= t.fromAsset

section Workbooks

variable {w : Workbook} {root : Path} {selection : Option (List String)} {t u : FileTree}
  {result : WorkbookExport} {o : SheetOutcome}

/-- A sheet that succeeds is selected, and has written its own asset and no other. -/
theorem IsolatedExport.of_succeeded (isolated : IsolatedExport w root selection t u result)
    (member : o ∈ result.sheets) (succeeded : o.succeeded = true) :
    isSelected selection o.sheet = true ∧
      ∃ artifact, o.artifacts = [artifact] ∧ artifact.path = assetPath root w.name o.sheet := by
  obtain ⟨own, split, outcomes⟩ := isolated.outcomes
  rw [split] at member
  rcases List.mem_append.mp member with inside | absent
  · obtain ⟨sheet, chosen, outcome⟩ := exists_of_forall₂ outcomes inside
    obtain ⟨d, records, yields⟩ := outcome.succeeded.mp succeeded
    obtain ⟨-, artifact, text, artifacts, path, -⟩ := outcome.written d records yields
    rw [outcome.named]
    exact ⟨(List.mem_filter.mp chosen).2, artifact, artifacts, path⟩
  · obtain ⟨name, -, rfl⟩ := List.mem_map.mp absent
    cases succeeded

/-- The outcome of a sheet that succeeds is that of a sheet of the workbook. -/
theorem IsolatedExport.outcomeOf_of_succeeded (isolated : IsolatedExport w root selection t u result)
    (member : o ∈ result.sheets) (succeeded : o.succeeded = true) : OutcomeOf w root u o.sheet o := by
  obtain ⟨own, split, outcomes⟩ := isolated.outcomes
  rw [split] at member
  rcases List.mem_append.mp member with inside | absent
  · obtain ⟨sheet, -, outcome⟩ := exists_of_forall₂ outcomes inside
    rwa [outcome.named]
  · obtain ⟨name, -, rfl⟩ := List.mem_map.mp absent
    cases succeeded

/-- A sheet of a workbook that yields records is there. -/
theorem Yields.mem_sheetNames {sheet : String} {d : Description} {records : List Entries}
    (yields : Yields w sheet d records) : sheet ∈ w.sheetNames := by
  obtain ⟨described, rfl, -⟩ := yields
  exact (accepted_sublist w).subset (List.mem_map_of_mem described)

/-- Its name is an identifier, -/
theorem Yields.isIdentifier {sheet : String} {d : Description} {records : List Entries}
    (yields : Yields w sheet d records) : isIdentifier sheet = true := by
  obtain ⟨described, rfl, -⟩ := yields
  obtain ⟨s, -, verdict⟩ := mem_accepted.mp described
  have accepts := (accepts_of_interpretIn verdict).1
  rw [accepts.named]
  exact accepts.identifier

/-- and a sheet that fails yields none. -/
theorem IsolatedExport.not_yields_of_failed (isolated : IsolatedExport w root selection t u result)
    (member : o ∈ result.sheets) (failed : o.succeeded = false) (d : Description) (records : List Entries) :
    ¬Yields w o.sheet d records := by
  intro yields
  obtain ⟨own, split, outcomes⟩ := isolated.outcomes
  rw [split] at member
  rcases List.mem_append.mp member with inside | absent
  · obtain ⟨sheet, -, outcome⟩ := exists_of_forall₂ outcomes inside
    rw [outcome.named] at yields
    rw [outcome.succeeded.mpr ⟨d, records, yields⟩] at failed
    cases failed
  · obtain ⟨name, missing, rfl⟩ := List.mem_map.mp absent
    have unknown : name ∉ w.sheetNames := by simpa using (List.mem_filter.mp missing).2
    exact unknown yields.mem_sheetNames

/-- An outcome that fails has its issue, -/
theorem IsolatedExport.exists_issue (isolated : IsolatedExport w root selection t u result)
    (member : o ∈ result.sheets) (failed : o.succeeded = false) : ∃ i ∈ result.issues, FailsBy w o i := by
  obtain ⟨issues, same, each⟩ := isolated.paired
  have among : o ∈ result.sheets.filter fun o => !o.succeeded := List.mem_filter.mpr ⟨member, by rw [failed]; rfl⟩
  obtain ⟨i, inside, fails⟩ := exists_of_forall₂ each.flip among
  exact ⟨i, same.mem_iff.mp inside, fails⟩

/-- and an issue speaks of a sheet that fails. -/
theorem IsolatedExport.exists_failed (isolated : IsolatedExport w root selection t u result) {i : Issue}
    (listed : i ∈ result.issues) : ∃ o ∈ result.sheets, o.succeeded = false ∧ o.sheet = i.place.sheet := by
  obtain ⟨issues, same, each⟩ := isolated.paired
  obtain ⟨o, among, fails⟩ := exists_of_forall₂ each (same.mem_iff.mpr listed)
  obtain ⟨member, failed⟩ := List.mem_filter.mp among
  exact ⟨o, member, by simpa using failed, by rw [fails.1]; rfl⟩

/-- The file that a path leads to is as it was: the same content stands there, or none as before, and what
could be read reads the same. -/
structure LeavesFile (p : Path) (before after : FileTree) : Prop where
  place : ∀ at_, after.locate p = .ok at_ → after.fileAt? at_ = before.fileAt? at_
  content : ∀ c, before.read p = .ok c → after.read p = .ok c

/-- The asset of a sheet that yields no records is left as it was. -/
theorem IsolatedExport.leavesFile (isolated : IsolatedExport w root selection t u result)
    (kept : KeepsDirectories t u) {sheet : String} (noSlash : '/' ∉ sheet.toList)
    (nothing : ∀ d records, ¬Yields w sheet d records) : LeavesFile (assetPath root w.name sheet) t u := by
  have apart : ∀ at_, u.locate (assetPath root w.name sheet) = .ok at_ → ∀ p ∈ result.sheets,
      p.succeeded = true → u.locate (assetPath root w.name p.sheet) ≠ .ok at_ := by
    intro at_ located p member succeeded led
    obtain ⟨d, records, yields⟩ := (isolated.outcomeOf_of_succeeded member succeeded).succeeded.mp succeeded
    have other : sheet ≠ p.sheet := by
      rintro rfl
      exact nothing d records yields
    exact assetPath_apart other noSlash
      (Yaml.slash_not_mem_of_isIdentifier _ yields.isIdentifier) located led rfl
  refine ⟨fun at_ located => isolated.frame at_ (apart at_ located), fun content red => ?_⟩
  obtain ⟨noNull, at_, located, found⟩ := FileTree.read_ok red
  have still := locate_kept kept _ _ located
  exact FileTree.read_eq noNull still (by rw [isolated.frame at_ (apart at_ still), found])

end Workbooks

namespace SchemaExporter

/-- What the verification makes of the outcome of a sheet. A failure stays as it is. A success stays as it is
when the asset that it has written loads into the container type of the sheet, and fails for the reason that
the asset does not load otherwise. -/
inductive Verified (x : SchemaExporter) (w : Workbook) (files : FileTree) : SheetOutcome → SheetOutcome → Prop
  | failed {o : SheetOutcome} (failed : o.succeeded = false) : Verified x w files o o
  | loads {o : SheetOutcome} {t : ContainerType} {artifact : Written} {c : Container}
      (succeeded : o.succeeded = true) (bound : x.containers.lookup o.sheet = some t)
      (artifacts : o.artifacts = [artifact]) (path : artifact.path = assetPath x.assetRoot w.name o.sheet)
      (loads : t.loadAt files artifact.path = .ok c) : Verified x w files o o
  | stale {o : SheetOutcome} {t : ContainerType} {artifact : Written} {e : Failure}
      (succeeded : o.succeeded = true) (bound : x.containers.lookup o.sheet = some t)
      (artifacts : o.artifacts = [artifact]) (path : artifact.path = assetPath x.assetRoot w.name o.sheet)
      (refused : t.loadAt files artifact.path = .error e) :
      Verified x w files o { o with error := some (staleText t e) }

/-- Two exporters of one file to one place, for the same sheets, with different container types for one sheet
at most. -/
structure DiffersAt (x y : SchemaExporter) (sheet : String) : Prop where
  source : y.source = x.source
  root : y.assetRoot = x.assetRoot
  names : y.containers.map Prod.fst = x.containers.map Prod.fst
  others : ∀ name ≠ sheet, y.containers.lookup name = x.containers.lookup name

section Outcomes

variable {x y : SchemaExporter} {w : Workbook} {files : FileTree} {o checked : SheetOutcome}

/-- One asset is read back by loading it. -/
theorem answer_readBack (t : ContainerType) (artifact : Written) :
    Job.answer (readBack t [artifact]) files = (t.loadAt files artifact.path).map fun _ => () := by
  rw [readBack, Job.answer_bind (isQuestion_readAsset none _), ContainerType.loadAt]
  cases Job.answer (readAsset none artifact.path.text) files with
  | error e => rfl
  | ok payload =>
    dsimp only
    rw [Job.answer_bind (Job.isQuestion_ofExcept id _), Job.answer_ofExcept]
    cases loaded : t.fromAsset payload with
    | error e => simp [bind, Except.bind, loaded, Except.mapError, Except.map]
    | ok c => simp [bind, Except.bind, loaded, Except.mapError, Except.map, readBack]; rfl

/-- The check of an outcome is its verification, when a success has a container type and one asset. -/
theorem verified_checked (own : o.succeeded = true → isSelected x.selection o.sheet = true ∧
      ∃ artifact, o.artifacts = [artifact] ∧ artifact.path = assetPath x.assetRoot w.name o.sheet) :
    Verified x w files o (x.checked files o) := by
  cases succeeded : o.succeeded with
  | false =>
    obtain ⟨text, failed⟩ : ∃ text, o.error = some text := by
      rwa [SheetOutcome.succeeded, Option.isNone_eq_false_iff, Option.isSome_iff_exists] at succeeded
    rw [checked, failed]
    exact .failed succeeded
  | true =>
    obtain ⟨selected, artifact, artifacts, path⟩ := own succeeded
    obtain ⟨t, bound⟩ := exists_container selected
    have fine : o.error = none := by
      rwa [SheetOutcome.succeeded, Option.isNone_iff_eq_none] at succeeded
    have asked : Job.answer (readBack t o.artifacts) files =
        (t.loadAt files artifact.path).map fun _ => () := by rw [artifacts, answer_readBack]
    rw [checked, fine, bound]
    dsimp only
    rw [asked]
    cases loaded : t.loadAt files artifact.path with
    | ok c => exact .loads succeeded bound artifacts path loaded
    | error e => exact .stale succeeded bound artifacts path loaded

/-- What is left as a success has a container type, into which its asset loads. -/
theorem Verified.of_succeeded (verified : Verified x w files o checked) (succeeded : checked.succeeded = true) :
    ∃ t artifact c, x.containers.lookup checked.sheet = some t ∧ checked.artifacts = [artifact] ∧
      artifact.path = assetPath x.assetRoot w.name checked.sheet ∧ t.loadAt files artifact.path = .ok c := by
  cases verified with
  | failed failed =>
    rw [succeeded] at failed
    cases failed
  | loads _ bound artifacts path loads => exact ⟨_, _, _, bound, artifacts, path, loads⟩
  | stale => cases succeeded

/-- What succeeded is left as a success exactly when its asset loads. -/
theorem Verified.succeeded_eq {t : ContainerType} (verified : Verified x w files o checked)
    (succeeded : o.succeeded = true) (bound : x.containers.lookup o.sheet = some t) : checked.sheet = o.sheet ∧
      checked.succeeded = (t.loadAt files (assetPath x.assetRoot w.name o.sheet)).isOk := by
  cases verified with
  | failed failed =>
    rw [succeeded] at failed
    cases failed
  | loads _ own _ path loads =>
    rw [bound] at own
    cases own
    rw [← path, loads, succeeded]
    exact ⟨rfl, rfl⟩
  | stale _ own _ path refused =>
    rw [bound] at own
    cases own
    rw [← path, refused]
    exact ⟨rfl, rfl⟩

/-- A check depends on the container type of its sheet alone. -/
theorem checked_congr (same : y.containers.lookup o.sheet = x.containers.lookup o.sheet) :
    y.checked files o = x.checked files o := by
  rw [checked, checked, same]

end Outcomes

/-- The sheets of a workbook are exported and then verified, whatever their container types are. -/
theorem export_eq_verified {x : SchemaExporter} {w : Workbook} {before middle : Workspace}
    {written : WorkbookExport} (read : SchemaFile.reading before.files x.source = .ok (.ok w))
    (distinct : w.sheetNames.Nodup)
    (exports : exportWorkbook w x.assetRoot x.selection before = (.ok written, middle)) :
    (∃ after, x.export_ before =
        (.ok { written with sheets := written.sheets.map (x.checked middle.files) }, after) ∧
      after.files = middle.files) ∧
      List.Forall₂ (Verified x w middle.files) written.sheets (written.sheets.map (x.checked middle.files)) := by
  have own := fun o member => (IsolatedExport.of_exportWorkbook distinct exports).of_succeeded (o := o) member
  refine ⟨run_export_of_bound read exports fun o member succeeded =>
    exists_container (own o member succeeded).1, ?_⟩
  rw [List.forall₂_map_right_iff, List.forall₂_same]
  exact fun o member => verified_checked (own o member)

/-- An exporter of a workbook fails only if the export of the selected sheets does. Otherwise it leaves the files
and the issues of this export, and its outcomes one by one, but for those of sheets whose asset does not load into
the container type of the sheet. What it reports as a success has a container type, into which its asset loads at
the end. With another container type for a sheet, the files, the issues and the outcomes of all other sheets are
the same. -/
theorem exports_verified {x : SchemaExporter} {w : Workbook} {before after : Workspace}
    {outcome : Except Failure WorkbookExport}
    (read : SchemaFile.reading before.files x.source = .ok (.ok w)) (distinct : w.sheetNames.Nodup)
    (ran : x.export_ before = (outcome, after)) :
    (∀ e, outcome = .error e → exportWorkbook w x.assetRoot x.selection before = (.error e, after)) ∧
    ∀ r, outcome = .ok r →
      (∃ written middle, exportWorkbook w x.assetRoot x.selection before = (.ok written, middle) ∧
        after.files = middle.files ∧ r.issues = written.issues ∧
        List.Forall₂ (Verified x w after.files) written.sheets r.sheets) ∧
      (∀ o ∈ r.sheets, o.succeeded = true → ∃ t artifact c, x.containers.lookup o.sheet = some t ∧
        o.artifacts = [artifact] ∧ artifact.path = assetPath x.assetRoot w.name o.sheet ∧
        t.loadAt after.files artifact.path = .ok c) ∧
      ∀ y sheet, DiffersAt x y sheet → ∃ s last, y.export_ before = (.ok s, last) ∧
        last.files = after.files ∧ s.issues = r.issues ∧
        List.Forall₂ (fun o other => other.sheet = o.sheet ∧ (o.sheet ≠ sheet → other = o))
          r.sheets s.sheets := by
  cases exports : exportWorkbook w x.assetRoot x.selection before with
  | mk result middle =>
    cases result with
    | error e =>
      rw [run_export, read] at ran
      dsimp only at ran
      rw [Job.run_bind, exports] at ran
      cases ran
      exact ⟨fun _ same => by rw [Except.error.inj same], nofun⟩
    | ok written =>
      obtain ⟨⟨last, ends, files⟩, verified⟩ := export_eq_verified read distinct exports
      rw [ends] at ran
      cases ran
      refine ⟨nofun, fun r same => ?_⟩
      cases same
      rw [files]
      refine ⟨⟨written, middle, rfl, rfl, rfl, verified⟩, fun o member succeeded => ?_, ?_⟩
      · obtain ⟨_, _, own⟩ := exists_of_forall₂ verified member
        exact own.of_succeeded succeeded
      · rintro y sheet ⟨source, root, names, others⟩
        rw [← source] at read
        have selection : y.selection = x.selection := by rw [selection, selection, names]
        rw [← root, ← selection] at exports
        obtain ⟨⟨end_, again, kept⟩, -⟩ := export_eq_verified read distinct exports
        refine ⟨_, end_, again, kept, rfl, ?_⟩
        rw [List.forall₂_map_left_iff, List.forall₂_map_right_iff, List.forall₂_same]
        intro o member
        have named (z : SchemaExporter) : (z.checked middle.files o).sheet = o.sheet := (z.kept_checked _ o).2.1
        refine ⟨by rw [named, named], fun other => ?_⟩
        rw [named] at other
        exact checked_congr (others o.sheet other)

/-- The records of the sheet of weapons, and their asset. -/
def weaponRecords : List Entries := [[("id", .int 7), ("kind", .int 1)]]

/-- The text of the asset is read as the asset. -/
theorem readValue_weaponText {text : String} (content : (sheetAsset "Weapon" weaponRecords).text = .ok text) :
    '\r' ∉ text.toList ∧ readValue text = .ok (sheetAsset "Weapon" weaponRecords).toValue := by
  have short {n : Int} (few : n.natAbs < 10) : n.natAbs < 10 ^ Number.digitLimit :=
    Nat.lt_of_lt_of_le few (Nat.le_self_pow (by decide) 10)
  have sheet : IsSheet "Weapon" ["id", "kind"] weaponRecords := by
    refine ⟨by decide, by decide, by decide, ?_⟩
    intro entries present
    rw [List.mem_singleton.mp present]
    refine ⟨rfl, ?_⟩
    simp only [List.forall_mem_cons, List.not_mem_nil, false_implies, implies_true, and_true]
    exact ⟨.int 7 (short (by decide)), .int 1 (short (by decide))⟩
  obtain ⟨own, written, noReturn, read⟩ := readValue_assetText (sheetAsset "Weapon" weaponRecords)
    (isName_of_isIdentifier _ (by decide)) (isName_of_isIdentifier _ (by decide)) sheet.isRecord
  rw [content] at written
  obtain rfl := Except.ok.inj written
  exact ⟨noReturn, read⟩

/-- So it is what a container type loads. -/
theorem loadAt_weapon {files : FileTree} {text : String}
    (content : (sheetAsset "Weapon" weaponRecords).text = .ok text)
    (held : files.read (assetPath armoryExporter.assetRoot "Armory" "Weapon") = .ok (.bytes (encodeUtf8 text)))
    (t : ContainerType) : t.loadAt files (assetPath armoryExporter.assetRoot "Armory" "Weapon") =
      t.fromAsset (sheetAsset "Weapon" weaponRecords).toValue := by
  obtain ⟨noReturn, read⟩ := readValue_weaponText content
  have normal : (assetPath armoryExporter.assetRoot "Armory" "Weapon").IsNormal :=
    (((Path.isNormal_ofText "assets").child rootDirectory).child _).child _
  have loaded := readAsset_of_read _ text noReturn read none
    (assetPath armoryExporter.assetRoot "Armory" "Weapon").text { files }
    (by rw [assetFilePath, ofText_text normal]; exact held)
  rw [ContainerType.loadAt, Job.answer, loaded]
  rfl

/-- The exporter of the workbook with some container type for weapons. -/
def armoryInto (t : ContainerType) : SchemaExporter := { armoryExporter with containers := [("Weapon", t)] }

/-- A container type whose record type is not known. -/
def unboundType : ContainerType := { name := "WeaponDTO", record := none }

/-- The exporter of the workbook verifies its sheet. With a container type that knows no record type it reports
this sheet as a failure, and leaves the same files. -/
theorem exports_verified_armory : ∃ r after s last,
    SchemaFile.reading brokenTree armoryExporter.source = .ok (.ok armory) ∧ armory.sheetNames.Nodup ∧
    armoryExporter.export_ { files := brokenTree } = (.ok r, after) ∧
    (armoryInto unboundType).export_ { files := brokenTree } = (.ok s, last) ∧ last.files = after.files ∧
    (∃ o ∈ r.sheets, o.sheet = "Weapon" ∧ o.succeeded = true) ∧
    ∃ o ∈ s.sheets, o.sheet = "Weapon" ∧ o.succeeded = false := by
  have distinct : armory.sheetNames.Nodup := by decide
  have yields : Yields armory "Weapon" weaponDescription weaponRecords := by
    refine ⟨?_, rfl, rfl⟩
    rw [accepted_armory]
    exact List.mem_cons_self
  have verdict (t : ContainerType) {r : WorkbookExport} {after : Workspace}
      (ran : (armoryInto t).export_ { files := brokenTree } = (.ok r, after)) : ∃ o ∈ r.sheets,
      o.sheet = "Weapon" ∧ o.succeeded = (t.fromAsset (sheetAsset "Weapon" weaponRecords).toValue).isOk := by
    obtain ⟨-, ends⟩ := @exports_verified (armoryInto t) armory { files := brokenTree } after (.ok r)
      reading_brokenTree distinct ran
    obtain ⟨⟨written, middle, exports, files, -, verified⟩, -, -⟩ := ends r rfl
    have isolated := IsolatedExport.of_exportWorkbook distinct exports
    have selected : armory.sheetNames.filter (isSelected (armoryInto t).selection) = ["Weapon"] := rfl
    obtain ⟨text, content, held⟩ := isolated.read_eq_ok (by rw [selected]; exact List.mem_cons_self) yields
    obtain ⟨own, split, outcomes⟩ := isolated.outcomes
    rw [selected] at outcomes
    obtain ⟨o, _, outcome, -, rfl⟩ := List.forall₂_cons_left_iff.mp outcomes
    have member : o ∈ written.sheets := by
      rw [split]
      exact List.mem_append_left _ List.mem_cons_self
    obtain ⟨checked, present, verified⟩ := exists_of_forall₂ verified.flip member
    have bound : (armoryInto t).containers.lookup o.sheet = some t := by rw [outcome.named]; rfl
    obtain ⟨sheet, succeeded⟩ := verified.succeeded_eq
      (outcome.succeeded.mpr ⟨_, _, yields⟩) bound
    rw [outcome.named, files, show (armoryInto t).assetRoot = armoryExporter.assetRoot from rfl,
      show armory.name = "Armory" from rfl, loadAt_weapon content held t] at succeeded
    exact ⟨checked, present, sheet.trans outcome.named, succeeded⟩
  obtain ⟨r, after, ran⟩ := export_armoryExporter (w := { files := brokenTree }) rfl
  obtain ⟨-, ends⟩ := @exports_verified armoryExporter armory { files := brokenTree } after (.ok r)
    reading_brokenTree distinct ran
  have differs : DiffersAt armoryExporter (armoryInto unboundType) "Weapon" := by
    refine ⟨rfl, rfl, rfl, fun name other => ?_⟩
    have differs : (name == "Weapon") = false := beq_false_of_ne other
    simp only [armoryInto, armoryExporter, List.lookup_cons, List.lookup_nil, differs]
  obtain ⟨s, last, again, kept, -, -⟩ := (ends r rfl).2.2 (armoryInto unboundType) "Weapon" differs
  refine ⟨r, after, s, last, reading_brokenTree, distinct, ran, again, kept, ?_, ?_⟩
  · obtain ⟨o, member, sheet, succeeded⟩ := verdict _ ran
    exact ⟨o, member, sheet, succeeded.trans (by decide +kernel)⟩
  · obtain ⟨o, member, sheet, failed⟩ := verdict _ again
    exact ⟨o, member, sheet, failed.trans (by decide +kernel)⟩

section Failures

variable {x : SchemaExporter} {w : Workbook} {before after : Workspace} {r : WorkbookExport} {o : SheetOutcome}

/-- A failed sheet of which nothing is written. There is neither artifact nor record, an issue has the text of
the failure, and the asset is left as it was. Only a name with a slash, which no sheet of a workbook has that
yields records, can lead to the asset of another sheet. -/
structure WroteNothing (x : SchemaExporter) (w : Workbook) (before after : FileTree) (r : WorkbookExport)
    (o : SheetOutcome) : Prop where
  artifacts : o.artifacts = []
  records : o.records = 0
  listed : ∃ i ∈ r.issues, FailsBy w o i
  asset : '/' ∉ o.sheet.toList → LeavesFile (assetPath x.assetRoot w.name o.sheet) before after
  elsewhere : ∀ at_, after.locate (assetPath x.assetRoot w.name o.sheet) = .ok at_ →
    (∀ p ∈ r.sheets, p.artifacts ≠ [] → after.locate (assetPath x.assetRoot w.name p.sheet) ≠ .ok at_) →
    after.fileAt? at_ = before.fileAt? at_

/-- A failed sheet that is written all the same. Its outcome names its asset and counts its records, the asset
holds them and does not load into the container type of the sheet, and no issue speaks of the sheet. -/
structure LeftStale (x : SchemaExporter) (w : Workbook) (d : Description) (records : List Entries)
    (after : FileTree) (r : WorkbookExport) (o : SheetOutcome) : Prop where
  artifact : ∃ artifact, o.artifacts = [artifact] ∧ artifact.path = assetPath x.assetRoot w.name o.sheet
  count : o.records = d.rows.length
  held : ∃ text, (sheetAsset o.sheet records).text = .ok text ∧
    after.read (assetPath x.assetRoot w.name o.sheet) = .ok (.bytes (encodeUtf8 text))
  stale : ∃ t e, x.containers.lookup o.sheet = some t ∧
    t.loadAt after (assetPath x.assetRoot w.name o.sheet) = .error e ∧ o.error = some (staleText t e)
  unlisted : ∀ i ∈ r.issues, i.place.sheet ≠ o.sheet

/-- What an exporter gives is the verified export of its workbook. -/
theorem exists_verified (read : SchemaFile.reading before.files x.source = .ok (.ok w))
    (distinct : w.sheetNames.Nodup) (ran : x.export_ before = (.ok r, after)) :
    ∃ written, IsolatedExport w x.assetRoot x.selection before.files after.files written ∧
      KeepsDirectories before.files after.files ∧ r.issues = written.issues ∧
      List.Forall₂ (Verified x w after.files) written.sheets r.sheets := by
  cases exports : exportWorkbook w x.assetRoot x.selection before with
  | mk result middle =>
    cases result with
    | error e =>
      rw [run_export, read] at ran
      dsimp only at ran
      rw [Job.run_bind, exports] at ran
      cases ran
    | ok written =>
      obtain ⟨⟨last, ends, files⟩, verified⟩ := export_eq_verified read distinct exports
      rw [ends] at ran
      cases ran
      obtain ⟨_, _, -, -, -, -, -, -, kept, -⟩ := answers_of_exportWorkbook distinct exports
      rw [files]
      exact ⟨written, .of_exportWorkbook distinct exports, kept, rfl, verified⟩

/-- What succeeds before it is verified has an artifact afterwards. -/
theorem Verified.artifacts_ne_nil {files : FileTree} {checked : SheetOutcome} (verified : Verified x w files o checked)
    (succeeded : o.succeeded = true) : checked.sheet = o.sheet ∧ checked.artifacts ≠ [] := by
  cases verified with
  | failed failed =>
    rw [succeeded] at failed
    cases failed
  | loads _ _ artifacts => exact ⟨rfl, by rw [artifacts]; exact List.cons_ne_nil _ _⟩
  | stale _ _ artifacts => exact ⟨rfl, by dsimp only; rw [artifacts]; exact List.cons_ne_nil _ _⟩

/-- A failed sheet that yields no records wrote nothing, and one that yields records is written and stale. -/
theorem failed_sheets (read : SchemaFile.reading before.files x.source = .ok (.ok w))
    (distinct : w.sheetNames.Nodup) (ran : x.export_ before = (.ok r, after)) (member : o ∈ r.sheets)
    (failed : o.succeeded = false) :
    ((∀ d records, ¬Yields w o.sheet d records) → WroteNothing x w before.files after.files r o) ∧
    ∀ d records, Yields w o.sheet d records → LeftStale x w d records after.files r o := by
  obtain ⟨written, isolated, kept, issues, verified⟩ := exists_verified read distinct ran
  obtain ⟨own, inside, outcome⟩ := exists_of_forall₂ verified member
  cases outcome with
  | loads succeeded =>
    rw [succeeded] at failed
    cases failed
  | failed failed =>
    have nothing := isolated.not_yields_of_failed inside failed
    refine ⟨fun _ => ?_, fun d records yields => absurd yields (nothing d records)⟩
    obtain ⟨i, listed, fails⟩ := isolated.exists_issue inside failed
    refine ⟨by rw [fails.1]; rfl, by rw [fails.1]; rfl, ⟨i, issues ▸ listed, fails⟩,
      fun noSlash => isolated.leavesFile kept noSlash nothing, fun at_ located elsewhere => ?_⟩
    refine isolated.frame at_ fun p present succeeded => ?_
    obtain ⟨checked, later, verdict⟩ := exists_of_forall₂ verified.flip present
    obtain ⟨sheet, artifacts⟩ := verdict.artifacts_ne_nil succeeded
    rw [← sheet]
    exact elsewhere checked later artifacts
  | @stale t artifact e succeeded bound artifacts path refused =>
    have outcome := isolated.outcomeOf_of_succeeded inside succeeded
    obtain ⟨d, records, yields⟩ := outcome.succeeded.mp succeeded
    refine ⟨fun nothing => absurd yields (nothing d records), fun d records yields => ?_⟩
    obtain ⟨count, own, text, same, -, content, held⟩ := outcome.written d records yields
    rw [artifacts] at same
    cases same
    rw [path] at held refused
    refine ⟨⟨artifact, artifacts, path⟩, count, ⟨text, content, held⟩, ⟨t, e, bound, refused, rfl⟩,
      fun i listed same => ?_⟩
    obtain ⟨p, present, unwritten, sheet⟩ := isolated.exists_failed (issues ▸ listed)
    rw [same] at sheet
    exact isolated.not_yields_of_failed present unwritten d records (sheet ▸ yields)

end Failures

/-- The exporter of the workbook and of a sheet that it lacks, with container types that know no record type. -/
def staleExporter : SchemaExporter :=
  { armoryExporter with containers := [("Weapon", unboundType), ("Nowhere", unboundType)] }

/-- Both sheets fail: nothing of the missing one is written, and the other is written and stale. -/
theorem failed_sheets_armory : ∃ r after,
    SchemaFile.reading brokenTree staleExporter.source = .ok (.ok armory) ∧ armory.sheetNames.Nodup ∧
    staleExporter.export_ { files := brokenTree } = (.ok r, after) ∧
    (∃ o ∈ r.sheets, o.sheet = "Nowhere" ∧ o.succeeded = false ∧
      WroteNothing staleExporter armory brokenTree after.files r o) ∧
    ∃ o ∈ r.sheets, o.sheet = "Weapon" ∧ o.succeeded = false ∧
      LeftStale staleExporter armory weaponDescription weaponRecords after.files r o := by
  have distinct : armory.sheetNames.Nodup := by decide
  have read : SchemaFile.reading brokenTree staleExporter.source = .ok (.ok armory) := reading_brokenTree
  have there : brokenTree.isFile? (assetPath staleExporter.assetRoot "Armory" "Weapon") = .ok true := by
    decide +kernel
  obtain ⟨written, middle, exports⟩ :=
    @Run.exportWorkbook_armory { files := brokenTree } there staleExporter.selection rfl
  obtain ⟨⟨after, ran, files⟩, verified⟩ :=
    @export_eq_verified staleExporter armory { files := brokenTree } middle written read distinct exports
  have isolated := IsolatedExport.of_exportWorkbook distinct exports
  obtain ⟨own, split, outcomes⟩ := isolated.outcomes
  have selected : armory.sheetNames.filter (isSelected staleExporter.selection) = ["Weapon"] := rfl
  have missing : missingNames armory staleExporter.selection = ["Nowhere"] := by decide
  have yields : Yields armory "Weapon" weaponDescription weaponRecords := by
    refine ⟨?_, rfl, rfl⟩
    rw [accepted_armory]
    exact List.mem_cons_self
  refine ⟨_, after, read, distinct, ran, ?_, ?_⟩
  · have lacking : ∀ d records, ¬Yields armory "Nowhere" d records := fun d records yields =>
      absurd yields.mem_sheetNames (by decide)
    have member : SheetOutcome.failed "Armory" "Nowhere" (missingIssue armory "Nowhere").text ∈
        written.sheets.map (staleExporter.checked middle.files) := by
      refine List.mem_map.mpr ⟨.failed "Armory" "Nowhere" (missingIssue armory "Nowhere").text, ?_, rfl⟩
      rw [split, missing]
      exact List.mem_append_right own List.mem_cons_self
    exact ⟨_, member, rfl, rfl, (failed_sheets read distinct ran member rfl).1 lacking⟩
  · obtain ⟨text, content, held⟩ := isolated.read_eq_ok (by rw [selected]; exact List.mem_cons_self) yields
    rw [selected] at outcomes
    obtain ⟨o, _, outcome, -, rfl⟩ := List.forall₂_cons_left_iff.mp outcomes
    have present : o ∈ written.sheets := by
      rw [split]
      exact List.mem_append_left _ List.mem_cons_self
    obtain ⟨checked, member, verdict⟩ := exists_of_forall₂ verified.flip present
    have bound : staleExporter.containers.lookup o.sheet = some unboundType := by rw [outcome.named]; rfl
    obtain ⟨sheet, succeeded⟩ := verdict.succeeded_eq (outcome.succeeded.mpr ⟨_, _, yields⟩) bound
    rw [outcome.named, show staleExporter.assetRoot = armoryExporter.assetRoot from rfl,
      show armory.name = "Armory" from rfl, loadAt_weapon content held unboundType] at succeeded
    have named : checked.sheet = "Weapon" := sheet.trans outcome.named
    have failed : checked.succeeded = false := succeeded.trans (by decide +kernel)
    exact ⟨checked, member, named, failed,
      (failed_sheets read distinct ran member failed).2 _ _ (by rwa [named])⟩

end SchemaExporter

end TypedSheets
