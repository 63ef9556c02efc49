import Mathlib.Data.List.Perm.Basic
import TypedSheets.Proofs.Runs.WholeRuns

/-!
# Files that are created and changed, and what is reported of them

As all that a run writes lies at different places, each file that it creates or changes has one entry,
whose status is right, and the entries of a status number the files of that kind. All of them are in the
report as long as the work on no file is given up; a file that is given up loses what was written in vain:
at most two modules, or the assets that were written before.
-/

namespace TypedSheets

open TypedSheets.Emission TypedSheets.Grid TypedSheets.Schema TypedSheets.Text FileTree

/-- There are so many locations of some kind. -/
def Numbers (n : Int) (kind : Location → Prop) : Prop :=
  ∃ all : List Location, all.Nodup ∧ (∀ at_, at_ ∈ all ↔ kind at_) ∧ n = all.length

/-- A file that was not there before, and is not the log. -/
def IsCreated (log : Path) (before after : FileTree) (at_ : Location) : Prop :=
  after.locate log ≠ .ok at_ ∧ before.fileAt? at_ = none ∧ after.fileAt? at_ ≠ none

/-- A file with other content than before, which is not the log. -/
def IsChanged (log : Path) (before after : FileTree) (at_ : Location) : Prop :=
  after.locate log ≠ .ok at_ ∧ before.fileAt? at_ ≠ none ∧ after.fileAt? at_ ≠ before.fileAt? at_

/-- Entries account for what has become of the files. -/
structure AccountsFor (log : Path) (before after : FileTree) (entries : List Written) : Prop where
  /-- A file that is not as it was has one entry. -/
  once : ∀ at_, after.locate log ≠ .ok at_ → after.fileAt? at_ ≠ before.fileAt? at_ →
    ∃ front w back, entries = front ++ w :: back ∧ after.locate w.path = .ok at_ ∧
      ∀ other ∈ front ++ back, after.locate other.path ≠ .ok at_
  /-- Every entry says what has become of its file. -/
  reported : ∀ w ∈ entries, ∃ at_, Reports before after w at_ ∧ after.locate log ≠ .ok at_
  created : Numbers (countStatus .generated entries) (IsCreated log before after)
  changed : Numbers (countStatus .updated entries) (IsChanged log before after)

/-- Locations of a kind are as many when it is said in another way. -/
theorem Numbers.congr {n : Int} {kind other : Location → Prop} (numbers : Numbers n kind)
    (same : ∀ at_, kind at_ ↔ other at_) : Numbers n other := by
  obtain ⟨all, distinct, members, length⟩ := numbers
  exact ⟨all, distinct, fun at_ => (members at_).trans (same at_), length⟩

section Entries

variable {t : FileTree} {entries : List Written}

/-- Entries that lead apart have as many places as there are of them. -/
theorem numbers_of_status (apart : (entries.map Written.path).Pairwise Apart)
    (located : ∀ w ∈ entries, ∃ at_, t.locate w.path = .ok at_) (status : WriteStatus) :
    Numbers (countStatus status entries) fun at_ =>
      ∃ w ∈ entries, w.status = status ∧ t.locate w.path = .ok at_ := by
  induction entries with
  | nil => exact ⟨[], List.nodup_nil, by simp, rfl⟩
  | cons w rest inductionHypothesis =>
    rw [List.map_cons, List.pairwise_cons] at apart
    obtain ⟨across, apartRest⟩ := apart
    obtain ⟨all, distinct, places, length⟩ := inductionHypothesis apartRest
      fun other member => located other (List.mem_cons_of_mem w member)
    by_cases own : w.status = status
    · obtain ⟨at_, here⟩ := located w List.mem_cons_self
      refine ⟨at_ :: all, List.nodup_cons.mpr ⟨?_, distinct⟩, ?_, ?_⟩
      · intro member
        obtain ⟨other, among, -, there⟩ := (places at_).mp member
        exact across other.path (List.mem_map_of_mem among) t at_ at_ here there rfl
      · intro place
        rw [List.mem_cons, places]
        constructor
        · rintro (rfl | ⟨other, among, same, there⟩)
          · exact ⟨w, List.mem_cons_self, own, here⟩
          · exact ⟨other, List.mem_cons_of_mem w among, same, there⟩
        · rintro ⟨other, among, same, there⟩
          rcases List.mem_cons.mp among with rfl | later
          · rw [here] at there
            exact .inl (Except.ok.inj there).symm
          · exact .inr ⟨other, later, same, there⟩
      · have further : countStatus status (w :: rest) = countStatus status rest + 1 :=
          List.countP_cons_of_pos (p := fun a : Written => a.status == status) (beq_iff_eq.mpr own)
        rw [further, List.length_cons, Nat.cast_succ, Nat.cast_succ, length]
    · refine ⟨all, distinct, ?_, ?_⟩
      · intro place
        rw [places]
        constructor
        · rintro ⟨other, among, same, there⟩
          exact ⟨other, List.mem_cons_of_mem w among, same, there⟩
        · rintro ⟨other, among, same, there⟩
          rcases List.mem_cons.mp among with rfl | later
          · exact absurd same own
          · exact ⟨other, later, same, there⟩
      · rw [← length, countStatus, countStatus, List.countP_cons_of_neg]
        rw [beq_iff_eq]
        exact own

/-- Only one of the entries that lead apart leads to a place. -/
theorem alone_of_apart (apart : (entries.map Written.path).Pairwise Apart) {w : Written}
    (member : w ∈ entries) {at_ : Location} (here : t.locate w.path = .ok at_) :
    ∃ front back, entries = front ++ w :: back ∧
      ∀ other ∈ front ++ back, t.locate other.path ≠ .ok at_ := by
  obtain ⟨front, back, rfl⟩ := List.append_of_mem member
  refine ⟨front, back, rfl, ?_⟩
  intro other among there
  rw [List.map_append, List.map_cons, List.pairwise_append, List.pairwise_cons] at apart
  obtain ⟨-, ⟨behind, -⟩, across⟩ := apart
  rcases List.mem_append.mp among with before | after
  · exact across other.path (List.mem_map_of_mem before) w.path List.mem_cons_self t at_ at_ there here rfl
  · exact behind other.path (List.mem_map_of_mem after) t at_ at_ here there rfl

end Entries

section Accounts

variable {log : Path} {before middle after : FileTree} {written entries : List Written}

/-- Entries that lead apart and are right account for the files, when each file that is not as it was
has one. -/
theorem accountsFor_of_reports (apart : (entries.map Written.path).Pairwise Apart)
    (reported : ∀ w ∈ entries, ∃ at_, Reports before after w at_ ∧ after.locate log ≠ .ok at_)
    (entry : ∀ at_, after.locate log ≠ .ok at_ → after.fileAt? at_ ≠ before.fileAt? at_ →
      ∃ w ∈ entries, after.locate w.path = .ok at_) : AccountsFor log before after entries := by
  have located : ∀ w ∈ entries, ∃ at_, after.locate w.path = .ok at_ := by
    intro w member
    obtain ⟨at_, reports, -⟩ := reported w member
    exact ⟨at_, reports.located⟩
  have told {w : Written} {at_ : Location} (member : w ∈ entries) (here : after.locate w.path = .ok at_) :
      Reports before after w at_ ∧ after.locate log ≠ .ok at_ := by
    obtain ⟨place, reports, elsewhere⟩ := reported w member
    have there := reports.located
    rw [here] at there
    cases there
    exact ⟨reports, elsewhere⟩
  refine ⟨?_, reported, ?_, ?_⟩
  · intro at_ elsewhere differs
    obtain ⟨w, member, here⟩ := entry at_ elsewhere differs
    obtain ⟨front, back, split, alone⟩ := alone_of_apart apart member here
    exact ⟨front, w, back, split, here, alone⟩
  · apply (numbers_of_status apart located .generated).congr
    intro at_
    constructor
    · rintro ⟨w, member, status, here⟩
      obtain ⟨reports, elsewhere⟩ := told member here
      exact ⟨elsewhere, reports.generated.mp status, reports.stands⟩
    · rintro ⟨elsewhere, nothing, stands⟩
      obtain ⟨w, member, here⟩ := entry at_ elsewhere (by rw [nothing]; exact stands)
      exact ⟨w, member, (told member here).1.generated.mpr nothing, here⟩
  · apply (numbers_of_status apart located .updated).congr
    intro at_
    constructor
    · rintro ⟨w, member, status, here⟩
      obtain ⟨reports, elsewhere⟩ := told member here
      exact ⟨elsewhere, reports.updated.mp status⟩
    · rintro ⟨elsewhere, old, differs⟩
      obtain ⟨w, member, here⟩ := entry at_ elsewhere differs
      exact ⟨w, member, (told member here).1.updated.mpr ⟨old, differs⟩, here⟩

/-- What was written at places that lead apart, and apart from the log, is accounted for when the log is
written. -/
theorem accountsFor_of_touches (touches : Touches written before middle)
    (apart : (written.map Written.path).Pairwise Apart) (steady : ∀ w ∈ written, Steady before w.path)
    (noLog : ∀ w ∈ written, Apart w.path log) (grows : Grows middle after)
    (same : ∀ at_, after.locate log ≠ .ok at_ → after.fileAt? at_ = middle.fileAt? at_)
    (listed : written.Perm entries) : AccountsFor log before after entries := by
  have entered := touches.perm listed
  have apartEntries : (entries.map Written.path).Pairwise Apart :=
    ((listed.map Written.path).pairwise_iff Apart.symm).mp apart
  apply accountsFor_of_reports apartEntries
  -- an entry says the same of the tree with the log
  · intro w member
    have among := listed.mem_iff.mpr member
    obtain ⟨at_, reports⟩ := entered.reported apartEntries
      (fun other inside => steady other (listed.mem_iff.mpr inside)) w member
    have located := locate_kept grows.directories w.path at_ reports.located
    have elsewhere : after.locate log ≠ .ok at_ := by
      intro onLog
      exact noLog w among after at_ at_ located onLog rfl
    refine ⟨at_, ⟨located, ?_, reports.generated, ?_⟩, elsewhere⟩
    · rw [same at_ elsewhere]
      exact reports.stands
    · rw [same at_ elsewhere]
      exact reports.skipped
  -- and a file that is not as it was has an entry
  · intro at_ elsewhere differs
    by_contra none
    apply differs
    rw [same at_ elsewhere]
    apply entered.others
    intro w member located
    exact none ⟨w, member, locate_kept grows.directories w.path at_ located⟩

end Accounts

/-- A report accounts for the files that a run has created and changed, but for entries that some of its
files do not report. -/
def Report.AccountsBut (report : Report) (log : Path) (before after : FileTree)
    (unreported : FileOutcome → List Written → Prop) : Prop :=
  ∃ lost : List (List Written),
    List.Forall₂ (fun f entries => entries = [] ∨ unreported f entries) report.files lost ∧
    AccountsFor log before after (report.artifacts ++ lost.flatten)

/-- When every file reports all, the report accounts for everything, and so do its counts. -/
theorem Report.AccountsBut.whole {report : Report} {log : Path} {before after : FileTree}
    {unreported : FileOutcome → List Written → Prop}
    (accounts : report.AccountsBut log before after unreported)
    (all : ∀ f ∈ report.files, ∀ entries, ¬unreported f entries) :
    AccountsFor log before after report.artifacts ∧
      Numbers report.tally.generated (IsCreated log before after) ∧
      Numbers report.tally.updated (IsChanged log before after) := by
  obtain ⟨lost, each, accountsFor⟩ := accounts
  have nothing : lost.flatten = [] := by
    rw [List.flatten_eq_nil_iff]
    intro entries member
    obtain ⟨f, among, none | some⟩ := exists_of_forall₂ each member
    · exact none
    · exact absurd some (all f among entries)
  rw [nothing, List.append_nil] at accountsFor
  exact ⟨accountsFor, accountsFor.created, accountsFor.changed⟩

namespace Run

/-- All that was written for some schema files, in another order: what is reported, then what is lost. -/
theorem perm_chronicles (all : List (FileResult × List Written)) :
    (all.flatMap chronicle).Perm ((all.map Prod.fst).flatMap (fun r => r.outcome.allArtifacts) ++
      (all.map Prod.snd).flatten) := by
  rw [List.flatMap_map, ← List.flatMap_def]
  refine .trans ?_ (List.flatMap_append_perm all _ _).symm
  exact .flatMap_left all fun seen _ => seen.1.outcome.perm_chronicle seen.2

section Whole

variable {clock : Clock} {target : Destination} {root source log : Path} {t middle after : FileTree}
  {paths places : List Path} {all : List (FileResult × List Written)} {shared : List Written}

/-- When all was written at steady places that lead apart, also from the log, the report accounts for it
but for what is lost. -/
theorem accountsBut_of_becomes
    {becomes : Path → Except Unopened Workbook → List Written → FileResult → Prop}
    {unreported : FileOutcome → List Written → Prop}
    (each : List.Forall₂ (Becomes t becomes) paths all)
    (touches : Touches (all.flatMap chronicle ++ shared) t middle)
    (among : ((all.flatMap chronicle ++ shared).map Written.path).Sublist places)
    (apart : places.Pairwise Apart) (steady : ∀ p ∈ places, Steady t p)
    (noLog : ∀ p ∈ places, Apart p log) (grows : Grows middle after)
    (same : ∀ at_, after.locate log ≠ .ok at_ → after.fileAt? at_ = middle.fileAt? at_)
    (loses : ∀ p seen, Becomes t becomes p seen → seen.2 = [] ∨ unreported seen.1.outcome seen.2) :
    Report.AccountsBut ⟨(all.map Prod.fst).map FileResult.outcome, shared⟩ log t after unreported := by
  refine ⟨all.map Prod.snd, ?_, ?_⟩
  · rw [List.map_map, List.forall₂_map_left_iff, List.forall₂_map_right_iff, List.forall₂_same]
    intro seen member
    obtain ⟨p, -, becomes⟩ := exists_of_forall₂ each member
    exact loses p seen becomes
  · have place {w : Written} (member : w ∈ all.flatMap chronicle ++ shared) : w.path ∈ places :=
      among.subset (List.mem_map_of_mem member)
    apply accountsFor_of_touches touches (apart.sublist among) (fun w member => steady _ (place member))
      (fun w member => noLog _ (place member)) grows same
    rw [Report.artifacts, List.map_map, List.flatMap_map]
    refine ((perm_chronicles all).append_right shared).trans ?_
    rw [List.flatMap_map, List.append_assoc, List.append_assoc]
    exact List.perm_append_comm.append_left _

/-- What a file does not report when modules are generated: modules of its workbook, two at most, and only
when the work on it was given up. -/
def LosesModules (target : Destination) (t : FileTree) (f : FileOutcome) (lost : List Written) : Prop :=
  f.WriteFailed ∧ lost.length < 3 ∧
    (lost.map Written.path).Sublist (modulesAt target (workbookAt? t f.path))

/-- What a file does not report when it is exported: assets of its workbook that were written before the
one that could not be. -/
def LosesAssets (root : Path) (t : FileTree) (f : FileOutcome) (lost : List Written) : Prop :=
  f.AssetFailed ∧ lost.length < (assetsAt root (workbookAt? t f.path)).length ∧
    (lost.map Written.path).Sublist (assetsAt root (workbookAt? t f.path))

theorem loses_of_generates {p : Path} {seen : FileResult × List Written}
    (becomes : Becomes t (Generates clock target) p seen) :
    seen.2 = [] ∨ LosesModules target t seen.1.outcome seen.2 := by
  have among := places_of_generates becomes
  obtain ⟨opened, opens, becomes⟩ := becomes
  obtain ⟨result, lost⟩ := seen
  cases becomes with
  | unopened u => exact .inl rfl
  | finished w sheets shared seen paths => exact .inl rfl
  | givenUp w early late sheets lost e split seen few paths system =>
    refine .inr ⟨⟨e.message, rfl⟩, few, ?_⟩
    rw [chronicle, FileOutcome.chronicle, List.map_append] at among
    exact (List.sublist_append_right _ _).trans among

theorem loses_of_exportsTo {p : Path} {seen : FileResult × List Written}
    (becomes : Becomes t (ExportsTo clock root) p seen) :
    seen.2 = [] ∨ LosesAssets root t seen.1.outcome seen.2 := by
  obtain ⟨opened, opens, becomes⟩ := becomes
  obtain ⟨result, lost⟩ := seen
  cases becomes with
  | unopened u => exact .inl rfl
  | finished w sheets seen => exact .inl rfl
  | givenUp w lost e few paths system =>
    have assets : assetsAt root (workbookAt? t p) =
        (accepted w).map fun d => assetPath root d.schema d.sheet := by
      rw [workbookAt?_eq_some.mpr opens]
      rfl
    refine .inr ⟨⟨e.message, rfl⟩, ?_, ?_⟩
    · rw [assets, List.length_map]
      exact few
    · rw [assets]
      exact paths

/-- The modules of a run are steady below a straight path. -/
theorem steady_modulePlaces (found : Found t source paths) (rooted : Rooted t) {code : String}
    {asset : Path} {project : Option String} (straight : Straight t (.ofText code)) :
    ∀ p ∈ modulePlaces { code := .ofText code, asset, project } t paths, Steady t p := by
  rw [modulePlaces_eq]
  intro p member
  obtain ⟨m, listed, rfl⟩ := List.mem_map.mp member
  have named := (named_runModules (fun w among => (found.workbook among).1) listed).1
  have component : IsComponent rootDirectory := isComponent_of_isIdentifier (by decide)
  rw [GeneratedModule.path, Destination.codeRoot, child_eq_below _ component, below_below]
  apply steady_below rooted straight
  intro name inside
  rcases List.mem_append.mp inside with root | file
  · rw [List.mem_singleton.mp root]
    exact component
  · exact named.components name file

/-- So are the assets. -/
theorem steady_assetPlaces (found : Found t source paths) (rooted : Rooted t) {asset : String}
    (straight : Straight t (.ofText asset)) :
    ∀ p ∈ paths.flatMap fun p => assetsAt ((Path.ofText asset).child rootDirectory) (workbookAt? t p),
      Steady t p := by
  rw [flatMap_workbooks rfl]
  intro p member
  obtain ⟨w, among, listed⟩ := List.mem_flatMap.mp member
  obtain ⟨d, described, rfl⟩ := List.mem_map.mp listed
  obtain ⟨-, schema, sheet⟩ := named_of_accepted_of_name (found.workbook among).1 described
  obtain ⟨path, components⟩ := assetPath_below ((Path.ofText asset).child rootDirectory) schema sheet
  have component : IsComponent rootDirectory := isComponent_of_isIdentifier (by decide)
  rw [path, child_eq_below _ component, below_below]
  apply steady_below rooted straight
  intro name inside
  rcases List.mem_append.mp inside with root | file
  · rw [List.mem_singleton.mp root]
    exact component
  · exact components name file

end Whole

section Started

variable {moment : Calendar.DateTime} {elapsed : Number.Double} {source code asset logs : String}
  {project : Option String} {before after : Workspace} {report : Report}

/-- What a run that generates modules has created and changed is in its report, but for what is lost. -/
theorem accountsBut_of_generate (wellFormed : WellFormed before.files) (rooted : Rooted before.files)
    (distinct : SheetsDiffer before.files (.ofText source))
    (straight : Straight before.files (.ofText code))
    (ran : generate (.startingAt moment elapsed) (.ofText source)
      { code := .ofText code, asset := .ofText asset, project } (.ofText logs) before =
        (.ok report, after)) :
    report.AccountsBut (logFile (.startingAt moment elapsed) (.ofText logs)) before.files after.files
      (LosesModules { code := .ofText code, asset := .ofText asset, project } before.files) := by
  have split : IsSplit (Destination.codeRoot { code := .ofText code, asset := .ofText asset, project }) :=
    isSplit_root code
  rw [generate_eq] at ran
  obtain ⟨⟨files, shared⟩, _, whole, ended⟩ := Job.bind_ok ran
  cases ended
  obtain ⟨paths, logged, worked, scanned, kept, works, flushing⟩ := wholeRun_ok whole
  have found := found_of_scanning wellFormed distinct scanned
  obtain ⟨all, rfl, becomes, touches, among, -⟩ := generates_of_generateAll found split kept works
  obtain ⟨grows, same⟩ := flush_frame (isProduct_startedLog moment elapsed logs) flushing
  have apart : (modulePlaces { code := .ofText code, asset := .ofText asset, project } before.files
      paths).Pairwise Apart := by
    rw [modulePlaces_eq]
    exact apart_runModules _ found.names (fun w member => (found.workbook member).2)
      fun w member => (found.workbook member).1
  exact accountsBut_of_becomes becomes touches among apart (steady_modulePlaces found rooted straight)
    (modulePlaces_apart found (slash_not_mem_stamp moment elapsed) (.ofText logs)) grows same
    fun p seen => loses_of_generates

/-- What a run that exports has created and changed is in its report, but for what is lost. -/
theorem accountsBut_of_exportAll (wellFormed : WellFormed before.files) (rooted : Rooted before.files)
    (distinct : SheetsDiffer before.files (.ofText source))
    (straight : Straight before.files (.ofText asset))
    (ran : exportAll (.startingAt moment elapsed) (.ofText source) (.ofText asset) (.ofText logs) before =
      (.ok report, after)) :
    report.AccountsBut (logFile (.startingAt moment elapsed) (.ofText logs)) before.files after.files
      (LosesAssets ((Path.ofText asset).child rootDirectory) before.files) := by
  rw [exportAll_eq] at ran
  obtain ⟨files, _, whole, ended⟩ := Job.bind_ok ran
  cases ended
  obtain ⟨paths, logged, worked, scanned, kept, works, flushing⟩ := wholeRun_ok whole
  have found := found_of_scanning wellFormed distinct scanned
  obtain ⟨all, rfl, becomes, touches⟩ := exportsTo_of_eachFile found (isSplit_root asset) kept works
  obtain ⟨grows, same⟩ := flush_frame (isProduct_startedLog moment elapsed logs) flushing
  have among := sublist_of_becomes becomes fun p seen => places_of_exportsTo
  have apart : (paths.flatMap fun p => assetsAt ((Path.ofText asset).child rootDirectory)
      (workbookAt? before.files p)).Pairwise Apart := by
    rw [flatMap_workbooks rfl]
    exact apart_assets _ found.names (fun w member => (found.workbook member).2)
      fun w member => (found.workbook member).1
  rw [← List.append_nil (all.flatMap chronicle)] at touches among
  exact accountsBut_of_becomes becomes touches among apart (steady_assetPlaces found rooted straight)
    (assetPlaces_apart found (slash_not_mem_stamp moment elapsed) (.ofText logs)) grows same
    fun p seen => loses_of_exportsTo

/-- Every file that a run creates or changes, but for its log, has one entry in the report with the right
status, and the counts number these files: always for what was written, and in the report itself as long
as the work on no file is given up. -/
theorem touched_files_reported (wellFormed : WellFormed before.files) (rooted : Rooted before.files)
    (distinct : SheetsDiffer before.files (.ofText source)) :
    (Straight before.files (.ofText code) →
      generate (.startingAt moment elapsed) (.ofText source)
        { code := .ofText code, asset := .ofText asset, project } (.ofText logs) before =
          (.ok report, after) →
      report.AccountsBut (logFile (.startingAt moment elapsed) (.ofText logs)) before.files after.files
        (LosesModules { code := .ofText code, asset := .ofText asset, project } before.files) ∧
      ((∀ f ∈ report.files, ¬f.WriteFailed) →
        AccountsFor (logFile (.startingAt moment elapsed) (.ofText logs)) before.files after.files
          report.artifacts ∧
        Numbers report.tally.generated (IsCreated (logFile (.startingAt moment elapsed) (.ofText logs))
          before.files after.files) ∧
        Numbers report.tally.updated (IsChanged (logFile (.startingAt moment elapsed) (.ofText logs))
          before.files after.files))) ∧
    (Straight before.files (.ofText asset) →
      exportAll (.startingAt moment elapsed) (.ofText source) (.ofText asset) (.ofText logs) before =
        (.ok report, after) →
      report.AccountsBut (logFile (.startingAt moment elapsed) (.ofText logs)) before.files after.files
        (LosesAssets ((Path.ofText asset).child rootDirectory) before.files) ∧
      ((∀ f ∈ report.files, ¬f.AssetFailed) →
        AccountsFor (logFile (.startingAt moment elapsed) (.ofText logs)) before.files after.files
          report.artifacts ∧
        Numbers report.tally.generated (IsCreated (logFile (.startingAt moment elapsed) (.ofText logs))
          before.files after.files) ∧
        Numbers report.tally.updated (IsChanged (logFile (.startingAt moment elapsed) (.ofText logs))
          before.files after.files))) := by
  constructor
  · intro straight ran
    have accounts := accountsBut_of_generate wellFormed rooted distinct straight ran
    refine ⟨accounts, fun finished => accounts.whole ?_⟩
    rintro f member lost ⟨failed, -⟩
    exact finished f member failed
  · intro straight ran
    have accounts := accountsBut_of_exportAll wellFormed rooted distinct straight ran
    refine ⟨accounts, fun finished => accounts.whole ?_⟩
    rintro f member lost ⟨failed, -⟩
    exact finished f member failed

end Started

/-- Generating from the workbook and exporting it. -/
theorem touched_files_reported_armory :
    WellFormed armoryTree ∧ Rooted armoryTree ∧ SheetsDiffer armoryTree (.ofText "data") ∧
    Straight armoryTree (.ofText "gen") ∧ Straight armoryTree (.ofText "assets") ∧
    (∃ report after,
      generate (.startingAt dawn .nan) (.ofText "data") armoryTarget (.ofText "logs")
        { files := armoryTree } = (.ok report, after) ∧
      (∀ f ∈ report.files, ¬f.WriteFailed) ∧
      AccountsFor (logFile (.startingAt dawn .nan) (.ofText "logs")) armoryTree after.files
        report.artifacts) ∧
    ∃ report after,
      exportAll (.startingAt dawn .nan) (.ofText "data") (.ofText "assets") (.ofText "logs")
        { files := armoryTree } = (.ok report, after) ∧
      report.AccountsBut (logFile (.startingAt dawn .nan) (.ofText "logs")) armoryTree after.files
        (LosesAssets ((Path.ofText "assets").child rootDirectory) armoryTree) := by
  have rooted : Rooted armoryTree := by decide +kernel
  have modules : Straight armoryTree (.ofText "gen") := .inl (by decide)
  have assets : Straight armoryTree (.ofText "assets") := .inl (by decide)
  refine ⟨wellFormed_armoryTree, rooted, sheetsDiffer_armoryTree, modules, assets, ?_, ?_⟩
  · obtain ⟨report, after, ran, finished⟩ := generate_armory dawn .nan
    obtain ⟨reports, -⟩ := @touched_files_reported dawn .nan "data" "gen" "assets" "logs" none
      { files := armoryTree } after report wellFormed_armoryTree rooted sheetsDiffer_armoryTree
    exact ⟨report, after, ran, finished, ((reports modules ran).2 finished).1⟩
  · obtain ⟨report, after, ran, -⟩ := exportAll_armory dawn .nan
    obtain ⟨-, reports⟩ := @touched_files_reported dawn .nan "data" "gen" "assets" "logs" none
      { files := armoryTree } after report wellFormed_armoryTree rooted sheetsDiffer_armoryTree
    exact ⟨report, after, ran, (reports assets ran).1⟩

end Run

end TypedSheets
