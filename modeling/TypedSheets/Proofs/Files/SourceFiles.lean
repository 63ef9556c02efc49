import TypedSheets.Proofs.Files.ApartPaths
import TypedSheets.Proofs.Files.Jobs
import TypedSheets.Proofs.Files.Obstacles
import TypedSheets.Proofs.Outcomes

/-!
# Schema files of a tree

Scanning a directory and reading a schema file only ask about the files. A scan finds exactly the
schema files directly below the directory, each once and by name. As a tree grows, what these files
hold stays the same, and so does the outcome of a scan, as long as every name in the directory can be
asked about. A file that is written over in a tree that has grown could as well have been written over
before it grew.
-/

namespace TypedSheets.SchemaFile

open TypedSheets.Grid TypedSheets.Text FileTree Job

/-- What reading a schema file of a tree ends with. -/
def reading (t : FileTree) (p : Path) : Except Failure (Except String Workbook) := answer (read p) t

/-- What scanning a source directory of a tree ends with. -/
def scanning (t : FileTree) (directory : Path) : Except Failure (List Path) :=
  answer (scanSource directory) t

theorem isQuestion_read (p : Path) : IsQuestion (read p) := by
  unfold read
  apply (isQuestion_ask _).bind
  intro there
  dsimp only
  split
  · apply (isQuestion_ask _).attempt.bind
    intro content
    split
    · exact isQuestion_pure _
    · exact isQuestion_throw _
    · split
      · exact isQuestion_pure _
      · exact isQuestion_pure _
  · exact isQuestion_pure _

theorem isQuestion_scan (directory : Path) : IsQuestion (scan directory) := by
  unfold scan
  apply (isQuestion_ask _).bind
  intro names
  apply (isQuestion_ask _).bind
  intro files
  exact isQuestion_pure _

theorem isQuestion_scanSource (directory : Path) : IsQuestion (scanSource directory) := by
  unfold scanSource
  apply (isQuestion_ask _).bind
  intro there
  split
  · exact isQuestion_throw _
  · apply (isQuestion_ask _).bind
    intro isDirectory
    split
    · exact isQuestion_throw _
    · apply (isQuestion_scan directory).attempt.bind
      intro outcome
      split
      · exact isQuestion_pure _
      · split
        · exact isQuestion_throw _
        · exact isQuestion_throw _

theorem run_read (p : Path) (w : Workspace) : read p w = (reading w.files p, w) := isQuestion_read p w

theorem run_scanSource (directory : Path) (w : Workspace) :
    scanSource directory w = (scanning w.files directory, w) := isQuestion_scanSource directory w

/-- Reading depends on nothing but what the path leads to. -/
theorem reading_congr {t u : FileTree} {p : Path} (same : u.status p = t.status p) :
    reading u p = reading t p := by
  have there : u.exists? p = t.exists? p := by rw [exists?, exists?, holds, holds, same]
  have content : FileTree.read u p = FileTree.read t p := by
    rw [FileTree.read, FileTree.read, same]
  unfold reading read
  rw [answer_bind (isQuestion_ask _), answer_bind (isQuestion_ask _), answer_ask, answer_ask, there]
  cases t.exists? p with
  | error e => rfl
  | ok yes =>
    cases yes with
    | false => rfl
    | true =>
      dsimp only [Except.mapError]
      rw [if_pos rfl, answer_bind (isQuestion_ask _).attempt, answer_bind (isQuestion_ask _).attempt,
        answer_attempt, answer_attempt, answer_ask, answer_ask, content]
      cases FileTree.read t p with
      | ok held =>
        dsimp only [Except.mapError]
        cases decode held <;> rfl
      | error e => cases e with
        | embeddedNull making => rfl
        | system fault path => cases fault <;> rfl

/-- A workbook is decoded from the file at its path, whose stem it has for a name. -/
theorem reading_eq_ok {t : FileTree} {p : Path} {w : Workbook} (red : reading t p = .ok (.ok w)) :
    w.name = p.stem ∧ ∃ content, t.read p = .ok content ∧ decode content = .ok w.sheets := by
  have ran : read p { files := t } = (.ok (.ok w), { files := t }) := by rw [run_read, red]
  obtain ⟨there, _, asked, ran⟩ := Job.bind_ok ran
  obtain ⟨-, rfl⟩ := ask_ok asked
  split at ran
  · obtain ⟨content, _, attempted, ran⟩ := Job.bind_ok ran
    revert ran
    split
    · intro ran
      cases ran
    · intro ran
      cases ran
    · next held =>
      intro ran
      have found : t.read p = .ok held := by
        rw [Job.run_attempt] at attempted
        obtain ⟨outcome, same⟩ := Prod.mk.inj attempted
        exact (ask_ok (Prod.ext (Except.ok.inj outcome) same)).1
      cases decoded : decode held with
      | error cause =>
        rw [decoded] at ran
        cases ran
      | ok sheets =>
        rw [decoded] at ran
        cases ran
        exact ⟨rfl, held, found, decoded⟩
  · cases ran

theorem name_of_reading {t : FileTree} {p : Path} {w : Workbook} (red : reading t p = .ok (.ok w)) :
    w.name = p.stem :=
  (reading_eq_ok red).1

/-- Files stand at the locations of a tree. -/
theorem mem_locations_of_fileAt? {t : FileTree} {at_ : Location} {content : FileContent}
    (file : t.fileAt? at_ = some content) : at_ ∈ t.locations := by
  have found := fileAt?_eq_some.mp file
  unfold FileTree.entry? at found
  split at found
  · cases found
  · obtain ⟨before, behind, entries, -⟩ := List.lookup_eq_some_iff.mp found
    refine List.mem_map.mpr ⟨(at_, .file content), ?_, rfl⟩
    rw [entries]
    exact List.mem_append_right before List.mem_cons_self

/-- The names of the entries directly below a location, in the order of the tree. -/
def childNames (at_ : Location) (locations : List Location) : List String :=
  locations.filterMap fun other =>
    match other.getLast? with
    | some name => if other.dropLast = at_ then some name else none
    | none => none

theorem mem_childNames {at_ : Location} {locations : List Location} {name : String} :
    name ∈ childNames at_ locations ↔ at_ ++ [name] ∈ locations := by
  rw [childNames, List.mem_filterMap]
  constructor
  · rintro ⟨other, member, found⟩
    split at found
    · next last ending =>
      split_ifs at found with above
      cases found
      obtain ⟨front, rfl⟩ := List.getLast?_eq_some_iff.mp ending
      rw [List.dropLast_concat] at above
      rw [← above]
      exact member
    · cases found
  · intro member
    refine ⟨at_ ++ [name], member, ?_⟩
    rw [List.getLast?_concat, List.dropLast_concat]
    exact if_pos rfl

/-- Entries of different locations have different names below one location. -/
theorem nodup_childNames {at_ : Location} {locations : List Location} (distinct : locations.Nodup) :
    (childNames at_ locations).Nodup := by
  refine distinct.filterMap ?_
  intro one other name first second
  rw [Option.mem_def] at first second
  split at first
  · next last ending =>
    split_ifs at first with above
    cases first
    split at second
    · next lastOther endingOther =>
      split_ifs at second with aboveOther
      cases second
      obtain ⟨front, rfl⟩ := List.getLast?_eq_some_iff.mp ending
      obtain ⟨frontOther, rfl⟩ := List.getLast?_eq_some_iff.mp endingOther
      rw [List.dropLast_concat] at above aboveOther
      rw [above, aboveOther]
    · cases second
  · cases first

theorem names_eq {t : FileTree} {directory : Path} {at_ : Location}
    (located : t.locate directory = .ok at_) (found : t.entry? at_ = some .directory) :
    t.names directory = .ok (childNames at_ t.locations) := by
  rw [names, status, located]
  simp only [found]
  rw [childNames, locations, List.filterMap_map]
  rfl

/-- The name of a schema file is a component. -/
theorem isComponent_of_isName {name : String} (noSlash : '/' ∉ name.toList)
    (schema : isName name = true) : IsComponent name := by
  constructor
  · exact noSlash
  · rintro rfl
    revert schema
    decide
  · rintro rfl
    revert schema
    decide
  · rintro rfl
    revert schema
    decide

/-- A name of a schema file is its stem and the suffix. -/
theorem splitName_append (name : String) : (Path.splitName name).1 ++ (Path.splitName name).2 = name := by
  unfold Path.splitName
  dsimp only
  split
  · next stem behind =>
    split_ifs
    · exact String.append_empty
    · have pieces : name.toList.reverse = name.toList.reverse.takeWhile (· != '.') ++ '.' :: stem := by
        rw [← behind, List.takeWhile_append_dropWhile]
      apply String.toList_inj.mp
      rw [String.toList_append, String.toList_ofList, String.toList_ofList,
        ← List.reverse_reverse name.toList]
      conv_rhs => rw [pieces]
      simp
  · exact String.append_empty

theorem stem_child (directory : Path) {name : String} (component : IsComponent name) :
    (directory.child name).stem = (Path.splitName name).1 := by
  have own : (directory.child name).name = name := by
    rw [child_eq_below directory component, Path.name, Path.below, List.getLast?_concat]
    rfl
  rw [Path.stem, own]

/-- Schema files with one stem have one name. -/
theorem eq_of_stem {a b : String} (first : isName a = true) (second : isName b = true)
    (same : (Path.splitName a).1 = (Path.splitName b).1) : a = b := by
  simp only [isName, Bool.and_eq_true, beq_iff_eq] at first second
  rw [← splitName_append a, ← splitName_append b, same, first.1, second.1]

section Directory

variable {t u : FileTree} {directory : Path} {at_ : Location}

/-- Where a component below a directory is located depends on the lengths alone. -/
theorem locate_child (located : t.locate directory = .ok at_)
    (found : t.entry? at_ = some .directory) {name : String} (component : IsComponent name) :
    t.locate (directory.child name) =
      if pathLimit ≤ byteCount (directory.child name).text ∨ nameLimit < byteCount name then
        .error .nameTooLong
      else .ok (at_ ++ [name]) := by
  have walked : t.walk (start directory) directory.parts = .ok at_ := (locate_ok located).2
  have step : t.walk (start directory) (directory.parts ++ [name]) =
      if nameLimit < byteCount name then .error .nameTooLong else .ok (at_ ++ [name]) := by
    rw [walk_concat walked, walk_singleton, follow_directory found, if_neg component.down]
  rw [child_eq_below directory component, locate_eq]
  change (if _ then _ else t.walk (start directory) (directory.parts ++ [name])) = _
  rw [step]
  by_cases long : pathLimit ≤ byteCount (directory.below [name]).text
  · rw [if_pos long, if_pos (Or.inl long)]
  · by_cases longName : nameLimit < byteCount name
    · rw [if_neg long, if_pos longName, if_pos (Or.inr longName)]
    · rw [if_neg long, if_neg longName, if_neg (not_or.mpr ⟨long, longName⟩)]

/-- So whether there is a file depends on the file at its location alone. -/
theorem isFile?_child (located : t.locate directory = .ok at_)
    (found : t.entry? at_ = some .directory) {name : String} (component : IsComponent name) :
    t.isFile? (directory.child name) =
      if hasNull (directory.child name) then .ok false
      else if pathLimit ≤ byteCount (directory.child name).text ∨ nameLimit < byteCount name then
        .error (.system .nameTooLong (directory.child name))
      else .ok (t.fileAt? (at_ ++ [name])).isSome := by
  rw [isFile?, holds, status, locate_child located found component]
  split_ifs
  · rfl
  · rfl
  · rw [fileAt?]
    dsimp only
    cases t.entry? (at_ ++ [name]) with
    | none => rfl
    | some entry => cases entry <;> rfl

/-- The names of the schema files below a directory at a location, in ascending order. -/
def schemaNames (t : FileTree) (directory : Path) (at_ : Location) : List String :=
  (((childNames at_ t.locations).filter fun name => isYes (t.isFile? (directory.child name))).filter
    isName).mergeSort fun a b => a ≤ b

/-- Every entry of a directory can be asked about. -/
def Listable (t : FileTree) (directory : Path) (at_ : Location) : Prop :=
  ∀ name ∈ childNames at_ t.locations, ∃ answer, t.isFile? (directory.child name) = .ok answer

theorem answer_scan (located : t.locate directory = .ok at_) (found : t.entry? at_ = some .directory)
    {paths : List Path} :
    answer (scan directory) t = .ok paths ↔
      Listable t directory at_ ∧ paths = (schemaNames t directory at_).map directory.child := by
  have listed := names_eq located found
  have files : answer (scan directory) t = match
      (childNames at_ t.locations).filterM fun name => t.isFile? (directory.child name) with
    | .ok files => .ok (((files.filter isName).mergeSort fun a b => a ≤ b).map directory.child)
    | .error e => .error (.file e) := by
    rw [scan, answer_bind (isQuestion_ask _), answer_ask, listed]
    dsimp only [Except.mapError]
    rw [answer_bind (isQuestion_ask _), answer_ask]
    cases (childNames at_ t.locations).filterM fun name => t.isFile? (directory.child name) <;> rfl
  rw [files]
  constructor
  · intro ended
    split at ended
    · next picked taken =>
      obtain ⟨answered, rfl⟩ := filterM_eq_ok.mp taken
      cases ended
      exact ⟨answered, rfl⟩
    · cases ended
  · rintro ⟨answered, rfl⟩
    rw [filterM_eq_ok.mpr ⟨answered, rfl⟩]
    rfl

/-- A source directory that can be scanned is a directory, and the scan gives the schema files. -/
theorem scanning_eq_ok {t : FileTree} {directory : Path} {paths : List Path} :
    scanning t directory = .ok paths ↔
      hasNull directory = false ∧ ∃ at_, t.locate directory = .ok at_ ∧
        t.entry? at_ = some .directory ∧ Listable t directory at_ ∧
        paths = (schemaNames t directory at_).map directory.child := by
  constructor
  · intro ended
    have ran : scanSource directory { files := t } = (.ok paths, { files := t }) := by
      rw [run_scanSource, ended]
    obtain ⟨there, _, asked, ran⟩ := Job.bind_ok ran
    obtain ⟨-, rfl⟩ := ask_ok asked
    split at ran
    · cases ran
    · obtain ⟨yes, _, directoryAsked, ran⟩ := Job.bind_ok ran
      obtain ⟨isDirectory, rfl⟩ := ask_ok directoryAsked
      split at ran
      · cases ran
      · next isOne =>
        obtain ⟨outcome, _, scanned, ran⟩ := Job.bind_ok ran
        rw [run_attempt, isQuestion_scan directory] at scanned
        cases scanned
        cases scanned : answer (scan directory) t with
        | ok found =>
          rw [scanned] at ran
          cases ran
          have one : yes = true := by simpa using isOne
          rw [one, isDir?_eq_true] at isDirectory
          obtain ⟨noNull, at_, located, stands⟩ := isDirectory
          exact ⟨noNull, at_, located, stands, (answer_scan located stands).mp scanned⟩
        | error e =>
          rw [scanned] at ran
          dsimp only at ran
          split at ran
          · cases ran
          · cases ran
  · rintro ⟨noNull, at_, located, stands, listed⟩
    have there : t.exists? directory = .ok true := by
      rw [exists?, holds, if_neg (by simp [noNull]), status, located]
      simp only [stands]
    have isDirectory : t.isDir? directory = .ok true := isDir?_eq_true.mpr ⟨noNull, at_, located, stands⟩
    have scanned := (answer_scan located stands).mpr listed
    unfold scanning scanSource
    rw [answer_bind (isQuestion_ask _), answer_ask, there]
    dsimp only [Except.mapError]
    rw [if_neg (by decide), answer_bind (isQuestion_ask _), answer_ask, isDirectory]
    dsimp only [Except.mapError]
    rw [if_neg (by decide), answer_bind (isQuestion_scan directory).attempt, answer_attempt, scanned]
    rfl

/-- The scan finds each schema file directly below the directory. -/
theorem mem_schemaNames (wellFormed : WellFormed t) (located : t.locate directory = .ok at_)
    (found : t.entry? at_ = some .directory) {name : String} :
    name ∈ schemaNames t directory at_ ↔ isName name = true ∧ '/' ∉ name.toList ∧
      t.isFile? (directory.child name) = .ok true := by
  rw [schemaNames, List.mem_mergeSort, List.mem_filter, List.mem_filter, mem_childNames]
  constructor
  · rintro ⟨⟨listed, isFile⟩, schema⟩
    refine ⟨schema, (wellFormed.named _ listed name List.getLast?_concat).noSlash, ?_⟩
    cases answer : t.isFile? (directory.child name) with
    | error e =>
      rw [answer] at isFile
      cases isFile
    | ok yes =>
      rw [answer] at isFile
      rw [show yes = true from isFile]
  · rintro ⟨schema, noSlash, isFile⟩
    refine ⟨⟨?_, by rw [isFile]; rfl⟩, schema⟩
    rw [isFile?_child located found (isComponent_of_isName noSlash schema)] at isFile
    split_ifs at isFile
    · cases isFile
    · obtain ⟨content, file⟩ := Option.isSome_iff_exists.mp (Except.ok.inj isFile)
      exact mem_locations_of_fileAt? file

/-- It finds each once, -/
theorem nodup_schemaNames (wellFormed : WellFormed t) : (schemaNames t directory at_).Nodup := by
  rw [schemaNames, (List.mergeSort_perm _ _).nodup_iff]
  exact ((nodup_childNames wellFormed.distinct).filter _).filter _

/-- and in ascending order. -/
theorem sorted_schemaNames (t : FileTree) (directory : Path) (at_ : Location) :
    (schemaNames t directory at_).Pairwise (· ≤ ·) := by
  have sorted : (schemaNames t directory at_).Pairwise fun a b => decide (a ≤ b) = true := by
    apply List.pairwise_mergeSort
    · intro a b c first second
      rw [decide_eq_true_eq] at first second ⊢
      exact String.le_trans first second
    · intro a b
      rw [Bool.or_eq_true, decide_eq_true_eq, decide_eq_true_eq]
      exact String.le_total a b
  exact sorted.imp of_decide_eq_true

/-- A schema file that is there is read alike in every tree that grows. -/
theorem reading_of_grows {t u : FileTree} {p : Path} {name : String} {content : FileContent}
    (ending : p.parts.getLast? = some name) (schema : isName name = true)
    (held : t.read p = .ok content) (grows : Grows t u) :
    reading u p = reading t p := by
  obtain ⟨noNull, at_, located, file⟩ := FileTree.read_ok held
  have down : name ≠ ".." := by
    rintro rfl
    exact absurd schema (by decide)
  have last : at_.getLast? = some name := getLast?_of_walk (locate_ok located).2 ending down
  have later : u.fileAt? at_ = some content := by rw [grows.sources at_ name last schema, file]
  apply reading_congr
  rw [status, status, located, locate_kept grows.directories p at_ located]
  simp only [fileAt?_eq_some.mp file, fileAt?_eq_some.mp later]

/-- What a schema file is read as does not change as the tree grows. -/
theorem reading_grows (wellFormed : WellFormed t) (located : t.locate directory = .ok at_)
    (found : t.entry? at_ = some .directory) (grows : Grows t u) {name : String}
    (member : name ∈ schemaNames t directory at_) :
    reading u (directory.child name) = reading t (directory.child name) := by
  obtain ⟨schema, noSlash, isFile⟩ := (mem_schemaNames wellFormed located found).mp member
  obtain ⟨noNull, place, leads, there⟩ := isFile?_eq_true.mp isFile
  obtain ⟨content, file⟩ := Option.ne_none_iff_exists'.mp there
  refine reading_of_grows ?_ schema (FileTree.read_eq noNull leads file) grows
  rw [child_eq_below directory (isComponent_of_isName noSlash schema), Path.below, List.getLast?_concat]

/-- A scan of a tree that has grown finds the same files. -/
theorem schemaNames_grows (wellFormed : WellFormed t) (located : t.locate directory = .ok at_)
    (found : t.entry? at_ = some .directory) (grows : Grows t u) :
    schemaNames u directory at_ = schemaNames t directory at_ := by
  have locatedLater := locate_kept grows.directories directory at_ located
  have foundLater := grows.directories at_ found
  have laterWellFormed := wellFormed.grows grows
  have same (name : String) :
      name ∈ schemaNames u directory at_ ↔ name ∈ schemaNames t directory at_ := by
    rw [mem_schemaNames wellFormed located found, mem_schemaNames laterWellFormed locatedLater foundLater]
    refine and_congr_right fun schema => and_congr_right fun noSlash => ?_
    have component := isComponent_of_isName noSlash schema
    rw [isFile?_child located found component, isFile?_child locatedLater foundLater component,
      grows.sources (at_ ++ [name]) name List.getLast?_concat schema]
  apply List.Perm.eq_of_pairwise
  · intro a b _ _ first second
    exact String.le_antisymm first second
  · exact sorted_schemaNames u directory at_
  · exact sorted_schemaNames t directory at_
  · exact (List.perm_ext_iff_of_nodup (nodup_schemaNames laterWellFormed)
      (nodup_schemaNames wellFormed)).mpr same

/-- A path that leaves room for the name of an entry below it. -/
def HasRoom (p : Path) : Prop := byteCount p.text + 1 + nameLimit < pathLimit

instance (p : Path) : Decidable (HasRoom p) := inferInstanceAs (Decidable (_ < _))

/-- Entries of a directory that leaves room have paths that fit. -/
theorem fits_child (located : t.locate directory = .ok at_) (room : HasRoom directory) {name : String}
    (entry : IsEntryName name) : Fits (directory.child name) := by
  obtain ⟨whole, walked⟩ := locate_ok located
  have short := short_of_walk walked
  rcases child_of_noSlash directory entry.noSlash with same | below
  · rw [same]
    exact ⟨whole, short⟩
  · have length := byteCount_below directory name
    have own := entry.short
    unfold HasRoom at room
    rw [below]
    refine ⟨by omega, ?_⟩
    intro part member
    rcases List.mem_append.mp member with above | last
    · exact short part above
    · rw [List.mem_singleton.mp last]
      exact own

/-- A source directory that leaves room is scanned in a grown tree as it was before. -/
theorem scanning_grows {paths : List Path} (wellFormed : WellFormed t) (grows : Grows t u)
    (room : HasRoom directory) (scanned : scanning t directory = .ok paths) :
    scanning u directory = .ok paths := by
  obtain ⟨noNull, at_, located, found, -, rfl⟩ := scanning_eq_ok.mp scanned
  have locatedLater := locate_kept grows.directories directory at_ located
  refine scanning_eq_ok.mpr ⟨noNull, at_, locatedLater, grows.directories at_ found, ?_, ?_⟩
  · intro name member
    have named := (wellFormed.grows grows).named _ (mem_childNames.mp member)
    exact holds_of_fits (fits_child locatedLater room (named name List.getLast?_concat)) u _
  · rw [schemaNames_grows wellFormed located found grows]

end Directory

end TypedSheets.SchemaFile

namespace TypedSheets.FileTree

/-- With another file in the place of one, at its location. -/
theorem write_of_isFile {t : FileTree} {p : Path} (there : t.isFile? p = .ok true) :
    ∃ at_, t.locate p = .ok at_ ∧ at_ ∈ t.locations ∧ isGiven at_ = false ∧
      ∀ content, t.write p content = .ok { entries := put at_ (.file content) t.entries } := by
  obtain ⟨noNull, at_, located, found⟩ := isFile?_eq_true.mp there
  obtain ⟨old, file⟩ := Option.ne_none_iff_exists'.mp found
  have entry := fileAt?_eq_some.mp file
  have noDirectory : t.entry? at_ ≠ some .directory := by
    rw [entry]
    simp
  refine ⟨at_, located, SchemaFile.mem_locations_of_fileAt? file, not_given t at_ noDirectory, ?_⟩
  intro content
  simp only [write, noNull, located, entry]
  rfl

/-- Writing over the same file in a tree and in one that has grown from it. -/
theorem Grows.write_over {t u : FileTree} (grows : Grows t u) {p : Path}
    (there : t.isFile? p = .ok true) (content : FileContent) :
    ∃ v w, t.write p content = .ok v ∧ u.write p content = .ok w ∧ Grows v w := by
  obtain ⟨at_, located, listed, free, written⟩ := write_of_isFile there
  obtain ⟨place, locatedLater, listedLater, -, writtenLater⟩ := write_of_isFile (grows.isFile there)
  obtain rfl : place = at_ := by
    rw [locate_kept grows.directories p at_ located] at locatedLater
    exact (Except.ok.inj locatedLater).symm
  have entry := fun other => entry?_put t place other (.file content) free
  have entryLater := fun other => entry?_put u place other (.file content) free
  refine ⟨_, _, written content, writtenLater content, ?_, ?_, ?_, ?_⟩
  · intro other directory
    rw [entry] at directory
    rw [entryLater]
    by_cases same : other = place
    · rw [if_pos same] at directory
      cases directory
    · rw [if_neg same] at directory ⊢
      exact grows.directories other directory
  · intro other file
    rw [fileAt?, entry] at file
    rw [fileAt?, entryLater]
    by_cases same : other = place
    · rw [if_pos same]
      simp
    · rw [if_neg same] at file ⊢
      exact grows.files other file
  · intro other name last isName
    rw [fileAt?, fileAt?, entry, entryLater]
    by_cases same : other = place
    · rw [if_pos same, if_pos same]
    · rw [if_neg same, if_neg same]
      exact grows.sources other name last isName
  · rw [locations_put, locations_put, if_pos listed, if_pos listedLater]
    exact grows.locations

end TypedSheets.FileTree
