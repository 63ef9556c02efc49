import TypedSheets.Proofs.Files.Growth

/-!
# What stands in the way

When a path cannot be followed and nothing is missing on it, something is in the way: a file where a
directory should be, or a name that is too long. That stays so however the tree grows. So directories
that cannot be made will never be there, and a file that cannot be written will never be either.
-/

namespace TypedSheets.FileTree

open TypedSheets.Text

/-- A file is at a location exactly if the entry there is one. -/
theorem fileAt?_eq_some {t : FileTree} {at_ : Location} {content : FileContent} :
    t.fileAt? at_ = some content ↔ t.entry? at_ = some (.file content) := by
  unfold fileAt?
  split
  · next own found => rw [found]; simp
  · next other =>
    constructor
    · intro found
      cases found
    · intro found
      exact absurd found (other content)

/-- A file stays a file. -/
theorem Grows.file_stays {t u : FileTree} (grows : Grows t u) {at_ : Location} {content : FileContent}
    (found : t.entry? at_ = some (.file content)) : ∃ later, u.entry? at_ = some (.file later) := by
  have there := grows.files at_ (by rw [fileAt?_eq_some.mpr found]; exact Option.some_ne_none content)
  obtain ⟨later, same⟩ := Option.ne_none_iff_exists'.mp there
  exact ⟨later, fileAt?_eq_some.mp same⟩

/-- What stops a step other than something missing stops it in later trees too. -/
theorem follow_stays {t u : FileTree} (grows : Grows t u) {at_ : Location} {name : String}
    {fault : FileFault} (stopped : t.follow at_ name = .error fault) (obstacle : fault ≠ .notFound) :
    u.follow at_ name = .error fault := by
  rcases follow_eq_error stopped with ⟨-, missing⟩ | ⟨content, found, rfl⟩ | ⟨found, long, rfl⟩
  · exact absurd missing obstacle
  · obtain ⟨later, same⟩ := grows.file_stays found
    rw [follow, same]
  · rw [follow_directory (grows.directories at_ found), if_pos long]

/-- So it stops a walk. -/
theorem walk_stays {t u : FileTree} (grows : Grows t u) {names : List String} {at_ : Location}
    {fault : FileFault} (walked : t.walk at_ names = .error fault) (obstacle : fault ≠ .notFound) :
    u.walk at_ names = .error fault := by
  induction names generalizing at_ with
  | nil => cases walked
  | cons name rest inductionHypothesis =>
    rw [walk_cons] at walked ⊢
    rcases bind_eq_error.mp walked with stopped | ⟨middle, step, further⟩
    · rw [follow_stays grows stopped obstacle]
      rfl
    · obtain ⟨found, short, ends⟩ := follow_eq_ok.mp step
      rw [follow_eq_ok.mpr ⟨grows.directories at_ found, short, ends⟩]
      exact inductionHypothesis further

theorem locate_stays {t u : FileTree} (grows : Grows t u) {p : Path} {fault : FileFault}
    (located : t.locate p = .error fault) (obstacle : fault ≠ .notFound) :
    u.locate p = .error fault := by
  rw [locate_eq] at located ⊢
  split_ifs at located ⊢
  · exact located
  · exact walk_stays grows located obstacle

/-- The number of bytes of two texts. -/
theorem byteCount_append (a b : String) : byteCount (a ++ b) = byteCount a + byteCount b := by
  rw [byteCount, encodeUtf8, String.toList_append, encodeChars, List.flatMap_append, List.length_append]
  rfl

/-- The path above a short path is short. -/
theorem byteCount_parent {p : Path} (short : byteCount p.text < pathLimit) :
    byteCount p.parent.text < pathLimit := by
  by_cases empty : p.parent.parts = []
  · have text : p.parent.text = if p.root = .relative then "." else Path.rootText p.root := by
      rw [Path.text, empty]
      by_cases relative : p.root = .relative
      · simp [Path.parent, relative]
      · simp [Path.parent, relative]
    rw [text]
    cases p.root <;> decide
  · have some : p.parts ≠ [] := by
      intro none
      rw [Path.parent, none] at empty
      exact empty rfl
    have text : p.text = p.parent.text ++ ("/" ++ p.parts.getLast some) := by
      rw [Path.text, Path.text, if_neg (fun none => some none.2), if_neg (fun none => empty none.2)]
      conv_lhs => rw [← List.dropLast_append_getLast some]
      rw [String.intercalate_append_of_ne_nil (l := p.parts.dropLast) empty (List.cons_ne_nil _ _),
        String.intercalate_singleton]
      simp only [Path.parent, String.append_assoc]
    rw [text, byteCount_append] at short
    omega

/-- A path that leads to a directory. -/
def LeadsToDirectory (t : FileTree) (p : Path) : Prop :=
  ∃ at_, t.locate p = .ok at_ ∧ t.entry? at_ = some .directory

/-- Whatever has a location stands in a directory. -/
theorem leadsToDirectory_parent {t : FileTree} {p : Path} {at_ : Location}
    (located : t.locate p = .ok at_) (some : p.parts ≠ []) : LeadsToDirectory t p.parent := by
  obtain ⟨short, walked⟩ := locate_ok located
  rw [← List.dropLast_append_getLast some] at walked
  obtain ⟨middle, reached, last⟩ := walk_append walked
  refine ⟨middle, ?_, ?_⟩
  · rw [locate, if_neg (Nat.not_le_of_lt (byteCount_parent short))]
    exact reached
  · rw [walk_singleton] at last
    exact (follow_eq_ok.mp last).1

/-- Below a directory nothing is missing on the way. -/
theorem locate_below_directory {t : FileTree} {p : Path} {fault : FileFault}
    (above : LeadsToDirectory t p.parent) (located : t.locate p = .error fault) :
    fault ≠ .notFound := by
  obtain ⟨middle, reached, found⟩ := above
  have walked : t.walk (start p) p.parts.dropLast = .ok middle := (locate_ok reached).2
  rintro rfl
  rw [locate_eq] at located
  split at located
  · cases located
  · by_cases empty : p.parts = []
    · rw [empty] at located
      cases located
    · rw [← List.dropLast_append_getLast empty, walk_concat walked, walk_singleton,
        follow_directory found] at located
      split at located
      · cases located
      · cases located

/-- No tree that comes of this one has a directory at a path. -/
def NeverDirectory (t : FileTree) (p : Path) : Prop := ∀ u, Grows t u → ¬LeadsToDirectory u p

/-- No tree that comes of this one has a file at a path. -/
def NeverFile (t : FileTree) (p : Path) : Prop :=
  ∀ u, Grows t u → ∀ at_, u.locate p = .ok at_ → u.fileAt? at_ = none

theorem NeverFile.grows {t u : FileTree} {p : Path} (never : NeverFile t p) (grows : Grows t u) :
    NeverFile u p :=
  fun later further => never later (grows.trans further)

/-- A path with an obstacle on it leads to no directory, -/
theorem neverDirectory_of_locate {t : FileTree} {p : Path} {fault : FileFault}
    (located : t.locate p = .error fault) (obstacle : fault ≠ .notFound) : NeverDirectory t p := by
  rintro u grows ⟨at_, reached, -⟩
  rw [locate_stays grows located obstacle] at reached
  cases reached

/-- and to no file. -/
theorem neverFile_of_locate {t : FileTree} {p : Path} {fault : FileFault}
    (located : t.locate p = .error fault) (obstacle : fault ≠ .notFound) : NeverFile t p := by
  intro u grows at_ reached
  rw [locate_stays grows located obstacle] at reached
  cases reached

/-- Where a file is there is never a directory. -/
theorem neverDirectory_of_file {t : FileTree} {p : Path} {at_ : Location} {content : FileContent}
    (located : t.locate p = .ok at_) (found : t.entry? at_ = some (.file content)) :
    NeverDirectory t p := by
  rintro u grows ⟨other, reached, directory⟩
  rw [locate_kept grows.directories p at_ located] at reached
  cases reached
  obtain ⟨later, same⟩ := grows.file_stays found
  rw [same] at directory
  cases directory

/-- Where a directory is there is never a file. -/
theorem neverFile_of_directory {t : FileTree} {p : Path} (leads : LeadsToDirectory t p) :
    NeverFile t p := by
  obtain ⟨at_, located, directory⟩ := leads
  intro u grows other reached
  rw [locate_kept grows.directories p at_ located] at reached
  cases reached
  rw [fileAt?, grows.directories at_ directory]

/-- Where the directory above can never be there is never a file. -/
theorem neverFile_of_parent {t : FileTree} {p : Path} (some : p.parts ≠ [])
    (never : NeverDirectory t p.parent) : NeverFile t p := by
  intro u grows at_ reached
  exact absurd (leadsToDirectory_parent reached some) (never u grows)

/-- What a path leads to, when it is asked whether there is a directory. -/
theorem isDir?_eq {t : FileTree} {p : Path} (noNull : hasNull p = false) :
    t.isDir? p = match t.locate p with
      | .ok at_ => .ok ((t.entry? at_).any isDirectory)
      | .error .nameTooLong => .error (.system .nameTooLong p)
      | .error _ => .ok false := by
  rw [isDir?, holds, if_neg (by simp [noNull]), status]
  cases t.locate p with
  | error fault => cases fault <;> rfl
  | ok at_ =>
    dsimp only
    cases t.entry? at_ <;> rfl

theorem isDir?_eq_true {t : FileTree} {p : Path} :
    t.isDir? p = .ok true ↔ hasNull p = false ∧ LeadsToDirectory t p := by
  cases noNull : hasNull p with
  | true =>
    rw [isDir?, holds, if_pos noNull]
    simp
  | false =>
    rw [isDir?_eq noNull]
    constructor
    · intro directory
      split at directory
      · next at_ located =>
        refine ⟨rfl, at_, located, ?_⟩
        simp only [Except.ok.injEq, Option.any_eq_true] at directory
        obtain ⟨entry, same, isOne⟩ := directory
        cases entry with
        | directory => exact same
        | file content => cases isOne
      · cases directory
      · cases directory
    · rintro ⟨-, at_, located, found⟩
      rw [located]
      simp only [found]
      rfl

/-- A directory is not read. -/
theorem read_of_isDir {t : FileTree} {p : Path} (found : t.isDir? p = .ok true) :
    t.read p = .error (.system .isDirectory p) := by
  obtain ⟨noNull, at_, located, directory⟩ := isDir?_eq_true.mp found
  rw [read, if_neg (by simp [noNull]), status, located]
  dsimp only
  rw [directory]

/-- What is there is a file or a directory. -/
theorem read_of_exists {t : FileTree} {p : Path} (there : t.exists? p = .ok true) :
    (∃ content, t.read p = .ok content) ∨
      t.isDir? p = .ok true ∧ t.read p = .error (.system .isDirectory p) := by
  unfold exists? holds at there
  unfold isDir? holds read
  split_ifs at there ⊢ with null
  · cases there
  split at there
  · next entry found =>
    rw [found]
    cases entry with
    | directory => exact .inr ⟨rfl, rfl⟩
    | file content => exact .inl ⟨content, rfl⟩
  · cases there
  · cases there

/-- Whether anything is there cannot be said only of a path that is too long. -/
theorem exists?_eq_error {t : FileTree} {p : Path} {cause : FileError} (asked : t.exists? p = .error cause) :
    cause = .system .nameTooLong p := by
  unfold exists? holds at asked
  split_ifs at asked
  split at asked <;> cases asked
  rfl

/-- Whether there is a file at a path. -/
theorem isFile?_eq_true {t : FileTree} {p : Path} :
    t.isFile? p = .ok true ↔
      hasNull p = false ∧ ∃ at_, t.locate p = .ok at_ ∧ t.fileAt? at_ ≠ none := by
  rw [isFile?, holds]
  cases noNull : hasNull p with
  | true =>
    rw [if_pos rfl]
    simp
  | false =>
    rw [if_neg (by decide), status]
    cases t.locate p with
    | error fault => cases fault <;> simp
    | ok at_ =>
      cases found : t.entry? at_ with
      | none => simp [found, fileAt?]
      | some entry => cases entry <;> simp [found, fileAt?, isDirectory]

/-- There still is one later. -/
theorem Grows.isFile {t u : FileTree} (grows : Grows t u) {p : Path} (there : t.isFile? p = .ok true) :
    u.isFile? p = .ok true := by
  obtain ⟨noNull, at_, located, found⟩ := isFile?_eq_true.mp there
  exact isFile?_eq_true.mpr
    ⟨noNull, at_, locate_kept grows.directories p at_ located, grows.files at_ found⟩

/-- A path that is short enough as a whole and in its components. -/
structure Fits (p : Path) : Prop where
  whole : byteCount p.text < pathLimit
  components : ∀ part ∈ p.parts, byteCount part ≤ nameLimit

instance (p : Path) : Decidable (Fits p) :=
  decidable_of_iff (byteCount p.text < pathLimit ∧ ∀ part ∈ p.parts, byteCount part ≤ nameLimit)
    ⟨fun both => ⟨both.1, both.2⟩, fun own => ⟨own.whole, own.components⟩⟩

/-- Following short names never fails for their lengths. -/
theorem walk_of_short {t : FileTree} {names : List String} {at_ : Location}
    (short : ∀ name ∈ names, byteCount name ≤ nameLimit) : t.walk at_ names ≠ .error .nameTooLong := by
  induction names generalizing at_ with
  | nil =>
    intro walked
    cases walked
  | cons name rest inductionHypothesis =>
    have further : ∀ other ∈ rest, byteCount other ≤ nameLimit :=
      fun other member => short other (List.mem_cons_of_mem name member)
    intro walked
    rw [walk_cons] at walked
    rcases bind_eq_error.mp walked with stopped | ⟨middle, -, failed⟩
    · rcases follow_eq_error stopped with ⟨-, other⟩ | ⟨_, -, other⟩ | ⟨-, long, -⟩
      · cases other
      · cases other
      · exact absurd long (Nat.not_lt_of_le (short name List.mem_cons_self))
    · exact inductionHypothesis further failed

/-- What can be followed has short names. -/
theorem short_of_walk {t : FileTree} {names : List String} {at_ last : Location}
    (walked : t.walk at_ names = .ok last) : ∀ name ∈ names, byteCount name ≤ nameLimit := by
  induction names generalizing at_ with
  | nil =>
    intro name member
    cases member
  | cons first rest inductionHypothesis =>
    rw [walk_cons] at walked
    obtain ⟨middle, step, further⟩ := bind_eq_ok walked
    intro name member
    rcases List.mem_cons.mp member with rfl | later
    · exact (follow_eq_ok.mp step).2.1
    · exact inductionHypothesis further name later

/-- Of a path that fits it can always be told whether there is something of a kind. -/
theorem holds_of_fits {p : Path} (fits : Fits p) (t : FileTree) (kind : FileEntry → Bool) :
    ∃ yes, t.holds p kind = .ok yes := by
  rw [holds]
  split
  · exact ⟨false, rfl⟩
  · have located : t.locate p ≠ .error .nameTooLong := by
      rw [locate_eq, if_neg (Nat.not_le_of_lt fits.whole)]
      exact walk_of_short fits.components
    rw [status]
    cases own : t.locate p with
    | ok at_ =>
      dsimp only
      cases t.entry? at_ with
      | some entry => exact ⟨kind entry, rfl⟩
      | none => exact ⟨false, rfl⟩
    | error fault =>
      rw [own] at located
      cases fault with
      | nameTooLong => exact absurd rfl located
      | notFound | exists_ | notDirectory | isDirectory => exact ⟨false, rfl⟩

/-- A directory that is made, or that is there, is where the path leads. -/
theorem leadsToDirectory_of_makeDirectory {t u : FileTree} {p : Path}
    (made : t.makeDirectory p = .ok u) : LeadsToDirectory u p := by
  have kept := (makeDirectory_ok made).1
  unfold makeDirectory at made
  split_ifs at made
  split at made
  · cases made
  · next at_ located =>
    split at made
    · cases made
    · next nothing =>
      cases made
      have free := not_given t at_ (by rw [nothing]; simp)
      refine ⟨at_, locate_kept kept p at_ located, ?_⟩
      rw [entry?_put t at_ at_ .directory free, if_pos rfl]

theorem leadsToDirectory_of_unlessDirectory {t : FileTree} {p : Path} {failure : FileError}
    (there : t.unlessDirectory p failure = .ok ()) :
    LeadsToDirectory t p := by
  unfold unlessDirectory at there
  split at there
  · cases there
  · next directory => exact (isDir?_eq_true.mp directory).2
  · cases there

/-- A directory that cannot be made where nothing is missing can never be there. -/
theorem neverDirectory_of_refused {t : FileTree} {p : Path} {failure e : FileError}
    (noNull : hasNull p = false) (refused : t.makeDirectory p = .error failure)
    (obstacle : ∀ path, failure ≠ .system .notFound path)
    (failed : t.unlessDirectory p failure = .error e) : NeverDirectory t p := by
  rw [makeDirectory, if_neg (by simp [noNull])] at refused
  split at refused
  · next fault located =>
    cases refused
    apply neverDirectory_of_locate located
    rintro rfl
    exact obstacle p rfl
  · next at_ located =>
    split at refused
    · next entry found =>
      cases entry with
      | file content => exact neverDirectory_of_file located found
      | directory =>
        rw [unlessDirectory, isDir?_eq noNull, located] at failed
        simp [found, isDirectory] at failed
    · cases refused

/-- Failures to make directories come from the system, unless there is a null character. -/
theorem makeDirectory_fault {t : FileTree} {p : Path} {failure : FileError} (noNull : hasNull p = false)
    (refused : t.makeDirectory p = .error failure) : ∃ fault, failure = .system fault p := by
  rw [makeDirectory, if_neg (by simp [noNull])] at refused
  split at refused
  · next fault located =>
    cases refused
    exact ⟨fault, rfl⟩
  · split at refused
    · cases refused
      exact ⟨.exists_, rfl⟩
    · cases refused

theorem unlessDirectory_fault {t : FileTree} {p : Path} {failure e : FileError}
    (noNull : hasNull p = false) (failed : t.unlessDirectory p failure = .error e) :
    e = failure ∨ e = .system .nameTooLong p := by
  rw [unlessDirectory, isDir?_eq noNull] at failed
  split at failed
  · next found =>
    cases failed
    split at found
    · cases found
    · cases found
      exact .inr rfl
    · cases found
  · cases failed
  · cases failed
    exact .inl rfl

theorem hasNull_parent {p : Path} (noNull : hasNull p = false) : hasNull p.parent = false := by
  simp only [hasNull, List.any_eq_false] at noNull ⊢
  intro part member
  exact noNull part (List.dropLast_subset p.parts member)

/-- After directories are made the path leads to one. -/
theorem leadsToDirectory_of_makeDirectories {fuel : Nat} {p : Path} {t u : FileTree}
    (noNull : hasNull p = false) (made : makeDirectories fuel p t = (.ok (), u)) :
    LeadsToDirectory u p := by
  induction fuel generalizing p u with
  | zero => cases made
  | succ fuel inductionHypothesis =>
    unfold makeDirectories at made
    split at made
    · next success =>
      cases made
      exact leadsToDirectory_of_makeDirectory success
    · cases made
    · split_ifs at made
      · cases made
      split at made
      · cases made
      · split at made
        · next done =>
          cases made
          exact leadsToDirectory_of_makeDirectory done
        · cases made
        · next failure _ _ =>
          obtain ⟨there, rfl⟩ := Prod.mk.inj made
          exact leadsToDirectory_of_unlessDirectory there
    · obtain ⟨there, rfl⟩ := Prod.mk.inj made
      exact leadsToDirectory_of_unlessDirectory there

/-- The empty path is not missing. -/
theorem makeDirectory_empty {t : FileTree} {p path : Path} (empty : p.parts = []) :
    t.makeDirectory p ≠ .error (.system .notFound path) := by
  have short : ¬pathLimit ≤ byteCount p.text := by
    have text : p.text = if p.root = .relative then "." else Path.rootText p.root := by
      rw [Path.text, empty]
      by_cases relative : p.root = .relative
      · simp [relative]
      · simp [relative]
    rw [text]
    cases p.root <;> decide
  have located : t.locate p = .ok (start p) := by
    rw [locate_eq, if_neg short, empty]
    rfl
  have directory : t.entry? (start p) = some .directory := by
    rw [FileTree.entry?, if_pos (isGiven_start p)]
  rw [makeDirectory, located]
  simp only [directory]
  split_ifs
  · simp
  · simp

/-- A directory that is refused for another reason than that something is missing will never be there,
unless it is one already. The failure comes from the system. -/
theorem neverDirectory_of_unlessDirectory {t : FileTree} {p : Path} {failure e : FileError}
    (noNull : hasNull p = false) (refused : t.makeDirectory p = .error failure)
    (obstacle : ∀ path, failure ≠ .system .notFound path)
    (stays : t.unlessDirectory p failure = .error e) :
    NeverDirectory t p ∧ ∃ fault path, e = .system fault path := by
  refine ⟨neverDirectory_of_refused noNull refused obstacle stays, ?_⟩
  obtain ⟨fault, rfl⟩ := makeDirectory_fault noNull refused
  rcases unlessDirectory_fault noNull stays with rfl | rfl
  · exact ⟨fault, p, rfl⟩
  · exact ⟨.nameTooLong, p, rfl⟩

/-- Below a directory nothing is missing. -/
theorem makeDirectory_below_directory {t : FileTree} {p path : Path} (noNull : hasNull p = false)
    (leads : LeadsToDirectory t p.parent) : t.makeDirectory p ≠ .error (.system .notFound path) := by
  intro missing
  rw [makeDirectory, if_neg (by simp [noNull])] at missing
  split at missing
  · next fault located =>
    cases missing
    exact absurd rfl (locate_below_directory leads located)
  · split at missing
    · cases missing
    · cases missing

/-- Directories that could not be made, with enough steps for the path, will never be there. The
failure comes from the system. The induction is on the steps: each of them goes to the parent. -/
theorem neverDirectory_of_makeDirectories {fuel : Nat} {p : Path} {t u : FileTree} {e : FileError}
    (split : IsSplit p) (noNull : hasNull p = false) (enough : p.parts.length < fuel)
    (failed : makeDirectories fuel p t = (.error e, u)) :
    NeverDirectory u p ∧ ∃ fault path, e = .system fault path := by
  induction fuel generalizing p u e with
  | zero => omega
  | succ fuel inductionHypothesis =>
    unfold makeDirectories at failed
    split at failed
    · cases failed
    · next making refused =>
      obtain ⟨fault, same⟩ := makeDirectory_fault noNull refused
      cases same
    · next path refused =>
      split_ifs at failed with empty
      · rw [List.isEmpty_iff] at empty
        exact absurd refused (makeDirectory_empty empty)
      · have some : p.parts ≠ [] := by simpa using empty
        have fewer : p.parent.parts.length < fuel := by
          rw [Path.parent, List.length_dropLast]
          have := List.length_pos_iff.mpr some
          omega
        split at failed
        · next above =>
          cases failed
          obtain ⟨never, cause⟩ := inductionHypothesis split.parent (hasNull_parent noNull) fewer above
          refine ⟨?_, cause⟩
          rintro v grows ⟨at_, reached, -⟩
          exact never v grows (leadsToDirectory_parent reached some)
        · next above made =>
          have leads := leadsToDirectory_of_makeDirectories (hasNull_parent noNull) made
          split at failed
          · cases failed
          · next missing => exact absurd missing (makeDirectory_below_directory noNull leads)
          · next failure missing other =>
            obtain ⟨stays, rfl⟩ := Prod.mk.inj failed
            exact neverDirectory_of_unlessDirectory noNull other missing stays
    · next failure null missing refused =>
      obtain ⟨stays, rfl⟩ := Prod.mk.inj failed
      exact neverDirectory_of_unlessDirectory noNull refused missing stays

end TypedSheets.FileTree
