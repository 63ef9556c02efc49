import Mathlib.Data.List.Nodup
import TypedSheets.Proofs.Files.FileTrees
import TypedSheets.SchemaFile

/-!
# Trees that grow

Whatever a run does, directories stay directories, files stay files, and what is new lies behind what
was listed before. Schema files, and places where one might stand, are left alone altogether. A path
that cannot lead to a file because of what is there will not lead to one in any later tree.
-/

namespace TypedSheets.FileTree

/-- The locations of a tree in the order of its entries. -/
def locations (t : FileTree) : List Location := t.entries.map Prod.fst

/-- A text that an entry may have for a name. -/
structure IsEntryName (name : String) : Prop where
  noSlash : '/' ∉ name.toList
  short : byteCount name ≤ nameLimit

instance (name : String) : Decidable (IsEntryName name) :=
  decidable_of_iff ('/' ∉ name.toList ∧ byteCount name ≤ nameLimit)
    ⟨fun both => ⟨both.1, both.2⟩, fun own => ⟨own.noSlash, own.short⟩⟩

/-- The name at the end of a location is one that an entry may have. -/
def IsNamed (at_ : Location) : Prop := ∀ name, at_.getLast? = some name → IsEntryName name

instance (at_ : Location) : Decidable (IsNamed at_) :=
  inferInstanceAs (Decidable (∀ name ∈ at_.getLast?, IsEntryName name))

/-- No location has two entries, and entries have the names that they may have. -/
structure WellFormed (t : FileTree) : Prop where
  distinct : t.locations.Nodup
  named : ∀ at_ ∈ t.locations, IsNamed at_

/-- What is true of a tree and of each one that a run makes of it. -/
structure Grows (t u : FileTree) : Prop where
  directories : KeepsDirectories t u
  files : ∀ at_, t.fileAt? at_ ≠ none → u.fileAt? at_ ≠ none
  /-- Files with the names of schema files are neither changed nor made. -/
  sources : ∀ at_ name, at_.getLast? = some name → SchemaFile.isName name = true →
    u.fileAt? at_ = t.fileAt? at_
  locations : ∃ more, u.locations = t.locations ++ more ∧ more.Nodup ∧
    ∀ at_ ∈ more, at_ ∉ t.locations ∧ IsNamed at_

theorem Grows.refl (t : FileTree) : Grows t t := by
  refine ⟨.refl t, fun _ found => found, fun _ _ _ _ => rfl, [], ?_, List.nodup_nil, ?_⟩
  · rw [List.append_nil]
  · intro at_ member
    cases member

theorem Grows.trans {t u v : FileTree} (first : Grows t u) (second : Grows u v) : Grows t v := by
  obtain ⟨more, listed, distinct, fresh⟩ := first.locations
  obtain ⟨further, listedLater, distinctLater, freshLater⟩ := second.locations
  refine ⟨first.directories.trans second.directories, ?_, ?_, more ++ further, ?_, ?_, ?_⟩
  · intro at_ found
    exact second.files at_ (first.files at_ found)
  · intro at_ name last isName
    rw [second.sources at_ name last isName, first.sources at_ name last isName]
  · rw [listedLater, listed, List.append_assoc]
  · apply List.Nodup.append distinct distinctLater
    intro at_ early late
    apply (freshLater at_ late).1
    rw [listed]
    exact List.mem_append_right _ early
  · intro at_ member
    rcases List.mem_append.mp member with early | late
    · exact fresh at_ early
    · obtain ⟨new, named⟩ := freshLater at_ late
      rw [listed, List.mem_append, not_or] at new
      exact ⟨new.1, named⟩

/-- A tree that grows stays well formed. -/
theorem WellFormed.grows {t u : FileTree} (wellFormed : WellFormed t) (grows : Grows t u) :
    WellFormed u := by
  obtain ⟨more, listed, distinct, fresh⟩ := grows.locations
  constructor
  · rw [listed]
    apply List.Nodup.append wellFormed.distinct distinct
    intro at_ old new
    exact (fresh at_ new).1 old
  · intro at_ member
    rw [listed] at member
    rcases List.mem_append.mp member with old | new
    · exact wellFormed.named at_ old
    · exact (fresh at_ new).2

theorem wellFormed_empty : WellFormed {} := by
  constructor
  · exact List.nodup_nil
  · intro at_ member
    cases member

/-- The locations after an entry is put in place: a new one is the last. -/
theorem map_fst_put (at_ : Location) (entry : FileEntry) (entries : List (Location × FileEntry)) :
    (put at_ entry entries).map Prod.fst =
      if at_ ∈ entries.map Prod.fst then entries.map Prod.fst
      else entries.map Prod.fst ++ [at_] := by
  induction entries with
  | nil => rfl
  | cons first rest inductionHypothesis =>
    obtain ⟨place, old⟩ := first
    by_cases here : place = at_
    · simp [put, here]
    · have other : ¬at_ = place := fun same => here same.symm
      simp only [put, if_neg here, List.map_cons, inductionHypothesis, List.mem_cons, other, false_or]
      split <;> rfl

theorem locations_put (t : FileTree) (at_ : Location) (entry : FileEntry) :
    FileTree.locations { entries := put at_ entry t.entries } =
      if at_ ∈ t.locations then t.locations else t.locations ++ [at_] :=
  map_fst_put at_ entry t.entries

/-- The locations of a tree with one more entry. -/
theorem exists_more_put (t : FileTree) (at_ : Location) (entry : FileEntry) (named : IsNamed at_) :
    ∃ more, FileTree.locations { entries := put at_ entry t.entries } = t.locations ++ more ∧
      more.Nodup ∧ ∀ other ∈ more, other ∉ t.locations ∧ IsNamed other := by
  by_cases listed : at_ ∈ t.locations
  · refine ⟨[], ?_, List.nodup_nil, ?_⟩
    · rw [locations_put, if_pos listed, List.append_nil]
    · intro other member
      cases member
  · refine ⟨[at_], ?_, List.nodup_singleton at_, ?_⟩
    · rw [locations_put, if_neg listed]
    · intro other member
      rw [List.mem_singleton.mp member]
      exact ⟨listed, named⟩

/-- A tree grows by a directory where nothing was. -/
theorem grows_directory {t : FileTree} {at_ : Location} (nothing : t.entry? at_ = none)
    (named : IsNamed at_) : Grows t { entries := put at_ .directory t.entries } := by
  have free := not_given t at_ (by rw [nothing]; simp)
  have found := fun other => entry?_put t at_ other .directory free
  have files (other : Location) :
      FileTree.fileAt? { entries := put at_ .directory t.entries } other = t.fileAt? other := by
    by_cases same : other = at_
    · rw [fileAt?, fileAt?, found, if_pos same, same, nothing]
    · rw [fileAt?, fileAt?, found, if_neg same]
  refine ⟨?_, ?_, ?_, exists_more_put t at_ .directory named⟩
  · intro other directory
    by_cases same : other = at_
    · rw [found, if_pos same]
    · rw [found, if_neg same, directory]
  · intro other file
    rw [files]
    exact file
  · intro other _ _ _
    exact files other

/-- A tree grows by a file that is no schema file, where no directory is. -/
theorem grows_file {t : FileTree} {at_ : Location} (content : FileContent)
    (noDirectory : t.entry? at_ ≠ some .directory) (named : IsNamed at_)
    (product : ∀ name, at_.getLast? = some name → SchemaFile.isName name = false) :
    Grows t { entries := put at_ (.file content) t.entries } := by
  have free := not_given t at_ noDirectory
  have found := fun other => entry?_put t at_ other (.file content) free
  refine ⟨?_, ?_, ?_, exists_more_put t at_ (.file content) named⟩
  · intro other directory
    have different : other ≠ at_ := by
      rintro rfl
      exact noDirectory directory
    rw [found, if_neg different, directory]
  · intro other file
    by_cases same : other = at_
    · rw [fileAt?, found, if_pos same]
      simp
    · rw [fileAt?, found, if_neg same]
      exact file
  · intro other name last isName
    have different : other ≠ at_ := by
      rintro rfl
      rw [product name last] at isName
      cases isName
    rw [fileAt?, fileAt?, found, if_neg different]

/-- A path whose components hold no slashes, as the path of every text. -/
def IsSplit (p : Path) : Prop := ∀ part ∈ p.parts, '/' ∉ part.toList

/-- Where a walk ends has the last name on it, unless that goes back. -/
theorem getLast?_of_walk {t : FileTree} {names : List String} {at_ last : Location} {name : String}
    (walked : t.walk at_ names = .ok last) (ending : names.getLast? = some name) (down : name ≠ "..") :
    last.getLast? = some name := by
  obtain ⟨front, rfl⟩ := List.getLast?_eq_some_iff.mp ending
  obtain ⟨middle, _, step⟩ := walk_append walked
  rw [walk_component down step, List.getLast?_concat]

/-- Where a walk may be that takes no names with slashes: some names of entries below what is given. -/
def IsPlace (at_ : Location) : Prop :=
  ∃ base names, isGiven base = true ∧ at_ = base ++ names ∧ ∀ name ∈ names, IsEntryName name

theorem isPlace_of_given {at_ : Location} (given : isGiven at_ = true) : IsPlace at_ := by
  refine ⟨at_, [], given, (List.append_nil at_).symm, ?_⟩
  intro name member
  cases member

/-- Going up stays among the places: above what is given there is more of it. -/
theorem IsPlace.up {at_ : Location} (isPlace : IsPlace at_) : IsPlace (up at_) := by
  obtain ⟨base, names, given, rfl, split⟩ := isPlace
  unfold FileTree.up
  split_ifs with above root
  · exact isPlace_of_given above
  · apply isPlace_of_given
    simp only [isGiven, Bool.or_eq_true, beq_iff_eq, List.all_cons, Bool.and_eq_true] at above ⊢
    rcases above with dots | same
    · exact .inl ⟨trivial, dots⟩
    · exact absurd same root
  · have some : names ≠ [] := by
      rintro rfl
      rw [List.append_nil] at above
      exact above given
    refine ⟨base, names.dropLast, given, List.dropLast_append_of_ne_nil some, ?_⟩
    intro name member
    exact split name (List.dropLast_subset names member)

theorem IsPlace.below {at_ : Location} (isPlace : IsPlace at_) {name : String} (own : IsEntryName name) :
    IsPlace (at_ ++ [name]) := by
  obtain ⟨base, names, given, rfl, split⟩ := isPlace
  refine ⟨base, names ++ [name], given, List.append_assoc base names [name], ?_⟩
  intro other member
  rcases List.mem_append.mp member with inside | new
  · exact split other inside
  · rw [List.mem_singleton.mp new]
    exact own

theorem isPlace_of_walk {t : FileTree} {names : List String} {at_ last : Location}
    (split : ∀ name ∈ names, '/' ∉ name.toList) (isPlace : IsPlace at_)
    (walked : t.walk at_ names = .ok last) : IsPlace last := by
  induction names generalizing at_ with
  | nil =>
    cases walked
    exact isPlace
  | cons name rest inductionHypothesis =>
    have further : ∀ other ∈ rest, '/' ∉ other.toList :=
      fun other member => split other (List.mem_cons_of_mem name member)
    rw [walk_cons] at walked
    obtain ⟨middle, step, behind⟩ := bind_eq_ok walked
    obtain ⟨-, short, rfl⟩ := follow_eq_ok.mp step
    refine inductionHypothesis further ?_ behind
    split
    · exact isPlace.up
    · exact isPlace.below ⟨split name List.mem_cons_self, short⟩

/-- Where a walk of a path begins. -/
def start (p : Path) : Location := if p.isAbsolute then ["/"] else []

theorem isGiven_start (p : Path) : isGiven (start p) = true := by
  unfold start
  split <;> rfl

theorem locate_eq (t : FileTree) (p : Path) :
    t.locate p = if pathLimit ≤ byteCount p.text then .error .nameTooLong
      else t.walk (start p) p.parts := rfl

/-- A path that can be located is short enough, and its components can be walked. -/
theorem locate_ok {t : FileTree} {p : Path} {at_ : Location} (located : t.locate p = .ok at_) :
    byteCount p.text < pathLimit ∧ t.walk (start p) p.parts = .ok at_ := by
  unfold locate at located
  split at located
  · cases located
  · next short => exact ⟨Nat.lt_of_not_le short, located⟩

/-- What is new at the end of a path without slashes has a name that an entry may have. -/
theorem isNamed_of_locate {t : FileTree} {p : Path} {at_ : Location} (split : IsSplit p)
    (located : t.locate p = .ok at_) (noDirectory : t.entry? at_ ≠ some .directory) : IsNamed at_ := by
  have free := not_given t at_ noDirectory
  obtain ⟨base, names, given, rfl, own⟩ :=
    isPlace_of_walk split (isPlace_of_given (isGiven_start p)) (locate_ok located).2
  intro name last
  cases names with
  | nil =>
    rw [List.append_nil, given] at free
    cases free
  | cons first rest =>
    rw [List.getLast?_append_of_ne_nil base (List.cons_ne_nil first rest)] at last
    exact own name (List.mem_of_getLast? last)

/-- A path whose last component is the name of a file that a run may write. -/
structure IsProduct (p : Path) : Prop where
  split : IsSplit p
  named : ∃ name, p.parts.getLast? = some name ∧ name ≠ ".." ∧ SchemaFile.isName name = false ∧
    '\x00' ∉ name.toList

/-- Such a path leads to no schema file. -/
theorem IsProduct.not_source {t : FileTree} {p : Path} {at_ : Location} (product : IsProduct p)
    (located : t.locate p = .ok at_) :
    ∀ name, at_.getLast? = some name → SchemaFile.isName name = false := by
  obtain ⟨own, ending, down, other, -⟩ := product.named
  intro name last
  rw [getLast?_of_walk (locate_ok located).2 ending down] at last
  cases last
  exact other

/-- It is not empty, -/
theorem IsProduct.parts_ne_nil {p : Path} (product : IsProduct p) : p.parts ≠ [] := by
  obtain ⟨name, ending, -⟩ := product.named
  intro empty
  rw [empty] at ending
  cases ending

/-- and a null character on it stands before the last component. -/
theorem IsProduct.hasNull_parent {p : Path} (product : IsProduct p) :
    hasNull p.parent = hasNull p := by
  obtain ⟨name, ending, -, -, noNull⟩ := product.named
  obtain ⟨front, parts⟩ := List.getLast?_eq_some_iff.mp ending
  rw [hasNull, hasNull, Path.parent, parts, List.dropLast_concat, List.any_append]
  simp [noNull]

/-- Writing a file that is no schema file makes a tree grow. -/
theorem grows_of_write {t u : FileTree} {p : Path} {content : FileContent} (product : IsProduct p)
    (written : t.write p content = .ok u) : Grows t u := by
  unfold write at written
  split_ifs at written
  split at written
  · cases written
  · next at_ located =>
    split at written
    · cases written
    · next noDirectory =>
      cases written
      exact grows_file content noDirectory (isNamed_of_locate product.split located noDirectory)
        (product.not_source located)

/-- So does making a directory. -/
theorem grows_of_makeDirectory {t u : FileTree} {p : Path} (split : IsSplit p)
    (made : t.makeDirectory p = .ok u) : Grows t u := by
  unfold makeDirectory at made
  split_ifs at made
  split at made
  · cases made
  · next at_ located =>
    split at made
    · cases made
    · next nothing =>
      cases made
      exact grows_directory nothing (isNamed_of_locate split located (by rw [nothing]; simp))

theorem IsSplit.parent {p : Path} (split : IsSplit p) : IsSplit p.parent :=
  fun part member => split part (List.dropLast_subset p.parts member)

/-- And so does making directories, even where that fails. -/
theorem grows_of_makeDirectories (fuel : Nat) {p : Path} (split : IsSplit p) (t : FileTree) :
    Grows t (makeDirectories fuel p t).2 := by
  induction fuel generalizing p with
  | zero => exact .refl t
  | succ fuel inductionHypothesis =>
    unfold makeDirectories
    split
    · next made success => exact grows_of_makeDirectory split success
    · exact .refl t
    · split_ifs
      · exact .refl t
      · have grows := inductionHypothesis split.parent
        split
        · next e partly above =>
          rw [above] at grows
          exact grows
        · next above success =>
          rw [success] at grows
          split
          · next made done => exact grows.trans (grows_of_makeDirectory split done)
          · exact grows
          · exact grows
    · exact .refl t

end TypedSheets.FileTree
