import TypedSheets.Proofs.Files.ApartPaths

/-!
# Trees in which everything stands in a directory

Where a path leads may change as directories are made: a path that goes back through a directory that is
not there yet leads nowhere now and to something old later. That cannot happen below a path that never
goes back, or that leads to a directory already, when every entry of the tree stands in a directory.
-/

namespace TypedSheets

namespace FileTree

/-- Every entry stands in a directory. -/
def Rooted (t : FileTree) : Prop := ∀ at_ ∈ t.locations, t.entry? at_.dropLast = some .directory

instance (t : FileTree) : Decidable (Rooted t) :=
  decidable_of_iff (∀ at_ ∈ t.locations, (t.entry? at_.dropLast).any isDirectory = true) (by
    refine forall₂_congr fun at_ _ => ?_
    cases t.entry? at_.dropLast with
    | none => simp
    | some entry => cases entry <;> simp [isDirectory])

/-- What is above something given is given itself. -/
theorem isGiven_of_append {at_ more : Location} (given : isGiven (at_ ++ more) = true)
    (below : more ≠ []) : isGiven at_ = true := by
  rw [isGiven, Bool.or_eq_true, beq_iff_eq, List.all_append, Bool.and_eq_true] at given
  rw [isGiven, Bool.or_eq_true]
  rcases given with dots | root
  · exact .inl dots.1
  · cases at_ with
    | nil => exact .inl rfl
    | cons first rest =>
      obtain ⟨-, nothing⟩ := List.cons.inj root
      exact absurd (List.append_eq_nil_iff.mp nothing).2 below

/-- What stands somewhere is given or listed. -/
theorem mem_locations_of_found {t : FileTree} {at_ : Location} (free : isGiven at_ = false)
    (found : t.entry? at_ ≠ none) : at_ ∈ t.locations := by
  obtain ⟨entry, known⟩ := Option.ne_none_iff_exists'.mp found
  rw [FileTree.entry?, if_neg (by rw [free]; decide)] at known
  obtain ⟨before, behind, entries, -⟩ := List.lookup_eq_some_iff.mp known
  refine List.mem_map.mpr ⟨(at_, entry), ?_, rfl⟩
  rw [entries]
  exact List.mem_append_right before List.mem_cons_self

section Trees

variable {t : FileTree} {at_ last : Location} {names more : List String}

/-- Whatever stands below a location stands in a directory there. -/
theorem Rooted.above (rooted : Rooted t) (found : t.entry? (at_ ++ more) ≠ none)
    (below : more ≠ []) : t.entry? at_ = some .directory := by
  induction more using List.reverseRecOn with
  | nil => exact absurd rfl below
  | append_singleton front name inductionHypothesis =>
    cases given : isGiven (at_ ++ (front ++ [name])) with
    | true =>
      rw [FileTree.entry?, if_pos (isGiven_of_append given below)]
    | false =>
      have parent := rooted _ (mem_locations_of_found given found)
      rw [← List.append_assoc, List.dropLast_concat] at parent
      by_cases single : front = []
      · rw [single, List.append_nil] at parent
        exact parent
      · apply inductionHypothesis _ single
        rw [parent]
        exact Option.some_ne_none _

/-- So one can walk down to it. -/
theorem Rooted.walk (rooted : Rooted t) (down : ∀ name ∈ names, name ≠ "..")
    (short : ∀ name ∈ names, byteCount name ≤ nameLimit) (found : t.entry? (at_ ++ names) ≠ none) :
    t.walk at_ names = .ok (at_ ++ names) := by
  induction names generalizing at_ with
  | nil =>
    rw [List.append_nil]
    rfl
  | cons name rest inductionHypothesis =>
    have directory := rooted.above found (List.cons_ne_nil name rest)
    have whole : at_ ++ name :: rest = (at_ ++ [name]) ++ rest := List.append_cons at_ name rest
    have step : t.follow at_ name = .ok (at_ ++ [name]) :=
      follow_eq_ok.mpr ⟨directory, short name List.mem_cons_self,
        (if_neg (down name List.mem_cons_self)).symm⟩
    rw [walk_cons, step, whole]
    rw [whole] at found
    exact inductionHypothesis (fun other member => down other (List.mem_cons_of_mem name member))
      (fun other member => short other (List.mem_cons_of_mem name member)) found

/-- A walk that never goes back ends at the names. -/
theorem walk_down (down : ∀ name ∈ names, name ≠ "..") (walked : t.walk at_ names = .ok last) :
    last = at_ ++ names := by
  induction names generalizing at_ with
  | nil =>
    cases walked
    exact (List.append_nil _).symm
  | cons name rest inductionHypothesis =>
    have stretches : t.walk at_ ([name] ++ rest) = .ok last := walked
    obtain ⟨middle, first, further⟩ := walk_append stretches
    rw [walk_component (down name List.mem_cons_self) first] at further
    rw [inductionHypothesis (fun other member => down other (List.mem_cons_of_mem name member)) further,
      List.append_assoc]
    rfl

end Trees

section Changes

variable {t u : FileTree} {p : Path} {at_ : Location}

/-- Above a directory there is one. -/
theorem Rooted.directory_up (rooted : Rooted t) (found : t.entry? at_ = some .directory) :
    t.entry? (up at_) = some .directory := by
  unfold up
  split_ifs with given root
  · exact found
  · rw [FileTree.entry?, if_pos]
    simp only [isGiven, Bool.or_eq_true, beq_iff_eq, root, or_false] at given
    simp [isGiven, given]
  · have free : isGiven at_ = false := Bool.eq_false_iff.mpr given
    exact rooted at_ (mem_locations_of_found free (by rw [found]; exact Option.some_ne_none _))

/-- What a path leads to stands in a directory, unless it is a directory itself. -/
theorem Rooted.above_of_locate (rooted : Rooted t) (located : t.locate p = .ok at_)
    (noDirectory : t.entry? at_ ≠ some .directory) : t.entry? at_.dropLast = some .directory := by
  have walked := (locate_ok located).2
  rcases List.eq_nil_or_concat p.parts with empty | ⟨front, name, parts⟩
  · rw [empty] at walked
    cases walked
    exact absurd (by rw [FileTree.entry?, if_pos (isGiven_start p)]) noDirectory
  · rw [parts, List.concat_eq_append] at walked
    obtain ⟨middle, -, step⟩ := walk_append walked
    rw [walk_singleton] at step
    obtain ⟨found, -, rfl⟩ := follow_eq_ok.mp step
    split at noDirectory
    · exact absurd (rooted.directory_up found) noDirectory
    · next down =>
      rw [if_neg down, List.dropLast_concat]
      exact found

/-- An entry is put in a directory, and not in the place of one. -/
theorem Rooted.put (rooted : Rooted t) (above : t.entry? at_.dropLast = some .directory)
    (noDirectory : t.entry? at_ ≠ some .directory) (entry : FileEntry) :
    Rooted { entries := FileTree.put at_ entry t.entries } := by
  intro other member
  have old : t.entry? other.dropLast = some .directory := by
    rw [locations_put] at member
    split_ifs at member
    · exact rooted other member
    · rcases List.mem_append.mp member with listed | new
      · exact rooted other listed
      · rw [List.mem_singleton.mp new]
        exact above
  rw [entry?_put t at_ other.dropLast entry (not_given t at_ noDirectory), if_neg, old]
  intro same
  rw [same] at old
  exact noDirectory old

theorem Rooted.write {content : FileContent} (rooted : Rooted t) (written : t.write p content = .ok u) :
    Rooted u := by
  unfold FileTree.write at written
  split_ifs at written
  split at written
  · cases written
  · next at_ located =>
    split at written
    · cases written
    · next noDirectory =>
      cases written
      exact rooted.put (rooted.above_of_locate located noDirectory) noDirectory _

theorem Rooted.makeDirectory (rooted : Rooted t) (made : t.makeDirectory p = .ok u) : Rooted u := by
  unfold FileTree.makeDirectory at made
  split_ifs at made
  split at made
  · cases made
  · next at_ located =>
    split at made
    · cases made
    · next nothing =>
      cases made
      have noDirectory : t.entry? at_ ≠ some .directory := by
        rw [nothing]
        simp
      exact rooted.put (rooted.above_of_locate located noDirectory) noDirectory _

theorem Rooted.makeDirectories (rooted : Rooted t) (fuel : Nat) (p : Path) :
    Rooted (FileTree.makeDirectories fuel p t).2 := by
  induction fuel generalizing p with
  | zero => exact rooted
  | succ fuel inductionHypothesis =>
    unfold FileTree.makeDirectories
    split
    · next made success => exact rooted.makeDirectory success
    · exact rooted
    · split_ifs
      · exact rooted
      · have above := inductionHypothesis p.parent
        split
        · next e partly failed =>
          rw [failed] at above
          exact above
        · next middle success =>
          rw [success] at above
          split
          · next made done => exact above.makeDirectory done
          · exact above
          · exact above
    · exact rooted

/-- The other entries stay when one is taken away. -/
theorem lookup_filter {other : Location} (different : other ≠ at_) (entries : List (Location × FileEntry)) :
    (entries.filter fun entry => entry.1 != at_).lookup other = entries.lookup other := by
  induction entries with
  | nil => rfl
  | cons first rest inductionHypothesis =>
    obtain ⟨place, entry⟩ := first
    by_cases here : place = at_
    · rw [List.filter_cons_of_neg (by simp [here]), inductionHypothesis, List.lookup_cons, here,
        beq_false_of_ne different]
    · rw [List.filter_cons_of_pos (by simpa using here), List.lookup_cons, List.lookup_cons, inductionHypothesis]

/-- A file is taken away, and nothing stands in a file. -/
theorem Rooted.remove (rooted : Rooted t) (removed : t.remove p = .ok u) : Rooted u := by
  unfold FileTree.remove at removed
  split at removed
  · cases removed
  · next at_ located =>
    split at removed
    · cases removed
    · cases removed
    · next content isFile =>
      cases removed
      intro other member
      obtain ⟨entry, listed, rfl⟩ := List.mem_map.mp member
      have old := rooted entry.1 (List.mem_map_of_mem (List.mem_filter.mp listed).1)
      have apart : entry.1.dropLast ≠ at_ := by
        intro same
        rw [same, isFile] at old
        cases old
      unfold FileTree.entry? at old ⊢
      split_ifs at old ⊢
      · rfl
      · rw [lookup_filter apart, old]

end Changes

end FileTree

open FileTree

/-- Whatever stands where a path leads to in a later tree, the path leads there already. -/
def Steady (t : FileTree) (p : Path) : Prop :=
  ∀ u at_, Grows t u → u.locate p = .ok at_ → t.fileAt? at_ ≠ none → t.locate p = .ok at_

/-- A path that never goes back, or leads to a directory. -/
def Straight (t : FileTree) (p : Path) : Prop := ".." ∉ p.parts ∨ LeadsToDirectory t p

/-- Nothing old appears below a straight path. -/
theorem steady_below {t : FileTree} {p : Path} {names : List String} (rooted : Rooted t)
    (straight : Straight t p) (components : ∀ name ∈ names, IsComponent name) :
    Steady t (p.below names) := by
  intro u at_ grows located there
  obtain ⟨whole, walked⟩ := locate_ok located
  have short := short_of_walk walked
  have found : t.entry? at_ ≠ none := by
    obtain ⟨content, isOne⟩ := Option.ne_none_iff_exists'.mp there
    rw [fileAt?_eq_some.mp isOne]
    exact Option.some_ne_none _
  have down : ∀ name ∈ names, name ≠ ".." := fun name member => (components name member).down
  rw [locate_eq, if_neg (Nat.not_le_of_lt whole)]
  rcases straight with forward | ⟨base, reached, -⟩
  · have all : ∀ name ∈ (p.below names).parts, name ≠ ".." := by
      intro name member
      rcases List.mem_append.mp member with above | new
      · rintro rfl
        exact forward above
      · exact down name new
    obtain rfl := walk_down all walked
    exact rooted.walk all short found
  · have early := (locate_ok reached).2
    have late := (locate_ok (locate_kept grows.directories p base reached)).2
    have parts : (p.below names).parts = p.parts ++ names := rfl
    have begins : start (p.below names) = start p := rfl
    rw [parts, begins, walk_concat late] at walked
    rw [parts, begins, walk_concat early]
    obtain rfl := walk_down down walked
    refine rooted.walk down ?_ found
    intro name member
    exact short name (List.mem_append_right p.parts member)

end TypedSheets
