import Mathlib.Tactic.SplitIfs
import TypedSheets.FileTree
import TypedSheets.Proofs.Outcomes

/-!
# What operations do to a file tree

A directory stays a directory whatever is written, so what a path leads to stays the same. Writing
changes the file at one location, and making directories changes no file.
-/

namespace TypedSheets.FileTree

/-- The file at a location. -/
def fileAt? (t : FileTree) (at_ : Location) : Option FileContent :=
  match t.entry? at_ with
  | some (.file content) => some content
  | _ => none

/-- Every directory of one tree is one of another. -/
def KeepsDirectories (t u : FileTree) : Prop :=
  ∀ at_, t.entry? at_ = some .directory → u.entry? at_ = some .directory

theorem KeepsDirectories.refl (t : FileTree) : KeepsDirectories t t := fun _ found => found

theorem KeepsDirectories.trans {t u v : FileTree} (first : KeepsDirectories t u)
    (second : KeepsDirectories u v) : KeepsDirectories t v :=
  fun at_ found => second at_ (first at_ found)

section Walks

variable {t u : FileTree} {at_ middle last : Location} {name : String} {names more : List String}
  {fault : FileFault}

/-- One step of a walk: it starts from a directory, and goes back or down. -/
def follow (t : FileTree) (at_ : Location) (name : String) : Except FileFault Location :=
  match t.entry? at_ with
  | none => .error .notFound
  | some (.file _) => .error .notDirectory
  | some .directory =>
    if nameLimit < byteCount name then .error .nameTooLong
    else .ok (if name = ".." then up at_ else at_ ++ [name])

theorem follow_directory (found : t.entry? at_ = some .directory) :
    t.follow at_ name = if nameLimit < byteCount name then .error .nameTooLong
      else .ok (if name = ".." then up at_ else at_ ++ [name]) := by
  rw [follow, found]

/-- A step succeeds from a directory, by a name that is short enough. -/
theorem follow_eq_ok : t.follow at_ name = .ok middle ↔
    t.entry? at_ = some .directory ∧ byteCount name ≤ nameLimit ∧
      middle = if name = ".." then up at_ else at_ ++ [name] := by
  constructor
  · intro step
    cases found : t.entry? at_ with
    | none => simp [follow, found] at step
    | some entry =>
      cases entry with
      | file content => simp [follow, found] at step
      | directory =>
        rw [follow_directory found] at step
        split at step
        · cases step
        · next short => exact ⟨rfl, Nat.le_of_not_lt short, (Except.ok.inj step).symm⟩
  · rintro ⟨found, short, rfl⟩
    rw [follow_directory found, if_neg (Nat.not_lt_of_le short)]

/-- A step fails where nothing stands, where a file does, or for the length of the name. -/
theorem follow_eq_error (step : t.follow at_ name = .error fault) :
    (t.entry? at_ = none ∧ fault = .notFound) ∨
      (∃ content, t.entry? at_ = some (.file content) ∧ fault = .notDirectory) ∨
      (t.entry? at_ = some .directory ∧ nameLimit < byteCount name ∧ fault = .nameTooLong) := by
  cases found : t.entry? at_ with
  | none =>
    rw [follow, found] at step
    exact .inl ⟨rfl, (Except.error.inj step).symm⟩
  | some entry =>
    cases entry with
    | file content =>
      rw [follow, found] at step
      exact .inr (.inl ⟨content, rfl, (Except.error.inj step).symm⟩)
    | directory =>
      rw [follow_directory found] at step
      split at step
      · next long => exact .inr (.inr ⟨rfl, long, (Except.error.inj step).symm⟩)
      · cases step

/-- Names are followed one behind another. -/
theorem walk_cons (t : FileTree) (at_ : Location) (name : String) (rest : List String) :
    t.walk at_ (name :: rest) = t.follow at_ name >>= fun middle => t.walk middle rest := by
  rw [walk, follow]
  cases t.entry? at_ with
  | none => rfl
  | some entry =>
    cases entry with
    | file content => rfl
    | directory =>
      dsimp only
      by_cases back : name = ".."
      · rw [if_pos back, if_pos back, if_neg (by rw [back]; decide)]
        rfl
      · rw [if_neg back, if_neg back]
        split <;> rfl

/-- So a walk of two stretches is the one behind the other. -/
theorem walk_stretches (t : FileTree) (at_ : Location) (names more : List String) :
    t.walk at_ (names ++ more) = t.walk at_ names >>= fun middle => t.walk middle more := by
  induction names generalizing at_ with
  | nil => rfl
  | cons name rest inductionHypothesis =>
    rw [List.cons_append, walk_cons, walk_cons, bind_assoc]
    exact bind_congr inductionHypothesis

theorem walk_append (walked : t.walk at_ (names ++ more) = .ok last) :
    ∃ middle, t.walk at_ names = .ok middle ∧ t.walk middle more = .ok last := by
  rw [walk_stretches] at walked
  exact bind_eq_ok walked

/-- A walk of two stretches, the first of which is known. -/
theorem walk_concat (walked : t.walk at_ names = .ok middle) :
    t.walk at_ (names ++ more) = t.walk middle more := by
  rw [walk_stretches, walked]
  rfl

theorem walk_singleton (t : FileTree) (at_ : Location) (name : String) :
    t.walk at_ [name] = t.follow at_ name := by
  rw [walk_cons]
  exact bind_pure _

/-- A step down ends at the name. -/
theorem walk_component (down : name ≠ "..") (walked : t.walk at_ [name] = .ok last) :
    last = at_ ++ [name] := by
  rw [walk_singleton] at walked
  rw [(follow_eq_ok.mp walked).2.2, if_neg down]

/-- Where a walk ends does not depend on what else there is. -/
theorem walk_kept (kept : KeepsDirectories t u) (names : List String) (at_ last : Location)
    (walked : t.walk at_ names = .ok last) : u.walk at_ names = .ok last := by
  induction names generalizing at_ with
  | nil => exact walked
  | cons name rest inductionHypothesis =>
    rw [walk_cons] at walked ⊢
    obtain ⟨middle, step, further⟩ := bind_eq_ok walked
    obtain ⟨found, short, ends⟩ := follow_eq_ok.mp step
    rw [follow_eq_ok.mpr ⟨kept at_ found, short, ends⟩]
    exact inductionHypothesis middle further

/-- So a path leads to the same location. -/
theorem locate_kept (kept : KeepsDirectories t u) (p : Path) (at_ : Location)
    (located : t.locate p = .ok at_) : u.locate p = .ok at_ := by
  unfold locate at located ⊢
  split_ifs at located ⊢
  all_goals exact walk_kept kept _ _ _ located

end Walks

/-- An entry that is put at a location is found there, and the others stay. -/
theorem lookup_put (at_ other : Location) (entry : FileEntry) (entries : List (Location × FileEntry)) :
    (put at_ entry entries).lookup other =
      if other = at_ then some entry else entries.lookup other := by
  induction entries with
  | nil =>
    rw [put, List.lookup_cons, List.lookup_nil]
    by_cases same : other = at_
    · simp [same]
    · simp [same, beq_false_of_ne same]
  | cons first rest inductionHypothesis =>
    obtain ⟨place, old⟩ := first
    by_cases here : place = at_
    · subst here
      rw [put, if_pos rfl, List.lookup_cons, List.lookup_cons]
      by_cases same : other = place
      · simp [same]
      · simp [same, beq_false_of_ne same]
    · rw [put, if_neg here, List.lookup_cons, List.lookup_cons]
      by_cases same : other = place
      · subst same
        simp [here]
      · rw [beq_false_of_ne same]
        exact inductionHypothesis

/-- Putting an entry at a location that is not given changes what stands there. -/
theorem entry?_put (t : FileTree) (at_ other : Location) (entry : FileEntry)
    (free : isGiven at_ = false) :
    FileTree.entry? { entries := put at_ entry t.entries } other =
      if other = at_ then some entry else t.entry? other := by
  unfold entry?
  by_cases given : isGiven other = true
  · have different : other ≠ at_ := by
      rintro rfl
      rw [free] at given
      cases given
    rw [if_pos given, if_neg different, if_pos given]
  · rw [if_neg given, if_neg given]
    exact lookup_put at_ other entry t.entries

/-- A location without a directory is not given. -/
theorem not_given (t : FileTree) (at_ : Location) (other : t.entry? at_ ≠ some .directory) :
    isGiven at_ = false := by
  cases given : isGiven at_ with
  | false => rfl
  | true => exact absurd (by rw [FileTree.entry?, given]; rfl) other

/-- Writing puts a file where the path leads, and changes nothing else. -/
theorem write_ok {t u : FileTree} {p : Path} {content : FileContent}
    (written : t.write p content = .ok u) :
    hasNull p = false ∧ ∃ at_, t.locate p = .ok at_ ∧ KeepsDirectories t u ∧
      u.fileAt? at_ = some content ∧ ∀ other, other ≠ at_ → u.entry? other = t.entry? other := by
  unfold write at written
  split_ifs at written with null
  split at written
  · cases written
  · next at_ located =>
    split at written
    · cases written
    · next noDirectory =>
      cases written
      have free := not_given t at_ noDirectory
      have found := fun other => entry?_put t at_ other (.file content) free
      refine ⟨by simpa using null, at_, located, ?_, ?_, ?_⟩
      · intro other directory
        have different : other ≠ at_ := by
          rintro rfl
          exact noDirectory directory
        rw [found, if_neg different, directory]
      · rw [fileAt?, found, if_pos rfl]
      · intro other different
        rw [found, if_neg different]

/-- A new directory stands where nothing was. -/
theorem makeDirectory_ok {t u : FileTree} {p : Path} (made : t.makeDirectory p = .ok u) :
    KeepsDirectories t u ∧ ∀ at_, u.fileAt? at_ = t.fileAt? at_ := by
  unfold makeDirectory at made
  split_ifs at made
  split at made
  · cases made
  · next at_ located =>
    split at made
    · cases made
    · next nothing =>
      cases made
      have free := not_given t at_ (by rw [nothing]; simp)
      have found := fun other => entry?_put t at_ other .directory free
      refine ⟨fun other directory => ?_, fun other => ?_⟩
      · have different : other ≠ at_ := by
          rintro rfl
          rw [nothing] at directory
          cases directory
        rw [found, if_neg different, directory]
      · by_cases same : other = at_
        · subst same
          rw [fileAt?, fileAt?, found, if_pos rfl, nothing]
        · rw [fileAt?, fileAt?, found, if_neg same]

/-- Making directories changes no file, whether it succeeds or not. -/
theorem makeDirectories_frame (fuel : Nat) (p : Path) (t : FileTree) :
    KeepsDirectories t (makeDirectories fuel p t).2 ∧
      ∀ at_, (makeDirectories fuel p t).2.fileAt? at_ = t.fileAt? at_ := by
  induction fuel generalizing p with
  | zero => exact ⟨.refl t, fun _ => rfl⟩
  | succ fuel inductionHypothesis =>
    unfold makeDirectories
    split
    · next made success => exact makeDirectory_ok success
    · exact ⟨.refl t, fun _ => rfl⟩
    · split_ifs
      · exact ⟨.refl t, fun _ => rfl⟩
      · obtain ⟨kept, same⟩ := inductionHypothesis p.parent
        split
        · next e partly above =>
          rw [above] at kept same
          exact ⟨kept, same⟩
        · next above success =>
          rw [success] at kept same
          split
          · next made done =>
            obtain ⟨keptMade, sameMade⟩ := makeDirectory_ok done
            exact ⟨kept.trans keptMade, fun at_ => (sameMade at_).trans (same at_)⟩
          · exact ⟨kept, same⟩
          · exact ⟨kept, same⟩
    · exact ⟨.refl t, fun _ => rfl⟩

/-- Reading gives the file where the path leads. -/
theorem read_eq {t : FileTree} {p : Path} {at_ : Location} {content : FileContent}
    (noNull : hasNull p = false) (located : t.locate p = .ok at_)
    (found : t.fileAt? at_ = some content) : t.read p = .ok content := by
  have entry : t.entry? at_ = some (.file content) := by
    unfold fileAt? at found
    split at found
    · next own same =>
      cases found
      exact same
    · cases found
  simp [read, noNull, status, located, entry]

theorem read_ok {t : FileTree} {p : Path} {content : FileContent} (red : t.read p = .ok content) :
    hasNull p = false ∧ ∃ at_, t.locate p = .ok at_ ∧ t.fileAt? at_ = some content := by
  unfold read at red
  split_ifs at red with null
  unfold status at red
  cases located : t.locate p with
  | error fault => simp [located] at red
  | ok at_ =>
    cases entry : t.entry? at_ with
    | none => simp [located, entry] at red
    | some entry' =>
      cases entry' with
      | directory => simp [located, entry] at red
      | file own =>
        simp only [located, entry, Except.ok.injEq] at red
        subst red
        exact ⟨by simpa using null, at_, rfl, by rw [fileAt?, entry]⟩

end TypedSheets.FileTree
