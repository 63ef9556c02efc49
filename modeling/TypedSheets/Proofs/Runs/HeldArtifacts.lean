import TypedSheets.Proofs.Files.ApartPaths
import TypedSheets.Proofs.Files.Artifacts
import TypedSheets.Proofs.Files.Obstacles

/-!
# What writing leaves behind

Each part of a run leaves some artifacts standing and every other file as it was. An artifact that
stands is passed over when it is seen to again. One that could not be written cannot be written in any
later tree either, because what was in the way is still there.
-/

namespace TypedSheets

open TypedSheets.Emission TypedSheets.Text FileTree

/-- The path of an artifact leads to a file with the encoding of its text. -/
def Stands (t : FileTree) (a : Artifact) : Prop :=
  t.read a.path = .ok (.bytes (encodeUtf8 a.content))

/-- An artifact still stands when its file is what it was. -/
theorem Stands.kept {t u : FileTree} {a : Artifact} (stands : Stands t a) (grows : Grows t u)
    (same : ∀ at_, t.locate a.path = .ok at_ → u.fileAt? at_ = t.fileAt? at_) : Stands u a := by
  obtain ⟨noNull, at_, located, found⟩ := read_ok stands
  apply read_eq noNull (locate_kept grows.directories a.path at_ located)
  rw [same at_ located, found]

/-- What a part of a run leaves behind: some artifacts stand, when none of them is written over by
another, and every other file is as it was. -/
structure Leaves (held : List Artifact) (before after : FileTree) : Prop where
  grows : Grows before after
  others : ∀ at_, (∀ a ∈ held, after.locate a.path ≠ .ok at_) → after.fileAt? at_ = before.fileAt? at_
  stands : (held.map Artifact.path).Pairwise Apart → ∀ a ∈ held, Stands after a

namespace Leaves

variable {t u v : FileTree} {held more : List Artifact} {a : Artifact}

theorem refl (t : FileTree) : Leaves [] t t := by
  refine ⟨.refl t, fun _ _ => rfl, ?_⟩
  intro _ a member
  cases member

/-- Where nothing was written all files are as they were. -/
theorem same (leaves : Leaves [] t u) (at_ : Location) : u.fileAt? at_ = t.fileAt? at_ := by
  apply leaves.others
  intro a member
  cases member

/-- An artifact that stood still does when the later ones lie elsewhere. -/
theorem keeps (leaves : Leaves held t u) (stands : Stands t a)
    (apart : ∀ b ∈ held, Apart a.path b.path) : Stands u a := by
  apply stands.kept leaves.grows
  intro at_ located
  apply leaves.others
  intro b member there
  have kept := locate_kept leaves.grows.directories a.path at_ located
  exact apart b member u at_ at_ kept there rfl

theorem trans (first : Leaves held t u) (second : Leaves more u v) : Leaves (held ++ more) t v := by
  refine ⟨first.grows.trans second.grows, ?_, ?_⟩
  · intro at_ elsewhere
    rw [second.others, first.others]
    · intro a member located
      apply elsewhere a (List.mem_append_left more member)
      exact locate_kept second.grows.directories a.path at_ located
    · intro a member
      exact elsewhere a (List.mem_append_right held member)
  · intro apart a member
    rw [List.map_append, List.pairwise_append] at apart
    obtain ⟨early, late, across⟩ := apart
    rcases List.mem_append.mp member with old | new
    · apply second.keeps (first.stands early a old)
      intro b written
      exact across a.path (List.mem_map_of_mem old) b.path (List.mem_map_of_mem written)
    · exact second.stands late a new

end Leaves

/-- How an artifact is seen to. -/
theorem run_writeArtifact (a : Artifact) (w : Workspace) :
    writeArtifact a w = match writeStatus w.files a.path (encodeUtf8 a.content) with
      | .error e => (.error (.file e), w)
      | .ok status =>
        let logged := { w with console := w.console ++ [.line (status.line a.path)] }
        if status = .skipped then (.ok ⟨a.path, status⟩, logged)
        else match makeDirectories (a.path.parent.parts.length + 1) a.path.parent w.files with
          | (.error e, above) => (.error (.file e), { logged with files := above })
          | (.ok (), above) => match above.write a.path (.bytes (encodeUtf8 a.content)) with
            | .error e => (.error (.file e), { logged with files := above })
            | .ok files => (.ok ⟨a.path, status⟩, { logged with files }) := by
  unfold writeArtifact
  rw [Job.run_bind, Job.run_ask]
  cases writeStatus w.files a.path (encodeUtf8 a.content) with
  | error e => rfl
  | ok status =>
    dsimp only
    rw [Job.run_bind, Job.run_logAll]
    by_cases skipped : status = .skipped
    · subst skipped
      rfl
    · simp only [skipped, ne_eq, not_false_eq_true, if_true, if_false]
      rw [Job.run_bind, Job.run_makeDirectories]
      cases makeDirectories (a.path.parent.parts.length + 1) a.path.parent w.files with
      | mk outcome above => cases outcome with
        | error e => rfl
        | ok _ =>
          dsimp only
          rw [Job.run_bind, Job.run_change]
          cases above.write a.path (.bytes (encodeUtf8 a.content)) <;> rfl

/-- Whatever comes of it, the tree grows. -/
theorem writeArtifact_grows {a : Artifact} (product : IsProduct a.path) {before after : Workspace}
    {outcome : Except Failure Written} (ran : writeArtifact a before = (outcome, after)) :
    Grows before.files after.files := by
  rw [run_writeArtifact] at ran
  split at ran
  · cases ran
    exact .refl _
  · dsimp only at ran
    split_ifs at ran
    · cases ran
      exact .refl _
    · have above := grows_of_makeDirectories (a.path.parent.parts.length + 1) product.split.parent
        before.files
      split at ran
      · next e files made =>
        cases ran
        rw [made] at above
        exact above
      · next files made =>
        rw [made] at above
        split at ran
        · cases ran
          exact above
        · next written =>
          cases ran
          exact above.trans (grows_of_write product written)

/-- An artifact that was seen to stands. -/
theorem leaves_of_written {a : Artifact} (product : IsProduct a.path) {before after : Workspace}
    {written : Written} (ran : writeArtifact a before = (.ok written, after)) :
    Leaves [a] before.files after.files := by
  have holding := (writeArtifact_ok ran).1
  refine ⟨writeArtifact_grows product ran, ?_, ?_⟩
  · intro at_ elsewhere
    obtain ⟨own, located, -, others⟩ := holding.located
    apply others
    rintro rfl
    exact elsewhere a List.mem_cons_self located
  · intro _ b member
    rw [List.mem_singleton.mp member]
    exact holding.read_eq

/-- One that could not be seen to leaves all files as they were. -/
theorem leaves_of_unwritten {a : Artifact} (product : IsProduct a.path) {before after : Workspace}
    {e : Failure} (ran : writeArtifact a before = (.error e, after)) :
    Leaves [] before.files after.files := by
  refine ⟨writeArtifact_grows product ran, ?_, ?_⟩
  · intro at_ _
    rw [run_writeArtifact] at ran
    split at ran
    · cases ran
      rfl
    · dsimp only at ran
      split_ifs at ran
      · cases ran
      · have same := (makeDirectories_frame (a.path.parent.parts.length + 1) a.path.parent
          before.files).2 at_
        split at ran
        · next files made =>
          cases ran
          rw [made] at same
          exact same
        · next files made =>
          rw [made] at same
          split at ran
          · cases ran
            exact same
          · cases ran
  · intro _ b member
    cases member

/-- What stands is passed over. -/
theorem run_writeArtifact_of_stands {a : Artifact} {w : Workspace} (stands : Stands w.files a) :
    writeArtifact a w = (.ok ⟨a.path, .skipped⟩,
      { w with console := w.console ++ [.line (WriteStatus.skipped.line a.path)] }) := by
  have there : w.files.exists? a.path = .ok true := by
    obtain ⟨noNull, at_, located, found⟩ := read_ok stands
    rw [exists?, holds, if_neg (by simp [noNull]), status, located]
    simp only [fileAt?_eq_some.mp found]
  have held : w.files.read a.path = .ok (.bytes (encodeUtf8 a.content)) := stands
  have status : writeStatus w.files a.path (encodeUtf8 a.content) = .ok .skipped := by
    rw [writeStatus, there]
    simp [bind, Except.bind, held, pure, Except.pure, FileContent.holds]
  rw [run_writeArtifact, status]
  rfl

/-- A path on which there is a null character is refused when its directories are made. -/
theorem run_writeArtifact_of_null {a : Artifact} (product : IsProduct a.path)
    (null : hasNull a.path = true) (w : Workspace) :
    writeArtifact a w = (.error (.file (.embeddedNull true)),
      { w with console := w.console ++ [.line (WriteStatus.generated.line a.path)] }) := by
  have status : writeStatus w.files a.path (encodeUtf8 a.content) = .ok .generated := by
    rw [writeStatus, exists?, holds, if_pos null]
    rfl
  have above : hasNull a.path.parent = true := by rw [product.hasNull_parent, null]
  have refused : makeDirectories (a.path.parent.parts.length + 1) a.path.parent w.files =
      (.error (.embeddedNull true), w.files) := by
    rw [makeDirectories, makeDirectory, if_pos above]
  rw [run_writeArtifact, status]
  dsimp only
  rw [if_neg (by decide), refused]

/-- A target that cannot be looked at or read cannot be written later either. -/
theorem neverFile_of_writeStatus {t : FileTree} {p : Path} {data : List UInt8} {cause : FileError}
    (noNull : hasNull p = false) (failed : writeStatus t p data = .error cause) :
    NeverFile t p ∧ ∃ fault, cause = .system fault p := by
  unfold writeStatus at failed
  cases asked : t.exists? p with
  | error e =>
    simp only [asked, bind, Except.bind, Except.error.injEq] at failed
    subst failed
    rw [exists?, holds, if_neg (by simp [noNull]), status] at asked
    cases located : t.locate p with
    | error fault =>
      rw [located] at asked
      cases fault with
      | nameTooLong =>
        cases asked
        exact ⟨neverFile_of_locate located (by simp), .nameTooLong, rfl⟩
      | notFound | exists_ | notDirectory | isDirectory => cases asked
    | ok at_ =>
      simp only [located] at asked
      cases found : t.entry? at_ with
      | none => simp [found] at asked
      | some entry => simp [found] at asked
  | ok there =>
    cases there with
    | false => simp [asked, bind, Except.bind, pure, Except.pure] at failed
    | true =>
      cases red : t.read p with
      | ok old => simp [asked, red, bind, Except.bind, pure, Except.pure] at failed
      | error e =>
        simp only [asked, red, bind, Except.bind, if_true, Except.error.injEq] at failed
        subst failed
        rw [exists?, holds, if_neg (by simp [noNull]), status] at asked
        rw [FileTree.read, if_neg (by simp [noNull]), status] at red
        cases located : t.locate p with
        | error fault =>
          rw [located] at asked
          cases fault <;> cases asked
        | ok at_ =>
          simp only [located] at asked red
          cases found : t.entry? at_ with
          | none => simp [found] at asked
          | some entry =>
            simp only [found] at red
            cases entry with
            | file content => cases red
            | directory =>
              cases red
              exact ⟨neverFile_of_directory ⟨at_, located, found⟩, .isDirectory, rfl⟩

/-- Nor can one that could not be written where its directory is. -/
theorem neverFile_of_write {t : FileTree} {p : Path} {content : FileContent} {cause : FileError}
    (noNull : hasNull p = false) (above : LeadsToDirectory t p.parent)
    (failed : t.write p content = .error cause) :
    NeverFile t p ∧ ∃ fault, cause = .system fault p := by
  rw [write, if_neg (by simp [noNull])] at failed
  split at failed
  · next fault located =>
    cases failed
    exact ⟨neverFile_of_locate located (locate_below_directory above located), fault, rfl⟩
  · next at_ located =>
    split at failed
    · next found =>
      cases failed
      exact ⟨neverFile_of_directory ⟨at_, located, found⟩, .isDirectory, rfl⟩
    · cases failed

/-- What could not be written once can never be. -/
theorem neverFile_of_unwritten {a : Artifact} (product : IsProduct a.path)
    (noNull : hasNull a.path = false) {before after : Workspace} {e : Failure}
    (ran : writeArtifact a before = (.error e, after)) :
    NeverFile after.files a.path ∧ e.isSystem = true := by
  have noNullAbove : hasNull a.path.parent = false := by rw [product.hasNull_parent, noNull]
  rw [run_writeArtifact] at ran
  split at ran
  · next cause failed =>
    cases ran
    obtain ⟨never, fault, rfl⟩ := neverFile_of_writeStatus noNull failed
    exact ⟨never, rfl⟩
  · dsimp only at ran
    split_ifs at ran
    · cases ran
    · split at ran
      · next cause files made =>
        cases ran
        obtain ⟨never, fault, path, rfl⟩ := neverDirectory_of_makeDirectories product.split.parent
          noNullAbove (Nat.lt_succ_self _) made
        exact ⟨neverFile_of_parent product.parts_ne_nil never, rfl⟩
      · next files made =>
        split at ran
        · next cause failed =>
          cases ran
          have above := leadsToDirectory_of_makeDirectories noNullAbove made
          obtain ⟨never, fault, rfl⟩ := neverFile_of_write noNull above failed
          exact ⟨never, rfl⟩
        · cases ran

/-- A file that is there can always be written over. -/
theorem writeArtifact_of_isFile {a : Artifact} (product : IsProduct a.path) {w : Workspace}
    (there : w.files.isFile? a.path = .ok true) :
    ∃ written after, writeArtifact a w = (.ok written, after) := by
  cases ran : writeArtifact a w with
  | mk outcome after => cases outcome with
    | ok written => exact ⟨written, after, rfl⟩
    | error e =>
      obtain ⟨noNull, at_, located, found⟩ :=
        isFile?_eq_true.mp ((writeArtifact_grows product ran).isFile there)
      have never := (neverFile_of_unwritten product noNull ran).1
      exact absurd (never after.files (.refl _) at_ located) found

end TypedSheets
