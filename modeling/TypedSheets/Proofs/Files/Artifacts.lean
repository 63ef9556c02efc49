import Mathlib.Tactic.ByContra
import TypedSheets.Proofs.Files.FileTrees
import TypedSheets.Proofs.Files.Jobs
import TypedSheets.Writing

/-!
# What writing an artifact does

After an artifact was seen to, its path leads to a file with the encoding of its text, whether the
file had to be written or not. Every other file is as it was.
-/

namespace TypedSheets

open TypedSheets.Emission TypedSheets.Text FileTree

/-- What is left after some bytes were seen to at a path: the bytes stand there, every other file
is as it was, and no directory is gone. -/
structure Holding (p : Path) (data : List UInt8) (before after : FileTree) : Prop where
  noNull : hasNull p = false
  kept : KeepsDirectories before after
  located : ∃ at_, after.locate p = .ok at_ ∧ after.fileAt? at_ = some (.bytes data) ∧
    ∀ other, other ≠ at_ → after.fileAt? other = before.fileAt? other

/-- The bytes are what a reader of the path gets. -/
theorem Holding.read_eq {p : Path} {data : List UInt8} {before after : FileTree}
    (holding : Holding p data before after) : after.read p = .ok (.bytes data) := by
  obtain ⟨at_, located, found, -⟩ := holding.located
  exact FileTree.read_eq holding.noNull located found

/-- A file that holds some bytes consists of them. -/
theorem eq_of_holds {content : FileContent} {data : List UInt8} (holds : content.holds data = true) :
    content = .bytes data := by
  cases content with
  | bytes own => simpa [FileContent.holds] using holds
  | workbook sheets => cases holds

/-- Nothing is written when the path leads to the bytes already. -/
theorem holding_of_skipped (t : FileTree) (p : Path) (data : List UInt8)
    (status : writeStatus t p data = .ok .skipped) : Holding p data t t := by
  unfold writeStatus at status
  cases present : t.exists? p with
  | error e => simp [present, bind, Except.bind] at status
  | ok there =>
    cases there with
    | false => simp [present, bind, Except.bind, pure, Except.pure] at status
    | true =>
      cases red : t.read p with
      | error e => simp [present, red, bind, Except.bind] at status
      | ok old =>
        have holds : old.holds data = true := by
          by_contra other
          simp [present, red, bind, Except.bind, pure, Except.pure, other] at status
        obtain ⟨noNull, at_, located, found⟩ := read_ok red
        rw [eq_of_holds holds] at found
        exact ⟨noNull, .refl t, at_, located, found, fun _ _ => rfl⟩

/-- Otherwise the directories above it are made and the bytes are written. -/
theorem holding_of_written (t above after : FileTree) (p : Path) (data : List UInt8) (outcome)
    (made : makeDirectories (p.parent.parts.length + 1) p.parent t = (outcome, above))
    (written : above.write p (.bytes data) = .ok after) : Holding p data t after := by
  obtain ⟨keptAbove, sameAbove⟩ := makeDirectories_frame (p.parent.parts.length + 1) p.parent t
  rw [made] at keptAbove sameAbove
  obtain ⟨noNull, at_, located, kept, found, others⟩ := write_ok written
  refine ⟨noNull, keptAbove.trans kept, at_, locate_kept kept p at_ located, found, ?_⟩
  intro other different
  rw [← sameAbove other, fileAt?, fileAt?, others other different]

/-- An artifact that was seen to is held by its path. -/
theorem writeArtifact_ok {a : Artifact} {before after : Workspace} {written : Written}
    (ran : writeArtifact a before = (.ok written, after)) :
    Holding a.path (encodeUtf8 a.content) before.files after.files ∧ written.path = a.path := by
  obtain ⟨status, w, asked, further⟩ := Job.bind_ok ran
  obtain ⟨found, rfl⟩ := Job.ask_ok asked
  obtain ⟨_, logged, logs, rest⟩ := Job.bind_ok further
  rw [Job.run_logAll] at logs
  cases logs
  by_cases skipped : status = .skipped
  · subst skipped
    cases rest
    exact ⟨holding_of_skipped _ _ _ found, rfl⟩
  · simp only [ne_eq, skipped, not_false_eq_true, if_true] at rest
    obtain ⟨_, middle, directories, changes⟩ := Job.bind_ok rest
    obtain ⟨outcome, above, made, rfl⟩ := Job.makeDirectories_ok directories
    obtain ⟨_, last, changed, ended⟩ := Job.bind_ok changes
    obtain ⟨files, edited, rfl⟩ := Job.change_ok changed
    cases ended
    exact ⟨holding_of_written _ above files _ _ outcome made edited, rfl⟩

/-- An artifact that cannot be seen to fails through the files. -/
theorem writeArtifact_failsInFiles (a : Artifact) : Job.FailsInFiles (writeArtifact a) := by
  unfold writeArtifact
  refine (Job.failsInFiles_ask _).bind fun status => ?_
  refine (Job.failsInFiles_logAll _).bind fun _ => ?_
  dsimp only
  split
  · refine (Job.failsInFiles_makeDirectories _).bind fun _ => ?_
    exact (Job.failsInFiles_change _).bind fun _ => Job.failsInFiles_pure _
  · exact Job.failsInFiles_pure _

end TypedSheets
