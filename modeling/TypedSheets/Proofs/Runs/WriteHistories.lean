import TypedSheets.Proofs.Files.RootedTrees
import TypedSheets.Proofs.Runs.HeldArtifacts

/-!
# Histories of writes

Artifacts are written while others put files into the tree and take files away. A write that returns has left
the encoding of its text at its path and every other file as it was, and what it reports is true: its path led
to no file, to one with these bytes, or to one with others. A write that fails has changed no file and made
none; at most there are directories on the way to its path that were missing. Both are facts about one write.
Along a history each step starts where the last one ended, so that a write is passed over when it is repeated
and its file was left alone in between. The main statement is `writes_truthful`.
-/

namespace TypedSheets

open TypedSheets.Emission TypedSheets.Text FileTree

namespace FileTree

/-- The file that a path leads to. -/
def fileAlong? (t : FileTree) (p : Path) : Option FileContent :=
  match t.status p with
  | .ok (.file content) => some content
  | _ => none

/-- A path leads through a location, or ends there. -/
def Passes (t : FileTree) (p : Path) (at_ : Location) : Prop :=
  ∃ names, names <+: p.parts ∧ t.walk (start p) names = .ok at_

/-- A tree with further directories, each of which a path leads through; nothing was in their places. -/
def Prepares (p : Path) (t u : FileTree) : Prop :=
  ∀ at_, u.entry? at_ = t.entry? at_ ∨
    t.entry? at_ = none ∧ u.entry? at_ = some .directory ∧ Passes u p at_

section Trees

variable {t u v : FileTree} {p : Path} {at_ : Location}

/-- The file that a path leads to stands where the path leads. -/
theorem fileAlong?_of_locate (located : t.locate p = .ok at_) : t.fileAlong? p = t.fileAt? at_ := by
  rw [fileAlong?, status, located, fileAt?]
  dsimp only
  cases t.entry? at_ with
  | none => rfl
  | some entry => cases entry <;> rfl

theorem fileAlong?_of_error {fault : FileFault} (located : t.locate p = .error fault) :
    t.fileAlong? p = none := by
  rw [fileAlong?, status, located]

theorem Passes.kept (passes : Passes t p at_) (kept : KeepsDirectories t u) : Passes u p at_ := by
  obtain ⟨names, front, walked⟩ := passes
  exact ⟨names, front, walk_kept kept names _ _ walked⟩

/-- What the path above leads through, the path leads through as well. -/
theorem Passes.of_parent (passes : Passes t p.parent at_) : Passes t p at_ := by
  obtain ⟨names, front, walked⟩ := passes
  exact ⟨names, front.trans (List.dropLast_prefix p.parts), walked⟩

theorem Prepares.refl (p : Path) (t : FileTree) : Prepares p t t := fun _ => .inl rfl

theorem Prepares.kept (prepares : Prepares p t u) : KeepsDirectories t u := by
  intro at_ directory
  rcases prepares at_ with same | ⟨nothing, -⟩
  · rw [same, directory]
  · rw [directory] at nothing
    cases nothing

/-- No file is changed, and none is made. -/
theorem Prepares.fileAt?_eq (prepares : Prepares p t u) (at_ : Location) : u.fileAt? at_ = t.fileAt? at_ := by
  rw [fileAt?, fileAt?]
  rcases prepares at_ with same | ⟨nothing, directory, -⟩
  · rw [same]
  · rw [nothing, directory]

theorem Prepares.trans (first : Prepares p t u) (second : Prepares p u v) : Prepares p t v := by
  intro at_
  rcases second at_ with same | ⟨nothing, directory, passes⟩
  · rw [same]
    exact (first at_).imp_right fun ⟨nothing, directory, passes⟩ => ⟨nothing, directory, passes.kept second.kept⟩
  · rcases first at_ with same | ⟨-, found, -⟩
    · rw [same] at nothing
      exact .inr ⟨nothing, directory, passes⟩
    · rw [found] at nothing
      cases nothing

theorem Prepares.of_parent (prepares : Prepares p.parent t u) : Prepares p t u :=
  fun at_ => (prepares at_).imp_right fun ⟨nothing, directory, passes⟩ => ⟨nothing, directory, passes.of_parent⟩

/-- A directory is made where the path ends. -/
theorem prepares_of_makeDirectory (made : t.makeDirectory p = .ok u) : Prepares p t u := by
  have kept := (makeDirectory_ok made).1
  unfold makeDirectory at made
  split_ifs at made
  split at made
  · cases made
  · next at_ located =>
    split at made
    · cases made
    · next nothing =>
      cases made
      have found := fun other => entry?_put t at_ other .directory (not_given t at_ (by rw [nothing]; simp))
      intro other
      by_cases same : other = at_
      · subst same
        refine .inr ⟨nothing, by rw [found, if_pos rfl], p.parts, List.prefix_rfl, ?_⟩
        exact walk_kept kept _ _ _ (locate_ok located).2
      · left
        rw [found, if_neg same]

/-- Making directories does no more than that, whether it succeeds or not. -/
theorem prepares_of_makeDirectories (fuel : Nat) (p : Path) (t : FileTree) :
    Prepares p t (makeDirectories fuel p t).2 := by
  induction fuel generalizing p with
  | zero => exact .refl p t
  | succ fuel inductionHypothesis =>
    unfold makeDirectories
    split
    · next made success => exact prepares_of_makeDirectory success
    · exact .refl p t
    · split_ifs
      · exact .refl p t
      · have above := (inductionHypothesis p.parent).of_parent
        split
        · next e partly failed =>
          rw [failed] at above
          exact above
        · next middle success =>
          rw [success] at above
          split
          · next made done => exact above.trans (prepares_of_makeDirectory done)
          · exact above
          · exact above
    · exact .refl p t

/-- Below no directory that is missing, a path that never goes back leads to what stands at its end. -/
theorem Rooted.fileAt?_eq (rooted : Rooted t) (kept : KeepsDirectories t u) (down : ".." ∉ p.parts)
    (located : u.locate p = .ok at_) : t.fileAt? at_ = t.fileAlong? p := by
  cases before : t.locate p with
  | ok other =>
    rw [locate_kept kept p other before] at located
    cases located
    exact (fileAlong?_of_locate before).symm
  | error fault =>
    rw [fileAlong?_of_error before]
    cases found : t.entry? at_ with
    | none => rw [fileAt?, found]
    | some entry =>
      obtain ⟨short, walked⟩ := locate_ok located
      have each : ∀ name ∈ p.parts, name ≠ ".." := fun name member same => down (same ▸ member)
      obtain rfl := walk_down each walked
      have there : t.entry? (start p ++ p.parts) ≠ none := by
        rw [found]
        exact Option.some_ne_none entry
      rw [locate_eq, if_neg (Nat.not_le_of_lt short), rooted.walk each (short_of_walk walked) there] at before
      cases before

end Trees

end FileTree

section Writes

variable {t : FileTree} {p : Path} {data : List UInt8} {a : Artifact} {before after : Workspace}

/-- What writing bytes amounts to, by what its path leads to. -/
theorem writeStatus_eq (noNull : hasNull p = false) : writeStatus t p data = match t.status p with
    | .ok (.file content) => .ok (if content.holds data then .skipped else .updated)
    | .ok .directory => .error (.system .isDirectory p)
    | .error .nameTooLong => .error (.system .nameTooLong p)
    | .error _ => .ok .generated := by
  unfold writeStatus exists? holds FileTree.read
  rw [if_neg (by simp [noNull]), if_neg (by simp [noNull])]
  cases t.status p with
  | error fault => cases fault <;> rfl
  | ok entry => cases entry <;> rfl

theorem holds_iff {content : FileContent} : content.holds data = true ↔ content = .bytes data := by
  refine ⟨eq_of_holds, ?_⟩
  rintro rfl
  exact beq_self_eq_true data

/-- The statuses and what they say of the file that the path led to. -/
structure TellsTruth (status : WriteStatus) (old : Option FileContent) (data : List UInt8) : Prop where
  generated : status = .generated ↔ old = none
  updated : status = .updated ↔ ∃ content, old = some content ∧ content ≠ .bytes data
  skipped : status = .skipped ↔ old = some (.bytes data)

theorem tellsTruth_of_writeStatus {status : WriteStatus} (noNull : hasNull p = false)
    (found : writeStatus t p data = .ok status) : TellsTruth status (t.fileAlong? p) data := by
  rw [writeStatus_eq noNull] at found
  unfold fileAlong?
  split at found
  · next content isFile =>
    rw [isFile]
    cases found
    by_cases same : content.holds data = true
    · rw [if_pos same, holds_iff.mp same]
      constructor <;> simp
    · have differ : content ≠ .bytes data := fun own => same (holds_iff.mpr own)
      rw [if_neg same]
      constructor <;> simp [differ]
  · cases found
  · cases found
  · next fault other nothing =>
    rw [nothing]
    cases found
    constructor <;> simp

/-- How a write ends: it fails through the files, or there was nothing to do, or the directories above its path
are there and its bytes are written. -/
theorem writeArtifact_cases {outcome : Except Failure Written} (ran : writeArtifact a before = (outcome, after)) :
    (∃ e, outcome = .error (.file e) ∧ Prepares a.path.parent before.files after.files) ∨
    ∃ status, outcome = .ok ⟨a.path, status⟩ ∧
      writeStatus before.files a.path (encodeUtf8 a.content) = .ok status ∧
      ((status = .skipped ∧ after.files = before.files) ∨
        status ≠ .skipped ∧ ∃ above, Prepares a.path.parent before.files above ∧
          above.write a.path (.bytes (encodeUtf8 a.content)) = .ok after.files) := by
  rw [run_writeArtifact] at ran
  split at ran
  · next e found =>
    cases ran
    exact .inl ⟨e, rfl, .refl _ _⟩
  · next status found =>
    have prepares := prepares_of_makeDirectories (a.path.parent.parts.length + 1) a.path.parent before.files
    dsimp only at ran
    split_ifs at ran with skipped
    · cases ran
      exact .inr ⟨status, rfl, found, .inl ⟨skipped, rfl⟩⟩
    · split at ran
      · next e above made =>
        cases ran
        rw [made] at prepares
        exact .inl ⟨e, rfl, prepares⟩
      · next above made =>
        rw [made] at prepares
        split at ran
        · next e refused =>
          cases ran
          exact .inl ⟨e, rfl, prepares⟩
        · next files written =>
          cases ran
          exact .inr ⟨status, rfl, found, .inr ⟨skipped, above, prepares, written⟩⟩

/-- What a write that returns has done, and that it reports it truly. -/
structure Reported (a : Artifact) (before after : FileTree) (written : Written) : Prop where
  path : written.path = a.path
  /-- The path leads to the bytes, and every other file is as it was. -/
  holding : Holding a.path (encodeUtf8 a.content) before after
  truth : TellsTruth written.status (before.fileAlong? a.path) (encodeUtf8 a.content)
  untouched : written.status = .skipped → after = before
  /-- Apart from the file there are new directories at most, on the way to it. -/
  prepared : ∃ above, Prepares a.path.parent before above ∧
    ∀ other, after.locate a.path ≠ .ok other → after.entry? other = above.entry? other

/-- A write that returns reports what it has done. -/
theorem reported_of_writeArtifact {written : Written} (ran : writeArtifact a before = (.ok written, after)) :
    Reported a before.files after.files written := by
  obtain ⟨holding, path⟩ := writeArtifact_ok ran
  rcases writeArtifact_cases ran with ⟨e, failed, -⟩ | ⟨status, ended, found, work⟩
  · cases failed
  · cases ended
    refine ⟨path, holding, tellsTruth_of_writeStatus holding.noNull found, ?_, ?_⟩
    · rintro rfl
      exact work.elim And.right fun ⟨other, _⟩ => absurd rfl other
    · rcases work with ⟨-, same⟩ | ⟨-, above, prepares, wrote⟩
      · rw [same]
        exact ⟨_, .refl _ _, fun _ _ => rfl⟩
      · obtain ⟨-, at_, located, kept, -, others⟩ := write_ok wrote
        refine ⟨above, prepares, fun other elsewhere => others other ?_⟩
        rintro rfl
        exact elsewhere (locate_kept kept _ _ located)

/-- A write that fails has prepared its way at most. -/
theorem prepares_of_writeArtifact {e : Failure} (ran : writeArtifact a before = (.error e, after)) :
    Prepares a.path.parent before.files after.files := by
  rcases writeArtifact_cases ran with ⟨_, -, prepares⟩ | ⟨_, ended, -⟩
  · exact prepares
  · cases ended

/-- Bytes that are where they belong are passed over. -/
theorem writeArtifact_of_held (noNull : hasNull a.path = false)
    (held : before.files.fileAlong? a.path = some (.bytes (encodeUtf8 a.content))) :
    ∃ after, writeArtifact a before = (.ok ⟨a.path, .skipped⟩, after) ∧ after.files = before.files := by
  have found : writeStatus before.files a.path (encodeUtf8 a.content) = .ok .skipped := by
    unfold fileAlong? at held
    split at held
    · next content isFile =>
      cases held
      rw [writeStatus_eq noNull, isFile]
      simp [FileContent.holds]
    · cases held
  rw [run_writeArtifact, found]
  exact ⟨_, rfl, rfl⟩

theorem Holding.fileAlong?_eq {t u : FileTree} (holding : Holding p data t u) :
    u.fileAlong? p = some (.bytes data) := by
  obtain ⟨at_, located, found, -⟩ := holding.located
  rw [fileAlong?_of_locate located, found]

end Writes

/-- What happens to a tree: an artifact is written, or others put a file into it, with the directories above, or
take one away. -/
inductive Event where
  | write (a : Artifact)
  | put (p : Path) (content : FileContent)
  | remove (p : Path)

/-- What an event does; only a write has something to report. -/
def Event.job : Event → Job (Option Written)
  | .write a => do
    let written ← writeArtifact a
    pure (some written)
  | .put p content => do
    Job.makeDirectories p.parent
    Job.change (·.write p content)
    pure none
  | .remove p => do
    Job.change (·.remove p)
    pure none

/-- An event of a history: the tree it found, how it ended and the tree it left. -/
structure HistoryStep where
  event : Event
  before : FileTree
  outcome : Except Failure (Option Written)
  after : FileTree

/-- The steps of a history. An event that fails stops no other. -/
def historySteps : List Event → Workspace → List HistoryStep
  | [], _ => []
  | event :: rest, w =>
    { event, before := w.files, outcome := (event.job w).1, after := (event.job w).2.files } ::
      historySteps rest (event.job w).2

section Histories

variable {events : List Event} {w : Workspace} {step first second : HistoryStep} {a : Artifact}

/-- Each step is what its event does in some workspace. -/
theorem exists_run_of_mem (member : step ∈ historySteps events w) :
    ∃ before after, step.event.job before = (step.outcome, after) ∧ step.before = before.files ∧
      step.after = after.files := by
  induction events generalizing w with
  | nil => cases member
  | cons event rest inductionHypothesis =>
    rcases List.mem_cons.mp member with rfl | later
    · exact ⟨w, (event.job w).2, rfl, rfl, rfl⟩
    · exact inductionHypothesis later

/-- A step starts where the one before it ended. -/
theorem isChain_historySteps (events : List Event) (w : Workspace) :
    (historySteps events w).IsChain fun one next => next.before = one.after := by
  induction events generalizing w with
  | nil => exact .nil
  | cons event rest inductionHypothesis =>
    refine List.isChain_cons.mpr ⟨fun next head => ?_, inductionHypothesis _⟩
    cases rest with
    | nil => cases head
    | cons other further =>
      cases head
      rfl

/-- So what every step of a stretch keeps is the same behind it as before it. -/
theorem eq_of_stretch {α : Type} (view : FileTree → α) {between later : List HistoryStep}
    (chain : (first :: (between ++ second :: later)).IsChain fun one next => next.before = one.after)
    (keeps : ∀ step ∈ between, view step.after = view step.before) :
    view second.before = view first.after := by
  induction between generalizing first with
  | nil =>
    obtain ⟨linked, -⟩ := List.isChain_cons_cons.mp chain
    rw [linked]
  | cons next rest inductionHypothesis =>
    obtain ⟨linked, further⟩ := List.isChain_cons_cons.mp chain
    rw [inductionHypothesis further fun step member => keeps step (List.mem_cons_of_mem next member),
      keeps next List.mem_cons_self, linked]

/-- The run of a write in a history. -/
theorem run_of_write (isWrite : step.event = .write a) {before after : Workspace}
    (ran : step.event.job before = (step.outcome, after)) :
    ∃ result, writeArtifact a before = (result, after) ∧ step.outcome = result.map some := by
  rw [isWrite] at ran
  exact Job.bind_pure_eq ran

/-- Whatever happens, everything stands in a directory when it did before. -/
theorem preserves_rooted (event : Event) : Job.Preserves Rooted event.job := by
  have made (p : Path) : Job.Preserves Rooted (Job.makeDirectories p) :=
    Job.preserves_makeDirectories fun fuel t rooted => rooted.makeDirectories fuel p
  have wrote (p : Path) (content : FileContent) : Job.Preserves Rooted (Job.change (·.write p content)) :=
    Job.preserves_change fun _ _ rooted written => rooted.write written
  have ended (result : Option Written) : Job.Preserves Rooted (pure result : Job (Option Written)) :=
    (Job.keepsFiles_pure result).preserves
  cases event with
  | write a =>
    refine Job.Preserves.bind ?_ fun written => ended written
    refine (Job.keepsFiles_ask _).preserves.bind fun status => ?_
    refine (Job.keepsFiles_logAll _).preserves.bind fun _ => ?_
    dsimp only
    split_ifs
    · exact (made _).bind fun _ => (wrote _ _).bind fun _ => (Job.keepsFiles_pure _).preserves
    · exact (Job.keepsFiles_pure _).preserves
  | put p content => exact (made _).bind fun _ => (wrote _ _).bind fun _ => ended none
  | remove p =>
    exact (Job.preserves_change fun _ _ rooted removed => rooted.remove removed).bind fun _ => ended none

theorem rooted_of_mem (rooted : Rooted w.files) (member : step ∈ historySteps events w) : Rooted step.before := by
  induction events generalizing w with
  | nil => cases member
  | cons event rest inductionHypothesis =>
    rcases List.mem_cons.mp member with rfl | later
    · exact rooted
    · exact inductionHypothesis (preserves_rooted event w rooted) later

end Histories

/-- A note, and a history in which it is written, put back by others, and written twice more. -/
def note : Artifact := ⟨Path.ofText "out/note.txt", "sword"⟩

def noteEvents : List Event := [.write note, .put note.path (.bytes []), .write note, .write note]

end TypedSheets
