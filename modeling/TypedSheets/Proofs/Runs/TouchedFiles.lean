import TypedSheets.Proofs.Files.RootedTrees
import TypedSheets.Proofs.Runs.HeldArtifacts

/-!
# Entries of the files that are touched

What is written is reported by an entry with a status. The entries of some part of a run tell exactly
what has become of the files: a file without an entry is as it was, and the status of an entry says
whether its file is new, has other content than before, or was left alone. That holds up to the write
that fails, if one does.
-/

namespace TypedSheets

open TypedSheets.Emission TypedSheets.Text FileTree

/-- What an entry says of the file at a location, between two trees. -/
structure Reports (before after : FileTree) (w : Written) (at_ : Location) : Prop where
  located : after.locate w.path = .ok at_
  stands : after.fileAt? at_ ≠ none
  generated : w.status = .generated ↔ before.fileAt? at_ = none
  skipped : w.status = .skipped ↔ after.fileAt? at_ = before.fileAt? at_

/-- The third status is left for a file with other content. -/
theorem Reports.updated {before after : FileTree} {w : Written} {at_ : Location}
    (reports : Reports before after w at_) :
    w.status = .updated ↔ before.fileAt? at_ ≠ none ∧ after.fileAt? at_ ≠ before.fileAt? at_ := by
  rw [Ne, Ne, ← reports.generated, ← reports.skipped]
  cases w.status <;> simp

/-- What a part of a run has written: files without an entry are as they were, and entries whose paths
lead apart say what has become of the others. -/
structure Touches (written : List Written) (before after : FileTree) : Prop where
  grows : Grows before after
  others : ∀ at_, (∀ w ∈ written, after.locate w.path ≠ .ok at_) →
    after.fileAt? at_ = before.fileAt? at_
  reported : (written.map Written.path).Pairwise Apart → (∀ w ∈ written, Steady before w.path) →
    ∀ w ∈ written, ∃ at_, Reports before after w at_

namespace Touches

variable {t u v : FileTree} {written more : List Written} {w : Written}

theorem nothing (grows : Grows t u) (same : ∀ at_, u.fileAt? at_ = t.fileAt? at_) : Touches [] t u := by
  refine ⟨grows, fun at_ _ => same at_, ?_⟩
  intro _ _ w member
  cases member

theorem refl (t : FileTree) : Touches [] t t := nothing (.refl t) fun _ => rfl

/-- A path that lies apart from what was written is as steady afterwards. -/
theorem steady {p : Path} (touches : Touches written t u) (steady : Steady t p)
    (apart : ∀ w ∈ written, Apart p w.path) : Steady u p := by
  intro later at_ grows located found
  have elsewhere : ∀ w ∈ written, u.locate w.path ≠ .ok at_ := by
    intro w member there
    exact apart w member later at_ at_ located (locate_kept grows.directories w.path at_ there) rfl
  rw [touches.others at_ elsewhere] at found
  exact locate_kept touches.grows.directories p at_
    (steady later at_ (touches.grows.trans grows) located found)

theorem trans (first : Touches written t u) (second : Touches more u v) :
    Touches (written ++ more) t v := by
  have early {a : Written} {at_ : Location} (located : u.locate a.path = .ok at_) :
      v.locate a.path = .ok at_ := locate_kept second.grows.directories a.path at_ located
  refine ⟨first.grows.trans second.grows, ?_, ?_⟩
  · intro at_ elsewhere
    rw [second.others, first.others]
    · intro a member located
      exact elsewhere a (List.mem_append_left more member) (early located)
    · intro a member
      exact elsewhere a (List.mem_append_right written member)
  · intro apart steady
    rw [List.map_append, List.pairwise_append] at apart
    obtain ⟨firstApart, secondApart, across⟩ := apart
    have between (a : Written) (old : a ∈ written) (b : Written) (new : b ∈ more) : Apart a.path b.path :=
      across a.path (List.mem_map_of_mem old) b.path (List.mem_map_of_mem new)
    intro a member
    rcases List.mem_append.mp member with old | new
    · obtain ⟨at_, reports⟩ := first.reported firstApart
        (fun b inside => steady b (List.mem_append_left more inside)) a old
      have same : v.fileAt? at_ = u.fileAt? at_ := by
        apply second.others
        intro b inside located
        exact between a old b inside v at_ at_ (early reports.located) located rfl
      refine ⟨at_, early reports.located, ?_, reports.generated, ?_⟩
      · rw [same]
        exact reports.stands
      · rw [same]
        exact reports.skipped
    · obtain ⟨at_, reports⟩ := second.reported secondApart (fun b inside => first.steady
        (steady b (List.mem_append_right written inside)) fun c old => (between c old b inside).symm) a new
      have same : u.fileAt? at_ = t.fileAt? at_ := by
        apply first.others
        intro b inside located
        exact between b inside a new v at_ at_ (early located) reports.located rfl
      refine ⟨at_, reports.located, reports.stands, ?_, ?_⟩
      · rw [← same]
        exact reports.generated
      · rw [← same]
        exact reports.skipped

/-- In which order files were written does not matter. -/
theorem perm (touches : Touches written t u) (same : written.Perm more) : Touches more t u := by
  refine ⟨touches.grows, ?_, ?_⟩
  · intro at_ elsewhere
    exact touches.others at_ fun a member => elsewhere a (same.mem_iff.mp member)
  · intro apart steady a member
    have apartBefore := ((same.map Written.path).pairwise_iff Apart.symm).mpr apart
    exact touches.reported apartBefore (fun b inside => steady b (same.mem_iff.mp inside)) a
      (same.mem_iff.mpr member)

end Touches

section Status

variable {t : FileTree} {p : Path} {data : List UInt8}

/-- A path is said to be new when nothing is there. -/
theorem exists?_of_generated (status : writeStatus t p data = .ok .generated) :
    t.exists? p = .ok false := by
  unfold writeStatus at status
  cases asked : t.exists? p with
  | error e => simp [asked, bind, Except.bind] at status
  | ok there =>
    cases there with
    | false => rfl
    | true =>
      cases red : t.read p with
      | error e => simp [asked, red, bind, Except.bind] at status
      | ok old =>
        simp only [asked, red, bind, Except.bind, if_true, pure, Except.pure, Except.ok.injEq] at status
        split at status <;> cases status

/-- Otherwise there is a file, which is passed over when it holds the bytes. -/
theorem read_of_writeStatus {status : WriteStatus} (known : writeStatus t p data = .ok status)
    (old : status ≠ .generated) :
    ∃ content, t.read p = .ok content ∧ (status = .skipped ↔ content = .bytes data) := by
  unfold writeStatus at known
  cases asked : t.exists? p with
  | error e => simp [asked, bind, Except.bind] at known
  | ok there =>
    cases there with
    | false =>
      simp only [asked, bind, Except.bind, pure, Except.pure] at known
      cases known
      exact absurd rfl old
    | true =>
      cases red : t.read p with
      | error e => simp [asked, red, bind, Except.bind] at known
      | ok content =>
        refine ⟨content, rfl, ?_⟩
        simp only [asked, red, bind, Except.bind, if_true, pure, Except.pure, Except.ok.injEq] at known
        by_cases same : content.holds data = true
        · rw [if_pos same] at known
          exact iff_of_true known.symm (eq_of_holds same)
        · rw [if_neg same] at known
          apply iff_of_false
          · rw [← known]
            decide
          · rintro rfl
            exact same (by simp [FileContent.holds])

end Status

/-- What is entered of artifacts at some paths: all of them, or fewer when one cannot be written. -/
def Entered (paths : List Path) (written : List Written) : Except Failure (List Written) → Prop
  | .ok entries => written = entries ∧ entries.map Written.path = paths
  | .error _ => written.length < paths.length ∧ (written.map Written.path).Sublist paths

/-- An artifact that is written is entered before the others. -/
theorem Entered.cons {paths : List Path} {written : List Written} {outcome : Except Failure (List Written)}
    (entered : Entered paths written outcome) (w : Written) :
    Entered (w.path :: paths) (w :: written) (outcome.map (w :: ·)) := by
  cases outcome with
  | ok entries =>
    obtain ⟨rfl, same⟩ := entered
    exact ⟨rfl, congrArg (w.path :: ·) same⟩
  | error e => exact ⟨Nat.succ_lt_succ entered.1, entered.2.cons_cons _⟩

section Artifacts

variable {a : Artifact} {before after : Workspace}

/-- The entry of an artifact has its path, and the status that its file had for it. -/
theorem status_of_writeArtifact {w : Written} (ran : writeArtifact a before = (.ok w, after)) :
    writeStatus before.files a.path (encodeUtf8 a.content) = .ok w.status := by
  rw [run_writeArtifact] at ran
  split at ran
  · cases ran
  · next status known =>
    dsimp only at ran
    split_ifs at ran
    · cases ran
      exact known
    · split at ran
      · cases ran
      · split at ran
        · cases ran
        · cases ran
          exact known

/-- What an entry says of the file that was seen to. -/
theorem reports_of_written (product : IsProduct a.path) {w : Written}
    (ran : writeArtifact a before = (.ok w, after)) (steady : Steady before.files a.path) :
    ∃ at_, Reports before.files after.files w at_ := by
  obtain ⟨holding, path⟩ := writeArtifact_ok ran
  obtain ⟨at_, located, found, -⟩ := holding.located
  have known := status_of_writeArtifact ran
  have stands : after.files.fileAt? at_ ≠ none := by
    rw [found]
    exact Option.some_ne_none _
  rw [← path] at located
  by_cases new : w.status = .generated
  · have absent : before.files.fileAt? at_ = none := by
      by_contra there
      rw [path] at located
      have early := steady after.files at_ (writeArtifact_grows product ran) located there
      obtain ⟨content, isOne⟩ := Option.ne_none_iff_exists'.mp there
      rw [new] at known
      have nothing := exists?_of_generated known
      rw [exists?, holds, if_neg (by simp [holding.noNull]), status, early] at nothing
      simp [fileAt?_eq_some.mp isOne] at nothing
    refine ⟨at_, located, stands, iff_of_true new absent, ?_⟩
    rw [new, absent]
    exact iff_of_false (by decide) stands
  · obtain ⟨content, red, same⟩ := read_of_writeStatus known new
    obtain ⟨-, place, early, old⟩ := read_ok red
    have here := locate_kept holding.kept a.path place early
    rw [← path, located] at here
    cases here
    refine ⟨at_, located, stands, ?_, ?_⟩
    · rw [old]
      exact iff_of_false new (Option.some_ne_none _)
    · rw [old, found, Option.some.injEq]
      exact same.trans eq_comm

/-- An artifact that was seen to is reported. -/
theorem touches_of_written (product : IsProduct a.path) {w : Written}
    (ran : writeArtifact a before = (.ok w, after)) : Touches [w] before.files after.files := by
  have path : w.path = a.path := (writeArtifact_ok ran).2
  have leaves := leaves_of_written product ran
  refine ⟨leaves.grows, ?_, ?_⟩
  · intro at_ elsewhere
    apply leaves.others
    intro b member
    rw [List.mem_singleton.mp member, ← path]
    exact elsewhere w List.mem_cons_self
  · intro _ steady b member
    obtain rfl := List.mem_singleton.mp member
    apply reports_of_written product ran
    rw [← path]
    exact steady b List.mem_cons_self

/-- An artifact that could not be seen to has changed nothing. -/
theorem touches_of_unwritten (product : IsProduct a.path) {e : Failure}
    (ran : writeArtifact a before = (.error e, after)) : Touches [] before.files after.files := by
  have leaves := leaves_of_unwritten product ran
  exact .nothing leaves.grows leaves.same

/-- Artifacts that are seen to one after another are reported up to the first that cannot be written. -/
theorem touches_of_writeArtifacts {artifacts : List Artifact}
    (products : ∀ a ∈ artifacts, IsProduct a.path) {outcome : Except Failure (List Written)}
    (ran : writeArtifacts artifacts before = (outcome, after)) :
    ∃ written, Touches written before.files after.files ∧
      Entered (artifacts.map Artifact.path) written outcome := by
  induction artifacts generalizing before after outcome with
  | nil =>
    cases ran
    exact ⟨[], .refl _, rfl, rfl⟩
  | cons a rest inductionHypothesis =>
    have product := products a List.mem_cons_self
    rw [writeArtifacts, Job.run_bind] at ran
    cases own : writeArtifact a before with
    | mk result middle =>
      rw [own] at ran
      cases result with
      | error e =>
        cases ran
        exact ⟨[], touches_of_unwritten product own, Nat.zero_lt_succ _, List.nil_sublist _⟩
      | ok w =>
        have first := touches_of_written product own
        have path : w.path = a.path := (writeArtifact_ok own).2
        obtain ⟨result, others, rfl⟩ := Job.bind_pure_eq ran
        obtain ⟨written, later, entered⟩ := inductionHypothesis
          (fun b member => products b (List.mem_cons_of_mem a member)) others
        refine ⟨w :: written, first.trans later, ?_⟩
        rw [List.map_cons, ← path]
        exact entered.cons w

end Artifacts

end TypedSheets
