import TypedSheets.Proofs.Files.Jobs
import TypedSheets.Proofs.Runs.HeldArtifacts

/-!
# Jobs that can be repeated

A job is repeated by another when that one, run in any later tree in which the files that the first one
may have changed are as it left them, changes no file and ends alike: what was written is passed over,
and what could not be written fails again. Jobs of two parts are repeated part by part, as long as the
second part leaves the files of the first one alone.
-/

namespace TypedSheets

open TypedSheets.Emission TypedSheets.Text FileTree

/-- The files of a later tree are those of an earlier one, except at some paths. -/
structure ChangesAt (paths : List Path) (t u : FileTree) : Prop where
  grows : Grows t u
  others : ∀ at_, (∀ p ∈ paths, u.locate p ≠ .ok at_) → u.fileAt? at_ = t.fileAt? at_

/-- The files at some paths are in one tree what they are in another. -/
def KeptAt (paths : List Path) (t u : FileTree) : Prop :=
  ∀ p ∈ paths, ∀ at_, t.locate p = .ok at_ → u.fileAt? at_ = t.fileAt? at_

namespace ChangesAt

variable {t u v : FileTree} {paths more : List Path}

theorem refl (t : FileTree) : ChangesAt [] t t := ⟨.refl t, fun _ _ => rfl⟩

theorem trans (first : ChangesAt paths t u) (second : ChangesAt more u v) :
    ChangesAt (paths ++ more) t v := by
  refine ⟨first.grows.trans second.grows, ?_⟩
  intro at_ elsewhere
  rw [second.others, first.others]
  · intro p member located
    apply elsewhere p (List.mem_append_left more member)
    exact locate_kept second.grows.directories p at_ located
  · intro p member
    exact elsewhere p (List.mem_append_right paths member)

theorem mono (changes : ChangesAt paths t u) (subset : paths ⊆ more) : ChangesAt more t u := by
  refine ⟨changes.grows, ?_⟩
  intro at_ elsewhere
  exact changes.others at_ fun p member => elsewhere p (subset member)

/-- Files at paths that lead elsewhere are kept. -/
theorem kept (changes : ChangesAt more t u) (apart : ∀ p ∈ paths, ∀ q ∈ more, Apart p q) :
    KeptAt paths t u := by
  intro p member at_ located
  apply changes.others
  intro q among there
  have here := locate_kept changes.grows.directories p at_ located
  exact apart p member q among u at_ at_ here there rfl

end ChangesAt

theorem KeptAt.trans {t u v : FileTree} {paths : List Path} (grows : Grows t u)
    (first : KeptAt paths t u) (second : KeptAt paths u v) : KeptAt paths t v := by
  intro p member at_ located
  rw [second p member at_ (locate_kept grows.directories p at_ located), first p member at_ located]

theorem KeptAt.mono {t u : FileTree} {paths more : List Path} (kept : KeptAt more t u)
    (subset : paths ⊆ more) : KeptAt paths t u :=
  fun p member => kept p (subset member)

theorem Leaves.changesAt {held : List Artifact} {t u : FileTree} (leaves : Leaves held t u) :
    ChangesAt (held.map Artifact.path) t u := by
  refine ⟨leaves.grows, ?_⟩
  intro at_ elsewhere
  exact leaves.others at_ fun a member => elsewhere a.path (List.mem_map_of_mem member)

/-- Failures that a run treats alike: one failure twice, two that come from the system, or two that end
the run with a text. -/
inductive Alike : Failure → Failure → Prop
  | same (e : Failure) : Alike e e
  | system {e f : Failure} (first : e.isSystem = true) (second : f.isSystem = true) : Alike e f
  | processing (text other : String) : Alike (.processing text) (.processing other)

theorem Alike.isSystem {e f : Failure} (alike : Alike e f) : f.isSystem = e.isSystem := by
  cases alike with
  | same => rfl
  | system first second => rw [first, second]
  | processing => rfl

/-- Two jobs end alike: with results that agree, or with failures that are treated alike. -/
inductive EndAlike {α β : Type} (agree : α → β → Prop) : Except Failure α → Except Failure β → Prop
  | ok {a : α} {b : β} (agreed : agree a b) : EndAlike agree (.ok a) (.ok b)
  | error {e f : Failure} (alike : Alike e f) : EndAlike agree (.error e) (.error f)

/-- Run in a tree that comes of `t`, a job changes files at some paths at most, and in every later tree
in which these are as it left them the other job changes no file and ends alike. -/
def Repeats {α β : Type} (t : FileTree) (paths : List Path) (job : Job α) (again : Job β)
    (agree : α → β → Prop) : Prop :=
  ∀ before outcome after, Grows t before.files → job before = (outcome, after) →
    ChangesAt paths before.files after.files ∧
      ∀ later, Grows after.files later.files → KeptAt paths after.files later.files →
        ∃ repeated last, again later = (repeated, last) ∧ ChangesAt [] later.files last.files ∧
          EndAlike agree outcome repeated

namespace Repeats

variable {α β γ δ : Type} {t : FileTree} {paths more : List Path} {job : Job α} {again : Job β}
  {agree : α → β → Prop}

/-- A job that leaves the files as they are, as does the other one. -/
theorem of_keepsFiles (keeps : Job.KeepsFiles job) (keepsAgain : Job.KeepsFiles again)
    (alike : ∀ before later, Grows t before.files → Grows before.files later.files →
      EndAlike agree (job before).1 (again later).1) : Repeats t [] job again agree := by
  intro before outcome after grows ran
  have same := keeps.eq ran
  refine ⟨?_, ?_⟩
  · rw [same]
    exact .refl _
  · intro later growsLater _
    refine ⟨(again later).1, (again later).2, rfl, ?_, ?_⟩
    · rw [keepsAgain later]
      exact .refl _
    · rw [same] at growsLater
      have ended := alike before later grows growsLater
      rw [ran] at ended
      exact ended

theorem pure {a : α} {b : β} (agreed : agree a b) : Repeats t [] (pure a) (pure b) agree :=
  of_keepsFiles (Job.keepsFiles_pure a) (Job.keepsFiles_pure b) fun _ _ _ _ => .ok agreed

theorem throw {e f : Failure} (alike : Alike e f) :
    Repeats t [] (throw e : Job α) (throw f : Job β) agree :=
  of_keepsFiles (Job.keepsFiles_throw e) (Job.keepsFiles_throw f) fun _ _ _ _ => .error alike

theorem log (severity other : Severity) (text otherText : String) :
    Repeats t [] (Job.log severity text) (Job.log other otherText) fun _ _ => True :=
  of_keepsFiles (Job.keepsFiles_log severity text) (Job.keepsFiles_log other otherText)
    fun _ _ _ _ => .ok trivial

theorem logAll (lines others : List LogLine) :
    Repeats t [] (Job.logAll lines) (Job.logAll others) fun _ _ => True :=
  of_keepsFiles (Job.keepsFiles_logAll lines) (Job.keepsFiles_logAll others)
    fun _ _ _ _ => .ok trivial

theorem ofExcept {ε : Type} (wrap : ε → Failure) (result : Except ε α) :
    Repeats t [] (Job.ofExcept wrap result) (Job.ofExcept wrap result) fun a b => b = a := by
  cases result with
  | ok a => exact .pure rfl
  | error e => exact .throw (.same _)

/-- More paths may be named, and less agreement asked for. -/
theorem mono {weaker : α → β → Prop} (repeats : Repeats t paths job again agree)
    (subset : paths ⊆ more) (weakens : ∀ a b, agree a b → weaker a b) :
    Repeats t more job again weaker := by
  intro before outcome after grows ran
  obtain ⟨changes, further⟩ := repeats before outcome after grows ran
  refine ⟨changes.mono subset, ?_⟩
  intro later growsLater kept
  obtain ⟨repeated, last, ranAgain, nothing, alike⟩ := further later growsLater (kept.mono subset)
  refine ⟨repeated, last, ranAgain, nothing, ?_⟩
  cases alike with
  | ok agreed => exact .ok (weakens _ _ agreed)
  | error alike => exact .error alike

theorem widen (repeats : Repeats t paths job again agree) (subset : paths ⊆ more) :
    Repeats t more job again agree :=
  repeats.mono subset fun _ _ agreed => agreed

/-- An attempt is repeated by an attempt. -/
theorem attempt (repeats : Repeats t paths job again agree) :
    Repeats t paths (Job.attempt job) (Job.attempt again) (EndAlike agree) := by
  intro before outcome after grows ran
  rw [Job.run_attempt] at ran
  cases ran
  obtain ⟨changes, further⟩ := repeats before _ _ grows rfl
  refine ⟨changes, ?_⟩
  intro later growsLater kept
  obtain ⟨repeated, last, ranAgain, nothing, alike⟩ := further later growsLater kept
  refine ⟨.ok repeated, last, ?_, nothing, .ok alike⟩
  rw [Job.run_attempt, ranAgain]

/-- Jobs of two parts. -/
theorem bind {next : α → Job γ} {nextAgain : β → Job δ} {further : γ → δ → Prop}
    (first : Repeats t paths job again agree)
    (second : ∀ a b, agree a b → Repeats t more (next a) (nextAgain b) further)
    (apart : ∀ p ∈ paths, ∀ q ∈ more, Apart p q) :
    Repeats t (paths ++ more) (job >>= next) (again >>= nextAgain) further := by
  intro before outcome after grows ran
  rw [Job.run_bind] at ran
  cases firstRan : job before with
  | mk result middle =>
    obtain ⟨changes, repetition⟩ := first before result middle grows firstRan
    rw [firstRan] at ran
    cases result with
    | error e =>
      cases ran
      refine ⟨changes.mono (List.subset_append_left paths more), ?_⟩
      intro later growsLater kept
      obtain ⟨repeated, last, ranAgain, nothing, alike⟩ :=
        repetition later growsLater (kept.mono (List.subset_append_left paths more))
      cases alike with
      | error alike =>
        refine ⟨_, last, ?_, nothing, .error alike⟩
        rw [Job.run_bind, ranAgain]
    | ok a =>
      have growsMiddle := grows.trans changes.grows
      -- repeated on the spot the first part has some result, with which the second part is repeated
      obtain ⟨_, _, -, -, onTheSpot⟩ := repetition middle (.refl _) fun _ _ _ _ => rfl
      cases onTheSpot with
      | ok agreed =>
        obtain ⟨changesLater, -⟩ := second _ _ agreed middle outcome after growsMiddle ran
        refine ⟨changes.trans changesLater, ?_⟩
        intro later growsLater kept
        have keptFirst : KeptAt paths middle.files later.files :=
          (changesLater.kept apart).trans changesLater.grows
            (kept.mono (List.subset_append_left paths more))
        obtain ⟨_, between, ranAgain, nothing, alike⟩ :=
          repetition later (changesLater.grows.trans growsLater) keptFirst
        cases alike with
        | ok agreed =>
          obtain ⟨-, repetitionLater⟩ := second _ _ agreed middle outcome after growsMiddle ran
          have keptSecond : KeptAt more after.files between.files := by
            refine (kept.mono (List.subset_append_right paths more)).trans growsLater ?_
            exact nothing.kept fun _ _ _ member => absurd member List.not_mem_nil
          obtain ⟨repeated, last, ranLast, nothingLater, alikeLast⟩ :=
            repetitionLater between (growsLater.trans nothing.grows) keptSecond
          refine ⟨repeated, last, ?_, nothing.trans nothingLater, alikeLast⟩
          rw [Job.run_bind, ranAgain]
          exact ranLast

/-- A first part that changes no file. -/
theorem bind_quiet {next : α → Job γ} {nextAgain : β → Job δ} {further : γ → δ → Prop}
    (first : Repeats t [] job again agree)
    (second : ∀ a b, agree a b → Repeats t more (next a) (nextAgain b) further) :
    Repeats t more (job >>= next) (again >>= nextAgain) further :=
  first.bind second fun _ member => absurd member List.not_mem_nil

/-- A first part that fails. -/
theorem bind_throw {next : α → Job γ} {nextAgain : β → Job δ} {further : γ → δ → Prop} {e f : Failure}
    (alike : Alike e f) :
    Repeats t more (MonadExcept.throw e >>= next) (MonadExcept.throw f >>= nextAgain) further := by
  have fails : Repeats t [] (MonadExcept.throw e : Job α) (MonadExcept.throw f : Job β)
      fun _ _ => False := .throw alike
  exact fails.bind_quiet fun _ _ never => never.elim

/-- A second part that changes no file. -/
theorem bind_last {next : α → Job γ} {nextAgain : β → Job δ} {further : γ → δ → Prop}
    (first : Repeats t paths job again agree)
    (second : ∀ a b, agree a b → Repeats t [] (next a) (nextAgain b) further) :
    Repeats t paths (job >>= next) (again >>= nextAgain) further := by
  have both := first.bind second fun _ _ _ member => absurd member List.not_mem_nil
  rw [List.append_nil] at both
  exact both

end Repeats

/-- An artifact that has been written, as it is passed over. -/
def Written.skipped (w : Written) : Written := { w with status := .skipped }

/-- Writing an artifact: one that was written is passed over, one that could not be written cannot be
written again. -/
theorem repeats_writeArtifact {a : Artifact} (product : IsProduct a.path) (t : FileTree) :
    Repeats t [a.path] (writeArtifact a) (writeArtifact a) fun first again => again = first.skipped := by
  intro before outcome after _ ran
  cases outcome with
  | ok written =>
    have leaves := leaves_of_written product ran
    refine ⟨leaves.changesAt, ?_⟩
    intro later grows kept
    have path : written.path = a.path := (writeArtifact_ok ran).2
    have stands : Stands after.files a :=
      leaves.stands (List.pairwise_singleton _ _) a List.mem_cons_self
    have passed := run_writeArtifact_of_stands (stands.kept grows (kept a.path List.mem_cons_self))
    refine ⟨_, _, passed, .refl _, .ok ?_⟩
    rw [Written.skipped, path]
  | error e =>
    have changes := (leaves_of_unwritten product ran).changesAt
    refine ⟨changes.mono (List.nil_subset _), ?_⟩
    intro later grows _
    cases null : hasNull a.path with
    | true =>
      rw [run_writeArtifact_of_null product null] at ran
      cases ran
      exact ⟨_, _, run_writeArtifact_of_null product null later, .refl _, .error (.same _)⟩
    | false =>
      obtain ⟨never, system⟩ := neverFile_of_unwritten product null ran
      cases ranAgain : writeArtifact a later with
      | mk repeated last =>
        cases repeated with
        | ok written =>
          have stands : Stands last.files a :=
            (leaves_of_written product ranAgain).stands (List.pairwise_singleton _ _) a List.mem_cons_self
          obtain ⟨-, at_, located, found⟩ := read_ok stands
          have grown := grows.trans (leaves_of_written product ranAgain).grows
          rw [never last.files grown at_ located] at found
          cases found
        | error f =>
          exact ⟨_, last, rfl, (leaves_of_unwritten product ranAgain).changesAt,
            .error (.system system (neverFile_of_unwritten product null ranAgain).2)⟩

/-- Artifacts at paths that lead apart, one after another. -/
theorem repeats_writeArtifacts {artifacts : List Artifact}
    (products : ∀ a ∈ artifacts, IsProduct a.path)
    (apart : (artifacts.map Artifact.path).Pairwise Apart) (t : FileTree) :
    Repeats t (artifacts.map Artifact.path) (writeArtifacts artifacts) (writeArtifacts artifacts)
      fun first again => again = first.map Written.skipped := by
  induction artifacts with
  | nil => exact .pure rfl
  | cons a rest inductionHypothesis =>
    rw [List.map_cons, List.pairwise_cons] at apart
    have later := inductionHypothesis (fun b member => products b (List.mem_cons_of_mem a member)) apart.2
    have own := repeats_writeArtifact (products a List.mem_cons_self) t
    apply own.bind
    · rintro first again rfl
      apply later.bind_last
      rintro others othersAgain rfl
      exact .pure rfl
    · intro p member q among
      rw [List.mem_singleton.mp member]
      exact apart.1 q among

end TypedSheets
