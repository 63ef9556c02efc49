import TypedSheets.Proofs.Json.ValueTexts
import TypedSheets.Proofs.Runs.LoggedErrors

/-!
# Histories of error logs

Records are appended to a log and flushes are asked for in any order, while others work on the files. A flush may
be refused before it has opened the file of the log, for whatever reason, and be asked for again. The records that
are written and those that are pending are the appended ones in their order at any time: a flush that writes moves
all pending records behind those in the file, and any other flush moves none. The line of a record is a text in
object notation, whatever texts its fields are, so the file can be read back line by line. The main statement is
`records_delivered`.
-/

namespace TypedSheets

open TypedSheets.Text FileTree

namespace FileTree

/-- The location that a path leads to, if it leads anywhere: a path back goes up by one. -/
def place (p : Path) : Location :=
  p.parts.foldl (fun at_ name => if name = ".." then up at_ else at_ ++ [name]) (start p)

theorem eq_foldl_of_walk {t : FileTree} {names : List String} {at_ last : Location}
    (walked : t.walk at_ names = .ok last) :
    last = names.foldl (fun at_ name => if name = ".." then up at_ else at_ ++ [name]) at_ := by
  induction names generalizing at_ with
  | nil =>
    cases walked
    rfl
  | cons name rest inductionHypothesis =>
    rw [walk_cons] at walked
    obtain ⟨middle, step, further⟩ := bind_eq_ok walked
    obtain ⟨-, -, rfl⟩ := follow_eq_ok.mp step
    exact inductionHypothesis further

/-- What stands in a tree decides whether a path leads to a location, but not to which. -/
theorem eq_place_of_locate {t : FileTree} {p : Path} {at_ : Location} (located : t.locate p = .ok at_) :
    at_ = place p := eq_foldl_of_walk (locate_ok located).2

end FileTree

namespace Run

variable {file : Path} {data : List UInt8} {before after : Workspace}

/-- Appending that fails leaves all files as they are. -/
theorem fileAt?_of_appendAll_error {e : Failure} (ran : appendAll file data before = (.error e, after))
    (at_ : Location) : after.files.fileAt? at_ = before.files.fileAt? at_ := by
  have same := (makeDirectories_frame (file.parent.parts.length + 1) file.parent before.files).2 at_
  rcases appendAll_cases ran with ⟨cause, -, made⟩ | ⟨above, made, ⟨cause, -, -, left⟩ | ⟨ended, -⟩⟩
  · rw [made] at same
    exact same
  · rw [left]
    rw [made] at same
    exact same
  · cases ended

/-- Appending that does not fail puts the bytes behind those that the file had. -/
theorem read_of_appendAll (ran : appendAll file data before = (.ok (), after)) :
    after.files.read file = .ok (.bytes (before.files.bytesAt (place file) ++ data)) := by
  obtain ⟨at_, located, found⟩ := appendAll_ok ran
  obtain rfl := eq_place_of_locate located
  exact read_eq (noNull_of_appendAll ran) located found

end Run

namespace ErrorRecord

/-- The values of the fields with their names, in the order of the line. -/
def values (r : ErrorRecord) : Entries :=
  [("timestamp", .text r.timestamp), ("file", .text r.file), ("sheet", .text r.sheet), ("row", .int r.row),
    ("column", .int r.column), ("error_type", .text r.kind), ("message", .text r.message)]

/-- The line of a record is read as its fields. -/
theorem read?_line (r : ErrorRecord) : Json.read? r.line = some (.map (Json.keyed r.values)) := by
  have spaced {name text : String} {value : Value} (isText : Json.IsText text value) :
      Json.IsEntryText (Json.quoted name ++ ": " ++ text) (name, value) := by
    refine ⟨" " ++ text, ?_, isText.spaced⟩
    have colon : ": " = ":" ++ " " := rfl
    rw [colon]
    simp only [String.append_assoc]
  have quoted {name text : String} := @spaced name _ _ (Json.isText_quoted text)
  have integer {name : String} {n : Int} := @spaced name _ _ (Json.isText_integerText n)
  have each : List.Forall₂ Json.IsEntryText (r.fields.map fun entry => Json.quoted entry.1 ++ ": " ++ entry.2)
      r.values :=
    .cons quoted <| .cons quoted <| .cons quoted <| .cons integer <| .cons integer <| .cons quoted <|
      .cons quoted .nil
  exact (Json.isText_spacedMap each (by decide : (["timestamp", "file", "sheet", "row", "column", "error_type",
    "message"] : List String).Nodup)).read?_eq

end ErrorRecord

namespace ErrorLog

/-- A flush that appends by some way of writing bytes to a file. -/
def flushThrough (write : Path → List UInt8 → Job Unit) (log : ErrorLog) (stamp : String) :
    Job (ErrorLog × Except Failure (Option Path)) := do
  if log.pending.isEmpty then pure (log, .ok none)
  else
    let file := log.path stamp
    let named := { log with file? := some file }
    match ← Job.attempt (write file (encodeUtf8 (text log.pending))) with
    | .ok () => pure ({ named with pending := [] }, .ok (some file))
    | .error e => pure (named, .error e)

/-- The flush of a log appends to the file, with the directories above it. -/
theorem flush_eq (log : ErrorLog) (stamp : String) : log.flush stamp = log.flushThrough Run.appendAll stamp := rfl

theorem text_append (first second : List ErrorRecord) : text (first ++ second) = text first ++ text second := by
  rw [text, List.map_append, String.join_append]
  rfl

/-- A log without a file is to have one in its directory, and a log keeps the file that it has. -/
theorem path_of_unnamed {log : ErrorLog} (unnamed : log.file? = none) (stamp : String) :
    log.path stamp = path { directory := log.directory } stamp := by
  rw [path, path, unnamed]

theorem path_of_named {log : ErrorLog} {file : Path} (named : log.file? = some file) (stamp : String) :
    log.path stamp = file := by
  rw [path, named, Option.getD_some]

end ErrorLog

/-- Why a flush is not carried out: the directories that it needs could not all be made, or the file could not be
opened. No file is changed. -/
structure Refusal where
  cause : Failure
  made : FileTree → FileTree
  kept : ∀ t at_, (made t).fileAt? at_ = t.fileAt? at_

/-- What is done instead of writing. -/
def Refusal.write (refusal : Refusal) (_ : Path) (_ : List UInt8) : Job Unit :=
  fun w => (.error refusal.cause, { w with files := refusal.made w.files })

/-- What others do to the files, except for those that may be the file of a log. -/
structure Elsewhere (directory : Path) where
  edit : FileTree → FileTree
  apart : ∀ t stamp, (edit t).bytesAt (place (ErrorLog.path { directory } stamp)) =
    t.bytesAt (place (ErrorLog.path { directory } stamp))

/-- What happens to a log and the files around it. -/
inductive LogEvent (directory : Path) where
  | append (r : ErrorRecord)
  | flush (stamp : String)
  | refused (stamp : String) (refusal : Refusal)
  | others (change : Elsewhere directory)

/-- A log and the files around it, and what the flushes have answered so far. -/
structure LogState where
  log : ErrorLog
  workspace : Workspace
  answers : List (Except Failure (Option Path)) := []

namespace LogState

variable {directory : Path}

/-- A flush is carried out, and answers. -/
def answered (s : LogState) (flushing : Job (ErrorLog × Except Failure (Option Path))) : LogState :=
  match flushing s.workspace with
  | (.ok (log, answer), workspace) => { log, workspace, answers := s.answers ++ [answer] }
  | (.error _, workspace) => { s with workspace }

def step (s : LogState) : LogEvent directory → LogState
  | .append r => { s with log := s.log.append r }
  | .flush stamp => s.answered (s.log.flush stamp)
  | .refused stamp refusal => s.answered (s.log.flushThrough refusal.write stamp)
  | .others change => { s with workspace := { s.workspace with files := change.edit s.workspace.files } }

/-- One event after another. -/
def run (s : LogState) (events : List (LogEvent directory)) : LogState := events.foldl step s

end LogState

/-- The records that are appended to a log. -/
def LogEvent.record? {directory : Path} : LogEvent directory → Option ErrorRecord
  | .append r => some r
  | .flush _ | .refused _ _ | .others _ => none

/-- How a flush ends that appends by some way of writing. -/
inductive FlushEnds (write : Path → List UInt8 → Job Unit) (stamp : String) (s : LogState) : LogState → Prop where
  /-- Nothing is pending, and nothing is done. -/
  | nothing (empty : s.log.pending = []) : FlushEnds write stamp s { s with answers := s.answers ++ [.ok none] }
  /-- All pending records are behind what the file held. -/
  | delivered (after : Workspace) (some_ : s.log.pending ≠ [])
      (wrote : write (s.log.path stamp) (encodeUtf8 (ErrorLog.text s.log.pending)) s.workspace = (.ok (), after))
      (read : after.files.read (s.log.path stamp) = .ok (.bytes
        (s.workspace.files.bytesAt (place (s.log.path stamp)) ++ encodeUtf8 (ErrorLog.text s.log.pending)))) :
      FlushEnds write stamp s
        { log := { s.log with pending := [], file? := some (s.log.path stamp) }
          workspace := after
          answers := s.answers ++ [.ok (some (s.log.path stamp))] }
  /-- Writing has failed. The records are still pending, and all files are as they were. -/
  | failed (e : Failure) (after : Workspace) (some_ : s.log.pending ≠ [])
      (wrote : write (s.log.path stamp) (encodeUtf8 (ErrorLog.text s.log.pending)) s.workspace = (.error e, after))
      (kept : ∀ at_, after.files.fileAt? at_ = s.workspace.files.fileAt? at_) :
      FlushEnds write stamp s
        { log := { s.log with file? := some (s.log.path stamp) }
          workspace := after
          answers := s.answers ++ [.error e] }

/-- Lines stand behind the bytes that a file had before, each with a line feed at its end. -/
def StandBehind (before after : List UInt8) (lines : List String) : Prop :=
  ∃ text, after = before ++ encodeUtf8 text ∧ textLines text = lines ++ [""]

section Flushes

variable {write : Path → List UInt8 → Job Unit} {stamp : String} {s : LogState}

/-- A flush ends in one of these ways when its writing appends or leaves all files as they are. -/
theorem flushEnds_answered (sound : ∀ file data w, write file data w = Run.appendAll file data w ∨
      ∃ e after, write file data w = (.error e, after) ∧ ∀ at_, after.files.fileAt? at_ = w.files.fileAt? at_) :
    FlushEnds write stamp s (s.answered (s.log.flushThrough write stamp)) := by
  rw [LogState.answered, ErrorLog.flushThrough]
  by_cases empty : s.log.pending = []
  · rw [if_pos (List.isEmpty_iff.mpr empty), Job.run_pure]
    exact .nothing empty
  · rw [if_neg (by simpa using empty), Job.run_bind, Job.run_attempt]
    cases ended : write (s.log.path stamp) (encodeUtf8 (ErrorLog.text s.log.pending)) s.workspace with
    | mk outcome after =>
      have how := sound (s.log.path stamp) (encodeUtf8 (ErrorLog.text s.log.pending)) s.workspace
      rw [ended] at how
      cases outcome with
      | ok _ =>
        rcases how with ran | ⟨_, _, failed, -⟩
        · exact .delivered after empty ended (Run.read_of_appendAll ran.symm)
        · cases failed
      | error e =>
        refine .failed e after empty ended ?_
        rcases how with ran | ⟨_, _, same, kept⟩
        · exact Run.fileAt?_of_appendAll_error ran.symm
        · cases same
          exact kept

/-- So does the flush of a log, -/
theorem flushEnds_flush (stamp : String) (s : LogState) :
    FlushEnds Run.appendAll stamp s (s.answered (s.log.flush stamp)) := by
  rw [ErrorLog.flush_eq]
  exact flushEnds_answered fun _ _ _ => .inl rfl

/-- and one that is refused. -/
theorem flushEnds_refused (stamp : String) (refusal : Refusal) (s : LogState) :
    FlushEnds refusal.write stamp s (s.answered (s.log.flushThrough refusal.write stamp)) :=
  flushEnds_answered fun _ _ w => .inr ⟨refusal.cause, _, rfl, refusal.kept w.files⟩

end Flushes

/-- Some of the given records are written and the others are pending. -/
structure Delivers (before : FileTree) (directory : Path) (given written : List ErrorRecord) (s : LogState) :
    Prop where
  order : written ++ s.log.pending = given
  within : s.log.directory = directory
  unnamed : s.log.file? = none → written = [] ∧ ∀ stamp,
    s.workspace.files.bytesAt (place (ErrorLog.path { directory } stamp)) =
      before.bytesAt (place (ErrorLog.path { directory } stamp))
  named : ∀ file, s.log.file? = some file → (∃ stamp, file = ErrorLog.path { directory } stamp) ∧
    s.workspace.files.bytesAt (place file) = before.bytesAt (place file) ++ encodeUtf8 (ErrorLog.text written)
  answers : ∀ file, .ok (some file) ∈ s.answers → s.log.file? = some file

section Histories

variable {before : FileTree} {directory : Path} {given written : List ErrorRecord} {s after : LogState}

/-- The file that a log has or is to have holds what is written. -/
theorem Delivers.path (delivers : Delivers before directory given written s) (stamp : String) :
    (∃ own, s.log.path stamp = ErrorLog.path { directory } own) ∧
      s.workspace.files.bytesAt (place (s.log.path stamp)) =
        before.bytesAt (place (s.log.path stamp)) ++ encodeUtf8 (ErrorLog.text written) := by
  cases name : s.log.file? with
  | none =>
    obtain ⟨rfl, same⟩ := delivers.unnamed name
    rw [ErrorLog.path_of_unnamed name, delivers.within]
    exact ⟨⟨stamp, rfl⟩, (same stamp).trans (List.append_nil _).symm⟩
  | some file =>
    rw [ErrorLog.path_of_named name]
    exact delivers.named file name

/-- A flush moves all pending records, or none. -/
theorem FlushEnds.delivers {write : Path → List UInt8 → Job Unit} {stamp : String}
    (ends : FlushEnds write stamp s after) (delivers : Delivers before directory given written s) :
    ∃ more, Delivers before directory given (written ++ more) after := by
  obtain ⟨inDirectory, held⟩ := delivers.path stamp
  have answered {answer : Except Failure (Option Path)} {file : Path}
      (member : .ok (some file) ∈ s.answers ++ [answer]) (other : answer ≠ .ok (some file)) :
      s.log.file? = some file := by
    rcases List.mem_append.mp member with earlier | last
    · exact delivers.answers file earlier
    · exact absurd (List.mem_singleton.mp last).symm other
  have kept {answer : Except Failure (Option Path)} {file : Path}
      (member : .ok (some file) ∈ s.answers ++ [answer]) (other : answer ≠ .ok (some file)) :
      s.log.path stamp = file := ErrorLog.path_of_named (answered member other) stamp
  cases ends with
  | nothing empty =>
    refine ⟨[], ?_⟩
    rw [List.append_nil]
    exact ⟨delivers.order, delivers.within, delivers.unnamed, delivers.named,
      fun file member => answered member (by rintro ⟨⟩)⟩
  | delivered w some_ wrote read =>
    obtain ⟨-, at_, located, found⟩ := read_ok read
    obtain rfl := eq_place_of_locate located
    refine ⟨s.log.pending, ⟨?_, delivers.within, by rintro ⟨⟩, ?_, fun file member => ?_⟩⟩
    · exact (List.append_nil _).trans delivers.order
    · rintro file ⟨⟩
      refine ⟨inDirectory, ?_⟩
      show w.files.bytesAt _ = _
      rw [bytesAt, found, held, ErrorLog.text_append, encodeUtf8_append, List.append_assoc]
    · rcases eq_or_ne (s.log.path stamp) file with rfl | other
      · rfl
      · exact congrArg some (kept member fun same => other (Option.some.inj (Except.ok.inj same)))
  | failed e w some_ wrote unchanged =>
    refine ⟨[], ?_⟩
    rw [List.append_nil]
    refine ⟨delivers.order, delivers.within, by rintro ⟨⟩, ?_, fun file member => ?_⟩
    · rintro file ⟨⟩
      refine ⟨inDirectory, ?_⟩
      show w.files.bytesAt _ = _
      rw [bytesAt, unchanged, ← held, bytesAt]
    · exact congrArg some (kept member (by rintro ⟨⟩))

/-- Whatever happens, the records stay in order, and no written one is lost. -/
theorem Delivers.step (delivers : Delivers before directory given written s) (event : LogEvent directory) :
    ∃ more, Delivers before directory (given ++ event.record?.toList) (written ++ more) (s.step event) := by
  cases event with
  | append r =>
    refine ⟨[], ?_⟩
    rw [List.append_nil]
    refine ⟨?_, delivers.within, delivers.unnamed, delivers.named, delivers.answers⟩
    rw [← delivers.order, List.append_assoc]
    rfl
  | flush stamp =>
    rw [LogEvent.record?, Option.toList_none, List.append_nil]
    exact (flushEnds_flush stamp s).delivers delivers
  | refused stamp refusal =>
    rw [LogEvent.record?, Option.toList_none, List.append_nil]
    exact (flushEnds_refused stamp refusal s).delivers delivers
  | others change =>
    refine ⟨[], ?_⟩
    rw [LogEvent.record?, Option.toList_none, List.append_nil, List.append_nil]
    refine ⟨delivers.order, delivers.within, fun name => ?_, fun file name => ?_, delivers.answers⟩
    · obtain ⟨none_, same⟩ := delivers.unnamed name
      exact ⟨none_, fun stamp => (change.apart _ stamp).trans (same stamp)⟩
    · obtain ⟨⟨stamp, rfl⟩, held⟩ := delivers.named file name
      exact ⟨⟨stamp, rfl⟩, (change.apart _ stamp).trans held⟩

/-- So it is along a history. -/
theorem Delivers.run (delivers : Delivers before directory given written s) (events : List (LogEvent directory)) :
    ∃ more, Delivers before directory (given ++ events.filterMap LogEvent.record?) (written ++ more)
      (s.run events) := by
  induction events generalizing given written s with
  | nil =>
    refine ⟨[], ?_⟩
    rw [List.filterMap_nil, List.append_nil, List.append_nil]
    exact delivers
  | cons event rest inductionHypothesis =>
    obtain ⟨first, delivers⟩ := delivers.step event
    obtain ⟨more, delivers⟩ := inductionHypothesis delivers
    refine ⟨first ++ more, ?_⟩
    have shape : (event :: rest).filterMap LogEvent.record? =
        event.record?.toList ++ rest.filterMap LogEvent.record? := by
      rw [List.filterMap_cons]
      cases event.record? <;> rfl
    rw [shape, ← List.append_assoc, ← List.append_assoc]
    exact delivers

end Histories

/-- A flush that is refused and asked for again, and one of nothing. -/
example :
    let r : ErrorRecord := ⟨"", "Game", "", -1, -1, "", "\n"⟩
    let s := LogState.run { log := { directory := .ofText "logs" }, workspace := {} }
      ([.append r, .refused "1" ⟨.file (.embeddedNull true), id, fun _ _ => rfl⟩, .append r, .flush "2", .flush "3"] :
        List (LogEvent (.ofText "logs")))
    s.log.pending = [] ∧
      s.answers.map Except.toOption = [none, some (some (.ofText "logs/errors-1.log")), some none] := by
  decide +kernel

end TypedSheets
