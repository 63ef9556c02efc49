import TypedSheets.Proofs.Files.ApartPaths
import TypedSheets.Proofs.Files.Jobs
import TypedSheets.Proofs.Files.Obstacles
import TypedSheets.Run

/-!
# The error log of a run

At its end a run appends the records of its issues to a file of its own, whose name has an ending that
neither a module nor an asset nor a schema file has. No other file changes, and only a null character
in the path of the log makes a run fail here.
-/

namespace TypedSheets.Run

open TypedSheets.Number TypedSheets.Text FileTree

/-- The file that a run appends its records to. -/
def logFile (clock : Clock) (logs : Path) : Path := ErrorLog.path { directory := logs } clock.stamp

/-- The digits of a text are nothing but digits. -/
theorem not_mem_digitsOf {c : Char} (text : String) (noDigit : isAsciiDigit c = false) :
    c ∉ (digitsOf text).toList := by
  rw [digitsOf, String.toList_ofList, List.mem_filter]
  rintro ⟨-, digit⟩
  rw [noDigit] at digit
  cases digit

/-- The time that a run starts at gives its log a name without such characters. -/
theorem not_mem_stamp {c : Char} (moment : Calendar.DateTime) (elapsed : Double)
    (noDigit : isAsciiDigit c = false) (noDash : c ≠ '-') :
    c ∉ (Clock.startingAt moment elapsed).stamp.toList := by
  rw [Clock.startingAt]
  simp only [String.toList_append, List.mem_append, not_or]
  refine ⟨⟨not_mem_digitsOf _ noDigit, ?_⟩, not_mem_digitsOf _ noDigit⟩
  intro member
  exact noDash (List.mem_singleton.mp member)

section Place

variable {clock : Clock} {logs : Path}

theorem logFile_eq (noSlash : '/' ∉ clock.stamp.toList) :
    logFile clock logs = logs.below ["errors-" ++ clock.stamp ++ "." ++ "log"] := by
  have component : IsComponent ("errors-" ++ clock.stamp ++ ".log") := by
    apply isComponent_ending
    · rw [String.toList_append, List.mem_append, not_or]
      exact ⟨by decide, noSlash⟩
    · decide
    · decide
  have name : "errors-" ++ clock.stamp ++ "." ++ "log" = "errors-" ++ clock.stamp ++ ".log" :=
    String.append_assoc
  rw [name]
  exact child_eq_below logs component

/-- The log is a file that a run may write. -/
theorem isProduct_logFile (split : IsSplit logs) (noSlash : '/' ∉ clock.stamp.toList)
    (noNull : '\x00' ∉ clock.stamp.toList) : IsProduct (logFile clock logs) := by
  have component : IsComponent ("errors-" ++ clock.stamp ++ "." ++ "log") := by
    rw [String.append_assoc]
    apply isComponent_ending
    · rw [String.toList_append, List.mem_append, not_or]
      exact ⟨by decide, noSlash⟩
    · decide
    · decide
  rw [logFile_eq noSlash, ← List.nil_append [_]]
  apply isProduct_below split
  · intro other member
    rw [List.mem_singleton.mp member]
    exact component
  · decide
  · decide
  · simp only [String.toList_append, List.mem_append, not_or]
    exact ⟨⟨⟨by decide, noNull⟩, by decide⟩, by decide⟩

/-- The stamp of a run that starts at some time has no slashes. -/
theorem slash_not_mem_stamp (moment : Calendar.DateTime) (elapsed : Double) :
    '/' ∉ (Clock.startingAt moment elapsed).stamp.toList :=
  not_mem_stamp moment elapsed (by decide) (by decide)

/-- So its log is such a file. -/
theorem isProduct_startedLog (moment : Calendar.DateTime) (elapsed : Double) (logs : String) :
    IsProduct (logFile (.startingAt moment elapsed) (.ofText logs)) :=
  isProduct_logFile (isSplit_ofText logs) (slash_not_mem_stamp moment elapsed)
    (not_mem_stamp moment elapsed (by decide) (by decide))

/-- It has a null character on it when its directory has one. -/
theorem hasNull_logFile (noSlash : '/' ∉ clock.stamp.toList) (noNull : '\x00' ∉ clock.stamp.toList) :
    hasNull (logFile clock logs) = hasNull logs := by
  rw [logFile_eq noSlash]
  apply hasNull_below
  intro name member
  rw [List.mem_singleton.mp member]
  simp only [String.toList_append, List.mem_append, not_or]
  exact ⟨⟨⟨by decide, noNull⟩, by decide⟩, by decide⟩

theorem hasNull_startedLog (moment : Calendar.DateTime) (elapsed : Double) (logs : String) :
    hasNull (logFile (.startingAt moment elapsed) (.ofText logs)) = hasNull (.ofText logs) :=
  hasNull_logFile (slash_not_mem_stamp moment elapsed)
    (not_mem_stamp moment elapsed (by decide) (by decide))

/-- Names with different last characters are different. -/
theorem ne_of_last {a b x y : String} {c d : Char} (first : x.toList.getLast? = some c)
    (second : y.toList.getLast? = some d) (differ : c ≠ d) : a ++ x ≠ b ++ y := by
  intro same
  have last := congrArg (fun text : String => text.toList.getLast?) same
  simp only [String.toList_append, List.getLast?_append, first, second, Option.some_or] at last
  exact differ (Option.some.inj last)

/-- The log lies apart from files whose names end in another letter. -/
theorem logFile_apart {p : Path} {name ending : String} {c : Char}
    (noSlash : '/' ∉ clock.stamp.toList) (named : p.parts.getLast? = some (name ++ ending))
    (down : name ++ ending ≠ "..") (last : ending.toList.getLast? = some c) (other : c ≠ 'g') :
    Apart p (logFile clock logs) := by
  have log : "log".toList.getLast? = some 'g' := by decide
  have differ : name ++ ending ≠ "errors-" ++ clock.stamp ++ "." ++ "log" := ne_of_last last log other
  have downLog : "errors-" ++ clock.stamp ++ "." ++ "log" ≠ "." ++ "." :=
    ne_of_last log (by decide : ".".toList.getLast? = some '.') (by decide)
  rw [logFile_eq noSlash]
  apply apart_of_last differ named down _ downLog
  rw [Path.below, List.getLast?_concat]

end Place

/-- Appends bytes to a file, with the directories above it. -/
def appendAll (file : Path) (data : List UInt8) : Job Unit := do
  Job.makeDirectories file.parent
  Job.change (·.append file data)

section Appending

variable {file : Path} {data : List UInt8} {before after : Workspace}

/-- How appending ends: directories above the file could not be made, or they are there and the bytes could not be
appended, or could. -/
theorem appendAll_cases {outcome : Except Failure Unit} (ran : appendAll file data before = (outcome, after)) :
    (∃ e, outcome = .error (.file e) ∧
      makeDirectories (file.parent.parts.length + 1) file.parent before.files = (.error e, after.files)) ∨
    ∃ above, makeDirectories (file.parent.parts.length + 1) file.parent before.files = (.ok (), above) ∧
      ((∃ e, outcome = .error (.file e) ∧ above.append file data = .error e ∧ after.files = above) ∨
        outcome = .ok () ∧ above.append file data = .ok after.files) := by
  rw [appendAll, Job.run_bind, Job.run_makeDirectories] at ran
  cases made : makeDirectories (file.parent.parts.length + 1) file.parent before.files with
  | mk result above =>
    rw [made] at ran
    cases result with
    | error e =>
      cases ran
      exact .inl ⟨e, rfl, rfl⟩
    | ok _ =>
      simp only [Job.run_change] at ran
      split at ran
      · next files appended =>
        cases ran
        exact .inr ⟨above, rfl, .inr ⟨rfl, appended⟩⟩
      · next e failed =>
        cases ran
        exact .inr ⟨above, rfl, .inl ⟨e, rfl, failed, rfl⟩⟩

/-- Appending changes no file but the one that is appended to. -/
theorem appendAll_frame (product : IsProduct file) {outcome : Except Failure Unit}
    (ran : appendAll file data before = (outcome, after)) :
    Grows before.files after.files ∧ ∀ at_, after.files.locate file ≠ .ok at_ →
      after.files.fileAt? at_ = before.files.fileAt? at_ := by
  have grows := grows_of_makeDirectories (file.parent.parts.length + 1) product.split.parent before.files
  have same := (makeDirectories_frame (file.parent.parts.length + 1) file.parent before.files).2
  rcases appendAll_cases ran with ⟨e, -, made⟩ | ⟨above, made, ⟨e, -, -, left⟩ | ⟨-, appended⟩⟩
  · rw [made] at grows same
    exact ⟨grows, fun at_ _ => same at_⟩
  · rw [made, ← left] at grows same
    exact ⟨grows, fun at_ _ => same at_⟩
  · rw [made] at grows same
    obtain ⟨-, place, located, kept, -, others⟩ := write_ok appended
    refine ⟨grows.trans (grows_of_write product appended), ?_⟩
    intro at_ elsewhere
    have different : at_ ≠ place := by
      rintro rfl
      exact elsewhere (locate_kept kept _ _ located)
    rw [fileAt?, others at_ different, ← same at_, fileAt?]

/-- A null character in the path is the one thing that makes appending fail otherwise than through the
system. -/
theorem appendAll_error (product : IsProduct file) {e : Failure}
    (ran : appendAll file data before = (.error e, after)) :
    e.isSystem = true ↔ hasNull file = false := by
  have cases := appendAll_cases ran
  cases null : hasNull file with
  | true =>
    have above : hasNull file.parent = true := by rw [product.hasNull_parent, null]
    have refused : makeDirectories (file.parent.parts.length + 1) file.parent before.files =
        (.error (.embeddedNull true), before.files) := by
      rw [makeDirectories, makeDirectory, if_pos above]
    rw [refused] at cases
    rcases cases with ⟨cause, failed, made⟩ | ⟨_, made, -⟩
    · cases congrArg Prod.fst made
      cases failed
      decide
    · cases made
  | false =>
    have above : hasNull file.parent = false := by rw [product.hasNull_parent, null]
    rcases cases with ⟨cause, failed, made⟩ | ⟨_, -, ⟨cause, failed, refused, -⟩ | ⟨ended, -⟩⟩
    · obtain ⟨-, fault, path, rfl⟩ := neverDirectory_of_makeDirectories product.split.parent above
        (Nat.lt_succ_self _) made
      cases failed
      exact iff_of_true rfl rfl
    · cases failed
      rw [append, write, if_neg (by simp [null])] at refused
      split at refused
      · cases refused
        exact iff_of_true rfl rfl
      · split at refused
        · cases refused
          exact iff_of_true rfl rfl
        · cases refused
    · cases ended

/-- Nor does it succeed with one. -/
theorem noNull_of_appendAll (ran : appendAll file data before = (.ok (), after)) : hasNull file = false := by
  obtain ⟨_, middle, -, changed⟩ := Job.bind_ok ran
  obtain ⟨files, appended, -⟩ := Job.change_ok changed
  exact (write_ok appended).1

end Appending

section Flush

variable {clock : Clock} {logs : Path} {records : List ErrorRecord} {before after : Workspace}

/-- A log with records appends them to its file. -/
theorem run_flush_records (pending : records.isEmpty = false) (w : Workspace) :
    ErrorLog.flush { directory := logs, pending := records } clock.stamp w =
      match appendAll (logFile clock logs) (encodeUtf8 (ErrorLog.text records)) w with
      | (.ok (), after) =>
        (.ok ({ directory := logs, file? := some (logFile clock logs) },
          .ok (some (logFile clock logs))), after)
      | (.error e, after) =>
        (.ok ({ directory := logs, pending := records, file? := some (logFile clock logs) }, .error e),
          after) := by
  unfold ErrorLog.flush
  rw [if_neg (by rw [pending]; decide)]
  change (Job.attempt (appendAll (logFile clock logs) (encodeUtf8 (ErrorLog.text records))) >>= _) w = _
  rw [Job.run_bind, Job.run_attempt]
  cases appendAll (logFile clock logs) (encodeUtf8 (ErrorLog.text records)) w with
  | mk outcome after => cases outcome <;> rfl

/-- How a run flushes its records. -/
theorem run_flush (w : Workspace) :
    flush clock logs records w =
      if records.isEmpty then (.ok (), w)
      else match appendAll (logFile clock logs) (encodeUtf8 (ErrorLog.text records)) w with
        | (.ok (), after) =>
          (.ok (), after.emit (.line ⟨.info, "error log: " ++ (logFile clock logs).text⟩))
        | (.error e, after) =>
          if e.isSystem then
            (.ok (), after.emit (.line ⟨.warning, "failed to write error log: " ++ e.message⟩))
          else (.error e, after) := by
  cases empty : records.isEmpty with
  | true =>
    rw [if_pos rfl, flush, List.isEmpty_iff.mp empty]
    rfl
  | false =>
    rw [if_neg (by decide), flush, Job.run_bind, run_flush_records empty]
    cases appendAll (logFile clock logs) (encodeUtf8 (ErrorLog.text records)) w with
    | mk outcome after => cases outcome with
      | ok _ => rfl
      | error e =>
        dsimp only
        split
        · rfl
        · rfl

/-- A flush changes no file but the log. -/
theorem flush_frame (product : IsProduct (logFile clock logs)) {outcome : Except Failure Unit}
    (ran : flush clock logs records before = (outcome, after)) :
    Grows before.files after.files ∧ ∀ at_, after.files.locate (logFile clock logs) ≠ .ok at_ →
      after.files.fileAt? at_ = before.files.fileAt? at_ := by
  rw [run_flush] at ran
  split at ran
  · cases ran
    exact ⟨.refl _, fun _ _ => rfl⟩
  · split at ran
    · next middle appended =>
      have frame := appendAll_frame product appended
      cases ran
      exact frame
    · next e middle appended =>
      have frame := appendAll_frame product appended
      split at ran
      · cases ran
        exact frame
      · cases ran
        exact frame

/-- A flush of some records ends well exactly when the path of the log has no null character. -/
theorem flush_ok_iff (product : IsProduct (logFile clock logs)) (w : Workspace) :
    (∃ last, flush clock logs records w = (.ok (), last)) ↔
      records = [] ∨ hasNull (logFile clock logs) = false := by
  rw [run_flush]
  cases empty : records.isEmpty with
  | true =>
    rw [if_pos rfl]
    exact iff_of_true ⟨w, rfl⟩ (.inl (List.isEmpty_iff.mp empty))
  | false =>
    have some : records ≠ [] := by simpa using empty
    rw [if_neg (by decide)]
    split
    · next after appended => exact iff_of_true ⟨_, rfl⟩ (.inr (noNull_of_appendAll appended))
    · next e after appended =>
      have cause := appendAll_error product appended
      split
      · next system => exact iff_of_true ⟨_, rfl⟩ (.inr (cause.mp system))
      · next other =>
        apply iff_of_false
        · rintro ⟨last, failed⟩
          cases failed
        · rintro (none | noNull)
          · exact some none
          · exact other (cause.mpr noNull)

end Flush

end TypedSheets.Run
