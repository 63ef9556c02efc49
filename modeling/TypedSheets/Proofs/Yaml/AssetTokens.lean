import TypedSheets.Proofs.Yaml.KeyTokens

/-!
# Assets as tokens

The tokens of the text of an asset: those of its three entries, where the value of the last one
is an empty sequence, or one entry for each record. A record without fields is an empty mapping,
any other one opens a block that ends where the next dash stands or with the text.
-/

namespace TypedSheets.Yaml

open Cursor

/-- What is written for a value; values that an asset does not hold have no form. -/
def formOf (value : Value) : ScalarForm := (scalarForm value).toOption.getD { text := [] }

/-- An entry that an asset can hold: a name, and a value whose form needs no mark of its type. -/
structure Writable (entry : String × Value) : Prop where
  name : IsName entry.1.toList
  form : scalarForm entry.2 = .ok (formOf entry.2)
  noMark : (formOf entry.2).typeMark = []
  nonempty : (formOf entry.2).bare = true → (formOf entry.2).text ≠ []

/-- The tokens of an entry. -/
def entryTokens (entry : String × Value) : List Token :=
  [.key, .scalar entry.1 (resolve entry.1 == .text), .value, formToken (formOf entry.2)]

/-- The tokens of a record, with its dash. -/
def recordTokens : Entries → List Token
  | [] => [.blockEntry, .flowMappingStart, .flowMappingEnd]
  | entry :: rest =>
    .blockEntry :: .blockMappingStart :: ((entry :: rest).flatMap entryTokens ++ [Token.blockEnd])

/-- The tokens of the records. -/
def listTokens (records : List Entries) : List Token :=
  if records.isEmpty then [.flowSequenceStart, .flowSequenceEnd] else records.flatMap recordTokens

/-- The tokens of an asset. -/
def assetTokens (a : Asset) : List Token :=
  .blockMappingStart :: (entryTokens ("name", .text a.name) ++
    entryTokens ("record_type", .text a.recordType) ++ [Token.key, .scalar "list" true, .value] ++
    listTokens a.records ++ [Token.blockEnd, .streamEnd])

/-- Every text can be held under a name. -/
theorem writable_text (name text : String) (isName : IsName name.toList) :
    Writable (name, .text text) := by
  refine ⟨isName, rfl, rfl, fun bare empty => ?_⟩
  have none : text = "" := String.toList_inj.mp empty
  subst none
  exact absurd (show (resolve "" == Tag.text) = true from bare) (by decide)

namespace Lexing

/-- What is written for an entry. -/
theorem entryChars_eq (indent : Nat) (entry : String × Value) (writable : Writable entry) :
    entryChars indent entry.1 entry.2 =
      .ok ((keyChars indent entry.1.toList).1 ++
        scalarChars { column := (keyChars indent entry.1.toList).2, indent := indent + 2
                      folds := true } (formOf entry.2)) := by
  rw [entryChars, writable.form]

/-- An entry starts with a solid character that starts no comment. -/
theorem stopsBlanks_key (cs behind : List Char) (name : IsName cs) (indent : Nat) :
    StopsBlanks ((keyChars indent cs).1 ++ behind) := by
  have start : ∃ x more, (keyChars indent cs).1 ++ behind = x :: more ∧ isSolid x = true ∧ x ≠ '#' := by
    rw [keyChars_eq cs name]
    split
    · cases bare : (resolve (String.ofList cs) == Tag.text) with
      | false => exact ⟨'\'', _, rfl, by decide, by decide⟩
      | true =>
        cases cs with
        | nil => exact absurd rfl name.nonempty
        | cons x cs =>
          exact ⟨x, _, rfl, name.solid x List.mem_cons_self,
            name.ne_of_mem List.mem_cons_self (by decide)⟩
    · exact ⟨'?', _, rfl, by decide, by decide⟩
  obtain ⟨x, more, same, solid, noComment⟩ := start
  intro y found
  rw [same] at found
  cases found
  exact ⟨solid, noComment⟩

/-- An entry and those on the lines behind it, up to a line that is not indented. The induction
is on the further entries: the first one may open the block, the others find it open. -/
theorem reaches_entries (entry : String × Value) (rest : Entries) (tail behind : List Char)
    (writable : ∀ e ∈ entry :: rest, Writable e) (written : furtherEntries rest = .ok tail)
    (gap size : Nat) (c : Cursor) (tokens : List Token) (indent : Int) (outer : List Int)
    (column : c.column + gap = 2) (inside : indent ≤ 2)
    (start : c.rest = List.replicate gap ' ' ++ ((keyChars 2 entry.1.toList).1 ++
      (scalarChars { column := (keyChars 2 entry.1.toList).2, indent := 4, folds := true }
        (formOf entry.2) ++ (tail ++ (newLine 0 ++ behind)))))
    (room : c.rest.length ≤ size) (next : NextLine 2 0 behind) :
    ∃ last : Cursor, last.rest = behind ∧ last.column = 0 ∧
      Reaches (block size c tokens indent outer true [])
        (block size last (((entry :: rest).flatMap entryTokens).reverse ++ opening indent 2 tokens) 2
          (around indent 2 outer) true []) := by
  induction rest generalizing entry tail gap c tokens indent outer with
  | nil =>
    have mine := writable entry List.mem_cons_self
    cases written
    obtain ⟨last, lastRest, lastColumn, reaches⟩ := reaches_entry entry.1.toList behind mine.name
      (formOf entry.2) mine.noMark mine.nonempty gap 0 _ size c tokens indent outer
      (by rw [column]; exact inside) (by rw [column]; decide) (by rw [column]; exact start) room
      (by rw [column]; exact next)
    rw [column, String.ofList_toList] at reaches
    exact ⟨last, lastRest, lastColumn, reaches⟩
  | cons second rest inductionHypothesis =>
    have mine := writable entry List.mem_cons_self
    have others := fun e present => writable e (List.mem_cons_of_mem entry present)
    have theirs := others second List.mem_cons_self
    rw [furtherEntries, entryChars_eq 2 second theirs] at written
    cases further : furtherEntries rest with
    | error e => rw [further] at written; cases written
    | ok tail' =>
      rw [further] at written
      cases written
      have begins : NextLine (2 : Nat) 2 ((keyChars 2 second.1.toList).1 ++
          (scalarChars { column := (keyChars 2 second.1.toList).2, indent := 4, folds := true }
            (formOf second.2) ++ (tail' ++ (newLine 0 ++ behind)))) :=
        ⟨stopsBlanks_key _ _ theirs.name 2, atDocumentMark_of_blank ' ' _ (.inl rfl),
          .inl (Int.le_refl _)⟩
      obtain ⟨middle, middleRest, middleColumn, reaches⟩ := reaches_entry entry.1.toList _ mine.name
        (formOf entry.2) mine.noMark mine.nonempty gap 2 _ size c tokens indent outer
        (by rw [column]; exact inside) (by rw [column]; decide)
        (by rw [column, start]; simp only [List.append_assoc]; rfl) room (by rw [column]; exact begins)
      rw [column, String.ofList_toList] at reaches
      obtain ⟨last, lastRest, lastColumn, reachesLast⟩ := inductionHypothesis second tail' others
        further 0 middle _ 2 (around indent 2 outer) (by rw [middleColumn]) (Int.le_refl _) middleRest
        (Nat.le_trans reaches.rest_le room)
      refine ⟨last, lastRest, lastColumn, ?_⟩
      have whole := reaches.trans reachesLast
      simpa [opening, around, entryTokens, List.flatMap_cons] using whole

/-- An opening bracket leads into a collection, and may start a key. -/
theorem openFlow_block (token : Token) (size : Nat) (c : Cursor) (tokens : List Token)
    (indent : Int) (outer : List Int) (keyAllowed : Bool) :
    openFlow token (block size c tokens indent outer keyAllowed []) =
      .ok { block size c.step (token :: tokens) indent outer true (noted c tokens indent keyAllowed) with
            flow := 1 } := by
  unfold openFlow
  rw [noteCandidate_block]
  rfl

/-- Where a bracket stands in a collection, nothing is passed, and keys within reach stay. -/
theorem settle_flow (size : Nat) (c : Cursor) (tokens : List Token) (indent : Int)
    (outer : List Int) (candidates : List KeyCandidate) (stops : StopsBlanks c.rest)
    (fresh : ∀ k ∈ candidates, k.line = c.line ∧ c.index - k.index ≤ keyReach) :
    settle { block size c tokens indent outer true candidates with flow := 1 } =
      .ok { block size c tokens indent outer true candidates with flow := 1 } := by
  have skipped := skipBlanks_spaces size 0
    { block size c tokens indent outer true candidates with flow := 1 } c.rest rfl stops
  refine (congrArg dropStale skipped).trans (dropStale_fresh _ fun k present => ?_)
  obtain ⟨line, near⟩ := fresh k present
  have notFar : ¬keyReach < c.index - k.index := by omega
  simp [isStale, block, steps, line, notFar]

/-- A closing bracket leads out of a collection; the candidates before the collection stay. -/
theorem closeFlow_block (token : Token) (size : Nat) (c : Cursor) (tokens : List Token)
    (indent : Int) (outer : List Int) (candidates : List KeyCandidate)
    (outside : ∀ k ∈ candidates, k.flow = 0) :
    closeFlow token { block size c tokens indent outer true candidates with flow := 1 } =
      .ok (block size c.step (token :: tokens) indent outer false candidates) := by
  have none : candidates.find? (fun k => k.flow == 1) = none :=
    List.find?_eq_none.mpr fun k present => by simp [outside k present]
  have all : candidates.filter (fun k => k.flow != 1) = candidates :=
    List.filter_eq_self.mpr fun k present => by simp [outside k present]
  simp [closeFlow, dropCandidate, candidate?, forgetCandidate, block, none, all, indicator, push,
    bind, Except.bind, pure, Except.pure, steps]

/-- An opening bracket behind a space is cut off. -/
theorem reaches_openFlow (opens : Char) (token : Token)
    (opened : ∀ (s : Lexing) rest, s.nextToken opens rest = s.openFlow token)
    (solid : isSolid opens = true ∧ opens ≠ '#') (size : Nat) (c : Cursor) (tokens : List Token)
    (indent : Int) (outer : List Int) (keyAllowed : Bool) (behind : List Char)
    (rest : c.rest = ' ' :: opens :: behind) (inside : indent ≤ (c.column + 1 : Nat)) :
    Reaches (block size c tokens indent outer keyAllowed [])
      { block size c.step.step (token :: tokens) indent outer true
          (noted c.step tokens indent keyAllowed) with flow := 1 } := by
  have openRest : c.step.rest = opens :: behind := by
    rw [rest_step, rest]
    rfl
  have cut : CutsOff (block size (steps 1 c) tokens indent outer keyAllowed [])
      { block size c.step.step (token :: tokens) indent outer true
          (noted c.step tokens indent keyAllowed) with flow := 1 } := by
    refine ⟨opens, behind, openRest, solid, ?_⟩
    rw [opened]
    exact openFlow_block token size c.step tokens indent outer keyAllowed
  refine cut.reaches 1 (opens :: behind) rest (by simp) inside ?_
  show c.step.step.rest.length < (opens :: behind).length
  rw [rest_step, openRest]
  simp

/-- A closing bracket is cut off where it stands. -/
theorem reaches_closeFlow (closes : Char) (token : Token)
    (closed : ∀ (s : Lexing) rest, s.nextToken closes rest = s.closeFlow token)
    (solid : isSolid closes = true ∧ closes ≠ '#') (size : Nat) (c : Cursor) (tokens : List Token)
    (indent : Int) (outer : List Int) (candidates : List KeyCandidate) (behind : List Char)
    (rest : c.rest = closes :: behind)
    (fresh : ∀ k ∈ candidates, k.flow = 0 ∧ k.line = c.line ∧ c.index - k.index ≤ keyReach) :
    Reaches { block size c tokens indent outer true candidates with flow := 1 }
      (block size c.step (token :: tokens) indent outer false candidates) := by
  have settled := settle_flow size c tokens indent outer candidates
    (fun y found => by rw [rest] at found; cases found; exact solid) fun k present =>
      (fresh k present).2
  refine reaches_token _ _ _ closes behind settled rest ?_ ?_
  · rw [show closeBlocks _ { block size c tokens indent outer true candidates with flow := 1 } =
      { block size c tokens indent outer true candidates with flow := 1 } from rfl, closed]
    exact closeFlow_block token size c tokens indent outer candidates fun k present =>
      (fresh k present).1
  · show c.step.rest.length < c.rest.length
    rw [rest_step, rest]
    simp

/-- A collection without entries between two brackets, with the line end behind it. -/
theorem reaches_emptyFlow (opens closes : Char) (first second : Token)
    (opened : ∀ (s : Lexing) rest, s.nextToken opens rest = s.openFlow first)
    (closed : ∀ (s : Lexing) rest, s.nextToken closes rest = s.closeFlow second)
    (openSolid : isSolid opens = true ∧ opens ≠ '#' ∧ isInline opens = true)
    (closeSolid : isSolid closes = true ∧ closes ≠ '#') (size : Nat) (c : Cursor)
    (tokens : List Token) (indent : Int) (outer : List Int) (keyAllowed : Bool)
    (behind : List Char) (rest : c.rest = ' ' :: opens :: closes :: (newLine 0 ++ behind))
    (inside : indent < c.column + 1) (room : 1 ≤ size) (stops : StopsBlanks behind) :
    Reaches (block size c tokens indent outer keyAllowed [])
      (block size (steps 4 c) (second :: first :: tokens) indent outer true []) := by
  have atOpen := step_inline c ' ' _ rest isInline_space
  have atClose := step_inline c.step opens _ (by rw [atOpen]) openSolid.2.2
  have closeRest : c.step.step.rest = closes :: (newLine 0 ++ behind) := by rw [atClose]
  have behindRest : c.step.step.step.rest = newLine 0 ++ behind := by
    rw [rest_step, closeRest]
    rfl
  have place := place_of_noted c.step tokens indent keyAllowed
  have optional := optional_noted c.step tokens indent keyAllowed (by
    rw [atOpen]
    show indent < ((c.column + 1 : Nat) : Int)
    omega)
  have openReached := reaches_openFlow opens first opened ⟨openSolid.1, openSolid.2.1⟩ size c tokens
    indent outer keyAllowed _ rest (by omega)
  have closeReached := reaches_closeFlow closes second closed closeSolid size c.step.step
    (first :: tokens) indent outer (noted c.step tokens indent keyAllowed) _ closeRest
    fun k present => by
      obtain ⟨flow, line, index⟩ := place k present
      rw [flow, line, index, atClose]
      exact ⟨rfl, rfl, by simp only [keyReach]; omega⟩
  have lineReached := reaches_newLine 0 size c.step.step.step (second :: first :: tokens) indent outer
    false (noted c.step tokens indent keyAllowed) behind behindRest stops room fun k present => by
      obtain ⟨-, line, -⟩ := place k present
      have sameLine : c.step.step.line = c.step.line := by rw [atClose]
      exact ⟨by rw [line, ← sameLine]; exact line_le_step c.step.step, optional k present⟩
  exact (openReached.trans closeReached).trans lineReached

/-- The start of a line among the records. `isOpen` tells that the block of the record before it
is still open. -/
def lineStart (size : Nat) (c : Cursor) (tokens : List Token) (isOpen : Bool) : Lexing :=
  if isOpen then block size c tokens 2 [0, -1] true [] else block size c tokens 0 [-1] true []

/-- The tokens up to there once the block is closed. -/
def closed (isOpen : Bool) (tokens : List Token) : List Token :=
  if isOpen then .blockEnd :: tokens else tokens

/-- What follows the records before a line: a dash, or nothing. -/
def StartsRecord (behind : List Char) : Prop := behind = [] ∨ ∃ more, behind = '-' :: ' ' :: more

theorem StartsRecord.stops {behind : List Char} (starts : StartsRecord behind) :
    StopsBlanks behind := by
  rcases starts with rfl | ⟨more, rfl⟩
  · intro x found
    cases found
  · intro x found
    cases found
    decide

/-- It ends the values of the record before it. -/
theorem StartsRecord.nextLine {behind : List Char} (starts : StartsRecord behind) :
    NextLine 2 0 behind := by
  refine ⟨starts.stops, ?_, .inl (by decide)⟩
  rcases starts with rfl | ⟨more, rfl⟩
  · rfl
  · simp [atDocumentMark, isMark, List.isPrefixOf]

/-- A dash at the start of a line closes the record before it and starts an entry. -/
theorem reaches_dash (size : Nat) (c : Cursor) (tokens : List Token) (isOpen : Bool)
    (more : List Char) (column : c.column = 0) (rest : c.rest = '-' :: ' ' :: more) :
    Reaches (lineStart size c tokens isOpen)
      (block size c.step (.blockEntry :: closed isOpen tokens) 0 [-1] true []) := by
  have noMark : isMark '-' ('-' :: ' ' :: more) = false := by simp [isMark, List.isPrefixOf]
  have noPoint : isMark '.' ('-' :: ' ' :: more) = false := by simp [isMark, List.isPrefixOf]
  have entry : nextToken (block size c (closed isOpen tokens) 0 [-1] true []) '-' (' ' :: more) =
      .ok (block size c.step (.blockEntry :: closed isOpen tokens) 0 [-1] true []) := by
    simp [nextToken, noMark, noPoint, endsToken, isSpace, blockEntry, openMarked, openBlock, block,
      column, dropCandidate, candidate?, forgetCandidate, indicator, push, steps, bind, Except.bind,
      pure, Except.pure]
  have settles : settle (lineStart size c tokens isOpen) = .ok (lineStart size c tokens isOpen) := by
    have stops : StopsBlanks c.rest := fun x found => by
      rw [rest] at found
      cases found
      decide
    cases isOpen
    all_goals exact settle_here size c tokens _ _ true [] stops (by simp)
  have cursor : (lineStart size c tokens isOpen).cursor = c := by cases isOpen <;> rfl
  have closes : (lineStart size c tokens isOpen).closeBlocks c.column =
      block size c (closed isOpen tokens) 0 [-1] true [] := by
    rw [column]
    cases isOpen <;> rfl
  refine reaches_token _ _ _ '-' (' ' :: more) settles (by rw [cursor]; exact rest) ?_ ?_
  · rw [cursor, closes]
    exact entry
  · rw [cursor]
    show c.step.rest.length < c.rest.length
    rw [rest_step, rest]
    simp

/-- A record and the line end behind it. -/
theorem reaches_record (entries : Entries) (chars behind : List Char) (size : Nat) (c : Cursor)
    (tokens : List Token) (isOpen : Bool) (writable : ∀ e ∈ entries, Writable e)
    (written : recordChars entries = .ok chars) (column : c.column = 0)
    (rest : c.rest = chars ++ behind) (room : c.rest.length ≤ size) (starts : StartsRecord behind) :
    ∃ (last : Cursor) (cut : List Token) (nowOpen : Bool), last.rest = behind ∧ last.column = 0 ∧
      closed nowOpen cut = (recordTokens entries).reverse ++ closed isOpen tokens ∧
      Reaches (lineStart size c tokens isOpen) (lineStart size last cut nowOpen) := by
  cases entries with
  | nil =>
    cases written
    have here : c.rest = '-' :: ' ' :: '\x7b' :: '\x7d' :: (newLine 0 ++ behind) := rest
    have dash := reaches_dash size c tokens isOpen _ column here
    have atDash := step_inline c '-' _ here (by decide)
    have room' : 1 ≤ size := by
      rw [here] at room
      simp only [List.length_cons] at room
      omega
    have empty := reaches_emptyFlow '\x7b' '\x7d' .flowMappingStart .flowMappingEnd
      (fun s rest => by simp [nextToken, isMark, List.isPrefixOf])
      (fun s rest => by simp [nextToken, isMark, List.isPrefixOf]) (by decide) (by decide) size c.step
      (.blockEntry :: closed isOpen tokens) 0 [-1] true behind (by rw [atDash])
      (by omega) room' starts.stops
    have lastRest : (steps 4 c.step).rest = behind ∧ (steps 4 c.step).column = 0 := by
      have atEnd := steps_newLine (steps 3 c.step) '\n' 0 behind (by decide)
        (by rw [rest_steps, atDash]; rfl)
      rw [show steps 4 c.step = steps (0 + 1) (steps 3 c.step) from rfl, atEnd]
      exact ⟨rfl, rfl⟩
    exact ⟨steps 4 c.step, .flowMappingEnd :: .flowMappingStart :: .blockEntry :: closed isOpen tokens,
      false, lastRest.1, lastRest.2, rfl, dash.trans empty⟩
  | cons entry others =>
    have mine := writable entry List.mem_cons_self
    rw [recordChars, entryChars_eq 2 entry mine] at written
    cases further : furtherEntries others with
    | error e => rw [further] at written; cases written
    | ok tail =>
      rw [further] at written
      cases written
      have here : c.rest = '-' :: ' ' :: ((keyChars 2 entry.1.toList).1 ++
          (scalarChars { column := (keyChars 2 entry.1.toList).2, indent := 4, folds := true }
            (formOf entry.2) ++ (tail ++ (newLine 0 ++ behind)))) := by
        rw [rest]
        simp [newLine]
      have dash := reaches_dash size c tokens isOpen _ column here
      have atDash := step_inline c '-' _ here (by decide)
      obtain ⟨last, lastRest, lastColumn, reaches⟩ := reaches_entries entry others tail behind writable
        further 1 size c.step (.blockEntry :: closed isOpen tokens) 0 [-1]
        (by rw [atDash, column]) (by decide) (by rw [atDash]; rfl)
        (Nat.le_trans dash.rest_le (by cases isOpen <;> exact room)) starts.nextLine
      refine ⟨last, ((entry :: others).flatMap entryTokens).reverse ++
        .blockMappingStart :: .blockEntry :: closed isOpen tokens, true, lastRest, lastColumn, ?_,
        dash.trans reaches⟩
      simp [closed, recordTokens]

/-- What is written for a record starts with a dash. -/
theorem recordChars_dash (entries : Entries) (chars : List Char)
    (written : recordChars entries = .ok chars) : ∃ more, chars = '-' :: ' ' :: more := by
  cases entries with
  | nil =>
    cases written
    exact ⟨_, rfl⟩
  | cons entry others =>
    rw [recordChars] at written
    split at written
    · cases written
      exact ⟨_, rfl⟩
    · cases written
    · cases written

/-- So does what is written for several records. -/
theorem startsRecord_of_recordsChars (records : List Entries) (chars : List Char)
    (written : recordsChars records = .ok chars) : StartsRecord chars := by
  cases records with
  | nil =>
    cases written
    exact .inl rfl
  | cons entries records =>
    rw [recordsChars] at written
    cases first : recordChars entries with
    | error e => rw [first] at written; cases written
    | ok firstChars =>
      cases further : recordsChars records with
      | error e => rw [first, further] at written; cases written
      | ok tail =>
        rw [first, further] at written
        cases written
        obtain ⟨more, rfl⟩ := recordChars_dash entries firstChars first
        exact .inr ⟨more ++ tail, rfl⟩

/-- All records, up to the end of the text. -/
theorem reaches_records (records : List Entries) (chars : List Char) (size : Nat) (c : Cursor)
    (tokens : List Token) (isOpen : Bool)
    (writable : ∀ entries ∈ records, ∀ e ∈ entries, Writable e)
    (written : recordsChars records = .ok chars) (column : c.column = 0) (rest : c.rest = chars)
    (room : c.rest.length ≤ size) :
    ∃ (last : Cursor) (cut : List Token) (nowOpen : Bool), last.rest = [] ∧
      closed nowOpen cut = (records.flatMap recordTokens).reverse ++ closed isOpen tokens ∧
      Reaches (lineStart size c tokens isOpen) (lineStart size last cut nowOpen) := by
  induction records generalizing chars c tokens isOpen with
  | nil =>
    cases written
    exact ⟨c, tokens, isOpen, rest, rfl, .refl _⟩
  | cons entries records inductionHypothesis =>
    have others := fun e present => writable e (List.mem_cons_of_mem entries present)
    rw [recordsChars] at written
    cases first : recordChars entries with
    | error e => rw [first] at written; cases written
    | ok firstChars =>
      cases further : recordsChars records with
      | error e => rw [first, further] at written; cases written
      | ok tail =>
        rw [first, further] at written
        cases written
        have starts := startsRecord_of_recordsChars records tail further
        obtain ⟨middle, cut, nowOpen, middleRest, middleColumn, same, reaches⟩ :=
          reaches_record entries firstChars tail size c tokens isOpen
            (writable entries List.mem_cons_self) first column rest room starts
        have lengths : middle.rest.length ≤ c.rest.length := by
          have fewer := reaches.rest_le
          cases isOpen <;> cases nowOpen <;> exact fewer
        obtain ⟨last, cut', lastOpen, lastRest, same', reaches'⟩ := inductionHypothesis tail middle cut
          nowOpen others further middleColumn middleRest (Nat.le_trans lengths room)
        refine ⟨last, cut', lastOpen, lastRest, ?_, reaches.trans reaches'⟩
        rw [same', same, List.flatMap_cons, List.reverse_append, List.append_assoc]

/-- The text ends behind the last record: every block that is open is closed. -/
theorem run_end (fuel size : Nat) (c : Cursor) (tokens : List Token) (isOpen : Bool)
    (rest : c.rest = []) :
    run (fuel + 1) (lineStart size c tokens isOpen) =
      (.streamEnd :: .blockEnd :: closed isOpen tokens).reverse := by
  have settles : settle (lineStart size c tokens isOpen) = .ok (lineStart size c tokens isOpen) := by
    have stops : StopsBlanks c.rest := fun x found => by
      rw [rest] at found
      cases found
    cases isOpen
    all_goals exact settle_here size c tokens _ _ true [] stops (by simp)
  have ended : (lineStart size c tokens isOpen).endBlocks =
      .ok { block size c (.blockEnd :: closed isOpen tokens) (-1) [] false [] with
        keyAllowed := false } := by
    cases isOpen <;> rfl
  have cursor : (lineStart size c tokens isOpen).cursor.rest = [] := by cases isOpen <;> exact rest
  have last : (lineStart size c tokens isOpen).advance = .ok (true,
      push { block size c (.blockEnd :: closed isOpen tokens) (-1) [] false [] with
        keyAllowed := false } .streamEnd) := by
    unfold advance
    rw [show ((lineStart size c tokens isOpen).skipBlanks
      ((lineStart size c tokens isOpen).size + 1)).dropStale = .ok (lineStart size c tokens isOpen)
      from settles]
    simp only [bind, Except.bind, cursor, ended, pure, Except.pure]
  rw [run, last]
  rfl

/-- The list of an asset behind its key: an empty sequence or the lines of the records. -/
theorem reaches_list (records : List Entries) (chars : List Char) (size : Nat) (c : Cursor)
    (tokens : List Token) (writable : ∀ entries ∈ records, ∀ e ∈ entries, Writable e)
    (written : (if records.isEmpty then Except.ok " []\n".toList
      else (recordsChars records).map ('\n' :: ·)) = .ok chars)
    (rest : c.rest = chars) (room : c.rest.length ≤ size) :
    ∃ (last : Cursor) (cut : List Token) (nowOpen : Bool), last.rest = [] ∧
      closed nowOpen cut = (listTokens records).reverse ++ tokens ∧
      Reaches (block size c tokens 0 [-1] false []) (lineStart size last cut nowOpen) := by
  cases records with
  | nil =>
    cases written
    have here : c.rest = ' ' :: '[' :: ']' :: (newLine 0 ++ []) := rest
    have room' : 1 ≤ size := by
      rw [here] at room
      simp only [List.length_cons] at room
      omega
    have empty := reaches_emptyFlow '[' ']' .flowSequenceStart .flowSequenceEnd
      (fun s rest => by simp [nextToken, isMark, List.isPrefixOf])
      (fun s rest => by simp [nextToken, isMark, List.isPrefixOf]) (by decide) (by decide) size c
      tokens 0 [-1] false [] here (by omega) room' (fun x found => by cases found)
    exact ⟨steps 4 c, _, false, by rw [rest_steps, here]; rfl, rfl, empty⟩
  | cons entries records =>
    rw [if_neg (by simp)] at written
    cases inside : recordsChars (entries :: records) with
    | error e => rw [inside] at written; cases written
    | ok lines =>
      rw [inside] at written
      cases written
      have here : c.rest = newLine 0 ++ lines := rest
      have starts := startsRecord_of_recordsChars _ lines inside
      have room' : 1 ≤ size := by
        rw [here] at room
        simp only [newLine, List.length_append, List.length_cons] at room
        omega
      have atLine := steps_newLine c '\n' 0 lines (by decide) here
      have toLine := reaches_newLine 0 size c tokens 0 [-1] false [] lines here starts.stops room'
        (by simp)
      obtain ⟨last, cut, nowOpen, lastRest, same, reaches⟩ := reaches_records (entries :: records) lines
        size (steps (0 + 1) c) tokens false writable inside (by rw [atLine]) (by rw [atLine])
        (Nat.le_trans toLine.rest_le room)
      exact ⟨last, cut, nowOpen, lastRest, same, toLine.trans reaches⟩

end Lexing

/-- The names of the entries of an asset. -/
theorem isName_name : IsName "name".toList :=
  ⟨by decide, Text.forall_mem_of_all (by decide), Text.forall_mem_of_all (by decide),
    Text.forall_mem_of_all (by decide)⟩

theorem isName_recordType : IsName "record_type".toList :=
  ⟨by decide, Text.forall_mem_of_all (by decide), Text.forall_mem_of_all (by decide),
    Text.forall_mem_of_all (by decide)⟩

theorem isName_list : IsName "list".toList :=
  ⟨by decide, Text.forall_mem_of_all (by decide), Text.forall_mem_of_all (by decide),
    Text.forall_mem_of_all (by decide)⟩

/-- The lines of an asset: the entries of its name and its record type, and its list behind a key. -/
theorem assetText_eq (a : Asset) (text : String) (written : a.text = .ok text) :
    ∃ chars, (if a.records.isEmpty then Except.ok " []\n".toList
        else (recordsChars a.records).map ('\n' :: ·)) = .ok chars ∧
      text.toList = (keyChars 0 "name".toList).1 ++
        (scalarChars { column := (keyChars 0 "name".toList).2, indent := 2, folds := true }
          (formOf (.text a.name)) ++ (newLine 0 ++ ((keyChars 0 "record_type".toList).1 ++
        (scalarChars { column := (keyChars 0 "record_type".toList).2, indent := 2, folds := true }
          (formOf (.text a.recordType)) ++ (newLine 0 ++ ("list".toList ++ ':' :: chars)))))) := by
  have nameWritable := writable_text "name" a.name isName_name
  have typeWritable := writable_text "record_type" a.recordType isName_recordType
  unfold Asset.text at written
  rw [Lexing.entryChars_eq 0 _ nameWritable, Lexing.entryChars_eq 0 _ typeWritable] at written
  cases empty : a.records.isEmpty with
  | true =>
    simp only [empty, if_true, bind, Except.bind, pure, Except.pure, Except.ok.injEq] at written
    refine ⟨_, rfl, ?_⟩
    rw [← written, String.toList_ofList]
    simp [newLine]
  | false =>
    cases lines : recordsChars a.records with
    | error e => simp [empty, lines, bind, Except.bind, Except.map] at written
    | ok chars =>
      simp only [empty, lines, Bool.false_eq_true, if_false, Except.map, bind, Except.bind, pure,
        Except.pure, Except.ok.injEq] at written
      refine ⟨_, rfl, ?_⟩
      rw [← written, String.toList_ofList]
      simp [newLine]

/-- A line that starts with a letter ends the values of a mapping at the margin. -/
theorem nextLine_letter (x : Char) (behind : List Char) (solid : isSolid x = true)
    (other : x ≠ '#' ∧ x ≠ '-' ∧ x ≠ '.') : Lexing.NextLine (0 : Nat) 0 (x :: behind) where
  stops y found := by
    cases found
    exact ⟨solid, other.1⟩
  noMark := atDocumentMark_cons x behind other.2.1 other.2.2
  outside := .inl (Int.le_refl _)

/-- The list of an asset is written on the line of its key or below it. -/
theorem endsToken_list (records : List Entries) (chars : List Char)
    (written : (if records.isEmpty then Except.ok " []\n".toList
      else (recordsChars records).map ('\n' :: ·)) = .ok chars) : endsToken chars = true := by
  cases records with
  | nil =>
    cases written
    rfl
  | cons entries records =>
    rw [if_neg (by simp)] at written
    cases inside : recordsChars (entries :: records) with
    | error e => rw [inside] at written; cases written
    | ok lines =>
      rw [inside] at written
      cases written
      rfl

open Lexing in
/-- What stands before the list of an asset: the entries of its name and its record type, and the
key of the list. -/
theorem reaches_heading (a : Asset) (chars : List Char) (size : Nat) (start : Cursor)
    (column : start.column = 0) (ends : endsToken chars = true)
    (rest : start.rest = (keyChars 0 "name".toList).1 ++
      (scalarChars { column := (keyChars 0 "name".toList).2, indent := 2, folds := true }
        (formOf (.text a.name)) ++ (newLine 0 ++ ((keyChars 0 "record_type".toList).1 ++
      (scalarChars { column := (keyChars 0 "record_type".toList).2, indent := 2, folds := true }
        (formOf (.text a.recordType)) ++ (newLine 0 ++ ("list".toList ++ ':' :: chars)))))))
    (room : start.rest.length ≤ size) :
    ∃ last : Cursor, last.rest = chars ∧
      Reaches (block size start [] (-1) [] true [])
        (block size last (.value :: .scalar "list" true :: .key ::
          ((entryTokens ("record_type", .text a.recordType)).reverse ++
            ((entryTokens ("name", .text a.name)).reverse ++ [Token.blockMappingStart]))) 0 [-1]
          false []) := by
  have nameWritable := writable_text "name" a.name isName_name
  have typeWritable := writable_text "record_type" a.recordType isName_recordType
  have typeKey : (keyChars 0 "record_type".toList).1 = "record_type: ".toList := by decide
  have startLine : start.column + 0 = 0 := by rw [column]
  obtain ⟨atType, typeRest, typeColumn, nameReached⟩ := reaches_entry "name".toList _ isName_name
    (formOf (.text a.name)) nameWritable.noMark nameWritable.nonempty 0 0
    (keyChars 0 "name".toList).2 size start [] (-1) [] (by rw [startLine]; decide)
    (by rw [startLine]; decide) (by rw [rest, startLine]; rfl) room (by
      rw [startLine, typeKey]
      exact nextLine_letter 'r' _ (by decide) (by decide))
  rw [startLine] at nameReached
  have typeLine : atType.column + 0 = 0 := by rw [typeColumn]
  have typeRoom := Nat.le_trans nameReached.rest_le room
  obtain ⟨atList, listRest, listColumn, typeReached⟩ := reaches_entry "record_type".toList _
    isName_recordType (formOf (.text a.recordType)) typeWritable.noMark typeWritable.nonempty 0 0
    (keyChars 0 "record_type".toList).2 size atType
    ((entryTokens ("name", .text a.name)).reverse ++ [Token.blockMappingStart]) 0 [-1]
    (by rw [typeLine]; decide) (by rw [typeLine]; decide) (by rw [typeRest, typeLine]; rfl) typeRoom (by
      rw [typeLine]
      exact nextLine_letter 'l' _ (by decide) (by decide))
  rw [typeLine] at typeReached
  have listLine : atList.column + 0 = 0 := by rw [listColumn]
  have listReached := reaches_shortKey "list".toList chars isName_list true 0 size atList
    ((entryTokens ("record_type", .text a.recordType)).reverse ++
      ((entryTokens ("name", .text a.name)).reverse ++ [Token.blockMappingStart])) 0 [-1] (by decide)
    (by rw [listLine]; decide) (by rw [listLine]; decide) listRest ends
    (Nat.le_trans typeReached.rest_le typeRoom)
  rw [listLine] at listReached
  refine ⟨_, ?_, (nameReached.trans typeReached).trans listReached⟩
  rw [rest_steps, listRest]
  rfl

open Lexing in
/-- The text of an asset is cut into the tokens of the asset. -/
theorem tokens_assetText (a : Asset) (text : String) (written : a.text = .ok text)
    (writable : ∀ entries ∈ a.records, ∀ e ∈ entries, Writable e) :
    tokens text.toList = assetTokens a := by
  obtain ⟨chars, listWritten, lines⟩ := assetText_eq a text written
  have nameKey : (keyChars 0 "name".toList).1 = "name: ".toList := by decide
  have notMarked : (text.toList.head? == some byteOrderMark) = false := by
    rw [lines, nameKey]
    rfl
  have begins : ({ size := text.toList.length, cursor := { rest := text.toList } } : Lexing) =
      block text.toList.length { rest := text.toList } [] (-1) [] true [] := rfl
  obtain ⟨atList, listRest, headReached⟩ := reaches_heading a chars text.toList.length
    { rest := text.toList } rfl (endsToken_list a.records chars listWritten) lines (Nat.le_refl _)
  obtain ⟨last, cut, nowOpen, lastRest, same, listReached⟩ := reaches_list a.records chars _ atList _
    writable listWritten listRest headReached.rest_le
  obtain ⟨count, shorter, run⟩ := headReached.trans listReached
  have enough : count ≤ text.toList.length := by
    have start : count + _ ≤ text.toList.length := shorter
    omega
  unfold tokens
  rw [notMarked]
  simp only [Bool.false_eq_true, if_false]
  rw [begins, show text.toList.length + 1 = count + (text.toList.length - count + 1) by omega, run,
    run_end _ _ _ _ _ lastRest, same]
  simp [assetTokens, entryTokens]

end TypedSheets.Yaml
