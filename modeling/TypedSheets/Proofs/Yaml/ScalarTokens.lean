import TypedSheets.Proofs.Yaml.DoubleQuoted
import TypedSheets.Proofs.Yaml.LexingSteps
import TypedSheets.Proofs.Yaml.TextAnalysis

/-!
# Scalars as tokens

A written scalar is cut off as one token, whatever style it was written in: its text is what
the style carries, and it is plain exactly if it was written without quotes. Behind the line end
that follows it the next key may start.
-/

namespace TypedSheets.Yaml

open Cursor

/-- The text that comes back from a style: only single quotes change a text. -/
def readBack (style : ScalarStyle) (cs : List Char) : List Char :=
  match style with
  | .plain => cs
  | .single => carried false cs
  | .double => cs

/-- What a style asks of a text. -/
def Fits (style : ScalarStyle) (cs : List Char) : Prop :=
  match style with
  | .plain => PlainText cs ∧ StartsPlainly cs
  | .single => Quotable cs
  | .double => True

/-- The chosen style fits the text; no quotes are only left out around characters. -/
theorem fits_chooseStyle (bare key : Bool) (cs : List Char) (nonempty : bare = true → cs ≠ []) :
    Fits (chooseStyle bare key (analyze cs)) cs := by
  unfold chooseStyle
  split
  · next plain =>
    simp only [Bool.and_eq_true] at plain
    exact plainText_of_allowsPlain cs (nonempty plain.1.1) plain.1.2
  · split
    · next single =>
      simp only [Bool.and_eq_true] at single
      exact quotable_of_allowsSingle cs single.1
    · trivial

namespace Lexing

/-- The candidates behind a scalar at a cursor, where none waited before. -/
def noted (c : Cursor) (tokens : List Token) (indent : Int) (keyAllowed : Bool) :
    List KeyCandidate :=
  if keyAllowed then
    [{ flow := 0, position := tokens.length, required := indent == c.column, index := c.index
       line := c.line, column := c.column }]
  else []

/-- Where a key may start, the next token is noted as a candidate. -/
theorem noteCandidate_block (size : Nat) (c : Cursor) (tokens : List Token) (indent : Int)
    (outer : List Int) (keyAllowed : Bool) :
    noteCandidate (block size c tokens indent outer keyAllowed []) =
      .ok (block size c tokens indent outer keyAllowed (noted c tokens indent keyAllowed)) := by
  cases keyAllowed <;> rfl

/-- A plain scalar becomes a plain token. -/
theorem plainToken_block (size : Nat) (c last : Cursor) (tokens : List Token) (indent : Int)
    (outer : List Int) (keyAllowed crossed : Bool) (text : List Char)
    (read : readPlain false (indent + 1).toNat (size + 1) c = { text, cursor := last, crossed }) :
    plainToken (block size c tokens indent outer keyAllowed []) =
      .ok (block size last (.scalar (String.ofList text) true :: tokens) indent outer crossed
        (noted c tokens indent keyAllowed)) := by
  unfold plainToken
  rw [noteCandidate_block]
  show Except.ok _ = _
  have read' : readPlain (0 != 0) (indent + 1).toNat (size + 1) c =
      { text, cursor := last, crossed } := read
  simp only [block, read', push, List.length_cons]

/-- A scalar in quotes becomes a token that is not plain. -/
theorem quotedToken_block (double : Bool) (size : Nat) (c last : Cursor) (tokens : List Token)
    (indent : Int) (outer : List Int) (keyAllowed : Bool) (text : List Char)
    (read : readQuoted double (size + 1) c.step = .ok (text, last)) :
    quotedToken double (block size c tokens indent outer keyAllowed []) =
      .ok (block size last (.scalar (String.ofList text) false :: tokens) indent outer false
        (noted c tokens indent keyAllowed)) := by
  unfold quotedToken keyToken
  rw [show (block size c tokens indent outer keyAllowed []).size = size from rfl,
    show (block size c tokens indent outer keyAllowed []).cursor = c from rfl, read,
    noteCandidate_block]
  rfl

/-- A character that opens nothing else may start a plain scalar. -/
theorem startsPlain_of_leading (x : Char) (rest : List Char) (solid : isSolid x = true)
    (leading : isLeadingIndicator x = false)
    (alone : ((x == '?' || x == ':' || x == '-') && endsToken rest) = false) :
    startsPlain false (x :: rest) = true := by
  by_cases mark : x = '?' ∨ x = ':' ∨ x = '-'
  · have marked : (x == '?' || x == ':' || x == '-') = true := by
      rcases mark with rfl | rfl | rfl <;> rfl
    rw [marked, Bool.true_and] at alone
    have third : (x == '-' || (!false && (x == '?' || x == ':'))) = true := by
      rcases mark with rfl | rfl | rfl <;> rfl
    rw [startsPlain, alone, third]
    simp
  · have each : ∀ y ∈ "-?:,[]\x7b\x7d#&*!|>'\"%@`".toList,
        (y = '?' ∨ y = ':' ∨ y = '-') ∨ isLeadingIndicator y = true :=
      Text.forall_mem_of_all (by decide)
    have none : "-?:,[]\x7b\x7d#&*!|>'\"%@`".toList.contains x = false := by
      rw [List.contains_eq_mem, decide_eq_false_iff_not]
      intro present
      rcases each x present with marked | isLeading
      · exact mark marked
      · rw [leading] at isLeading
        cases isLeading
    rw [startsPlain, none]
    simp [isSpace_of_solid solid, isBreak_of_solid solid]

/-- A character that starts no indicator starts a plain scalar. -/
theorem nextToken_plain (s : Lexing) (x : Char) (rest : List Char) (outside : s.flow = 0)
    (solid : isSolid x = true) (leading : isLeadingIndicator x = false)
    (alone : ((x == '?' || x == ':' || x == '-') && endsToken rest) = false)
    (noMark : s.cursor.column ≠ 0 ∨ x ≠ '-' ∧ x ≠ '.') : s.nextToken x rest = s.plainToken := by
  have other : ∀ y, isLeadingIndicator y = true → x ≠ y := by
    rintro y isLeading rfl
    rw [leading] at isLeading
    cases isLeading
  have noDocument (mark : Char) (isMarker : mark = '-' ∨ mark = '.') :
      ¬(s.cursor.column = 0 ∧ isMark mark (x :: rest) = true) := by
    rintro ⟨start, marked⟩
    obtain ⟨noDash, noPoint⟩ := noMark.resolve_left fun inside => inside start
    rcases isMarker with rfl | rfl
    · simp [isMark, List.isPrefixOf, Ne.symm noDash] at marked
    · simp [isMark, List.isPrefixOf, Ne.symm noPoint] at marked
  have noDash : ¬(x = '-' ∧ endsToken rest = true) := by
    rintro ⟨rfl, ends⟩
    simp [ends] at alone
  have noQuestion : ¬(x = '?' ∧ endsToken rest = true) := by
    rintro ⟨rfl, ends⟩
    simp [ends] at alone
  have noColon : ¬(x = ':' ∧ endsToken rest = true) := by
    rintro ⟨rfl, ends⟩
    simp [ends] at alone
  have starts := startsPlain_of_leading x rest solid leading alone
  simp [nextToken, outside, other '%' (by decide), other '[' (by decide), other ']' (by decide),
    other '\x7b' (by decide), other '\x7d' (by decide), other ',' (by decide),
    other '*' (by decide), other '&' (by decide), other '!' (by decide), other '|' (by decide),
    other '>' (by decide), other '\'' (by decide), other '"' (by decide), noDocument, noDash,
    noQuestion, noColon, starts]

/-- A quote starts a scalar in quotes. -/
theorem nextToken_quote (s : Lexing) (double : Bool) (rest : List Char) :
    s.nextToken (quoteOf double) rest = s.quotedToken double := by
  cases double <;> simp [nextToken, quoteOf, isMark, List.isPrefixOf]

/-- Where a scalar ends no quote follows. -/
theorem head_ne_quote_of_ended (behind : List Char) (ended : plainRun false behind = []) :
    behind.head? ≠ some '\'' := by
  cases behind with
  | nil => simp
  | cons x behind =>
    rw [List.head?_cons]
    intro found
    cases found
    simp [plainRun, isSpace, isBreak] at ended

/-- What is written plainly starts with the first character of the text, which starts a plain
scalar there. -/
theorem exists_plainStart (site : Site) (cs behind : List Char) (plain : PlainText cs)
    (starts : StartsPlainly cs) :
    ∃ x more, writePlain site site.column cs ++ behind = x :: more ∧ cs.head? = some x ∧
      isSolid x = true ∧ isLeadingIndicator x = false ∧
      ((x == '?' || x == ':' || x == '-') && endsToken more) = false := by
  obtain ⟨x, tail, more, text, written, inside⟩ := (laid_writePlain site site.column cs plain).start
  have first : cs.head? = some x := by rw [text]; rfl
  have present : x ∈ cs := List.mem_of_head? first
  obtain ⟨leading, alone⟩ := starts x tail text
  have notSpace : x ≠ ' ' := by
    rintro rfl
    exact plain.first first
  have solid := (solid_of_ordinary x (plain.ordinary x present) notSpace (plain.oneLine x present)).1
  refine ⟨x, more ++ behind, by rw [written]; rfl, first, solid, leading, ?_⟩
  cases blank : endsToken tail with
  | false => rw [inside blank behind, Bool.and_false]
  | true =>
    rw [blank, Bool.and_true] at alone
    rw [alone, Bool.false_and]

/-- What is written for a text is never empty. -/
theorem length_writeStyled_pos (site : Site) (style : ScalarStyle) (cs : List Char)
    (fits : Fits style cs) : 0 < (writeStyled site style cs).length := by
  cases style with
  | plain =>
    obtain ⟨x, more, written, -⟩ := exists_plainStart site cs [] fits.1 fits.2
    rw [List.append_nil] at written
    rw [writeStyled, written]
    exact Nat.succ_pos _
  | single => simp [writeStyled]
  | double => simp [writeStyled]

/-- A plain scalar is cut off with the gap behind it. -/
theorem cutsOff_plain (site : Site) (cs behind : List Char) (size : Nat) (c last : Cursor)
    (tokens : List Token) (indent : Int) (outer : List Int) (keyAllowed crossed : Bool)
    (plain : PlainText cs) (starts : StartsPlainly cs) (indented : 1 ≤ site.indent)
    (deep : (indent + 1).toNat ≤ site.indent) (column : (indent + 1).toNat ≤ c.column ∨ IsWord cs)
    (noMark : c.column ≠ 0 ∨ ∀ x, cs.head? = some x → x ≠ '-' ∧ x ≠ '.')
    (rest : c.rest = writePlain site site.column cs ++ behind) (room : c.rest.length ≤ size)
    (ends : PlainEnd (indent + 1).toNat (steps (writePlain site site.column cs).length c) last
      crossed) :
    CutsOff (block size c tokens indent outer keyAllowed [])
      (block size last (.scalar (String.ofList cs) true :: tokens) indent outer crossed
        (noted c tokens indent keyAllowed)) := by
  obtain ⟨x, more, written, first, solid, leading, alone⟩ := exists_plainStart site cs behind plain starts
  have noComment : x ≠ '#' := by
    rintro rfl
    exact absurd leading (by decide)
  have read := readPlain_laid site.indent (indent + 1).toNat cs _ behind
    (laid_writePlain site site.column cs plain) indented deep c last crossed (size + 1) column rest
    (by omega) ends
  refine ⟨x, more, rest.trans written, ⟨solid, noComment⟩, ?_⟩
  rw [nextToken_plain _ x more rfl solid leading alone (noMark.imp_right fun marks => marks x first)]
  exact plainToken_block size c last tokens indent outer keyAllowed crossed cs read

/-- A scalar in quotes is cut off behind the closing quote, with the text that is read between the
quotes. -/
theorem cutsOff_quoted (double : Bool) (inner text behind : List Char) (size : Nat) (c : Cursor)
    (tokens : List Token) (indent : Int) (outer : List Int) (keyAllowed : Bool)
    (rest : c.rest = quoteOf double :: inner ++ [quoteOf double] ++ behind)
    (read : c.step.rest = inner ++ quoteOf double :: behind →
      readQuoted double (size + 1) c.step = .ok (text, steps (inner.length + 1) c.step)) :
    CutsOff (block size c tokens indent outer keyAllowed [])
      (block size (steps (quoteOf double :: inner ++ [quoteOf double]).length c)
        (.scalar (String.ofList text) false :: tokens) indent outer false
        (noted c tokens indent keyAllowed)) := by
  have here : c.rest = quoteOf double :: (inner ++ quoteOf double :: behind) := by
    rw [rest]
    simp
  have inside : c.step.rest = inner ++ quoteOf double :: behind := by
    rw [rest_step, here]
    rfl
  have behindQuote : steps (quoteOf double :: inner ++ [quoteOf double]).length c =
      steps (inner.length + 1) c.step := by
    rw [List.length_append, List.length_cons, List.length_singleton]
    rfl
  refine ⟨quoteOf double, _, here, by cases double <;> decide, ?_⟩
  rw [nextToken_quote, behindQuote]
  exact quotedToken_block double size c _ tokens indent outer keyAllowed text (read inside)

/-- A written scalar is cut off as a token with the text that its style carries. In quotes it ends
behind the closing quote; a plain one also takes the gap behind it. -/
theorem cutsOff_scalar (site : Site) (style : ScalarStyle) (cs behind : List Char) (size : Nat)
    (c last : Cursor) (tokens : List Token) (indent : Int) (outer : List Int)
    (keyAllowed crossed : Bool) (fits : Fits style cs) (indented : 1 ≤ site.indent)
    (narrow : site.indent < lineWidth) (deep : (indent + 1).toNat ≤ site.indent)
    (column : (indent + 1).toNat ≤ c.column ∨ IsWord cs)
    (noMark : c.column ≠ 0 ∨ ∀ x, cs.head? = some x → x ≠ '-' ∧ x ≠ '.')
    (rest : c.rest = writeStyled site style cs ++ behind) (room : c.rest.length ≤ size)
    (ends : PlainEnd (indent + 1).toNat (steps (writeStyled site style cs).length c) last crossed) :
    CutsOff (block size c tokens indent outer keyAllowed [])
      (block size (if style = .plain then last else steps (writeStyled site style cs).length c)
        (.scalar (String.ofList (readBack style cs)) (style == .plain) :: tokens) indent outer
        (style == .plain && crossed) (noted c tokens indent keyAllowed)) := by
  have ended : plainRun false behind = [] := by
    rw [← rest_steps_append c _ behind rest]
    exact ends.ended
  have shorter : (writeStyled site style cs).length ≤ size := by
    rw [rest, List.length_append] at room
    omega
  cases style with
  | plain =>
    exact cutsOff_plain site cs behind size c last tokens indent outer keyAllowed crossed fits.1 fits.2
      indented deep column noMark rest room ends
  | single =>
    have width : (writeSingle site (cs.length + 1) true (site.column + 1) cs).length < size + 1 := by
      simp only [writeStyled, List.length_append, List.length_cons] at shorter
      omega
    exact cutsOff_quoted false _ _ behind size c tokens indent outer keyAllowed rest fun inside =>
      readQuoted_writeSingle site indented (cs.length + 1) true (site.column + 1) cs behind c.step
        (size + 1) (by omega) fits (head_ne_quote_of_ended behind ended) inside width
  | double =>
    have width : (writeDouble site true (site.column + 1) 0 cs).length < size + 1 := by
      simp only [writeStyled, List.length_append, List.length_cons] at shorter
      omega
    exact cutsOff_quoted true _ _ behind size c tokens indent outer keyAllowed rest fun inside =>
      (readsBack site indented narrow cs).1 true (site.column + 1) 0 c.step behind (size + 1) inside
        width

/-- A written scalar behind spaces is cut off. -/
theorem reaches_scalar (site : Site) (style : ScalarStyle) (cs behind : List Char)
    (gap size : Nat) (c last : Cursor) (tokens : List Token) (indent : Int) (outer : List Int)
    (keyAllowed crossed : Bool) (fits : Fits style cs) (indented : 1 ≤ site.indent)
    (narrow : site.indent < lineWidth) (deep : (indent + 1).toNat ≤ site.indent)
    (inside : indent ≤ (c.column + gap : Nat))
    (column : (indent + 1).toNat ≤ c.column + gap ∨ IsWord cs)
    (noMark : c.column + gap ≠ 0 ∨ ∀ x, cs.head? = some x → x ≠ '-' ∧ x ≠ '.')
    (rest : c.rest = List.replicate gap ' ' ++ (writeStyled site style cs ++ behind))
    (room : c.rest.length ≤ size)
    (ends : PlainEnd (indent + 1).toNat (steps (writeStyled site style cs).length (steps gap c)) last
      crossed)
    (onward : last.rest.length ≤ behind.length) :
    Reaches (block size c tokens indent outer keyAllowed [])
      (block size
        (if style = .plain then last else steps (writeStyled site style cs).length (steps gap c))
        (.scalar (String.ofList (readBack style cs)) (style == .plain) :: tokens) indent outer
        (style == .plain && crossed) (noted (steps gap c) tokens indent keyAllowed)) := by
  have arrived := steps_spaces c gap _ rest
  have start : (steps gap c).rest = writeStyled site style cs ++ behind := by rw [arrived]
  have width : (steps gap c).column = c.column + gap := by rw [arrived]
  have shorter : (steps gap c).rest.length ≤ size := by
    rw [rest, List.length_append] at room
    rw [start]
    omega
  have token := cutsOff_scalar site style cs behind size (steps gap c) last tokens indent outer
    keyAllowed crossed fits indented narrow deep (by rw [width]; exact column)
    (by rw [width]; exact noMark) start shorter ends
  refine token.reaches gap _ rest (by simp) inside ?_
  have written := length_writeStyled_pos site style cs fits
  rw [List.length_append]
  show (if style = .plain then last
    else steps (writeStyled site style cs).length (steps gap c)).rest.length < _
  split
  · omega
  · rw [rest_steps_append (steps gap c) _ behind start]
    omega

/-- The line behind a value: it is not indented further than the block around the value, or it
is the end of the text, and it does not separate documents. -/
structure NextLine (indent : Int) (count : Nat) (behind : List Char) : Prop where
  stops : StopsBlanks behind
  noMark : atDocumentMark (List.replicate count ' ' ++ behind) = false
  outside : (count : Int) ≤ indent ∨ behind = []

/-- Such a line ends a plain scalar before it. -/
theorem plainEnd_newLine (indent : Int) (c : Cursor) (count : Nat) (behind : List Char)
    (rest : c.rest = newLine count ++ behind) (next : NextLine indent count behind) :
    PlainEnd (indent + 1).toNat c (steps (count + 1) c) true := by
  have stops : ∀ x, behind.head? = some x → x ≠ ' ' ∧ isBreak x = false := fun x found =>
    ⟨ne_space_of_solid (next.stops x found).1, isBreak_of_solid (next.stops x found).1⟩
  have arrived := steps_newLine c '\n' count behind (by decide) rest
  refine ⟨?_, [' '], fun fuel enough => ?_, ?_⟩
  · rw [rest]
    exact plainRun_blank '\n' _ (.inr (by decide))
  · refine plainGap_newLine fuel count c behind ?_ rest next.noMark stops
    rw [rest] at enough
    simp only [newLine, List.length_append, List.length_cons, List.length_replicate] at enough
    omega
  · rcases next.outside with left | none
    · have shallow : count < (indent + 1).toNat := by omega
      simp [arrived, shallow]
    · simp [arrived, none, plainRun]

/-- A candidate is noted where its token starts. -/
theorem place_of_noted (c : Cursor) (tokens : List Token) (indent : Int) (keyAllowed : Bool) :
    ∀ k ∈ noted c tokens indent keyAllowed, k.flow = 0 ∧ k.line = c.line ∧ k.index = c.index := by
  intro k present
  cases keyAllowed with
  | false => cases present
  | true =>
    rw [List.mem_singleton.mp present]
    exact ⟨rfl, rfl, rfl⟩

/-- Inside a block no candidate has to be a key. -/
theorem optional_noted (c : Cursor) (tokens : List Token) (indent : Int) (keyAllowed : Bool)
    (inside : indent < c.column) :
    ∀ k ∈ noted c tokens indent keyAllowed, k.required = false := by
  intro k present
  cases keyAllowed with
  | false => cases present
  | true =>
    have different : indent ≠ c.column := by omega
    rw [List.mem_singleton.mp present]
    exact beq_false_of_ne different

/-- A value and the line end behind it are cut off as one token, and the next line starts anew. -/
theorem reaches_value (site : Site) (style : ScalarStyle) (cs behind : List Char)
    (gap count size : Nat) (c : Cursor) (tokens : List Token) (indent : Int) (outer : List Int)
    (keyAllowed : Bool) (fits : Fits style cs) (indented : 1 ≤ site.indent)
    (narrow : site.indent < lineWidth) (deep : (indent + 1).toNat ≤ site.indent)
    (inside : 0 ≤ indent) (column : indent < c.column + gap)
    (rest : c.rest =
      List.replicate gap ' ' ++ (writeStyled site style cs ++ (newLine count ++ behind)))
    (room : c.rest.length ≤ size) (next : NextLine indent count behind) :
    Reaches (block size c tokens indent outer keyAllowed [])
      (block size (steps (gap + ((writeStyled site style cs).length + (count + 1))) c)
        (.scalar (String.ofList (readBack style cs)) (style == .plain) :: tokens) indent outer true
        []) := by
  have arrived := steps_spaces c gap _ rest
  have atEnd : (steps (writeStyled site style cs).length (steps gap c)).rest = newLine count ++ behind :=
    rest_steps_append _ _ _ (by rw [arrived])
  have atNext := steps_newLine _ '\n' count behind (by decide) atEnd
  have token := reaches_scalar site style cs (newLine count ++ behind) gap size c _ tokens indent outer
    keyAllowed true fits indented narrow deep (by omega) (.inl (by omega)) (.inl (by omega)) rest room
    (plainEnd_newLine indent _ count behind atEnd next) (by rw [atNext]; simp)
  have optional := optional_noted (steps gap c) tokens indent keyAllowed (by
    rw [arrived]
    show indent < ((c.column + gap : Nat) : Int)
    omega)
  have onLine := line_le_steps (writeStyled site style cs).length (steps gap c)
  rw [steps_add, steps_add]
  refine token.trans ?_
  by_cases plain : style = .plain
  · rw [if_pos plain, plain]
    refine reaches_here size _ _ indent outer true _ (by rw [← plain, atNext]; exact next.stops) ?_
    intro k present
    obtain ⟨-, line, -⟩ := place_of_noted _ _ _ _ k present
    rw [← plain, atNext]
    exact ⟨by simp only; omega, optional k present⟩
  · rw [if_neg plain]
    refine reaches_newLine count size _ _ indent outer _ _ behind atEnd next.stops ?_ ?_
    · rw [rest, List.length_append, List.length_append, List.length_append, newLine] at room
      simp only [List.length_cons] at room
      omega
    · intro k present
      obtain ⟨-, line, -⟩ := place_of_noted _ _ _ _ k present
      exact ⟨by omega, optional k present⟩

end Lexing

end TypedSheets.Yaml
