import Mathlib.Tactic.SplitIfs
import TypedSheets.Proofs.Yaml.QuotedScalars

/-!
# Plain scalars read back

A plain scalar is laid out as words with spaces between them, where a single space may be a
new line instead. A reader takes a word, looks at the gap behind it, and goes on while another
word follows that is indented far enough.
-/

namespace TypedSheets.Yaml

open Cursor

/-- A run of solid characters of one column each that a colon does not end. -/
structure IsWord (word : List Char) : Prop where
  nonempty : word ≠ []
  solid : ∀ x ∈ word, isSolid x = true
  inline : ∀ x ∈ word, isInline x = true
  noColon : word.getLast? ≠ some ':'

/-- A solid character is no space. -/
theorem ne_space_of_solid {x : Char} (solid : isSolid x = true) : x ≠ ' ' := by
  rintro rfl
  exact absurd solid (by decide)

/-- A solid character does not end a token. -/
theorem endsToken_solid {x : Char} (rest : List Char) (solid : isSolid x = true) :
    endsToken (x :: rest) = false := by
  simp [endsToken, isSpace_of_solid solid, isBreak_of_solid solid]

/-- A word is read up to where no plain character follows. -/
theorem plainRun_word (word behind : List Char) (solid : ∀ x ∈ word, isSolid x = true)
    (noColon : word.getLast? ≠ some ':') (ended : plainRun false behind = []) :
    plainRun false (word ++ behind) = word := by
  induction word with
  | nil => exact ended
  | cons x word inductionHypothesis =>
    have first := solid x List.mem_cons_self
    have remains := inductionHypothesis (fun y present => solid y (List.mem_cons_of_mem x present))
      (by cases word with
        | nil => simp
        | cons y word => rwa [List.getLast?_cons_cons] at noColon)
    have inside : (x == ':' && (endsToken (word ++ behind) || (false &&
        (word ++ behind).head?.any isFlowIndicator))) = false := by
      cases word with
      | nil =>
        have different : x ≠ ':' := by simpa using noColon
        simp [different]
      | cons y word =>
        have next := endsToken_solid (word ++ behind) (solid y (by simp))
        simp [next]
    rw [List.cons_append, plainRun, if_neg (by simp [isSpace_of_solid first, isBreak_of_solid first]),
      if_neg (by rw [inside]; decide), if_neg (by simp), remains]

/-- Blanks end the run of a word. -/
theorem plainRun_blank (x : Char) (rest : List Char) (blank : x = ' ' ∨ isBreak x = true) :
    plainRun false (x :: rest) = [] := by
  have ends : (isSpace x || isBreak x) = true := by
    rcases blank with rfl | ends
    · rfl
    · simp [ends]
  rw [plainRun, if_pos ends]

/-- Spaces between words are a gap that stays; there may be none at the end. -/
theorem plainGap_spaces (fuel count : Nat) (c : Cursor) (x : Char) (behind : List Char)
    (rest : c.rest = List.replicate count ' ' ++ x :: behind) (solid : isSolid x = true) :
    plainGap fuel c =
      { text := List.replicate count ' ', cursor := steps count c, crossed := false } := by
  have accepted : ∀ y ∈ List.replicate count ' ', (y == ' ') = true := fun y present => by
    simp [List.eq_of_mem_replicate present]
  have refused : ∀ y, (x :: behind).head? = some y → (y == ' ') = false := by
    intro y found
    cases found
    exact beq_false_of_ne (ne_space_of_solid solid)
  have run := run_eq c (· == ' ') _ _ rest accepted refused
  have skipped : c.skipSpaces = steps (List.replicate count ' ').length c :=
    skip_eq c (· == ' ') _ _ rest accepted refused
  rw [List.length_replicate] at skipped
  have arrived := rest_steps_spaces c count (x :: behind) rest
  simp [plainGap, run, skipped, arrived, isBreak_of_solid solid]

/-- Behind a line end the spaces of the next line are passed. -/
theorem gapBreaks_spaces (fuel count : Nat) (c : Cursor) (behind : List Char)
    (enough : count ≤ fuel) (rest : c.rest = List.replicate count ' ' ++ behind)
    (stops : ∀ x, behind.head? = some x → x ≠ ' ' ∧ isBreak x = false) :
    gapBreaks fuel c = (some [], steps count c) := by
  induction count generalizing fuel c with
  | zero =>
    cases fuel with
    | zero => rfl
    | succ fuel =>
      cases behind with
      | nil => simp [gapBreaks, show c.rest = [] from rest, steps]
      | cons x behind =>
        obtain ⟨notSpace, noBreak⟩ := stops x rfl
        simp [gapBreaks, show c.rest = x :: behind from rest, notSpace, noBreak, steps]
  | succ count inductionHypothesis =>
    cases fuel with
    | zero => omega
    | succ fuel =>
      have next : c.step.rest = List.replicate count ' ' ++ behind := by
        rw [rest_step, rest]
        rfl
      have further := inductionHypothesis fuel c.step (by omega) next
      rw [List.replicate_succ, List.cons_append] at rest
      simp [gapBreaks, rest, further, steps]

/-- A new line is a gap that is read as one space and ends before the next line's text. -/
theorem plainGap_newLine (fuel count : Nat) (c : Cursor) (behind : List Char)
    (enough : count ≤ fuel) (rest : c.rest = newLine count ++ behind)
    (noMark : atDocumentMark (List.replicate count ' ' ++ behind) = false)
    (stops : ∀ x, behind.head? = some x → x ≠ ' ' ∧ isBreak x = false) :
    plainGap fuel c = { text := [' '], cursor := steps (count + 1) c, crossed := true } := by
  have here : c.rest = '\n' :: (List.replicate count ' ' ++ behind) := rest
  have refused : ∀ y, c.rest.head? = some y → (y == ' ') = false := by
    intro y found
    rw [here] at found
    cases found
    rfl
  have stays : c.skipSpaces = c := skip_refused c (· == ' ') refused
  have next : c.step.rest = List.replicate count ' ' ++ behind := by
    rw [rest_step, here]
    rfl
  have passed := gapBreaks_spaces fuel count c.step behind enough next stops
  simp [plainGap, stays, here, show isBreak '\n' = true by decide, noMark, passed, foldBreaks,
    breakChar, steps]

/-- A text and how it is laid out: each gap between words as it is, or a single space as a
new line. Behind a gap no number sign may stand, which would start a comment. -/
inductive Laid (indent : Nat) : List Char → List Char → Prop
  | word {word} : IsWord word → Laid indent word word
  | spaces {word text written} (count : Nat) : IsWord word → Laid indent text written →
      text.head? ≠ some '#' →
      Laid indent (word ++ (List.replicate (count + 1) ' ' ++ text))
        (word ++ (List.replicate (count + 1) ' ' ++ written))
  | newLine {word text written} : IsWord word → Laid indent text written →
      text.head? ≠ some '#' →
      Laid indent (word ++ ([' '] ++ text)) (word ++ (newLine indent ++ written))

/-- What is laid out starts with the first word of the text, and the run of that word ends
where the word does. -/
theorem Laid.first {indent : Nat} {text written : List Char} (laid : Laid indent text written)
    (behind : List Char) (ended : plainRun false behind = []) :
    ∃ x word tail, written ++ behind = (x :: word) ++ tail ∧ text.head? = some x ∧
      isSolid x = true ∧ plainRun false ((x :: word) ++ tail) = x :: word := by
  have wordFirst (word tail : List Char) (isWord : IsWord word)
      (stops : plainRun false tail = []) :
      ∃ x more, word = x :: more ∧ isSolid x = true ∧ plainRun false (word ++ tail) = word := by
    cases word with
    | nil => exact absurd rfl isWord.nonempty
    | cons x more =>
      exact ⟨x, more, rfl, isWord.solid x List.mem_cons_self,
        plainRun_word _ _ isWord.solid isWord.noColon stops⟩
  cases laid with
  | word isWord =>
    obtain ⟨x, more, rfl, solid, run⟩ := wordFirst _ behind isWord ended
    exact ⟨x, more, behind, rfl, rfl, solid, run⟩
  | spaces count isWord further _ =>
    obtain ⟨x, more, rfl, solid, run⟩ := wordFirst _ _ isWord (plainRun_blank ' ' _ (.inl rfl))
    exact ⟨x, more, _, by rw [List.append_assoc]; rfl, rfl, solid, run⟩
  | newLine isWord further _ =>
    obtain ⟨x, more, rfl, solid, run⟩ := wordFirst _ _ isWord (plainRun_blank '\n' _ (.inr rfl))
    exact ⟨x, more, _, by rw [List.append_assoc]; rfl, rfl, solid, run⟩

/-- The end of a plain scalar at a cursor: the gap there is followed by nothing that goes on
with the scalar. -/
structure PlainEnd (required : Nat) (c last : Cursor) (crossed : Bool) : Prop where
  ended : plainRun false c.rest = []
  gap : ∃ text, (∀ fuel, c.rest.length ≤ fuel →
      plainGap fuel c = { text, cursor := last, crossed }) ∧
    (text.isEmpty || last.rest.head? == some '#' || (!false && decide (last.column < required)) ||
      (plainRun false last.rest).isEmpty) = true

/-- The layout starts with the first character of the text, and where no blank follows it in the
text, none follows it in the layout. -/
theorem Laid.start {indent : Nat} {text written : List Char} (laid : Laid indent text written) :
    ∃ x rest more, text = x :: rest ∧ written = x :: more ∧
      (endsToken rest = false → ∀ behind, endsToken (more ++ behind) = false) := by
  have wordStart (word gap other : List Char) (isWord : IsWord word) (ends : endsToken gap = true) :
      ∃ x rest more, word ++ gap = x :: rest ∧ word ++ other = x :: more ∧
        (endsToken rest = false → ∀ behind, endsToken (more ++ behind) = false) := by
    cases word with
    | nil => exact absurd rfl isWord.nonempty
    | cons x word =>
      refine ⟨x, word ++ gap, word ++ other, rfl, rfl, fun inside behind => ?_⟩
      cases word with
      | nil => rw [List.nil_append, ends] at inside; cases inside
      | cons y word => exact inside
  cases laid with
  | word isWord => simpa only [List.append_nil] using wordStart text [] [] isWord rfl
  | spaces count isWord _ _ => exact wordStart _ _ _ isWord rfl
  | newLine isWord _ _ => exact wordStart _ _ _ isWord rfl

/-- A scalar of one word ends with it. -/
theorem readPlain_word (required fuel : Nat) (c last : Cursor) (word behind : List Char)
    (crossed : Bool) (isWord : IsWord word) (rest : c.rest = word ++ behind)
    (enough : c.rest.length < fuel) (ends : PlainEnd required (steps word.length c) last crossed) :
    readPlain false required fuel c = { text := word, cursor := last, crossed } := by
  obtain ⟨fuel, rfl⟩ : ∃ less, fuel = less + 1 := ⟨fuel - 1, by omega⟩
  obtain ⟨gap, found, stops⟩ := ends.gap
  have atEnd := rest_steps_append c word behind rest
  have run : plainRun false c.rest = word := by
    rw [rest]
    exact plainRun_word word behind isWord.solid isWord.noColon (by rw [← atEnd]; exact ends.ended)
  have shorter : (steps word.length c).rest.length ≤ fuel := by
    rw [atEnd]
    rw [rest, List.length_append] at enough
    omega
  simp only [readPlain, run, found fuel shorter, stops, if_true]

/-- A scalar goes on behind a gap, where the layout of a further text stands. -/
theorem readPlain_gap (indent required fuel : Nat) (c : Cursor) (word gap text written : List Char)
    (last next : Cursor) (crossed passed : Bool) (after behind : List Char) (isWord : IsWord word)
    (rest : c.rest = word ++ after) (ended : plainRun false after = []) (nonempty : gap ≠ [])
    (found : plainGap fuel (steps word.length c) = { text := gap, cursor := next, crossed := passed })
    (deep : required ≤ next.column) (laid : Laid indent text written)
    (noComment : text.head? ≠ some '#') (arrived : next.rest = written ++ behind)
    (stops : plainRun false behind = [])
    (further : readPlain false required fuel next = { text, cursor := last, crossed }) :
    readPlain false required (fuel + 1) c =
      { text := word ++ (gap ++ text), cursor := last, crossed } := by
  obtain ⟨x, first, tail, start, head, solid, nextRun⟩ := laid.first behind stops
  have run : plainRun false c.rest = word := by
    rw [rest]
    exact plainRun_word word after isWord.solid isWord.noColon ended
  have goesOn : plainRun false next.rest ≠ [] := by
    rw [arrived, start, nextRun]
    exact List.cons_ne_nil x first
  have opensNoComment : next.rest.head? ≠ some '#' := by
    rw [arrived, start, List.cons_append, List.head?_cons, ← head]
    exact noComment
  have continues : (gap.isEmpty || next.rest.head? == some '#' ||
      (!false && decide (next.column < required)) || (plainRun false next.rest).isEmpty) = false := by
    have notShallow : ¬next.column < required := by omega
    simp [nonempty, opensNoComment, notShallow, goesOn]
  simp only [readPlain, run, found, continues, Bool.false_eq_true, if_false, further,
    List.append_assoc]

/-- Spaces between words stay in the text. -/
theorem readPlain_spaces (indent required count fuel : Nat) (c last : Cursor)
    (word text written behind : List Char) (crossed : Bool) (isWord : IsWord word)
    (laid : Laid indent text written) (noComment : text.head? ≠ some '#')
    (rest : c.rest = word ++ (List.replicate (count + 1) ' ' ++ (written ++ behind)))
    (deep : required ≤ (steps (count + 1) (steps word.length c)).column)
    (stops : plainRun false behind = [])
    (further : readPlain false required fuel (steps (count + 1) (steps word.length c)) =
      { text, cursor := last, crossed }) :
    readPlain false required (fuel + 1) c =
      { text := word ++ (List.replicate (count + 1) ' ' ++ text), cursor := last, crossed } := by
  obtain ⟨x, first, tail, start, -, solid, -⟩ := laid.first behind stops
  have atGap := rest_steps_append c word _ rest
  have arrived := rest_steps_spaces (steps word.length c) (count + 1) (written ++ behind) atGap
  have found := plainGap_spaces fuel (count + 1) (steps word.length c) x (first ++ tail)
    (by rw [atGap, start]; rfl) solid
  exact readPlain_gap indent required fuel c word _ text written last _ crossed _ _ behind isWord rest
    (plainRun_blank ' ' _ (.inl rfl)) (by simp) found deep laid noComment arrived stops further

/-- A new line between words is read as one space. -/
theorem readPlain_newLine (indent required fuel : Nat) (c last : Cursor)
    (word text written behind : List Char) (crossed : Bool) (indented : 1 ≤ indent)
    (isWord : IsWord word) (laid : Laid indent text written) (noComment : text.head? ≠ some '#')
    (rest : c.rest = word ++ (newLine indent ++ (written ++ behind))) (enough : indent ≤ fuel)
    (deep : required ≤ indent) (stops : plainRun false behind = [])
    (further : readPlain false required fuel (steps (indent + 1) (steps word.length c)) =
      { text, cursor := last, crossed }) :
    readPlain false required (fuel + 1) c =
      { text := word ++ ([' '] ++ text), cursor := last, crossed } := by
  obtain ⟨x, first, tail, start, -, solid, -⟩ := laid.first behind stops
  have atGap := rest_steps_append c word _ rest
  have behindGap := steps_newLine (steps word.length c) '\n' indent (written ++ behind) (by decide)
    atGap
  have noMark : atDocumentMark (List.replicate indent ' ' ++ (written ++ behind)) = false := by
    obtain ⟨more, rfl⟩ : ∃ more, indent = more + 1 := ⟨indent - 1, by omega⟩
    exact atDocumentMark_of_blank ' ' _ (.inl rfl)
  have goesOn : ∀ y, (written ++ behind).head? = some y → y ≠ ' ' ∧ isBreak y = false := by
    intro y found
    rw [start] at found
    cases found
    exact ⟨ne_space_of_solid solid, isBreak_of_solid solid⟩
  have found := plainGap_newLine fuel indent (steps word.length c) _ enough atGap noMark goesOn
  exact readPlain_gap indent required fuel c word [' '] text written last _ crossed _ _ behind isWord
    rest (plainRun_blank '\n' _ (.inr rfl)) (by simp) found (by rw [behindGap]; exact deep) laid
    noComment (by rw [behindGap]) stops further

/-- Reading a plain scalar gives the text that was laid out, up to the end of the scalar. Only
where there is more than one word does the column matter. The induction is on the layout: each
of its words and gaps is one step of the reader. -/
theorem readPlain_laid (indent required : Nat) (text written behind : List Char)
    (laid : Laid indent text written) (indented : 1 ≤ indent) (deep : required ≤ indent)
    (c last : Cursor) (crossed : Bool) (fuel : Nat) (column : required ≤ c.column ∨ IsWord text)
    (rest : c.rest = written ++ behind) (enough : c.rest.length < fuel)
    (ends : PlainEnd required (steps written.length c) last crossed) :
    readPlain false required fuel c = { text, cursor := last, crossed } := by
  have ended : plainRun false behind = [] := by
    rw [← rest_steps_append c written behind rest]
    exact ends.ended
  induction laid generalizing c fuel with
  | @word word isWord =>
    exact readPlain_word required fuel c last word behind crossed isWord rest enough ends
  | @spaces word text written count isWord further noComment inductionHypothesis =>
    obtain ⟨fuel, rfl⟩ : ∃ less, fuel = less + 1 := ⟨fuel - 1, by omega⟩
    have column : required ≤ c.column := column.resolve_right fun whole =>
      ne_space_of_solid (whole.solid ' ' (by simp)) rfl
    have here : c.rest = word ++ (List.replicate (count + 1) ' ' ++ (written ++ behind)) := by
      rw [rest, List.append_assoc, List.append_assoc]
    have atGap := steps_inline c word _ here isWord.inline
    have behindGap := steps_spaces (steps word.length c) (count + 1) (written ++ behind)
      (by rw [atGap])
    have tailColumn : required ≤ (steps (count + 1) (steps word.length c)).column := by
      rw [behindGap, atGap]
      show required ≤ c.column + word.length + (count + 1)
      omega
    have whole : steps (word ++ (List.replicate (count + 1) ' ' ++ written)).length c =
        steps written.length (steps (count + 1) (steps word.length c)) := by
      rw [List.length_append, steps_add, List.length_append, List.length_replicate, steps_add]
    rw [whole] at ends
    refine readPlain_spaces indent required count fuel c last word text written behind crossed isWord
      further noComment here tailColumn ended (inductionHypothesis _ fuel (.inl tailColumn) ?_ ?_ ends)
    · rw [behindGap]
    · rw [here, List.length_append, List.length_append, List.length_replicate] at enough
      rw [behindGap]
      simp only
      omega
  | @newLine word text written isWord further noComment inductionHypothesis =>
    obtain ⟨fuel, rfl⟩ : ∃ less, fuel = less + 1 := ⟨fuel - 1, by omega⟩
    have here : c.rest = word ++ (newLine indent ++ (written ++ behind)) := by
      rw [rest, List.append_assoc, List.append_assoc]
    have behindGap := steps_newLine (steps word.length c) '\n' indent (written ++ behind) (by decide)
      (rest_steps_append c word _ here)
    have width : (newLine indent).length = indent + 1 := by simp [newLine]
    have whole : steps (word ++ (newLine indent ++ written)).length c =
        steps written.length (steps (indent + 1) (steps word.length c)) := by
      rw [List.length_append, steps_add, List.length_append, width, steps_add]
    rw [whole] at ends
    rw [here, List.length_append, List.length_append, width] at enough
    refine readPlain_newLine indent required fuel c last word text written behind crossed indented
      isWord further noComment here (by omega) deep ended
      (inductionHypothesis _ fuel (.inl ?_) ?_ ?_ ends)
    · rw [behindGap]
      exact deep
    · rw [behindGap]
    · rw [behindGap]
      simp only
      omega

end TypedSheets.Yaml
