import Mathlib.Data.List.TakeWhile
import TypedSheets.Proofs.Yaml.CursorSteps
import TypedSheets.Yaml.Scalar
import TypedSheets.Yaml.ScalarText

/-!
# Reading inside quotes

What one step of the reader of quoted scalars does: a character that means itself, blanks
within a line, and line ends with the indentation behind them. The readers of both kinds of
quotes take these steps; they differ in what a quote or a backslash does.
-/

namespace TypedSheets.Yaml

open Cursor

/-- A character that neither separates nor ends anything inside quotes. -/
def isSolid (c : Char) : Bool := !isSpace c && !isBreak c

theorem isSpace_of_solid {x : Char} (solid : isSolid x = true) : isSpace x = false := by
  simp only [isSolid, Bool.and_eq_true, Bool.not_eq_true'] at solid
  exact solid.1

theorem isBreak_of_solid {x : Char} (solid : isSolid x = true) : isBreak x = false := by
  simp only [isSolid, Bool.and_eq_true, Bool.not_eq_true'] at solid
  exact solid.2

/-- Line ends are no blanks. -/
theorem isSpace_of_isBreak {x : Char} (ends : isBreak x = true) : isSpace x = false := by
  simp only [isBreak, Bool.or_eq_true, beq_iff_eq] at ends
  rcases ends with ((rfl | rfl) | rfl) | rfl <;> decide

/-- A mark that separates documents starts with a dash or a point. -/
theorem atDocumentMark_cons (x : Char) (rest : List Char) (dash : x ≠ '-') (point : x ≠ '.') :
    atDocumentMark (x :: rest) = false := by
  simp [atDocumentMark, isMark, List.isPrefixOf, Ne.symm dash, Ne.symm point]

/-- No line end and no space starts such a mark. -/
theorem atDocumentMark_of_blank (x : Char) (rest : List Char)
    (blank : x = ' ' ∨ isBreak x = true) : atDocumentMark (x :: rest) = false := by
  have apart : x ≠ '-' ∧ x ≠ '.' := by
    rcases blank with rfl | ends
    · decide
    · constructor <;> rintro rfl <;> revert ends <;> decide
  exact atDocumentMark_cons x rest apart.1 apart.2

/-- Spaces up to a solid character are skipped as blanks. -/
theorem skip_spaces (c : Cursor) (count : Nat) (x : Char) (behind : List Char)
    (rest : c.rest = List.replicate count ' ' ++ x :: behind) (other : isSpace x = false) :
    c.skip isSpace = steps count c := by
  have skipped := skip_eq c isSpace (List.replicate count ' ') (x :: behind) rest
    (by intro y present; rw [List.eq_of_mem_replicate present]; decide)
    (by intro y first; cases first; exact other)
  rwa [List.length_replicate] at skipped

/-- Behind spaces stands what followed them. -/
theorem rest_steps_spaces (c : Cursor) (count : Nat) (behind : List Char)
    (rest : c.rest = List.replicate count ' ' ++ behind) : (steps count c).rest = behind := by
  rw [steps_spaces c count behind rest]

/-- Blanks within a line stay as they are. -/
theorem quotedGap_spaces (fuel count : Nat) (c : Cursor) (x : Char) (behind : List Char)
    (rest : c.rest = List.replicate count ' ' ++ x :: behind) (solid : isSolid x = true) :
    quotedGap fuel c = .ok (List.replicate count ' ', steps count c) := by
  have skipped := skip_spaces c count x behind rest (isSpace_of_solid solid)
  have run : c.run isSpace = List.replicate count ' ' :=
    run_eq c isSpace _ (x :: behind) rest
      (by intro y present; rw [List.eq_of_mem_replicate present]; decide)
      (by intro y first; cases first; exact isSpace_of_solid solid)
  have arrived := rest_steps_spaces c count (x :: behind) rest
  simp only [quotedGap, skipped, run, arrived, isBreak_of_solid solid, Bool.false_eq_true, if_false]

/-- Line ends with indentation behind them, up to a solid character: each is read as the
line end that it stands for. The induction takes one line end off. -/
theorem quotedBreaks_run (breaks : List Char) (spaces fuel : Nat) (c : Cursor) (x : Char)
    (behind : List Char) (indented : 1 ≤ spaces) (enough : breaks.length < fuel)
    (ends : ∀ y ∈ breaks, isBreak y = true)
    (rest : c.rest = breaks ++ (List.replicate spaces ' ' ++ x :: behind))
    (solid : isSolid x = true) :
    quotedBreaks fuel c = .ok (breaks.map breakChar, steps (breaks.length + spaces) c) := by
  induction breaks generalizing fuel c with
  | nil =>
    cases fuel with
    | zero => simp at enough
    | succ fuel =>
      have start : atDocumentMark c.rest = false := by
        obtain ⟨more, rfl⟩ : ∃ more, spaces = more + 1 := ⟨spaces - 1, by omega⟩
        rw [rest]
        exact atDocumentMark_of_blank ' ' _ (.inl rfl)
      have skipped := skip_spaces c spaces x behind rest (isSpace_of_solid solid)
      have arrived := rest_steps_spaces c spaces (x :: behind) rest
      simp [quotedBreaks, start, skipped, arrived, isBreak_of_solid solid]
  | cons y breaks inductionHypothesis =>
    cases fuel with
    | zero => simp at enough
    | succ fuel =>
      have yEnds := ends y List.mem_cons_self
      have start : atDocumentMark c.rest = false := by
        rw [rest]
        exact atDocumentMark_of_blank y _ (.inr yEnds)
      have stays : c.skip isSpace = c :=
        skip_refused c isSpace (by
          intro z first
          rw [rest] at first
          cases first
          exact isSpace_of_isBreak yEnds)
      have behindFirst : c.step.rest = breaks ++ (List.replicate spaces ' ' ++ x :: behind) := by
        rw [rest_step, rest]
        rfl
      have further := inductionHypothesis fuel c.step (by simpa using enough)
        (fun z present => ends z (List.mem_cons_of_mem y present)) behindFirst
      have count : steps ((y :: breaks).length + spaces) c =
          steps (breaks.length + spaces) c.step := by
        rw [List.length_cons, Nat.add_right_comm]
        rfl
      rw [quotedBreaks, if_neg (by simp [start]), count]
      simp [stays, rest, yEnds, further, Except.map]

/-- Line ends inside quotes are folded, and the indentation behind them is dropped. -/
theorem quotedGap_breaks (first : Char) (breaks : List Char) (spaces fuel : Nat) (c : Cursor)
    (x : Char) (behind : List Char) (indented : 1 ≤ spaces) (enough : breaks.length < fuel)
    (ends : ∀ y ∈ first :: breaks, isBreak y = true)
    (rest : c.rest = first :: breaks ++ (List.replicate spaces ' ' ++ x :: behind))
    (solid : isSolid x = true) :
    quotedGap fuel c = .ok (foldBreaks first (breaks.map breakChar),
      steps (breaks.length + spaces + 1) c) := by
  have firstEnds := ends first List.mem_cons_self
  have stays : c.skip isSpace = c :=
    skip_refused c isSpace (by
      intro z found
      rw [rest] at found
      cases found
      exact isSpace_of_isBreak firstEnds)
  have behindFirst : c.step.rest = breaks ++ (List.replicate spaces ' ' ++ x :: behind) := by
    rw [rest_step, rest]
    rfl
  have further := quotedBreaks_run breaks spaces fuel c.step x behind indented enough
    (fun y present => ends y (List.mem_cons_of_mem first present)) behindFirst solid
  simp only [quotedGap, stays, rest, List.cons_append, firstEnds, if_true, further, Except.map]
  rfl

/-- Blanks that stand between solid characters inside quotes, and what they are read as. -/
structure PassedGap (written read : List Char) : Prop where
  starts : ∃ x tail, written = x :: tail ∧ (isSpace x || isBreak x) = true
  passes : ∀ fuel (c : Cursor) x behind, written.length ≤ fuel → c.rest = written ++ x :: behind →
    isSolid x = true → quotedGap fuel c = .ok (read, steps written.length c)

/-- Spaces are read as they are. -/
theorem passedGap_spaces (count : Nat) :
    PassedGap (List.replicate (count + 1) ' ') (List.replicate (count + 1) ' ') where
  starts := ⟨' ', List.replicate count ' ', rfl, rfl⟩
  passes fuel c x behind _ rest solid := by
    rw [List.length_replicate]
    exact quotedGap_spaces fuel (count + 1) c x behind rest solid

/-- Line ends are folded, and the indentation behind them does not count. -/
theorem passedGap_breaks (first : Char) (breaks : List Char) (spaces : Nat)
    (indented : 1 ≤ spaces) (ends : ∀ y ∈ first :: breaks, isBreak y = true) :
    PassedGap (first :: breaks ++ List.replicate spaces ' ')
      (foldBreaks first (breaks.map breakChar)) where
  starts := ⟨first, breaks ++ List.replicate spaces ' ', rfl, by
    rw [ends first List.mem_cons_self, Bool.or_true]⟩
  passes fuel c x behind enough rest solid := by
    simp only [List.length_append, List.length_cons, List.length_replicate] at enough ⊢
    rw [List.append_assoc] at rest
    have passed := quotedGap_breaks first breaks spaces fuel c x behind indented (by omega) ends
      rest solid
    rwa [Nat.add_right_comm] at passed

/-- A new line inside a text is read as the space that it stands for. -/
theorem passedGap_newLine (indent : Nat) (indented : 1 ≤ indent) :
    PassedGap (newLine indent) [' '] :=
  passedGap_breaks '\n' [] indent indented (by simp [isBreak])

/-- A gap is passed, and what is read behind it follows what the gap is read as. -/
theorem readQuoted_gap (double : Bool) (fuel count : Nat) (c : Cursor) (x : Char)
    (written read behind text : List Char) (gap : PassedGap written read)
    (rest : c.rest = written ++ x :: behind) (solid : isSolid x = true)
    (enough : written.length ≤ fuel)
    (further : readQuoted double fuel (steps written.length c) =
      .ok (text, steps count (steps written.length c))) :
    readQuoted double (fuel + 1) c = .ok (read ++ text, steps (written.length + count) c) := by
  have passed := gap.passes fuel c x behind enough rest solid
  obtain ⟨y, tail, start, blank⟩ := gap.starts
  have here : c.rest = y :: (tail ++ x :: behind) := by rw [rest, start, List.cons_append]
  rw [readQuoted, steps_add]
  simp only [here, blank, if_true, passed, bind, Except.bind, further, pure, Except.pure]

/-- The character that ends a scalar in quotes of a kind. -/
def quoteOf (double : Bool) : Char := if double then '"' else '\''

/-- A solid character that is neither the quote nor a backslash means itself. -/
theorem readQuoted_solid (double : Bool) (fuel : Nat) (c behind : Cursor) (x : Char)
    (tail text : List Char) (rest : c.rest = x :: tail) (solid : isSolid x = true)
    (notQuote : x ≠ quoteOf double) (notEscape : double = true → x ≠ '\\')
    (further : readQuoted double fuel c.step = .ok (text, behind)) :
    readQuoted double (fuel + 1) c = .ok (x :: text, behind) := by
  rw [readQuoted]
  cases double with
  | true =>
    have noEscape : x ≠ '\\' := notEscape rfl
    have noQuote : x ≠ '"' := notQuote
    simp [rest, isSpace_of_solid solid, isBreak_of_solid solid, noEscape, noQuote, further, bind,
      Except.bind, pure, Except.pure]
  | false =>
    have noQuote : x ≠ '\'' := notQuote
    simp [rest, isSpace_of_solid solid, isBreak_of_solid solid, noQuote, further, bind,
      Except.bind, pure, Except.pure]

/-- The quote ends what is read, unless it is a single one with another behind it. -/
theorem readQuoted_close (double : Bool) (fuel : Nat) (c : Cursor) (behind : List Char)
    (rest : c.rest = quoteOf double :: behind)
    (ends : double = false → behind.head? ≠ some '\'') :
    readQuoted double (fuel + 1) c = .ok ([], c.step) := by
  rw [readQuoted, rest]
  cases double with
  | true => rfl
  | false =>
    have closes : (behind.head? == some '\'') = false := beq_false_of_ne (ends rfl)
    simp [quoteOf, closes, isSpace, isBreak]

/-- Two single quotes are read as one. -/
theorem readQuoted_quote (fuel : Nat) (c behind : Cursor) (tail text : List Char)
    (rest : c.rest = '\'' :: '\'' :: tail)
    (further : readQuoted false fuel c.step.step = .ok (text, behind)) :
    readQuoted false (fuel + 1) c = .ok ('\'' :: text, behind) := by
  rw [readQuoted, rest]
  simp [isSpace, isBreak, further, bind, Except.bind, pure, Except.pure]

end TypedSheets.Yaml
