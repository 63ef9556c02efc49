import Mathlib.Data.List.TakeWhile
import TypedSheets.Proofs.Text.Trimming
import TypedSheets.Yaml.Cursor

/-!
# Where cursors go

A cursor that steps over known characters lands at a known place: over characters within a
line its column grows by their number, and behind a line end with spaces it stands in the
column that the spaces reach. Steps never lead to an earlier line.
-/

namespace TypedSheets.Yaml

/-- A character that takes one column and ends no line. -/
def isInline (c : Char) : Bool := !isBreak c && c != byteOrderMark

namespace Cursor

/-- A longer way is a way behind a way. -/
theorem steps_add (first second : Nat) (c : Cursor) :
    steps (first + second) c = steps second (steps first c) := by
  induction first generalizing c with
  | zero => rw [Nat.zero_add]; rfl
  | succ first inductionHypothesis =>
    rw [Nat.succ_add]
    exact inductionHypothesis c.step

/-- The way over two texts and one more character leads over the first of them. -/
theorem steps_append_succ (first second : List Char) (c : Cursor) :
    steps ((first ++ second).length + 1) c = steps (second.length + 1) (steps first.length c) := by
  rw [List.length_append, Nat.add_assoc, steps_add]

/-- One step takes the next character off. -/
theorem rest_step (c : Cursor) : c.step.rest = c.rest.drop 1 := by
  unfold step
  split
  · next empty => simp [empty]
  · next x rest found =>
    split_ifs <;> simp [found]

/-- Steps take as many characters off. -/
theorem rest_steps (count : Nat) (c : Cursor) : (steps count c).rest = c.rest.drop count := by
  induction count generalizing c with
  | zero => rfl
  | succ count inductionHypothesis =>
    rw [show steps (count + 1) c = steps count c.step from rfl, inductionHypothesis, rest_step,
      List.drop_drop, Nat.add_comm]

/-- Behind known characters stands what followed them. -/
theorem rest_steps_append (c : Cursor) (passed behind : List Char)
    (rest : c.rest = passed ++ behind) : (steps passed.length c).rest = behind := by
  rw [rest_steps, rest, List.drop_left]

/-- A step never leads to an earlier line. -/
theorem line_le_step (c : Cursor) : c.line ≤ c.step.line := by
  unfold step
  split
  · exact Nat.le_refl _
  · split_ifs <;> simp

/-- Steps never lead to an earlier line. -/
theorem line_le_steps (count : Nat) (c : Cursor) : c.line ≤ (steps count c).line := by
  induction count generalizing c with
  | zero => exact Nat.le_refl _
  | succ count inductionHypothesis =>
    exact Nat.le_trans (line_le_step c) (inductionHypothesis c.step)

/-- A step within a line goes one column to the right. -/
theorem step_inline (c : Cursor) (x : Char) (behind : List Char) (rest : c.rest = x :: behind)
    (inline : isInline x = true) :
    c.step = { rest := behind, index := c.index + 1, line := c.line, column := c.column + 1 } := by
  simp only [isInline, Bool.and_eq_true, Bool.not_eq_true', bne_iff_ne] at inline
  simp [step, rest, inline.1, inline.2]

/-- A step over a line end leads to the start of the next line. -/
theorem step_break (c : Cursor) (x : Char) (behind : List Char) (rest : c.rest = x :: behind)
    (ends : isBreak x = true) :
    c.step = { rest := behind, index := c.index + 1, line := c.line + 1, column := 0 } := by
  simp [step, rest, ends]

/-- Steps within a line go as many columns to the right. -/
theorem steps_inline (c : Cursor) (passed behind : List Char) (rest : c.rest = passed ++ behind)
    (inline : ∀ x ∈ passed, isInline x = true) :
    steps passed.length c =
      { rest := behind, index := c.index + passed.length, line := c.line
        column := c.column + passed.length } := by
  induction passed generalizing c with
  | nil => cases c; simpa [steps] using rest
  | cons x passed inductionHypothesis =>
    have first := step_inline c x (passed ++ behind) rest (inline x List.mem_cons_self)
    rw [show steps (x :: passed).length c = steps passed.length c.step from rfl,
      inductionHypothesis c.step (by rw [first])
        fun y present => inline y (List.mem_cons_of_mem x present), first]
    simp only [List.length_cons, Cursor.mk.injEq, true_and]
    omega

/-- A space takes one column. -/
theorem isInline_space : isInline ' ' = true := by decide

/-- Behind spaces the column has grown by their number. -/
theorem steps_spaces (c : Cursor) (count : Nat) (behind : List Char)
    (rest : c.rest = List.replicate count ' ' ++ behind) :
    steps count c =
      { rest := behind, index := c.index + count, line := c.line, column := c.column + count } := by
  have passed := steps_inline c (List.replicate count ' ') behind rest fun x present => by
    rw [List.eq_of_mem_replicate present]
    exact isInline_space
  rw [List.length_replicate] at passed
  exact passed

/-- Behind a line end and spaces the column is the number of the spaces. -/
theorem steps_newLine (c : Cursor) (x : Char) (spaces : Nat) (behind : List Char)
    (ends : isBreak x = true) (rest : c.rest = x :: (List.replicate spaces ' ' ++ behind)) :
    steps (spaces + 1) c =
      { rest := behind, index := c.index + 1 + spaces, line := c.line + 1, column := spaces } := by
  have first := step_break c x _ rest ends
  have further := steps_spaces c.step spaces behind (by rw [first])
  rw [show steps (spaces + 1) c = steps spaces c.step from rfl, further, first]
  simp

/-- What a test accepts up to a character that it refuses. -/
theorem takeWhile_append_refused (test : Char → Bool) (passed behind : List Char)
    (accepted : ∀ x ∈ passed, test x = true) (refused : ∀ x, behind.head? = some x → test x = false) :
    (passed ++ behind).takeWhile test = passed := by
  rw [List.takeWhile_append_of_pos accepted]
  cases behind with
  | nil => simp
  | cons x behind => simp [refused x rfl]

/-- What is left behind it. -/
theorem dropWhile_append_refused (test : Char → Bool) (passed behind : List Char)
    (accepted : ∀ x ∈ passed, test x = true) (refused : ∀ x, behind.head? = some x → test x = false) :
    (passed ++ behind).dropWhile test = behind := by
  rw [List.dropWhile_append_of_pos accepted]
  cases behind with
  | nil => rfl
  | cons x behind => rw [List.dropWhile_cons_of_neg (by simp [refused x rfl])]

/-- Every text falls into what a test accepts and a rest that the test does not go into. -/
theorem exists_run (test : Char → Bool) (cs : List Char) :
    ∃ passed behind, cs = passed ++ behind ∧ (∀ x ∈ passed, test x = true) ∧
      ∀ x, behind.head? = some x → test x = false := by
  refine ⟨cs.takeWhile test, cs.dropWhile test, List.takeWhile_append_dropWhile.symm,
    fun x present => List.mem_takeWhile_imp present, fun x first => ?_⟩
  have refused := List.head?_dropWhile_not test cs
  rw [first] at refused
  simpa using refused

/-- A run is what the test accepts. -/
theorem run_eq (c : Cursor) (test : Char → Bool) (passed behind : List Char)
    (rest : c.rest = passed ++ behind) (accepted : ∀ x ∈ passed, test x = true)
    (refused : ∀ x, behind.head? = some x → test x = false) : c.run test = passed := by
  rw [run, rest, takeWhile_append_refused test passed behind accepted refused]

/-- Skipping goes behind what the test accepts. -/
theorem skip_eq (c : Cursor) (test : Char → Bool) (passed behind : List Char)
    (rest : c.rest = passed ++ behind) (accepted : ∀ x ∈ passed, test x = true)
    (refused : ∀ x, behind.head? = some x → test x = false) :
    c.skip test = steps passed.length c := by
  rw [skip, run_eq c test passed behind rest accepted refused]

/-- Nothing is skipped before a character that the test refuses. -/
theorem skip_refused (c : Cursor) (test : Char → Bool)
    (refused : ∀ x, c.rest.head? = some x → test x = false) : c.skip test = c :=
  skip_eq c test [] c.rest rfl (by simp) refused

end Cursor

end TypedSheets.Yaml
