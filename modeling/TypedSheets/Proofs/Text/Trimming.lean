import Mathlib.Data.List.TakeWhile
import TypedSheets.Text.Blank

/-!
# Trimmed texts

Trimming takes the blanks around a text off and nothing else: what it leaves is the one text that starts
and ends without a blank and has only blanks around it.
-/

namespace TypedSheets.Text

variable {cs core before after : List Char}

/-- A property of the members of a known list is checked one by one. -/
theorem forall_mem_of_all {α : Type} {P : α → Prop} [DecidablePred P] {known : List α}
    (checked : (known.all fun x => decide (P x)) = true) : ∀ x ∈ known, P x := fun x present =>
  of_decide_eq_true (List.all_eq_true.mp checked x present)

/-- A text that neither starts nor ends with a blank. -/
structure IsTrimmed (cs : List Char) : Prop where
  first : ∀ c, cs.head? = some c → isBlank c = false
  last : ∀ c, cs.getLast? = some c → isBlank c = false

/-- A text is a trimmed one with blanks around it. -/
structure Surrounds (cs core : List Char) : Prop where
  trimmed : IsTrimmed core
  blanks : ∃ before after, cs = before ++ core ++ after ∧ (∀ c ∈ before, isBlank c = true) ∧
    ∀ c ∈ after, isBlank c = true

/-- Blanks in front of a text that starts without one are all that is dropped. -/
theorem trimLeft_append (front : ∀ c ∈ before, isBlank c = true)
    (first : ∀ c, core.head? = some c → isBlank c = false) : trimLeft (before ++ core) = core := by
  rw [trimLeft, List.dropWhile_append_of_pos front]
  cases core with
  | nil => rfl
  | cons c rest => rw [List.dropWhile_cons_of_neg (by simp [first c rfl])]

theorem trimRight_append (back : ∀ c ∈ after, isBlank c = true)
    (last : ∀ c, core.getLast? = some c → isBlank c = false) : trimRight (core ++ after) = core := by
  have reversed : trimLeft (after.reverse ++ core.reverse) = core.reverse := by
    refine trimLeft_append (fun c present => back c (List.mem_reverse.mp present)) fun c found => ?_
    rw [List.head?_reverse] at found
    exact last c found
  rw [trimLeft] at reversed
  rw [trimRight, List.reverse_append, reversed, List.reverse_reverse]

/-- What is dropped in front is blank, and what is left starts without a blank. -/
theorem exists_trimLeft (cs : List Char) : ∃ before, cs = before ++ trimLeft cs ∧
    (∀ c ∈ before, isBlank c = true) ∧ ∀ c, (trimLeft cs).head? = some c → isBlank c = false := by
  refine ⟨cs.takeWhile isBlank, List.takeWhile_append_dropWhile.symm, ?_, ?_⟩
  · intro c present
    exact List.mem_takeWhile_imp present
  · intro c found
    have stops := List.head?_dropWhile_not isBlank cs
    rw [trimLeft] at found
    rw [found] at stops
    simpa using stops

theorem exists_trimRight (cs : List Char) : ∃ after, cs = trimRight cs ++ after ∧
    (∀ c ∈ after, isBlank c = true) ∧ ∀ c, (trimRight cs).getLast? = some c → isBlank c = false := by
  obtain ⟨before, same, blank, first⟩ := exists_trimLeft cs.reverse
  refine ⟨before.reverse, ?_, ?_, ?_⟩
  · rw [trimRight, ← List.reverse_append, ← trimLeft, ← same, List.reverse_reverse]
  · exact fun c present => blank c (List.mem_reverse.mp present)
  · intro c found
    rw [trimRight, List.getLast?_reverse] at found
    exact first c found

/-- A part in front of blanks starts as the whole does, unless it is empty. -/
theorem head?_of_append {c : Char} (found : core.head? = some c) : (core ++ after).head? = some c := by
  rw [List.head?_append, found, Option.some_or]

/-- Trimming leaves a trimmed text with blanks around it, -/
theorem surrounds_trimChars (cs : List Char) : Surrounds cs (trimChars cs) := by
  obtain ⟨before, whole, front, first⟩ := exists_trimLeft cs
  obtain ⟨after, inner, back, last⟩ := exists_trimRight (trimLeft cs)
  refine ⟨⟨fun c found => first c ?_, last⟩, before, after, ?_, front, back⟩
  · rw [inner]
    exact head?_of_append found
  · rw [trimChars, List.append_assoc, ← inner, ← whole]

/-- and there is no other one. -/
theorem Surrounds.trimChars_eq (surrounds : Surrounds cs core) : trimChars cs = core := by
  obtain ⟨trimmed, before, after, rfl, front, back⟩ := surrounds
  rw [trimChars, List.append_assoc]
  cases core with
  | nil =>
    have nothing : trimLeft (before ++ ([] ++ after)) = [] :=
      List.dropWhile_eq_nil_iff.mpr fun c present =>
        (List.mem_append.mp present).elim (front c) (back c)
    rw [nothing]
    rfl
  | cons c rest =>
    rw [trimLeft_append front fun other found => trimmed.first other (by simpa using found)]
    exact trimRight_append back trimmed.last

theorem trimChars_eq_iff : trimChars cs = core ↔ Surrounds cs core := by
  constructor
  · rintro rfl
    exact surrounds_trimChars cs
  · exact Surrounds.trimChars_eq

/-- Blanks around a text are trimmed with those it has. -/
theorem trimChars_pad (front : ∀ c ∈ before, isBlank c = true) (back : ∀ c ∈ after, isBlank c = true)
    (cs : List Char) : trimChars (before ++ cs ++ after) = trimChars cs := by
  obtain ⟨trimmed, inner, outer, whole, blankInner, blankOuter⟩ := surrounds_trimChars cs
  apply Surrounds.trimChars_eq
  refine ⟨trimmed, before ++ inner, outer ++ after, ?_, ?_, ?_⟩
  · calc
      before ++ cs ++ after = before ++ (inner ++ trimChars cs ++ outer) ++ after := by rw [← whole]
      _ = before ++ inner ++ trimChars cs ++ (outer ++ after) := by simp only [List.append_assoc]
  · exact List.forall_mem_append.mpr ⟨front, blankInner⟩
  · exact List.forall_mem_append.mpr ⟨blankOuter, back⟩

/-- A trimmed text stays as it is. -/
theorem IsTrimmed.trimChars_eq (trimmed : IsTrimmed cs) : trimChars cs = cs :=
  Surrounds.trimChars_eq ⟨trimmed, [], [], by simp, by simp, by simp⟩

end TypedSheets.Text
