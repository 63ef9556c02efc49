import TypedSheets.Proofs.Yaml.PlainScalars

/-!
# How plain texts are written

A text without marks that mean something else is written word by word. Only a single space
between two words ever becomes a new line, so what is written is a layout of the text.
-/

namespace TypedSheets.Yaml

open Cursor

/-- A text that reads as itself without quotes: nothing in it ends a token, starts a comment or
needs an escape, and no space stands at its ends. That a space precedes the text says that its
first character is under the same rules. -/
structure PlainText (cs : List Char) : Prop where
  nonempty : cs ≠ []
  ordinary : ∀ x ∈ cs, isOrdinary x = true
  oneLine : ∀ x ∈ cs, isBreak x = false
  unmarked : hasInnerIndicator (' ' :: cs) = false
  first : cs.head? ≠ some ' '
  last : cs.getLast? ≠ some ' '

/-- What follows the first character of a text without inner indicators has none. -/
theorem hasInnerIndicator_tail (x : Char) (cs : List Char)
    (unmarked : hasInnerIndicator (x :: cs) = false) : hasInnerIndicator cs = false := by
  cases cs with
  | nil => rfl
  | cons y cs =>
    simp only [hasInnerIndicator, Bool.or_eq_false_iff] at unmarked
    exact unmarked.2

/-- What follows a part of such a text has none either. -/
theorem hasInnerIndicator_append (front behind : List Char)
    (unmarked : hasInnerIndicator (front ++ behind) = false) : hasInnerIndicator behind = false := by
  induction front with
  | nil => exact unmarked
  | cons x front inductionHypothesis =>
    exact inductionHypothesis (hasInnerIndicator_tail x (front ++ behind) unmarked)

/-- Before the end of a token no word ends in a colon. -/
theorem noColon_of_unmarked (x : Char) (word behind : List Char)
    (unmarked : hasInnerIndicator (x :: (word ++ behind)) = false)
    (ends : endsToken behind = true) : word.getLast? ≠ some ':' := by
  induction word generalizing x with
  | nil => simp
  | cons y word inductionHypothesis =>
    cases word with
    | nil =>
      have inner : hasInnerIndicator (x :: y :: behind) = false := unmarked
      simp only [hasInnerIndicator, ends, Bool.and_true, Bool.or_eq_false_iff] at inner
      simpa using inner.1.1
    | cons z word =>
      rw [List.getLast?_cons_cons]
      exact inductionHypothesis y (hasInnerIndicator_tail x _ unmarked)

/-- Behind a space no number sign stands. -/
theorem noComment_of_unmarked (cs : List Char)
    (unmarked : hasInnerIndicator (' ' :: cs) = false) : cs.head? ≠ some '#' := by
  cases cs with
  | nil => simp
  | cons x cs =>
    rw [List.head?_cons]
    rintro same
    cases same
    simp [hasInnerIndicator, endsToken, isSpace] at unmarked

/-- An ordinary character that is neither a space nor a line end is solid and takes a column. -/
theorem solid_of_ordinary (x : Char) (ordinary : isOrdinary x = true) (notSpace : x ≠ ' ')
    (noBreak : isBreak x = false) : isSolid x = true ∧ isInline x = true := by
  have notTab : x ≠ '\t' := by
    rintro rfl
    exact absurd ordinary (by decide)
  have notMark : x ≠ byteOrderMark := by
    rintro rfl
    exact absurd ordinary (by decide)
  exact ⟨by simp [isSolid, isSpace, notSpace, notTab, noBreak], by simp [isInline, noBreak, notMark]⟩

/-- The characters of a word are written as they are. -/
theorem writePlain_word (site : Site) (column : Nat) (word behind : List Char)
    (noSpace : ∀ x ∈ word, x ≠ ' ') :
    ∃ next, writePlain site column (word ++ behind) = word ++ writePlain site next behind := by
  induction word generalizing column with
  | nil => exact ⟨column, rfl⟩
  | cons x word inductionHypothesis =>
    obtain ⟨next, written⟩ := inductionHypothesis (column + 1)
      fun y present => noSpace y (List.mem_cons_of_mem x present)
    have notSpace := noSpace x List.mem_cons_self
    exact ⟨next, by simp [writePlain, notSpace, written]⟩

/-- Spaces behind the second one are written as they are. -/
theorem writePlainSpaces_eq (site : Site) (column count : Nat) (x : Char) (cs : List Char)
    (notSpace : x ≠ ' ') :
    ∃ next, writePlain.writePlainSpaces site column (List.replicate count ' ' ++ x :: cs) =
      List.replicate count ' ' ++ writePlain site next (x :: cs) := by
  induction count generalizing column with
  | zero => exact ⟨column, by simp [writePlain.writePlainSpaces, writePlain, notSpace]⟩
  | succ count inductionHypothesis =>
    obtain ⟨next, written⟩ := inductionHypothesis (column + 1)
    exact ⟨next, by simp [List.replicate_succ, writePlain.writePlainSpaces, written]⟩

/-- Spaces before a word are written as they are, or a single one becomes a new line. -/
theorem writePlain_spaces (site : Site) (column count : Nat) (x : Char) (cs : List Char)
    (notSpace : x ≠ ' ') :
    ∃ gap next, writePlain site column (List.replicate (count + 1) ' ' ++ x :: cs) =
        gap ++ writePlain site next (x :: cs) ∧
      (gap = List.replicate (count + 1) ' ' ∨ count = 0 ∧ gap = newLine site.indent) := by
  have wordNext (next : Nat) : writePlain site next (x :: cs) = x :: writePlain site (next + 1) cs := by
    simp [writePlain, notSpace]
  cases count with
  | zero =>
    by_cases folds : (x != ' ' && lineWidth < column && site.folds) = true
    · exact ⟨newLine site.indent, site.indent, by simp [writePlain, folds, wordNext], .inr ⟨rfl, rfl⟩⟩
    · exact ⟨[' '], column + 1, by simp [writePlain, folds, notSpace, wordNext], .inl rfl⟩
  | succ count =>
    obtain ⟨next, written⟩ := writePlainSpaces_eq site (column + 2) count x cs notSpace
    exact ⟨List.replicate (count + 1 + 1) ' ', next, by
      simp [List.replicate_succ, writePlain, written], .inl rfl⟩

/-- The front of a plain text is a word, when no space is in it and a token ends behind it. -/
theorem PlainText.isWord {word behind : List Char} (plain : PlainText (word ++ behind))
    (nonempty : word ≠ []) (noSpace : ∀ x ∈ word, x ≠ ' ') (ends : endsToken behind = true) :
    IsWord word := by
  have solid (x : Char) (present : x ∈ word) : isSolid x = true ∧ isInline x = true := by
    have inside : x ∈ word ++ behind := List.mem_append_left behind present
    exact solid_of_ordinary x (plain.ordinary x inside) (noSpace x present) (plain.oneLine x inside)
  exact ⟨nonempty, fun x present => (solid x present).1, fun x present => (solid x present).2,
    noColon_of_unmarked ' ' word behind plain.unmarked ends⟩

/-- What stands behind the spaces of a plain text is a plain text. -/
theorem PlainText.behind_spaces {word text : List Char} {count : Nat}
    (plain : PlainText (word ++ (List.replicate (count + 1) ' ' ++ text)))
    (stops : text.head? ≠ some ' ') : PlainText text where
  nonempty := by
    rintro rfl
    refine plain.last ?_
    rw [List.append_nil, List.replicate_succ', ← List.append_assoc, List.getLast?_concat]
  ordinary x present :=
    plain.ordinary x (List.mem_append_right _ (List.mem_append_right _ present))
  oneLine x present := plain.oneLine x (List.mem_append_right _ (List.mem_append_right _ present))
  unmarked := by
    have split : ' ' :: (word ++ (List.replicate (count + 1) ' ' ++ text)) =
        (' ' :: (word ++ List.replicate count ' ')) ++ ' ' :: text := by
      simp [List.replicate_succ', List.append_assoc]
    exact hasInnerIndicator_append _ _ (split ▸ plain.unmarked)
  first := stops
  last found := by
    refine plain.last ?_
    rw [List.getLast?_append, List.getLast?_append, found]
    rfl

/-- A plain text falls into its first word and, behind some spaces, a plain text; or it is one
word. -/
theorem PlainText.split {cs : List Char} (plain : PlainText cs) :
    IsWord cs ∨ ∃ word count text, cs = word ++ (List.replicate (count + 1) ' ' ++ text) ∧
      IsWord word ∧ PlainText text := by
  obtain ⟨word, behind, rfl, inWord, stops⟩ := exists_run (· != ' ') cs
  have noSpace : ∀ x ∈ word, x ≠ ' ' := fun x present => by simpa using inWord x present
  have nonempty : word ≠ [] := by
    rintro rfl
    cases behind with
    | nil => exact plain.nonempty rfl
    | cons x behind =>
      have space : x = ' ' := by simpa using stops x rfl
      exact plain.first (by rw [space]; rfl)
  cases behind with
  | nil =>
    left
    rw [List.append_nil]
    exact plain.isWord nonempty noSpace rfl
  | cons x behind =>
    right
    have space : x = ' ' := by simpa using stops x rfl
    subst space
    obtain ⟨spaces, text, rfl, spacesOnly, textStops⟩ := exists_run (· == ' ') behind
    obtain ⟨count, rfl⟩ : ∃ count, spaces = List.replicate count ' ' :=
      ⟨spaces.length, List.eq_replicate_of_mem fun y present => by
        simpa using spacesOnly y present⟩
    have front : ' ' :: (List.replicate count ' ' ++ text) =
        List.replicate (count + 1) ' ' ++ text := rfl
    rw [front] at plain ⊢
    have textStart : text.head? ≠ some ' ' := fun found => absurd (textStops ' ' found) (by decide)
    exact ⟨word, count, text, rfl, plain.isWord nonempty noSpace rfl, plain.behind_spaces textStart⟩

/-- A plain text is written as a layout of itself. -/
theorem laid_writePlain (site : Site) (column : Nat) (cs : List Char) (plain : PlainText cs) :
    Laid site.indent cs (writePlain site column cs) := by
  induction length : cs.length using Nat.strong_induction_on generalizing cs column with
  | _ n inductionHypothesis =>
    rcases plain.split with isWord | ⟨word, count, text, rfl, isWord, remains⟩
    · obtain ⟨next, written⟩ := writePlain_word site column cs []
        fun x present => ne_space_of_solid (isWord.solid x present)
      rw [List.append_nil] at written
      rw [written, show writePlain site next [] = [] from rfl, List.append_nil]
      exact .word isWord
    · cases text with
      | nil => exact absurd rfl remains.nonempty
      | cons x text =>
        have notSpace : x ≠ ' ' := by simpa using remains.first
        have noComment := noComment_of_unmarked _ remains.unmarked
        obtain ⟨middle, wordWritten⟩ := writePlain_word site column word
          (List.replicate (count + 1) ' ' ++ x :: text)
          fun y present => ne_space_of_solid (isWord.solid y present)
        obtain ⟨gap, next, spacesWritten, kept | ⟨single, folded⟩⟩ :=
          writePlain_spaces site middle count x text notSpace
        all_goals
          have shorter : (x :: text).length < n := by
            rw [← length]
            simp only [List.length_append, List.length_replicate]
            omega
          have further := inductionHypothesis _ shorter next (x :: text) remains rfl
          rw [wordWritten, spacesWritten]
        · rw [kept]
          exact .spaces count isWord further noComment
        · rw [folded, single]
          exact .newLine isWord further noComment

end TypedSheets.Yaml
