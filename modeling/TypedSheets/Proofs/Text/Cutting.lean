import Mathlib.Data.List.Basic
import TypedSheets.Proofs.Files.AssetPaths
import TypedSheets.Proofs.Text.TextLines

/-!
# Cutting texts

A text is cut into lines at any of the three line ends, a line is cut off at the first occurrence of a mark,
and a text is cut into parts at each copy of a character. Each of the three is told here by the texts that
are put together again, and is shown to be what the function of that name computes.
-/

namespace TypedSheets.Text

variable {cs line front rest mark : List Char} {lines parts : List (List Char)}

/-- The texts that end a line. -/
def lineEnds : List (List Char) := [['\n'], ['\r'], ['\r', '\n']]

/-- A text is made of lines, each but the last with one of the line ends. A carriage return and the line feed
behind it are one end. -/
inductive HasLines : List Char → List (List Char) → Prop where
  | last {line : List Char} (within : ∀ c ∈ line, isLineEnd c = false) : HasLines line [line]
  | next {line lineEnd rest : List Char} {lines : List (List Char)} (within : ∀ c ∈ line, isLineEnd c = false)
      (isEnd : lineEnd ∈ lineEnds) (whole : lineEnd = ['\r'] → rest.head? ≠ some '\n')
      (further : HasLines rest lines) : HasLines (line ++ lineEnd ++ rest) (line :: lines)

/-- A line up to the first occurrence of a mark, or all of it when the mark does not occur. -/
structure IsCutAt (mark line front : List Char) : Prop where
  cut : front = line ∨ ∃ behind, line = front ++ mark ++ behind
  first : ∀ before behind, line = before ++ mark ++ behind → front.length ≤ before.length

/-- A text is put together from parts with one copy of a character between any two neighbours. -/
structure AreParts (separator : Char) (cs : List Char) (parts : List (List Char)) : Prop where
  some : parts ≠ []
  apart : ∀ part ∈ parts, separator ∉ part
  joined : [separator].intercalate parts = cs

section Lines

/-- What stands in front of a line end stays as it is. -/
theorem unifyLineEnds_append (within : ∀ c ∈ line, isLineEnd c = false) (rest : List Char) :
    unifyLineEnds (line ++ rest) = line ++ unifyLineEnds rest := by
  induction line with
  | nil => rfl
  | cons c others inductionHypothesis =>
    rw [List.forall_mem_cons] at within
    have noReturn : c ≠ '\r' := by
      rintro rfl
      cases within.1
    rw [List.cons_append, unifyLineEnds, inductionHypothesis within.2, List.cons_append]
    · rintro _ rfl
      exact absurd rfl noReturn
    · exact noReturn

/-- Each line end becomes one line feed. -/
theorem unifyLineEnds_lineEnd {lineEnd : List Char} (isEnd : lineEnd ∈ lineEnds)
    (whole : lineEnd = ['\r'] → rest.head? ≠ some '\n') :
    unifyLineEnds (lineEnd ++ rest) = '\n' :: unifyLineEnds rest := by
  simp only [lineEnds, List.mem_cons, List.not_mem_nil, or_false] at isEnd
  rcases isEnd with rfl | rfl | rfl
  · simp [unifyLineEnds]
  · cases rest with
    | nil => simp [unifyLineEnds]
    | cons c others =>
      have noFeed : c ≠ '\n' := fun same => whole rfl (congrArg some same)
      simp [unifyLineEnds, noFeed]
  · simp [unifyLineEnds]

/-- The lines of a text are the pieces between the line feeds, -/
theorem HasLines.splitOn_eq (hasLines : HasLines cs lines) : splitOn '\n' (unifyLineEnds cs) = lines := by
  have noFeed {line : List Char} (within : ∀ c ∈ line, isLineEnd c = false) : '\n' ∉ line := by
    intro present
    cases within _ present
  induction hasLines with
  | last within =>
    have unified := unifyLineEnds_append within []
    rw [List.append_nil] at unified
    rw [unified, unifyLineEnds, List.append_nil, splitOn_of_not_mem _ _ (noFeed within)]
  | next within isEnd whole _ inductionHypothesis =>
    rw [List.append_assoc, unifyLineEnds_append within, unifyLineEnds_lineEnd isEnd whole,
      splitOn_append (noFeed within), inductionHypothesis]

/-- A character that ends no line belongs to the first one. -/
theorem HasLines.cons {c : Char} (inside : isLineEnd c = false) (hasLines : HasLines cs lines) :
    ∃ first others, HasLines (c :: cs) ((c :: first) :: others) := by
  cases hasLines with
  | last within => exact ⟨_, _, .last (List.forall_mem_cons.mpr ⟨inside, within⟩)⟩
  | next within isEnd whole further =>
    exact ⟨_, _, .next (List.forall_mem_cons.mpr ⟨inside, within⟩) isEnd whole further⟩

/-- and every text has lines. -/
theorem exists_hasLines (cs : List Char) : ∃ lines, HasLines cs lines := by
  have ended {rest : List Char} (lineEnd : List Char) (isEnd : lineEnd ∈ lineEnds)
      (whole : lineEnd = ['\r'] → rest.head? ≠ some '\n') (hasLines : ∃ lines, HasLines rest lines) :
      ∃ lines, HasLines (lineEnd ++ rest) lines := by
    obtain ⟨lines, further⟩ := hasLines
    have first : HasLines ([] ++ lineEnd ++ rest) ([] :: lines) := .next (by simp) isEnd whole further
    exact ⟨_, first⟩
  fun_induction unifyLineEnds cs with
  | case1 => exact ⟨_, .last (by simp)⟩
  | case2 rest inductionHypothesis => exact ended ['\r', '\n'] (by decide) nofun inductionHypothesis
  | case3 rest noFeed inductionHypothesis =>
    refine ended ['\r'] (by decide) (fun _ feed => ?_) inductionHypothesis
    obtain ⟨others, rfl⟩ := List.head?_eq_some_iff.mp feed
    exact noFeed others rfl
  | case4 c rest _ noReturn inductionHypothesis =>
    by_cases feed : c = '\n'
    · subst feed
      exact ended ['\n'] (by decide) nofun inductionHypothesis
    · obtain ⟨lines, further⟩ := inductionHypothesis
      have inside : isLineEnd c = false := by
        rw [isLineEnd, Bool.or_eq_false_iff]
        exact ⟨beq_false_of_ne feed, beq_false_of_ne noReturn⟩
      obtain ⟨first, others, whole⟩ := further.cons inside
      exact ⟨_, whole⟩

theorem splitOn_unifyLineEnds_iff : splitOn '\n' (unifyLineEnds cs) = lines ↔ HasLines cs lines := by
  constructor
  · rintro rfl
    obtain ⟨lines, hasLines⟩ := exists_hasLines cs
    rwa [hasLines.splitOn_eq]
  · exact HasLines.splitOn_eq

end Lines

section Marks

/-- The characters before the first occurrence are such a cut. -/
theorem isCutAt_beforeFirst (mark line : List Char) : IsCutAt mark line (beforeFirst mark line) := by
  induction line with
  | nil => exact ⟨.inl rfl, fun _ _ _ => Nat.zero_le _⟩
  | cons c rest inductionHypothesis =>
    rw [beforeFirst]
    split
    · next starts =>
      obtain ⟨behind, whole⟩ := List.isPrefixOf_iff_prefix.mp starts
      exact ⟨.inr ⟨behind, by simp [whole]⟩, fun _ _ _ => Nat.zero_le _⟩
    · next otherwise =>
      refine ⟨?_, fun before behind whole => ?_⟩
      · rcases inductionHypothesis.cut with all | ⟨behind, whole⟩
        · exact .inl (by rw [all])
        · exact .inr ⟨behind, by rw [List.cons_append, List.cons_append, ← whole]⟩
      · cases before with
        | nil => exact absurd (List.isPrefixOf_iff_prefix.mpr ⟨behind, by simpa using whole.symm⟩) otherwise
        | cons d others =>
          rw [List.cons_append, List.cons_append, List.cons.injEq] at whole
          exact Nat.succ_le_succ (inductionHypothesis.first others behind whole.2)

/-- A line is cut nowhere when the first character of the mark is not in it. -/
theorem isCutAt_of_not_mem {c : Char} (rest : List Char) (absent : c ∉ line) : IsCutAt (c :: rest) line line := by
  refine ⟨.inl rfl, fun before behind whole => absurd ?_ absent⟩
  simp [whole]

/-- There is no other one. -/
theorem IsCutAt.unique (some : mark ≠ []) {other : List Char} (isCut : IsCutAt mark line front)
    (isOther : IsCutAt mark line other) : front = other := by
  have shorter {front behind : List Char} (occurs : line = front ++ mark ++ behind) : front.length < line.length := by
    have positive := List.length_pos_iff.mpr some
    rw [occurs, List.length_append, List.length_append]
    omega
  rcases isCut.cut with rfl | ⟨behind, occurs⟩
  · rcases isOther.cut with rfl | ⟨behind, occurs⟩
    · rfl
    · exact absurd (isCut.first _ _ occurs) (Nat.not_le_of_lt (shorter occurs))
  · rcases isOther.cut with rfl | ⟨_, again⟩
    · exact absurd (isOther.first _ _ occurs) (Nat.not_le_of_lt (shorter occurs))
    · have length := Nat.le_antisymm (isCut.first _ _ again) (isOther.first _ _ occurs)
      rw [occurs, List.append_assoc, List.append_assoc] at again
      exact (List.append_inj again length).1

theorem beforeFirst_eq_iff (some : mark ≠ []) : beforeFirst mark line = front ↔ IsCutAt mark line front := by
  constructor
  · rintro rfl
    exact isCutAt_beforeFirst mark line
  · exact (isCutAt_beforeFirst mark line).unique some

end Marks

section Parts

variable {separator : Char}

/-- Cutting at a character is the cutting of lists. -/
theorem splitOn_eq_listSplitOn (separator : Char) (cs : List Char) : splitOn separator cs = cs.splitOn separator := by
  induction cs with
  | nil => rfl
  | cons c rest inductionHypothesis =>
    rw [List.splitOn, List.splitOnP_cons_eq_if_modifyHead, ← List.splitOn, splitOn, inductionHypothesis]
    by_cases same : c = separator
    · simp [same]
    · cases whole : rest.splitOn separator with
      | nil => exact absurd whole (List.splitOn_ne_nil _ _)
      | cons part others => simp [same]

theorem splitOn_ne_nil (separator : Char) (cs : List Char) : splitOn separator cs ≠ [] := by
  rw [splitOn_eq_listSplitOn]
  exact List.splitOn_ne_nil _ _

/-- No part has the character in it. -/
theorem not_mem_of_mem_splitOn {part : List Char} (member : part ∈ splitOn separator cs) : separator ∉ part := by
  induction cs generalizing part with
  | nil => simp_all [splitOn]
  | cons c rest inductionHypothesis =>
    by_cases same : c = separator
    · rw [splitOn, if_pos same, List.mem_cons] at member
      rcases member with rfl | later
      · exact List.not_mem_nil
      · exact inductionHypothesis later
    · cases whole : splitOn separator rest with
      | nil => exact absurd whole (splitOn_ne_nil _ _)
      | cons first others =>
        simp only [splitOn, if_neg same, whole, List.mem_cons] at member inductionHypothesis
        rcases member with rfl | later
        · rw [List.mem_cons, not_or]
          exact ⟨Ne.symm same, inductionHypothesis (.inl rfl)⟩
        · exact inductionHypothesis (.inr later)

/-- Cutting at a character gives the parts of a text. -/
theorem splitOn_eq_iff : splitOn separator cs = parts ↔ AreParts separator cs parts := by
  constructor
  · rintro rfl
    refine ⟨splitOn_ne_nil _ _, fun _ => not_mem_of_mem_splitOn, ?_⟩
    rw [splitOn_eq_listSplitOn, List.intercalate_splitOn]
  · rintro ⟨some, apart, rfl⟩
    rw [splitOn_eq_listSplitOn, List.splitOn_intercalate separator apart some]

theorem areParts_of_not_mem (absent : separator ∉ cs) : AreParts separator cs [cs] :=
  splitOn_eq_iff.mp (splitOn_of_not_mem separator cs absent)

/-- A text that is longer by characters at its end has the same parts, but for the last one. -/
theorem splitOn_append_of_not_mem {after : List Char} (absent : separator ∉ after) (cs : List Char) :
    List.Forall₂ (fun part padded => padded = part ∨ padded = part ++ after)
      (splitOn separator cs) (splitOn separator (cs ++ after)) := by
  induction cs with
  | nil =>
    rw [List.nil_append, splitOn_of_not_mem separator after absent, splitOn]
    exact .cons (.inr rfl) .nil
  | cons c rest inductionHypothesis =>
    by_cases same : c = separator
    · simpa [splitOn, same] using inductionHypothesis
    · cases whole : splitOn separator rest with
      | nil => exact absurd whole (splitOn_ne_nil _ _)
      | cons first others =>
        rw [whole] at inductionHypothesis
        obtain ⟨first', others', head, tail, whole'⟩ := List.forall₂_cons_left_iff.mp inductionHypothesis
        rw [List.cons_append, splitOn, splitOn, if_neg same, if_neg same, whole, whole']
        exact .cons (head.imp (congrArg (c :: ·)) (congrArg (c :: ·))) tail

end Parts

end TypedSheets.Text
