import TypedSheets.Proofs.Yaml.ScalarTokens

/-!
# Names

A name needs no escape, holds no blank, and could only be mistaken for another type, never for
an indicator. So it is written as it is, or as it is between single quotes, and never folded.
-/

namespace TypedSheets.Yaml

open Cursor

/-- The characters that mean something else at the start of a scalar or inside it. -/
def nameRefused : List Char := "-.?:#,[]\x7b\x7d&*!|>'\"%@`".toList

/-- A text whose characters mean nothing but themselves wherever they stand. -/
structure IsName (cs : List Char) : Prop where
  nonempty : cs ≠ []
  ordinary : ∀ x ∈ cs, isOrdinary x = true
  solid : ∀ x ∈ cs, isSolid x = true
  harmless : ∀ x ∈ cs, x ∉ nameRefused

namespace IsName

variable {cs : List Char}

/-- A refused character is not among them. -/
theorem ne_of_mem (name : IsName cs) {x y : Char} (present : x ∈ cs) (refused : y ∈ nameRefused) :
    x ≠ y := by
  rintro rfl
  exact name.harmless x present refused

/-- No character of a name is a line end or a space. -/
theorem notBlank (name : IsName cs) (x : Char) (present : x ∈ cs) :
    x ≠ ' ' ∧ isBreak x = false :=
  ⟨ne_space_of_solid (name.solid x present), isBreak_of_solid (name.solid x present)⟩

/-- Each character of a name takes one column. -/
theorem inline (name : IsName cs) (x : Char) (present : x ∈ cs) : isInline x = true :=
  (solid_of_ordinary x (name.ordinary x present) (name.notBlank x present).1
    (name.notBlank x present).2).2

theorem hasInnerIndicator_eq_false (name : IsName cs) : hasInnerIndicator (' ' :: cs) = false := by
  have general (x : Char) (front : List Char) (inside : ∀ y ∈ front, y ≠ ':' ∧ y ≠ '#') :
      hasInnerIndicator (x :: front) = false := by
    induction front generalizing x with
    | nil => rfl
    | cons y front inductionHypothesis =>
      obtain ⟨colon, comment⟩ := inside y List.mem_cons_self
      have further := inductionHypothesis y fun z present => inside z (List.mem_cons_of_mem y present)
      simp [hasInnerIndicator, colon, comment, further]
  exact general ' ' cs fun y present =>
    ⟨name.ne_of_mem present (by decide), name.ne_of_mem present (by decide)⟩

theorem plainText (name : IsName cs) : PlainText cs where
  nonempty := name.nonempty
  ordinary := name.ordinary
  oneLine x present := (name.notBlank x present).2
  unmarked := name.hasInnerIndicator_eq_false
  first found := (name.notBlank ' ' (List.mem_of_head? found)).1 rfl
  last found := (name.notBlank ' ' (List.mem_of_getLast? found)).1 rfl

theorem isWord (name : IsName cs) : IsWord cs where
  nonempty := name.nonempty
  solid := name.solid
  inline := name.inline
  noColon found := name.harmless ':' (List.mem_of_getLast? found) (by decide)

/-- The first character of a name is no indicator. -/
theorem leading (name : IsName cs) (x : Char) (present : x ∈ cs) : isLeadingIndicator x = false := by
  have each : ∀ y ∈ "#,[]\x7b\x7d&*!|>'\"%@`".toList, y ∈ nameRefused :=
    Text.forall_mem_of_all (by decide)
  rw [isLeadingIndicator, List.contains_eq_mem, decide_eq_false_iff_not]
  intro found
  exact name.harmless x present (each x found)

theorem quotable (name : IsName cs) : Quotable cs where
  unescaped x present := .inr (name.ordinary x present)
  apart := by
    have general (front : List Char) (inside : ∀ y ∈ front, y ≠ ' ' ∧ isBreak y = false) :
        front.IsChain MayMeet := by
      induction front with
      | nil => exact .nil
      | cons y front inductionHypothesis =>
        obtain ⟨notSpace, noBreak⟩ := inside y List.mem_cons_self
        refine List.isChain_cons.mpr ⟨fun z _ => ⟨fun space => absurd space notSpace, fun ends => ?_⟩,
          inductionHypothesis fun z present => inside z (List.mem_cons_of_mem y present)⟩
        rw [noBreak] at ends
        cases ends
    exact general cs name.notBlank

/-- No blanks meet in a name. -/
theorem blankPairs_eq (front : List Char) (inside : ∀ y ∈ front, y ≠ ' ' ∧ isBreak y = false) :
    blankPairs front = (false, false) := by
  induction front with
  | nil => rfl
  | cons x front inductionHypothesis =>
    cases front with
    | nil => rfl
    | cons y front =>
      have further := inductionHypothesis fun z present => inside z (List.mem_cons_of_mem x present)
      have first := inside x List.mem_cons_self
      have second := inside y (by simp)
      simp [blankPairs, further, first.2, second.2]

/-- A name may be written in every style, on one line. -/
theorem analyze_eq (name : IsName cs) :
    analyze cs = { empty := false, multiline := false, allowsPlain := true, allowsSingle := true } := by
  have special : (cs.any fun c => c != '\n' && !isOrdinary c) = false :=
    List.any_eq_false.mpr fun x present => by simp [name.ordinary x present]
  have oneLine : cs.any isBreak = false :=
    List.any_eq_false.mpr fun x present => by simp [(name.notBlank x present).2]
  have start : startsBlank cs = false := by
    cases cs with
    | nil => rfl
    | cons x rest =>
      have inside := name.notBlank x List.mem_cons_self
      simp [startsBlank, inside.1, inside.2]
  have ending : startsBlank cs.reverse = false := by
    cases reversed : cs.reverse with
    | nil => rfl
    | cons x rest =>
      have present : x ∈ cs := List.mem_reverse.mp (by rw [reversed]; exact List.mem_cons_self)
      have inside := name.notBlank x present
      simp [startsBlank, inside.1, inside.2]
  have indicator : hasIndicator cs = false := by
    cases cs with
    | nil => rfl
    | cons x rest =>
      have other (y : Char) (refused : y ∈ nameRefused) : x ≠ y :=
        name.ne_of_mem List.mem_cons_self refused
      have dash := other '-' (by decide)
      have point := other '.' (by decide)
      have question := other '?' (by decide)
      have colon := other ':' (by decide)
      simp [hasIndicator, List.isPrefixOf, dash.symm, point.symm, name.leading x List.mem_cons_self,
        question, colon, dash, hasInnerIndicator_tail ' ' _ name.hasInnerIndicator_eq_false]
  rw [Yaml.analyze_eq cs name.nonempty, special, blankPairs_eq cs name.notBlank, oneLine, start,
    ending, indicator]
  rfl

/-- A name is written plainly unless it looks like another type. -/
theorem chooseStyle_eq (name : IsName cs) (bare key : Bool) :
    chooseStyle bare key (analyze cs) = if bare then .plain else .single := by
  rw [name.analyze_eq]
  cases bare <;> cases key <;> rfl

/-- Without quotes a name is written as it is. -/
theorem writePlain_eq (name : IsName cs) (site : Site) (column : Nat) :
    writePlain site column cs = cs := by
  obtain ⟨next, written⟩ := writePlain_word site column cs [] fun x present =>
    (name.notBlank x present).1
  rw [List.append_nil] at written
  rw [written, show writePlain site next [] = [] from rfl, List.append_nil]

/-- Inside single quotes a name is written as it is. -/
theorem writeSingle_eq (name : IsName cs) (site : Site) (first : Bool) (column : Nat) :
    writeSingle site (cs.length + 1) first column cs = cs := by
  have general (front : List Char) (inside : ∀ y ∈ front, isSolid y = true ∧ y ≠ '\'')
      (first : Bool) (column : Nat) : writeSingle site (front.length + 1) first column front = front := by
    induction front generalizing first column with
    | nil => rfl
    | cons y front inductionHypothesis =>
      obtain ⟨solid, noQuote⟩ := inside y List.mem_cons_self
      rw [List.length_cons, writeSingle_solid site _ first column y front solid noQuote,
        inductionHypothesis fun z present => inside z (List.mem_cons_of_mem y present)]
  exact general cs (fun y present => ⟨name.solid y present, name.ne_of_mem present (by decide)⟩)
    first column

/-- A name comes back as it is from either style. -/
theorem readBack_eq (name : IsName cs) (bare : Bool) :
    readBack (if bare then .plain else .single) cs = cs := by
  have noControl : '\u0085' ∉ cs := fun present =>
    absurd (name.notBlank _ present).2 (by decide)
  cases bare with
  | true => rfl
  | false => exact carried_eq_self cs false noControl

/-- What is written for a name. -/
def written (cs : List Char) (bare : Bool) : List Char :=
  if bare then cs else '\'' :: cs ++ ['\'']

theorem writeStyled_eq (name : IsName cs) (site : Site) (bare : Bool) :
    writeStyled site (if bare then .plain else .single) cs = written cs bare := by
  cases bare with
  | true => exact name.writePlain_eq site site.column
  | false =>
    show '\'' :: writeSingle site (cs.length + 1) true (site.column + 1) cs ++ ['\''] = _
    rw [name.writeSingle_eq]
    rfl

/-- It comes back as plain exactly if it was written without quotes. -/
theorem beq_plain_eq (bare : Bool) :
    ((if bare then .plain else .single : ScalarStyle) == .plain) = bare := by
  cases bare <;> rfl

/-- Each character of it takes one column. -/
theorem inline_written (name : IsName cs) (bare : Bool) (x : Char) (present : x ∈ written cs bare) :
    isInline x = true := by
  cases bare with
  | true => exact name.inline x present
  | false =>
    have quoted : x = '\'' ∨ x ∈ cs := by
      have inside : x ∈ '\'' :: cs ++ ['\''] := present
      simp only [List.cons_append, List.mem_cons, List.mem_append, List.not_mem_nil, or_false] at inside
      rcases inside with rfl | inside | rfl
      · exact .inl rfl
      · exact .inr inside
      · exact .inl rfl
    rcases quoted with rfl | inside
    · decide
    · exact name.inline x inside

/-- The quotes make it at most two characters longer. -/
theorem length_written (cs : List Char) (bare : Bool) : (written cs bare).length ≤ cs.length + 2 := by
  cases bare <;> simp [written]

theorem fits (name : IsName cs) (bare : Bool) :
    Fits (if bare then .plain else .single) cs := by
  cases bare with
  | true =>
    refine ⟨name.plainText, fun x rest same => ?_⟩
    have present : x ∈ cs := by simp [same]
    have question := name.ne_of_mem present (y := '?') (by decide)
    have colon := name.ne_of_mem present (y := ':') (by decide)
    have dash := name.ne_of_mem present (y := '-') (by decide)
    exact ⟨name.leading x present, by simp [question, colon, dash]⟩
  | false => exact name.quotable

end IsName

end TypedSheets.Yaml
