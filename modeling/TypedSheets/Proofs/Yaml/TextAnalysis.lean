import TypedSheets.Proofs.Yaml.PlainLayout
import TypedSheets.Proofs.Yaml.SingleQuoted

/-!
# What the analysis of a text promises

The analysis decides which styles a text may be written in. Where it allows single quotes, the
text is quotable; where it allows no quotes at all, the text is plain and nothing at its start
would be taken for an indicator.
-/

namespace TypedSheets.Yaml

/-- Where no space meets a line end, neighbours may meet. -/
theorem isChain_of_blankPairs (cs : List Char) (apart : blankPairs cs = (false, false)) :
    cs.IsChain MayMeet := by
  induction cs with
  | nil => exact .nil
  | cons x cs inductionHypothesis =>
    cases cs with
    | nil => exact .singleton x
    | cons y cs =>
      simp only [blankPairs, Prod.mk.injEq, Bool.or_eq_false_iff, Bool.and_eq_false_iff,
        beq_eq_false_iff_ne, ne_eq] at apart
      obtain ⟨⟨spaceBreak, notSpaceBreak⟩, breakSpace, notBreakSpace⟩ := apart
      refine .cons_cons ⟨fun space => ?_, fun ends => ?_⟩
        (inductionHypothesis (Prod.ext spaceBreak breakSpace))
      · exact notSpaceBreak.resolve_left fun different => different space
      · exact notBreakSpace.resolve_left fun noBreak => by simp [ends] at noBreak

/-- What the analysis of a text that is not empty is made of. -/
theorem analyze_eq (cs : List Char) (nonempty : cs ≠ []) :
    analyze cs =
      { empty := false
        multiline := cs.any isBreak
        allowsPlain := !((cs.any fun c => c != '\n' && !isOrdinary c) || (blankPairs cs).1 ||
          (blankPairs cs).2 || cs.any isBreak || (startsBlank cs || startsBlank cs.reverse) ||
          hasIndicator cs)
        allowsSingle := !((cs.any fun c => c != '\n' && !isOrdinary c) || (blankPairs cs).1 ||
          (blankPairs cs).2) } := by
  have notEmpty : cs.isEmpty = false := by simpa using nonempty
  simp [analyze, notEmpty]

/-- A text that may stand in single quotes is quotable. -/
theorem quotable_of_allowsSingle (cs : List Char) (allowed : (analyze cs).allowsSingle = true) :
    Quotable cs := by
  by_cases nonempty : cs = []
  · subst nonempty
    exact ⟨by simp, .nil⟩
  · rw [analyze_eq cs nonempty] at allowed
    simp only [Bool.not_eq_true', Bool.or_eq_false_iff, List.any_eq_false, Bool.and_eq_true,
      bne_iff_ne, ne_eq, Bool.not_eq_true', not_and, Bool.not_eq_false] at allowed
    obtain ⟨⟨special, spaceBreak⟩, breakSpace⟩ := allowed
    refine ⟨fun x present => ?_, isChain_of_blankPairs cs (Prod.ext spaceBreak breakSpace)⟩
    by_cases feed : x = '\n'
    · exact .inl feed
    · exact .inr (special x present feed)

/-- The start of a text that is not taken for an indicator. -/
def StartsPlainly (cs : List Char) : Prop :=
  ∀ x rest, cs = x :: rest → isLeadingIndicator x = false ∧
    ((x == '?' || x == ':' || x == '-') && endsToken rest) = false

/-- A text that may stand without quotes is plain and starts plainly. -/
theorem plainText_of_allowsPlain (cs : List Char) (nonempty : cs ≠ [])
    (allowed : (analyze cs).allowsPlain = true) : PlainText cs ∧ StartsPlainly cs := by
  rw [analyze_eq cs nonempty] at allowed
  simp only [Bool.not_eq_true', Bool.or_eq_false_iff] at allowed
  obtain ⟨⟨⟨⟨⟨special, -⟩, -⟩, oneLine⟩, startBlank, endBlank⟩, indicator⟩ := allowed
  have noBreak (x : Char) (present : x ∈ cs) : isBreak x = false := by
    simpa using List.any_eq_false.mp oneLine x present
  have ordinary (x : Char) (present : x ∈ cs) : isOrdinary x = true := by
    have notFeed : x ≠ '\n' := by
      rintro rfl
      exact absurd (noBreak _ present) (by decide)
    have plain := List.any_eq_false.mp special x present
    simpa [notFeed] using plain
  obtain ⟨x, rest, rfl⟩ := List.exists_cons_of_ne_nil nonempty
  simp only [hasIndicator, Bool.or_eq_false_iff] at indicator
  obtain ⟨⟨⟨-, leading⟩, alone⟩, inner⟩ := indicator
  have first : x ≠ ' ' := by
    rintro rfl
    simp [startsBlank] at startBlank
  have last : (x :: rest).getLast? ≠ some ' ' := by
    intro found
    rw [List.getLast?_eq_head?_reverse] at found
    cases reversed : (x :: rest).reverse with
    | nil => simp [reversed] at found
    | cons y more =>
      rw [reversed, List.head?_cons, Option.some.injEq] at found
      subst found
      simp [reversed, startsBlank] at endBlank
  have comment : x ≠ '#' := by
    rintro rfl
    exact absurd leading (by decide)
  have unmarked : hasInnerIndicator (' ' :: x :: rest) = false := by
    have colon : (x == ':' && endsToken rest) = false := by
      simp only [Bool.and_eq_false_iff, Bool.or_eq_false_iff] at alone ⊢
      exact alone.imp_left fun others => others.1.2
    simp [hasInnerIndicator, colon, comment, inner]
  refine ⟨⟨by simp, ordinary, noBreak, unmarked, by simpa using first, last⟩, ?_⟩
  intro y more same
  cases same
  exact ⟨leading, alone⟩

end TypedSheets.Yaml
