import TypedSheets.Proofs.Number.DigitRuns
import TypedSheets.Proofs.Yaml.NameTexts
import TypedSheets.Yaml.ScalarValue

/-!
# Integers as scalars

The decimal text of an integer is written as it stands: nothing in it is an indicator. It looks
like an integer and like nothing else, and it denotes the integer that it was written for.
-/

namespace TypedSheets.Yaml

open TypedSheets.Number

/-- Decimal digits without a leading zero, unless zero is the whole number. -/
structure IsNumeral (cs : List Char) : Prop where
  nonempty : cs ≠ []
  digits : ∀ x ∈ cs, isAsciiDigit x = true
  leading : cs = ['0'] ∨ cs.head? ≠ some '0'

/-- The digits of a number are a numeral. -/
theorem isNumeral_naturalChars (n : Nat) : IsNumeral (naturalChars n) where
  nonempty := naturalChars_ne_nil n
  digits := isAsciiDigit_of_mem_naturalChars n
  leading := by
    by_cases zero : n = 0
    · subst zero
      exact .inl (by rw [naturalChars_eq]; rfl)
    · exact .inr (naturalChars_head n (Nat.pos_of_ne_zero zero))

/-- There are ten ASCII digits. -/
theorem mem_of_isAsciiDigit (x : Char) (digit : isAsciiDigit x = true) :
    x ∈ "0123456789".toList := by
  simp only [isAsciiDigit, Bool.and_eq_true, decide_eq_true_eq] at digit
  have low : 48 ≤ x.toNat := digit.1
  have high : x.toNat ≤ 57 := digit.2
  have place : ∀ code, 48 ≤ code → code ≤ 57 → Char.ofNat code ∈ "0123456789".toList := by
    intro code _ _
    interval_cases code <;> decide
  have same := place x.toNat low high
  rwa [Char.ofNat_toNat] at same

/-- What holds of each of the ten digits holds of every character of a numeral. -/
theorem IsNumeral.all {cs : List Char} (numeral : IsNumeral cs) {P : Char → Prop} [DecidablePred P]
    (checked : ("0123456789".toList.all fun x => decide (P x)) = true) (x : Char) (present : x ∈ cs) :
    P x :=
  Text.forall_mem_of_all checked x (mem_of_isAsciiDigit x (numeral.digits x present))

namespace IsNumeral

section

variable {cs : List Char} (numeral : IsNumeral cs)

include numeral

/-- A numeral could stand as a name. -/
theorem isName : IsName cs where
  nonempty := numeral.nonempty
  ordinary := numeral.all (by decide)
  solid := numeral.all (by decide)
  harmless := numeral.all (by decide)

/-- A numeral starts with a digit, and goes on with digits. -/
theorem exists_cons : ∃ c rest, cs = c :: rest ∧ isAsciiDigit c = true ∧
    ∀ x ∈ rest, isAsciiDigit x = true := by
  obtain ⟨c, rest, rfl⟩ := List.exists_cons_of_ne_nil numeral.nonempty
  exact ⟨c, rest, rfl, numeral.digits c List.mem_cons_self,
    fun x present => numeral.digits x (List.mem_cons_of_mem c present)⟩

/-- A numeral carries no sign. -/
theorem takeSign_eq : takeSign cs = (false, cs) := by
  obtain ⟨c, rest, rfl⟩ := List.exists_cons_of_ne_nil numeral.nonempty
  have noMinus := numeral.all (P := fun x => x ≠ '-') (by decide) c List.mem_cons_self
  have noPlus := numeral.all (P := fun x => x ≠ '+') (by decide) c List.mem_cons_self
  unfold takeSign
  split
  · next same => cases same; exact absurd rfl noMinus
  · next same => cases same; exact absurd rfl noPlus
  · rfl

/-- Behind a minus sign a numeral is still written as it stands. -/
theorem analyze_minus : analyze ('-' :: cs) =
    { empty := false, multiline := false, allowsPlain := true, allowsSingle := true } := by
  have name := numeral.isName
  obtain ⟨c, rest, rfl, digit, -⟩ := numeral.exists_cons
  have special : (('-' :: c :: rest).any fun c => c != '\n' && !isOrdinary c) = false := by
    refine List.any_eq_false.mpr fun x present => ?_
    rcases List.mem_cons.mp present with rfl | present
    · decide
    · simp [name.ordinary x present]
  have notBlank : ∀ x ∈ '-' :: c :: rest, x ≠ ' ' ∧ isBreak x = false := by
    intro x present
    rcases List.mem_cons.mp present with rfl | present
    · decide
    · exact name.notBlank x present
  have oneLine : ('-' :: c :: rest).any isBreak = false :=
    List.any_eq_false.mpr fun x present => by simp [(notBlank x present).2]
  have ending : startsBlank ('-' :: c :: rest).reverse = false := by
    cases reversed : ('-' :: c :: rest).reverse with
    | nil => rfl
    | cons x more =>
      have present : x ∈ '-' :: c :: rest :=
        List.mem_reverse.mp (by rw [reversed]; exact List.mem_cons_self)
      have inside := notBlank x present
      simp [startsBlank, inside.1, inside.2]
  have first := notBlank c (by simp)
  have noDash : c ≠ '-' := name.ne_of_mem List.mem_cons_self (by decide)
  have noColon : c ≠ ':' := name.ne_of_mem List.mem_cons_self (by decide)
  have noComment : c ≠ '#' := name.ne_of_mem List.mem_cons_self (by decide)
  have inner := hasInnerIndicator_tail ' ' _ name.hasInnerIndicator_eq_false
  have indicator : hasIndicator ('-' :: c :: rest) = false := by
    have leading : isLeadingIndicator '-' = false := by decide
    have solid := name.solid c List.mem_cons_self
    have token : endsToken (c :: rest) = false := by
      simp [endsToken, isSpace_of_solid solid, isBreak_of_solid solid]
    simp [hasIndicator, List.isPrefixOf, noDash.symm, leading, token, hasInnerIndicator, noColon,
      noComment, inner]
  rw [Yaml.analyze_eq _ (by simp), special, IsName.blankPairs_eq _ notBlank, oneLine, ending, indicator]
  rfl

end

/-- A text with a digit in it is no word. -/
theorem not_contains (words : List String) (cs : List Char) (c : Char) (present : c ∈ cs)
    (digit : isAsciiDigit c = true)
    (none : (words.all fun word => word.toList.all fun x => !isAsciiDigit x) = true) :
    words.contains (String.ofList cs) = false := by
  rw [List.contains_eq_mem, decide_eq_false_iff_not]
  intro found
  have word := List.all_eq_true.mp none _ found
  rw [String.toList_ofList] at word
  have refused := List.all_eq_true.mp word c present
  rw [digit] at refused
  cases refused

/-- A numeral other than zero starts with a digit other than zero. -/
theorem eq_zero_or_cons {cs : List Char} (numeral : IsNumeral cs) :
    cs = ['0'] ∨ ∃ c rest, cs = c :: rest ∧ c ≠ '0' ∧ isAsciiDigit c = true ∧
      ∀ x ∈ rest, isAsciiDigit x = true := by
  obtain ⟨c, rest, whole, digit, others⟩ := numeral.exists_cons
  refine numeral.leading.imp_right fun leading => ⟨c, rest, whole, ?_, digit, others⟩
  rintro rfl
  exact leading (by rw [whole]; rfl)

section Signed

variable {cs signed : List Char} (numeral : IsNumeral cs) (sign : signed = cs ∨ signed = '-' :: cs)

include numeral sign

/-- Without its minus sign a numeral is what it was. -/
theorem unsigned_eq : unsigned signed = cs := by
  rcases sign with rfl | rfl
  · rw [unsigned, numeral.takeSign_eq]
  · rfl

/-- A numeral has no point, so it looks like no decimal fraction. -/
theorem looksLikeDecimal_eq : looksLikeDecimal signed = false := by
  obtain ⟨c, rest, whole, -, others⟩ := numeral.exists_cons
  have ends : rest.dropWhile isDigitOrUnderscore = [] :=
    List.dropWhile_eq_nil_iff.mpr fun x inside => by simp [isDigitOrUnderscore, others x inside]
  have noPoint : ∀ more, signed ≠ '.' :: more := by
    rintro more rfl
    rcases sign with same | same
    · exact absurd rfl (numeral.isName.ne_of_mem (x := '.') (y := '.') (by rw [← same]; simp) (by decide))
    · cases same
  unfold looksLikeDecimal
  split
  · next c more => exact absurd rfl (noPoint (c :: more))
  · rw [numeral.unsigned_eq sign, whole]
    simp [ends, dropSexagesimal]

/-- A numeral looks like an integer. -/
theorem looksLikeInteger_eq : looksLikeInteger signed = true := by
  unfold looksLikeInteger
  rw [numeral.unsigned_eq sign]
  rcases numeral.eq_zero_or_cons with rfl | ⟨c, rest, whole, noZero, digit, others⟩
  · rfl
  · have ends : rest.dropWhile isDigitOrUnderscore = [] :=
      List.dropWhile_eq_nil_iff.mpr fun x inside => by simp [isDigitOrUnderscore, others x inside]
    rw [whole]
    split
    · next same => cases same
    · next same => exact absurd (List.cons.inj same).1 noZero
    · next same => exact absurd (List.cons.inj same).1 noZero
    · next same => exact absurd (List.cons.inj same).1 noZero
    · next same => exact absurd (List.cons.inj same).1 noZero
    · next same =>
      cases same
      rw [digit, ends]
      rfl

end Signed

/-- A numeral with or without a minus sign is read as an integer: it is none of the words of other
types either. -/
theorem resolve_eq (cs signed : List Char) (numeral : IsNumeral cs)
    (sign : signed = cs ∨ signed = '-' :: cs) : resolve (String.ofList signed) = .int := by
  obtain ⟨c, rest, whole, digit, -⟩ := numeral.exists_cons
  have present : c ∈ signed := by
    rcases sign with rfl | rfl <;> simp [whole]
  have magnitude : c ∈ unsigned signed := by
    rw [numeral.unsigned_eq sign, whole]
    exact List.mem_cons_self
  have noWord := not_contains nullWords signed c present digit (by decide)
  have noTruth := not_contains trueWords signed c present digit (by decide)
  have noFalsehood := not_contains falseWords signed c present digit (by decide)
  have noInfinity := not_contains [".inf", ".Inf", ".INF"] (unsigned signed) c magnitude digit
    (by decide)
  have noNan := not_contains [".nan", ".NaN", ".NAN"] signed c present digit (by decide)
  have noFloat : looksLikeFloat signed = false := by
    rw [looksLikeFloat, numeral.looksLikeDecimal_eq sign, noInfinity, noNan]
    rfl
  have integer := numeral.looksLikeInteger_eq sign
  have bare : resolveBare (String.ofList signed) = .int := by
    simp only [resolveBare, String.toList_ofList, noWord, noTruth, noFalsehood, noFloat, integer,
      Bool.false_or, Bool.false_eq_true, if_false, if_true]
  rw [resolve, bare]

/-- Digits have no underscore to separate. -/
theorem underscoresSeparate_digits (separated : Bool) (digits : List Char)
    (each : ∀ x ∈ digits, isAsciiDigit x = true) (start : separated = true ∨ digits ≠ []) :
    underscoresSeparate separated digits = true := by
  induction digits generalizing separated with
  | nil =>
    rcases start with rfl | nonempty
    · rfl
    · exact absurd rfl nonempty
  | cons x digits inductionHypothesis =>
    have noUnderscore : x ≠ '_' := by
      rintro rfl
      exact absurd (each '_' List.mem_cons_self) (by decide)
    rw [underscoresSeparate, if_neg noUnderscore]
    exact inductionHypothesis true (fun y present => each y (List.mem_cons_of_mem x present)) (.inl rfl)

/-- The digits of a numeral are read in base ten, as long as there are few enough. -/
theorem readInteger_eq {cs : List Char} (numeral : IsNumeral cs) (short : cs.length ≤ digitLimit) :
    readInteger 10 (String.ofList cs) = .ok (digitsValue 10 cs : Int) := by
  have unified : cs.map numeralChar = cs := by
    refine (List.map_congr_left fun x present => ?_).trans (List.map_id cs)
    exact numeral.all (P := fun x => numeralChar x = id x) (by decide) x present
  have front : cs.dropWhile isPlainBlank = cs := by
    obtain ⟨c, rest, whole⟩ := List.exists_cons_of_ne_nil numeral.nonempty
    have noBlank : isPlainBlank c = false :=
      numeral.all (P := fun x => isPlainBlank x = false) (by decide) c (by simp [whole])
    rw [whole, List.dropWhile_cons_of_neg (by simp [noBlank])]
  have noMarker : dropBaseMarker 10 cs = cs := by
    unfold dropBaseMarker
    split
    · simp
    · rfl
  have inRun : ∀ x ∈ cs, (isBaseDigit 10 x || x == '_') = true := numeral.all (by decide)
  have run : cs.takeWhile (fun x => isBaseDigit 10 x || x == '_') = cs :=
    List.takeWhile_eq_self_iff.mpr inRun
  have behind : cs.dropWhile (fun x => isBaseDigit 10 x || x == '_') = [] :=
    List.dropWhile_eq_nil_iff.mpr inRun
  have separated := underscoresSeparate_digits false cs numeral.digits (.inr numeral.nonempty)
  have withinLimit : ¬digitLimit < cs.countP (· != '_') :=
    Nat.not_lt.mpr (Nat.le_trans List.countP_le_length short)
  simp only [readInteger, String.toList_ofList, unified, front, numeral.takeSign_eq, noMarker, run,
    behind, separated, withinLimit, and_false, Bool.not_true, Bool.false_eq_true, if_false,
    List.all_nil]

/-- A numeral within the digit limit denotes what its digits denote. -/
theorem readMagnitude_eq (cs : List Char) (numeral : IsNumeral cs) (short : cs.length ≤ digitLimit) :
    readMagnitude cs = .ok (digitsValue 10 cs : Int) := by
  have read := numeral.readInteger_eq short
  have noColon : cs.contains ':' = false := by
    rw [List.contains_eq_mem, decide_eq_false_iff_not]
    intro present
    exact absurd (numeral.digits ':' present) (by decide)
  rcases numeral.eq_zero_or_cons with rfl | ⟨c, rest, rfl, noZero, -, -⟩
  · rfl
  · unfold readMagnitude
    split
    · next same => cases same
    · next same => exact absurd (List.cons.inj same).1 noZero
    · next same => exact absurd (List.cons.inj same).1 noZero
    · next same => exact absurd (List.cons.inj same).1 noZero
    · next same => exact absurd (List.cons.inj same).1 noZero
    · simp only [noColon, read, Bool.false_eq_true, if_false]

end IsNumeral

/-- The text of an integer is a numeral with or without a minus sign. -/
theorem integerChars_signed (n : Int) : integerChars n = naturalChars n.natAbs ∨
    integerChars n = '-' :: naturalChars n.natAbs := by
  unfold integerChars
  split
  · exact .inr rfl
  · exact .inl rfl

/-- The text of an integer looks like one. -/
theorem resolve_integerChars (n : Int) : resolve (String.ofList (integerChars n)) = .int :=
  IsNumeral.resolve_eq _ _ (isNumeral_naturalChars n.natAbs) (integerChars_signed n)

/-- It is written as it stands. -/
theorem chooseStyle_integerChars (n : Int) :
    chooseStyle true false (analyze (integerChars n)) = .plain := by
  have numeral := isNumeral_naturalChars n.natAbs
  rcases integerChars_signed n with same | same
  · rw [same, numeral.isName.analyze_eq]
    rfl
  · rw [same, numeral.analyze_minus]
    rfl

/-- It denotes the integer, when it has no more digits than are converted. -/
theorem readInt_integerChars (n : Int) (small : n.natAbs < 10 ^ digitLimit) :
    readInt (String.ofList (integerChars n)) = .ok n := by
  have numeral := isNumeral_naturalChars n.natAbs
  have short := length_naturalChars_le n.natAbs digitLimit small (by decide)
  have magnitude := IsNumeral.readMagnitude_eq _ numeral short
  rw [digitsValue_naturalChars] at magnitude
  have noUnderscore : (naturalChars n.natAbs).filter (· != '_') = naturalChars n.natAbs :=
    List.filter_eq_self.mpr (numeral.all (by decide))
  rw [readInt, String.toList_ofList, integerChars]
  by_cases negative : n < 0
  · have taken : takeSign (('-' :: naturalChars n.natAbs).filter (· != '_')) =
        (true, naturalChars n.natAbs) := by
      rw [List.filter_cons_of_pos (by decide), noUnderscore]
      rfl
    simp only [if_pos negative, taken, magnitude, Except.map, if_true, Except.ok.injEq]
    omega
  · simp only [if_neg negative, noUnderscore, numeral.takeSign_eq, magnitude, Except.map,
      Bool.false_eq_true, if_false, Except.ok.injEq]
    omega

end TypedSheets.Yaml
