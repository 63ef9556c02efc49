import Mathlib.Data.List.Forall2
import Mathlib.Data.Nat.Digits.Defs
import TypedSheets.Number.IntegerText
import TypedSheets.Proofs.Number.DigitRuns
import TypedSheets.Proofs.Text.Trimming

/-!
# The notation of integers

Which texts denote an integer, and which one, is said here by a grammar: a sign or none, the marker of base
sixteen where it is needed, and digits with single underscores between them. Leading zeros are allowed, and
the digits of any script count. The reader of integers accepts exactly these texts among those that are
trimmed. The main statements are `readInteger_decimal` and `readInteger_hexadecimal`.
-/

namespace TypedSheets.Number

open TypedSheets.Text

/-- The digit that a letter stands for in bases above ten. -/
def letterDigit? (c : Char) : Option Nat :=
  if 'a' ≤ c ∧ c ≤ 'f' then some (c.toNat - 87)
  else if 'A' ≤ c ∧ c ≤ 'F' then some (c.toNat - 55)
  else none

/-- A character stands for a digit of a base: a decimal digit of any script, or a letter. -/
def IsDigit (base : Nat) (c : Char) (digit : Nat) : Prop :=
  (digitValue? c).or (letterDigit? c) = some digit ∧ digit < base

/-- A run of digits with at most one underscore between any two of them. -/
inductive DigitRun (base : Nat) : List Char → List Nat → Prop where
  | last {c : Char} {digit : Nat} (isDigit : IsDigit base c digit) : DigitRun base [c] [digit]
  | next {c : Char} {digit : Nat} {run : List Char} {digits : List Nat} (isDigit : IsDigit base c digit)
      (further : DigitRun base run digits) : DigitRun base (c :: run) (digit :: digits)
  | apart {c : Char} {digit : Nat} {run : List Char} {digits : List Nat} (isDigit : IsDigit base c digit)
      (further : DigitRun base run digits) : DigitRun base (c :: '_' :: run) (digit :: digits)

/-- A sign or none, and whether it negates. -/
inductive IsSign : List Char → Bool → Prop where
  | none : IsSign [] false
  | plus : IsSign ['+'] false
  | minus : IsSign ['-'] true

/-- The integer of a sign and digits, the most significant one first. -/
def integerOf (negative : Bool) (base : Nat) (digits : List Nat) : Int :=
  let magnitude : Nat := Nat.ofDigits base digits.reverse
  if negative then -magnitude else magnitude

/-- Decimal notation: a sign and digits, no more of them than are converted. -/
def IsDecimal (cs : List Char) (n : Int) : Prop :=
  ∃ sign run digits negative, cs = sign ++ run ∧ IsSign sign negative ∧ DigitRun 10 run digits ∧
    digits.length ≤ digitLimit ∧ n = integerOf negative 10 digits

/-- The markers of base sixteen; one underscore may follow them. -/
def hexadecimalMarkers : List (List Char) := [['0', 'x'], ['0', 'X'], ['0', 'x', '_'], ['0', 'X', '_']]

/-- Hexadecimal notation: a sign, a marker, and as many digits as one likes. -/
def IsHexadecimal (cs : List Char) (n : Int) : Prop :=
  ∃ sign marker run digits negative, cs = sign ++ (marker ++ run) ∧ IsSign sign negative ∧
    marker ∈ hexadecimalMarkers ∧ DigitRun 16 run digits ∧ n = integerOf negative 16 digits

section Characters

variable {c : Char} {base digit : Nat}

/-- Decimal digits are below ten, and none of them is blank. -/
theorem digitValue?_some (value : digitValue? c = some digit) : digit < 10 ∧ isBlank c = false := by
  unfold digitValue? at value
  dsimp only at value
  split at value
  · split at value
    · next ascii =>
      cases value
      refine ⟨by omega, ?_⟩
      unfold isBlank
      simp only [Bool.or_eq_false_iff, Bool.and_eq_false_iff, decide_eq_false_iff_not, beq_eq_false_iff_ne]
      omega
    · cases value
  · obtain ⟨first, found, rfl⟩ := Option.map_eq_some_iff.mp value
    have among := List.mem_of_find?_eq_some found
    have near := List.find?_some found
    simp only [Bool.and_eq_true, decide_eq_true_eq] at near
    -- The digits of each script lie between two of the blanks.
    have between : ∀ first ∈ zeroDigits, first = 0x30 ∨ 0x660 ≤ first ∧ first + 9 < 0x1680 ∨
        0x1680 < first ∧ first + 9 < 0x2000 ∨ 0x3000 < first := by decide +kernel
    have own := between first among
    refine ⟨by omega, ?_⟩
    unfold isBlank
    simp only [Bool.or_eq_false_iff, Bool.and_eq_false_iff, decide_eq_false_iff_not, beq_eq_false_iff_ne]
    omega

/-- Letters are not blank. -/
theorem letterDigit?_some (value : letterDigit? c = some digit) : isBlank c = false := by
  have within : 65 ≤ c.toNat ∧ c.toNat ≤ 102 := by
    unfold letterDigit? at value
    split at value
    · next lower => exact ⟨Nat.le_trans (by decide) (show 97 ≤ c.toNat from lower.1), lower.2⟩
    · split at value
      · next upper => exact ⟨upper.1, Nat.le_trans (show c.toNat ≤ 70 from upper.2) (by decide)⟩
      · cases value
  unfold isBlank
  simp only [Bool.or_eq_false_iff, Bool.and_eq_false_iff, decide_eq_false_iff_not, beq_eq_false_iff_ne]
  omega

/-- Beyond the ASCII letters no character is a letter digit. -/
theorem letterDigit?_wide (wide : ¬c.toNat < 127) : letterDigit? c = none := by
  have notLower : ¬('a' ≤ c ∧ c ≤ 'f') := fun lower => wide (Nat.lt_of_le_of_lt lower.2 (by decide))
  have notUpper : ¬('A' ≤ c ∧ c ≤ 'F') := fun upper => wide (Nat.lt_of_le_of_lt upper.2 (by decide))
  rw [letterDigit?, if_neg notLower, if_neg notUpper]

/-- The unified form of a character stands for the digit that the character stands for. -/
theorem baseDigit?_numeralChar (c : Char) :
    baseDigit? (numeralChar c) = (digitValue? c).or (letterDigit? c) := by
  by_cases ascii : c.toNat < 127
  · rw [numeralChar, if_pos ascii, baseDigit?, digitValue?, if_pos (by omega : c.toNat < 128)]
    by_cases decimal : '0' ≤ c ∧ c ≤ '9'
    · have within : 48 ≤ c.toNat ∧ c.toNat ≤ 57 := decimal
      rw [if_pos decimal, if_pos within, Option.some_or]
    · have outside : ¬(48 ≤ c.toNat ∧ c.toNat ≤ 57) := decimal
      rw [if_neg decimal, if_neg outside, Option.none_or, letterDigit?]
  · rw [numeralChar, if_neg ascii, letterDigit?_wide ascii, Option.or_none]
    cases value : digitValue? c with
    | none => split <;> rfl
    | some digit =>
      obtain ⟨small, solid⟩ := digitValue?_some value
      rw [solid, if_neg Bool.false_ne_true]
      exact baseDigit?_digitChar digit small

/-- What is no character of a number above ASCII becomes none that numbers are made of. -/
theorem numeralChar_wide (wide : ¬c.toNat < 127) :
    numeralChar c = ' ' ∨ numeralChar c = '?' ∨ ∃ digit < 10, numeralChar c = digitChar digit := by
  rw [numeralChar, if_neg wide]
  split
  · exact .inl rfl
  · split
    · next digit value => exact .inr (.inr ⟨digit, (digitValue?_some value).1, rfl⟩)
    · exact .inr (.inl rfl)

/-- Signs and underscores come from themselves alone. -/
theorem numeralChar_eq_iff {mark : Char} (isMark : mark ∈ ['+', '-', '_']) : numeralChar c = mark ↔ c = mark := by
  by_cases ascii : c.toNat < 127
  · rw [numeralChar, if_pos ascii]
  · have other : ∀ mark ∈ ['+', '-', '_'], mark.toNat < 127 ∧ mark ≠ ' ' ∧ mark ≠ '?' ∧
        ∀ digit < 10, mark ≠ digitChar digit := forall_mem_of_all (by decide)
    obtain ⟨low, noBlank, noQuestion, noDigit⟩ := other mark isMark
    refine iff_of_false ?_ ?_
    · rintro rfl
      rcases numeralChar_wide ascii with blank | question | ⟨digit, small, same⟩
      · exact noBlank blank
      · exact noQuestion question
      · exact noDigit digit small same
    · rintro rfl
      exact ascii low

/-- A character that is blank to a number is blank. -/
theorem isBlank_of_isPlainBlank (blank : isPlainBlank (numeralChar c) = true) : isBlank c = true := by
  unfold numeralChar at blank
  split at blank
  · unfold isPlainBlank at blank
    unfold isBlank
    simp only [Bool.or_eq_true, Bool.and_eq_true, decide_eq_true_eq, beq_iff_eq] at blank ⊢
    omega
  · split at blank
    · assumption
    · split at blank
      · next digit value =>
        have noBlank : ∀ digit < 10, isPlainBlank (digitChar digit) = false := by decide
        rw [noBlank digit (digitValue?_some value).1] at blank
        cases blank
      · cases blank

theorem isDigit_iff : IsDigit base c digit ↔ baseDigit? (numeralChar c) = some digit ∧ digit < base := by
  rw [IsDigit, baseDigit?_numeralChar]

/-- A digit is neither a sign nor an underscore, nor blank. -/
theorem IsDigit.plain (isDigit : IsDigit base c digit) : c ∉ ['+', '-', '_'] ∧ isBlank c = false := by
  obtain ⟨value, -⟩ := isDigit
  constructor
  · intro mark
    have none : ∀ mark ∈ ['+', '-', '_'], (digitValue? mark).or (letterDigit? mark) = none :=
      forall_mem_of_all (by decide)
    rw [none c mark] at value
    cases value
  · rcases Option.or_eq_some_iff.mp value with decimal | ⟨-, letter⟩
    · exact (digitValue?_some decimal).2
    · exact letterDigit?_some letter

theorem IsDigit.isBaseDigit (isDigit : IsDigit base c digit) : isBaseDigit base (numeralChar c) = true := by
  obtain ⟨value, small⟩ := isDigit_iff.mp isDigit
  rw [Number.isBaseDigit, value]
  exact decide_eq_true small

theorem exists_isDigit (digit : isBaseDigit base (numeralChar c) = true) : ∃ value, IsDigit base c value := by
  unfold isBaseDigit at digit
  split at digit
  · next value known => exact ⟨value, isDigit_iff.mpr ⟨known, of_decide_eq_true digit⟩⟩
  · cases digit

end Characters

section Runs

variable {base : Nat} {cs run : List Char} {digits : List Nat}

/-- A run starts with a digit. -/
theorem DigitRun.exists_cons (isRun : DigitRun base run digits) :
    ∃ c rest digit, run = c :: rest ∧ IsDigit base c digit := by
  cases isRun with
  | last isDigit => exact ⟨_, _, _, rfl, isDigit⟩
  | next isDigit => exact ⟨_, _, _, rfl, isDigit⟩
  | apart isDigit => exact ⟨_, _, _, rfl, isDigit⟩

/-- It ends with one, so that nothing blank is at its end. -/
theorem DigitRun.last_solid (isRun : DigitRun base run digits) :
    ∀ c, run.getLast? = some c → isBlank c = false := by
  induction isRun with
  | last isDigit =>
    rintro c ⟨⟩
    exact isDigit.plain.2
  | next isDigit further inductionHypothesis =>
    intro c found
    obtain ⟨other, rest, _, rfl, _⟩ := further.exists_cons
    exact inductionHypothesis c (by rwa [List.getLast?_cons_cons] at found)
  | apart isDigit further inductionHypothesis =>
    intro c found
    obtain ⟨other, rest, _, rfl, _⟩ := further.exists_cons
    exact inductionHypothesis c (by rwa [List.getLast?_cons_cons, List.getLast?_cons_cons] at found)

/-- The characters of a run are digits and underscores. -/
theorem DigitRun.inside (isRun : DigitRun base run digits) :
    ∀ c ∈ run.map numeralChar, (isBaseDigit base c || c == '_') = true := by
  induction isRun with
  | last isDigit => simp [isDigit.isBaseDigit]
  | next isDigit _ inductionHypothesis =>
    rw [List.map_cons, List.forall_mem_cons]
    exact ⟨by rw [isDigit.isBaseDigit, Bool.true_or], inductionHypothesis⟩
  | apart isDigit _ inductionHypothesis =>
    rw [List.map_cons, List.map_cons, List.forall_mem_cons, List.forall_mem_cons]
    exact ⟨by rw [isDigit.isBaseDigit, Bool.true_or], Bool.or_true _, inductionHypothesis⟩

theorem IsDigit.ne_underscore {c : Char} {digit : Nat} (isDigit : IsDigit base c digit) : numeralChar c ≠ '_' := by
  rw [ne_eq, numeralChar_eq_iff (by decide)]
  rintro rfl
  exact isDigit.plain.1 (by decide)

/-- Its underscores separate digits, -/
theorem DigitRun.separate (isRun : DigitRun base run digits) (afterDigit : Bool) :
    underscoresSeparate afterDigit (run.map numeralChar) = true := by
  induction isRun generalizing afterDigit with
  | last isDigit =>
    rw [List.map_singleton, underscoresSeparate, if_neg isDigit.ne_underscore]
    rfl
  | next isDigit _ inductionHypothesis =>
    rw [List.map_cons, underscoresSeparate, if_neg isDigit.ne_underscore]
    exact inductionHypothesis true
  | apart isDigit _ inductionHypothesis =>
    rw [List.map_cons, underscoresSeparate, if_neg isDigit.ne_underscore, List.map_cons]
    exact inductionHypothesis false

/-- and are not counted. -/
theorem DigitRun.count (isRun : DigitRun base run digits) :
    (run.map numeralChar).countP (· != '_') = digits.length := by
  induction isRun with
  | last isDigit => simp [isDigit.ne_underscore]
  | next isDigit _ inductionHypothesis =>
    rw [List.map_cons, List.countP_cons_of_pos (by simpa using isDigit.ne_underscore), inductionHypothesis,
      List.length_cons]
  | apart isDigit _ inductionHypothesis =>
    rw [List.map_cons, List.countP_cons_of_pos (by simpa using isDigit.ne_underscore), List.map_cons,
      List.countP_cons_of_neg (by decide), inductionHypothesis, List.length_cons]

/-- What takes the digits of a run and skips its underscores folds over the digits. -/
theorem DigitRun.foldl {step : Nat → Char → Nat} (isRun : DigitRun base run digits)
    (taken : ∀ total c digit, IsDigit base c digit → step total (numeralChar c) = total * base + digit)
    (skipped : ∀ total, step total (numeralChar '_') = total) (total : Nat) :
    (run.map numeralChar).foldl step total = digits.foldl (fun total digit => total * base + digit) total := by
  induction isRun generalizing total with
  | last isDigit => exact taken _ _ _ isDigit
  | next isDigit _ inductionHypothesis =>
    rw [List.map_cons, List.foldl_cons, taken _ _ _ isDigit]
    exact inductionHypothesis _
  | apart isDigit _ inductionHypothesis =>
    rw [List.map_cons, List.foldl_cons, taken _ _ _ isDigit, List.map_cons, List.foldl_cons, skipped]
    exact inductionHypothesis _

/-- The number of a run is that of its digits. -/
theorem DigitRun.value (isRun : DigitRun base run digits) :
    digitsValue base (run.map numeralChar) = Nat.ofDigits base digits.reverse := by
  refine (isRun.foldl (fun total c digit isDigit => ?_) (fun total => rfl) 0).trans ?_
  · rw [(isDigit_iff.mp isDigit).1]
  · rw [Nat.ofDigits_eq_foldr, List.foldr_reverse]
    congr 1
    funext total digit
    rw [Nat.cast_id, Nat.mul_comm, Nat.add_comm]

/-- Digits and underscores whose underscores separate are a run. Behind a digit a single underscore or the
end may follow as well. -/
theorem exists_digitRun (inside : ∀ c ∈ cs.map numeralChar, (isBaseDigit base c || c == '_') = true) :
    (underscoresSeparate false (cs.map numeralChar) = true → ∃ digits, DigitRun base cs digits) ∧
    (underscoresSeparate true (cs.map numeralChar) = true →
      cs = [] ∨ (∃ digits, DigitRun base cs digits) ∨
        ∃ run digits, cs = '_' :: run ∧ DigitRun base run digits) := by
  induction cs with
  | nil => exact ⟨by rintro ⟨⟩, fun _ => .inl rfl⟩
  | cons c rest inductionHypothesis =>
    rw [List.map_cons, List.forall_mem_cons] at inside
    obtain ⟨apart, behind⟩ := inductionHypothesis inside.2
    rw [List.map_cons, underscoresSeparate, underscoresSeparate]
    by_cases underscore : numeralChar c = '_'
    · rw [if_pos underscore, if_pos underscore, Bool.false_and, Bool.true_and]
      obtain rfl := (numeralChar_eq_iff (by decide)).mp underscore
      refine ⟨by rintro ⟨⟩, fun separate => ?_⟩
      obtain ⟨digits, run⟩ := apart separate
      exact .inr (.inr ⟨rest, digits, rfl, run⟩)
    · rw [if_neg underscore, if_neg underscore]
      have isBase : isBaseDigit base (numeralChar c) = true := by simpa [underscore] using inside.1
      obtain ⟨digit, isDigit⟩ := exists_isDigit isBase
      have extended (separate : underscoresSeparate true (rest.map numeralChar) = true) :
          ∃ digits, DigitRun base (c :: rest) digits := by
        rcases behind separate with rfl | ⟨digits, run⟩ | ⟨run, digits, rfl, further⟩
        · exact ⟨_, .last isDigit⟩
        · exact ⟨_, .next isDigit run⟩
        · exact ⟨_, .apart isDigit further⟩
      exact ⟨extended, fun separate => .inr (.inl (extended separate))⟩

end Runs

section Reading

variable {base : Nat} {cs : List Char} {n : Int}

/-- What the reader does behind the sign and the marker. -/
def readRun (base : Nat) (negative : Bool) (text : String) (body : List Char) : Except IntegerTextError Int :=
  let run := body.takeWhile fun c => isBaseDigit base c || c == '_'
  let rest := body.dropWhile fun c => isBaseDigit base c || c == '_'
  let count := run.countP (· != '_')
  if !underscoresSeparate false run then .error (.malformed base text)
  else if base = 10 ∧ digitLimit < count then .error (.tooManyDigits count)
  else if !(rest.all isPlainBlank) then .error (.malformed base text)
  else .ok (if negative then -(digitsValue base run : Int) else digitsValue base run)

/-- It takes a run of digits and nothing else, when no blank is at the end. -/
theorem readRun_eq_ok {negative : Bool} {text : String} (last : ∀ c, cs.getLast? = some c → isBlank c = false) :
    readRun base negative text (cs.map numeralChar) = .ok n ↔
      ∃ digits, DigitRun base cs digits ∧ (base = 10 → digits.length ≤ digitLimit) ∧
        n = integerOf negative base digits := by
  constructor
  · intro read
    unfold readRun at read
    dsimp only at read
    split at read
    · cases read
    next mixed =>
    split at read
    · cases read
    next few =>
    split at read
    · cases read
    next trailing =>
    rw [Bool.not_eq_true', Bool.not_eq_false] at mixed trailing
    -- Nothing stands behind the run: it would end with a blank.
    have nothing : (cs.map numeralChar).dropWhile (fun c => isBaseDigit base c || c == '_') = [] := by
      by_contra present
      obtain ⟨c, found⟩ := Option.isSome_iff_exists.mp (List.getLast?_isSome.mpr present)
      have blank := List.all_eq_true.mp trailing c (List.mem_of_getLast? found)
      have whole : (cs.map numeralChar).getLast? = some c := by
        obtain ⟨before, same⟩ :=
          List.dropWhile_suffix (fun c => isBaseDigit base c || c == '_') (l := cs.map numeralChar)
        rw [← same, List.getLast?_append, found, Option.some_or]
      rw [List.getLast?_map] at whole
      obtain ⟨own, isLast, rfl⟩ := Option.map_eq_some_iff.mp whole
      have solid := last own isLast
      rw [isBlank_of_isPlainBlank blank] at solid
      cases solid
    have inside := List.dropWhile_eq_nil_iff.mp nothing
    rw [List.takeWhile_eq_self_iff.mpr inside] at read mixed few
    obtain ⟨digits, isRun⟩ := (exists_digitRun inside).1 mixed
    rw [isRun.value] at read
    rw [isRun.count] at few
    refine ⟨digits, isRun, fun ten => Nat.le_of_not_lt fun more => few ⟨ten, more⟩, ?_⟩
    exact (Except.ok.inj read).symm
  · rintro ⟨digits, isRun, short, rfl⟩
    have few : ¬(base = 10 ∧ digitLimit < digits.length) := fun long => absurd (short long.1) (Nat.not_le_of_lt long.2)
    rw [readRun, List.takeWhile_eq_self_iff.mpr isRun.inside, List.dropWhile_eq_nil_iff.mpr isRun.inside]
    simp only [isRun.separate, isRun.count, isRun.value, few, List.all_nil, Bool.not_true, Bool.false_eq_true,
      if_false, integerOf]

/-- Every trimmed text has a sign or none in front. -/
theorem exists_sign (trimmed : IsTrimmed cs) : ∃ sign rest negative, cs = sign ++ rest ∧ IsSign sign negative ∧
    (sign = [] → ∀ c, rest.head? = some c → isBlank c = false ∧ c ≠ '+' ∧ c ≠ '-') := by
  cases cs with
  | nil => exact ⟨[], [], false, rfl, .none, by simp⟩
  | cons c rest =>
    by_cases plus : c = '+'
    · exact ⟨['+'], rest, false, by rw [plus]; rfl, .plus, by simp⟩
    · by_cases minus : c = '-'
      · exact ⟨['-'], rest, true, by rw [minus]; rfl, .minus, by simp⟩
      · refine ⟨[], c :: rest, false, rfl, .none, ?_⟩
        rintro - c ⟨⟩
        exact ⟨trimmed.first c rfl, plus, minus⟩

/-- The sign is taken off, and what is behind it goes to the reader of runs. -/
theorem readInteger_eq (base : Nat) {sign rest : List Char} {negative : Bool} (isSign : IsSign sign negative)
    (first : sign = [] → ∀ c, rest.head? = some c → isBlank c = false ∧ c ≠ '+' ∧ c ≠ '-') :
    readInteger base (String.ofList (sign ++ rest)) =
      readRun base negative (String.ofList (sign ++ rest)) (dropBaseMarker base (rest.map numeralChar)) := by
  have taken : takeSign (((sign ++ rest).map numeralChar).dropWhile isPlainBlank) =
      (negative, rest.map numeralChar) := by
    cases isSign with
    | plus => rfl
    | minus => rfl
    | none =>
      cases rest with
      | nil => rfl
      | cons c others =>
        obtain ⟨solid, noPlus, noMinus⟩ := first rfl c rfl
        have front : isPlainBlank (numeralChar c) = false := by
          rw [Bool.eq_false_iff]
          intro blank
          rw [isBlank_of_isPlainBlank blank] at solid
          cases solid
        rw [List.nil_append, List.map_cons, List.dropWhile_cons_of_neg (by simp [front])]
        unfold takeSign
        split
        · next same => exact absurd ((numeralChar_eq_iff (by decide)).mp (List.cons.inj same).1) noMinus
        · next same => exact absurd ((numeralChar_eq_iff (by decide)).mp (List.cons.inj same).1) noPlus
        · rfl
  rw [readInteger, String.toList_ofList, taken]
  rfl

/-- Base ten has no marker. -/
theorem dropBaseMarker_ten (body : List Char) : dropBaseMarker 10 body = body := by
  unfold dropBaseMarker
  split
  · simp
  · rfl

/-- What starts with a digit needs no sign to be told from one. -/
theorem DigitRun.first {run : List Char} {digits : List Nat} (isRun : DigitRun base run digits) :
    ∀ c, run.head? = some c → isBlank c = false ∧ c ≠ '+' ∧ c ≠ '-' := by
  obtain ⟨own, rest, digit, rfl, isDigit⟩ := isRun.exists_cons
  rintro c ⟨⟩
  obtain ⟨noMark, solid⟩ := isDigit.plain
  simp only [List.mem_cons, not_or] at noMark
  exact ⟨solid, noMark.1, noMark.2.1⟩

/-- A suffix of a trimmed text ends without a blank. -/
theorem last_of_append {sign rest : List Char} (trimmed : IsTrimmed (sign ++ rest)) :
    ∀ c, rest.getLast? = some c → isBlank c = false := by
  intro c found
  apply trimmed.last c
  rw [List.getLast?_append, found, Option.some_or]

/-- A sign in front of a body that is trimmed leaves it so. -/
theorem trimmed_of_sign {sign body : List Char} {negative : Bool} (isSign : IsSign sign negative)
    (trimmed : IsTrimmed body) (some : body ≠ []) : IsTrimmed (sign ++ body) := by
  have last {c : Char} : (c :: body).getLast? = body.getLast? := by
    obtain ⟨d, rest, rfl⟩ := List.exists_cons_of_ne_nil some
    exact List.getLast?_cons_cons
  cases isSign with
  | none => exact trimmed
  | plus => exact ⟨by rintro c ⟨⟩; rfl, fun c found => trimmed.last c (last ▸ found)⟩
  | minus => exact ⟨by rintro c ⟨⟩; rfl, fun c found => trimmed.last c (last ▸ found)⟩

theorem DigitRun.ne_nil {run : List Char} {digits : List Nat} (isRun : DigitRun base run digits) : run ≠ [] := by
  obtain ⟨c, rest, digit, rfl, isDigit⟩ := isRun.exists_cons
  exact List.cons_ne_nil c rest

/-- What denotes an integer is trimmed, and is some text. -/
theorem IsDecimal.trimmed (isDecimal : IsDecimal cs n) : IsTrimmed cs ∧ cs ≠ [] := by
  obtain ⟨sign, run, digits, negative, rfl, isSign, isRun, -, -⟩ := isDecimal
  refine ⟨trimmed_of_sign isSign ⟨fun c found => (isRun.first c found).1, isRun.last_solid⟩ isRun.ne_nil, ?_⟩
  exact List.append_ne_nil_of_right_ne_nil _ isRun.ne_nil

theorem IsHexadecimal.trimmed (isHexadecimal : IsHexadecimal cs n) : IsTrimmed cs ∧ cs ≠ [] := by
  obtain ⟨sign, marker, run, digits, negative, rfl, isSign, isMarker, isRun, -⟩ := isHexadecimal
  have nonempty : marker ++ run ≠ [] := List.append_ne_nil_of_right_ne_nil _ isRun.ne_nil
  have zero : ∀ marker ∈ hexadecimalMarkers, marker.head? = some '0' := by decide
  have body : IsTrimmed (marker ++ run) := by
    constructor
    · intro c found
      rw [head?_of_append (zero marker isMarker)] at found
      cases found
      rfl
    · intro c found
      rw [List.getLast?_append, List.getLast?_eq_some_getLast isRun.ne_nil, Option.some_or] at found
      exact isRun.last_solid c (found ▸ List.getLast?_eq_some_getLast isRun.ne_nil)
  exact ⟨trimmed_of_sign isSign body nonempty, List.append_ne_nil_of_right_ne_nil _ nonempty⟩

/-- A second sign is none that is read. -/
theorem unsigned_of_readInteger {sign rest : List Char} {negative : Bool} (isSign : IsSign sign negative)
    (first : sign = [] → ∀ c, rest.head? = some c → isBlank c = false ∧ c ≠ '+' ∧ c ≠ '-')
    (trimmed : IsTrimmed (sign ++ rest)) (read : readInteger base (String.ofList (sign ++ rest)) = .ok n) :
    ∀ c, rest.head? = some c → c ≠ '+' ∧ c ≠ '-' := by
  intro c found
  by_contra isMark
  have mark : c = '+' ∨ c = '-' := by
    rw [not_and_or, not_not, not_not] at isMark
    exact isMark
  obtain ⟨tail, rfl⟩ := List.head?_eq_some_iff.mp found
  have kept : dropBaseMarker base ((c :: tail).map numeralChar) = (c :: tail).map numeralChar := by
    rcases mark with rfl | rfl <;> rfl
  rw [readInteger_eq base isSign first, kept, readRun_eq_ok (last_of_append trimmed)] at read
  obtain ⟨digits, isRun, -, -⟩ := read
  exact isMark (isRun.first c rfl).2

/-- In base ten the reader accepts decimal notation, and gives its integer. -/
theorem readInteger_decimal (trimmed : IsTrimmed cs) :
    readInteger 10 (String.ofList cs) = .ok n ↔ IsDecimal cs n := by
  constructor
  · intro read
    obtain ⟨sign, rest, negative, rfl, isSign, first⟩ := exists_sign trimmed
    rw [readInteger_eq 10 isSign first, dropBaseMarker_ten, readRun_eq_ok (last_of_append trimmed)] at read
    obtain ⟨digits, isRun, short, number⟩ := read
    exact ⟨sign, rest, digits, negative, rfl, isSign, isRun, short rfl, number⟩
  · rintro ⟨sign, run, digits, negative, rfl, isSign, isRun, short, number⟩
    rw [readInteger_eq 10 isSign fun _ => isRun.first, dropBaseMarker_ten, readRun_eq_ok isRun.last_solid]
    exact ⟨digits, isRun, fun _ => short, number⟩

section Markers

variable {mark : Char} (isMark : mark = 'x' ∨ mark = 'X')

include isMark

theorem dropBaseMarker_marked (body : List Char) :
    dropBaseMarker 16 ('0' :: mark :: body) = match body with
      | '_' :: behind => behind
      | _ => body := by
  rcases isMark with rfl | rfl <;> rfl

/-- An underscore behind the marker is dropped with it, -/
theorem dropBaseMarker_underscore (behind : List Char) :
    dropBaseMarker 16 ('0' :: mark :: '_' :: behind) = behind :=
  dropBaseMarker_marked isMark _

/-- and nothing else is. -/
theorem dropBaseMarker_plain {body : List Char} (plain : body.head? ≠ some '_') :
    dropBaseMarker 16 ('0' :: mark :: body) = body := by
  rw [dropBaseMarker_marked isMark]
  split
  · exact absurd rfl plain
  · rfl

theorem map_marker (rest : List Char) :
    ('0' :: mark :: rest).map numeralChar = '0' :: mark :: rest.map numeralChar := by
  rcases isMark with rfl | rfl <;> rfl

/-- So the marker is dropped from what stands behind the sign. -/
theorem exists_marker (rest : List Char) :
    ∃ marker run, '0' :: mark :: rest = marker ++ run ∧ marker ∈ hexadecimalMarkers ∧
      dropBaseMarker 16 (('0' :: mark :: rest).map numeralChar) = run.map numeralChar := by
  rw [map_marker isMark]
  by_cases underscore : rest.head? = some '_'
  · obtain ⟨behind, rfl⟩ := List.head?_eq_some_iff.mp underscore
    refine ⟨['0', mark, '_'], behind, rfl, ?_, dropBaseMarker_underscore isMark _⟩
    rcases isMark with rfl | rfl <;> decide
  · refine ⟨['0', mark], rest, rfl, ?_, dropBaseMarker_plain isMark ?_⟩
    · rcases isMark with rfl | rfl <;> decide
    · rw [List.head?_map, ne_eq, Option.map_eq_some_iff]
      rintro ⟨c, found, same⟩
      rw [(numeralChar_eq_iff (by decide)).mp same] at found
      exact underscore found

end Markers

/-- A marker in front of a run is dropped. -/
theorem dropBaseMarker_run {marker run : List Char} {digits : List Nat} (isMarker : marker ∈ hexadecimalMarkers)
    (isRun : DigitRun 16 run digits) : dropBaseMarker 16 ((marker ++ run).map numeralChar) = run.map numeralChar := by
  have plain : (run.map numeralChar).head? ≠ some '_' := by
    obtain ⟨c, rest, digit, rfl, isDigit⟩ := isRun.exists_cons
    simpa using isDigit.ne_underscore
  simp only [hexadecimalMarkers, List.mem_cons, List.not_mem_nil, or_false] at isMarker
  rcases isMarker with rfl | rfl | rfl | rfl
  · exact dropBaseMarker_plain (.inl rfl) plain
  · exact dropBaseMarker_plain (.inr rfl) plain
  · exact dropBaseMarker_underscore (.inl rfl) _
  · exact dropBaseMarker_underscore (.inr rfl) _

/-- In base sixteen the reader accepts hexadecimal notation of what has a marker behind its sign, and gives
its integer. -/
theorem readInteger_hexadecimal {sign rest : List Char} {mark : Char} {negative : Bool}
    (isSign : IsSign sign negative) (isMark : mark = 'x' ∨ mark = 'X')
    (trimmed : IsTrimmed (sign ++ '0' :: mark :: rest)) :
    readInteger 16 (String.ofList (sign ++ '0' :: mark :: rest)) = .ok n ↔
      IsHexadecimal (sign ++ '0' :: mark :: rest) n := by
  constructor
  · intro read
    obtain ⟨marker, run, same, isMarker, dropped⟩ := exists_marker isMark rest
    have first : sign = [] → ∀ c, ('0' :: mark :: rest).head? = some c → isBlank c = false ∧ c ≠ '+' ∧ c ≠ '-' := by
      rintro - c ⟨⟩
      decide
    have last : ∀ c, run.getLast? = some c → isBlank c = false := by
      rw [same, ← List.append_assoc] at trimmed
      exact last_of_append trimmed
    rw [readInteger_eq 16 isSign first, dropped, readRun_eq_ok last] at read
    obtain ⟨digits, isRun, -, number⟩ := read
    exact ⟨sign, marker, run, digits, negative, by rw [same], isSign, isMarker, isRun, number⟩
  · rintro ⟨other, marker, run, digits, own, same, isOther, isMarker, isRun, number⟩
    have first : other = [] → ∀ c, (marker ++ run).head? = some c → isBlank c = false ∧ c ≠ '+' ∧ c ≠ '-' := by
      rintro - c found
      have zero : ∀ marker ∈ hexadecimalMarkers, marker.head? = some '0' := by decide
      rw [List.head?_append, zero marker isMarker] at found
      cases found
      decide
    rw [same, readInteger_eq 16 isOther first, dropBaseMarker_run isMarker isRun, readRun_eq_ok isRun.last_solid]
    exact ⟨digits, isRun, nofun, number⟩

end Reading

section Writing

/-- Digits one behind another are a run. -/
theorem exists_digitRun_of_digits {base : Nat} {run : List Char} (nonempty : run ≠ [])
    (each : ∀ c ∈ run, numeralChar c = c ∧ isBaseDigit base c = true) :
    ∃ digits, DigitRun base run digits ∧ digits.length = run.length ∧
      Nat.ofDigits base digits.reverse = digitsValue base run := by
  have unified : run.map numeralChar = run := by
    rw [List.map_congr_left fun c present => (each c present).1, List.map_id']
  have counted : ∃ digits, DigitRun base run digits ∧ digits.length = run.length := by
    clear unified
    induction run with
    | nil => exact absurd rfl nonempty
    | cons c rest inductionHypothesis =>
      rw [List.forall_mem_cons] at each
      obtain ⟨digit, isDigit⟩ := exists_isDigit (each.1.1.symm ▸ each.1.2)
      by_cases last : rest = []
      · exact ⟨[digit], last ▸ .last isDigit, by rw [last]; rfl⟩
      · obtain ⟨digits, further, length⟩ := inductionHypothesis last each.2
        exact ⟨digit :: digits, .next isDigit further, congrArg (· + 1) length⟩
  obtain ⟨digits, isRun, length⟩ := counted
  exact ⟨digits, isRun, length, by rw [← isRun.value, unified]⟩

/-- ASCII digits are digits of base ten as they are. -/
theorem isBaseDigit_of_isAsciiDigit {c : Char} (digit : isAsciiDigit c = true) :
    numeralChar c = c ∧ isBaseDigit 10 c = true := by
  simp only [isAsciiDigit, Bool.and_eq_true, decide_eq_true_eq] at digit
  have within : 48 ≤ c.toNat ∧ c.toNat ≤ 57 := digit
  refine ⟨by rw [numeralChar, if_pos (by omega)], ?_⟩
  rw [isBaseDigit, baseDigit?, if_pos digit]
  exact decide_eq_true (by omega)

/-- The digits of a natural number denote it. -/
theorem digitRun_naturalChars (n : Nat) : ∃ digits, DigitRun 10 (naturalChars n) digits ∧
    digits.length = (naturalChars n).length ∧ Nat.ofDigits 10 digits.reverse = n := by
  obtain ⟨digits, isRun, length, value⟩ := exists_digitRun_of_digits (naturalChars_ne_nil n) fun c present =>
    isBaseDigit_of_isAsciiDigit (isAsciiDigit_of_mem_naturalChars n c present)
  exact ⟨digits, isRun, length, value.trans (digitsValue_naturalChars n)⟩

/-- The text of an integer that is short enough to be read is decimal notation of it. -/
theorem isDecimal_integerText (n : Int) (short : n.natAbs < 10 ^ digitLimit) :
    IsDecimal (integerText n).toList n := by
  obtain ⟨digits, isRun, length, value⟩ := digitRun_naturalChars n.natAbs
  have few : digits.length ≤ digitLimit := by
    rw [length]
    exact length_naturalChars_le n.natAbs digitLimit short (by decide)
  rw [integerText, String.toList_ofList, integerChars]
  by_cases negative : n < 0
  · rw [if_pos negative]
    refine ⟨['-'], _, digits, true, rfl, .minus, isRun, few, ?_⟩
    rw [integerOf, if_pos rfl, value]
    omega
  · rw [if_neg negative]
    refine ⟨[], _, digits, false, rfl, .none, isRun, few, ?_⟩
    rw [integerOf, if_neg Bool.false_ne_true, value]
    omega

end Writing

end TypedSheets.Number
