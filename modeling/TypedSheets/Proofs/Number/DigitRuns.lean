import Mathlib.Tactic.IntervalCases
import TypedSheets.Number.DecimalText
import TypedSheets.Number.IntegerText
import TypedSheets.Yaml.Scalar

/-!
# Runs of digits

The digits that a number is written with denote that number: decimal digits without leading
zeros, and hexadecimal digits of a fixed width. Each proof takes the last digit off, which is
the remainder of the number by its base. An integer has a decimal text as long as it has no more
digits than the limit.
-/

namespace TypedSheets.Number

open TypedSheets.Text TypedSheets.Yaml

/-- One more digit at the end of a run. -/
theorem digitsValue_append_digit (base digit : Nat) (run : List Char) (c : Char)
    (isDigit : baseDigit? c = some digit) :
    digitsValue base (run ++ [c]) = digitsValue base run * base + digit := by
  simp [digitsValue, isDigit]

/-- The digit of a small number denotes it. -/
theorem baseDigit?_digitChar (digit : Nat) (small : digit < 10) :
    baseDigit? (digitChar digit) = some digit := by
  interval_cases digit <;> decide

/-- The digit of a small number is an ASCII digit. -/
theorem isAsciiDigit_digitChar (digit : Nat) (small : digit < 10) :
    isAsciiDigit (digitChar digit) = true := by
  interval_cases digit <;> decide

/-- Digits are put in front of what follows them. -/
theorem digitsBefore_eq (n : Nat) (tail : List Char) :
    digitsBefore n tail = naturalChars n ++ tail := by
  induction n using Nat.strong_induction_on generalizing tail with
  | _ n inductionHypothesis =>
    rw [naturalChars, digitsBefore.eq_1 n tail, digitsBefore.eq_1 n []]
    split
    · rfl
    · have smaller : n / 10 < n := by omega
      rw [inductionHypothesis _ smaller, inductionHypothesis _ smaller [_], List.append_assoc]
      rfl

/-- The last digit of a number, and the digits before it. -/
theorem naturalChars_eq (n : Nat) :
    naturalChars n =
      if n < 10 then [digitChar n] else naturalChars (n / 10) ++ [digitChar (n % 10)] := by
  rw [naturalChars, digitsBefore]
  split
  · rfl
  · exact digitsBefore_eq (n / 10) _

/-- A number is written with ASCII digits only. -/
theorem isAsciiDigit_of_mem_naturalChars (n : Nat) (c : Char) (present : c ∈ naturalChars n) :
    isAsciiDigit c = true := by
  induction n using Nat.strong_induction_on with
  | _ n inductionHypothesis =>
    rw [naturalChars_eq] at present
    split at present
    · next small =>
      rw [List.mem_singleton.mp present]
      exact isAsciiDigit_digitChar n small
    · next large =>
      rcases List.mem_append.mp present with before | last
      · exact inductionHypothesis (n / 10) (by omega) before
      · rw [List.mem_singleton.mp last]
        exact isAsciiDigit_digitChar (n % 10) (by omega)

/-- The digits of a number denote it. -/
theorem digitsValue_naturalChars (n : Nat) : digitsValue 10 (naturalChars n) = n := by
  induction n using Nat.strong_induction_on with
  | _ n inductionHypothesis =>
    rw [naturalChars_eq]
    split
    · next small =>
      simp [digitsValue, baseDigit?_digitChar n small]
    · next large =>
      rw [digitsValue_append_digit 10 (n % 10) _ _ (baseDigit?_digitChar _ (by omega)),
        inductionHypothesis (n / 10) (by omega)]
      omega

/-- Every number has a digit. -/
theorem naturalChars_ne_nil (n : Nat) : naturalChars n ≠ [] := by
  rw [naturalChars_eq]
  split <;> simp

/-- A number other than zero has no leading zero. -/
theorem naturalChars_head (n : Nat) (positive : 0 < n) : (naturalChars n).head? ≠ some '0' := by
  induction n using Nat.strong_induction_on with
  | _ n inductionHypothesis =>
    rw [naturalChars_eq]
    split
    · next small => interval_cases n <;> decide
    · next large =>
      rw [List.head?_append, Option.or_of_isSome
        (List.isSome_head?.mpr (naturalChars_ne_nil (n / 10)))]
      exact inductionHypothesis (n / 10) (by omega) (by omega)

/-- A number below a power of ten has at most as many digits as the power has zeros. -/
theorem length_naturalChars_le (n digits : Nat) (below : n < 10 ^ digits) (some : 0 < digits) :
    (naturalChars n).length ≤ digits := by
  induction digits generalizing n with
  | zero => omega
  | succ digits inductionHypothesis =>
    rw [naturalChars_eq]
    split
    · simp
    · next large =>
      have shorter : n / 10 < 10 ^ digits := by
        rw [Nat.div_lt_iff_lt_mul (by decide), ← Nat.pow_succ]
        exact below
      have positive : 0 < digits := by
        rcases Nat.eq_zero_or_pos digits with rfl | positive
        · simp only [Nat.zero_add, Nat.pow_one] at below
          omega
        · exact positive
      have fewer := inductionHypothesis (n / 10) shorter positive
      simp only [List.length_append, List.length_singleton]
      omega

/-- The uppercase form of a hexadecimal digit. -/
def upperDigit (c : Char) : Char :=
  if 'a' ≤ c ∧ c ≤ 'f' then Char.ofNat (c.toNat - 32) else c

/-- The uppercase digit of a number below sixteen denotes it. -/
theorem baseDigit?_upperDigit (digit : Nat) (small : digit < 16) :
    baseDigit? (upperDigit (hexDigit digit)) = some digit := by
  interval_cases digit <;> decide

/-- The last of several hexadecimal digits, and those before it. -/
theorem upperHex_succ (width n : Nat) :
    upperHex (width + 1) n = upperHex width (n / 16) ++ [upperDigit (hexDigit (n % 16))] := by
  simp [upperHex, hexDigits, upperDigit]

/-- There are exactly as many digits as asked for. -/
theorem length_upperHex (width n : Nat) : (upperHex width n).length = width := by
  induction width generalizing n with
  | zero => rfl
  | succ width inductionHypothesis => simp [upperHex_succ, inductionHypothesis]

/-- They are hexadecimal digits. -/
theorem isBaseDigit_of_mem_upperHex (width n : Nat) (c : Char) (present : c ∈ upperHex width n) :
    isBaseDigit 16 c = true := by
  induction width generalizing n with
  | zero => simp [upperHex, hexDigits] at present
  | succ width inductionHypothesis =>
    rw [upperHex_succ] at present
    rcases List.mem_append.mp present with before | last
    · exact inductionHypothesis (n / 16) before
    · have small : n % 16 < 16 := Nat.mod_lt _ (by decide)
      rw [List.mem_singleton.mp last, isBaseDigit, baseDigit?_upperDigit _ small]
      simpa using small

/-- Enough hexadecimal digits denote the number that they were made of. -/
theorem digitsValue_upperHex (width n : Nat) (below : n < 16 ^ width) :
    digitsValue 16 (upperHex width n) = n := by
  induction width generalizing n with
  | zero =>
    have zero : n = 0 := by simpa using below
    simp [zero, upperHex, hexDigits, digitsValue]
  | succ width inductionHypothesis =>
    have shorter : n / 16 < 16 ^ width := by
      rw [Nat.div_lt_iff_lt_mul (by decide), ← Nat.pow_succ]
      exact below
    rw [upperHex_succ,
      digitsValue_append_digit 16 (n % 16) _ _ (baseDigit?_upperDigit _ (Nat.mod_lt _ (by decide))),
      inductionHypothesis _ shorter]
    omega

/-- An integer within the digit limit has a decimal text. -/
theorem integerText?_short (n : Int) (short : n.natAbs < 10 ^ digitLimit) :
    integerText? n = .ok (integerText n) := by
  unfold integerText?
  -- the power is never to be computed
  generalize digitLimit = limit at short ⊢
  exact if_pos short

end TypedSheets.Number
