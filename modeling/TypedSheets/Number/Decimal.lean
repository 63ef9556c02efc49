import TypedSheets.Number.DecimalText

/-!
# Decimal numbers

A decimal number keeps the digits it was written with: trailing zeros count. Its text
is positional when no zeros have to be put behind the digits and at most five between
the point and them; otherwise one digit stands before the point and an exponent
follows.
-/

namespace TypedSheets.Number

open TypedSheets.Text

inductive Decimal where
  /-- Not a number, with the digits that it may carry. A signaling one becomes no double. -/
  | nan (negative signaling : Bool) (digits : List Char)
  | infinite (negative : Bool)
  /-- The digits without leading zeros, times a power of ten. -/
  | finite (negative : Bool) (digits : List Char) (exponent : Int)
  deriving Repr, DecidableEq

/-- Without leading zeros; zero keeps one digit. -/
def withoutLeadingZeros (digits : List Char) : List Char :=
  match digits.dropWhile (· == '0') with
  | [] => ['0']
  | significant => significant

/-- What stands behind the word for not a number, and whether it is the signaling one. -/
def notANumber? : List Char → Option (Bool × List Char)
  | 'n' :: 'a' :: 'n' :: digits => some (false, digits)
  | 's' :: 'n' :: 'a' :: 'n' :: digits => some (true, digits)
  | _ => none

/-- The decimal that a text denotes; blanks may surround it and underscores are skipped. -/
def Decimal.ofText? (text : String) : Option Decimal :=
  let (negative, cs) := takeSign ((trimChars text.toList).filter (· != '_'))
  let lowered := cs.map lowerAscii
  if lowered = "inf".toList ∨ lowered = "infinity".toList then some (.infinite negative)
  else match notANumber? lowered with
  | some (signaling, digits) =>
    if digits.all isAsciiDigit then some (.nan negative signaling (digits.dropWhile (· == '0')))
    else none
  | none =>
    let whole := cs.takeWhile isAsciiDigit
    let (fraction, rest) := match cs.dropWhile isAsciiDigit with
      | '.' :: behind => (behind.takeWhile isAsciiDigit, behind.dropWhile isAsciiDigit)
      | behind => ([], behind)
    if whole.isEmpty && fraction.isEmpty then none
    else (readExponent? rest).map fun exponent =>
      .finite negative (withoutLeadingZeros (whole ++ fraction)) (exponent - fraction.length)

/-- The characters of a decimal. -/
def Decimal.chars : Decimal → List Char
  | .nan negative signaling digits =>
    (if negative then ['-'] else []) ++ (if signaling then ['s'] else []) ++
      "NaN".toList ++ digits
  | .infinite negative => if negative then "-Infinity".toList else "Infinity".toList
  | .finite negative digits exponent =>
    let leading : Int := exponent + digits.length
    let positional := exponent ≤ 0 && -6 < leading
    let point := if positional then leading else 1
    let body :=
      if point ≤ 0 then '0' :: '.' :: List.replicate point.natAbs '0' ++ digits
      else if digits.length ≤ point.natAbs then
        digits ++ List.replicate (point.natAbs - digits.length) '0'
      else digits.take point.natAbs ++ '.' :: digits.drop point.natAbs
    let shift := leading - point
    let tail := if shift = 0 then []
      else 'E' :: (if shift < 0 then '-' else '+') :: naturalChars shift.natAbs
    (if negative then ['-'] else []) ++ body ++ tail

/-- The text of a decimal. -/
def Decimal.text (d : Decimal) : String := String.ofList d.chars

/-- The value of digits and an exponent as a ratio. -/
def decimalRatio (digits : List Char) (exponent : Int) : Nat × Nat :=
  let (a, b) := powerRatio 10 exponent
  (digitsValue 10 digits * a, b)

/-- The double nearest to a decimal. -/
def Decimal.toDouble : Decimal → Double
  | .nan .. => .nan
  | .infinite negative => .infinite negative
  | .finite negative digits exponent => ofDecimal negative digits exponent

/-- Whether a decimal is zero. -/
def Decimal.isZero : Decimal → Bool
  | .finite _ digits _ => digits.all (· == '0')
  | _ => false

end TypedSheets.Number
