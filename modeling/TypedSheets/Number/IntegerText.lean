import TypedSheets.Number.Digits
import TypedSheets.Text.Blank
import TypedSheets.Text.Quoted

/-!
# Reading integers

An integer text has an optional sign and digits of its base, with single
underscores allowed between digits; blanks may surround it. The digits of any
script count as decimal digits. A base other than ten may announce itself by its
usual marker (`0x`, `0o`, `0b`). In base ten the count of digits is limited, and
the limit is checked before what follows the digits.
-/

namespace TypedSheets.Number

open TypedSheets.Text

/-- Why a text is no integer. -/
inductive IntegerTextError where
  /-- The text is not of the form; the base and the text are kept for the message. -/
  | malformed (base : Nat) (text : String)
  /-- The text has more decimal digits than are converted. -/
  | tooManyDigits (count : Nat)
  deriving Repr, DecidableEq

/-- The wording of a refusal; a long text is cut after two hundred characters. -/
def IntegerTextError.message : IntegerTextError → String
  | .malformed base text =>
    "invalid literal for int() with base " ++ integerText base ++ ": " ++
      String.ofList ((quoteChars text.toList).take 200)
  | .tooManyDigits count =>
    "Exceeds the limit (4300 digits) for integer string conversion: value has " ++
      integerText count ++ " digits; use sys.set_int_max_str_digits() to increase the limit"

/-- The blanks that may surround a number text after its characters were unified. -/
def isPlainBlank (c : Char) : Bool :=
  let code := c.toNat
  (9 ≤ code && code ≤ 13) || code == 32

/-- Blanks above ASCII become spaces and digits of other scripts ASCII digits; any
other character above ASCII becomes one that no number holds. -/
def numeralChar (c : Char) : Char :=
  if c.toNat < 127 then c
  else if isBlank c then ' '
  else match digitValue? c with
    | some digit => digitChar digit
    | none => '?'

/-- The value of a character as a digit in bases up to sixteen. -/
def baseDigit? (c : Char) : Option Nat :=
  if '0' ≤ c ∧ c ≤ '9' then some (c.toNat - 48)
  else if 'a' ≤ c ∧ c ≤ 'f' then some (c.toNat - 87)
  else if 'A' ≤ c ∧ c ≤ 'F' then some (c.toNat - 55)
  else none

/-- A digit below the base. -/
def isBaseDigit (base : Nat) (c : Char) : Bool :=
  match baseDigit? c with
  | some digit => digit < base
  | none => false

/-- The number that a run of digits and underscores denotes. -/
def digitsValue (base : Nat) (run : List Char) : Nat :=
  run.foldl (fun total c =>
    match baseDigit? c with
    | some digit => total * base + digit
    | none => total) 0

/-- Each underscore follows a digit and a digit ends the run. -/
def underscoresSeparate : Bool → List Char → Bool
  | afterDigit, [] => afterDigit
  | afterDigit, c :: rest => if c = '_' then afterDigit && underscoresSeparate false rest
    else underscoresSeparate true rest

/-- Drops the marker of a base and one underscore behind it. -/
def dropBaseMarker (base : Nat) : List Char → List Char
  | '0' :: c :: rest =>
    let marked := (base = 16 ∧ (c = 'x' ∨ c = 'X')) ∨ (base = 8 ∧ (c = 'o' ∨ c = 'O')) ∨
      (base = 2 ∧ (c = 'b' ∨ c = 'B'))
    if marked then
      match rest with
      | '_' :: behind => behind
      | _ => rest
    else '0' :: c :: rest
  | cs => cs

/-- Takes a leading sign off; `true` stands for a minus sign. -/
def takeSign : List Char → Bool × List Char
  | '-' :: rest => (true, rest)
  | '+' :: rest => (false, rest)
  | cs => (false, cs)

/-- The integer that a text denotes in a base. -/
def readInteger (base : Nat) (text : String) : Except IntegerTextError Int :=
  let unified := text.toList.map numeralChar
  let (negative, unsigned) := takeSign (unified.dropWhile isPlainBlank)
  let body := dropBaseMarker base unsigned
  let run := body.takeWhile fun c => isBaseDigit base c || c == '_'
  let rest := body.dropWhile fun c => isBaseDigit base c || c == '_'
  let count := run.countP (· != '_')
  if !underscoresSeparate false run then .error (.malformed base text)
  else if base = 10 ∧ digitLimit < count then .error (.tooManyDigits count)
  else if !(rest.all isPlainBlank) then .error (.malformed base text)
  else .ok (if negative then -(digitsValue base run : Int) else digitsValue base run)

end TypedSheets.Number
