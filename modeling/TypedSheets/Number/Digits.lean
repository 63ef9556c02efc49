import TypedSheets.Text.DecimalDigit

/-!
# Decimal text of integers

Digits of a natural number, most significant first, and the signed text of an
integer. Converting between integers and decimal text is refused beyond a fixed
number of digits, in both directions.
-/

namespace TypedSheets.Number

open TypedSheets.Text (digitChar)

/-- Puts the digits of `n` in front of `tail`. -/
def digitsBefore (n : Nat) (tail : List Char) : List Char :=
  if n < 10 then digitChar n :: tail else digitsBefore (n / 10) (digitChar (n % 10) :: tail)
termination_by n
decreasing_by omega

/-- The decimal digits of a number; zero has the one digit `0`. -/
def naturalChars (n : Nat) : List Char := digitsBefore n []

/-- The decimal text of an integer: a minus sign for negatives, never a plus sign. -/
def integerChars (n : Int) : List Char :=
  if n < 0 then '-' :: naturalChars n.natAbs else naturalChars n.natAbs

/-- The decimal text of an integer. -/
def integerText (n : Int) : String := String.ofList (integerChars n)

/-- The greatest count of decimal digits that is converted. -/
def digitLimit : Nat := 4300

/-- An integer with more digits than the limit has no decimal text. -/
structure OversizedInteger where
  deriving Repr, DecidableEq

/-- The wording of the refusal to write an integer. -/
def OversizedInteger.message (_ : OversizedInteger) : String :=
  "Exceeds the limit (4300 digits) for integer string conversion; " ++
    "use sys.set_int_max_str_digits() to increase the limit"

/-- The decimal text of an integer within the digit limit. -/
def integerText? (n : Int) : Except OversizedInteger String :=
  if n.natAbs < Nat.pow 10 digitLimit then .ok (integerText n) else .error {}

end TypedSheets.Number
