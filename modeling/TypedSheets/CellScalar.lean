import TypedSheets.Calendar
import TypedSheets.Number.Decimal

/-!
# Scalars of typed cells

Spreadsheets bring in scalars that no asset or setting holds: times without a date,
decimal numbers, integers and doubles of a fixed width, date-times to the nanosecond,
and marks for what is missing. Each has a plain text and a form inside messages.
-/

namespace TypedSheets

open TypedSheets.Calendar TypedSheets.Number TypedSheets.Text

/-- The integer formats of columns. -/
inductive IntegerFormat where
  | int64
  | uint8
  deriving Repr, DecidableEq

/-- The name of an integer format. -/
def IntegerFormat.name : IntegerFormat → String
  | .int64 => "int64"
  | .uint8 => "uint8"

inductive CellScalar where
  | time (t : TimeOfDay) (offset : Option Int)
  | decimal (d : Decimal)
  /-- A date-time to the nanosecond. -/
  | timestamp (t : DateTime)
  | integer (format : IntegerFormat) (n : Int)
  | double (x : Double)
  /-- A number of single precision, as the double of the same value. -/
  | single (x : Double)
  | truth (b : Bool)
  /-- A date-time that is missing although its column has a type. -/
  | missingDateTime
  /-- A value of any other type that is missing. -/
  | missing
  deriving Repr, DecidableEq

namespace CellScalar

/-- The name of a scalar's kind. -/
def kindName : CellScalar → String
  | .time .. => "time"
  | .decimal _ => "Decimal"
  | .timestamp _ => "Timestamp"
  | .integer format _ => format.name
  | .double _ => "float64"
  | .single _ => "float32"
  | .truth _ => "bool"
  | .missingDateTime => "NaTType"
  | .missing => "NAType"

/-- The name of a scalar's kind with the family that it belongs to. -/
def familyKindName (s : CellScalar) : String :=
  match s with
  | .time .. => "datetime." ++ s.kindName
  | .decimal _ => "decimal." ++ s.kindName
  | .integer .. | .double _ | .single _ | .truth _ => "numpy." ++ s.kindName
  | _ => s.kindName

/-- The plain text of a scalar. -/
def plainText : CellScalar → String
  | .time t offset => t.text ++ (offset.map offsetText).getD ""
  | .decimal d => d.text
  | .timestamp t => t.textWith " "
  | .integer _ n => integerText n
  | .double x => doubleText .plain x
  | .single x => singleText x
  | .truth b => if b then "True" else "False"
  | .missingDateTime => "NaT"
  | .missing => "<NA>"

/-- A scalar counts as false when it is a zero or a false truth value. -/
def isTruthy : CellScalar → Bool
  | .decimal d => !d.isZero
  | .integer _ n => n != 0
  | .double (.finite _ significand _) => significand != 0
  | .single (.finite _ significand _) => significand != 0
  | .truth b => b
  | _ => true

/-- Whether a scalar stands for a missing value. -/
def isMissing : CellScalar → Bool
  | .decimal (.nan ..) => true
  | .double x => x.isNan
  | .single x => x.isNan
  | .missingDateTime => true
  | .missing => true
  | _ => false

end CellScalar

end TypedSheets
