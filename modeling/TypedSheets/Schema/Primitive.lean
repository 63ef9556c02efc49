import TypedSheets.Value.Text
import TypedSheets.Text.Blank

/-!
# Primitive field types

Fourteen declared names stand for eight integer ranges, three spellings of a
floating point number, truth values and two spellings of text. Each has a
canonical reading of cell text and a default in the generated records.
-/

namespace TypedSheets.Schema

open TypedSheets.Number TypedSheets.Text

inductive Primitive where
  | int | uint | long | ulong | short | ushort | byte | sbyte
  | float | double | decimal
  | bool
  | string | str
  deriving Repr, DecidableEq

namespace Primitive

/-- The declared name. -/
def name : Primitive → String
  | .int => "int" | .uint => "uint" | .long => "long" | .ulong => "ulong"
  | .short => "short" | .ushort => "ushort" | .byte => "byte" | .sbyte => "sbyte"
  | .float => "float" | .double => "double" | .decimal => "decimal"
  | .bool => "bool" | .string => "string" | .str => "str"

/-- Every primitive type, in the order of declaration. -/
def all : List Primitive :=
  [.int, .uint, .long, .ulong, .short, .ushort, .byte, .sbyte, .float, .double, .decimal, .bool,
    .string, .str]

/-- The primitive type with a declared name. -/
def ofName? (declared : String) : Option Primitive := all.find? fun p => p.name == declared

/-- The least and greatest integer of an integer type. -/
def range? : Primitive → Option (Int × Int)
  | .int => some (-Int.pow 2 31, Int.pow 2 31 - 1)
  | .uint => some (0, Int.pow 2 32 - 1)
  | .long => some (-Int.pow 2 63, Int.pow 2 63 - 1)
  | .ulong => some (0, Int.pow 2 64 - 1)
  | .short => some (-Int.pow 2 15, Int.pow 2 15 - 1)
  | .ushort => some (0, Int.pow 2 16 - 1)
  | .byte => some (0, 255)
  | .sbyte => some (-128, 127)
  | _ => none

/-- The four families that values of primitive types belong to. -/
inductive Family where
  | integer | floating | truth | text
  deriving Repr, DecidableEq

def family : Primitive → Family
  | .float | .double | .decimal => .floating
  | .bool => .truth
  | .string | .str => .text
  | _ => .integer

/-- The type annotation in generated records. -/
def annotation (p : Primitive) : String :=
  match p.family with
  | .integer => "int"
  | .floating => "float"
  | .truth => "bool"
  | .text => "str"

/-- The default in generated records, as written there. -/
def defaultText (p : Primitive) : String :=
  match p.family with
  | .integer => "0"
  | .floating => "0.0"
  | .truth => "False"
  | .text => "\"\""

/-- The value of the default. -/
def defaultValue (p : Primitive) : Value :=
  match p.family with
  | .integer => .int 0
  | .floating => .float .zero
  | .truth => .bool false
  | .text => .text ""

end Primitive

/-- Whether a declared name is that of a primitive type. -/
def isPrimitive (declared : String) : Bool := (Primitive.ofName? declared).isSome

/-- Whether a declared name is that of a text type. -/
def isTextType (declared : String) : Bool :=
  (Primitive.ofName? declared).any fun p => p.family == .text

/-- Why a cell text is no value of its type. -/
inductive ReadError where
  | integer (cause : IntegerTextError)
  | below (n bound : Int)
  | above (n bound : Int)
  | double (cause : DoubleTextError)
  | notFinite (text : String)
  | truth (text : String)
  deriving Repr, DecidableEq

/-- The wording of a refused cell text. -/
def ReadError.message : ReadError → String
  | .integer cause => cause.message
  | .below n bound => integerText n ++ " is less than " ++ integerText bound
  | .above n bound => integerText n ++ " is greater than " ++ integerText bound
  | .double cause => cause.message
  | .notFinite text => "non-finite value: " ++ quote text
  | .truth text => "invalid literal for bool: " ++ quote text

/-- An integer within bounds. -/
def readBounded (lo hi : Int) (text : String) : Except ReadError Int :=
  match readInteger 10 (trim text) with
  | .error cause => .error (.integer cause)
  | .ok n => if n < lo then .error (.below n lo) else if hi < n then .error (.above n hi) else .ok n

/-- A double that is neither infinite nor not-a-number. -/
def readFinite (text : String) : Except ReadError Double :=
  match readDouble (trim text) with
  | .error cause => .error (.double cause)
  | .ok x => if x.isFinite then .ok x else .error (.notFinite text)

/-- The words `true` and `1` or `false` and `0`, in any case and between blanks. -/
def readTruth (text : String) : Except ReadError Bool :=
  let word := String.ofList ((trimChars text.toList).map lowerAscii)
  if word = "true" ∨ word = "1" then .ok true
  else if word = "false" ∨ word = "0" then .ok false
  else .error (.truth text)

/-- The value that a cell text denotes in a primitive type; texts are taken as they are. -/
def Primitive.read (p : Primitive) (text : String) : Except ReadError Value :=
  match p.range? with
  | some (lo, hi) => (readBounded lo hi text).map .int
  | none =>
    match p.family with
    | .floating => (readFinite text).map .float
    | .truth => (readTruth text).map .bool
    | _ => .ok (.text text)

end TypedSheets.Schema
