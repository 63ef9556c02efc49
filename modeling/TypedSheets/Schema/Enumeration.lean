import TypedSheets.Number.IntegerText
import TypedSheets.Text.Blank
import TypedSheets.Text.Identifier
import TypedSheets.Text.Lines

/-!
# Enumerations

An enumeration is a named list of members with integers. Its body is written in
one cell: members separated by line ends or commas, each a name with an optional
literal. Comments start with `//` or `#` and end with the line. A member without a
literal continues from the member before it; the first one starts at zero.
-/

namespace TypedSheets.Schema

open TypedSheets.Number TypedSheets.Text

structure EnumMember where
  name : String
  value : Int
  deriving Repr, DecidableEq

structure Enumeration where
  name : String
  members : List EnumMember
  deriving Repr, DecidableEq

/-- The member with a label. -/
def Enumeration.member? (e : Enumeration) (label : String) : Option EnumMember :=
  e.members.find? fun m => m.name == label

/-- The names of the members, in order. -/
def Enumeration.labels (e : Enumeration) : List String := e.members.map EnumMember.name

/-- The first member with a value: members that repeat a value are other names for it. -/
def Enumeration.memberOf? (e : Enumeration) (value : Int) : Option EnumMember :=
  e.members.find? fun m => m.value == value

/-- Why a body declares no enumeration. -/
inductive EnumBodyError.Cause where
  | malformedMember (piece : String)
  | invalidName (name : String)
  | duplicateName (name : String)
  | notInteger (name literal : String)
  | noMembers
  deriving Repr, DecidableEq

/-- A refused body with the name of its type. -/
structure EnumBodyError where
  enumeration : String
  cause : EnumBodyError.Cause
  deriving Repr, DecidableEq

/-- The wording of a refused body. -/
def EnumBodyError.message (e : EnumBodyError) : String :=
  "enum '" ++ e.enumeration ++ "': " ++
    match e.cause with
    | .malformedMember piece => "cannot parse member " ++ quote piece
    | .invalidName name => "invalid member name " ++ quote name
    | .duplicateName name => "duplicate member " ++ quote name
    | .notInteger name literal =>
      "member " ++ quote name ++ " has non integer value " ++ quote literal
    | .noMembers => "body defines no members"

/-- A line up to its first `//`, and that up to its first `#`, without outer blanks. -/
def stripComment (line : List Char) : List Char :=
  trimChars (beforeFirst ['#'] (beforeFirst ['/', '/'] line))

/-- The pieces of a body that are not blank: lines without comments, cut at commas. -/
def bodyPieces (body : String) : List (List Char) :=
  (splitOn '\n' (unifyLineEnds body.toList)).flatMap fun line =>
    ((splitOn ',' (stripComment line)).map trimChars).filter fun piece => !piece.isEmpty

/-- Whether a character may stand in the name part of a piece. -/
def isNamePart (c : Char) : Bool := !(isBlank c || c == '=' || c == ',')

/-- The name of a piece and the literal behind its equals sign, if it has one. -/
def splitPiece? (piece : List Char) : Option (List Char × Option (List Char)) :=
  let name := piece.takeWhile isNamePart
  let rest := (piece.dropWhile isNamePart).dropWhile isBlank
  if name.isEmpty then none
  else match rest with
    | [] => some (name, none)
    | '=' :: behind =>
      let literal := behind.dropWhile isBlank
      if literal.isEmpty then none else some (name, some literal)
    | _ => none

/-- A literal that has `0x` after its signs is hexadecimal, any other decimal. -/
def readEnumLiteral (literal : List Char) : Except IntegerTextError Int :=
  let text := trimChars literal
  let unsigned := text.dropWhile fun c => c == '+' || c == '-'
  let base := match unsigned with
    | '0' :: 'x' :: _ => 16
    | '0' :: 'X' :: _ => 16
    | _ => 10
  readInteger base (String.ofList text)

/-- The integer of a member: its literal, or `next` when it has none. -/
def memberValue (name : String) (next : Int) :
    Option (List Char) → Except EnumBodyError.Cause Int
  | none => .ok next
  | some literal =>
    match readEnumLiteral literal with
    | .ok n => .ok n
    | .error _ => .error (.notInteger name (String.ofList literal))

/-- Reads pieces into members; `seen` holds the names so far and `next` the value of a
member without literal. -/
def readMembers (seen : List String) (next : Int) :
    List (List Char) → Except EnumBodyError.Cause (List EnumMember)
  | [] => .ok []
  | piece :: rest =>
    match splitPiece? piece with
    | none => .error (.malformedMember (String.ofList piece))
    | some (nameChars, literal) =>
      let name := String.ofList nameChars
      if !isIdentifier name || nameChars.head? == some '_' then .error (.invalidName name)
      else if seen.contains name then .error (.duplicateName name)
      else
        match memberValue name next literal with
        | .error cause => .error cause
        | .ok n => (readMembers (name :: seen) (n + 1) rest).map ({ name, value := n } :: ·)

/-- The enumeration that a body declares under a type name. -/
def readEnumBody (name body : String) : Except EnumBodyError Enumeration :=
  match readMembers [] 0 (bodyPieces body) with
  | .error cause => .error ⟨name, cause⟩
  | .ok [] => .error ⟨name, .noMembers⟩
  | .ok members => .ok { name, members }

end TypedSheets.Schema
