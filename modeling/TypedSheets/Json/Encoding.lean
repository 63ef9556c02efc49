import TypedSheets.Failure
import TypedSheets.Json.Quoted
import TypedSheets.Value

/-!
# Values in object notation

The notation has no blanks: commas between items and colons behind keys are all that
stands between values. Members are written as their integers. The keys of an object
are texts; null, truth values and numbers are turned into texts, other keys are
refused, as are values that the notation lacks. A knot has no end and is refused where
it comes back to itself.
-/

namespace TypedSheets.Json

open TypedSheets.Number

/-- The text of an integer. -/
def integer (n : Int) : Except Failure String := (integerText? n).mapError .oversized

/-- The text that stands for a key. -/
def keyText : Value → Except Failure String
  | .text s => .ok s
  | .null => .ok "null"
  | .bool truth => .ok (if truth then "true" else "false")
  | .int n => integer n
  | .member _ _ n => integer n
  | .float x => .ok (doubleText .object x)
  | .sharedNan _ => .ok (doubleText .object .nan)
  | .cell (.double x) => .ok (doubleText .object x)
  | value => .error (.record (.notObjectKey value.familyKindName))

/-- The text of a value without items. -/
def encodeAtom : Value → Except Failure String
  | .null => .ok "null"
  | .bool truth => .ok (if truth then "true" else "false")
  | .int n => integer n
  | .member _ _ n => integer n
  | .float x => .ok (doubleText .object x)
  | .sharedNan _ => .ok (doubleText .object .nan)
  | .cell (.double x) => .ok (doubleText .object x)
  | .text s => .ok (quoted s)
  | .back _ => .error (.record .circular)
  | value => .error (.record (.notObject value.kindName))

mutual

/-- The text of a value. -/
def encode : Value → Except Failure String
  | .list items => (encodeItems items).map fun texts => "[" ++ ",".intercalate texts ++ "]"
  | .pair first second =>
    match encode first with
    | .error e => .error e
    | .ok left => (encode second).map fun right => "[" ++ left ++ "," ++ right ++ "]"
  | .map entries => (encodeEntries entries).map fun texts =>
    "\x7b" ++ ",".intercalate texts ++ "\x7d"
  | .knot _ body => encode body
  | value => encodeAtom value

def encodeItems : List Value → Except Failure (List String)
  | [] => .ok []
  | item :: rest =>
    match encode item with
    | .error e => .error e
    | .ok first => (encodeItems rest).map (first :: ·)

def encodeEntries : List (Value × Value) → Except Failure (List String)
  | [] => .ok []
  | (key, value) :: rest =>
    match keyText key with
    | .error e => .error e
    | .ok name =>
      match encode value with
      | .error e => .error e
      | .ok text => (encodeEntries rest).map ((quoted name ++ ":" ++ text) :: ·)

end

end TypedSheets.Json
