import TypedSheets.Number.DecimalText

/-!
# Implicit types of plain scalars

A scalar that is written without quotes and without a tag has the type that its
text looks like: null, a truth value, an integer in one of four bases or in base
sixty, a floating point number, a date, or one of two special keys. Everything
else is text.
-/

namespace TypedSheets.Yaml

open TypedSheets.Number

/-- The types of nodes that have a meaning here; any other tag is unknown. -/
inductive Tag where
  | null | bool | int | float | binary | timestamp | text
  | sequence | orderedMap | pairs
  | mapping | set
  | merge | defaultKey
  | unknown (name : String)
  deriving Repr, DecidableEq

/-- The namespace of the standard tags. -/
def tagPrefix : String := "tag:yaml.org,2002:"

/-- The tag with a full name. -/
def Tag.ofName (name : String) : Tag :=
  let standard := [("null", Tag.null), ("bool", .bool), ("int", .int), ("float", .float),
    ("binary", .binary), ("timestamp", .timestamp), ("str", .text), ("seq", .sequence),
    ("omap", .orderedMap), ("pairs", .pairs), ("map", .mapping), ("set", .set),
    ("merge", .merge), ("value", .defaultKey)]
  match standard.find? fun entry => tagPrefix ++ entry.1 == name with
  | some entry => entry.2
  | none => .unknown name

/-- The words for truth values. -/
def trueWords : List String := ["yes", "Yes", "YES", "true", "True", "TRUE", "on", "On", "ON"]
def falseWords : List String :=
  ["no", "No", "NO", "false", "False", "FALSE", "off", "Off", "OFF"]

/-- The words for null; the empty text is one of them. -/
def nullWords : List String := ["~", "null", "Null", "NULL", ""]

def isDigitOrUnderscore (c : Char) : Bool := isAsciiDigit c || c == '_'

/-- Without a leading sign. -/
def unsigned (cs : List Char) : List Char := (takeSign cs).2

/-- Groups of base sixty: a colon and a digit, or a colon, a digit below six and a digit.
Gives what follows the last group, and whether there was one. -/
def dropSexagesimal (some : Bool) : List Char → Bool × List Char
  | ':' :: a :: b :: rest =>
    if '0' ≤ a ∧ a ≤ '5' ∧ isAsciiDigit b then dropSexagesimal true rest
    else if isAsciiDigit a then dropSexagesimal true (b :: rest)
    else (some, ':' :: a :: b :: rest)
  | [':', a] => if isAsciiDigit a then (true, []) else (some, [':', a])
  | cs => (some, cs)

/-- An integer: binary, octal, decimal, hexadecimal, or in base sixty. -/
def looksLikeInteger (cs : List Char) : Bool :=
  match unsigned cs with
  | [] => false
  | ['0'] => true
  | '0' :: 'b' :: rest => !rest.isEmpty && rest.all fun c => c == '0' || c == '1' || c == '_'
  | '0' :: 'x' :: rest => !rest.isEmpty && rest.all fun c => isBaseDigit 16 c || c == '_'
  | '0' :: rest => rest.all fun c => isBaseDigit 8 c || c == '_'
  | c :: rest =>
    isAsciiDigit c &&
      match rest.dropWhile isDigitOrUnderscore with
      | [] => true
      | tail => (dropSexagesimal false tail).2.isEmpty

/-- Nothing, or a mark, a sign and at least one digit. -/
def isFloatExponent : List Char → Bool
  | [] => true
  | e :: sign :: c :: rest =>
    (e == 'e' || e == 'E') && (sign == '-' || sign == '+') && (c :: rest).all isAsciiDigit
  | _ => false

/-- Digits with a point, with or without an exponent. -/
def looksLikeDecimal (cs : List Char) : Bool :=
  match cs with
  | '.' :: c :: rest => isAsciiDigit c && isFloatExponent (rest.dropWhile isDigitOrUnderscore)
  | _ =>
    match unsigned cs with
    | c :: rest =>
      isAsciiDigit c &&
        match rest.dropWhile isDigitOrUnderscore with
        | '.' :: behind => isFloatExponent (behind.dropWhile isDigitOrUnderscore)
        | tail =>
          match dropSexagesimal false tail with
          | (true, '.' :: behind) => behind.all isDigitOrUnderscore
          | _ => false
    | [] => false

/-- A floating point number, an infinity, or not-a-number. -/
def looksLikeFloat (cs : List Char) : Bool :=
  looksLikeDecimal cs ||
    [".inf", ".Inf", ".INF"].contains (String.ofList (unsigned cs)) ||
    [".nan", ".NaN", ".NAN"].contains (String.ofList cs)

/-- Exactly `count` digits off the front. -/
def dropDigits? : Nat → List Char → Option (List Char)
  | 0, cs => some cs
  | count + 1, c :: rest => if isAsciiDigit c then dropDigits? count rest else none
  | _ + 1, [] => none

/-- One digit or two off the front. -/
def dropOneOrTwo? : List Char → Option (List Char)
  | a :: b :: rest =>
    if isAsciiDigit a then if isAsciiDigit b then some rest else some (b :: rest) else none
  | [a] => if isAsciiDigit a then some [] else none
  | [] => none

/-- A given character off the front. -/
def dropChar? (c : Char) : List Char → Option (List Char)
  | d :: rest => if c = d then some rest else none
  | [] => none

/-- The mark of universal time, or a signed offset. -/
def isZone : List Char → Bool
  | [] => false
  | ['Z'] => true
  | sign :: rest =>
    (sign == '-' || sign == '+') &&
      match dropOneOrTwo? rest with
      | some [] => true
      | some (':' :: minutes) => dropDigits? 2 minutes == some []
      | _ => false

/-- A time behind a date: hours, minutes, seconds, a fraction and a zone. -/
def isTimeTail (cs : List Char) : Bool :=
  let behindSeconds := do
    let cs ← dropOneOrTwo? cs
    let cs ← dropDigits? 2 (← dropChar? ':' cs)
    dropDigits? 2 (← dropChar? ':' cs)
  match behindSeconds with
  | none => false
  | some rest =>
    let behindFraction := match rest with
      | '.' :: digits => digits.dropWhile isAsciiDigit
      | _ => rest
    match behindFraction.dropWhile fun c => c == ' ' || c == '\t' with
    | [] => behindFraction.isEmpty
    | zone => isZone zone

/-- A date with a time; month and day may have one digit. -/
def looksLikeDateTime (cs : List Char) : Bool :=
  let behindDate := do
    let cs ← dropDigits? 4 cs
    let cs ← dropOneOrTwo? (← dropChar? '-' cs)
    dropOneOrTwo? (← dropChar? '-' cs)
  match behindDate with
  | some (c :: rest) =>
    if c = 'T' ∨ c = 't' then isTimeTail rest
    else (c == ' ' || c == '\t') && isTimeTail (rest.dropWhile fun c => c == ' ' || c == '\t')
  | _ => false

/-- A date of ten characters. -/
def looksLikeDate (cs : List Char) : Bool :=
  let rest := do
    let cs ← dropDigits? 4 cs
    let cs ← dropDigits? 2 (← dropChar? '-' cs)
    dropDigits? 2 (← dropChar? '-' cs)
  rest == some []

/-- A date, or a date with a time. -/
def looksLikeTimestamp (cs : List Char) : Bool := looksLikeDate cs || looksLikeDateTime cs

/-- The type of a text without regard to a final line feed. -/
def resolveBare (text : String) : Tag :=
  let cs := text.toList
  if nullWords.contains text then .null
  else if trueWords.contains text || falseWords.contains text then .bool
  else if looksLikeFloat cs then .float
  else if looksLikeInteger cs then .int
  else if looksLikeTimestamp cs then .timestamp
  else if text = "<<" then .merge
  else if text = "=" then .defaultKey
  else if text = "!" ∨ text = "&" ∨ text = "*" then .unknown (tagPrefix ++ "yaml")
  else .text

/-- The implicit type of a plain text. One line feed at its end makes no difference,
unless it is the whole text. -/
def resolve (text : String) : Tag :=
  match resolveBare text with
  | .text =>
    match text.toList.reverse with
    | '\n' :: c :: rest => resolveBare (String.ofList (c :: rest).reverse)
    | _ => .text
  | tag => tag

end TypedSheets.Yaml
