import TypedSheets.Text.Lines
import TypedSheets.Text.Quoted
import TypedSheets.Value

/-!
# Texts of values

A value has a plain text, used for cells and messages, and a shown form, in which
texts stand between quotes and dates name their parts. Integers beyond the digit
limit have neither. Where a knot comes back to itself, three dots stand for it.
-/

namespace TypedSheets.Value

open TypedSheets.Number TypedSheets.Calendar TypedSheets.Text

/-- Texts with a separator between them. -/
def separated (separator : String) (texts : List String) : String := separator.intercalate texts

/-- The constructor form of a date in messages. -/
def shownDate (d : Date) : String :=
  "datetime.date(" ++
    separated ", " ([d.year, d.month, d.day].map fun n : Nat => integerText n) ++ ")"

/-- The constructor form of an offset in messages. -/
def shownOffset (microseconds : Int) : String :=
  if microseconds = 0 then "datetime.timezone.utc"
  else "datetime.timezone(" ++ durationText microseconds ++ ")"

/-- The parts of a time of day in messages; trailing zero seconds and microseconds are left
out. -/
def timeParts (t : TimeOfDay) : List Nat :=
  let micros := t.nanosecond / 1000
  [t.hour, t.minute] ++
    if micros ≠ 0 then [t.second, micros] else if t.second ≠ 0 then [t.second] else []

/-- A constructor form in messages: a name, numbers, and an offset when there is one. -/
def shownParts (name : String) (parts : List Nat) (offset : Option Int) : String :=
  let zone := match offset with
    | none => []
    | some ahead => ["tzinfo=" ++ shownOffset ahead]
  name ++ "(" ++ separated ", " (parts.map (fun n : Nat => integerText n) ++ zone) ++ ")"

/-- The constructor form of a date-time in messages. -/
def shownDateTime (t : DateTime) : String :=
  shownParts "datetime.datetime" ([t.date.year, t.date.month, t.date.day] ++ timeParts t.time)
    t.offset

/-- The form of a scalar of a cell in messages. -/
def shownCell : CellScalar → String
  | .time t offset => shownParts "datetime.time" (timeParts t) offset
  | .decimal d => "Decimal('" ++ d.text ++ "')"
  | .timestamp t =>
    let zone := match t.offset with
      | none => ""
      | some 0 => ", tz='UTC'"
      | some ahead => ", tz='UTC" ++ offsetText ahead ++ "'"
    "Timestamp('" ++ t.textWith " " ++ "'" ++ zone ++ ")"
  | .integer format n => "np." ++ format.name ++ "(" ++ integerText n ++ ")"
  | .double x => "np.float64(" ++ doubleText .plain x ++ ")"
  | .single x => "np.float32(" ++ singleText x ++ ")"
  | .truth b => if b then "np.True_" else "np.False_"
  | s => s.plainText

/-- One byte between the quotes of a byte string. -/
def shownByte (mark : Char) (b : UInt8) : List Char :=
  let c := Char.ofNat b.toNat
  if c = mark ∨ c = '\\' then ['\\', c]
  else if c = '\n' then ['\\', 'n']
  else if c = '\r' then ['\\', 'r']
  else if c = '\t' then ['\\', 't']
  else if 32 ≤ b.toNat ∧ b.toNat < 127 then [c]
  else '\\' :: 'x' :: hexDigits 2 b.toNat

/-- A byte string in messages. -/
def shownBytes (data : List UInt8) : String :=
  let mark := quoteMark (data.map fun b => Char.ofNat b.toNat)
  String.ofList ('b' :: mark :: data.flatMap (shownByte mark) ++ [mark])

/-- The shown form of a value that holds no other values. -/
def shownAtom : Value → Except OversizedInteger String
  | .null => .ok "None"
  | .bool truth => .ok (if truth then "True" else "False")
  | .int n => integerText? n
  | .float x => .ok (doubleText .plain x)
  | .text s => .ok (quote s)
  | .bytes data => .ok (shownBytes data)
  | .date d => .ok (shownDate d)
  | .dateTime t => .ok (shownDateTime t)
  | .member owner label n =>
    (integerText? n).map fun digits => "<" ++ owner ++ "." ++ label ++ ": " ++ digits ++ ">"
  | .sharedNan _ => .ok (doubleText .plain .nan)
  | .cell s => .ok (shownCell s)
  | _ => .ok ""

/-- The brackets around the dots that stand for a knot inside itself. -/
def dotsFor : Value → String
  | .map _ => "\x7b...\x7d"
  | .pair .. => "(...)"
  | _ => "[...]"

/-- The knots that are being shown: their labels and the dots that stand for them. -/
abbrev Showing := List (Nat × String)

mutual

/-- The form of a value inside the knots that are being shown. -/
def shownWithin (open_ : Showing) : Value → Except OversizedInteger String
  | .list items => (shownItems open_ items).map fun texts => "[" ++ separated ", " texts ++ "]"
  | .pair first second =>
    match shownWithin open_ first, shownWithin open_ second with
    | .ok left, .ok right => .ok ("(" ++ left ++ ", " ++ right ++ ")")
    | .error e, _ => .error e
    | _, .error e => .error e
  | .set items =>
    if items.isEmpty then .ok "set()"
    else (shownItems open_ items).map fun texts => "\x7b" ++ separated ", " texts ++ "\x7d"
  | .map entries => (shownEntries open_ entries).map fun texts =>
    "\x7b" ++ separated ", " texts ++ "\x7d"
  | .knot label body =>
    match open_.lookup label with
    | some dots => .ok dots
    | none => shownWithin ((label, dotsFor body) :: open_) body
  | .back label => .ok ((open_.lookup label).getD (dotsFor (.list [])))
  | value => shownAtom value

def shownItems (open_ : Showing) : List Value → Except OversizedInteger (List String)
  | [] => .ok []
  | item :: rest =>
    match shownWithin open_ item, shownItems open_ rest with
    | .ok first, .ok texts => .ok (first :: texts)
    | .error e, _ => .error e
    | _, .error e => .error e

def shownEntries (open_ : Showing) :
    List (Value × Value) → Except OversizedInteger (List String)
  | [] => .ok []
  | (key, value) :: rest =>
    match shownWithin open_ key, shownWithin open_ value, shownEntries open_ rest with
    | .ok left, .ok right, .ok texts => .ok ((left ++ ": " ++ right) :: texts)
    | .error e, _, _ => .error e
    | _, .error e, _ => .error e
    | _, _, .error e => .error e

end

/-- The form of a value inside messages. -/
def shown (value : Value) : Except OversizedInteger String := shownWithin [] value

/-- The plain text of a value: texts as they are, members as their integer, date-times
with a space between date and time, everything else in its shown form. -/
def plainText : Value → Except OversizedInteger String
  | .text s => .ok s
  | .member _ _ n => integerText? n
  | .date d => .ok d.text
  | .dateTime t => .ok (t.textWith " ")
  | .cell s => .ok s.plainText
  | value => value.shown

/-- The text of a double in the grid: integers have no fraction. -/
def gridDoubleText (x : Double) : String :=
  if x.isNan then ""
  else if x.isIntegral then ((x.truncate?).map integerText).getD ""
  else doubleText .plain x

/-- Whether a list comes down to one missing item, however deep it lies. -/
def isLoneMissing : Value → Bool
  | .list [.null] => true
  | .list [.float x] => x.isNan
  | .list [.cell s] => s.isMissing
  | .list [item] => isLoneMissing item
  | _ => false

/-- The text of a scalar of a cell in the grid. -/
def gridCellText : CellScalar → String
  | .timestamp t => t.textWith "T"
  | .double x => gridDoubleText x
  | .single x => gridDoubleText x
  | .missingDateTime => CellScalar.missingDateTime.plainText
  | s => if s.isMissing then "" else s.plainText

/-- The text of a cell in the grid. What is missing has the empty text, an integer the same
text however the spreadsheet stores it, and dates and times take the international format. -/
def gridText : Value → Except OversizedInteger String
  | .null => .ok ""
  | .text s => .ok (unifyLines s)
  | .float x => .ok (gridDoubleText x)
  | .date d => .ok d.text
  | .dateTime t => .ok (t.textWith "T")
  | .cell s => .ok (gridCellText s)
  | value => if isLoneMissing value then .ok "" else value.plainText

end TypedSheets.Value
