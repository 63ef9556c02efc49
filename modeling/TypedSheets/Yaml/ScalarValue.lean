import TypedSheets.Text.Base64
import TypedSheets.Text.Lowercase
import TypedSheets.Value
import TypedSheets.Yaml.Character
import TypedSheets.Yaml.Resolution
import TypedSheets.Yaml.ReadError

/-!
# Values of scalars

What the text of a scalar denotes under its tag: a truth value by a word, an integer in
one of four bases or in base sixty, a double, bytes in base sixty-four, a date with or
without a time, or the text itself.
-/

namespace TypedSheets.Yaml

open TypedSheets.Calendar TypedSheets.Number TypedSheets.Text

/-- A truth value by its word, in any case. -/
def readTruthWord (text : String) : Except ReadError Bool :=
  let word := lowercase text
  if ["yes", "true", "on"].contains word then .ok true
  else if ["no", "false", "off"].contains word then .ok false
  else .error (.notTruth word)

/-- A number in base sixty by its parts, the most significant first. -/
def sexagesimal (parts : List Int) : Int := parts.foldl (fun total part => total * 60 + part) 0

/-- The integer of an unsigned text; what it starts with tells the base. -/
def readMagnitude (cs : List Char) : Except ReadError Int :=
  let read (base : Nat) (digits : List Char) : Except ReadError Int :=
    match readInteger base (String.ofList digits) with
    | .ok n => .ok n
    | .error cause => .error (.integer cause)
  match cs with
  | [] => .error .emptyNumber
  | ['0'] => .ok 0
  | '0' :: 'b' :: digits => read 2 digits
  | '0' :: 'x' :: digits => read 16 digits
  | '0' :: _ => read 8 cs
  | _ =>
    if cs.contains ':' then ((splitOn ':' cs).mapM (read 10)).map sexagesimal else read 10 cs

/-- The integer that a scalar denotes. -/
def readInt (text : String) : Except ReadError Int :=
  let (negative, magnitude) := takeSign (text.toList.filter (· != '_'))
  (readMagnitude magnitude).map fun n => if negative then -n else n

/-- Sum of the parts of a number in base sixty, the least significant first; the power of
sixty that belongs to a part must be a double. -/
def sexagesimalDouble (base : Nat) : List Double → Double → Except ReadError Double
  | [], total => .ok total
  | part :: parts, total =>
    match Double.ofInt? base with
    | none => .error .beyondDouble
    | some weight => sexagesimalDouble (base * 60) parts (total.add (part.mul weight))

/-- The double that a scalar denotes. Documents have a spelling of their own for not-a-number,
which is the same wherever it is spelled so. -/
def readFloat (text : String) : Except ReadError Value :=
  let read (cs : List Char) : Except ReadError Double :=
    match readDouble (String.ofList cs) with
    | .ok x => .ok x
    | .error cause => .error (.double cause)
  let lowered := (lowercase (String.ofList (text.toList.filter (· != '_')))).toList
  let (negative, magnitude) := takeSign lowered
  let signed (x : Double) : Value := .float (if negative then x.neg else x)
  if lowered.isEmpty then .error .emptyNumber
  else if magnitude = ".inf".toList then .ok (.float (.infinite negative))
  else if magnitude = ".nan".toList then .ok (.sharedNan .spelling)
  else if magnitude.contains ':' then do
    let parts ← (splitOn ':' magnitude).mapM read
    pure (signed (← sexagesimalDouble 1 parts.reverse .zero))
  else (read magnitude).map signed

/-- The parts of a date with an optional time, as they are written. -/
structure TimestampText where
  year : Nat
  month : Nat
  day : Nat
  time : Option (Nat × Nat × Nat) := none
  /-- The digits of the fraction. -/
  fraction : List Char := []
  /-- The microseconds ahead of universal time. -/
  offset : Option Int := none

/-- One digit or two off the front. -/
def takeOneOrTwo? (cs : List Char) : Option (Nat × List Char) :=
  let digits := (cs.take 2).takeWhile isAsciiDigit
  if digits.isEmpty then none else some (digitsValue 10 digits, cs.drop digits.length)

/-- Exactly `count` digits off the front. -/
def takeDigits? (count : Nat) (cs : List Char) : Option (Nat × List Char) :=
  (dropDigits? count cs).map fun rest => (digitsValue 10 (cs.take count), rest)

/-- Nothing, `Z`, or a signed offset in hours and minutes. -/
def takeZone? : List Char → Option (Option Int)
  | [] => some none
  | ['Z'] => some (some 0)
  | sign :: rest => do
    let (hours, rest) ← takeOneOrTwo? rest
    let (minutes, rest) ← match rest with
      | ':' :: digits => takeDigits? 2 digits
      | _ => some (0, rest)
    let size : Int := ((hours * 3600 + minutes * 60) * perSecond : Nat)
    if !rest.isEmpty then none
    else if sign = '+' then some (some size)
    else if sign = '-' then some (some (-size))
    else none

/-- The parts of a text that looks like a date. -/
def takeTimestamp? (cs : List Char) : Option TimestampText := do
  let (year, cs) ← takeDigits? 4 cs
  let (month, cs) ← takeOneOrTwo? (← dropChar? '-' cs)
  let (day, cs) ← takeOneOrTwo? (← dropChar? '-' cs)
  let behindMark ← match cs with
    | [] => some none
    | 'T' :: rest => some (some rest)
    | 't' :: rest => some (some rest)
    | c :: _ => if isSpace c then some (some (cs.dropWhile isSpace)) else none
  match behindMark with
  | none => pure { year, month, day }
  | some cs => do
    let (hour, cs) ← takeOneOrTwo? cs
    let (minute, cs) ← takeDigits? 2 (← dropChar? ':' cs)
    let (second, cs) ← takeDigits? 2 (← dropChar? ':' cs)
    let (fraction, cs) := match cs with
      | '.' :: rest => (rest.takeWhile isAsciiDigit, rest.dropWhile isAsciiDigit)
      | _ => ([], cs)
    let zone := cs.dropWhile isSpace
    if zone.isEmpty && !cs.isEmpty then none
    let offset ← takeZone? zone
    pure { year, month, day, time := some (hour, minute, second), fraction, offset }

/-- The value of the parts; they must be within the calendar. -/
def TimestampText.value (t : TimestampText) : Except CalendarError Value := do
  match t.time with
  | none => (Date.make t.year t.month t.day).map .date
  | some (hour, minute, second) =>
    match t.offset with
    | some size => if perDay ≤ size.natAbs then throw (.offset size)
    | none => pure ()
    let micros := digitsValue 10 ((t.fraction ++ List.replicate 6 '0').take 6)
    let date ← Date.make t.year t.month t.day
    let time ← TimeOfDay.make hour minute second (micros * 1000)
    pure (.dateTime { date, time, offset := t.offset })

/-- The date or date-time that a scalar denotes; one final line feed makes no difference. -/
def readTimestamp (text : String) : Except ReadError Value :=
  let cs := text.toList
  let bare := if cs.getLast? == some '\n' then cs.dropLast else cs
  match takeTimestamp? bare with
  | none => .error .notTimestamp
  | some parts =>
    match parts.value with
    | .ok value => .ok value
    | .error cause => .error (.calendar cause)

/-- The value of a scalar by its tag. -/
def scalarValue (tag : Tag) (text : String) : Except ReadError Value :=
  match tag with
  | .null => .ok .null
  | .bool => (readTruthWord text).map .bool
  | .int => (readInt text).map .int
  | .float => readFloat text
  | .binary =>
    if text.toList.all fun c => c.toNat < 128 then
      match decodeBase64? text.toList with
      | some data => .ok (.bytes data)
      | none => .error .malformed
    else .error .malformed
  | .timestamp => readTimestamp text
  | .text => .ok (.text text)
  | _ => .error .malformed

end TypedSheets.Yaml
