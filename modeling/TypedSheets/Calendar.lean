import TypedSheets.Number.Digits
import TypedSheets.Number.IntegerText

/-!
# Dates and times

Proleptic Gregorian dates, times of day to the nanosecond, and date-times with an
optional offset from universal time. Texts follow the international format: a
fraction of a second is written with six digits, or with nine when the nanoseconds
are not whole microseconds, and is left out when it is zero.
-/

namespace TypedSheets.Calendar

open TypedSheets.Number

structure Date where
  year : Nat
  month : Nat
  day : Nat
  deriving Repr, DecidableEq

structure TimeOfDay where
  hour : Nat
  minute : Nat
  second : Nat
  nanosecond : Nat
  deriving Repr, DecidableEq

/-- A date and a time; `offset` counts the microseconds ahead of universal time. -/
structure DateTime where
  date : Date
  time : TimeOfDay
  offset : Option Int
  deriving Repr, DecidableEq

/-- Why year, month, day, hour, minute and second make no date-time. -/
inductive CalendarError where
  | year (year : Nat)
  | month
  | day
  | hour
  | minute
  | second
  | offset (microseconds : Int)
  deriving Repr, DecidableEq

/-- The microseconds of a second and of a day. -/
def perSecond : Nat := 1000000
def perDay : Nat := 86400 * perSecond

/-- The constructor form of a duration in messages: whole days, and the seconds and
microseconds left. -/
def durationText (microseconds : Int) : String :=
  let rest := Int.fmod microseconds perDay
  let part (name : String) (n : Int) : List String :=
    if n = 0 then [] else [name ++ "=" ++ integerText n]
  let parts := part "days" (Int.fdiv microseconds perDay) ++
    part "seconds" (Int.fdiv rest perSecond) ++ part "microseconds" (Int.fmod rest perSecond)
  "datetime.timedelta(" ++ (if parts.isEmpty then "0" else ", ".intercalate parts) ++ ")"

/-- The wording of a part that is out of range. -/
def CalendarError.message : CalendarError → String
  | .year n => "year " ++ integerText n ++ " is out of range"
  | .month => "month must be in 1..12"
  | .day => "day is out of range for month"
  | .hour => "hour must be in 0..23"
  | .minute => "minute must be in 0..59"
  | .second => "second must be in 0..59"
  | .offset microseconds =>
    "offset must be a timedelta strictly between -timedelta(hours=24) and " ++
      "timedelta(hours=24), not " ++ durationText microseconds ++ "."

/-- Years divisible by four are leap, those divisible by a hundred only when divisible
by four hundred. -/
def isLeapYear (year : Nat) : Bool := year % 4 == 0 && (year % 100 != 0 || year % 400 == 0)

/-- The number of days of a month. -/
def daysInMonth (year month : Nat) : Nat :=
  if month = 2 then if isLeapYear year then 29 else 28
  else if month = 4 ∨ month = 6 ∨ month = 9 ∨ month = 11 then 30 else 31

/-- A date within the years 1 to 9999; the first part that is out of range is reported. -/
def Date.make (year month day : Nat) : Except CalendarError Date :=
  if year < 1 ∨ 9999 < year then .error (.year year)
  else if month < 1 ∨ 12 < month then .error .month
  else if day < 1 ∨ daysInMonth year month < day then .error .day
  else .ok { year, month, day }

/-- A time within one day; the first part that is out of range is reported. -/
def TimeOfDay.make (hour minute second nanosecond : Nat) : Except CalendarError TimeOfDay :=
  if 23 < hour then .error .hour
  else if 59 < minute then .error .minute
  else if 59 < second then .error .second
  else .ok { hour, minute, second, nanosecond }

/-- A number padded with zeros to at least `width` digits. -/
def padded (width n : Nat) : String :=
  let digits := naturalChars n
  String.ofList (List.replicate (width - digits.length) '0' ++ digits)

def Date.text (d : Date) : String :=
  padded 4 d.year ++ "-" ++ padded 2 d.month ++ "-" ++ padded 2 d.day

def TimeOfDay.text (t : TimeOfDay) : String :=
  let fraction := if t.nanosecond = 0 then ""
    else if t.nanosecond % 1000 = 0 then "." ++ padded 6 (t.nanosecond / 1000)
    else "." ++ padded 9 t.nanosecond
  padded 2 t.hour ++ ":" ++ padded 2 t.minute ++ ":" ++ padded 2 t.second ++ fraction

/-- A signed offset in hours and minutes, with seconds and microseconds when they are not
zero. -/
def offsetText (microseconds : Int) : String :=
  let size := microseconds.natAbs / perSecond
  let fraction := microseconds.natAbs % perSecond
  let tail := if size % 60 = 0 && fraction = 0 then "" else ":" ++ padded 2 (size % 60)
  (if microseconds < 0 then "-" else "+") ++ padded 2 (size / 3600) ++ ":" ++
    padded 2 (size / 60 % 60) ++ tail ++ if fraction = 0 then "" else "." ++ padded 6 fraction

/-- The text of a date-time with the given text between date and time. -/
def DateTime.textWith (between : String) (t : DateTime) : String :=
  t.date.text ++ between ++ t.time.text ++ (t.offset.map offsetText).getD ""

/-- Two date-times are equal when both name the same instant, or both have no offset and
the same parts. -/
def DateTime.instant (t : DateTime) : Int :=
  let d := t.date
  let before := d.year - 1
  let days := before * 365 + before / 4 - before / 100 + before / 400 +
    (List.range (d.month - 1)).foldl (fun total m => total + daysInMonth d.year (m + 1)) 0 + d.day
  let inDay := t.time.hour * 3600 + t.time.minute * 60 + t.time.second
  let seconds : Int := (days * 86400 + inDay : Nat)
  seconds * 1000000000 + t.time.nanosecond - t.offset.getD 0 * 1000

/-- The date a number of days after the first of March of year zero. The years of a cycle of
four hundred start in March, so that a leap day ends its year. -/
def Date.afterMarch (days : Nat) : Date :=
  let inCycle := days % 146097
  let inCycleYear := (inCycle - inCycle / 1460 + inCycle / 36524 - inCycle / 146096) / 365
  let inYear := inCycle - (inCycleYear * 365 + inCycleYear / 4 - inCycleYear / 100)
  let place := (5 * inYear + 2) / 153
  let year := days / 146097 * 400 + inCycleYear
  { year := if place < 10 then year else year + 1
    month := if place < 10 then place + 3 else place - 9
    day := inYear - (153 * place + 2) / 5 + 1 }

/-- The date-time in universal time a number of seconds after the start of 1970. -/
def DateTime.sinceEpoch (seconds nanosecond : Nat) : DateTime :=
  let inDay := seconds % 86400
  { date := .afterMarch (seconds / 86400 + 719468)
    time := { hour := inDay / 3600, minute := inDay / 60 % 60, second := inDay % 60, nanosecond }
    offset := some 0 }

/-- Reads exactly `width` ASCII digits off the front. -/
def readDigits? (width : Nat) (cs : List Char) : Option (Nat × List Char) :=
  let run := cs.take width
  if run.length = width && run.all (isBaseDigit 10) then some (digitsValue 10 run, cs.drop width)
  else none

/-- Expects a character. -/
def expect? (c : Char) : List Char → Option (List Char)
  | d :: rest => if c = d then some rest else none
  | [] => none

/-- Reads `yyyy-mm-dd` off the front. -/
def readDateOff? (cs : List Char) : Option (Date × List Char) := do
  let (year, cs) ← readDigits? 4 cs
  let (month, cs) ← readDigits? 2 (← expect? '-' cs)
  let (day, cs) ← readDigits? 2 (← expect? '-' cs)
  let date ← (Date.make year month day).toOption
  pure (date, cs)

/-- Reads `hh:mm[:ss[.fraction]]` off the front. -/
def readTimeOff? (cs : List Char) : Option (TimeOfDay × List Char) := do
  let (hour, cs) ← readDigits? 2 cs
  let (minute, cs) ← readDigits? 2 (← expect? ':' cs)
  let (second, cs) := match cs with
    | ':' :: rest => (readDigits? 2 rest).getD (0, cs)
    | _ => (0, cs)
  let (nanosecond, cs) := match cs with
    | '.' :: rest =>
      let run := rest.takeWhile (isBaseDigit 10)
      (digitsValue 10 ((run ++ List.replicate 9 '0').take 9), rest.drop run.length)
    | _ => (0, cs)
  let time ← (TimeOfDay.make hour minute second nanosecond).toOption
  pure (time, cs)

/-- Reads `Z`, `±hh:mm`, `±hh:mm:ss`, `±hh:mm:ss.ffffff` or nothing. -/
def readOffset? : List Char → Option (Option Int)
  | [] => some none
  | ['Z'] => some (some 0)
  | sign :: rest => do
    let (hour, rest) ← readDigits? 2 rest
    let (minute, rest) ← readDigits? 2 (← expect? ':' rest)
    let (second, rest) ← match rest with
      | ':' :: digits => readDigits? 2 digits
      | _ => some (0, rest)
    let (fraction, rest) ← match rest with
      | '.' :: digits => readDigits? 6 digits
      | _ => some (0, rest)
    if !rest.isEmpty then none
    else
      let size : Int := ((hour * 3600 + minute * 60 + second) * perSecond + fraction : Nat)
      if sign = '+' then pure (some size)
      else if sign = '-' then pure (some (-size))
      else none

/-- The date of a text `yyyy-mm-dd`. -/
def readDate? (text : String) : Option Date := do
  let (date, rest) ← readDateOff? text.toList
  if rest.isEmpty then pure date else none

/-- The time of a text `hh:mm:ss`, with its offset when there is one. -/
def readTime? (text : String) : Option (TimeOfDay × Option Int) := do
  let (time, rest) ← readTimeOff? text.toList
  pure (time, ← readOffset? rest)

/-- The date-time of a text: a date, then nothing, or `T` or a space and a time. -/
def readDateTime? (text : String) : Option DateTime := do
  let (date, rest) ← readDateOff? text.toList
  match rest with
  | [] =>
    let midnight := { hour := 0, minute := 0, second := 0, nanosecond := 0 }
    pure { date, time := midnight, offset := none }
  | _ :: behind =>
    let (time, tail) ← readTimeOff? behind
    let offset ← readOffset? tail
    pure { date, time, offset }

end TypedSheets.Calendar
