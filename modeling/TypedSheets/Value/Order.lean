import TypedSheets.Value

/-!
# Order of values

Numbers are ordered by value, texts by code points, dates, times and date-times by
time, and lists by the first item in which they differ. Other pairs have no order,
nor has a date with a date-time or a time with an offset with one without: asking for
one is an error.
-/

namespace TypedSheets.Value

open TypedSheets.Calendar

/-- Why two values cannot be ordered. -/
inductive OrderError where
  /-- Their kinds have no order with each other. -/
  | kinds (relation left right : String)
  /-- One of them has a time and the other has none. -/
  | dateWithDateTime
  /-- Only one of them has an offset; the text says what they are. -/
  | offsets (what : String)
  /-- A decimal with something that is no number. -/
  | noNumber
  deriving Repr, DecidableEq

/-- The wording of the refusal to compare. -/
def OrderError.message : OrderError → String
  | .kinds relation left right =>
    "'" ++ relation ++ "' not supported between instances of '" ++ left ++ "' and '" ++
      right ++ "'"
  | .dateWithDateTime => "can't compare datetime.datetime to datetime.date"
  | .offsets what => "can't compare offset-naive and offset-aware " ++ what
  | .noNumber => "[<class 'decimal.InvalidOperation'>]"

/-- The name of the refusal's kind. -/
def OrderError.kindName : OrderError → String
  | .noNumber => "InvalidOperation"
  | _ => "TypeError"

/-- Whether a value is a decimal number. -/
def isDecimal : Value → Bool
  | .cell (.decimal _) => true
  | _ => false

/-- Dates in chronological order. -/
def dateRank (d : Date) : Nat := (d.year * 100 + d.month) * 100 + d.day

/-- Times of a day in chronological order, in nanoseconds. -/
def timeRank (t : TimeOfDay) (offset : Option Int) : Int :=
  let seconds : Int := (t.hour * 3600 + t.minute * 60 + t.second : Nat)
  seconds * 1000000000 + t.nanosecond - offset.getD 0 * 1000

/-- Order of two values that are not lists; `ok none` for a pair with not-a-number, which only
decimals refuse. -/
def atomOrder (relation : String) (a b : Value) : Except OrderError (Option Ordering) :=
  match a.numeral?, b.numeral? with
  | some m, some n =>
    match m.compare? n with
    | none => if a.isDecimal || b.isDecimal then .error .noNumber else .ok none
    | order => .ok order
  | _, _ =>
    match a.dateTime?, b.dateTime? with
    | some s, some t =>
      if s.offset.isSome == t.offset.isSome then .ok (some (Ord.compare s.instant t.instant))
      else .error (.offsets "datetimes")
    | _, _ =>
      match a, b with
      | .text s, .text t => .ok (some (if s = t then .eq else if s < t then .lt else .gt))
      | .date s, .date t => .ok (some (Ord.compare (dateRank s) (dateRank t)))
      | .date _, .dateTime _ => .error .dateWithDateTime
      | .dateTime _, .date _ => .error .dateWithDateTime
      | .cell (.time s x), .cell (.time t y) =>
        if x.isSome == y.isSome then .ok (some (Ord.compare (timeRank s x) (timeRank t y)))
        else .error (.offsets "times")
      | _, _ => .error (.kinds relation a.familyKindName b.familyKindName)

mutual

/-- Whether `a` stands before `b`, or behind it when `behind` is set. -/
def ordered (behind : Bool) : Value → Value → Except OrderError Bool
  | .list a, .list b => orderedItems behind a b
  | a, b => (atomOrder (if behind then ">" else "<") a b).map
      (· == some (if behind then .gt else .lt))

/-- Lists compare by their first pair of different items, then by length. -/
def orderedItems (behind : Bool) : List Value → List Value → Except OrderError Bool
  | [], [] => .ok false
  | [], _ :: _ => .ok !behind
  | _ :: _, [] => .ok behind
  | a :: rest, b :: others =>
    if same a b then orderedItems behind rest others else ordered behind a b

end

end TypedSheets.Value
