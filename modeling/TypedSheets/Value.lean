import TypedSheets.CellScalar

/-!
# Values

The values that records hold and that assets and settings are read into. Equality
is by meaning, not by form: the truth values count as one and zero, an enum member
as its integer, and numbers of either kind are equal when they denote the same
number. Not-a-number equals nothing but itself, and only where both come from one
source. Lists are equal item by item, maps when they hold the same keys with equal
values in any order.

A list or map of a document may lie inside itself. Such a value is a knot: it carries
a label, and inside of it a reference back to the label stands for the whole. A knot
is opened before anyone looks at its items.
-/

namespace TypedSheets

open TypedSheets.Number TypedSheets.Calendar

/-- Where a not-a-number that is equal to itself comes from. -/
inductive NanSource where
  /-- The default of a field. -/
  | fieldDefault
  /-- The spelling that documents have for it. -/
  | spelling
  /-- One node of a document. -/
  | node (place : Nat)
  deriving Repr, DecidableEq

inductive Value where
  | null
  | bool (truth : Bool)
  | int (n : Int)
  | float (x : Double)
  /-- A not-a-number that equals every other one of the same source. -/
  | sharedNan (source : NanSource)
  | text (s : String)
  | bytes (data : List UInt8)
  | date (d : Date)
  | dateTime (t : DateTime)
  /-- A member of an enum type, with its label and its integer. -/
  | member (owner label : String) (n : Int)
  | cell (s : CellScalar)
  | list (items : List Value)
  | pair (first second : Value)
  | set (items : List Value)
  | map (entries : List (Value × Value))
  /-- A list or map that lies inside itself. -/
  | knot (label : Nat) (body : Value)
  /-- Inside of a knot, the knot with that label. -/
  | back (label : Nat)
  /-- Something that is no data; only its kind is known. -/
  | object (kind : String)
  deriving Repr, Inhabited

namespace Value

mutual

/-- The value with `whole` in the place of every reference back to a label. -/
def filled (label : Nat) (whole : Value) : Value → Value
  | .list items => .list (filledItems label whole items)
  | .pair first second => .pair (filled label whole first) (filled label whole second)
  | .map entries => .map (filledEntries label whole entries)
  | .knot other body =>
    if other = label then .knot other body else .knot other (filled label whole body)
  | .back other => if other = label then whole else .back other
  | value => value

def filledItems (label : Nat) (whole : Value) : List Value → List Value
  | [] => []
  | item :: rest => filled label whole item :: filledItems label whole rest

def filledEntries (label : Nat) (whole : Value) : List (Value × Value) → List (Value × Value)
  | [] => []
  | (key, value) :: rest => (key, filled label whole value) :: filledEntries label whole rest

end

/-- The list or map that a knot is, its references back filled in; any other value itself. -/
def opened : Value → Value
  | .knot label body => filled label (.knot label body) body
  | value => value

/-- The number that a value counts as. -/
inductive Numeral where
  | int (n : Int)
  | float (x : Double)
  /-- A decimal number, as a ratio. -/
  | ratio (num : Int) (den : Nat)

/-- The number that a decimal counts as. -/
def decimalNumeral : Decimal → Numeral
  | .nan .. => .float .nan
  | .infinite negative => .float (.infinite negative)
  | .finite negative digits exponent =>
    let (num, den) := decimalRatio digits exponent
    .ratio (if negative then -(num : Int) else num) den

/-- The number that a scalar of a cell counts as. -/
def cellNumeral? : CellScalar → Option Numeral
  | .decimal d => some (decimalNumeral d)
  | .integer _ n => some (.int n)
  | .double x => some (.float x)
  | .single x => some (.float x)
  | .truth b => some (.int (if b then 1 else 0))
  | _ => none

/-- Truth values, integers, doubles and enum members count as numbers. -/
def numeral? : Value → Option Numeral
  | .bool truth => some (.int (if truth then 1 else 0))
  | .int n => some (.int n)
  | .float x => some (.float x)
  | .sharedNan _ => some (.float .nan)
  | .member _ _ n => some (.int n)
  | .cell s => cellNumeral? s
  | _ => none

/-- Order of a ratio and a double by exact value. -/
def compareRatio? (num : Int) (den : Nat) : Double → Option Ordering
  | .finite negative significand exponent =>
    let (a, b) := Double.signedRatio negative significand exponent
    some (Ord.compare (num * b) (a * den))
  | .infinite negative => some (if negative then .gt else .lt)
  | .nan => none

/-- Order of numbers by exact value. -/
def Numeral.compare? : Numeral → Numeral → Option Ordering
  | .int a, .int b => some (Ord.compare a b)
  | .int a, .float b => Double.compareInt? a b
  | .float a, .int b => (Double.compareInt? b a).map Ordering.swap
  | .float a, .float b => Double.compare? a b
  | .ratio a d, .int b => some (Ord.compare a (b * d))
  | .int a, .ratio b d => some (Ord.compare (a * d) b)
  | .ratio a d, .ratio b e => some (Ord.compare (a * e) (b * d))
  | .ratio a d, .float b => compareRatio? a d b
  | .float a, .ratio b d => (compareRatio? b d a).map Ordering.swap

/-- The date-time that a value is, if it is one. -/
def dateTime? : Value → Option DateTime
  | .dateTime t => some t
  | .cell (.timestamp t) => some t
  | _ => none

/-- Equality of date-times: as instants where both have an offset, by their parts where
neither has one. -/
def sameDateTime (s t : DateTime) : Bool :=
  s.offset.isSome == t.offset.isSome && s.instant == t.instant

/-- Equality of values that hold no other values. -/
def sameAtom (a b : Value) : Bool :=
  match a.numeral?, b.numeral? with
  | some m, some n =>
    match a, b with
    | .sharedNan s, .sharedNan t => s == t
    | _, _ => m.compare? n == some .eq
  | none, none =>
    match a.dateTime?, b.dateTime? with
    | some s, some t => sameDateTime s t
    | none, none =>
      match a, b with
      | .null, .null => true
      | .text s, .text t => s == t
      | .bytes s, .bytes t => s == t
      | .date s, .date t => s == t
      | .cell s, .cell t => s == t
      | _, _ => false
    | _, _ => false
  | _, _ => false

mutual

/-- Equality by meaning. A knot is endless and equals no value that has an end. -/
def same : Value → Value → Bool
  | .list a, .list b => sameItems a b
  | .pair a b, .pair c d => same a c && same b d
  | .set a, .set b => a.length == b.length && sameMembers a b
  | .map a, .map b => a.length == b.length && sameEntries a b
  | a, b => sameAtom a b

/-- Equality item by item. -/
def sameItems : List Value → List Value → Bool
  | [], [] => true
  | a :: rest, b :: others => same a b && sameItems rest others
  | _, _ => false

/-- Each item occurs among the others. -/
def sameMembers : List Value → List Value → Bool
  | [], _ => true
  | item :: rest, others => others.any (same item ·) && sameMembers rest others

/-- Each entry occurs among the others. -/
def sameEntries : List (Value × Value) → List (Value × Value) → Bool
  | [], _ => true
  | (key, value) :: rest, others =>
    others.any (fun entry => same key entry.1 && same value entry.2) && sameEntries rest others

end

/-- Only values without lists, sets and maps can be keys. -/
def isKey : Value → Bool
  | .list _ => false
  | .set _ => false
  | .map _ => false
  | .knot .. => false
  | .back _ => false
  | .pair first second => isKey first && isKey second
  | _ => true

/-- A value counts as true unless it is null, false, zero or empty. -/
def isTruthy : Value → Bool
  | .null => false
  | .bool truth => truth
  | .int n => n != 0
  | .float (.finite _ significand _) => significand != 0
  | .float _ => true
  | .text s => !s.isEmpty
  | .bytes data => !data.isEmpty
  | .member _ _ n => n != 0
  | .cell s => s.isTruthy
  | .list items => !items.isEmpty
  | .set items => !items.isEmpty
  | .map entries => !entries.isEmpty
  | _ => true

/-- The name of a value's kind in messages. -/
def kindName : Value → String
  | .null => "NoneType"
  | .bool _ => "bool"
  | .int _ => "int"
  | .float _ => "float"
  | .sharedNan _ => "float"
  | .text _ => "str"
  | .bytes _ => "bytes"
  | .date _ => "date"
  | .dateTime _ => "datetime"
  | .member owner _ _ => owner
  | .cell s => s.kindName
  | .list _ => "list"
  | .pair .. => "tuple"
  | .set _ => "set"
  | .map _ => "dict"
  | .knot _ body => kindName body
  | .back _ => "list"
  | .object kind => kind

/-- The name of a value's kind with the family that it belongs to. -/
def familyKindName : Value → String
  | .date _ => "datetime.date"
  | .dateTime _ => "datetime.datetime"
  | .cell s => s.familyKindName
  | value => value.kindName

/-- The value of the first entry whose key equals `key`. -/
def lookup? (key : Value) (entries : List (Value × Value)) : Option Value :=
  (entries.find? fun entry => same entry.1 key).map Prod.snd

/-- Puts a value under a key: an equal key keeps its place and its own form, a new key
goes to the end. -/
def putEntry (key value : Value) : List (Value × Value) → List (Value × Value)
  | [] => [(key, value)]
  | entry :: rest =>
    if same entry.1 key then (entry.1, value) :: rest else entry :: putEntry key value rest

end Value

end TypedSheets
