import TypedSheets.Value

/-!
# Order of sets

A set of numbers lists them by slots. There are eight slots, or more than two for each
number when there are more than four of them, always a power of two. Each number has a
residue, the same for equal numbers of either kind, and takes the slot that the residue
names, or another one when that is taken. Other values have no slots of their own: a set
that holds one lists its members in the order of the document.
-/

namespace TypedSheets

open TypedSheets.Number

namespace SlotOrder

/-- The prime number that residues are taken by. -/
def modulus : Nat := Nat.pow 2 61 - 1

/-- A residue with a sign; minus one stands for no residue and gives way to minus two. -/
def signed (negative : Bool) (size : Nat) : Int :=
  if negative then (if size % modulus = 1 then -2 else -(size % modulus : Nat)) else
    (size % modulus : Nat)

/-- The residue of a double: a power of two counts by its exponent modulo sixty-one. -/
def doubleResidue? : Double → Option Int
  | .nan => none
  | .infinite negative => some (signed negative 314159)
  | .finite negative significand exponent =>
    some (signed negative (significand * Nat.pow 2 (exponent.emod 61).toNat))

/-- The residue of a number. -/
def residue? (value : Value) : Option Int :=
  match value.numeral? with
  | some (.int n) => some (signed (n < 0) n.natAbs)
  | some (.float x) => doubleResidue? x
  | _ => none

/-- The number of slots for some numbers. -/
def slotCount (numbers : Nat) : Nat := if numbers < 5 then 8 else Nat.pow 2 ((2 * numbers).log2 + 1)

/-- The slots, each empty or with a value. -/
abbrev Slots := List (Option Value)

/-- Whether a slot is there and empty. -/
def isFree (slots : Slots) (place : Nat) : Bool := (slots[place]?).any Option.isNone

/-- The slots that are tried at a place: ten in a row where the row fits, else one. -/
def tried (slots : Slots) (place : Nat) : List Nat :=
  if place + 9 < slots.length then (List.range 10).map (place + ·) else [place]

/-- The free slot for a residue. Behind a row that is taken, the search goes on at a place that
depends on the residue, and from some step on on all places. -/
def search (slots : Slots) : Nat → Nat → Nat → Nat
  | 0, place, _ => place
  | fuel + 1, place, rest =>
    match (tried slots place).find? (isFree slots) with
    | some found => found
    | none =>
      search slots fuel ((place * 5 + 1 + rest / 32) % slots.length) (rest / 32)

/-- With a value in the free slot for its residue. -/
def put (slots : Slots) (entry : Int × Value) : Slots :=
  let word := (entry.1.emod (Int.pow 2 64)).toNat
  slots.set (search slots (slots.length + 16) (word % slots.length) word) (some entry.2)

end SlotOrder

/-- Different values in the order in which a set lists them. -/
def slotOrder (values : List Value) : List Value :=
  match values.mapM fun value => (SlotOrder.residue? value).map fun r => (r, value) with
  | none => values
  | some entries =>
    let slots := List.replicate (SlotOrder.slotCount entries.length) none
    (entries.foldl SlotOrder.put slots).filterMap id

end TypedSheets
