/-!
# Binary floating point numbers

A double is not-a-number, an infinity, or a signed significand times a power of
two. Every operation goes through exact ratios of natural numbers and one rounding
to the nearest representable number, with ties to the even significand.
-/

namespace TypedSheets.Number

/-- A binary format: the bits of a significand and the least and greatest exponent
of its last bit. -/
structure BinaryFormat where
  precision : Nat
  minExponent : Int
  maxExponent : Int

/-- Fifty-three bits of significand. -/
def BinaryFormat.double : BinaryFormat := ⟨53, -1074, 971⟩

/-- Twenty-four bits of significand. -/
def BinaryFormat.single : BinaryFormat := ⟨24, -149, 104⟩

/-- A double; the significand of a finite one is below `2 ^ 53`, and at least `2 ^ 52`
unless the exponent is the least one. -/
inductive Double where
  | nan
  | infinite (negative : Bool)
  | finite (negative : Bool) (significand : Nat) (exponent : Int)
  deriving Repr, DecidableEq, Inhabited

/-- The quotient rounded to the nearest integer, ties to the even one. -/
def roundDiv (num den : Nat) : Nat :=
  let quotient := num / den
  let remainder := num % den
  if 2 * remainder > den ∨ (2 * remainder = den ∧ quotient % 2 = 1) then quotient + 1 else quotient

/-- The ratio scaled by a power of two: `num / den · 2 ^ (-exponent)` as a ratio. -/
def scaleRatio (num den : Nat) (exponent : Int) : Nat × Nat :=
  if exponent < 0 then (num * Nat.pow 2 exponent.natAbs, den) else (num, den * Nat.pow 2 exponent.natAbs)

/-- The exponent at which the significand of a positive ratio has full precision. -/
def BinaryFormat.exponentOf (format : BinaryFormat) (num den : Nat) : Int :=
  let guess : Int := (num.log2 : Int) - den.log2 - (format.precision - 1 : Nat)
  let (scaledNum, scaledDen) := scaleRatio num den guess
  let full := if scaledNum < scaledDen * Nat.pow 2 (format.precision - 1) then guess - 1 else guess
  max full format.minExponent

/-- The significand and exponent nearest to a ratio, or nothing beyond the greatest
finite number. -/
def BinaryFormat.nearest? (format : BinaryFormat) (num den : Nat) : Option (Nat × Int) :=
  if num = 0 then some (0, format.minExponent)
  else
    let exponent := format.exponentOf num den
    let (scaledNum, scaledDen) := scaleRatio num den exponent
    let rounded := roundDiv scaledNum scaledDen
    let carried := if rounded = Nat.pow 2 format.precision then (rounded / 2, exponent + 1)
      else (rounded, exponent)
    if format.maxExponent < carried.2 then none else some carried

namespace Double

/-- The double nearest to a signed ratio; an infinity beyond the greatest one. -/
def ofRatio (negative : Bool) (num den : Nat) : Double :=
  match BinaryFormat.double.nearest? num den with
  | some (significand, exponent) => .finite negative significand exponent
  | none => .infinite negative

/-- The exact value of a finite double as a ratio without sign. -/
def ratio (significand : Nat) (exponent : Int) : Nat × Nat :=
  if exponent < 0 then (significand, Nat.pow 2 exponent.natAbs)
  else (significand * Nat.pow 2 exponent.natAbs, 1)

/-- Positive zero. -/
def zero : Double := .finite false 0 (-1074)

/-- A double that is neither infinite nor not-a-number. -/
def isFinite : Double → Bool
  | .finite .. => true
  | _ => false

def isNan : Double → Bool
  | .nan => true
  | _ => false

/-- The double nearest to an integer, or nothing beyond the greatest finite one. -/
def ofInt? (n : Int) : Option Double :=
  match ofRatio (n < 0) n.natAbs 1 with
  | .infinite _ => none
  | x => some x

/-- The same number with the other sign. -/
def neg : Double → Double
  | .nan => .nan
  | .infinite negative => .infinite !negative
  | .finite negative significand exponent => .finite (!negative) significand exponent

/-- The exact value as an integer over a power of two. -/
def signedRatio (negative : Bool) (significand : Nat) (exponent : Int) : Int × Nat :=
  let (num, den) := ratio significand exponent
  (if negative then -(num : Int) else num, den)

/-- Sum, rounded once. -/
def add : Double → Double → Double
  | .finite n₁ m₁ e₁, .finite n₂ m₂ e₂ =>
    let (a, b) := signedRatio n₁ m₁ e₁
    let (c, d) := signedRatio n₂ m₂ e₂
    let total := a * d + c * b
    if total = 0 then .finite (n₁ && n₂) 0 (-1074) else ofRatio (total < 0) total.natAbs (b * d)
  | .infinite n₁, .infinite n₂ => if n₁ = n₂ then .infinite n₁ else .nan
  | .infinite n₁, .finite .. => .infinite n₁
  | .finite .., .infinite n₂ => .infinite n₂
  | _, _ => .nan

/-- Product, rounded once. -/
def mul : Double → Double → Double
  | .finite n₁ m₁ e₁, .finite n₂ m₂ e₂ =>
    let (a, b) := ratio m₁ e₁
    let (c, d) := ratio m₂ e₂
    ofRatio (n₁ != n₂) (a * c) (b * d)
  | .infinite n₁, .infinite n₂ => .infinite (n₁ != n₂)
  | .infinite n₁, .finite n₂ m _ => if m = 0 then .nan else .infinite (n₁ != n₂)
  | .finite n₁ m _, .infinite n₂ => if m = 0 then .nan else .infinite (n₁ != n₂)
  | _, _ => .nan

/-- Order by value; nothing is comparable with not-a-number. -/
def compare? : Double → Double → Option Ordering
  | .finite n₁ m₁ e₁, .finite n₂ m₂ e₂ =>
    let (a, b) := signedRatio n₁ m₁ e₁
    let (c, d) := signedRatio n₂ m₂ e₂
    some (Ord.compare (a * d) (c * b))
  | .infinite n₁, .infinite n₂ =>
    some (if n₁ = n₂ then .eq else if n₁ then .lt else .gt)
  | .infinite n₁, .finite .. => some (if n₁ then .lt else .gt)
  | .finite .., .infinite n₂ => some (if n₂ then .gt else .lt)
  | _, _ => none

/-- Order of an integer and a double by exact value. -/
def compareInt? (n : Int) : Double → Option Ordering
  | .finite negative significand exponent =>
    let (a, b) := signedRatio negative significand exponent
    some (Ord.compare (n * b) a)
  | .infinite negative => some (if negative then .gt else .lt)
  | .nan => none

/-- The integer between zero and the double that is nearest to the double. -/
def truncate? : Double → Option Int
  | .finite negative significand exponent =>
    let (num, den) := ratio significand exponent
    some (if negative then -((num / den : Nat) : Int) else (num / den : Nat))
  | _ => none

/-- Whether the double is an integer. -/
def isIntegral : Double → Bool
  | .finite _ significand exponent =>
    let (num, den) := ratio significand exponent
    num % den == 0
  | _ => false

/-- The nearest number of twenty-four bits, as a double. -/
def toSingle : Double → Double
  | .finite negative significand exponent =>
    let (num, den) := ratio significand exponent
    match BinaryFormat.single.nearest? num den with
    | none => .infinite negative
    | some (m, e) =>
      let (a, b) := ratio m e
      ofRatio negative a b
  | x => x

end Double

end TypedSheets.Number
