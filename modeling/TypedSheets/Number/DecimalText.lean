import TypedSheets.Number.Double
import TypedSheets.Number.IntegerText
import TypedSheets.Text.Lines

/-!
# Decimal text of doubles

Reading takes the double nearest to the exact value of the text. Writing chooses
the fewest digits that read back: on the grid of one significant digit, then two,
and so on, the two neighbours of the value are tried, and the first grid with a
neighbour that rounds to the double wins. How the digits are laid out is a record,
`FloatNotation`, one for each format that the program writes.
-/

namespace TypedSheets.Number

open TypedSheets.Text

/-- A decimal `0.d₁d₂… · 10 ^ point` by its digits and the place of the point. -/
structure DecimalDigits where
  digits : List Char
  point : Int

/-- `base ^ exponent` as a ratio. -/
def powerRatio (base : Nat) (exponent : Int) : Nat × Nat :=
  if exponent < 0 then (1, Nat.pow base exponent.natAbs) else (Nat.pow base exponent.natAbs, 1)

/-- The place of the decimal point of a positive ratio: `10 ^ (p - 1) ≤ num / den < 10 ^ p`,
found by correcting a guess from the binary logarithms. -/
def pointOf (num den : Nat) : Int :=
  let logarithm : Int := (num.log2 : Int) - den.log2
  let guess := Int.fdiv (logarithm * 30103) 100000 + 1
  let reached (p : Int) : Bool :=
    let (a, b) := powerRatio 10 p
    a * den ≤ num * b
  let raised := if reached guess then guess + 1 else guess
  if reached (raised - 1) then raised
  else if reached (raised - 2) then raised - 1 else raised - 2

/-- The reals that round to a positive binary number, as numerators over one denominator. -/
structure RoundingInterval where
  low : Nat
  value : Nat
  high : Nat
  den : Nat
  closed : Bool

/-- Half a unit to each side; a quarter below a power of two, whose lower neighbour is
half as far. The ends belong to the interval when the significand is even. -/
def RoundingInterval.of (format : BinaryFormat) (significand : Nat) (exponent : Int) :
    RoundingInterval :=
  let quarter := exponent - 2
  let scale := if quarter < 0 then 1 else Nat.pow 2 quarter.natAbs
  let den := if quarter < 0 then Nat.pow 2 quarter.natAbs else 1
  let isPower := significand = Nat.pow 2 (format.precision - 1) ∧ format.minExponent < exponent
  let below := if isPower then 1 else 2
  { low := (4 * significand - below) * scale
    value := 4 * significand * scale
    high := (4 * significand + 2) * scale
    den := den
    closed := significand % 2 == 0 }

/-- Whether `candidate · stepNum / stepDen` rounds to the number. -/
def RoundingInterval.holds (i : RoundingInterval) (candidate stepNum stepDen : Nat) : Bool :=
  let point := candidate * stepNum * i.den
  if i.closed then i.low * stepDen ≤ point && point ≤ i.high * stepDen
  else i.low * stepDen < point && point < i.high * stepDen

/-- The decimal with `count` digits that rounds to the number and is nearest to it. -/
def RoundingInterval.onGrid? (i : RoundingInterval) (point : Int) (count : Nat) : Option Nat :=
  let (stepNum, stepDen) := powerRatio 10 (point - count)
  let below := i.value * stepDen / (i.den * stepNum)
  let above := below + 1
  match i.holds below stepNum stepDen, i.holds above stepNum stepDen with
  | true, false => some below
  | false, true => some above
  | false, false => none
  | true, true =>
    let toBelow := i.value * stepDen - below * stepNum * i.den
    let toAbove := above * stepNum * i.den - i.value * stepDen
    some (if toBelow < toAbove then below
      else if toAbove < toBelow then above
      else if below % 2 = 0 then below else above)

/-- Tries the grids of `count`, `count + 1`, … digits, at most `fuel` of them. -/
def RoundingInterval.search (i : RoundingInterval) (point : Int) : Nat → Nat → Nat × Int
  | 0, count => (i.value / i.den, point - count)
  | fuel + 1, count =>
    match i.onGrid? point count with
    | some found => (found, point - count)
    | none => i.search point fuel (count + 1)

/-- The shortest digits that read back as the number in its format. Seventeen always do. -/
def shortestDigits (format : BinaryFormat) (significand : Nat) (exponent : Int) :
    DecimalDigits :=
  if significand = 0 then { digits := ['0'], point := 1 }
  else
    let interval := RoundingInterval.of format significand exponent
    let point := pointOf interval.value interval.den
    let (found, unit) := interval.search point 17 1
    let digits := naturalChars found
    { digits := dropTrailing '0' digits, point := unit + digits.length }

/-- How a format spells a double. -/
structure FloatNotation where
  nanText : String
  infinityText : String
  negativeInfinityText : String
  /-- Whether a single digit gets `.0` before an exponent. -/
  fractionBeforeExponent : Bool

/-- Values in messages and cells. -/
def FloatNotation.plain : FloatNotation := ⟨"nan", "inf", "-inf", false⟩

/-- Values in data assets, where an exponent needs a fraction before it. -/
def FloatNotation.asset : FloatNotation := ⟨".nan", ".inf", "-.inf", true⟩

/-- Values in object notation. -/
def FloatNotation.object : FloatNotation := ⟨"NaN", "Infinity", "-Infinity", false⟩

/-- At least two digits. -/
def twoDigits (n : Nat) : List Char :=
  if n < 10 then '0' :: naturalChars n else naturalChars n

/-- Digits with a point among them or zeros between them and the point; integers end in `.0`. -/
def DecimalDigits.positional (d : DecimalDigits) : List Char :=
  if d.point ≤ 0 then '0' :: '.' :: List.replicate d.point.natAbs '0' ++ d.digits
  else if d.digits.length ≤ d.point.natAbs then
    d.digits ++ List.replicate (d.point.natAbs - d.digits.length) '0' ++ ['.', '0']
  else d.digits.take d.point.natAbs ++ '.' :: d.digits.drop d.point.natAbs

/-- One digit before the point and a signed exponent of at least two digits. -/
def DecimalDigits.scientific (fractionBeforeExponent : Bool) (d : DecimalDigits) : List Char :=
  let exponent := d.point - 1
  let fraction := match d.digits.drop 1 with
    | [] => if fractionBeforeExponent then ['.', '0'] else []
    | rest => '.' :: rest
  d.digits.take 1 ++ fraction ++ 'e' :: (if exponent < 0 then '-' else '+') ::
    twoDigits exponent.natAbs

/-- Positional for a point from -3 to 16, otherwise with an exponent. -/
def layoutDigits (fractionBeforeExponent : Bool) (d : DecimalDigits) : List Char :=
  if -4 < d.point ∧ d.point ≤ 16 then d.positional else d.scientific fractionBeforeExponent

/-- The text of a double in a notation. -/
def doubleText (style : FloatNotation) : Double → String
  | .nan => style.nanText
  | .infinite false => style.infinityText
  | .infinite true => style.negativeInfinityText
  | .finite negative significand exponent =>
    let digits := shortestDigits .double significand exponent
    let body := layoutDigits style.fractionBeforeExponent digits
    String.ofList (if negative then '-' :: body else body)

/-- The text of a number of single precision: the shortest digits that read back in that
precision, positional from one ten-thousandth to below a million. -/
def singleText : Double → String
  | .finite negative significand exponent =>
    let (num, den) := Double.ratio significand exponent
    match BinaryFormat.single.nearest? num den with
    | none => doubleText .plain (.infinite negative)
    | some (m, e) =>
      let (num, den) := Double.ratio m e
      let digits := shortestDigits .single m e
      let inPlace := num = 0 ∨ (den ≤ num * Nat.pow 10 4 ∧ num < Nat.pow 10 6 * den)
      let body := if inPlace then digits.positional else digits.scientific false
      String.ofList (if negative then '-' :: body else body)
  | x => doubleText .plain x

/-- The text with a fixed number of places, rounded from the exact value with ties to
even; the sign of a negative zero stays. -/
def fixedChars (places : Nat) : Double → List Char
  | .nan => "nan".toList
  | .infinite negative => if negative then "-inf".toList else "inf".toList
  | .finite negative significand exponent =>
    let (num, den) := Double.ratio significand exponent
    let digits := naturalChars (roundDiv (num * Nat.pow 10 places) den)
    let padded := List.replicate (places + 1 - digits.length) '0' ++ digits
    let whole := padded.take (padded.length - places)
    let fraction := padded.drop (padded.length - places)
    let body := if places = 0 then whole else whole ++ '.' :: fraction
    if negative then '-' :: body else body

/-- The double nearest to `digits · 10 ^ exponent`. Magnitudes far outside the range of
doubles are settled without computing the power. -/
def ofDecimal (negative : Bool) (digits : List Char) (exponent : Int) : Double :=
  let significant := digits.dropWhile (· == '0')
  if significant.isEmpty then .finite negative 0 (-1074)
  else if 400 < (significant.length : Int) + exponent then .infinite negative
  else if (significant.length : Int) + exponent < -400 then .finite negative 0 (-1074)
  else
    let n := digitsValue 10 significant
    let (a, b) := powerRatio 10 exponent
    Double.ofRatio negative (n * a) b

/-- A text that denotes no double. -/
structure DoubleTextError where
  text : String
  deriving Repr, DecidableEq

/-- The wording of the refusal to read a double. -/
def DoubleTextError.message (error : DoubleTextError) : String :=
  "could not convert string to float: " ++ quote error.text

/-- An ASCII decimal digit. -/
def isAsciiDigit (c : Char) : Bool := '0' ≤ c && c ≤ '9'

/-- Each underscore stands between two digits; the texts without underscores pass. -/
def underscoresBetweenDigits : Option Char → List Char → Bool
  | before, [] => before != some '_'
  | before, c :: rest =>
    if c = '_' then before.any isAsciiDigit && underscoresBetweenDigits (some c) rest
    else (before != some '_' || isAsciiDigit c) && underscoresBetweenDigits (some c) rest

/-- The exponent part: nothing, or a mark, an optional sign and digits. -/
def readExponent? : List Char → Option Int
  | [] => some 0
  | c :: rest =>
    if c = 'e' ∨ c = 'E' then
      let (negative, digits) := takeSign rest
      if digits.isEmpty || !digits.all isAsciiDigit then none
      else
        let n : Int := digitsValue 10 digits
        some (if negative then -n else n)
    else none

/-- Digits with an optional point among them, at least one digit, then an exponent. -/
def readDecimal? (negative : Bool) (cs : List Char) : Option Double :=
  let whole := cs.takeWhile isAsciiDigit
  let afterWhole := cs.dropWhile isAsciiDigit
  let (fraction, rest) := match afterWhole with
    | '.' :: behind => (behind.takeWhile isAsciiDigit, behind.dropWhile isAsciiDigit)
    | behind => ([], behind)
  if whole.isEmpty && fraction.isEmpty then none
  else (readExponent? rest).map fun exponent =>
    ofDecimal negative (whole ++ fraction) (exponent - fraction.length)

/-- The words for infinity and not-a-number in any case, or a decimal. -/
def readUnsigned? (negative : Bool) (cs : List Char) : Option Double :=
  let lowered := cs.map lowerAscii
  if lowered = "inf".toList ∨ lowered = "infinity".toList then some (.infinite negative)
  else if lowered = "nan".toList then some .nan
  else readDecimal? negative cs

/-- The double that a text denotes; blanks may surround it. -/
def readDouble (text : String) : Except DoubleTextError Double :=
  let unified := text.toList.map numeralChar
  let bare := ((unified.dropWhile isPlainBlank).reverse.dropWhile isPlainBlank).reverse
  if !underscoresBetweenDigits none bare then .error { text }
  else
    let (negative, unsigned) := takeSign (bare.filter (· != '_'))
    match readUnsigned? negative unsigned with
    | some x => .ok x
    | none => .error { text }

end TypedSheets.Number
