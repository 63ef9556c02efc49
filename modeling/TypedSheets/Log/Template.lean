import TypedSheets.Value.Text

/-!
# Message templates

A template holds conversions: a percent sign, flags, a width, a precision and a letter.
Each takes the next argument, or the entry of a mapping that it names. Two percent
signs stand for one. All arguments must be used, unless they come as a mapping.
-/

namespace TypedSheets.Template

open TypedSheets.Number TypedSheets.Text

/-- Why a template and its arguments do not fit. -/
inductive TemplateError where
  | tooFewArguments
  | tooManyArguments
  | needsMapping
  | missingKey (name : String)
  | incomplete
  | incompleteKey
  | unsupported (letter : Char) (index : Nat)
  | notNumber (letter : Char) (kind : String)
  | notInteger (letter : Char) (kind : String)
  | notReal (kind : String)
  | notCharacter
  | starNeedsInteger
  /-- A width, or a precision, beyond the range of counts; `taken` when it is an argument. -/
  | countRange (precision taken : Bool)
  | characterRange
  | beyondDouble
  /-- An infinite number, or one that is none, cut to an integer; `decimal` tells its kind. -/
  | infinite (decimal : Bool)
  | notANumber (decimal : Bool)
  /-- A signaling decimal as a double. -/
  | signaling
  | oversized (cause : OversizedInteger)
  deriving Repr, DecidableEq

/-- The wording of a misfit. -/
def TemplateError.message : TemplateError → String
  | .tooFewArguments => "not enough arguments for format string"
  | .tooManyArguments => "not all arguments converted during string formatting"
  | .needsMapping => "format requires a mapping"
  | .missingKey name => quote name
  | .incomplete => "incomplete format"
  | .incompleteKey => "incomplete format key"
  | .unsupported letter index =>
    let shown := if 31 < letter.toNat ∧ letter.toNat < 127 then letter else '?'
    "unsupported format character '" ++ String.singleton shown ++ "' (0x" ++
      String.ofList (dropZeros (hexDigits 8 letter.toNat)) ++ ") at index " ++ integerText index
  | .notNumber letter kind =>
    "%" ++ String.singleton letter ++ " format: a real number is required, not " ++ kind
  | .notInteger letter kind =>
    "%" ++ String.singleton letter ++ " format: an integer is required, not " ++ kind
  | .notReal kind => "must be real number, not " ++ kind
  | .notCharacter => "%c requires int or char"
  | .starNeedsInteger => "* wants int"
  | .countRange false false => "width too big"
  | .countRange true false => "precision too big"
  | .countRange false true => "Python int too large to convert to C ssize_t"
  | .countRange true true => "Python int too large to convert to C int"
  | .characterRange => "%c arg not in range(0x110000)"
  | .beyondDouble => "int too large to convert to float"
  | .infinite false => "cannot convert float infinity to integer"
  | .infinite true => "cannot convert Infinity to integer"
  | .notANumber false => "cannot convert float NaN to integer"
  | .notANumber true => "cannot convert NaN to integer"
  | .signaling => "cannot convert signaling NaN to float"
  | .oversized cause => cause.message
where
  dropZeros (cs : List Char) : List Char :=
    match cs.dropWhile (· == '0') with
    | [] => ['0']
    | rest => rest

/-- The name of a misfit's kind. -/
def TemplateError.kindName : TemplateError → String
  | .missingKey _ => "KeyError"
  | .infinite _ | .characterRange | .beyondDouble | .countRange _ true => "OverflowError"
  | .incomplete | .incompleteKey | .unsupported .. | .notANumber _ | .oversized _ => "ValueError"
  | .countRange .. | .signaling => "ValueError"
  | _ => "TypeError"

/-- The flags, the width and the precision of a conversion. -/
structure Layout where
  left : Bool := false
  plus : Bool := false
  space : Bool := false
  alternate : Bool := false
  zero : Bool := false
  width : Nat := 0
  precision : Option Nat := none

/-- Filled up to the width with spaces. -/
def Layout.pad (l : Layout) (cs : List Char) : List Char :=
  let fill := List.replicate (l.width - cs.length) ' '
  if l.left then cs ++ fill else fill ++ cs

/-- A number with its sign and the mark of its base, filled up to the width with spaces, or
with zeros behind the sign. -/
def Layout.padNumber (l : Layout) (negative : Bool) (mark digits : List Char) : List Char :=
  let sign := if negative then ['-'] else if l.plus then ['+'] else if l.space then [' '] else []
  let front := sign ++ mark
  if l.zero && !l.left then
    front ++ List.replicate (l.width - front.length - digits.length) '0' ++ digits
  else l.pad (front ++ digits)

/-- The digits of a number in a base up to sixteen. -/
def digitsIn (base : Nat) : Nat → Nat → List Char → List Char
  | 0, _, tail => tail
  | fuel + 1, n, tail =>
    let digits := hexDigit (n % base) :: tail
    if n < base then digits else digitsIn base fuel (n / base) digits

/-- At least as many digits as the precision asks for. -/
def Layout.minimum (l : Layout) (digits : List Char) : List Char :=
  List.replicate (l.precision.getD 0 - digits.length) '0' ++ digits

/-- An integer in base ten. -/
def decimal (l : Layout) (n : Int) : Except TemplateError (List Char) :=
  match integerText? n with
  | .error cause => .error (.oversized cause)
  | .ok _ => .ok (l.padNumber (n < 0) [] (l.minimum (naturalChars n.natAbs)))

/-- The upper case of the letters that numbers are written with. -/
def upperCase (cs : List Char) : List Char :=
  cs.map fun c => if 'a' ≤ c ∧ c ≤ 'z' then Char.ofNat (c.toNat - 32) else c

/-- An integer in base eight or sixteen. -/
def inBase (l : Layout) (letter : Char) (n : Int) : List Char :=
  let base := if letter = 'o' then 8 else 16
  let digits := l.minimum (digitsIn base (n.natAbs.log2 + 1) n.natAbs [])
  let cased := if letter = 'X' then upperCase digits else digits
  l.padNumber (n < 0) (if l.alternate then ['0', letter] else []) cased

/-- Digits with a point behind the first ones. Without places the point stays only when the
layout asks for it. -/
def Layout.pointed (l : Layout) (whole fraction : List Char) : List Char :=
  if fraction.isEmpty && !l.alternate then whole else whole ++ '.' :: fraction

/-- A positive ratio rounded to significant digits, with the exponent of the first of them. -/
def significant (count num den : Nat) : List Char × Int :=
  if num = 0 then (List.replicate count '0', 0)
  else
    let point := pointOf num den
    let (a, b) := powerRatio 10 (count - point)
    let rounded := roundDiv (num * a) (den * b)
    if rounded = Nat.pow 10 count then (naturalChars (Nat.pow 10 (count - 1)), point)
    else (naturalChars rounded, point - 1)

/-- An exponent with its sign and at least two digits. -/
def exponentChars (exponent : Int) : List Char :=
  'e' :: (if exponent < 0 then '-' else '+') :: twoDigits exponent.natAbs

/-- A ratio with an exponent and a number of places. -/
def Layout.scientific (l : Layout) (places num den : Nat) : List Char :=
  let (digits, exponent) := significant (places + 1) num den
  l.pointed (digits.take 1) (digits.drop 1) ++ exponentChars exponent

/-- Without zeros at the end, unless the layout keeps them. -/
def Layout.trimmed (l : Layout) (fraction : List Char) : List Char :=
  if l.alternate then fraction else dropTrailing '0' fraction

/-- A ratio in significant digits, with an exponent when it is very small or when it has more
digits before the point than that. -/
def Layout.general (l : Layout) (count num den : Nat) : List Char :=
  let (digits, exponent) := significant count num den
  if exponent < -4 ∨ (count : Int) ≤ exponent then
    l.pointed (digits.take 1) (l.trimmed (digits.drop 1)) ++ exponentChars exponent
  else if exponent < 0 then
    l.pointed ['0'] (l.trimmed (List.replicate (exponent.natAbs - 1) '0' ++ digits))
  else
    let whole := exponent.natAbs + 1
    l.pointed (digits.take whole) (l.trimmed (digits.drop whole))

/-- A ratio with a fixed number of places. -/
def Layout.fixed (l : Layout) (places num den : Nat) : List Char :=
  let digits := naturalChars (roundDiv (num * Nat.pow 10 places) den)
  let padded := List.replicate (places + 1 - digits.length) '0' ++ digits
  let whole := padded.length - places
  l.pointed (padded.take whole) (padded.drop whole)

/-- A double in the form that a letter stands for, in upper case for a letter in upper case. -/
def real (l : Layout) (letter : Char) (x : Double) : List Char :=
  let places := l.precision.getD 6
  let cased (cs : List Char) : List Char :=
    if 'A' ≤ letter ∧ letter ≤ 'Z' then upperCase cs else cs
  match x with
  | .nan => l.padNumber false [] (cased "nan".toList)
  | .infinite negative => l.padNumber negative [] (cased "inf".toList)
  | .finite negative significand exponent =>
    let (num, den) := Double.ratio significand exponent
    let digits :=
      if letter = 'f' ∨ letter = 'F' then l.fixed places num den
      else if letter = 'e' ∨ letter = 'E' then l.scientific places num den
      else l.general (max places 1) num den
    l.padNumber negative [] (cased digits)

/-- The integer that a double is cut to. -/
def cutDouble (x : Double) : Except TemplateError Int :=
  match x.truncate? with
  | some n => .ok n
  | none => .error (if x.isNan then .notANumber false else .infinite false)

/-- The integer that a decimal is cut to. -/
def cutDecimal : Decimal → Except TemplateError Int
  | .nan .. => .error (.notANumber true)
  | .infinite _ => .error (.infinite true)
  | .finite negative digits exponent =>
    let (num, den) := decimalRatio digits exponent
    .ok (if negative then -((num / den : Nat) : Int) else (num / den : Nat))

/-- The integer that a number argument is cut to. -/
def cut (letter : Char) (value : Value) : Except TemplateError Int :=
  match value, value.numeral? with
  | .cell (.decimal d), _ => cutDecimal d
  | _, some (.int n) => .ok n
  | _, some (.float x) => cutDouble x
  | _, _ => .error (.notNumber letter value.familyKindName)

/-- An integer argument. -/
def whole (letter : Char) (value : Value) : Except TemplateError Int :=
  match value, value.numeral? with
  | .cell (.truth _), _ => .error (.notInteger letter value.familyKindName)
  | _, some (.int n) => .ok n
  | _, _ => .error (.notInteger letter value.familyKindName)

/-- A number argument as a double. -/
def asDouble (value : Value) : Except TemplateError Double :=
  match value, value.numeral? with
  | .cell (.decimal (.nan _ true _)), _ => .error .signaling
  | .cell (.decimal d), _ => .ok d.toDouble
  | _, some (.int n) =>
    match Double.ofInt? n with
    | some x => .ok x
    | none => .error .beyondDouble
  | _, some (.float x) => .ok x
  | _, _ => .error (.notReal value.familyKindName)

/-- A character argument: a text of one character, or a code point. -/
def character : Value → Except TemplateError Char
  | .text s =>
    match s.toList with
    | [c] => .ok c
    | _ => .error .notCharacter
  | .int n => codePoint n
  | .bool truth => codePoint (if truth then 1 else 0)
  | .member _ _ n => codePoint n
  | .cell (.integer _ n) => codePoint n
  | _ => .error .notCharacter
where
  codePoint (n : Int) : Except TemplateError Char :=
    if 0 ≤ n ∧ n < 0x110000 then .ok (Char.ofNat n.toNat) else .error .characterRange

/-- The hexadecimal escape of a character beyond ASCII. -/
def escapedBeyondAscii (c : Char) : List Char :=
  let n := c.toNat
  if n < 0x80 then [c]
  else if n < 0x100 then '\\' :: 'x' :: hexDigits 2 n
  else if n < 0x10000 then '\\' :: 'u' :: hexDigits 4 n
  else '\\' :: 'U' :: hexDigits 8 n

/-- A text with every character beyond ASCII escaped. -/
def asciiOnly (text : String) : String := String.ofList (text.toList.flatMap escapedBeyondAscii)

/-- A text cut to the precision. -/
def textual (l : Layout) (text : Except OversizedInteger String) :
    Except TemplateError (List Char) :=
  match text with
  | .error cause => .error (.oversized cause)
  | .ok s =>
    let cs := s.toList
    .ok (l.pad (match l.precision with
      | some count => cs.take count
      | none => cs))

/-- The characters that a conversion puts in the place of its argument. -/
def convert (l : Layout) (letter : Char) (index : Nat) (argument : Value) :
    Except TemplateError (List Char) :=
  if letter = 's' then textual l argument.plainText
  else if letter = 'r' then textual l argument.shown
  else if letter = 'a' then textual l (argument.shown.map asciiOnly)
  else if letter = 'd' ∨ letter = 'i' ∨ letter = 'u' then (cut letter argument).bind (decimal l)
  else if letter = 'x' ∨ letter = 'X' ∨ letter = 'o' then
    (whole letter argument).map (inBase l letter)
  else if "eEfFgG".toList.contains letter then (asDouble argument).map (real l letter)
  else if letter = 'c' then (character argument).map fun c => l.pad [c]
  else .error (.unsupported letter index)

/-- The arguments that are left, and the mapping that they come from, if they do. -/
structure Arguments where
  rest : List Value
  mapping : Option (List (Value × Value))

/-- The next argument. -/
def Arguments.take (a : Arguments) : Except TemplateError (Value × Arguments) :=
  match a.rest with
  | [] => .error .tooFewArguments
  | argument :: rest => .ok (argument, { a with rest })

/-- The flags at the front. -/
def readFlags : Layout → List Char → Layout × List Char
  | l, [] => (l, [])
  | l, c :: rest =>
    if c = '-' then readFlags { l with left := true } rest
    else if c = '+' then readFlags { l with plus := true } rest
    else if c = ' ' then readFlags { l with space := true } rest
    else if c = '#' then readFlags { l with alternate := true } rest
    else if c = '0' then readFlags { l with zero := true } rest
    else (l, c :: rest)

/-- The greatest width and the greatest precision. -/
def countLimit (precision : Bool) : Nat := if precision then Nat.pow 2 31 - 1 else Nat.pow 2 63 - 1

/-- A width or a precision: a number, or a star that takes it from the arguments. -/
def readCount (precision : Bool) (a : Arguments) (cs : List Char) :
    Except TemplateError (Int × Arguments × List Char) :=
  match cs with
  | '*' :: rest => do
    let (argument, a) ← a.take
    match argument, argument.numeral? with
    | .cell _, _ => throw .starNeedsInteger
    | _, some (.int n) =>
      if countLimit precision < n.natAbs then throw (.countRange precision true)
      else pure (n, a, rest)
    | _, _ => throw .starNeedsInteger
  | cs =>
    let digits := cs.takeWhile isAsciiDigit
    let count := digitsValue 10 digits
    if countLimit precision < count then throw (.countRange precision false)
    else pure (count, a, cs.drop digits.length)

/-- The name in parentheses and what follows it. Parentheses within the name come in pairs. -/
def readName (depth : Nat) : List Char → Option (List Char × List Char)
  | [] => none
  | c :: rest =>
    let within (deeper : Nat) : Option (List Char × List Char) :=
      (readName deeper rest).map fun (name, behind) => (c :: name, behind)
    if c = '(' then within (depth + 1)
    else if c ≠ ')' then within depth
    else match depth with
      | 0 => some ([], rest)
      | outer + 1 => within outer

/-- The arguments for a conversion. One that names an entry of the mapping has it as its only
argument, and so have those that follow. -/
def readArguments (a : Arguments) : List Char → Except TemplateError (Arguments × List Char)
  | '(' :: rest =>
    match a.mapping with
    | none => .error .needsMapping
    | some entries =>
      match readName 0 rest with
      | none => .error .incompleteKey
      | some (name, behind) =>
        match Value.lookup? (.text (String.ofList name)) entries with
        | none => .error (.missingKey (String.ofList name))
        | some value => .ok ({ a with rest := [value] }, behind)
  | cs => .ok (a, cs)

/-- A conversion behind its percent sign, and what follows it. -/
def readConversion (a : Arguments) (index : Nat) (cs : List Char) :
    Except TemplateError (List Char × Arguments × List Char) := do
  let (a, cs) ← readArguments a cs
  let (l, cs) := readFlags {} cs
  let (width, a, cs) ← readCount false a cs
  let l := { l with left := l.left || width < 0, width := width.natAbs }
  let (l, a, cs) ← match cs with
    | '.' :: rest => do
      let (precision, a, cs) ← readCount true a rest
      pure ({ l with precision := some precision.toNat }, a, cs)
    | cs => pure (l, a, cs)
  let cs := match cs with
    | c :: rest => if c = 'h' ∨ c = 'l' ∨ c = 'L' then rest else c :: rest
    | [] => []
  match cs with
  | [] => throw .incomplete
  | letter :: rest => do
    let (argument, a) ← a.take
    let converted ← convert l letter (index - rest.length - 1) argument
    pure (converted, a, rest)

/-- Fills a template; `length` is the number of its characters. -/
def fill (length : Nat) : Nat → Arguments → List Char → Except TemplateError (List Char)
  | 0, _, _ => .ok []
  | _, a, [] => if a.mapping.isNone && !a.rest.isEmpty then .error .tooManyArguments else .ok []
  | fuel + 1, a, c :: rest =>
    if c = '%' && rest.head? == some '%' then (fill length fuel a (rest.drop 1)).map ('%' :: ·)
    else if c = '%' then do
      let (converted, a, behind) ← readConversion a length rest
      let tail ← fill length fuel a behind
      pure (converted ++ tail)
    else (fill length fuel a rest).map (c :: ·)

/-- The text of a template with its arguments. Without arguments the template is the text,
and a single mapping that is not empty is a mapping of named arguments. -/
def format (template : String) (arguments : List Value) : Except TemplateError String :=
  let cs := template.toList
  let mapping := match arguments with
    | [.map entries] => if entries.isEmpty then none else some entries
    | _ => none
  if arguments.isEmpty then .ok template
  else (fill cs.length (cs.length + 1) { rest := arguments, mapping } cs).map String.ofList

end TypedSheets.Template
