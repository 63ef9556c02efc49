import TypedSheets.Yaml.Character
import TypedSheets.Yaml.Resolution
import TypedSheets.Text.Quoted

/-!
# Written scalars

A text is written without quotes where it reads back as the same text, else in
single quotes, and in double quotes when it holds characters that only an escape
can carry. Long texts are folded: at a single space beyond the line width in the
first two styles, anywhere beyond it in the third. Where the scalar stands decides
the column that it starts at and the indentation of its further lines.
-/

namespace TypedSheets.Yaml

open TypedSheets.Text

/-- Where a scalar is written. -/
structure Site where
  /-- The column of its first character. -/
  column : Nat
  /-- The indentation of its further lines. -/
  indent : Nat
  /-- Whether it may be folded; the key of a one-line entry may not. -/
  folds : Bool
  deriving Repr, DecidableEq

/-- The column beyond which texts are folded. -/
def lineWidth : Nat := 80

/-- The characters that a document carries without escapes, apart from line ends. -/
def isOrdinary (c : Char) : Bool :=
  let code := c.toNat
  (32 ≤ code && code ≤ 126) ||
    ((code == 0x85 || (0xa0 ≤ code && code ≤ 0xd7ff) || (0xe000 ≤ code && code ≤ 0xfffd) ||
      (0x10000 ≤ code && code < 0x10ffff)) && code != 0xfeff)

/-- The characters that open a scalar of another kind, or a collection. -/
def isLeadingIndicator (c : Char) : Bool := "#,[]{}&*!|>'\"%@`".toList.contains c

/-- Somewhere a space or line end meets the other: (space before line end, line end
before space). -/
def blankPairs : List Char → Bool × Bool
  | a :: b :: rest =>
    let (spaceBreak, breakSpace) := blankPairs (b :: rest)
    (spaceBreak || (a == ' ' && isBreak b), breakSpace || (isBreak a && b == ' '))
  | _ => (false, false)

/-- Behind the first character, a colon that ends a token or a number sign behind a blank. -/
def hasInnerIndicator : List Char → Bool
  | a :: b :: rest =>
    (b == ':' && endsToken rest) || (b == '#' && endsToken [a]) || hasInnerIndicator (b :: rest)
  | _ => false

/-- Whether a text would be taken for something else if it stood without quotes. -/
def hasIndicator (cs : List Char) : Bool :=
  match cs with
  | [] => false
  | c :: rest =>
    ['-', '-', '-'].isPrefixOf cs || ['.', '.', '.'].isPrefixOf cs || isLeadingIndicator c ||
      ((c == '?' || c == ':' || c == '-') && endsToken rest) || hasInnerIndicator cs

/-- What the characters of a text allow. -/
structure Analysis where
  empty : Bool
  multiline : Bool
  allowsPlain : Bool
  allowsSingle : Bool
  deriving Repr, DecidableEq

/-- Whether the first character is a space or ends a line. -/
def startsBlank : List Char → Bool
  | c :: _ => c == ' ' || isBreak c
  | [] => false

/-- The analysis of a text. -/
def analyze (cs : List Char) : Analysis :=
  if cs.isEmpty then
    { empty := true, multiline := false, allowsPlain := true, allowsSingle := true }
  else
    let multiline := cs.any isBreak
    let special := cs.any fun c => c != '\n' && !isOrdinary c
    let (spaceBreak, breakSpace) := blankPairs cs
    let outerBlank := startsBlank cs || startsBlank cs.reverse
    { empty := false
      multiline
      allowsPlain := !(special || spaceBreak || breakSpace || multiline || outerBlank ||
        hasIndicator cs)
      allowsSingle := !(special || spaceBreak || breakSpace) }

inductive ScalarStyle where
  | plain | single | double
  deriving Repr, DecidableEq

/-- The style of a scalar: `bare` says that its text alone gives back its type, `key`
that it is the key of a one-line entry. -/
def chooseStyle (bare key : Bool) (a : Analysis) : ScalarStyle :=
  if bare && a.allowsPlain && !(key && (a.empty || a.multiline)) then .plain
  else if a.allowsSingle && !(key && a.multiline) then .single
  else .double

/-- The start of a further line. -/
def newLine (indent : Nat) : List Char := '\n' :: List.replicate indent ' '

/-- Writes a text without quotes. `atStart` tells that nothing was written yet; a space
between two words becomes a new line once the column is beyond the width. -/
def writePlain (site : Site) (column : Nat) : List Char → List Char
  | [] => []
  | ' ' :: c :: rest =>
    if c != ' ' && lineWidth < column && site.folds then
      newLine site.indent ++ c :: writePlain site (site.indent + 1) rest
    else if c == ' ' then
      ' ' :: ' ' :: writePlainSpaces site (column + 2) rest
    else ' ' :: c :: writePlain site (column + 2) rest
  | c :: rest => c :: writePlain site (column + 1) rest
where
  /-- Behind at least two spaces: further spaces and the character that ends them stay. -/
  writePlainSpaces (site : Site) (column : Nat) : List Char → List Char
    | [] => []
    | c :: rest =>
      if c = ' ' then ' ' :: writePlainSpaces site (column + 1) rest
      else c :: writePlain site (column + 1) rest

/-- The line ends of a run: a line feed leads with one more, for the first line feed
between two lines is not kept by a reader. -/
def writeBreaks (run : List Char) : List Char :=
  match run with
  | '\n' :: _ => '\n' :: run
  | _ => run

/-- Writes the inside of single quotes. `first` tells that nothing precedes; a quote is
written twice, line ends are kept and indented, and a single inner space beyond the
width becomes a new line. -/
def writeSingle (site : Site) (fuel : Nat) (first : Bool) (column : Nat) (cs : List Char) :
    List Char :=
  match fuel with
  | 0 => []
  | fuel + 1 =>
    match cs with
    | [] => []
    | ' ' :: rest =>
      let spaces := rest.takeWhile (· == ' ')
      let behind := rest.dropWhile (· == ' ')
      if spaces.isEmpty && !behind.isEmpty && !first && lineWidth < column && site.folds then
        newLine site.indent ++ writeSingle site fuel false site.indent behind
      else ' ' :: spaces ++ writeSingle site fuel false (column + 1 + spaces.length) behind
    | c :: rest =>
      if isBreak c then
        let run := c :: rest.takeWhile isBreak
        writeBreaks run ++ List.replicate site.indent ' ' ++
          writeSingle site fuel false site.indent (rest.dropWhile isBreak)
      else if c = '\'' then '\'' :: '\'' :: writeSingle site fuel false (column + 2) rest
      else c :: writeSingle site fuel false (column + 1) rest

/-- Uppercase hexadecimal digits, exactly `width` of them. -/
def upperHex (width n : Nat) : List Char :=
  (hexDigits width n).map fun c => if 'a' ≤ c ∧ c ≤ 'f' then Char.ofNat (c.toNat - 32) else c

/-- The letter of a short escape. -/
def escapeLetter? (c : Char) : Option Char :=
  if c = '\x00' then some '0' else if c = '\x07' then some 'a' else if c = '\x08' then some 'b'
  else if c = '\t' then some 't' else if c = '\n' then some 'n' else if c = '\x0b' then some 'v'
  else if c = '\x0c' then some 'f' else if c = '\r' then some 'r' else if c = '\x1b' then some 'e'
  else if c = '"' then some '"' else if c = '\\' then some '\\' else if c = '\u0085' then some 'N'
  else if c = '\u00a0' then some '_' else if c = '\u2028' then some 'L'
  else if c = '\u2029' then some 'P' else none

/-- Whether a character needs an escape between double quotes. -/
def needsEscape (c : Char) : Bool :=
  let code := c.toNat
  c == '"' || c == '\\' || code == 0x85 || code == 0x2028 || code == 0x2029 || code == 0xfeff ||
    !((32 ≤ code && code ≤ 126) || (0xa0 ≤ code && code ≤ 0xd7ff) ||
      (0xe000 ≤ code && code ≤ 0xfffd))

/-- The escape of a character: a letter, or its code point in two, four or eight digits. -/
def escapeOf (c : Char) : List Char :=
  match escapeLetter? c with
  | some letter => ['\\', letter]
  | none =>
    let code := c.toNat
    if code ≤ 0xff then '\\' :: 'x' :: upperHex 2 code
    else if code ≤ 0xffff then '\\' :: 'u' :: upperHex 4 code
    else '\\' :: 'U' :: upperHex 8 code

/-- A line end between double quotes: a backslash before it, and one before a space that
the next line starts with. -/
def foldDouble (site : Site) (next : List Char) : List Char :=
  '\\' :: newLine site.indent ++ (if next.head? == some ' ' then ['\\'] else [])

/-- The column behind `foldDouble`. -/
def foldedColumn (site : Site) (next : List Char) : Nat :=
  site.indent + (if next.head? == some ' ' then 1 else 0)

/-- Writes the inside of double quotes. `pending` counts the characters that are written
but not yet counted in `column`; a new line may start at a space, or behind an escape
or a fold, never before the first character nor before the last one. -/
def writeDouble (site : Site) (first : Bool) (column pending : Nat) : List Char → List Char
  | [] => []
  | c :: rest =>
    let inner := !first && !rest.isEmpty && site.folds
    if needsEscape c then
      let escape := escapeOf c
      let after := column + pending + escape.length
      if inner && lineWidth < after - 1 then
        escape ++ foldDouble site rest ++ writeDouble site false (foldedColumn site rest) 0 rest
      else escape ++ writeDouble site false after 0 rest
    else if inner && (c == ' ' || pending == 0) && lineWidth < column + pending then
      foldDouble site (c :: rest) ++
        c :: writeDouble site false (foldedColumn site (c :: rest)) 1 rest
    else c :: writeDouble site false column (pending + 1) rest

/-- The written form of a scalar with a chosen style. -/
def writeStyled (site : Site) (style : ScalarStyle) (cs : List Char) : List Char :=
  match style with
  | .plain => writePlain site site.column cs
  | .single => '\'' :: writeSingle site (cs.length + 1) true (site.column + 1) cs ++ ['\'']
  | .double => '"' :: writeDouble site true (site.column + 1) 0 cs ++ ['"']

end TypedSheets.Yaml
