import TypedSheets.Number.IntegerText
import TypedSheets.Yaml.Cursor
import TypedSheets.Yaml.ReadError

/-!
# Texts of scalars

How the text of a scalar is read off a document, in each of the five styles: plain,
in single or double quotes, and the literal and folded blocks. Every reader gives
the text and the cursor behind the scalar. A bound on the number of steps comes
from the length of the text, since each step takes a character off.
-/

namespace TypedSheets.Yaml

open TypedSheets.Number

/-- The characters that end a plain scalar inside a flow collection. -/
def isFlowIndicator (c : Char) : Bool := ",[]\x7b\x7d".toList.contains c

/-- The part of a plain scalar up to a blank: it ends at a colon that ends a token and,
inside a flow collection, at the indicators of such collections. -/
def plainRun (flow : Bool) : List Char → List Char
  | [] => []
  | c :: rest =>
    if isSpace c || isBreak c then []
    else if c == ':' && (endsToken rest || (flow && rest.head?.any isFlowIndicator)) then []
    else if flow && (c == '?' || isFlowIndicator c) then []
    else c :: plainRun flow rest

/-- What stands between two parts of a plain scalar. -/
structure PlainGap where
  /-- The characters that it is read as; none when the scalar ends before it. -/
  text : List Char
  cursor : Cursor
  /-- Whether it crosses the end of a line. -/
  crossed : Bool

/-- The line ends and spaces behind the first line end of a gap; nothing at a mark that
separates documents. -/
def gapBreaks : Nat → Cursor → Option (List Char) × Cursor
  | 0, c => (some [], c)
  | fuel + 1, c =>
    match c.rest with
    | [] => (some [], c)
    | x :: rest =>
      if x = ' ' then gapBreaks fuel c.step
      else if isBreak x then
        if Cursor.atDocumentMark rest then (none, c.step)
        else
          let (further, behind) := gapBreaks fuel c.step
          (further.map (breakChar x :: ·), behind)
      else (some [], c)

/-- The gap at a cursor: spaces on one line, or line ends folded together. -/
def plainGap (fuel : Nat) (c : Cursor) : PlainGap :=
  let spaces := c.run (· == ' ')
  let behind := c.skipSpaces
  match behind.rest with
  | [] => { text := spaces, cursor := behind, crossed := false }
  | x :: rest =>
    if isBreak x then
      if Cursor.atDocumentMark rest then { text := [], cursor := behind.step, crossed := true }
      else
        match gapBreaks fuel behind.step with
        | (none, ended) => { text := [], cursor := ended, crossed := true }
        | (some further, next) => { text := foldBreaks x further, cursor := next, crossed := true }
    else { text := spaces, cursor := behind, crossed := false }

/-- A plain scalar and what follows it. -/
structure PlainScalar where
  text : List Char
  cursor : Cursor
  /-- Whether the gap behind it crosses the end of a line. -/
  crossed : Bool

/-- Reads a plain scalar. Outside flow collections its further lines must be indented by
at least `indent` columns. -/
def readPlain (flow : Bool) (indent : Nat) : Nat → Cursor → PlainScalar
  | 0, c => { text := [], cursor := c, crossed := false }
  | fuel + 1, c =>
    let run := plainRun flow c.rest
    let gap := plainGap fuel (c.steps run.length)
    let next := gap.cursor.rest
    if gap.text.isEmpty || next.head? == some '#' || (!flow && gap.cursor.column < indent) ||
        (plainRun flow next).isEmpty then
      { text := run, cursor := gap.cursor, crossed := gap.crossed }
    else
      let tail := readPlain flow indent fuel gap.cursor
      { tail with text := run ++ gap.text ++ tail.text }

/-- The line ends behind the first one inside quotes, without the blanks around them. A
mark that separates documents must not start a line. -/
def quotedBreaks : Nat → Cursor → Except ReadError (List Char × Cursor)
  | 0, c => .ok ([], c)
  | fuel + 1, c =>
    if Cursor.atDocumentMark c.rest then .error .malformed
    else
      let behind := c.skip isSpace
      match behind.rest with
      | [] => .ok ([], behind)
      | x :: _ =>
        if isBreak x then
          (quotedBreaks fuel behind.step).map fun (further, next) => (breakChar x :: further, next)
        else .ok ([], behind)

/-- The blanks at a cursor inside quotes: blanks within a line stay, line ends are folded. -/
def quotedGap (fuel : Nat) (c : Cursor) : Except ReadError (List Char × Cursor) :=
  let behind := c.skip isSpace
  match behind.rest with
  | [] => .error .malformed
  | x :: _ =>
    if isBreak x then
      (quotedBreaks fuel behind.step).map fun (further, next) =>
        (foldBreaks x further, next)
    else .ok (c.run isSpace, behind)

/-- The character that a one-letter escape stands for. -/
def escapedChar? (letter : Char) : Option Char :=
  let table := [('0', '\x00'), ('a', '\x07'), ('b', '\x08'), ('t', '\t'), ('\t', '\t'),
    ('n', '\n'), ('v', '\x0b'), ('f', '\x0c'), ('r', '\r'), ('e', '\x1b'), (' ', ' '),
    ('"', '"'), ('\\', '\\'), ('/', '/'), ('N', '\u0085'), ('_', '\u00a0'), ('L', '\u2028'),
    ('P', '\u2029')]
  table.lookup letter

/-- The number of hexadecimal digits behind the letter of a numeric escape. -/
def escapeWidth? (letter : Char) : Option Nat :=
  if letter = 'x' then some 2 else if letter = 'u' then some 4
  else if letter = 'U' then some 8 else none

/-- The character with a code point; code points of no character are replaced. -/
def charOfCode (code : Nat) : Except ReadError Char :=
  if 0x110000 ≤ code then .error (.codePoint code)
  else if code.isValidChar then .ok (Char.ofNat code) else .ok '\ufffd'

/-- Whether a code is the first half of a pair that names one character. -/
def isFirstHalf (code : Nat) : Bool := 0xd800 ≤ code && code < 0xdc00

/-- The second half of such a pair, when the characters start with an escape of it. -/
def secondHalf? : List Char → Option Nat
  | '\\' :: 'u' :: rest =>
    let digits := rest.take 4
    let code := digitsValue 16 digits
    if digits.length = 4 && digits.all (isBaseDigit 16) && 0xdc00 ≤ code && code < 0xe000 then
      some code
    else none
  | _ => none

/-- Reads an escape behind its backslash. Two escapes that name the halves of a pair are read
as one character. -/
def readEscape (c : Cursor) : Except ReadError (List Char × Cursor) :=
  match c.rest with
  | [] => .error .malformed
  | letter :: rest =>
    match escapedChar? letter, escapeWidth? letter with
    | some escaped, _ => .ok ([escaped], c.step)
    | none, some width =>
      let digits := rest.take width
      if digits.length = width && digits.all (isBaseDigit 16) then
        let code := digitsValue 16 digits
        let behind := c.step.steps width
        match if isFirstHalf code then secondHalf? behind.rest else none with
        | some second =>
          let whole := 0x10000 + (code - 0xd800) * 0x400 + (second - 0xdc00)
          (charOfCode whole).map fun x => ([x], behind.steps 6)
        | none => (charOfCode code).map fun x => ([x], behind)
      else .error .malformed
    | none, none =>
      if isBreak letter then quotedBreaks c.rest.length c.step else .error .malformed

/-- Reads a scalar behind its opening quote; `double` tells which quote that is. -/
def readQuoted (double : Bool) : Nat → Cursor → Except ReadError (List Char × Cursor)
  | 0, _ => .error .malformed
  | fuel + 1, c =>
    match c.rest with
    | [] => .error .malformed
    | x :: rest =>
      if isSpace x || isBreak x then do
        let (gap, next) ← quotedGap fuel c
        let (text, behind) ← readQuoted double fuel next
        pure (gap ++ text, behind)
      else if double && x == '\\' then do
        let (escaped, next) ← readEscape c.step
        let (text, behind) ← readQuoted double fuel next
        pure (escaped ++ text, behind)
      else if !double && x == '\'' && rest.head? == some '\'' then do
        let (text, behind) ← readQuoted double fuel c.step.step
        pure ('\'' :: text, behind)
      else if x == (if double then '"' else '\'') then .ok ([], c.step)
      else do
        let (text, behind) ← readQuoted double fuel c.step
        pure (x :: text, behind)

/-- What becomes of the line ends at the end of a block. -/
inductive Chomping where
  /-- None is kept. -/
  | strip
  /-- The first is kept. -/
  | clip
  /-- All are kept. -/
  | keep
  deriving Repr, DecidableEq

/-- The sign of a block header. -/
def chomping? (c : Char) : Option Chomping :=
  if c = '+' then some .keep else if c = '-' then some .strip else none

/-- The header of a block: a sign and an indentation of one digit, in either order. -/
def blockHeader (c : Cursor) : Except ReadError ((Chomping × Option Nat) × Cursor) :=
  let increment (c : Cursor) : Except ReadError (Option Nat × Cursor) :=
    match c.rest with
    | x :: _ =>
      if '0' < x ∧ x ≤ '9' then .ok (some (x.toNat - 48), c.step)
      else if x = '0' then .error .malformed else .ok (none, c)
    | [] => .ok (none, c)
  let sign (c : Cursor) : Chomping × Cursor :=
    match c.rest.head?.bind chomping? with
    | some kind => (kind, c.step)
    | none => (.clip, c)
  do
    let (before, afterSign) := sign c
    let (indent, afterDigit) ← increment afterSign
    let (kind, behind) := if before = .clip ∧ indent.isSome then sign afterDigit
      else (before, afterDigit)
    match behind.rest with
    | x :: _ => if x = ' ' ∨ isBreak x then pure ((kind, indent), behind) else .error .malformed
    | [] => pure ((kind, indent), behind)

/-- Behind the spaces, up to a column. -/
def skipToColumn (column : Nat) (c : Cursor) : Cursor :=
  c.steps (min (column - c.column) (c.run (· == ' ')).length)

/-- The empty lines at a cursor and the start of the next line that is not empty, behind
at most `indent` spaces. -/
def blockBreaks (indent : Nat) : Nat → Cursor → List Char × Cursor
  | 0, c => ([], c)
  | fuel + 1, c =>
    let start := skipToColumn indent c
    match start.rest with
    | [] => ([], start)
    | x :: _ =>
      if isBreak x then
        let (further, next) := blockBreaks indent fuel start.step
        (breakChar x :: further, next)
      else ([], start)

/-- The empty lines before the first line of a block, and the column that the deepest of
these lines reaches. -/
def blockIndentation : Nat → Cursor → (List Char × Nat) × Cursor
  | 0, c => (([], 0), c)
  | fuel + 1, c =>
    let start := c.skipSpaces
    let reached := if start.index = c.index then 0 else start.column
    match start.rest with
    | [] => (([], reached), start)
    | x :: _ =>
      if isBreak x then
        let ((further, deepest), next) := blockIndentation fuel start.step
        ((breakChar x :: further, max reached deepest), next)
      else (([], reached), start)

/-- The text of the lines of a block from a line on; `breaks` are the empty lines before
it. The result ends before the last line end, which comes with the empty lines behind. -/
def blockLines (folded : Bool) (indent : Nat) :
    Nat → List Char → Cursor → (List Char × List Char × List Char) × Cursor
  | 0, breaks, c => (([], [], breaks), c)
  | fuel + 1, breaks, c =>
    if c.column ≠ indent ∨ c.rest.isEmpty then (([], [], breaks), c)
    else
      let line := c.run fun x => !isBreak x
      let end_ := c.skipToLineEnd
      let lineEnd := match end_.rest with
        | x :: _ => [breakChar x]
        | [] => []
      let (further, next) := blockBreaks indent fuel end_.skipBreak
      if next.column = indent ∧ ¬ next.rest.isEmpty then
        let leads (cs : List Char) : Bool := !cs.head?.any isSpace
        let joint := if folded && lineEnd == ['\n'] && leads line && leads next.rest then
            if further.isEmpty then [' '] else []
          else lineEnd
        let ((text, lastEnd, tail), behind) := blockLines folded indent fuel further next
        ((breaks ++ line ++ joint ++ text, lastEnd, tail), behind)
      else ((breaks ++ line, lineEnd, further), next)

/-- Reads a block behind its indicator; `parent` is the least indentation that the block
may have. -/
def readBlock (folded : Bool) (parent : Nat) (c : Cursor) :
    Except ReadError (List Char × Cursor) := do
  let ((kind, increment), header) ← blockHeader c
  let behind := header.skipComment
  if !endsLine behind.rest then .error .malformed
  else
    let start := behind.skipBreak
    let ((breaks, indent), first) := match increment with
      | none =>
        let ((breaks, deepest), first) := blockIndentation (start.rest.length + 1) start
        ((breaks, max parent deepest), first)
      | some n =>
        let indent := parent + n - 1
        let (breaks, first) := blockBreaks indent (start.rest.length + 1) start
        ((breaks, indent), first)
    let ((text, lastEnd, tail), next) :=
      blockLines folded indent (first.rest.length + 1) breaks first
    let ending := match kind with
      | .strip => []
      | .clip => lastEnd
      | .keep => lastEnd ++ tail
    pure (text ++ ending, next)

end TypedSheets.Yaml
