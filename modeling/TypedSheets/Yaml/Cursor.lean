import TypedSheets.Yaml.Character

/-!
# Cursors

A cursor is a place in a text: the characters that follow it, how many precede it,
and its line and column. Every line end starts a new line, and a byte order mark
takes no column.
-/

namespace TypedSheets.Yaml

structure Cursor where
  rest : List Char
  index : Nat := 0
  line : Nat := 0
  column : Nat := 0
  deriving Repr

namespace Cursor

/-- The cursor behind the next character. -/
def step (c : Cursor) : Cursor :=
  match c.rest with
  | [] => c
  | x :: rest =>
    if isBreak x then { rest, index := c.index + 1, line := c.line + 1, column := 0 }
    else if x = byteOrderMark then { c with rest, index := c.index + 1 }
    else { c with rest, index := c.index + 1, column := c.column + 1 }

/-- The cursor behind the next `count` characters. -/
def steps : Nat → Cursor → Cursor
  | 0, c => c
  | count + 1, c => steps count c.step

/-- The characters up to the first one that fails the test. -/
def run (c : Cursor) (test : Char → Bool) : List Char := c.rest.takeWhile test

/-- The cursor behind those characters. -/
def skip (c : Cursor) (test : Char → Bool) : Cursor := steps (c.run test).length c

/-- Behind the spaces. -/
def skipSpaces (c : Cursor) : Cursor := c.skip (· == ' ')

/-- Before the end of the line. -/
def skipToLineEnd (c : Cursor) : Cursor := c.skip fun x => !isBreak x

/-- Behind the line end at the cursor, if there is one. -/
def skipBreak (c : Cursor) : Cursor := if c.rest.head?.any isBreak then c.step else c

/-- Behind the spaces, and the comment that follows them, if there is one. -/
def skipComment (c : Cursor) : Cursor :=
  let behind := c.skipSpaces
  if behind.rest.head? == some '#' then behind.skipToLineEnd else behind

/-- Three copies of a character that end a token. -/
def isMark (mark : Char) (cs : List Char) : Bool :=
  [mark, mark, mark].isPrefixOf cs && endsToken (cs.drop 3)

/-- The characters start with a mark that separates documents. -/
def atDocumentMark (cs : List Char) : Bool := isMark '-' cs || isMark '.' cs

end Cursor

/-- The character that a line end is read as: the two Unicode separators are kept, the
others become a line feed. -/
def breakChar (c : Char) : Char := if c == '\u2028' || c == '\u2029' then c else '\n'

/-- What the line ends between two lines of a folded scalar are read as: a single line
feed becomes a space, and the first of several vanishes. -/
def foldBreaks (first : Char) (further : List Char) : List Char :=
  if breakChar first != '\n' then breakChar first :: further
  else if further.isEmpty then [' '] else further

end TypedSheets.Yaml
