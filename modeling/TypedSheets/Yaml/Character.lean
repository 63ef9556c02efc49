/-!
# Character classes of the asset format

The asset format ends a line at a line feed, at the next-line control and at the
two Unicode separators. Its white space is the space and the tab; a token ends at
white space, at a line end or at the end of the text.
-/

namespace TypedSheets.Yaml

/-- The characters that end a line; carriage returns never reach the format. -/
def isBreak (c : Char) : Bool :=
  c == '\n' || c == '\u0085' || c == '\u2028' || c == '\u2029'

/-- The space and the tab. -/
def isSpace (c : Char) : Bool := c == ' ' || c == '\t'

/-- The first character ends a token: white space, a line end, or no character at all. -/
def endsToken : List Char → Bool
  | [] => true
  | c :: _ => isSpace c || isBreak c

/-- The first character ends a line, or there is none. -/
def endsLine : List Char → Bool
  | [] => true
  | c :: _ => isBreak c

/-- The byte order mark. -/
def byteOrderMark : Char := '\ufeff'

/-- The characters that a document may hold as they are. -/
def isAdmitted (c : Char) : Bool :=
  let code := c.toNat
  code == 9 || code == 10 || code == 13 || (32 ≤ code && code ≤ 126) || code == 0x85 ||
    (0xa0 ≤ code && code ≤ 0xd7ff) || (0xe000 ≤ code && code ≤ 0xfffd) || 0x10000 ≤ code

/-- The characters of anchors, tag handles and directive names. -/
def isNameChar (c : Char) : Bool := c.isAlphanum || c == '-' || c == '_'

end TypedSheets.Yaml
