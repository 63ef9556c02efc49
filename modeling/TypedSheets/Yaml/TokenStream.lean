import TypedSheets.Text.Utf8
import TypedSheets.Yaml.ScalarText
import TypedSheets.Yaml.Token

/-!
# Token streams

`tokens` cuts a text into its tokens. A key needs no mark of its own: a token that may
start one is remembered, per level of flow collections, and when a colon follows on
the same line within 1024 characters, the key token is put in before it, with the
start of a block mapping if the key is indented further than the block around it.
Indentation outside flow collections opens and closes blocks.
-/

namespace TypedSheets.Yaml

open TypedSheets.Number

/-- A token that may turn out to be the start of a key. -/
structure KeyCandidate where
  /-- The level of flow collections that it stands in. -/
  flow : Nat
  /-- The number of tokens before it. -/
  position : Nat
  /-- It stands at the indentation of its block mapping, where only a key may stand. -/
  required : Bool
  index : Nat
  line : Nat
  column : Nat
  deriving Repr

/-- The greatest distance between the start of a key and its colon. -/
def keyReach : Nat := 1024

/-- A text that is cut up to a cursor. -/
structure Lexing where
  /-- The number of characters of the text. -/
  size : Nat
  cursor : Cursor
  /-- The tokens so far, the latest first, and how many they are. -/
  tokens : List Token := []
  count : Nat := 0
  /-- The number of flow collections that are open. -/
  flow : Nat := 0
  /-- The indentation of the innermost block, and those of the blocks around it; -1 outside
  of all blocks. -/
  indent : Int := -1
  outer : List Int := []
  /-- Whether a key may start at the cursor. -/
  keyAllowed : Bool := true
  /-- At most one candidate for each level. -/
  candidates : List KeyCandidate := []

namespace Lexing

/-- Behind a further token. -/
def push (s : Lexing) (token : Token) : Lexing :=
  { s with tokens := token :: s.tokens, count := s.count + 1 }

/-- With a token put in behind the first `position` tokens. -/
def insertAt (s : Lexing) (position : Nat) (token : Token) : Lexing :=
  let later := s.count - position
  { s with tokens := s.tokens.take later ++ token :: s.tokens.drop later, count := s.count + 1 }

/-- Past the spaces, comments and line ends at the cursor. -/
def skipBlanks : Nat → Lexing → Lexing
  | 0, s => s
  | fuel + 1, s =>
    let behind := s.cursor.skipComment
    match behind.rest with
    | [] => { s with cursor := behind }
    | c :: _ =>
      if isBreak c then
        skipBlanks fuel { s with cursor := behind.step, keyAllowed := s.keyAllowed || s.flow == 0 }
      else { s with cursor := behind }

/-- A candidate is out of reach on another line or too far away. -/
def isStale (s : Lexing) (k : KeyCandidate) : Bool :=
  k.line != s.cursor.line || keyReach < s.cursor.index - k.index

/-- Without the candidates that are out of reach; none of them may be required. -/
def dropStale (s : Lexing) : Except ReadError Lexing :=
  if s.candidates.any fun k => s.isStale k && k.required then .error .malformed
  else .ok { s with candidates := s.candidates.filter fun k => !s.isStale k }

/-- The candidate of the current level. -/
def candidate? (s : Lexing) : Option KeyCandidate := s.candidates.find? fun k => k.flow == s.flow

/-- Without the candidate of the current level. -/
def forgetCandidate (s : Lexing) : Lexing :=
  { s with candidates := s.candidates.filter fun k => k.flow != s.flow }

/-- Without the candidate of the current level, which must not be required. -/
def dropCandidate (s : Lexing) : Except ReadError Lexing :=
  if s.candidate?.any KeyCandidate.required then .error .malformed else .ok s.forgetCandidate

/-- The next token may start a key, where a key is allowed. -/
def noteCandidate (s : Lexing) : Except ReadError Lexing :=
  if s.keyAllowed then do
    let s ← s.dropCandidate
    let noted : KeyCandidate :=
      { flow := s.flow, position := s.count,
        required := s.flow == 0 && s.indent == s.cursor.column,
        index := s.cursor.index, line := s.cursor.line, column := s.cursor.column }
    pure { s with candidates := noted :: s.candidates }
  else .ok s

/-- Closes the blocks that are indented further than a column. -/
def closeBlocks (column : Int) (s : Lexing) : Lexing :=
  if s.flow ≠ 0 then s else go s.outer s
where
  go : List Int → Lexing → Lexing
    | [], s => s
    | indent :: outer, s =>
      if column < s.indent then go outer { s.push .blockEnd with indent, outer } else s

/-- Makes a column the indentation of a new block, if it lies further in; tells whether. -/
def openBlock (column : Nat) (s : Lexing) : Bool × Lexing :=
  if s.indent < column then
    (true, { s with indent := column, outer := s.indent :: s.outer })
  else (false, s)

/-- Behind an indicator of `width` characters that is a token by itself. -/
def indicator (width : Nat) (token : Token) (s : Lexing) : Lexing :=
  { s.push token with cursor := s.cursor.steps width }

/-- A token that ends every block and key: the end of the text, a directive or a mark. -/
def endBlocks (s : Lexing) : Except ReadError Lexing := do
  let s ← (s.closeBlocks (-1)).dropCandidate
  pure { s with keyAllowed := false }

/-- Opens a flow collection. -/
def openFlow (token : Token) (s : Lexing) : Except ReadError Lexing := do
  let s ← s.noteCandidate
  pure (({ s with flow := s.flow + 1, keyAllowed := true } : Lexing).indicator 1 token)

/-- Closes a flow collection. -/
def closeFlow (token : Token) (s : Lexing) : Except ReadError Lexing := do
  let s ← s.dropCandidate
  if s.flow = 0 then .error .malformed
  else pure (({ s with flow := s.flow - 1, keyAllowed := false } : Lexing).indicator 1 token)

/-- The comma between entries of a flow collection. -/
def flowEntry (s : Lexing) : Except ReadError Lexing := do
  let s ← ({ s with keyAllowed := true } : Lexing).dropCandidate
  pure (s.indicator 1 .flowEntry)

/-- Opens a block at the cursor for an entry or key that is marked as such. Outside flow
collections it may only stand where a key may. -/
def openMarked (opening : Token) (s : Lexing) : Except ReadError Lexing :=
  if s.flow ≠ 0 then .ok s
  else if !s.keyAllowed then .error .malformed
  else
    let (opened, s) := s.openBlock s.cursor.column
    .ok (if opened then s.push opening else s)

/-- The dash of an entry. -/
def blockEntry (s : Lexing) : Except ReadError Lexing := do
  let s ← s.openMarked .blockSequenceStart
  let s ← ({ s with keyAllowed := true } : Lexing).dropCandidate
  pure (s.indicator 1 .blockEntry)

/-- The question mark of a key. -/
def markedKey (s : Lexing) : Except ReadError Lexing := do
  let s ← s.openMarked .blockMappingStart
  let s ← ({ s with keyAllowed := s.flow == 0 } : Lexing).dropCandidate
  pure (s.indicator 1 .key)

/-- The colon of a value. A candidate before it becomes a key. -/
def value (s : Lexing) : Except ReadError Lexing :=
  match s.candidate? with
  | some k =>
    let s := s.forgetCandidate.insertAt k.position .key
    let (opened, s) := if s.flow = 0 then s.openBlock k.column else (false, s)
    let s := if opened then s.insertAt k.position .blockMappingStart else s
    .ok (({ s with keyAllowed := false } : Lexing).indicator 1 .value)
  | none => do
    let s ← s.openMarked .blockMappingStart
    let s ← ({ s with keyAllowed := s.flow == 0 } : Lexing).dropCandidate
    pure (s.indicator 1 .value)

/-- A token that may start a key and behind which none starts. -/
def keyToken (s : Lexing) (token : Token) (behind : Cursor) : Except ReadError Lexing := do
  let s ← s.noteCandidate
  pure { s.push token with cursor := behind, keyAllowed := false }

/-- The characters at the cursor end a directive or a tag. -/
def endsWord : List Char → Bool
  | [] => true
  | c :: _ => c == ' ' || isBreak c

/-- The name of an anchor or alias behind its indicator. -/
def anchorName (c : Cursor) : Except ReadError (String × Cursor) :=
  let name := c.step.run isNameChar
  let behind := c.step.skip isNameChar
  let closers := "?:,]\x7d%@`".toList
  let ends := endsToken behind.rest || behind.rest.head?.any fun x => closers.contains x
  if name.isEmpty || !ends then .error .malformed else .ok (String.ofList name, behind)

/-- The characters of a tag beside letters, digits and escapes. -/
def isTagChar (c : Char) : Bool := c.isAlphanum || "-;/?:@&=+$,_.!~*'()[]".toList.contains c

/-- The bytes of a run of escapes, each a percent sign and two hexadecimal digits. -/
def escapedBytes : List Char → Except ReadError (List UInt8 × Nat)
  | '%' :: a :: b :: rest =>
    if isBaseDigit 16 a && isBaseDigit 16 b then
      (escapedBytes rest).map fun (bytes, count) =>
        (UInt8.ofNat (digitsValue 16 [a, b]) :: bytes, count + 3)
    else .error .malformed
  | '%' :: _ => .error .malformed
  | _ => .ok ([], 0)

/-- The characters of a tag. A run of escapes stands for the text that its bytes encode. -/
def tagChars : Nat → Cursor → Except ReadError (List Char × Cursor)
  | 0, c => .ok ([], c)
  | fuel + 1, c =>
    match c.rest with
    | [] => .ok ([], c)
    | x :: _ =>
      if x = '%' then do
        let (bytes, count) ← escapedBytes c.rest
        match Text.decodeUtf8 bytes with
        | .error _ => .error .malformed
        | .ok run =>
          let (text, behind) ← tagChars fuel (c.steps count)
          pure (run.toList ++ text, behind)
      else if isTagChar x then
        (tagChars fuel c.step).map fun (text, behind) => (x :: text, behind)
      else .ok ([], c)

/-- The text of a tag, which must not be empty. -/
def tagSuffix (c : Cursor) : Except ReadError (String × Cursor) := do
  let (text, behind) ← tagChars (c.rest.length + 1) c
  if text.isEmpty then .error .malformed else pure (String.ofList text, behind)

/-- A tag handle: an exclamation mark, or a name between two. -/
def tagHandle (c : Cursor) : Except ReadError (String × Cursor) :=
  if c.rest.head? != some '!' then .error .malformed
  else if c.step.rest.head? == some ' ' then .ok ("!", c.step)
  else
    let name := c.step.run isNameChar
    let behind := c.step.skip isNameChar
    if behind.rest.head? == some '!' then
      .ok (String.ofList ('!' :: name ++ ['!']), behind.step)
    else .error .malformed

/-- A tag at the cursor: between angle brackets, a lone mark, or with a handle. -/
def tagAt (c : Cursor) : Except ReadError (TagText × Cursor) := do
  let (tag, behind) ← match c.step.rest with
    | '<' :: _ => do
      let (suffix, behind) ← tagSuffix c.step.step
      if behind.rest.head? == some '>' then pure ({ handle := none, suffix }, behind.step)
      else .error .malformed
    | next =>
      if endsToken next then pure ({ handle := none, suffix := "!" }, c.step)
      else if (next.takeWhile fun x => !(x == ' ' || isBreak x)).contains '!' then do
        let (handle, behind) ← tagHandle c
        let (suffix, behind) ← tagSuffix behind
        pure ({ handle := some handle, suffix }, behind)
      else do
        let (suffix, behind) ← tagSuffix c.step
        pure ({ handle := some "!", suffix }, behind)
  if endsWord behind.rest then pure (tag, behind) else .error .malformed

/-- A number of a version; it has the digit limit of integers. -/
def versionNumber (c : Cursor) : Except ReadError (Nat × Cursor) :=
  let digits := c.run isAsciiDigit
  if digits.isEmpty then .error .malformed
  else if digitLimit < digits.length then .error (.integer (.tooManyDigits digits.length))
  else .ok (digitsValue 10 digits, c.skip isAsciiDigit)

/-- A directive behind its percent sign, up to the end of its line. -/
def directiveAt (c : Cursor) : Except ReadError (Directive × Cursor) := do
  let name := c.run isNameChar
  let behind := c.skip isNameChar
  if name.isEmpty || !endsWord behind.rest then .error .malformed
  let (directive, behind) ← if name = "YAML".toList then do
      let (major, point) ← versionNumber behind.skipSpaces
      if point.rest.head? != some '.' then .error .malformed
      let (minor, behind) ← versionNumber point.step
      if endsWord behind.rest then pure (Directive.version major minor, behind)
      else .error .malformed
    else if name = "TAG".toList then do
      let (handle, behind) ← tagHandle behind.skipSpaces
      if behind.rest.head? != some ' ' then .error .malformed
      let (meaning, behind) ← tagSuffix behind.skipSpaces
      if endsWord behind.rest then pure (Directive.handle handle meaning, behind)
      else .error .malformed
    else pure (Directive.other, behind.skipToLineEnd)
  let ending := behind.skipComment
  if endsLine ending.rest then pure (directive, ending.skipBreak) else .error .malformed

/-- The first character may start a plain scalar. -/
def startsPlain (flow : Bool) : List Char → Bool
  | [] => false
  | c :: rest =>
    !(isSpace c || isBreak c || "-?:,[]\x7b\x7d#&*!|>'\"%@`".toList.contains c) ||
      (!endsToken rest && (c == '-' || (!flow && (c == '?' || c == ':'))))

/-- A plain scalar. -/
def plainToken (s : Lexing) : Except ReadError Lexing := do
  let s ← s.noteCandidate
  let read := readPlain (s.flow != 0) (s.indent + 1).toNat (s.size + 1) s.cursor
  pure { s.push (.scalar (String.ofList read.text) true) with
    cursor := read.cursor, keyAllowed := read.crossed }

/-- A scalar in quotes. -/
def quotedToken (double : Bool) (s : Lexing) : Except ReadError Lexing := do
  let (text, behind) ← readQuoted double (s.size + 1) s.cursor.step
  s.keyToken (.scalar (String.ofList text) false) behind

/-- A block scalar. -/
def blockToken (folded : Bool) (s : Lexing) : Except ReadError Lexing := do
  let s ← ({ s with keyAllowed := true } : Lexing).dropCandidate
  let (text, behind) ← readBlock folded (max (s.indent + 1) 1).toNat s.cursor.step
  pure { s.push (.scalar (String.ofList text) false) with cursor := behind }

/-- The tokens that the characters at the cursor start, behind blanks and closed blocks. -/
def nextToken (s : Lexing) (c : Char) (rest : List Char) : Except ReadError Lexing :=
  let inFlow := s.flow != 0
  let ends := endsToken rest
  if c = '%' ∧ s.cursor.column = 0 then do
    let s ← s.endBlocks
    let (directive, behind) ← directiveAt s.cursor.step
    pure { s.push (.directive directive) with cursor := behind }
  else if s.cursor.column = 0 ∧ Cursor.isMark '-' (c :: rest) then do
    pure ((← s.endBlocks).indicator 3 .documentStart)
  else if s.cursor.column = 0 ∧ Cursor.isMark '.' (c :: rest) then do
    pure ((← s.endBlocks).indicator 3 .documentEnd)
  else if c = '[' then s.openFlow .flowSequenceStart
  else if c = '\x7b' then s.openFlow .flowMappingStart
  else if c = ']' then s.closeFlow .flowSequenceEnd
  else if c = '\x7d' then s.closeFlow .flowMappingEnd
  else if c = ',' then s.flowEntry
  else if c = '-' ∧ ends then s.blockEntry
  else if c = '?' ∧ (inFlow ∨ ends) then s.markedKey
  else if c = ':' ∧ (inFlow ∨ ends) then s.value
  else if c = '*' then do
    let (name, behind) ← anchorName s.cursor
    s.keyToken (.alias name) behind
  else if c = '&' then do
    let (name, behind) ← anchorName s.cursor
    s.keyToken (.anchor name) behind
  else if c = '!' then do
    let (tag, behind) ← tagAt s.cursor
    s.keyToken (.tag tag) behind
  else if c = '|' ∧ ¬ inFlow then s.blockToken false
  else if c = '>' ∧ ¬ inFlow then s.blockToken true
  else if c = '\'' then s.quotedToken false
  else if c = '"' then s.quotedToken true
  else if startsPlain inFlow (c :: rest) then s.plainToken
  else .error .malformed

/-- Cuts off the next tokens; nothing is left behind the end of the text. -/
def advance (s : Lexing) : Except ReadError (Bool × Lexing) := do
  let s ← (s.skipBlanks (s.size + 1)).dropStale
  match s.cursor.rest with
  | [] => do
    let s ← s.endBlocks
    pure (true, s.push .streamEnd)
  | c :: rest => do
    let s ← (s.closeBlocks s.cursor.column).nextToken c rest
    pure (false, s)

/-- All tokens from a state on, in order. Where the text stops making sense, the last
token says why. -/
def run : Nat → Lexing → List Token
  | 0, s => s.tokens.reverse
  | fuel + 1, s =>
    match s.advance with
    | .error cause => (Token.unreadable cause :: s.tokens).reverse
    | .ok (true, last) => last.tokens.reverse
    | .ok (false, next) => run fuel next

end Lexing

/-- The tokens of a text. A byte order mark at its start is not part of the text. -/
def tokens (text : List Char) : List Token :=
  let start : Cursor := { rest := text }
  let first := if text.head? == some byteOrderMark then start.step else start
  Lexing.run (text.length + 1) { size := text.length, cursor := first }

end TypedSheets.Yaml
