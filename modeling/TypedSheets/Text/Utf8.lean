import TypedSheets.Number.Digits
import TypedSheets.Text.Quoted

/-!
# UTF-8

A text is encoded in one to four bytes for each character. Decoding accepts exactly
the encodings: no longer form than needed, no surrogates, nothing beyond the last
code point. A refusal names the bytes of the longest start of a character that goes
wrong.
-/

namespace TypedSheets.Text

/-- A continuation byte with six payload bits. -/
def continuation (payload : Nat) : UInt8 := UInt8.ofNat (0x80 + payload % 64)

/-- The encoding of one character. -/
def encodeChar (c : Char) : List UInt8 :=
  let code := c.toNat
  if code < 0x80 then [UInt8.ofNat code]
  else if code < 0x800 then [UInt8.ofNat (0xc0 + code / 64), continuation code]
  else if code < 0x10000 then
    [UInt8.ofNat (0xe0 + code / 4096), continuation (code / 64), continuation code]
  else [UInt8.ofNat (0xf0 + code / 262144), continuation (code / 4096), continuation (code / 64),
    continuation code]

/-- The encoding of characters. -/
def encodeChars (cs : List Char) : List UInt8 := cs.flatMap encodeChar

/-- The encoding of a text. -/
def encodeUtf8 (text : String) : List UInt8 := encodeChars text.toList

/-- What is wrong at a place. -/
inductive Utf8Fault where
  /-- No character starts with the byte. -/
  | start
  /-- The byte behind does not continue the character. -/
  | continuation
  /-- The bytes end within a character. -/
  | truncated
  deriving Repr, DecidableEq

structure Utf8Error where
  fault : Utf8Fault
  /-- The first byte that goes wrong. -/
  byte : UInt8
  /-- The number of bytes before it. -/
  offset : Nat
  /-- The number of bytes that are refused. -/
  length : Nat
  deriving Repr, DecidableEq

/-- The wording of a refusal. -/
def Utf8Error.message (e : Utf8Error) : String :=
  let range := if e.length = 1 then
      "byte 0x" ++ String.ofList (hexDigits 2 e.byte.toNat) ++ " in position " ++
        Number.integerText e.offset
    else "bytes in position " ++ Number.integerText e.offset ++ "-" ++
      Number.integerText (e.offset + e.length - 1 : Nat)
  let reason := match e.fault with
    | .start => "invalid start byte"
    | .continuation => "invalid continuation byte"
    | .truncated => "unexpected end of data"
  "'utf-8' codec can't decode " ++ range ++ ": " ++ reason

/-- A byte that continues a character. -/
def isContinuation (b : UInt8) : Bool := 0x80 ≤ b && b < 0xc0

/-- The range of the second byte behind a first byte. -/
def secondRange (first : UInt8) : UInt8 × UInt8 :=
  if first = 0xe0 then (0xa0, 0xbf)
  else if first = 0xed then (0x80, 0x9f)
  else if first = 0xf0 then (0x90, 0xbf)
  else if first = 0xf4 then (0x80, 0x8f)
  else (0x80, 0xbf)

/-- The number of bytes of a character by its first byte. -/
def charWidth? (first : UInt8) : Option Nat :=
  if first < 0x80 then some 1
  else if 0xc2 ≤ first ∧ first ≤ 0xdf then some 2
  else if 0xe0 ≤ first ∧ first ≤ 0xef then some 3
  else if 0xf0 ≤ first ∧ first ≤ 0xf4 then some 4
  else none

/-- The number of bytes behind the first one that continue the character, out of `count`. -/
def continued (first : UInt8) (count : Nat) (rest : List UInt8) : Nat :=
  match count, rest with
  | 0, _ => 0
  | _, [] => 0
  | count + 1, second :: others =>
    let (low, high) := secondRange first
    if low ≤ second && second ≤ high then 1 + ((others.take count).takeWhile isContinuation).length
    else 0

/-- The code point of the bytes of a character. -/
def codeOf (first : UInt8) (others : List UInt8) : Nat :=
  let lead := match others.length with
    | 0 => first.toNat
    | 1 => first.toNat - 0xc0
    | 2 => first.toNat - 0xe0
    | _ => first.toNat - 0xf0
  others.foldl (fun code b => code * 64 + (b.toNat - 0x80)) lead

/-- Decodes bytes from an offset on. -/
def decodeChars : Nat → Nat → List UInt8 → Except Utf8Error (List Char)
  | 0, _, _ => .ok []
  | _, _, [] => .ok []
  | fuel + 1, offset, first :: rest =>
    match charWidth? first with
    | none => .error { fault := .start, byte := first, offset, length := 1 }
    | some width =>
      let found := continued first (width - 1) rest
      if found < width - 1 then
        let fault := if rest.length ≤ found then .truncated else .continuation
        .error { fault, byte := first, offset, length := found + 1 }
      else
        let code := codeOf first (rest.take (width - 1))
        (decodeChars fuel (offset + width) (rest.drop (width - 1))).map (Char.ofNat code :: ·)

/-- The text that bytes encode. -/
def decodeUtf8 (bytes : List UInt8) : Except Utf8Error String :=
  (decodeChars bytes.length 0 bytes).map String.ofList

end TypedSheets.Text
