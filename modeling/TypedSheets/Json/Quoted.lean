import TypedSheets.Text.Quoted

/-!
# Quoted texts of object notation

A text stands between double quotes. The quote, the backslash and the controls
below the space are escaped, five of them by a letter and the others by four
hexadecimal digits; every other character is written as it is.
-/

namespace TypedSheets.Json

open TypedSheets.Text

/-- The written form of one character. -/
def escaped (c : Char) : List Char :=
  if c = '"' then ['\\', '"']
  else if c = '\\' then ['\\', '\\']
  else if c = '\n' then ['\\', 'n']
  else if c = '\r' then ['\\', 'r']
  else if c = '\t' then ['\\', 't']
  else if c = '\x08' then ['\\', 'b']
  else if c = '\x0c' then ['\\', 'f']
  else if c.toNat < 32 then '\\' :: 'u' :: hexDigits 4 c.toNat
  else [c]

/-- The characters of a text between double quotes. -/
def quotedChars (cs : List Char) : List Char := '"' :: cs.flatMap escaped ++ ['"']

/-- A text between double quotes. -/
def quoted (text : String) : String := String.ofList (quotedChars text.toList)

end TypedSheets.Json
