/-!
# Line ends and pieces

Texts reach the program with any of the three line ends. `unifyLineEnds` turns
each into one line feed; `splitOn` cuts at a character and keeps empty pieces.
-/

namespace TypedSheets.Text

/-- A carriage return, with the line feed that may follow it, becomes one line feed. -/
def unifyLineEnds : List Char → List Char
  | [] => []
  | '\r' :: '\n' :: rest => '\n' :: unifyLineEnds rest
  | '\r' :: rest => '\n' :: unifyLineEnds rest
  | c :: rest => c :: unifyLineEnds rest

/-- The text with unified line ends. -/
def unifyLines (text : String) : String := String.ofList (unifyLineEnds text.toList)

/-- The pieces between the separators, in order; one more than there are separators. -/
def splitOn (separator : Char) : List Char → List (List Char)
  | [] => [[]]
  | c :: rest =>
    if c = separator then [] :: splitOn separator rest
    else
      match splitOn separator rest with
      | [] => [[c]]
      | piece :: pieces => (c :: piece) :: pieces

/-- The characters before the first occurrence of `mark`, or all of them. -/
def beforeFirst (mark : List Char) : List Char → List Char
  | [] => []
  | c :: rest => if mark.isPrefixOf (c :: rest) then [] else c :: beforeFirst mark rest

/-- Removes the trailing copies of a character. -/
def dropTrailing (c : Char) (cs : List Char) : List Char :=
  (cs.reverse.dropWhile (· == c)).reverse

/-- The lowercase form of the ASCII capitals; other characters stay. -/
def lowerAscii (c : Char) : Char :=
  if 'A' ≤ c ∧ c ≤ 'Z' then Char.ofNat (c.toNat + 32) else c

end TypedSheets.Text
