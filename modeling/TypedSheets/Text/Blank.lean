/-!
# Blank characters

A character is blank when it separates words: the ASCII control blanks, the four
separators U+001C to U+001F, the next-line control and every space or line
separator of Unicode. Trimming, blankness of a cell and the collapsing of
comments all use this one class.
-/

namespace TypedSheets.Text

/-- The blanks: tab to carriage return, the information separators, the space, the
next-line control, and the Unicode spaces and line separators. -/
def isBlank (c : Char) : Bool :=
  let code := c.toNat
  (9 ≤ code && code ≤ 13) || (28 ≤ code && code ≤ 32) || code == 0x85 || code == 0xa0 ||
    code == 0x1680 || (0x2000 ≤ code && code ≤ 0x200a) || code == 0x2028 || code == 0x2029 ||
    code == 0x202f || code == 0x205f || code == 0x3000

/-- The characters without the blanks that lead. -/
def trimLeft (cs : List Char) : List Char := cs.dropWhile isBlank

/-- The characters without the blanks that trail. -/
def trimRight (cs : List Char) : List Char := (cs.reverse.dropWhile isBlank).reverse

/-- The characters between the first and the last one that is not blank. -/
def trimChars (cs : List Char) : List Char := trimRight (trimLeft cs)

/-- The text between the first and the last character that is not blank. -/
def trim (text : String) : String := String.ofList (trimChars text.toList)

/-- A text is blank when it holds blanks only; the empty text is blank. -/
def isBlankText (text : String) : Bool := text.toList.all isBlank

/-- The maximal runs of characters that are not blank, in order. -/
def wordsOf (current : List Char) : List Char → List (List Char)
  | [] => if current.isEmpty then [] else [current.reverse]
  | c :: rest =>
    if isBlank c then
      if current.isEmpty then wordsOf [] rest else current.reverse :: wordsOf [] rest
    else wordsOf (c :: current) rest

/-- The words of a text, in order. -/
def words (text : String) : List String := (wordsOf [] text.toList).map String.ofList

/-- Words joined by single spaces: every run of blanks becomes one space and the
outer blanks vanish. -/
def collapseBlanks (text : String) : String := " ".intercalate (words text)

end TypedSheets.Text
