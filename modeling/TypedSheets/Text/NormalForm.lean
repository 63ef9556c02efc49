import TypedSheets.Text.Composition

/-!
# The normal form of identifiers

Two spellings of an identifier that differ only in how characters are composed, in their
width or in their style name the same thing. The normal form is what they share: every
character is decomposed in full, marks are put in canonical order, and then each letter
is composed with the marks behind it again.
-/

namespace TypedSheets.Text

/-- The first syllable of Hangul, and the code points before its first letters: initial
consonants, vowels and final consonants. -/
def firstSyllable : Nat := 0xac00
def initialBase : Nat := 0x1100
def vowelBase : Nat := 0x1161
def finalBase : Nat := 0x11a7

/-- The numbers of initial consonants and vowels, and that of final ones with none of them. -/
def initialCount : Nat := 19
def vowelCount : Nat := 21
def finalCount : Nat := 28

/-- Whether a code point is a syllable of Hangul. -/
def isSyllable (code : Nat) : Bool :=
  firstSyllable ≤ code && code < firstSyllable + initialCount * vowelCount * finalCount

/-- The letters of a syllable by its place among the syllables. -/
def syllableLetters (place : Nat) : List Nat :=
  let final := place % finalCount
  [initialBase + place / (vowelCount * finalCount),
    vowelBase + place / finalCount % vowelCount] ++ if final = 0 then [] else [finalBase + final]

/-- The full decomposition of a code point. -/
def decomposed (code : Nat) : List Nat :=
  if code < 128 then [code]
  else if isSyllable code then syllableLetters (code - firstSyllable)
  else tabledDecomposition code

/-- A code point in front of marks in canonical order: a mark goes behind those of a lesser
class. -/
def placeMark (code : Nat) : List Nat → List Nat
  | [] => [code]
  | next :: rest =>
    if markClass next ≠ 0 ∧ markClass next < markClass code then next :: placeMark code rest
    else code :: next :: rest

/-- Code points with their marks in canonical order. -/
def ordered (codes : List Nat) : List Nat := codes.foldr placeMark []

/-- The syllable of an initial consonant and a vowel, or of a syllable and a final consonant. -/
def syllable? (first second : Nat) : Option Nat :=
  if initialBase ≤ first ∧ first < initialBase + initialCount ∧ vowelBase ≤ second ∧
      second < vowelBase + vowelCount then
    some (firstSyllable +
      ((first - initialBase) * vowelCount + (second - vowelBase)) * finalCount)
  else if isSyllable first ∧ (first - firstSyllable) % finalCount = 0 ∧ finalBase < second ∧
      second < finalBase + finalCount then
    some (first + (second - finalBase))
  else none

/-- What two characters are composed to. -/
def composition? (first second : Nat) : Option Nat :=
  syllable? first second <|> tabledComposition? first second

/-- Composes a letter with what follows; `kept` are the marks that were not composed, the last
of which has the class `last`. A mark of the same class, or one before it in the canonical
order, keeps a further one from the letter. -/
def composeFrom (letter : Nat) (kept : List Nat) (last : Nat) : List Nat → List Nat
  | [] => letter :: kept
  | code :: rest =>
    let class_ := markClass code
    match if last = 0 ∨ last < class_ then composition? letter code else none with
    | some whole => composeFrom whole kept last rest
    | none =>
      if class_ = 0 then letter :: kept ++ composeFrom code [] 0 rest
      else composeFrom letter (kept ++ [code]) class_ rest

/-- A class beyond all classes. -/
def beyondClasses : Nat := 256

/-- Code points in canonical order with letters and marks composed. -/
def composed : List Nat → List Nat
  | [] => []
  | first :: rest => composeFrom first [] (if markClass first = 0 then 0 else beyondClasses) rest

/-- The normal form of an identifier. -/
def normalForm (name : String) : String :=
  if name.toList.all fun c => c.toNat < 128 then name
  else
    let codes := name.toList.flatMap fun c => decomposed c.toNat
    String.ofList ((composed (ordered codes)).map Char.ofNat)

end TypedSheets.Text
