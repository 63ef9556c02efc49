import TypedSheets.Number.IntegerText
import TypedSheets.Proofs.Text.TextLines

/-!
# String literals

Between two double quotes on one line stands a text of the generated language. Behind a backslash stand a
letter for a control, octal digits, a letter with hexadecimal digits, or the name of a character. A backslash
before a line end joins two lines, and before anything else it stands for itself. The texts that are quoted for
object notation are literals of this kind, and each is read as the text it was made of: `denotes_quoted`.
-/

namespace TypedSheets.Text

open TypedSheets.Number

/-- The letters and marks that have a meaning behind a backslash. -/
def literalEscapes : List (Char × Char) :=
  [('\\', '\\'), ('\'', '\''), ('"', '"'), ('a', '\x07'), ('b', '\x08'), ('f', '\x0c'), ('n', '\n'), ('r', '\r'),
    ('t', '\t'), ('v', '\x0b')]

/-- The letters that hexadecimal digits stand behind, and the number of these digits. -/
def codeWidths : List (Char × Nat) := [('x', 2), ('u', 4), ('U', 8)]

/-- The character with a code. Halves of pairs have codes, but are no characters. -/
def charOfCode? (code : Nat) : Option Char :=
  if code.isValidChar then some (Char.ofNat code) else none

/-- What an escape stands for, and how many of the characters behind its backslash belong to it; `names` finds
the characters that have names. -/
def escapeValue? (names : List Char → Option Char) : List Char → Option (List Char × Nat)
  | [] => none
  | c :: rest =>
    if c = '\n' then some ([], 1)
    else if c = '\r' then some ([], if rest.head? = some '\n' then 2 else 1)
    else
      match literalEscapes.lookup c, codeWidths.lookup c with
      | some own, _ => some ([own], 1)
      | none, some width =>
        let digits := rest.take width
        if digits.length = width && digits.all (isBaseDigit 16) then
          (charOfCode? (digitsValue 16 digits)).map fun own => ([own], width + 1)
        else none
      | none, none =>
        if isBaseDigit 8 c then
          let digits := c :: (rest.take 2).takeWhile (isBaseDigit 8)
          (charOfCode? (digitsValue 8 digits)).map fun own => ([own], digits.length)
        else if c = 'N' then
          let name := (rest.drop 1).takeWhile (· != '\x7d')
          if rest.head? = some '\x7b' ∧ name.length + 1 < rest.length then
            (names name).map fun own => ([own], name.length + 3)
          else none
        else some (['\\', c], 1)

/-- The text up to the closing quote, and what is behind the quote. The count is that of the characters in front
which belong to an escape that is read already. -/
def readLiteralBody (names : List Char → Option Char) : Nat → List Char → Option (List Char × List Char)
  | _, [] => none
  | escaped + 1, _ :: rest => readLiteralBody names escaped rest
  | 0, c :: rest =>
    if c = '"' then some ([], rest)
    else if c = '\\' then do
      let (own, length) ← escapeValue? names rest
      let (text, behind) ← readLiteralBody names length rest
      pure (own ++ text, behind)
    else if c = '\n' ∨ c = '\r' ∨ c = '\x00' then none
    else do
      let (text, behind) ← readLiteralBody names 0 rest
      pure (c :: text, behind)

/-- The text of the literal that stands in front, and what is behind it. Three quotes start a literal of another
kind. -/
def readLiteral? (names : List Char → Option Char) : List Char → Option (String × List Char)
  | '"' :: '"' :: '"' :: _ => none
  | '"' :: body => (readLiteralBody names 0 body).map fun (text, behind) => (String.ofList text, behind)
  | _ => none

/-- A literal stands in one line, and wherever it stands it is read as a text. -/
structure LiteralDenotes (literal text : String) : Prop where
  within : WithinLine literal
  read : ∀ names rest, rest.head? ≠ some '"' → readLiteral? names (literal.toList ++ rest) = some (text, rest)

variable {names : List Char → Option Char} {c : Char} {cs text : List Char}

/-- What belongs to an escape is passed over. -/
theorem readLiteralBody_passed (passed cs : List Char) :
    readLiteralBody names passed.length (passed ++ cs) = readLiteralBody names 0 cs := by
  induction passed with
  | nil => rfl
  | cons c rest inductionHypothesis =>
    rw [List.length_cons, List.cons_append, readLiteralBody, inductionHypothesis]

/-- An escape with what belongs to it. -/
theorem readLiteralBody_escape {escape : List Char} (value : escapeValue? names (escape ++ cs) = some ([c], escape.length)) :
    readLiteralBody names 0 ('\\' :: (escape ++ cs)) =
      (readLiteralBody names 0 cs).map fun (text, behind) => (c :: text, behind) := by
  rw [readLiteralBody, if_neg (by decide), if_pos rfl, value]
  simp only [Option.bind_eq_bind, Option.bind_some, readLiteralBody_passed]
  cases readLiteralBody names 0 cs <;> rfl

/-- A character is the one with its code. -/
theorem charOfCode?_toNat (c : Char) : charOfCode? c.toNat = some c := by
  have valid : c.toNat.isValidChar := c.valid
  rw [charOfCode?, if_pos valid, Char.ofNat_toNat]

/-- The four hexadecimal digits of a control denote it. -/
theorem digits_of_control : ∀ n < 32, (hexDigits 4 n).length = 4 ∧ (hexDigits 4 n).all (isBaseDigit 16) = true ∧
    digitsValue 16 (hexDigits 4 n) = n := by decide

/-- Four hexadecimal digits for the code of a character. -/
theorem escapeValue?_code {digits : List Char} (four : digits.length = 4)
    (hexadecimal : digits.all (isBaseDigit 16) = true) (value : digitsValue 16 digits = c.toNat) :
    escapeValue? names ('u' :: digits ++ cs) = some ([c], ('u' :: digits).length) := by
  have taken : (digits ++ cs).take 4 = digits := by
    rw [← four, List.take_left]
  have front : escapeValue? names ('u' :: (digits ++ cs)) =
      if ((digits ++ cs).take 4).length = 4 && ((digits ++ cs).take 4).all (isBaseDigit 16) then
        (charOfCode? (digitsValue 16 ((digits ++ cs).take 4))).map fun own => ([own], 5)
      else none := rfl
  rw [List.cons_append, front, taken, four, hexadecimal, value, charOfCode?_toNat, List.length_cons, four]
  rfl

/-- A character as it is quoted is read as itself. -/
theorem readLiteralBody_escaped (c : Char) (cs : List Char) : readLiteralBody names 0 (Json.escaped c ++ cs) =
    (readLiteralBody names 0 cs).map fun (text, behind) => (c :: text, behind) := by
  have letter {letter : Char} (value : escapeValue? names ([letter] ++ cs) = some ([c], 1)) :
      readLiteralBody names 0 (['\\', letter] ++ cs) =
        (readLiteralBody names 0 cs).map fun (text, behind) => (c :: text, behind) :=
    readLiteralBody_escape value
  unfold Json.escaped
  split_ifs with quote backslash feed ret tab backspace page control
  · subst quote
    exact letter rfl
  · subst backslash
    exact letter rfl
  · subst feed
    exact letter rfl
  · subst ret
    exact letter rfl
  · subst tab
    exact letter rfl
  · subst backspace
    exact letter rfl
  · subst page
    exact letter rfl
  · obtain ⟨four, hexadecimal, value⟩ := digits_of_control c.toNat control
    exact readLiteralBody_escape (escapeValue?_code four hexadecimal value)
  · have notNull : c ≠ '\x00' := by
      rintro rfl
      exact control (by decide)
    rw [List.singleton_append, readLiteralBody, if_neg quote, if_neg backslash,
      if_neg (by simp [feed, ret, notNull])]
    cases readLiteralBody names 0 cs <;> rfl

/-- Quoted characters are read as those that they were made of. -/
theorem readLiteralBody_quoted (text rest : List Char) :
    readLiteralBody names 0 (text.flatMap Json.escaped ++ '"' :: rest) = some (text, rest) := by
  induction text with
  | nil => rfl
  | cons c others inductionHypothesis =>
    rw [List.flatMap_cons, List.append_assoc, readLiteralBody_escaped, inductionHypothesis]
    rfl

/-- No character is quoted with a quote in front. -/
theorem head?_escaped (c : Char) : ∃ first others, Json.escaped c = first :: others ∧ first ≠ '"' := by
  unfold Json.escaped
  split_ifs with quote
  all_goals first | exact ⟨_, _, rfl, by decide⟩ | exact ⟨_, _, rfl, quote⟩

/-- A quoted text is a literal of the text. -/
theorem denotes_quoted (text : String) : LiteralDenotes (Json.quoted text) text := by
  refine ⟨withinLine_quoted text, fun names rest apart => ?_⟩
  have whole : (Json.quoted text).toList ++ rest = '"' :: (text.toList.flatMap Json.escaped ++ '"' :: rest) := by
    simp [Json.quoted, Json.quotedChars]
  have single : readLiteral? names ('"' :: (text.toList.flatMap Json.escaped ++ '"' :: rest)) =
      (readLiteralBody names 0 (text.toList.flatMap Json.escaped ++ '"' :: rest)).map
        fun (text, behind) => (String.ofList text, behind) := by
    cases text.toList with
    | nil =>
      cases rest with
      | nil => rfl
      | cons next others =>
        have other : next ≠ '"' := fun same => apart (congrArg some same)
        simp [readLiteral?, other]
    | cons c others =>
      obtain ⟨first, behind, shape, other⟩ := head?_escaped c
      rw [List.flatMap_cons, shape]
      simp [readLiteral?, other]
  rw [whole, single, readLiteralBody_quoted, Option.map_some]
  dsimp only
  rw [String.ofList_toList]

example : readLiteral? (fun _ => none) "\"\\x41\\101\\q\\u0042\\\nC\" + 1".toList =
    some ("AA\\qBC", " + 1".toList) := by
  decide +kernel

end TypedSheets.Text
