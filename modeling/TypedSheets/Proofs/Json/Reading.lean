import TypedSheets.Proofs.Runtime.TypedRecords
import TypedSheets.Proofs.Text.StringLiterals
import TypedSheets.Number.DecimalText

/-!
# Reading object notation

A reader of object notation. A text is cut into marks, texts and words: texts stand between double quotes, and
a word is null, a truth value or a number. What is cut is taken in from the front, while the lists and objects
around the current place are kept: a closing mark makes a value of the innermost one. Of several values for one
key of an object the last counts. The reader accepts one value with blanks around it, and nothing else.

Characters are cut the same way, and their parts are taken in the same way, whatever stands behind them and
around them: `Lexes` and `Parses`. So what is put together of texts of values is cut and taken in piece by piece.
-/

namespace TypedSheets.Json

open TypedSheets.Number TypedSheets.Text

/-- The parts of a text. -/
inductive Token where
  | openList | closeList | openMap | closeMap | comma | colon
  | text (s : String)
  | scalar (value : Value)

/-- The marks between values. -/
def marks : List (Char × Token) :=
  [('[', .openList), (']', .closeList), ('\x7b', .openMap), ('\x7d', .closeMap), (',', .comma), (':', .colon)]

/-- The characters that may stand between the parts. -/
def blanks : List Char := [' ', '\t', '\n', '\r']

/-- Whether a character goes on with a word. -/
def isWordChar (c : Char) : Bool := !((blanks ++ marks.map Prod.fst).contains c || c == '"')

/-- What stands for a character behind a backslash. -/
def escapes : List (Char × Char) :=
  [('"', '"'), ('\\', '\\'), ('/', '/'), ('b', '\x08'), ('f', '\x0c'), ('n', '\n'), ('r', '\r'), ('t', '\t')]

/-- The number of the four hexadecimal digits in front. -/
def codeUnit? (cs : List Char) : Option Nat :=
  let digits := cs.take 4
  if digits.length = 4 && digits.all (isBaseDigit 16) then some (digitsValue 16 digits) else none

/-- The character that an escape stands for, and how many of the characters behind its backslash belong to it. A
character beyond four digits is written as the two halves of a pair; a half by itself is no character. -/
def escapeOf? : List Char → Option (Char × Nat)
  | [] => none
  | c :: rest =>
    if c = 'u' then do
      let unit ← codeUnit? rest
      match charOfCode? unit, rest.drop 4 with
      | some own, _ => some (own, 5)
      | none, '\\' :: 'u' :: behind => do
        let other ← codeUnit? behind
        if unit < 0xdc00 ∧ 0xdc00 ≤ other ∧ other < 0xe000 then
          some (Char.ofNat (0x10000 + (unit - 0xd800) * 0x400 + (other - 0xdc00)), 11)
        else none
      | none, _ => none
    else (escapes.lookup c).map fun own => (own, 1)

/-- The text up to the closing quote, with the number of the characters that it takes, the quote included. The
count in front is that of characters which belong to an escape that is read already. -/
def readText? : Nat → List Char → Option (List Char × Nat)
  | _, [] => none
  | escaped + 1, _ :: rest => (readText? escaped rest).map fun (own, length) => (own, length + 1)
  | 0, c :: rest =>
    if c = '"' then some ([], 1)
    else if c = '\\' then do
      let (own, escaped) ← escapeOf? rest
      let (others, length) ← readText? escaped rest
      pure (own :: others, length + 1)
    else if c.toNat < 32 then none
    else (readText? 0 rest).map fun (others, length) => (c :: others, length + 1)

/-- A power of ten behind a number. -/
def isExponent : List Char → Bool
  | mark :: '+' :: digits => (mark == 'e' || mark == 'E') && !digits.isEmpty && digits.all isAsciiDigit
  | mark :: '-' :: digits => (mark == 'e' || mark == 'E') && !digits.isEmpty && digits.all isAsciiDigit
  | mark :: digits => (mark == 'e' || mark == 'E') && !digits.isEmpty && digits.all isAsciiDigit
  | [] => false

/-- A fraction, a power of ten, or both. -/
def isFraction : List Char → Bool
  | '.' :: rest =>
    let behind := rest.dropWhile isAsciiDigit
    !(rest.takeWhile isAsciiDigit).isEmpty && (behind.isEmpty || isExponent behind)
  | cs => isExponent cs

/-- A number: digits without leading zeros, maybe with a minus sign in front and a fraction behind. -/
def number? (cs : List Char) : Option Value :=
  let body := if cs.head? = some '-' then cs.tail else cs
  let digits := body.takeWhile isAsciiDigit
  let behind := body.dropWhile isAsciiDigit
  if digits = [] ∨ (digits.head? = some '0' ∧ digits ≠ ['0']) then none
  else if behind = [] then
    some (.int (if cs.head? = some '-' then -(digitsValue 10 digits : Int) else digitsValue 10 digits))
  else if isFraction behind then (readDouble (String.ofList cs)).toOption.map .float
  else none

/-- The words that are no numbers. -/
def words : List (String × Value) := [("null", .null), ("true", .bool true), ("false", .bool false)]

/-- The value of a word. -/
def scalar? (cs : List Char) : Option Value := (words.lookup (String.ofList cs)).or (number? cs)

/-- The part that starts with a character, and how many of the characters behind belong to it. -/
def token? (c : Char) (rest : List Char) : Option (Token × Nat) :=
  match marks.lookup c with
  | some mark => some (mark, 0)
  | none =>
    if c = '"' then (readText? 0 rest).map fun (own, length) => (.text (String.ofList own), length)
    else
      let others := rest.takeWhile isWordChar
      (scalar? (c :: others)).map fun value => (.scalar value, others.length)

/-- The parts of a text. The count in front is that of characters which belong to a part that is read already. -/
def tokens? : Nat → List Char → Option (List Token)
  | _, [] => some []
  | passed + 1, _ :: rest => tokens? passed rest
  | 0, c :: rest =>
    if c ∈ blanks then tokens? 0 rest
    else do
      let (token, length) ← token? c rest
      let others ← tokens? length rest
      pure (token :: others)

/-- A list or an object that is not closed yet: with its items so far, or with its entries so far and the key
whose value is due. -/
inductive Unclosed where
  | list (items : List Value)
  | map (entries : List (Value × Value)) (key : String)

/-- Where a reader stands: in front of a value or a key, which may be left out where a list or an object was just
opened, in front of the colon behind a key, or behind a value. -/
inductive Place where
  | value (optional : Bool)
  | key (optional : Bool) (entries : List (Value × Value))
  | colon (entries : List (Value × Value)) (key : String)
  | behind (value : Value)

/-- A place, and what is not closed around it, the innermost first. -/
structure Reader where
  place : Place
  unclosed : List Unclosed

/-- A part is taken in. -/
def Reader.step (r : Reader) (token : Token) : Option Reader :=
  match r.place, token, r.unclosed with
  | .value _, .scalar value, unclosed => some ⟨.behind value, unclosed⟩
  | .value _, .text s, unclosed => some ⟨.behind (.text s), unclosed⟩
  | .value _, .openList, unclosed => some ⟨.value true, .list [] :: unclosed⟩
  | .value true, .closeList, .list items :: unclosed => some ⟨.behind (.list items), unclosed⟩
  | .value _, .openMap, unclosed => some ⟨.key true [], unclosed⟩
  | .key true entries, .closeMap, unclosed => some ⟨.behind (.map entries), unclosed⟩
  | .key _ entries, .text s, unclosed => some ⟨.colon entries s, unclosed⟩
  | .colon entries key, .colon, unclosed => some ⟨.value false, .map entries key :: unclosed⟩
  | .behind value, .comma, .list items :: unclosed => some ⟨.value false, .list (items ++ [value]) :: unclosed⟩
  | .behind value, .closeList, .list items :: unclosed => some ⟨.behind (.list (items ++ [value])), unclosed⟩
  | .behind value, .comma, .map entries key :: unclosed =>
    some ⟨.key false (Value.putEntry (.text key) value entries), unclosed⟩
  | .behind value, .closeMap, .map entries key :: unclosed =>
    some ⟨.behind (.map (Value.putEntry (.text key) value entries)), unclosed⟩
  | _, _, _ => none

/-- The value that a text denotes. -/
def read? (text : String) : Option Value := do
  let tokens ← tokens? 0 text.toList
  match ← tokens.foldlM Reader.step ⟨.value false, []⟩ with
  | ⟨.behind value, []⟩ => some value
  | _ => none

example : (read? " [1, -0.5e1, \"\\u00e9\\ud83d\\ude00\\n\", \x7b\"a\" : null, \"a\":[]\x7d ]").isSome = true := by
  decide +kernel

example : ["", "[1,]", "01", "\"\t\"", "\"\\ud83d\"", "nul", "1 2", "\x7b1:2\x7d", "[1", "\x7b\"a\":1,\x7d"].map
    (fun text => (read? text).isSome) = List.replicate 10 false := by
  decide +kernel

/-- Nothing in front goes on with a word. -/
def IsDelimited (rest : List Char) : Prop := ∀ c, rest.head? = some c → isWordChar c = false

/-- Characters are cut into some parts, whatever is behind them, as long as it does not go on with a word. -/
def Lexes (cs : List Char) (tokens : List Token) : Prop :=
  ∀ rest, IsDelimited rest → tokens? 0 (cs ++ rest) = (tokens? 0 rest).map (tokens ++ ·)

/-- Parts are taken in as a value where a value is due, whatever is not closed around it. -/
def Parses (tokens : List Token) (value : Value) : Prop :=
  ∀ optional unclosed, tokens.foldlM Reader.step ⟨.value optional, unclosed⟩ = some ⟨.behind value, unclosed⟩

section Lexing

variable {c : Char} {cs rest : List Char} {value : Value}

/-- What belongs to a part is passed over. -/
theorem tokens?_passed (passed rest : List Char) : tokens? passed.length (passed ++ rest) = tokens? 0 rest := by
  induction passed with
  | nil => rfl
  | cons c others inductionHypothesis => rw [List.length_cons, List.cons_append, tokens?, inductionHypothesis]

/-- A part stands in front of the others. -/
theorem tokens?_cons {token : Token} (solid : c ∉ blanks)
    (first : token? c (cs ++ rest) = some (token, cs.length)) :
    tokens? 0 (c :: cs ++ rest) = (tokens? 0 rest).map (token :: ·) := by
  rw [List.cons_append, tokens?, if_neg solid, first]
  simp only [Option.bind_eq_bind, Option.bind_some, tokens?_passed]
  cases tokens? 0 rest <;> rfl

/-- A mark is no blank and no control, and ends a word. -/
theorem of_lookup_marks {mark : Token} (isMark : marks.lookup c = some mark) :
    c ∉ blanks ∧ isWordChar c = false ∧ 32 ≤ c.toNat := by
  have each : ∀ c ∈ marks.map Prod.fst, c ∉ blanks ∧ isWordChar c = false ∧ 32 ≤ c.toNat :=
    forall_mem_of_all (by decide)
  obtain ⟨before, behind, entries, -⟩ := List.lookup_eq_some_iff.mp isMark
  refine each c ?_
  rw [entries, List.map_append]
  exact List.mem_append_right _ List.mem_cons_self

/-- Marks are parts by themselves, whatever is behind them. -/
theorem tokens?_mark {mark : Token} (isMark : marks.lookup c = some mark) (rest : List Char) :
    tokens? 0 (c :: rest) = (tokens? 0 rest).map (mark :: ·) :=
  @tokens?_cons c [] rest mark (of_lookup_marks isMark).1 (by rw [token?, isMark]; rfl)

/-- Escaped characters are passed over. -/
theorem readText?_passed (passed cs : List Char) : readText? passed.length (passed ++ cs) =
    (readText? 0 cs).map fun (own, length) => (own, length + passed.length) := by
  induction passed with
  | nil =>
    rw [List.length_nil, List.nil_append]
    cases readText? 0 cs <;> rfl
  | cons c others inductionHypothesis =>
    rw [List.length_cons, List.cons_append, readText?, inductionHypothesis]
    cases readText? 0 cs <;> rfl

/-- An escape with what belongs to it. -/
theorem readText?_escape {escape : List Char} (value : escapeOf? (escape ++ cs) = some (c, escape.length)) :
    readText? 0 ('\\' :: escape ++ cs) =
      (readText? 0 cs).map fun (own, length) => (c :: own, length + ('\\' :: escape).length) := by
  rw [List.cons_append, readText?, if_neg (by decide), if_pos rfl, value]
  simp only [Option.bind_eq_bind, Option.bind_some, readText?_passed]
  cases readText? 0 cs <;> rfl

/-- Four hexadecimal digits for the code of a character. -/
theorem escapeOf?_code {digits : List Char} (four : digits.length = 4)
    (hexadecimal : digits.all (isBaseDigit 16) = true) (code : digitsValue 16 digits = c.toNat) :
    escapeOf? ('u' :: digits ++ cs) = some (c, ('u' :: digits).length) := by
  have taken : (digits ++ cs).take 4 = digits := by
    rw [← four, List.take_left]
  have unit : codeUnit? (digits ++ cs) = some c.toNat := by
    simp [codeUnit?, taken, four, hexadecimal, code]
  rw [List.cons_append, escapeOf?, if_pos rfl, unit]
  simp only [Option.bind_eq_bind, Option.bind_some, charOfCode?_toNat, List.length_cons, four]

/-- A character as it is written is read as itself. -/
theorem readText?_escaped (c : Char) (cs : List Char) : readText? 0 (escaped c ++ cs) =
    (readText? 0 cs).map fun (own, length) => (c :: own, length + (escaped c).length) := by
  have letter {letter : Char} (value : escapeOf? ([letter] ++ cs) = some (c, 1)) :
      readText? 0 (['\\', letter] ++ cs) = (readText? 0 cs).map fun (own, length) => (c :: own, length + 2) :=
    readText?_escape value
  unfold escaped
  split_ifs with quote backslash feed ret tab backspace page control
  · subst quote
    exact letter rfl
  · subst backslash
    exact letter rfl
  · subst feed
    exact letter rfl
  · subst ret
    exact letter rfl
  · subst tab
    exact letter rfl
  · subst backspace
    exact letter rfl
  · subst page
    exact letter rfl
  · obtain ⟨four, hexadecimal, code⟩ := digits_of_control c.toNat control
    exact readText?_escape (escapeOf?_code four hexadecimal code)
  · rw [List.singleton_append, readText?, if_neg quote, if_neg backslash, if_neg control]
    rfl

/-- Written characters are read as those that they were made of. -/
theorem readText?_quoted (text rest : List Char) : readText? 0 (text.flatMap escaped ++ '"' :: rest) =
    some (text, (text.flatMap escaped ++ ['"']).length) := by
  induction text with
  | nil => rfl
  | cons c others inductionHypothesis =>
    rw [List.flatMap_cons, List.append_assoc, readText?_escaped, inductionHypothesis, Option.map_some]
    simp only [List.length_append, Option.some.injEq, Prod.mk.injEq, true_and]
    omega

/-- A quoted text is one part. -/
theorem tokens?_quoted (text : String) (rest : List Char) :
    tokens? 0 ((quoted text).toList ++ rest) = (tokens? 0 rest).map (.text text :: ·) := by
  have shape : (quoted text).toList ++ rest = '"' :: (text.toList.flatMap escaped ++ ['"']) ++ rest := by
    rw [quoted, String.toList_ofList, quotedChars, List.cons_append]
  have first : token? '"' ((text.toList.flatMap escaped ++ ['"']) ++ rest) =
      some (.text text, (text.toList.flatMap escaped ++ ['"']).length) := by
    rw [List.append_assoc, List.singleton_append, token?]
    simp only [show marks.lookup '"' = none from rfl, if_true, readText?_quoted, Option.map_some,
      String.ofList_toList]
  rw [shape, tokens?_cons (by decide) first]

/-- A word is one part, when it stands for a value. -/
theorem lexes_word (word : List Char) (run : word.all isWordChar = true) (scalar : scalar? word = some value)
    (nonempty : word ≠ []) : Lexes word [.scalar value] := by
  intro rest delimited
  obtain ⟨c, others, rfl⟩ := List.exists_cons_of_ne_nil nonempty
  rw [List.all_cons, Bool.and_eq_true] at run
  have outside : ∀ c, isWordChar c = true → c ∉ blanks ∧ marks.lookup c = none ∧ c ≠ '"' := by
    intro c isWord
    simp only [isWordChar, Bool.not_eq_true', Bool.or_eq_false_iff, beq_eq_false_iff_ne] at isWord
    rw [← Bool.not_eq_true, List.contains_iff_mem, List.mem_append, not_or] at isWord
    refine ⟨isWord.1.1, ?_, isWord.2⟩
    rw [List.lookup_eq_none_iff]
    intro mark member
    rw [bne_iff_ne]
    rintro rfl
    exact isWord.1.2 (List.mem_map_of_mem member)
  obtain ⟨solid, noMark, noQuote⟩ := outside c run.1
  have taken : (others ++ rest).takeWhile isWordChar = others := by
    rw [List.takeWhile_append_of_pos (List.all_eq_true.mp run.2)]
    have nothing : rest.takeWhile isWordChar = [] := by
      cases rest with
      | nil => rfl
      | cons next behind => rw [List.takeWhile_cons_of_neg (by rw [delimited next rfl]; decide)]
    rw [nothing, List.append_nil]
  have first : token? c (others ++ rest) = some (.scalar value, others.length) := by
    rw [token?, noMark]
    simp only [if_neg noQuote, taken, scalar, Option.map_some]
  exact tokens?_cons solid first

end Lexing

section Separated

variable {opening closing : Char} {first last : Token} {cs : List Char} {tokens : List Token}

/-- Marks around characters are parts around their parts. -/
theorem Lexes.between (inner : Lexes cs tokens) (isOpening : marks.lookup opening = some first)
    (isClosing : marks.lookup closing = some last) :
    Lexes (opening :: cs ++ [closing]) (first :: tokens ++ [last]) := by
  intro rest _
  have delimited : IsDelimited (closing :: rest) := by
    rintro c ⟨⟩
    exact (of_lookup_marks isClosing).2.1
  rw [List.cons_append, List.cons_append, List.append_assoc, List.singleton_append, tokens?_mark isOpening,
    inner _ delimited, tokens?_mark isClosing]
  cases tokens? 0 rest <;> simp

/-- Commas between characters are parts between their parts. -/
theorem lexes_separated {texts : List (List Char)} {parts : List (List Token)}
    (each : List.Forall₂ Lexes texts parts) :
    Lexes ([','].intercalate texts) ([.comma].intercalate parts) := by
  induction each with
  | nil =>
    intro rest _
    cases behind : tokens? 0 rest <;> simp [behind]
  | @cons text own texts parts lexes further inductionHypothesis =>
    cases further with
    | nil =>
      rw [List.intercalate_singleton, List.intercalate_singleton]
      exact lexes
    | cons next others =>
      intro rest delimited
      have comma (behind : List Char) : IsDelimited (',' :: behind) := by
        rintro c ⟨⟩
        decide
      rw [List.intercalate_cons_cons, List.intercalate_cons_cons, List.append_assoc, List.append_assoc,
        List.singleton_append, lexes _ (comma _), tokens?_mark rfl, inductionHypothesis rest delimited]
      cases tokens? 0 rest <;> simp

/-- Texts that are cut into parts one by one. -/
theorem exists_parts {α : Type} {P : List Token → α → Prop} {texts : List String} {values : List α}
    (each : List.Forall₂ (fun text value => ∃ tokens, Lexes text.toList tokens ∧ P tokens value) texts values) :
    ∃ parts, List.Forall₂ Lexes (texts.map String.toList) parts ∧ List.Forall₂ P parts values := by
  induction each with
  | nil => exact ⟨[], .nil, .nil⟩
  | cons first _ inductionHypothesis =>
    obtain ⟨own, lexes, holds⟩ := first
    obtain ⟨parts, others, further⟩ := inductionHypothesis
    exact ⟨own :: parts, .cons lexes others, .cons holds further⟩

end Separated

section Parsing

/-- The items behind others make up a list with them. -/
theorem foldlM_items {parts : List (List Token)} {values : List Value} (each : List.Forall₂ Parses parts values)
    (some_ : values ≠ []) (optional : Bool) (before : List Value) (unclosed : List Unclosed) :
    ([Token.comma].intercalate parts ++ [Token.closeList]).foldlM Reader.step ⟨.value optional, .list before :: unclosed⟩ =
      some ⟨.behind (.list (before ++ values)), unclosed⟩ := by
  induction each generalizing optional before with
  | nil => exact absurd rfl some_
  | @cons own value parts values parses further inductionHypothesis =>
    cases further with
    | nil =>
      rw [List.intercalate_singleton, List.foldlM_append, parses]
      rfl
    | cons next others =>
      rw [List.intercalate_cons_cons, List.append_assoc, List.append_assoc, List.foldlM_append, parses,
        List.singleton_append]
      show List.foldlM Reader.step ⟨.value false, .list (before ++ [value]) :: unclosed⟩ _ = _
      rw [inductionHypothesis (List.cons_ne_nil _ _), List.append_assoc, List.singleton_append]

/-- The parts of a list. -/
theorem parses_list {parts : List (List Token)} {values : List Value} (each : List.Forall₂ Parses parts values) :
    Parses (.openList :: [.comma].intercalate parts ++ [.closeList]) (.list values) := by
  intro optional unclosed
  cases each with
  | nil => rfl
  | cons first others => exact foldlM_items (.cons first others) (List.cons_ne_nil _ _) true [] unclosed

/-- The entries of an object with texts for keys. -/
def keyed (entries : Entries) : List (Value × Value) := entries.map fun entry => (.text entry.1, entry.2)

/-- What is put under a new key stands behind the other entries. -/
theorem putEntry_keyed {before : Entries} {name : String} (value : Value) (new : name ∉ before.map Prod.fst) :
    Value.putEntry (.text name) value (keyed before) = keyed (before ++ [(name, value)]) := by
  induction before with
  | nil => rfl
  | cons entry rest inductionHypothesis =>
    rw [List.map_cons, List.mem_cons, not_or] at new
    have other : Value.same (.text entry.1) (.text name) = false :=
      Bool.eq_false_iff.mpr fun same => new.1 ((same_text _ _).mp same).symm
    have behind := inductionHypothesis new.2
    rw [keyed] at behind ⊢
    rw [List.map_cons, Value.putEntry, other, behind]
    rfl

/-- The parts of an entry: its key, a colon, and those of its value. -/
def ParsesEntry (tokens : List Token) (entry : String × Value) : Prop :=
  ∃ own, tokens = .text entry.1 :: .colon :: own ∧ Parses own entry.2

/-- The entries behind others make up an object with them. -/
theorem foldlM_entries {parts : List (List Token)} {entries : Entries}
    (each : List.Forall₂ ParsesEntry parts entries) (some_ : entries ≠ []) (optional : Bool) (before : Entries)
    (distinct : ((before ++ entries).map Prod.fst).Nodup) (unclosed : List Unclosed) :
    ([Token.comma].intercalate parts ++ [Token.closeMap]).foldlM Reader.step ⟨.key optional (keyed before), unclosed⟩ =
      some ⟨.behind (.map (keyed (before ++ entries))), unclosed⟩ := by
  induction each generalizing optional before with
  | nil => exact absurd rfl some_
  | @cons own entry parts entries parses further inductionHypothesis =>
    obtain ⟨tokens, rfl, parses⟩ := parses
    obtain ⟨name, value⟩ := entry
    have new : name ∉ before.map Prod.fst := by
      rw [List.map_append, List.nodup_append] at distinct
      exact fun member => distinct.2.2 name member name List.mem_cons_self rfl
    have front (behind : List Token) :
        List.foldlM Reader.step ⟨.key optional (keyed before), unclosed⟩ (.text name :: .colon :: tokens ++ behind) =
          List.foldlM Reader.step ⟨.behind value, .map (keyed before) name :: unclosed⟩ behind := by
      rw [List.foldlM_append]
      have entered : List.foldlM Reader.step ⟨.key optional (keyed before), unclosed⟩
          (.text name :: .colon :: tokens) =
            List.foldlM Reader.step ⟨.value false, .map (keyed before) name :: unclosed⟩ tokens := by
        cases optional <;> rfl
      rw [entered, parses]
      rfl
    cases further with
    | nil =>
      rw [List.intercalate_singleton, front, ← putEntry_keyed value new]
      rfl
    | cons next others =>
      rw [List.intercalate_cons_cons, List.append_assoc, List.append_assoc, front, List.singleton_append]
      show List.foldlM Reader.step ⟨.key false (Value.putEntry (.text name) value (keyed before)), unclosed⟩ _ = _
      rw [putEntry_keyed value new, inductionHypothesis (List.cons_ne_nil _ _) false, List.append_assoc,
        List.singleton_append]
      rwa [List.append_assoc, List.singleton_append]

/-- The parts of an object whose keys differ. -/
theorem parses_map {parts : List (List Token)} {entries : Entries} (each : List.Forall₂ ParsesEntry parts entries)
    (distinct : (entries.map Prod.fst).Nodup) :
    Parses (.openMap :: [.comma].intercalate parts ++ [.closeMap]) (.map (keyed entries)) := by
  intro optional unclosed
  cases each with
  | nil => cases optional <;> rfl
  | cons first others =>
    have taken := foldlM_entries (.cons first others) (List.cons_ne_nil _ _) true [] distinct unclosed
    cases optional <;> exact taken

end Parsing

end TypedSheets.Json
