import TypedSheets.Json.Encoding
import TypedSheets.Proofs.Json.Reading
import TypedSheets.Proofs.RelatedLists
import TypedSheets.Proofs.Yaml.IntegerScalars

/-!
# Texts of values

The text of a value in object notation is read as the value, and has no control characters: `IsText`. Words,
integers and quoted texts are texts of values by themselves, and texts of values are put together to those of
lists and objects. The encoding puts them together in this way, and `Encodes` tells which value is read from the
text that it makes.
-/

namespace TypedSheets.Json

open TypedSheets.Number TypedSheets.Text

/-- A text without control characters that is read as a value, whatever is behind it. -/
structure IsText (text : String) (value : Value) : Prop where
  printable : ∀ c ∈ text.toList, 32 ≤ c.toNat
  read : ∃ tokens, Lexes text.toList tokens ∧ Parses tokens value

/-- A value is encoded as a text of a value. -/
def Encodes (value read : Value) : Prop := ∃ text, encode value = .ok text ∧ IsText text read

section Texts

variable {text : String} {value : Value}

/-- A text of a value is read as the value. -/
theorem IsText.read?_eq (isText : IsText text value) : read? text = some value := by
  obtain ⟨tokens, lexes, parses⟩ := isText.read
  have parts : tokens? 0 text.toList = some tokens := by
    have whole := lexes [] nofun
    rw [List.append_nil] at whole
    rw [whole, tokens?, Option.map_some, List.append_nil]
  rw [read?, parts]
  simp only [Option.bind_eq_bind, Option.bind_some, parses false []]

/-- Characters are written without controls. -/
theorem printable_escaped {c own : Char} (present : own ∈ escaped c) : 32 ≤ own.toNat := by
  have letters {first second : Char} (each : ([first, second].all fun own => decide (32 ≤ own.toNat)) = true)
      (present : own ∈ [first, second]) : 32 ≤ own.toNat := forall_mem_of_all each own present
  have digits : ∀ n < 32, (('\\' :: 'u' :: hexDigits 4 n).all fun own => decide (32 ≤ own.toNat)) = true := by decide
  unfold escaped at present
  split_ifs at present with quote backslash feed ret tab backspace page control
  · exact letters (by decide) present
  · exact letters (by decide) present
  · exact letters (by decide) present
  · exact letters (by decide) present
  · exact letters (by decide) present
  · exact letters (by decide) present
  · exact letters (by decide) present
  · exact forall_mem_of_all (digits c.toNat control) own present
  · rw [List.mem_singleton.mp present]
    exact Nat.le_of_not_lt control

theorem printable_quoted (text : String) : ∀ c ∈ (quoted text).toList, 32 ≤ c.toNat := by
  intro c present
  rw [quoted, String.toList_ofList, quotedChars] at present
  rcases List.mem_append.mp present with front | last
  · rcases List.mem_cons.mp front with rfl | inside
    · decide
    · obtain ⟨own, -, escaped⟩ := List.mem_flatMap.mp inside
      exact printable_escaped escaped
  · rw [List.mem_singleton.mp last]
    decide

/-- A quoted text is a text of the text. -/
theorem isText_quoted (text : String) : IsText (quoted text) (.text text) := by
  refine ⟨printable_quoted text, [.text text], fun rest _ => tokens?_quoted text rest, fun optional unclosed => ?_⟩
  cases optional <;> rfl

/-- A word is a text of the value that it stands for. -/
theorem isText_word {word : List Char} (printable : ∀ c ∈ word, 32 ≤ c.toNat) (run : word.all isWordChar = true)
    (scalar : scalar? word = some value) (nonempty : word ≠ []) : IsText (String.ofList word) value := by
  refine ⟨by rwa [String.toList_ofList], [.scalar value], ?_, fun optional unclosed => ?_⟩
  · rw [String.toList_ofList]
    exact lexes_word word run scalar nonempty
  · cases optional <;> rfl

/-- The words that are no numbers are texts of their values. -/
theorem isText_of_mem_words (member : (text, value) ∈ words) : IsText text value := by
  have plain : ∀ entry ∈ words, (entry.1.toList.all fun c => decide (32 ≤ c.toNat)) = true ∧
      entry.1.toList.all isWordChar = true ∧ entry.1.toList ≠ [] := by decide
  have known : scalar? text.toList = some value := by
    simp only [words, List.mem_cons, Prod.mk.injEq, List.not_mem_nil, or_false] at member
    rcases member with ⟨rfl, rfl⟩ | ⟨rfl, rfl⟩ | ⟨rfl, rfl⟩ <;> rfl
  obtain ⟨printable, run, nonempty⟩ := plain _ member
  have isText := isText_word (forall_mem_of_all printable) run known nonempty
  rwa [String.ofList_toList] at isText

end Texts

section Integers

/-- The digits of a natural number are a number without leading zeros. -/
theorem digits_naturalChars (m : Nat) : (naturalChars m).takeWhile isAsciiDigit = naturalChars m ∧
    (naturalChars m).dropWhile isAsciiDigit = [] ∧
    ¬(naturalChars m = [] ∨ ((naturalChars m).head? = some '0' ∧ naturalChars m ≠ ['0'])) := by
  have numeral := Yaml.isNumeral_naturalChars m
  refine ⟨List.takeWhile_eq_self_iff.mpr numeral.digits, List.dropWhile_eq_nil_iff.mpr numeral.digits, ?_⟩
  rw [not_or, not_and_not_right]
  exact ⟨numeral.nonempty, fun zero => numeral.leading.resolve_right fun other => other zero⟩

/-- The text of an integer is a number, -/
theorem number?_integerChars (n : Int) : number? (integerChars n) = some (.int n) := by
  obtain ⟨taken, dropped, plain⟩ := digits_naturalChars n.natAbs
  have value := digitsValue_naturalChars n.natAbs
  rw [integerChars]
  by_cases negative : n < 0
  · have signed : -(n.natAbs : Int) = n := by omega
    rw [if_pos negative, number?, List.head?_cons, if_pos rfl, List.tail_cons]
    simp only [taken, dropped, plain, if_false, if_true, value, signed]
  · have unsigned : (naturalChars n.natAbs).head? ≠ some '-' := by
      intro minus
      have digit := isAsciiDigit_of_mem_naturalChars n.natAbs '-' (List.mem_of_head? minus)
      exact absurd digit (by decide)
    have natural : (n.natAbs : Int) = n := by omega
    rw [if_neg negative, number?, if_neg unsigned]
    simp only [taken, dropped, plain, if_false, if_true, value, unsigned, natural]

/-- and none of the other words. -/
theorem scalar?_integerChars (n : Int) : scalar? (integerChars n) = some (.int n) := by
  have first : ∃ c, (integerChars n).head? = some c ∧ (c == '-' || isAsciiDigit c) = true := by
    rw [integerChars]
    by_cases negative : n < 0
    · rw [if_pos negative]
      exact ⟨'-', rfl, rfl⟩
    · obtain ⟨c, others, shape⟩ := List.exists_cons_of_ne_nil (naturalChars_ne_nil n.natAbs)
      have digit := isAsciiDigit_of_mem_naturalChars n.natAbs c (by rw [shape]; exact List.mem_cons_self)
      rw [if_neg negative, shape]
      exact ⟨c, rfl, by rw [digit, Bool.or_true]⟩
  have letters : ∀ entry ∈ words,
      (entry.1.toList.head?.map fun c => c == '-' || isAsciiDigit c) = some false := by decide
  have unknown : words.lookup (String.ofList (integerChars n)) = none := by
    rw [List.lookup_eq_none_iff]
    intro entry member
    rw [bne_iff_ne]
    intro same
    obtain ⟨c, found, isStart⟩ := first
    have letter := letters entry member
    rw [← same, String.toList_ofList, found, Option.map_some, isStart] at letter
    cases letter
  rw [scalar?, unknown, Option.none_or, number?_integerChars]

/-- So it is a text of the integer. -/
theorem isText_integerText (n : Int) : IsText (integerText n) (.int n) := by
  have digits : ∀ c ∈ naturalChars n.natAbs, 32 ≤ c.toNat ∧ isWordChar c = true :=
    (Yaml.isNumeral_naturalChars n.natAbs).all (by decide)
  have each : ∀ c ∈ integerChars n, 32 ≤ c.toNat ∧ isWordChar c = true := by
    rw [integerChars]
    by_cases negative : n < 0
    · rw [if_pos negative, List.forall_mem_cons]
      exact ⟨by decide, digits⟩
    · rwa [if_neg negative]
  refine isText_word (fun c present => (each c present).1)
    (List.all_eq_true.mpr fun c present => (each c present).2) (scalar?_integerChars n) ?_
  rw [integerChars]
  split
  · exact List.cons_ne_nil _ _
  · exact naturalChars_ne_nil _

end Integers

section Collections

/-- No control stands in two texts one behind the other when none stands in either. -/
theorem printable_append {first second : String} : (∀ c ∈ (first ++ second).toList, 32 ≤ c.toNat) ↔
    (∀ c ∈ first.toList, 32 ≤ c.toNat) ∧ ∀ c ∈ second.toList, 32 ≤ c.toNat := by
  rw [String.toList_append, List.forall_mem_append]

/-- Commas between texts are no controls. -/
theorem printable_separated {texts : List String} (each : ∀ text ∈ texts, ∀ c ∈ text.toList, 32 ≤ c.toNat) :
    ∀ c ∈ (",".intercalate texts).toList, 32 ≤ c.toNat := by
  induction texts with
  | nil => exact nofun
  | cons text rest inductionHypothesis =>
    rw [List.forall_mem_cons] at each
    cases rest with
    | nil =>
      rw [String.intercalate_singleton]
      exact each.1
    | cons next others =>
      rw [String.intercalate_cons_cons, printable_append, printable_append]
      exact ⟨⟨each.1, forall_mem_of_all (by decide)⟩, inductionHypothesis each.2⟩

/-- What is read piece by piece between two marks is a text of a value, when the pieces are taken in as the value
between the two marks. -/
theorem isText_between {α : Type} {P : List Token → α → Prop} {texts : List String} {values : List α}
    {first last : Token} {value : Value} (opening closing : Char)
    (printable : ∀ text ∈ texts, ∀ c ∈ text.toList, 32 ≤ c.toNat)
    (each : List.Forall₂ (fun text value => ∃ tokens, Lexes text.toList tokens ∧ P tokens value) texts values)
    (isOpening : marks.lookup opening = some first) (isClosing : marks.lookup closing = some last)
    (parses : ∀ parts, List.Forall₂ P parts values → Parses (first :: [.comma].intercalate parts ++ [last]) value) :
    IsText (String.singleton opening ++ ",".intercalate texts ++ String.singleton closing) value := by
  obtain ⟨parts, lexes, own⟩ := exists_parts each
  have mark {c : Char} {token : Token} (isMark : marks.lookup c = some token) :
      ∀ other ∈ (String.singleton c).toList, 32 ≤ other.toNat := by
    rw [String.toList_singleton, List.forall_mem_singleton]
    exact (of_lookup_marks isMark).2.2
  have whole : (String.singleton opening ++ ",".intercalate texts ++ String.singleton closing).toList =
      opening :: [','].intercalate (texts.map String.toList) ++ [closing] := by
    rw [String.toList_append, String.toList_append, String.toList_intercalate, String.toList_singleton,
      String.toList_singleton]
    rfl
  refine ⟨?_, _, ?_, parses parts own⟩
  · rw [printable_append, printable_append]
    exact ⟨⟨mark isOpening, printable_separated printable⟩, mark isClosing⟩
  · rw [whole]
    exact (lexes_separated lexes).between isOpening isClosing

/-- Texts of values between brackets, with commas between them, are a text of their list. -/
theorem isText_list {texts : List String} {values : List Value} (each : List.Forall₂ IsText texts values) :
    IsText ("[" ++ ",".intercalate texts ++ "]") (.list values) := by
  refine isText_between '[' ']' (fun text member => ?_)
    (each.imp fun _ _ isText => isText.read) rfl rfl fun _ parses => parses_list parses
  obtain ⟨_, _, isText⟩ := exists_of_forall₂ each.flip member
  exact isText.printable

/-- A text of an entry: its key as a text, and a text of its value behind a colon. -/
def IsEntryText (text : String) (entry : String × Value) : Prop :=
  ∃ own, text = quoted entry.1 ++ ":" ++ own ∧ IsText own entry.2

theorem IsEntryText.printable {text : String} {entry : String × Value} (isText : IsEntryText text entry) :
    ∀ c ∈ text.toList, 32 ≤ c.toNat := by
  obtain ⟨own, rfl, isText⟩ := isText
  rw [printable_append, printable_append]
  exact ⟨⟨printable_quoted entry.1, forall_mem_of_all (by decide)⟩, isText.printable⟩

theorem IsEntryText.read {text : String} {entry : String × Value} (isText : IsEntryText text entry) :
    ∃ tokens, Lexes text.toList tokens ∧ ParsesEntry tokens entry := by
  obtain ⟨own, rfl, isText⟩ := isText
  obtain ⟨tokens, lexes, parses⟩ := isText.read
  refine ⟨.text entry.1 :: .colon :: tokens, fun rest delimited => ?_, tokens, rfl, parses⟩
  have shape : (quoted entry.1 ++ ":" ++ own).toList ++ rest =
      (quoted entry.1).toList ++ ':' :: (own.toList ++ rest) := by
    simp only [String.toList_append, List.append_assoc]
    rfl
  rw [shape, tokens?_quoted, tokens?_mark rfl, lexes rest delimited]
  cases tokens? 0 rest <;> rfl

/-- Texts of entries between braces, with commas between them, are a text of their object when the keys differ. -/
theorem isText_map {texts : List String} {entries : Entries} (each : List.Forall₂ IsEntryText texts entries)
    (distinct : (entries.map Prod.fst).Nodup) :
    IsText ("\x7b" ++ ",".intercalate texts ++ "\x7d") (.map (keyed entries)) := by
  refine isText_between '\x7b' '\x7d' (fun text member => ?_)
    (each.imp fun _ _ isText => isText.read) rfl rfl fun _ parses => parses_map parses distinct
  obtain ⟨_, _, isText⟩ := exists_of_forall₂ each.flip member
  exact IsEntryText.printable isText

/-- A space may stand in front of what is read. -/
theorem Lexes.spaced {cs : List Char} {tokens : List Token} (lexes : Lexes cs tokens) : Lexes (' ' :: cs) tokens := by
  intro rest delimited
  rw [List.cons_append, tokens?, if_pos (by decide), lexes rest delimited]

theorem IsText.spaced {text : String} {value : Value} (isText : IsText text value) : IsText (" " ++ text) value := by
  obtain ⟨tokens, lexes, parses⟩ := isText.read
  refine ⟨printable_append.mpr ⟨forall_mem_of_all (by decide), isText.printable⟩, tokens, ?_, parses⟩
  rw [String.toList_append]
  exact lexes.spaced

/-- What is in front of the first text is in front of all of them. -/
theorem intercalate_append_cons (separator front text : String) (rest : List String) :
    separator.intercalate ((front ++ text) :: rest) = front ++ separator.intercalate (text :: rest) := by
  cases rest with
  | nil => rw [String.intercalate_singleton, String.intercalate_singleton]
  | cons next others =>
    rw [String.intercalate_cons_cons, String.intercalate_cons_cons]
    simp only [String.append_assoc]

/-- A space behind each comma is a space in front of each text but the first. -/
theorem intercalate_spaced (first : String) (rest : List String) :
    ", ".intercalate (first :: rest) = ",".intercalate (first :: rest.map (" " ++ ·)) := by
  induction rest generalizing first with
  | nil => rfl
  | cons next others inductionHypothesis =>
    have comma : ", " = "," ++ " " := rfl
    rw [String.intercalate_cons_cons, inductionHypothesis, List.map_cons, String.intercalate_cons_cons,
      intercalate_append_cons, comma]
    simp only [String.append_assoc]

/-- Texts of entries are a text of their object with spaces behind the commas as well. -/
theorem isText_spacedMap {texts : List String} {entries : Entries} (each : List.Forall₂ IsEntryText texts entries)
    (distinct : (entries.map Prod.fst).Nodup) :
    IsText ("\x7b" ++ ", ".intercalate texts ++ "\x7d") (.map (keyed entries)) := by
  cases each with
  | nil => exact isText_map .nil List.nodup_nil
  | @cons first entry texts entries own others =>
    rw [intercalate_spaced]
    refine isText_between '\x7b' '\x7d' (fun text member => ?_) (.cons own.read ?_) rfl rfl
      fun _ parses => parses_map parses distinct
    · rcases List.mem_cons.mp member with rfl | later
      · exact own.printable
      · obtain ⟨inner, inside, rfl⟩ := List.mem_map.mp later
        obtain ⟨_, _, isText⟩ := exists_of_forall₂ others.flip inside
        exact printable_append.mpr ⟨forall_mem_of_all (by decide), IsEntryText.printable isText⟩
    · rw [List.forall₂_map_left_iff]
      refine others.imp fun text entry isText => ?_
      obtain ⟨tokens, lexes, parses⟩ := isText.read
      refine ⟨tokens, ?_, parses⟩
      rw [String.toList_append]
      exact lexes.spaced

end Collections

section Encoding

/-- A list is written when its items are. -/
theorem encodes_list {items values : List Value} (each : List.Forall₂ Encodes items values) :
    Encodes (.list items) (.list values) := by
  obtain ⟨texts, encoded, isTexts⟩ : ∃ texts, encodeItems items = .ok texts ∧ List.Forall₂ IsText texts values := by
    induction each with
    | nil => exact ⟨[], rfl, .nil⟩
    | cons first _ inductionHypothesis =>
      obtain ⟨text, encoded, isText⟩ := first
      obtain ⟨texts, others, isTexts⟩ := inductionHypothesis
      exact ⟨text :: texts, by rw [encodeItems, encoded, others]; rfl, .cons isText isTexts⟩
  exact ⟨_, by rw [encode, encoded]; rfl, isText_list isTexts⟩

/-- An object is written when its keys are different texts and its values are written. -/
theorem encodes_map {entries values : Entries}
    (each : List.Forall₂ (fun entry value => entry.1 = value.1 ∧ Encodes entry.2 value.2) entries values)
    (distinct : (values.map Prod.fst).Nodup) : Encodes (.map (keyed entries)) (.map (keyed values)) := by
  obtain ⟨texts, encoded, isTexts⟩ :
      ∃ texts, encodeEntries (keyed entries) = .ok texts ∧ List.Forall₂ IsEntryText texts values := by
    clear distinct
    induction each with
    | nil => exact ⟨[], rfl, .nil⟩
    | @cons entry value entries values first _ inductionHypothesis =>
      obtain ⟨same, text, encoded, isText⟩ := first
      obtain ⟨texts, others, isTexts⟩ := inductionHypothesis
      rw [keyed] at others
      refine ⟨_ :: texts, ?_, .cons ⟨text, rfl, isText⟩ isTexts⟩
      rw [keyed, List.map_cons, encodeEntries, keyText, encoded, others, same]
      rfl
  exact ⟨_, by rw [encode, encoded]; rfl, isText_map isTexts distinct⟩

end Encoding

end TypedSheets.Json
