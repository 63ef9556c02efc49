import TypedSheets.Coercion
import TypedSheets.Proofs.Number.IntegerNotation
import TypedSheets.Proofs.Outcomes

/-!
# What cells denote

The text of a cell denotes a value in its field: a text field takes it as it is, a label stands for the integer
of its member, and a number or a truth value is written without regard to the blanks around it. A text that
denotes nothing is refused, for being blank, for being no label, or for what is wrong with it as a number or
a truth value. The main statements are `coerceValue_eq_ok_iff` and `isRefused_of_coerceValue`.
-/

namespace TypedSheets

open TypedSheets.Number TypedSheets.Schema TypedSheets.Text

/-- A type of integers holds an integer. -/
def Schema.Primitive.Holds : Primitive → Int → Prop
  | .int, n => -2 ^ 31 ≤ n ∧ n < 2 ^ 31
  | .uint, n => 0 ≤ n ∧ n < 2 ^ 32
  | .long, n => -2 ^ 63 ≤ n ∧ n < 2 ^ 63
  | .ulong, n => 0 ≤ n ∧ n < 2 ^ 64
  | .short, n => -2 ^ 15 ≤ n ∧ n < 2 ^ 15
  | .ushort, n => 0 ≤ n ∧ n < 2 ^ 16
  | .byte, n => 0 ≤ n ∧ n < 2 ^ 8
  | .sbyte, n => -2 ^ 7 ≤ n ∧ n < 2 ^ 7
  | _, _ => False

/-- The words of truth values. -/
def truthWords : List (String × Bool) := [("true", true), ("1", true), ("false", false), ("0", false)]

/-- A text is a word in small letters, in capitals, or in both. -/
def IsSpelling (text word : String) : Prop :=
  List.Forall₂ (fun c letter => c = letter ∨ c = letter.toUpper) text.toList word.toList

/-- The types that take a text as it is. -/
def textTypes : List Primitive := [.string, .str]

/-- The types of floating point numbers. -/
def floatTypes : List Primitive := [.float, .double, .decimal]

/-- The types of integers. -/
def integerTypes : List Primitive := [.int, .uint, .long, .ulong, .short, .ushort, .byte, .sbyte]

/-- A field has a primitive type. -/
structure HasPrimitive (f : Field) (p : Primitive) : Prop where
  plain : f.enumeration = none
  declared : p.name = f.declaredType

/-- The value that the text of a cell denotes in a field. Of members with one name the first one counts. -/
inductive Denotes (f : Field) (raw : String) : Value → Prop where
  | text {p : Primitive} (primitive : HasPrimitive f p) (isText : p ∈ textTypes) : Denotes f raw (.text raw)
  | label {e : Enumeration} {m : EnumMember} {before after : List EnumMember} (enumeration : f.enumeration = some e)
      (filled : trim raw ≠ "") (members : e.members = before ++ m :: after) (named : m.name = trim raw)
      (first : ∀ other ∈ before, other.name ≠ trim raw) : Denotes f raw (.int m.value)
  | integer {p : Primitive} {n : Int} (primitive : HasPrimitive f p) (number : IsDecimal (trim raw).toList n)
      (holds : p.Holds n) : Denotes f raw (.int n)
  | floating {p : Primitive} {x : Double} (primitive : HasPrimitive f p) (isFloat : p ∈ floatTypes)
      (read : readDouble (trim raw) = .ok x) (finite : x.isFinite = true) : Denotes f raw (.float x)
  | truth {word : String} {yes : Bool} (primitive : HasPrimitive f .bool) (isWord : (word, yes) ∈ truthWords)
      (spelled : IsSpelling (trim raw) word) : Denotes f raw (.bool yes)

/-- What is wrong with a text that is no value of a primitive type. -/
inductive Misreads (p : Primitive) (text : String) : ReadError → Prop where
  | noInteger {cause : IntegerTextError} (isInteger : p ∈ integerTypes) (none : ∀ n, ¬IsDecimal text.toList n) :
      Misreads p text (.integer cause)
  | below {n bound : Int} (isInteger : p ∈ integerTypes) (number : IsDecimal text.toList n) (bounds : p.Holds bound)
      (less : n < bound) (outside : ¬p.Holds n) : Misreads p text (.below n bound)
  | above {n bound : Int} (isInteger : p ∈ integerTypes) (number : IsDecimal text.toList n) (bounds : p.Holds bound)
      (greater : bound < n) (outside : ¬p.Holds n) : Misreads p text (.above n bound)
  | noDouble {cause : DoubleTextError} (isFloat : p ∈ floatTypes) (failed : readDouble text = .error cause) :
      Misreads p text (.double cause)
  | infinite {x : Double} (isFloat : p ∈ floatTypes) (read : readDouble text = .ok x)
      (infinite : x.isFinite = false) : Misreads p text (.notFinite text)
  | noWord (isTruth : p = .bool) (none : ∀ word yes, (word, yes) ∈ truthWords → ¬IsSpelling text word) :
      Misreads p text (.truth text)

/-- Why the text of a cell denotes nothing in a field. -/
inductive IsRefused (f : Field) (raw : String) : CoercionCause → Prop where
  | blank (noText : ∀ p ∈ textTypes, ¬HasPrimitive f p) (blank : trim raw = "") :
      IsRefused f raw (.missing f.declaredType f.name)
  | label {e : Enumeration} (enumeration : f.enumeration = some e) (filled : trim raw ≠ "")
      (unknown : ∀ m ∈ e.members, m.name ≠ trim raw) : IsRefused f raw (.notMember (trim raw) e.name e.labels)
  | unreadable {p : Primitive} {cause : ReadError} (primitive : HasPrimitive f p) (filled : trim raw ≠ "")
      (misreads : Misreads p (trim raw) cause) :
      IsRefused f raw (.unreadable (trim raw) f.declaredType f.name cause)

section Texts

variable {text word : String} {n lo hi : Int} {x : Double} {yes : Bool}

/-- A text that is trimmed. -/
theorem isTrimmed_trim (raw : String) : IsTrimmed (trim raw).toList := by
  rw [trim, String.toList_ofList]
  exact (surrounds_trimChars raw.toList).trimmed

theorem trim_eq_self (trimmed : IsTrimmed text.toList) : trim text = text := by
  rw [trim, trimmed.trimChars_eq, String.ofList_toList]

/-- Integers within bounds are read as decimal notation, -/
theorem readBounded_eq_ok_iff (trimmed : IsTrimmed text.toList) :
    readBounded lo hi text = .ok n ↔ IsDecimal text.toList n ∧ lo ≤ n ∧ n ≤ hi := by
  unfold readBounded
  rw [trim_eq_self trimmed, ← readInteger_decimal trimmed, String.ofList_toList]
  cases read : readInteger 10 text with
  | error cause => simp
  | ok number =>
    dsimp only
    split_ifs with below above
    · simp only [Except.ok.injEq, false_iff]
      rintro ⟨rfl, within⟩
      omega
    · simp only [Except.ok.injEq, false_iff]
      rintro ⟨rfl, within⟩
      omega
    · simp only [Except.ok.injEq, iff_self_and]
      rintro rfl
      omega

/-- and finite numbers as numbers. -/
theorem readFinite_eq_ok_iff (trimmed : IsTrimmed text.toList) :
    readFinite text = .ok x ↔ readDouble text = .ok x ∧ x.isFinite = true := by
  unfold readFinite
  rw [trim_eq_self trimmed]
  cases read : readDouble text with
  | error cause => simp
  | ok number =>
    by_cases finite : number.isFinite = true
    · simp only [finite, if_true, Except.ok.injEq, iff_self_and]
      rintro rfl
      exact finite
    · simp only [finite, if_false, Except.ok.injEq, reduceCtorEq, false_iff]
      rintro ⟨rfl, isFinite⟩
      exact finite isFinite

/-- A character has the small form of a letter when it is the letter or its capital. -/
theorem lowerAscii_eq_iff {c letter : Char} (isLetter : letter ∈ "truefalse10".toList) :
    lowerAscii c = letter ↔ c = letter ∨ c = letter.toUpper := by
  have forms : ∀ letter ∈ "truefalse10".toList, lowerAscii letter = letter ∧ lowerAscii letter.toUpper = letter :=
    forall_mem_of_all (by decide)
  have capitals : ∀ letter ∈ "truefalse10".toList, ∀ code < 91, 65 ≤ code →
      Char.ofNat (code + 32) = letter → Char.ofNat code = letter.toUpper := forall_mem_of_all (by decide)
  constructor
  · intro lowered
    unfold lowerAscii at lowered
    split at lowered
    · next capital =>
      have within : 65 ≤ c.toNat ∧ c.toNat ≤ 90 := capital
      have upper := capitals letter isLetter c.toNat (by omega) within.1 lowered
      rw [Char.ofNat_toNat] at upper
      exact .inr upper
    · exact .inl lowered
  · rintro (rfl | rfl)
    · exact (forms _ isLetter).1
    · exact (forms _ isLetter).2

/-- So a text has the small form of a word when it is a spelling of it. -/
theorem map_lowerAscii_eq_iff {cs letters : List Char} (each : ∀ letter ∈ letters, letter ∈ "truefalse10".toList) :
    cs.map lowerAscii = letters ↔ List.Forall₂ (fun c letter => c = letter ∨ c = letter.toUpper) cs letters := by
  induction letters generalizing cs with
  | nil => simp
  | cons letter rest inductionHypothesis =>
    rw [List.forall_mem_cons] at each
    cases cs with
    | nil => simp
    | cons c others =>
      rw [List.map_cons, List.cons.injEq, List.forall₂_cons, lowerAscii_eq_iff each.1, inductionHypothesis each.2]

/-- Truth values are read as spellings of their words. -/
theorem readTruth_eq_ok_iff (trimmed : IsTrimmed text.toList) :
    readTruth text = .ok yes ↔ ∃ word, (word, yes) ∈ truthWords ∧ IsSpelling text word := by
  have spelled : ∀ word ∈ truthWords.map Prod.fst,
      (IsSpelling text word ↔ String.ofList (text.toList.map lowerAscii) = word) := by
    intro word isWord
    have letters : ∀ word ∈ truthWords.map Prod.fst, word.toList ⊆ "truefalse10".toList := by decide
    rw [IsSpelling, ← map_lowerAscii_eq_iff fun letter inside => letters word isWord inside, ← String.toList_inj,
      String.toList_ofList]
  have words : (∃ word, (word, yes) ∈ truthWords ∧ IsSpelling text word) ↔
      (String.ofList (text.toList.map lowerAscii), yes) ∈ truthWords := by
    constructor
    · rintro ⟨word, isWord, own⟩
      rwa [(spelled word (List.mem_map_of_mem isWord)).mp own]
    · intro isWord
      exact ⟨_, isWord, (spelled _ (List.mem_map_of_mem isWord)).mpr rfl⟩
  rw [words, readTruth, trimmed.trimChars_eq]
  generalize String.ofList (text.toList.map lowerAscii) = word
  split_ifs with isTrue isFalse
  · rcases isTrue with rfl | rfl <;> cases yes <;> decide
  · rcases isFalse with rfl | rfl <;> cases yes <;> decide
  · rw [not_or] at isTrue isFalse
    cases yes <;> simp [truthWords, isTrue, isFalse]

end Texts

section Primitives

variable {p q : Primitive} {f : Field} {raw text : String} {value : Value} {cause : ReadError}

/-- A type is found under its name alone. -/
theorem ofName?_eq_some_iff {declared : String} : Primitive.ofName? declared = some p ↔ p.name = declared := by
  constructor
  · intro found
    simpa using List.find?_some found
  · rintro rfl
    cases p <;> rfl

theorem HasPrimitive.unique (primitive : HasPrimitive f p) (other : HasPrimitive f q) : p = q := by
  have found := ofName?_eq_some_iff.mpr primitive.declared
  rw [ofName?_eq_some_iff.mpr other.declared] at found
  exact (Option.some.inj found).symm

/-- The four families of types. -/
theorem primitive_cases (p : Primitive) : p ∈ textTypes ∨ p ∈ integerTypes ∨ p ∈ floatTypes ∨ p = .bool := by
  cases p <;> decide

/-- The integers of a type are those between its bounds. -/
theorem exists_bounds (isInteger : p ∈ integerTypes) : ∃ lo hi, p.range? = some (lo, hi) ∧ p.Holds lo ∧ p.Holds hi ∧
    ∀ n, p.Holds n ↔ lo ≤ n ∧ n ≤ hi := by
  have power (k : Nat) : Int.pow 2 k = 2 ^ k := rfl
  simp only [integerTypes, List.mem_cons, List.not_mem_nil, or_false] at isInteger
  rcases isInteger with rfl | rfl | rfl | rfl | rfl | rfl | rfl | rfl
  all_goals
    refine ⟨_, _, rfl, ?_⟩
    simp only [Primitive.Holds, power]
    exact ⟨by omega, by omega, fun n => by omega⟩

/-- No other type has integers. -/
theorem Schema.Primitive.Holds.isInteger {n : Int} (holds : p.Holds n) : p ∈ integerTypes := by
  cases p with
  | int | uint | long | ulong | short | ushort | byte | sbyte => decide
  | float | double | decimal | bool | string | str => cases holds

theorem read_integer {lo hi : Int} (range : p.range? = some (lo, hi)) (text : String) :
    p.read text = (readBounded lo hi text).map .int := by
  rw [Primitive.read, range]

theorem read_float (isFloat : p ∈ floatTypes) (text : String) : p.read text = (readFinite text).map .float := by
  simp only [floatTypes, List.mem_cons, List.not_mem_nil, or_false] at isFloat
  rcases isFloat with rfl | rfl | rfl <;> rfl

theorem read_bool (text : String) : Primitive.bool.read text = (readTruth text).map .bool := rfl

/-- A type of integers, floating point numbers or truth values reads what a text denotes in a field of it. -/
theorem denotes_iff_read (primitive : HasPrimitive f p) (noText : p ∉ textTypes) :
    Denotes f raw value ↔ p.read (trim raw) = .ok value := by
  have trimmed := isTrimmed_trim raw
  constructor
  · intro denotes
    cases denotes with
    | text other isText => exact absurd (primitive.unique other ▸ isText) noText
    | label enumeration =>
      rw [primitive.plain] at enumeration
      cases enumeration
    | integer other number holds =>
      obtain rfl := primitive.unique other
      obtain ⟨lo, hi, range, -, -, within⟩ := exists_bounds holds.isInteger
      rw [read_integer range, (readBounded_eq_ok_iff trimmed).mpr ⟨number, (within _).mp holds⟩]
      rfl
    | floating other isFloat read finite =>
      obtain rfl := primitive.unique other
      rw [read_float isFloat, (readFinite_eq_ok_iff trimmed).mpr ⟨read, finite⟩]
      rfl
    | truth other isWord spelled =>
      obtain rfl := primitive.unique other
      rw [read_bool, (readTruth_eq_ok_iff trimmed).mpr ⟨_, isWord, spelled⟩]
      rfl
  · intro read
    rcases primitive_cases p with isText | isInteger | isFloat | rfl
    · exact absurd isText noText
    · obtain ⟨lo, hi, range, -, -, holds⟩ := exists_bounds isInteger
      rw [read_integer range, map_eq_ok] at read
      obtain ⟨n, bounded, rfl⟩ := read
      obtain ⟨number, within⟩ := (readBounded_eq_ok_iff trimmed).mp bounded
      exact .integer primitive number ((holds n).mpr within)
    · rw [read_float isFloat, map_eq_ok] at read
      obtain ⟨x, finite, rfl⟩ := read
      obtain ⟨own, isFinite⟩ := (readFinite_eq_ok_iff trimmed).mp finite
      exact .floating primitive isFloat own isFinite
    · rw [read_bool, map_eq_ok] at read
      obtain ⟨yes, truth, rfl⟩ := read
      obtain ⟨word, isWord, spelled⟩ := (readTruth_eq_ok_iff trimmed).mp truth
      exact .truth primitive isWord spelled

/-- What is not read within the bounds of a type is no notation of an integer, or one that the type does not
hold. -/
theorem misreads_of_readBounded {lo hi : Int} (isInteger : p ∈ integerTypes) (range : p.range? = some (lo, hi))
    (trimmed : IsTrimmed text.toList) (failed : readBounded lo hi text = .error cause) : Misreads p text cause := by
  obtain ⟨low, high, same, least, greatest, holds⟩ := exists_bounds isInteger
  rw [range] at same
  cases same
  have outside {n : Int} (beyond : n < lo ∨ hi < n) : ¬p.Holds n := by
    rw [holds]
    omega
  unfold readBounded at failed
  rw [trim_eq_self trimmed] at failed
  have numbers (n : Int) := readInteger_decimal (n := n) trimmed
  simp only [String.ofList_toList] at numbers
  cases read : readInteger 10 text with
  | error own =>
    rw [read] at failed
    cases failed
    refine .noInteger isInteger fun n number => ?_
    rw [← numbers, read] at number
    cases number
  | ok n =>
    have number := (numbers n).mp read
    rw [read] at failed
    dsimp only at failed
    split_ifs at failed with below above
    · cases failed
      exact .below isInteger number least below (outside (.inl below))
    · cases failed
      exact .above isInteger number greatest above (outside (.inr above))

/-- What is not read as a finite number is no notation of a number, or not finite. -/
theorem misreads_of_readFinite (isFloat : p ∈ floatTypes) (trimmed : IsTrimmed text.toList)
    (failed : readFinite text = .error cause) : Misreads p text cause := by
  unfold readFinite at failed
  rw [trim_eq_self trimmed] at failed
  cases read : readDouble text with
  | error own =>
    rw [read] at failed
    cases failed
    exact .noDouble isFloat read
  | ok x =>
    rw [read] at failed
    dsimp only at failed
    split_ifs at failed with finite
    cases failed
    exact .infinite isFloat read (Bool.eq_false_iff.mpr finite)

/-- What is not read as a truth value spells none of its words. -/
theorem misreads_of_readTruth (trimmed : IsTrimmed text.toList) (failed : readTruth text = .error cause) :
    Misreads .bool text cause := by
  have none : ∀ word yes, (word, yes) ∈ truthWords → ¬IsSpelling text word := by
    intro word yes isWord spelled
    have read := (readTruth_eq_ok_iff trimmed).mpr ⟨word, isWord, spelled⟩
    rw [failed] at read
    cases read
  unfold readTruth at failed
  dsimp only at failed
  split_ifs at failed
  cases failed
  exact .noWord rfl none

/-- What does not read is no notation of the type, or an integer that the type does not hold, or a number that
is not finite. -/
theorem misreads_of_read (noText : p ∉ textTypes) (trimmed : IsTrimmed text.toList)
    (failed : p.read text = .error cause) : Misreads p text cause := by
  rcases primitive_cases p with isText | isInteger | isFloat | rfl
  · exact absurd isText noText
  · obtain ⟨lo, hi, range, -⟩ := exists_bounds isInteger
    rw [read_integer range, map_eq_error] at failed
    exact misreads_of_readBounded isInteger range trimmed failed
  · rw [read_float isFloat, map_eq_error] at failed
    exact misreads_of_readFinite isFloat trimmed failed
  · rw [read_bool, map_eq_error] at failed
    exact misreads_of_readTruth trimmed failed

end Primitives

section Cells

variable {schema sheet : String} {f : Field} {row : DataRow} {p : Primitive} {e : Enumeration} {value : Value}
  {cause : CoercionCause}

/-- The place of a cell. -/
def cellPlace (schema sheet : String) (row : DataRow) (f : Field) : Place :=
  { file := schema, sheet, row := row.number, column := f.column }

/-- Texts are taken where a field has a type of texts. -/
theorem takesText_iff : (f.enumeration.isNone && isTextType f.declaredType) = true ↔
    ∃ p ∈ textTypes, HasPrimitive f p := by
  rw [Bool.and_eq_true, Option.isNone_iff_eq_none, isTextType, Option.any_eq_true]
  constructor
  · rintro ⟨plain, p, found, isText⟩
    refine ⟨p, ?_, plain, ofName?_eq_some_iff.mp found⟩
    cases p <;> simp_all [Primitive.family, textTypes]
  · rintro ⟨p, isText, primitive⟩
    refine ⟨primitive.plain, p, ofName?_eq_some_iff.mpr primitive.declared, ?_⟩
    simp only [textTypes, List.mem_cons, List.not_mem_nil, or_false] at isText
    rcases isText with rfl | rfl <;> rfl

theorem coerceValue_text (primitive : HasPrimitive f p) (isText : p ∈ textTypes) :
    coerceValue schema sheet f row = .ok (.text (row.raw f.name)) := by
  exact if_pos (takesText_iff.mpr ⟨p, isText, primitive⟩)

section Others

variable (noText : ∀ p ∈ textTypes, ¬HasPrimitive f p)

include noText

/-- Elsewhere it is the trimmed text that counts. -/
theorem coerceValue_trimmed : coerceValue schema sheet f row =
    if trim (row.raw f.name) = "" then
      .error (.cell (.missing f.declaredType f.name) (cellPlace schema sheet row f))
    else match f.enumeration with
      | some e => match e.member? (trim (row.raw f.name)) with
        | some m => .ok (.int m.value)
        | none => .error (.cell (.notMember (trim (row.raw f.name)) e.name e.labels)
          (cellPlace schema sheet row f))
      | none => match Primitive.ofName? f.declaredType with
        | none => .error (.unknownType f.declaredType)
        | some p => match p.read (trim (row.raw f.name)) with
          | .ok value => .ok value
          | .error cause => .error (.cell (.unreadable (trim (row.raw f.name)) f.declaredType f.name cause)
            (cellPlace schema sheet row f)) :=
  if_neg (mt takesText_iff.mp fun ⟨p, isText, primitive⟩ => noText p isText primitive)

/-- It must not be blank, -/
theorem coerceValue_blank (blank : trim (row.raw f.name) = "") : coerceValue schema sheet f row =
    .error (.cell (.missing f.declaredType f.name) (cellPlace schema sheet row f)) := by
  rw [coerceValue_trimmed noText, if_pos blank]

/-- a label is looked for among the members, -/
theorem coerceValue_label (enumeration : f.enumeration = some e) (filled : trim (row.raw f.name) ≠ "") :
    coerceValue schema sheet f row = match e.member? (trim (row.raw f.name)) with
      | some m => .ok (.int m.value)
      | none => .error (.cell (.notMember (trim (row.raw f.name)) e.name e.labels)
        (cellPlace schema sheet row f)) := by
  rw [coerceValue_trimmed noText, if_neg filled, enumeration]

/-- and anything else is read by its type. -/
theorem coerceValue_primitive (primitive : HasPrimitive f p) (filled : trim (row.raw f.name) ≠ "") :
    coerceValue schema sheet f row = match p.read (trim (row.raw f.name)) with
      | .ok value => .ok value
      | .error cause => .error (.cell (.unreadable (trim (row.raw f.name)) f.declaredType f.name cause)
        (cellPlace schema sheet row f)) := by
  rw [coerceValue_trimmed noText, if_neg filled, primitive.plain, ofName?_eq_some_iff.mpr primitive.declared]

theorem coerceValue_unknown (plain : f.enumeration = none) (unknown : Primitive.ofName? f.declaredType = none)
    (filled : trim (row.raw f.name) ≠ "") :
    coerceValue schema sheet f row = .error (.unknownType f.declaredType) := by
  rw [coerceValue_trimmed noText, if_neg filled, plain, unknown]

end Others

/-- The member with a label is the first one with that name. -/
theorem member?_eq_some_iff {label : String} {m : EnumMember} : e.member? label = some m ↔
    m.name = label ∧ ∃ before after, e.members = before ++ m :: after ∧ ∀ other ∈ before, other.name ≠ label := by
  rw [Enumeration.member?, List.find?_eq_some_iff_append]
  simp

/-- In a field of texts a text denotes itself and nothing else. -/
theorem Denotes.eq_text {raw : String} (denotes : Denotes f raw value) (primitive : HasPrimitive f p)
    (isText : p ∈ textTypes) : value = .text raw := by
  have apart : ∀ p ∈ textTypes, p ∉ integerTypes ∧ p ∉ floatTypes ∧ p ≠ .bool := by decide
  obtain ⟨noInteger, noFloat, noTruth⟩ := apart p isText
  cases denotes with
  | text _ _ => rfl
  | label enumeration =>
    rw [primitive.plain] at enumeration
    cases enumeration
  | integer other _ holds => exact absurd (primitive.unique other ▸ holds.isInteger) noInteger
  | floating other isFloat => exact absurd (primitive.unique other ▸ isFloat) noFloat
  | truth other => exact absurd (primitive.unique other) noTruth

/-- In a field with an enumeration a text denotes the integer of the member with that label. -/
theorem denotes_iff_member {raw : String} (enumeration : f.enumeration = some e) (filled : trim raw ≠ "") :
    Denotes f raw value ↔ ∃ m, e.member? (trim raw) = some m ∧ value = .int m.value := by
  have noType {p : Primitive} (primitive : HasPrimitive f p) : False := by
    rw [primitive.plain] at enumeration
    cases enumeration
  constructor
  · intro denotes
    cases denotes with
    | label own _ members named first =>
      rw [enumeration] at own
      cases own
      exact ⟨_, member?_eq_some_iff.mpr ⟨named, _, _, members, first⟩, rfl⟩
    | text primitive => exact (noType primitive).elim
    | integer primitive => exact (noType primitive).elim
    | floating primitive => exact (noType primitive).elim
    | truth primitive => exact (noType primitive).elim
  · rintro ⟨m, found, rfl⟩
    obtain ⟨named, before, after, members, first⟩ := member?_eq_some_iff.mp found
    exact .label enumeration filled members named first

/-- A text denotes nothing in a field without a type. -/
theorem Denotes.exists_primitive {raw : String} (denotes : Denotes f raw value) (plain : f.enumeration = none) :
    ∃ p, HasPrimitive f p := by
  cases denotes with
  | label enumeration =>
    rw [plain] at enumeration
    cases enumeration
  | text primitive => exact ⟨_, primitive⟩
  | integer primitive => exact ⟨_, primitive⟩
  | floating primitive => exact ⟨_, primitive⟩
  | truth primitive => exact ⟨_, primitive⟩

/-- What denotes a value is taken as it is, or is not blank. -/
theorem Denotes.filled {raw : String} (denotes : Denotes f raw value) :
    (∃ p ∈ textTypes, HasPrimitive f p) ∨ trim raw ≠ "" := by
  cases denotes with
  | text primitive isText => exact .inl ⟨_, isText, primitive⟩
  | label _ filled => exact .inr filled
  | integer _ number =>
    refine .inr fun blank => number.trimmed.2 ?_
    rw [blank]
    rfl
  | floating _ _ read =>
    refine .inr fun blank => ?_
    rw [blank] at read
    cases read
  | truth _ isWord spelled =>
    refine .inr fun blank => ?_
    rw [blank] at spelled
    have empty := (List.forall₂_nil_left_iff.mp spelled)
    have words : ∀ entry ∈ truthWords, entry.1.toList ≠ [] := by decide
    exact words _ isWord empty

/-- A cell is coerced to the value that it denotes. -/
theorem coerceValue_eq_ok_iff :
    coerceValue schema sheet f row = .ok value ↔ Denotes f (row.raw f.name) value := by
  by_cases text : ∃ p ∈ textTypes, HasPrimitive f p
  · obtain ⟨p, isText, primitive⟩ := text
    rw [coerceValue_text primitive isText]
    constructor
    · rintro ⟨⟩
      exact .text primitive isText
    · intro denotes
      rw [denotes.eq_text primitive isText]
  · have noText : ∀ p ∈ textTypes, ¬HasPrimitive f p := fun p isText primitive => text ⟨p, isText, primitive⟩
    by_cases blank : trim (row.raw f.name) = ""
    · rw [coerceValue_blank noText blank]
      refine iff_of_false (by rintro ⟨⟩) fun denotes => ?_
      exact denotes.filled.elim text (absurd blank)
    · cases enumeration : f.enumeration with
      | some e =>
        rw [coerceValue_label noText enumeration blank, denotes_iff_member enumeration blank]
        cases e.member? (trim (row.raw f.name)) <;> simp [eq_comm]
      | none =>
        cases found : Primitive.ofName? f.declaredType with
        | none =>
          rw [coerceValue_unknown noText enumeration found blank]
          refine iff_of_false (by rintro ⟨⟩) fun denotes => ?_
          obtain ⟨p, primitive⟩ := denotes.exists_primitive enumeration
          rw [ofName?_eq_some_iff.mpr primitive.declared] at found
          cases found
        | some p =>
          have primitive : HasPrimitive f p := ⟨enumeration, ofName?_eq_some_iff.mp found⟩
          rw [coerceValue_primitive noText primitive blank,
            denotes_iff_read primitive fun isText => noText p isText primitive]
          cases p.read (trim (row.raw f.name)) <;> simp

/-- A cell that is not coerced is refused at its place, and for what is wrong with it, when its field has an
enumeration or a type. -/
theorem isRefused_of_coerceValue (typed : f.enumeration = none → ∃ p, HasPrimitive f p) {error : CoercionError}
    (failed : coerceValue schema sheet f row = .error error) :
    ∃ cause, IsRefused f (row.raw f.name) cause ∧ error = .cell cause (cellPlace schema sheet row f) := by
  have noText : ∀ p ∈ textTypes, ¬HasPrimitive f p := by
    intro p isText primitive
    rw [coerceValue_text primitive isText] at failed
    cases failed
  by_cases blank : trim (row.raw f.name) = ""
  · rw [coerceValue_blank noText blank] at failed
    cases failed
    exact ⟨_, .blank noText blank, rfl⟩
  · cases enumeration : f.enumeration with
    | some e =>
      rw [coerceValue_label noText enumeration blank] at failed
      cases found : e.member? (trim (row.raw f.name)) with
      | some m =>
        rw [found] at failed
        cases failed
      | none =>
        rw [found] at failed
        cases failed
        refine ⟨_, .label enumeration blank ?_, rfl⟩
        intro m member named
        exact List.find?_eq_none.mp found m member (by simpa using named)
    | none =>
      obtain ⟨p, primitive⟩ := typed enumeration
      rw [coerceValue_primitive noText primitive blank] at failed
      cases read : p.read (trim (row.raw f.name)) with
      | ok value =>
        rw [read] at failed
        cases failed
      | error cause =>
        rw [read] at failed
        cases failed
        have misreads := misreads_of_read (fun isText => noText p isText primitive) (isTrimmed_trim _) read
        exact ⟨_, .unreadable primitive blank misreads, rfl⟩

end Cells

end TypedSheets
