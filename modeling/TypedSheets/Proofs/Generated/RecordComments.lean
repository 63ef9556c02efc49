import TypedSheets.Proofs.Generated.EnumTexts
import TypedSheets.Proofs.Text.Cutting

/-!
# Comments in generated records

The comment of a field stands behind its declaration, on the same line. Whatever a comment says, each field
keeps a line of its own, and the lines cut off before their comments are those of the record without
comments. The main statement is `recordModule_commented`.
-/

namespace TypedSheets.Schema

/-- A field without its comment. -/
def Field.withoutComment (f : Field) : Field := { f with comment := "" }

/-- A description without comments. -/
def Description.withoutComments (d : Description) : Description :=
  { d with key := d.key.withoutComment, others := d.others.map Field.withoutComment }

theorem Description.fields_withoutComments (d : Description) :
    d.withoutComments.fields = d.fields.map Field.withoutComment := rfl

theorem Description.enumerations_withoutComments (d : Description) :
    d.withoutComments.enumerations = d.enumerations := by
  rw [enumerations, fields_withoutComments, List.filterMap_map]
  rfl

end TypedSheets.Schema

namespace TypedSheets.Emission

open TypedSheets.Grid TypedSheets.Schema TypedSheets.Text

/-- What stands between a declaration and its comment. -/
def commentMark : String := "  # "

/-- A field as a record declares it. -/
def declarationText (f : Field) : String :=
  "    " ++ f.name ++ ": " ++ annotation f ++ " = " ++ defaultText f

/-- One or more words without blanks, and a single space between any two neighbours. -/
def IsWorded (text : String) : Prop :=
  ∃ words : List String, words ≠ [] ∧ (∀ word ∈ words, word ≠ "" ∧ ∀ c ∈ word.toList, isBlank c = false) ∧
    text = " ".intercalate words

/-- A line of a record: a declaration, and a comment behind it if there is one. -/
inductive IsFieldLine (f : Field) : String → Prop where
  | bare : IsFieldLine f (declarationText f)
  | commented {comment : String} (worded : IsWorded comment) :
      IsFieldLine f (declarationText f ++ commentMark ++ comment)

/-- A line up to its comment. -/
def cutComment (line : String) : String := String.ofList (beforeFirst commentMark.toList line.toList)

/-- The text of a record module: the lines of the fields stand between the header of the class and the
method that gives the key. -/
def recordText (front sheet : String) (lines : List String) (back : String) : String :=
  front ++ "class " ++ recordName sheet ++ ":\n" ++ String.join (lines.map fun line => line ++ "\n") ++
    "\n    def get_key(self) -> " ++ back

section Words

variable {text : String}

/-- No word is empty. -/
theorem ne_nil_of_mem_wordsOf {current cs word : List Char} (member : word ∈ wordsOf current cs) : word ≠ [] := by
  induction cs generalizing current with
  | nil =>
    rw [wordsOf] at member
    split at member
    · cases member
    · next some =>
      rw [List.mem_singleton.mp member]
      simpa using some
  | cons c rest inductionHypothesis =>
    rw [wordsOf] at member
    split at member
    · split at member
      · exact inductionHypothesis member
      · next some =>
        rcases List.mem_cons.mp member with rfl | later
        · simpa using some
        · exact inductionHypothesis later
    · exact inductionHypothesis member

/-- Collapsing leaves words, unless there are none. -/
theorem isWorded_collapseBlanks (some : collapseBlanks text ≠ "") : IsWorded (collapseBlanks text) := by
  refine ⟨words text, ?_, ?_, rfl⟩
  · intro none
    apply some
    rw [collapseBlanks, none, String.intercalate_nil]
  · intro word member
    obtain ⟨cs, among, rfl⟩ := List.mem_map.mp member
    refine ⟨fun empty => ne_nil_of_mem_wordsOf among (String.ofList_eq_empty_iff.mp empty), fun c present => ?_⟩
    rw [String.toList_ofList] at present
    exact notBlank_of_mem_wordsOf (by simp) among present

/-- The blanks of such a text are its spaces. -/
theorem IsWorded.blank_eq (worded : IsWorded text) {c : Char} (present : c ∈ text.toList)
    (blank : isBlank c = true) : c = ' ' := by
  obtain ⟨words, -, each, rfl⟩ := worded
  induction words with
  | nil => simp at present
  | cons word rest inductionHypothesis =>
    rw [List.forall_mem_cons] at each
    have own (inside : c ∈ word.toList) : c = ' ' := by
      rw [each.1.2 c inside] at blank
      cases blank
    cases rest with
    | nil =>
      rw [String.intercalate_singleton] at present
      exact own present
    | cons next others =>
      rw [String.intercalate_cons_cons, String.toList_append, String.toList_append, List.mem_append,
        List.mem_append] at present
      rcases present with (inside | between) | later
      · exact own inside
      · exact List.mem_singleton.mp between
      · exact inductionHypothesis each.2 later

end Words

section Lines

variable {f : Field}

/-- A declaration has no blanks but spaces, and no mark of a comment. -/
theorem mem_declarationText (name : isIdentifier f.name = true)
    (enumeration : ∀ e, f.enumeration = some e → SpelledEnum e) {c : Char}
    (present : c ∈ (declarationText f).toList) : (isBlank c = true → c = ' ') ∧ c ≠ '#' := by
  have continuing {c : Char} (letter : isIdentifierContinue c = true) : (isBlank c = true → c = ' ') ∧ c ≠ '#' := by
    constructor
    · intro blank
      rw [isBlank_of_continue letter] at blank
      cases blank
    · rintro rfl
      cases letter
  have marks {text : String} (each : text.toList.all (fun c => c == ' ' || c == ':' || c == '=') = true)
      (inside : c ∈ text.toList) : (isBlank c = true → c = ' ') ∧ c ≠ '#' := by
    have mark := List.all_eq_true.mp each c inside
    simp only [Bool.or_eq_true, beq_iff_eq, or_assoc] at mark
    rcases mark with rfl | rfl | rfl
    all_goals decide
  simp only [declarationText, String.toList_append, List.mem_append] at present
  rcases present with ((((margin | inside) | colon) | type) | equals) | default
  · exact marks (by decide) margin
  · exact continuing (Yaml.continue_of_form (Bool.and_eq_true_iff.mp name).1 c inside)
  · exact marks (by decide) colon
  · exact continuing (annotation_continues enumeration type)
  · exact marks (by decide) equals
  · rcases continue_of_mem_defaultText enumeration default with letter | rfl | rfl
    · exact continuing letter
    · decide
    · decide

/-- The line of a field is its declaration with the words of its comment. -/
theorem isFieldLine_fieldText (f : Field) : IsFieldLine f ("    " ++ fieldText f) := by
  by_cases empty : collapseBlanks f.comment = ""
  · have line : "    " ++ fieldText f = declarationText f := by
      simp only [fieldText, declarationText, if_pos empty, String.append_assoc, String.append_empty]
    rw [line]
    exact .bare
  · have line : "    " ++ fieldText f = declarationText f ++ commentMark ++ collapseBlanks f.comment := by
      simp only [fieldText, declarationText, commentMark, if_neg empty, String.append_assoc]
    rw [line]
    exact .commented (isWorded_collapseBlanks empty)

example : fieldText { weaponDescription.key with comment := "first\r\n# \"second\"\x0c \x7bthird\x7d" } =
    "id: int = 0  # first # \"second\" \x7bthird\x7d" := by
  decide +kernel

theorem fieldText_withoutComment (f : Field) : "    " ++ fieldText f.withoutComment = declarationText f := by
  have empty : collapseBlanks f.withoutComment.comment = "" := rfl
  simp only [fieldText, declarationText, if_pos empty, String.append_assoc, String.append_empty]
  rfl

/-- The first mark behind a text without the sign of comments is where the text ends. -/
theorem beforeFirst_commentMark {front : List Char} (absent : '#' ∉ front) (rest : List Char) :
    beforeFirst commentMark.toList (front ++ (commentMark.toList ++ rest)) = front := by
  induction front with
  | nil => rfl
  | cons c others inductionHypothesis =>
    rw [List.mem_cons, not_or] at absent
    have other : ¬commentMark.toList.isPrefixOf (c :: (others ++ (commentMark.toList ++ rest))) = true := by
      rw [List.isPrefixOf_iff_prefix]
      rintro ⟨behind, same⟩
      -- The sign is the third character of the mark, and behind `c` stand `others` or two spaces.
      match others, absent.2, same with
      | [], _, same => simp [commentMark] at same
      | [_], _, same => simp [commentMark] at same
      | _ :: _ :: _, absent, same =>
        simp only [commentMark] at same
        simp_all
    rw [List.cons_append, beforeFirst, if_neg other, inductionHypothesis absent.2]

/-- A line up to its comment is its declaration. -/
theorem IsFieldLine.cutComment_eq {line : String} (isLine : IsFieldLine f line)
    (absent : '#' ∉ (declarationText f).toList) : cutComment line = declarationText f := by
  cases isLine with
  | bare =>
    have whole : IsCutAt commentMark.toList (declarationText f).toList (declarationText f).toList :=
      ⟨.inl rfl, fun before behind occurs => absurd (by rw [occurs]; simp [commentMark]) absent⟩
    rw [cutComment, (beforeFirst_eq_iff (by decide)).mpr whole, String.ofList_toList]
  | @commented comment worded =>
    rw [cutComment, String.toList_append, String.toList_append, List.append_assoc,
      beforeFirst_commentMark absent, String.ofList_toList]

theorem IsFieldLine.blank_eq {line : String} (isLine : IsFieldLine f line)
    (declared : ∀ c ∈ (declarationText f).toList, isBlank c = true → c = ' ') :
    ∀ c ∈ line.toList, isBlank c = true → c = ' ' := by
  intro c present blank
  cases isLine with
  | bare => exact declared c present blank
  | commented worded =>
    rw [String.toList_append, String.toList_append, List.mem_append, List.mem_append] at present
    rcases present with (inside | mark) | behind
    · exact declared c inside blank
    · have spaces : (commentMark.toList.all fun c => !isBlank c || c == ' ') = true := by decide
      simpa [blank] using List.all_eq_true.mp spaces c mark
    · exact worded.blank_eq behind blank

end Lines

section Modules

variable {base : String} {d e : Description}

/-- What a record module has in front of its class. -/
def recordHead (base : String) (d : Description) : List SourceLine :=
  let imports := match enumImports d with
    | [] => []
    | names => [.blank, .importFrom (typeModule base d.schema) (names.map fun name => { name })]
  [banner, importOne "__future__" "annotations", .blank, importOne "dataclasses" "dataclass"] ++ imports ++
    [SourceLine.blank, SourceLine.blank, SourceLine.code 0 "@dataclass"]

/-- The type and the name of a key, as the method that gives the key has them. -/
def keyText (f : Field) : String := annotation f ++ ":\n        return self." ++ f.name ++ "\n"

theorem sourceText_recordModule (base : String) (d : Description) : sourceText (recordModule base d) =
    recordText (sourceText (recordHead base d)) d.sheet (d.fields.map fun f => "    " ++ fieldText f)
      (keyText d.key) := by
  have parts : recordModule base d = recordHead base d ++ ([SourceLine.classHeader (recordName d.sheet) none] ++
      (d.fields.map (fun f => SourceLine.code 1 (fieldText f)) ++
        [SourceLine.blank, SourceLine.code 1 ("def get_key(self) -> " ++ annotation d.key ++ ":"),
          SourceLine.code 2 ("return self." ++ d.key.name)])) := by
    cases names : enumImports d with
    | nil => simp [recordModule, recordHead, names]
    | cons name rest => simp [recordModule, recordHead, names]
  rw [parts, sourceText_append, sourceText_append, sourceText_append, sourceText_map]
  apply String.toList_injective
  simp [recordText, keyText, sourceText, SourceLine.text, String.toList_join, List.flatMap_map]

/-- What is in front of the class does not depend on comments. -/
theorem recordHead_withoutComments (base : String) (d : Description) :
    recordHead base d.withoutComments = recordHead base d := by
  simp only [recordHead, enumImports, Description.enumerations_withoutComments]
  rfl

/-- Descriptions that are the same without their comments have the same fields but for the comments. -/
theorem exists_field_of_withoutComments (same : e.withoutComments = d.withoutComments) {f : Field}
    (member : f ∈ e.fields) : ∃ own ∈ d.fields, own.withoutComment = f.withoutComment := by
  rw [← List.mem_map, ← Description.fields_withoutComments, ← same, Description.fields_withoutComments]
  exact List.mem_map_of_mem member

/-- The record module of an accepted sheet has one line for each field between the class and its method,
whatever the comments of the sheet are: the declaration, and behind it the comment as words between single
spaces. Cutting the comments off leaves the module of the same sheet without comments. -/
theorem recordModule_commented (base : String) {w : Workbook} {d : Description} (described : d ∈ accepted w) :
    ∃ front back, ∀ e, e.withoutComments = d.withoutComments → ∃ lines,
      List.Forall₂ IsFieldLine e.fields lines ∧
      (∀ line ∈ lines, ∀ c ∈ line.toList, isBlank c = true → c = ' ') ∧
      sourceText (recordModule base e) = recordText front e.sheet lines back ∧
      sourceText (recordModule base e.withoutComments) =
        recordText front e.sheet (lines.map cutComment) back := by
  refine ⟨sourceText (recordHead base d.withoutComments), keyText d.withoutComments.key, fun e same => ?_⟩
  obtain ⟨resolved, known⟩ := resolved_of_accepted described
  have declared : ∀ f ∈ e.fields, ∀ c ∈ (declarationText f).toList, (isBlank c = true → c = ' ') ∧ c ≠ '#' := by
    intro f member c present
    obtain ⟨own, inside, alike⟩ := exists_field_of_withoutComments same member
    have declaration : declarationText f = declarationText own := by
      rw [← fieldText_withoutComment, ← fieldText_withoutComment, alike]
    rw [declaration] at present
    refine mem_declarationText (resolved.names own inside).1 (fun enumeration own' => ?_) present
    have collected := mem_of_lookup (known own inside enumeration own')
    exact (spelledEnum_of_collected collected :)
  have head : recordHead base d.withoutComments = recordHead base e := by
    rw [← same, recordHead_withoutComments]
  have key : keyText d.withoutComments.key = keyText e.key := by
    rw [← same]
    rfl
  have each : ∀ f ∈ e.fields, cutComment ("    " ++ fieldText f) = "    " ++ fieldText f.withoutComment := by
    intro f member
    rw [fieldText_withoutComment]
    exact (isFieldLine_fieldText f).cutComment_eq fun present => (declared f member '#' present).2 rfl
  refine ⟨e.fields.map fun f => "    " ++ fieldText f, ?_, ?_, ?_, ?_⟩
  · rw [List.forall₂_map_right_iff, List.forall₂_same]
    exact fun f _ => isFieldLine_fieldText f
  · intro line listed
    obtain ⟨f, member, rfl⟩ := List.mem_map.mp listed
    exact (isFieldLine_fieldText f).blank_eq fun c present => (declared f member c present).1
  · rw [head, key, sourceText_recordModule]
  · rw [sourceText_recordModule, recordHead_withoutComments, head, key, Description.fields_withoutComments,
      List.map_map, List.map_map]
    have cut : e.fields.map (cutComment ∘ fun f => "    " ++ fieldText f) =
        e.fields.map ((fun f => "    " ++ fieldText f) ∘ Field.withoutComment) :=
      List.map_congr_left each
    rw [cut]
    rfl

/-- A sheet with line ends, signs of comments, quotes and braces in a comment. -/
def remarkedDescription : Description :=
  { weaponDescription with
    key := { weaponDescription.key with
      comment := "first\r\n# \"second\"\x0c \x7bthird\x7d" ++ String.ofList [Char.ofNat 0x2028, '#'] } }

theorem recordModule_commented_armory : weaponDescription ∈ accepted armory ∧
    remarkedDescription.key.comment ≠ "" ∧ ∃ front back lines,
      List.Forall₂ IsFieldLine remarkedDescription.fields lines ∧
      (∀ line ∈ lines, ∀ c ∈ line.toList, isBlank c = true → c = ' ') ∧
      sourceText (recordModule "MasterData" remarkedDescription) = recordText front "Weapon" lines back ∧
      sourceText (recordModule "MasterData" weaponDescription) =
        recordText front "Weapon" (lines.map cutComment) back := by
  have described : weaponDescription ∈ accepted armory := by
    rw [accepted_armory]
    exact List.mem_cons_self
  obtain ⟨front, back, each⟩ := recordModule_commented "MasterData" described
  obtain ⟨lines, rest⟩ := each remarkedDescription rfl
  exact ⟨described, by decide, front, back, lines, rest⟩

end Modules

end TypedSheets.Emission
