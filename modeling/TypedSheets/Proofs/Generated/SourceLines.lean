import TypedSheets.Proofs.Generated.ModulePaths
import TypedSheets.Proofs.Text.TextLines

/-!
# Reading the lines of modules

A module is written as a text, and what it imports and defines can be read off the lines of that text.
A line is legible when it is one line of the text, and when it looks like a class or like an import of a
generated module only if it is one.
-/

namespace TypedSheets.Emission

open TypedSheets.Text

/-- A line that defines a class, in any depth. -/
def definesClass (name line : String) : Bool :=
  let text := line.toList.dropWhile (· == ' ')
  ("class " ++ name ++ ":").toList.isPrefixOf text || ("class " ++ name ++ "(").toList.isPrefixOf text

/-- Exactly one line of a text defines the class. -/
def DefinesOnce (content name : String) : Prop :=
  (textLines content).countP (definesClass name) = 1

/-- The dotted name of a module under a base. -/
def GeneratedModule.dotted (base : String) (m : GeneratedModule) : String :=
  base ++ "." ++ ".".intercalate (m.directories ++ [m.name])

/-- What a text starts with up to its first space. -/
def firstWord (text : String) : List Char := text.toList.takeWhile (· != ' ')

/-- The text is neither indented nor empty, nor does it start as classes and imports do. -/
def IsPlain (text : String) : Prop :=
  firstWord text ∉ [[], "class".toList, "from".toList]

instance : DecidablePred IsPlain :=
  fun text => inferInstanceAs (Decidable (firstWord text ∉ [[], "class".toList, "from".toList]))

/-- What modules import that is not generated. -/
def libraryImports : List (String × String) :=
  [("__future__", "annotations"), ("dataclasses", "dataclass"), ("enum", "IntEnum"),
    (runtimePackage, "MasterDataContainer"), (runtimePackage, "MasterDataAccessor"),
    (runtimePackage, "MasterDataExporter"), (runtimePackage, "MasterDataRegistry")]

/-- A name that is imported is an identifier, and so is the name that it gets. -/
def ImportedName.IsSpelled (i : ImportedName) : Prop :=
  isIdentifier i.name = true ∧ isIdentifier i.bound = true

/-- The parts of the dotted name of a module are identifiers. -/
def GeneratedModule.IsSpelled (m : GeneratedModule) : Prop :=
  ∀ part ∈ m.directories ++ [m.name], isIdentifier part = true

/-- A line that can be read off its text; imports of generated modules are among those that `takes`
allows. -/
inductive Legible (base : String) (takes : GeneratedModule → List ImportedName → Prop) :
    SourceLine → Prop
  | blank : Legible base takes .blank
  | library {source name : String} : (source, name) ∈ libraryImports →
      Legible base takes (importOne source name)
  | taken {m : GeneratedModule} {names : List ImportedName} : m.IsSpelled →
      (∀ i ∈ names, i.IsSpelled) → takes m names → Legible base takes (.importFrom (m.dotted base) names)
  | classHeader {name : String} {bases : Option String} : isIdentifier name = true →
      (∀ text ∈ bases, WithinLine text) → Legible base takes (.classHeader name bases)
  | code {steps : Nat} {text : String} : WithinLine text → IsPlain text →
      Legible base takes (.code steps text)

/-- The class that a line defines. -/
def SourceLine.className? : SourceLine → Option String
  | .classHeader name _ => some name
  | _ => none

theorem SourceLine.text_importFrom (source : String) (names : List ImportedName) :
    (SourceLine.importFrom source names).text =
      "from " ++ source ++ " import " ++ ", ".intercalate (names.map ImportedName.text) := rfl

theorem SourceLine.text_class (name : String) :
    (SourceLine.classHeader name none).text = "class " ++ name ++ ":" := rfl

theorem SourceLine.text_subclass (name bases : String) :
    (SourceLine.classHeader name (some bases)).text = "class " ++ name ++ "(" ++ bases ++ "):" := rfl

theorem SourceLine.text_code (steps : Nat) (text : String) :
    (SourceLine.code steps text).text = String.ofList (List.replicate (4 * steps) ' ') ++ text := rfl

section Words

variable {front back text : String} {c : Char}

/-- A space ends the first word, whatever is behind it. -/
theorem firstWord_append (space : ' ' ∈ front.toList) : firstWord (front ++ back) = firstWord front := by
  rw [firstWord, firstWord, String.toList_append, List.takeWhile_append, if_neg]
  intro whole
  have all := List.takeWhile_eq_self_iff.mp ((List.takeWhile_sublist _).eq_of_length whole)
  exact absurd (all ' ' space) (by decide)

theorem firstWord_of_name (absent : ' ' ∉ front.toList) :
    firstWord (front ++ back) = front.toList ++ firstWord back := by
  rw [firstWord, firstWord, String.toList_append, List.takeWhile_append_of_pos]
  intro c present
  rw [bne_iff_ne]
  rintro rfl
  exact absent present

theorem isPlain_append (space : ' ' ∈ front.toList) (plain : IsPlain front) : IsPlain (front ++ back) := by
  rw [IsPlain, firstWord_append space]
  exact plain

/-- A first word with a character that the refused words lack. -/
theorem isPlain_of_mem (mark : c ∉ "classfrom".toList) (present : c ∈ firstWord text) : IsPlain text := by
  have other {word : List Char} (absent : c ∉ word) : firstWord text ≠ word := by
    rintro rfl
    exact absent present
  simp only [IsPlain, List.mem_cons, List.not_mem_nil, or_false, not_or]
  refine ⟨other List.not_mem_nil, other ?_, other ?_⟩
  · intro inside
    exact mark (List.mem_append_left "from".toList inside)
  · intro inside
    exact mark (List.mem_append_right "class".toList inside)

/-- An identifier with a mark before the next space. -/
theorem isPlain_marked {name : String} (identifier : isIdentifier name = true)
    (mark : c ∉ "classfrom".toList) (present : c ∈ firstWord back) : IsPlain (name ++ back) := by
  apply isPlain_of_mem mark
  rw [firstWord_of_name (Yaml.not_mem_of_isIdentifier identifier (by decide))]
  exact List.mem_append_right name.toList present

/-- An identifier that a value is given to. -/
theorem isPlain_assignment {name : String} (identifier : isIdentifier name = true) :
    IsPlain (name ++ " = ") := by
  have word : firstWord (name ++ " = ") = name.toList := by
    rw [firstWord_of_name (Yaml.not_mem_of_isIdentifier identifier (by decide)),
      (by decide : firstWord " = " = []), List.append_nil]
  have refused {other : String} (reserved : isIdentifier other = false) : name.toList ≠ other.toList := by
    intro same
    rw [String.toList_inj.mp same, reserved] at identifier
    cases identifier
  simp only [IsPlain, word, List.mem_cons, List.not_mem_nil, or_false, not_or]
  exact ⟨refused (by decide : isIdentifier "" = false), refused (by decide), refused (by decide)⟩

end Words

section Classes

variable {base name text : String} {takes : GeneratedModule → List ImportedName → Prop} {line : SourceLine}

theorem definesClass_iff : definesClass name text = true ↔
    ∃ mark rest, (mark = ':' ∨ mark = '(') ∧
      text.toList.dropWhile (· == ' ') = "class ".toList ++ (name.toList ++ mark :: rest) := by
  simp only [definesClass, Bool.or_eq_true, List.isPrefixOf_iff_prefix, String.toList_append]
  constructor
  · rintro (⟨rest, same⟩ | ⟨rest, same⟩)
    · exact ⟨':', rest, .inl rfl, by simpa using same.symm⟩
    · exact ⟨'(', rest, .inr rfl, by simpa using same.symm⟩
  · rintro ⟨mark, rest, rfl | rfl, same⟩
    · exact .inl ⟨rest, by simpa using same.symm⟩
    · exact .inr ⟨rest, by simpa using same.symm⟩

/-- What is not indented starts where its first word does. -/
theorem dropWhile_of_flush {cs : List Char} (flush : cs.head? ≠ some ' ') :
    cs.dropWhile (· == ' ') = cs := by
  cases cs with
  | nil => rfl
  | cons c rest =>
    rw [List.dropWhile_cons_of_neg]
    intro space
    rw [beq_iff_eq.mp space] at flush
    exact flush rfl

/-- A text that is not indented defines a class only if it starts as classes do. -/
theorem firstWord_of_definesClass (flush : text.toList.head? ≠ some ' ')
    (defines : definesClass name text = true) : firstWord text = "class".toList := by
  obtain ⟨mark, rest, -, same⟩ := definesClass_iff.mp defines
  rw [dropWhile_of_flush flush] at same
  have front : text = "class " ++ String.ofList (name.toList ++ mark :: rest) := by
    rw [← String.toList_inj, same, String.toList_append]
    exact congrArg _ (String.toList_ofList).symm
  rw [front, firstWord_append (by decide)]
  decide

/-- A text whose first word has characters is not indented. -/
theorem flush_of_firstWord (word : firstWord text ≠ []) : text.toList.head? ≠ some ' ' := by
  intro indented
  apply word
  cases characters : text.toList with
  | nil =>
    rw [characters] at indented
    cases indented
  | cons c rest =>
    rw [characters] at indented
    cases indented
    rw [firstWord, characters, List.takeWhile_cons_of_neg (by decide)]

theorem IsPlain.differs (plain : IsPlain text) :
    firstWord text ≠ [] ∧ firstWord text ≠ "class".toList ∧ firstWord text ≠ "from".toList := by
  simpa only [IsPlain, List.mem_cons, List.not_mem_nil, or_false, not_or] using plain

/-- An indentation does not matter. -/
theorem definesClass_code (steps : Nat) :
    definesClass name (SourceLine.code steps text).text = definesClass name text := by
  have indentation : (SourceLine.code steps text).text.toList.dropWhile (· == ' ') =
      text.toList.dropWhile (· == ' ') := by
    rw [SourceLine.text_code, String.toList_append, String.toList_ofList]
    apply List.dropWhile_append_of_pos
    intro c present
    rw [List.eq_of_mem_replicate present, beq_self_eq_true]
  rw [definesClass, definesClass, indentation]

theorem firstWord_importFrom (source : String) (names : List ImportedName) :
    firstWord (SourceLine.importFrom source names).text = "from".toList := by
  rw [SourceLine.text_importFrom, String.append_assoc, String.append_assoc, firstWord_append (by decide)]
  decide

/-- The text of the header of a class. -/
theorem toList_classHeader (name : String) (bases : Option String) :
    ∃ mark rest, (mark = ':' ∨ mark = '(') ∧
      (SourceLine.classHeader name bases).text.toList = "class ".toList ++ (name.toList ++ mark :: rest) := by
  cases bases with
  | none => exact ⟨':', [], .inl rfl, by simp [SourceLine.text_class]⟩
  | some bases => exact ⟨'(', bases.toList ++ [')', ':'], .inr rfl, by simp [SourceLine.text_subclass]⟩

theorem firstWord_classHeader (name : String) (bases : Option String) :
    firstWord (SourceLine.classHeader name bases).text = "class".toList := by
  have starts : ∃ behind, (SourceLine.classHeader name bases).text = "class " ++ behind := by
    cases bases with
    | none => exact ⟨name ++ ":", String.append_assoc ..⟩
    | some bases => exact ⟨name ++ "(" ++ bases ++ "):", by simp only [SourceLine.text_subclass, String.append_assoc]⟩
  obtain ⟨behind, text⟩ := starts
  rw [text, firstWord_append (by decide)]
  decide

/-- The name of a class ends with the first mark behind it. -/
theorem eq_of_marked {name other : String} {mark otherMark : Char} {rest others : List Char}
    (identifier : isIdentifier name = true) (otherIdentifier : isIdentifier other = true)
    (stops : mark = ':' ∨ mark = '(') (otherStops : otherMark = ':' ∨ otherMark = '(')
    (same : name.toList ++ mark :: rest = other.toList ++ otherMark :: others) : name = other := by
  have cut {word : String} {stop : Char} {behind : List Char} (named : isIdentifier word = true)
      (isStop : stop = ':' ∨ stop = '(') :
      (word.toList ++ stop :: behind).takeWhile isIdentifierContinue = word.toList := by
    rw [List.takeWhile_append_of_pos (Yaml.continue_of_form (Bool.and_eq_true_iff.mp named).1),
      List.takeWhile_cons_of_neg, List.append_nil]
    rcases isStop with rfl | rfl
    · decide
    · decide
  have words := congrArg (List.takeWhile isIdentifierContinue) same
  rw [cut identifier stops, cut otherIdentifier otherStops] at words
  exact String.toList_inj.mp words

/-- A legible line defines a class exactly if it is the header of that class. -/
theorem Legible.definesClass_iff (legible : Legible base takes line) (identifier : isIdentifier name = true) :
    definesClass name line.text = true ↔ line.className? = some name := by
  have never {text : String} (flush : text.toList.head? ≠ some ' ')
      (word : firstWord text ≠ "class".toList) : definesClass name text = true ↔ none = some name := by
    constructor
    · intro defines
      exact absurd (firstWord_of_definesClass flush defines) word
    · intro impossible
      cases impossible
  have import_ (source : String) (names : List ImportedName) :
      definesClass name (SourceLine.importFrom source names).text = true ↔ none = some name := by
    have word := firstWord_importFrom source names
    apply never
    · apply flush_of_firstWord
      rw [word]
      decide
    · rw [word]
      decide
  cases legible with
  | blank => exact never (by decide) (by decide)
  | library _ => exact import_ _ _
  | taken _ _ _ => exact import_ _ _
  | @classHeader other bases named within =>
    obtain ⟨mark, rest, stops, text⟩ := toList_classHeader other bases
    rw [Emission.definesClass_iff, text, dropWhile_of_flush (by simp)]
    constructor
    · rintro ⟨otherMark, others, otherStops, same⟩
      exact congrArg some (eq_of_marked named identifier stops otherStops (List.append_cancel_left same))
    · rintro ⟨⟩
      exact ⟨mark, rest, stops, rfl⟩
  | @code steps text within plain =>
    rw [definesClass_code]
    exact never (flush_of_firstWord plain.differs.1) plain.differs.2.1

end Classes

section Imports

variable {base rest : String} {takes : GeneratedModule → List ImportedName → Prop} {line : SourceLine}

theorem ImportedName.IsSpelled.withinLine {i : ImportedName} (spelled : i.IsSpelled) : WithinLine i.text := by
  obtain ⟨name, renamed⟩ := i
  have named := withinLine_of_isIdentifier spelled.1
  cases renamed with
  | none => exact named
  | some other =>
    have bound : WithinLine other := withinLine_of_isIdentifier spelled.2
    rw [ImportedName.text, withinLine_append, withinLine_append]
    exact ⟨⟨named, by decide⟩, bound⟩

/-- The text of an import of one name. -/
theorem text_importOne (source name : String) :
    (importOne source name).text = "from " ++ source ++ " import " ++ name := rfl

/-- A legible line is one line of a text. -/
theorem Legible.withinLine (within : WithinLine base) (legible : Legible base takes line) :
    WithinLine line.text := by
  cases legible with
  | blank => decide
  | @library source name member =>
    have each : ∀ source ∈ libraryImports, WithinLine source.1 ∧ WithinLine source.2 := by decide
    rw [text_importOne, withinLine_append, withinLine_append, withinLine_append]
    exact ⟨⟨⟨by decide, (each _ member).1⟩, by decide⟩, (each _ member).2⟩
  | @taken m names spelled imported _ =>
    have dotted : WithinLine (m.dotted base) := by
      rw [GeneratedModule.dotted, withinLine_append, withinLine_append]
      refine ⟨⟨within, by decide⟩, withinLine_intercalate (by decide) ?_⟩
      intro part member
      exact withinLine_of_isIdentifier (spelled part member)
    have listed : WithinLine (", ".intercalate (names.map ImportedName.text)) := by
      apply withinLine_intercalate (by decide)
      intro text member
      obtain ⟨i, among, rfl⟩ := List.mem_map.mp member
      exact (imported i among).withinLine
    rw [SourceLine.text_importFrom, withinLine_append, withinLine_append, withinLine_append]
    exact ⟨⟨⟨by decide, dotted⟩, by decide⟩, listed⟩
  | @classHeader name bases identifier inside =>
    have named := withinLine_of_isIdentifier identifier
    cases bases with
    | none =>
      rw [SourceLine.text_class, withinLine_append, withinLine_append]
      exact ⟨⟨by decide, named⟩, by decide⟩
    | some bases =>
      rw [SourceLine.text_subclass, withinLine_append, withinLine_append, withinLine_append, withinLine_append]
      exact ⟨⟨⟨⟨by decide, named⟩, by decide⟩, inside bases rfl⟩, by decide⟩
  | @code steps text inside _ =>
    rw [SourceLine.text_code, withinLine_append]
    refine ⟨?_, inside⟩
    intro c present
    rw [String.toList_ofList] at present
    rw [List.eq_of_mem_replicate present]
    decide

/-- A plain text is neither a class nor an import, however far it is indented. -/
theorem firstWord_code {text : String} (plain : IsPlain text) (steps : Nat) :
    firstWord (SourceLine.code steps text).text ≠ "class".toList ∧
      firstWord (SourceLine.code steps text).text ≠ "from".toList := by
  cases steps with
  | zero =>
    rw [SourceLine.text_code, Nat.mul_zero, List.replicate_zero, String.ofList_nil, String.empty_append]
    exact plain.differs.2
  | succ steps =>
    have space : ' ' ∈ (String.ofList (List.replicate (4 * (steps + 1)) ' ')).toList := by
      rw [String.toList_ofList]
      exact List.mem_replicate.mpr ⟨by omega, rfl⟩
    rw [SourceLine.text_code, firstWord_append space, firstWord, String.toList_ofList,
      List.takeWhile_replicate, if_neg (by decide)]
    decide

/-- What is imported from elsewhere does not have the name of the code root in a dotted name. -/
theorem not_infix_libraryImports : ∀ source ∈ libraryImports,
    ¬(rootDirectory ++ ".").toList <:+: (importOne source.1 source.2).text.toList := by
  simp only [text_importOne, String.toList_append]
  decide +kernel

/-- A legible line that imports from below the base imports from a generated module. -/
theorem Legible.import_of_text {front : String} (root : base = front ++ rootDirectory)
    (legible : Legible base takes line) (text : line.text = "from " ++ base ++ "." ++ rest) :
    ∃ m names, m.IsSpelled ∧ (∀ i ∈ names, i.IsSpelled) ∧ takes m names ∧
      rest = ".".intercalate (m.directories ++ [m.name]) ++ " import " ++
        ", ".intercalate (names.map ImportedName.text) := by
  have word : firstWord line.text = "from".toList := by
    rw [text, String.append_assoc, String.append_assoc, firstWord_append (by decide)]
    decide
  cases legible with
  | blank => exact absurd word (by decide)
  | @library source name member =>
    apply absurd _ (not_infix_libraryImports (source, name) member)
    refine ⟨("from " ++ front).toList, rest.toList, ?_⟩
    rw [text, root]
    simp only [String.toList_append, List.append_assoc]
  | @taken m names spelled imported taken =>
    refine ⟨m, names, spelled, imported, taken, ?_⟩
    rw [SourceLine.text_importFrom, GeneratedModule.dotted] at text
    apply String.toList_inj.mp
    have characters := congrArg String.toList text
    simp only [String.toList_append, List.append_assoc, List.append_cancel_left_eq] at characters ⊢
    exact characters.symm
  | @classHeader name bases _ _ =>
    rw [firstWord_classHeader] at word
    exact absurd word (by decide)
  | @code steps own _ plain => exact absurd word (firstWord_code plain steps).2

end Imports

section Modules

variable {base name : String} {takes : GeneratedModule → List ImportedName → Prop}
  {lines : List SourceLine}

theorem sourceText_eq (lines : List SourceLine) :
    sourceText lines = String.join ((lines.map SourceLine.text).map fun line => line ++ "\n") := by
  rw [sourceText, List.map_map]
  rfl

theorem sourceText_append (front back : List SourceLine) :
    sourceText (front ++ back) = sourceText front ++ sourceText back := by
  apply String.toList_injective
  simp [sourceText, String.toList_join]

theorem withinLine_of_legible (within : WithinLine base) (legible : ∀ line ∈ lines, Legible base takes line) :
    ∀ line ∈ lines.map SourceLine.text, WithinLine line := by
  intro line member
  obtain ⟨own, among, rfl⟩ := List.mem_map.mp member
  exact (legible own among).withinLine within

/-- The lines of a module, followed by the empty one behind its end. -/
theorem textLines_sourceText (within : WithinLine base)
    (legible : ∀ line ∈ lines, Legible base takes line) :
    textLines (sourceText lines) = lines.map SourceLine.text ++ [""] := by
  rw [sourceText_eq]
  exact textLines_join (withinLine_of_legible within legible)

/-- A module has no line ends but line feeds. -/
theorem return_not_mem_sourceText (within : WithinLine base)
    (legible : ∀ line ∈ lines, Legible base takes line) : '\r' ∉ (sourceText lines).toList := by
  rw [sourceText_eq]
  exact return_not_mem_join (withinLine_of_legible within legible)

/-- The names of the classes that a module defines. -/
def classNames (lines : List SourceLine) : List String := lines.filterMap SourceLine.className?

/-- A class that is defined once by a module is defined once by its text. -/
theorem definesOnce_sourceText (within : WithinLine base)
    (legible : ∀ line ∈ lines, Legible base takes line) (distinct : (classNames lines).Nodup)
    (member : name ∈ classNames lines) : DefinesOnce (sourceText lines) name := by
  have identifier : isIdentifier name = true := by
    obtain ⟨line, among, own⟩ := List.mem_filterMap.mp member
    cases legible line among with
    | @classHeader other bases named _ =>
      cases own
      exact named
    | _ => cases own
  have same : lines.countP (fun line => definesClass name line.text) = (classNames lines).count name := by
    rw [classNames, List.count, List.countP_filterMap]
    apply List.countP_congr
    intro line among
    rw [(legible line among).definesClass_iff identifier]
    cases line.className? <;> simp
  have outside : [""].countP (definesClass name) = 0 := by
    rw [List.countP_eq_zero]
    intro line last defines
    rw [List.mem_singleton.mp last] at defines
    exact absurd (firstWord_of_definesClass (by decide) defines) (by decide)
  rw [DefinesOnce, textLines_sourceText within legible, List.countP_append, outside, Nat.add_zero,
    List.countP_map]
  exact same.trans (List.count_eq_one_of_mem distinct member)

end Modules

end TypedSheets.Emission
