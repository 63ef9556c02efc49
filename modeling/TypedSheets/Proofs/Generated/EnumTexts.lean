import TypedSheets.Proofs.Generated.ModuleImports
import TypedSheets.Proofs.Schema.EnumNamespace
import TypedSheets.Proofs.Schema.WrittenMembers

/-!
# The text of an enumeration module

An enumeration module has one class for each name that is declared or used: the declared ones in their order,
then the others in the order of their first use, each as it was first defined. The text of the module lists
exactly these names, and the lines of each class are a body that declares the enumeration again. The main
statement is `enumModule_lossless`.
-/

namespace TypedSheets.Emission

open TypedSheets.Grid TypedSheets.Number TypedSheets.Schema TypedSheets.Text

section Definitions

variable {given enums declared : List Enumeration} {e : Enumeration}

/-- The definitions that are given, but for those whose name is taken already. -/
structure AreFirst (given enums : List Enumeration) : Prop where
  names : enums.map Enumeration.name = (given.map Enumeration.name).eraseDups
  first : ∀ e ∈ enums, given.find? (fun other => other.name == e.name) = some e

/-- Adds a definition when its name is new. -/
def addNew (enums : List Enumeration) (e : Enumeration) : List Enumeration :=
  if enums.any fun other => other.name == e.name then enums else enums ++ [e]

/-- One more name is kept when it is new. -/
theorem eraseDups_concat (names : List String) (name : String) :
    (names ++ [name]).eraseDups = names.eraseDups ++ if name ∈ names then [] else [name] := by
  rw [List.eraseDups_append]
  by_cases known : name ∈ names
  · simp [List.removeAll, known]
  · simp [List.removeAll, List.eraseDups_cons, known]

/-- Different names are all kept. -/
theorem eraseDups_of_nodup {names : List String} (distinct : names.Nodup) : names.eraseDups = names := by
  induction distinct with
  | nil => rfl
  | @cons name rest apart _ inductionHypothesis =>
    have others : rest.filter (fun other => !other == name) = rest := by
      rw [List.filter_eq_self]
      exact fun other member => by simpa using Ne.symm (apart other member)
    rw [List.eraseDups_cons, others, inductionHypothesis]

/-- Definitions with different names are all first. -/
theorem areFirst_of_distinct (distinct : (declared.map Enumeration.name).Nodup) : AreFirst declared declared where
  names := (eraseDups_of_nodup distinct).symm
  first := fun _ member => NamedList.find?_of_distinct distinct member

/-- A name is taken when a definition with it is given. -/
theorem AreFirst.any_iff (areFirst : AreFirst given enums) (name : String) :
    (enums.any fun other => other.name == name) = true ↔ name ∈ given.map Enumeration.name := by
  rw [← List.mem_eraseDups, ← areFirst.names, List.any_eq_true]
  simp

/-- One more definition is added when its name is new. -/
theorem AreFirst.concat (areFirst : AreFirst given enums) (e : Enumeration) :
    AreFirst (given ++ [e]) (addNew enums e) := by
  have kept : ∀ other ∈ enums, (given ++ [e]).find? (fun o => o.name == other.name) = some other := by
    intro other member
    rw [List.find?_append, areFirst.first other member, Option.some_or]
  unfold addNew
  by_cases known : e.name ∈ given.map Enumeration.name
  · rw [if_pos ((areFirst.any_iff e.name).mpr known)]
    refine ⟨?_, kept⟩
    rw [areFirst.names, List.map_append, List.map_singleton, eraseDups_concat, if_pos known, List.append_nil]
  · rw [if_neg fun found => known ((areFirst.any_iff e.name).mp found)]
    constructor
    · rw [List.map_append, areFirst.names, List.map_append, List.map_singleton, eraseDups_concat, if_neg known]
    · rw [List.forall_mem_append, List.forall_mem_singleton]
      refine ⟨kept, ?_⟩
      have absent : given.find? (fun o => o.name == e.name) = none := by
        rw [List.find?_eq_none]
        intro other member same
        exact known (List.mem_map.mpr ⟨other, member, by simpa using same⟩)
      rw [List.find?_append, absent, Option.none_or, List.find?_cons_of_pos (by simp)]

/-- What is emitted are the first definitions of all names, -/
theorem areFirst_emittedEnums (distinct : (declared.map Enumeration.name).Nodup) (descriptions : List Description) :
    AreFirst (declared ++ descriptions.flatMap Description.enumerations) (emittedEnums declared descriptions) := by
  have fold (used given enums : List Enumeration) (areFirst : AreFirst given enums) :
      AreFirst (given ++ used) (used.foldl addNew enums) := by
    induction used generalizing given enums with
    | nil => simpa using areFirst
    | cons e rest inductionHypothesis =>
      have further := inductionHypothesis _ _ (areFirst.concat e)
      rwa [List.append_assoc, List.singleton_append] at further
  exact fold _ _ _ (areFirst_of_distinct distinct)

/-- starting with those that are declared. -/
theorem prefix_emittedEnums (declared : List Enumeration) (descriptions : List Description) :
    declared <+: emittedEnums declared descriptions := by
  have fold (used enums : List Enumeration) : enums <+: used.foldl addNew enums := by
    induction used generalizing enums with
    | nil => exact List.prefix_rfl
    | cons e rest inductionHypothesis =>
      refine List.IsPrefix.trans ?_ (inductionHypothesis (addNew enums e))
      unfold addNew
      split
      · exact List.prefix_rfl
      · exact List.prefix_append _ _
  exact fold _ declared

end Definitions

section Literals

variable {c : Char} {written text : List Char}

/-- The letters behind a backslash, and what they stand for. -/
def escapes : List (Char × Char) :=
  [('"', '"'), ('\\', '\\'), ('n', '\n'), ('r', '\r'), ('t', '\t'), ('b', '\x08'), ('f', '\x0c')]

/-- What stands between the quotes of a literal spells a text: its characters as they are, behind a backslash
as a letter, or as four hexadecimal digits of their codes. -/
inductive Spells : List Char → List Char → Prop where
  | nil : Spells [] []
  | plain {c : Char} {written text : List Char} (isPlain : c ∉ ['"', '\\', '\n', '\r'])
      (further : Spells written text) : Spells (c :: written) (c :: text)
  | escape {letter c : Char} {written text : List Char} (isEscape : (letter, c) ∈ escapes)
      (further : Spells written text) : Spells ('\\' :: letter :: written) (c :: text)
  | code {digits : List Char} {c : Char} {written text : List Char} (four : digits.length = 4)
      (hexadecimal : ∀ digit ∈ digits, isBaseDigit 16 digit = true) (value : digitsValue 16 digits = c.toNat)
      (further : Spells written text) : Spells ('\\' :: 'u' :: (digits ++ written)) (c :: text)

/-- A literal stands for a text. -/
def IsLiteralOf (literal text : String) : Prop :=
  ∃ written, literal.toList = '"' :: written ++ ['"'] ∧ Spells written text.toList

/-- The written form of a character spells it. -/
theorem Spells.escaped (further : Spells written text) : Spells (Json.escaped c ++ written) (c :: text) := by
  unfold Json.escaped
  split_ifs with quote backslash feed ret tab backspace page control
  · exact .escape (by simp [escapes, quote]) further
  · exact .escape (by simp [escapes, backslash]) further
  · exact .escape (by simp [escapes, feed]) further
  · exact .escape (by simp [escapes, ret]) further
  · exact .escape (by simp [escapes, tab]) further
  · exact .escape (by simp [escapes, backspace]) further
  · exact .escape (by simp [escapes, page]) further
  · have digits : ∀ n < 32, (hexDigits 4 n).length = 4 ∧ (hexDigits 4 n).all (isBaseDigit 16) = true ∧
        digitsValue 16 (hexDigits 4 n) = n := by decide
    obtain ⟨four, hexadecimal, value⟩ := digits c.toNat control
    exact .code four (List.all_eq_true.mp hexadecimal) value further
  · exact .plain (by simp [quote, backslash, feed, ret]) further

/-- A quoted text is a literal of it. -/
theorem isLiteralOf_quoted (text : String) : IsLiteralOf (Json.quoted text) text := by
  refine ⟨text.toList.flatMap Json.escaped, by rw [Json.quoted, String.toList_ofList, Json.quotedChars], ?_⟩
  induction text.toList with
  | nil => exact .nil
  | cons c rest inductionHypothesis =>
    rw [List.flatMap_cons]
    exact inductionHypothesis.escaped

end Literals

section Texts

variable {enums : List Enumeration} {lines : List SourceLine}

/-- The first lines of an enumeration module. -/
def moduleHead : String := sourceText [banner, importOne "enum" "IntEnum", .blank]

/-- The list of the names that a module exports, given as literals. -/
def exportsText (literals : List String) : String :=
  "__all__ = [\n" ++ String.join (literals.map fun literal => "    " ++ literal ++ ",\n") ++ "]\n"

/-- The class of an enumeration behind two empty lines: its name and the lines of its members. -/
def classText (e : Enumeration) : String :=
  "\n\nclass " ++ e.name ++ "(IntEnum):\n" ++ writtenMembers e.members

/-- Lines that are written one for each item. -/
theorem sourceText_map {α : Type} (line : α → SourceLine) (items : List α) :
    sourceText (items.map line) = String.join (items.map fun a => (line a).text ++ "\n") := by
  rw [sourceText, List.map_map]
  rfl

theorem text_memberLine (m : EnumMember) : (memberLine m).text ++ "\n" = writtenMember m := by
  apply String.toList_injective
  simp [memberLine, SourceLine.text, writtenMember]

/-- The lines of a class are its text, -/
theorem sourceText_enumBlock (e : Enumeration) : sourceText (.blank :: .blank :: enumBlock e) = classText e := by
  have members : sourceText (e.members.map memberLine) = writtenMembers e.members := by
    simp only [sourceText_map, text_memberLine, writtenMembers]
  have start : sourceText [.blank, .blank, .classHeader e.name (some "IntEnum")] =
      "\n\nclass " ++ e.name ++ "(IntEnum):\n" := by
    apply String.toList_injective
    simp [sourceText, SourceLine.text]
  have parts : SourceLine.blank :: .blank :: enumBlock e =
      [SourceLine.blank, .blank, .classHeader e.name (some "IntEnum")] ++ e.members.map memberLine := rfl
  rw [parts, sourceText_append, start, members, classText]

/-- and so are those of all classes. -/
theorem sourceText_enumBlocks (enums : List Enumeration) :
    sourceText (enumBlocks enums) = String.join (enums.map classText) := by
  induction enums with
  | nil => rfl
  | cons e rest inductionHypothesis =>
    rw [enumBlocks, List.flatMap_cons, sourceText_append, sourceText_enumBlock, ← enumBlocks, inductionHypothesis]
    apply String.toList_injective
    simp [String.toList_join]

/-- The text of an enumeration module. -/
theorem sourceText_enumModule (rendered : enumModule enums = .ok lines) :
    sourceText lines = moduleHead ++ exportsText (enums.map fun e => Json.quoted e.name) ++
      String.join (enums.map classText) := by
  have exports : sourceText ([SourceLine.code 0 "__all__ = ["] ++
      enums.map (fun e => SourceLine.code 1 (Json.quoted e.name ++ ",")) ++ [SourceLine.code 0 "]"]) =
      exportsText (enums.map fun e => Json.quoted e.name) := by
    rw [sourceText_append, sourceText_append, sourceText_map]
    apply String.toList_injective
    simp [exportsText, sourceText, SourceLine.text, String.toList_join, List.flatMap_map]
  have parts : enumHead enums = [banner, importOne "enum" "IntEnum", .blank] ++ ([SourceLine.code 0 "__all__ = ["] ++
      enums.map (fun e => SourceLine.code 1 (Json.quoted e.name ++ ",")) ++ [SourceLine.code 0 "]"]) := by
    simp [enumHead]
  rw [enumModule_ok rendered, sourceText_append, sourceText_enumBlocks, parts, sourceText_append, exports, moduleHead]

/-- Enumerations whose integers are short enough are rendered. -/
theorem exists_enumModule (short : ∀ e ∈ enums, ∀ m ∈ e.members, IsShort m) :
    ∃ lines, enumModule enums = .ok lines := by
  have members {members : List EnumMember} (short : ∀ m ∈ members, IsShort m) :
      members.mapM (fun m => (integerText? m.value).map fun digits =>
        SourceLine.code 1 (m.name ++ " = " ++ digits)) = .ok (members.map memberLine) := by
    induction members with
    | nil => rfl
    | cons m rest inductionHypothesis =>
      rw [List.forall_mem_cons] at short
      refine mapM_cons_eq_ok.mpr ⟨memberLine m, _, ?_, inductionHypothesis short.2, rfl⟩
      rw [integerText?_short m.value short.1]
      rfl
  have classes : enums.mapM enumLines = .ok (enums.map fun e => .blank :: .blank :: enumBlock e) := by
    induction enums with
    | nil => rfl
    | cons e rest inductionHypothesis =>
      rw [List.forall_mem_cons] at short
      refine mapM_cons_eq_ok.mpr ⟨.blank :: .blank :: enumBlock e, _, ?_, inductionHypothesis short.2, rfl⟩
      rw [enumLines, members short.1]
      rfl
  rw [enumModule, classes]
  exact ⟨_, rfl⟩

end Texts

/-- An enumeration that an accepted sheet uses is read from some body. -/
theorem isReadAs_of_accepted {w : Workbook} {d : Description} {e : Enumeration} (described : d ∈ accepted w)
    (used : e ∈ d.enumerations) : IsReadAs e.name e := by
  obtain ⟨f, member, enumeration⟩ := List.mem_filterMap.mp used
  have found := (resolved_of_accepted described).2 f member e enumeration
  exact (isEnumTable_collectEnums w).read _ (mem_of_lookup found)

/-- The enumeration module of declared and used enumerations can be rendered. Its text has a list of names and
a class for each first definition, those that are declared in front, and the lines of each class declare its
enumeration again. -/
theorem enumModule_lossless (declared : List Enumeration) (descriptions : List Description)
    (distinct : (declared.map Enumeration.name).Nodup) (read : ∀ e ∈ declared, IsReadAs e.name e)
    (described : ∀ d ∈ descriptions, ∃ w, d ∈ accepted w)
    (short : ∀ e ∈ declared ++ descriptions.flatMap Description.enumerations, ∀ m ∈ e.members, IsShort m) :
    ∃ lines enums literals, enumModule (emittedEnums declared descriptions) = .ok lines ∧
      AreFirst (declared ++ descriptions.flatMap Description.enumerations) enums ∧ declared <+: enums ∧
      List.Forall₂ IsLiteralOf literals (enums.map Enumeration.name) ∧
      sourceText lines = moduleHead ++ exportsText literals ++ String.join (enums.map classText) ∧
      ∀ e ∈ enums, readEnumBody e.name (writtenMembers e.members) = .ok e := by
  have areFirst := areFirst_emittedEnums distinct descriptions
  have given {e : Enumeration} (member : e ∈ emittedEnums declared descriptions) :
      e ∈ declared ++ descriptions.flatMap Description.enumerations :=
    List.mem_of_find?_eq_some (areFirst.first e member)
  obtain ⟨lines, rendered⟩ := exists_enumModule fun e member => short e (given member)
  refine ⟨lines, _, _, rendered, areFirst, prefix_emittedEnums declared descriptions, ?_,
    sourceText_enumModule rendered, fun e member => ?_⟩
  · rw [List.forall₂_map_left_iff, List.forall₂_map_right_iff, List.forall₂_same]
    exact fun e _ => isLiteralOf_quoted e.name
  · have isRead : IsReadAs e.name e := by
      rcases List.mem_append.mp (given member) with own | used
      · exact read e own
      · obtain ⟨d, among, inside⟩ := List.mem_flatMap.mp used
        obtain ⟨w, accepts⟩ := described d among
        exact isReadAs_of_accepted accepts inside
    exact isRead.readEnumBody_writtenMembers (short e (given member))

/-- An enumeration with a negative value, a gap and a value that two members have. -/
def rankEnumeration : Enumeration := { name := "Rank", members := [⟨"Low", -1⟩, ⟨"High", 255⟩, ⟨"Top", 255⟩] }

/-- The declared enumeration comes first, and the one that the sheet uses behind it. -/
theorem enumModule_lossless_rank : ∃ lines,
    enumModule (emittedEnums [rankEnumeration] [weaponDescription]) = .ok lines ∧
      emittedEnums [rankEnumeration] [weaponDescription] = [rankEnumeration, kindEnumeration] ∧
      writtenMembers rankEnumeration.members = "    Low = -1\n    High = 255\n    Top = 255\n" ∧
      readEnumBody "Rank" (writtenMembers rankEnumeration.members) = .ok rankEnumeration := by
  have read : IsReadAs "Rank" rankEnumeration := ⟨"Low = -1, High = 0xff, Top = 255", by decide +kernel⟩
  have described : weaponDescription ∈ accepted armory := by
    rw [accepted_armory]
    exact List.mem_cons_self
  have small {n : Int} (few : n.natAbs < 10 ^ 3) : n.natAbs < 10 ^ digitLimit :=
    Nat.lt_of_lt_of_le few (Nat.pow_le_pow_right (by decide) (by decide))
  have short : ∀ e ∈ [rankEnumeration, kindEnumeration], ∀ m ∈ e.members, IsShort m := by
    intro e member m inside
    refine small ?_
    revert m
    revert e
    decide
  obtain ⟨lines, enums, literals, rendered, -, inFront, -, -, reads⟩ :=
    enumModule_lossless [rankEnumeration] [weaponDescription] (by decide)
      (fun e member => by rw [List.mem_singleton.mp member]; exact read)
      (fun d member => ⟨armory, by rw [List.mem_singleton.mp member]; exact described⟩) short
  have first : rankEnumeration ∈ enums := inFront.subset List.mem_cons_self
  exact ⟨lines, rendered, rfl, by decide +kernel, reads rankEnumeration first⟩

end TypedSheets.Emission
