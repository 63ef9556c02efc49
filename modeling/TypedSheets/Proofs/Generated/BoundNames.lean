import Mathlib.Data.List.DropRight
import TypedSheets.Proofs.Generated.ModuleImports
import TypedSheets.Proofs.Text.Cutting

/-!
# The names that modules bind

What a module binds is read off its text: each item of an import binds its last word, and each class that is
not indented binds its name. For legible lines this is what the lines were made from, so the names that a
module binds can be listed for each of the templates.
-/

namespace TypedSheets.Emission

open TypedSheets.Number TypedSheets.Schema TypedSheets.Text

/-- A text without spaces that stands in one line. -/
def IsWord (text : String) : Prop := WithinLine text ∧ ' ' ∉ text.toList

instance (text : String) : Decidable (IsWord text) :=
  inferInstanceAs (Decidable (WithinLine text ∧ ' ' ∉ text.toList))

/-- What stands behind the last space. -/
def lastWord (cs : List Char) : String := String.ofList (cs.rtakeWhile (· != ' '))

/-- What a line binds at the level of its module. -/
def boundByLine (line : String) : List String :=
  match (splitOn ' ' line.toList).map String.ofList with
  | "from" :: _ :: "import" :: items => (splitOn ',' (" ".intercalate items).toList).map lastWord
  | "class" :: header :: _ => [String.ofList (header.toList.takeWhile isIdentifierContinue)]
  | _ => []

/-- What a module binds at its level, line by line. -/
def boundNames (text : String) : List String := (textLines text).flatMap boundByLine

/-- What a line was made to bind. -/
def SourceLine.bound : SourceLine → List String
  | .importFrom _ names => names.map ImportedName.bound
  | .classHeader name _ => [name]
  | _ => []

section Words

variable {base : String} {takes : GeneratedModule → List ImportedName → Prop} {line : SourceLine}

theorem splitOn_eq_cons (separator : Char) (cs : List Char) :
    ∃ rest, splitOn separator cs = cs.takeWhile (· != separator) :: rest := by
  induction cs with
  | nil => exact ⟨[], rfl⟩
  | cons c others inductionHypothesis =>
    obtain ⟨rest, cut⟩ := inductionHypothesis
    by_cases same : c = separator
    · refine ⟨splitOn separator others, ?_⟩
      rw [splitOn, if_pos same, List.takeWhile_cons_of_neg (by simp [same])]
    · refine ⟨rest, ?_⟩
      rw [splitOn, if_neg same, cut, List.takeWhile_cons_of_pos (by simp [same])]

/-- A line that starts with another word binds nothing. -/
theorem boundByLine_eq_nil {text : String} (noImport : firstWord text ≠ "from".toList)
    (noClass : firstWord text ≠ "class".toList) : boundByLine text = [] := by
  obtain ⟨rest, cut⟩ := splitOn_eq_cons ' ' text.toList
  have other {word : String} (differs : firstWord text ≠ word.toList) :
      String.ofList (text.toList.takeWhile (· != ' ')) ≠ word := by
    rintro rfl
    exact differs String.toList_ofList.symm
  rw [boundByLine, cut, List.map_cons]
  split
  · next _ same => exact absurd (List.cons.inj same).1 (other noImport)
  · next _ same => exact absurd (List.cons.inj same).1 (other noClass)
  · rfl

theorem lastWord_of_not_mem {word : String} (absent : ' ' ∉ word.toList) : lastWord word.toList = word := by
  have whole : word.toList.rtakeWhile (· != ' ') = word.toList := by
    rw [List.rtakeWhile_eq_self_iff]
    intro c present
    rw [bne_iff_ne]
    rintro rfl
    exact absent present
  rw [lastWord, whole, String.ofList_toList]

theorem lastWord_append {word : String} (absent : ' ' ∉ word.toList) (front : List Char) :
    lastWord (front ++ ' ' :: word.toList) = word := by
  have reversed : ∀ c ∈ word.toList.reverse, (c != ' ') = true := by
    intro c present
    rw [bne_iff_ne]
    rintro rfl
    exact absent (List.mem_reverse.mp present)
  rw [lastWord, List.rtakeWhile, List.reverse_append, List.reverse_cons, List.append_assoc,
    List.takeWhile_append_of_pos reversed, List.singleton_append, List.takeWhile_cons_of_neg (by decide),
    List.append_nil, List.reverse_reverse, String.ofList_toList]

/-- What may stand in front of an item. -/
def itemFronts : List (List Char) := [[], [' ']]

/-- An item has no comma and binds its last word, with or without a space in front of it. -/
theorem bound_of_item {i : ImportedName} (spelled : i.IsSpelled) {front : List Char} (listed : front ∈ itemFronts) :
    ',' ∉ front ++ i.text.toList ∧ lastWord (front ++ i.text.toList) = i.bound := by
  obtain ⟨name, renamed⟩ := i
  have noSpace : ' ' ∉ name.toList := Yaml.not_mem_of_isIdentifier spelled.1 (by decide)
  have noComma : ',' ∉ name.toList := Yaml.not_mem_of_isIdentifier spelled.1 (by decide)
  have frontComma : ∀ front ∈ itemFronts, ',' ∉ front := by decide
  rw [List.mem_append, not_or]
  refine ⟨⟨frontComma front listed, ?_⟩, ?_⟩
  · cases renamed with
    | none => exact noComma
    | some other =>
      have behind : ',' ∉ other.toList := Yaml.not_mem_of_isIdentifier spelled.2 (by decide)
      simp [ImportedName.text, noComma, behind]
  · cases renamed with
    | none =>
      simp only [itemFronts, List.mem_cons, List.not_mem_nil, or_false] at listed
      rcases listed with rfl | rfl
      · exact lastWord_of_not_mem noSpace
      · exact lastWord_append noSpace []
    | some other =>
      have absent : ' ' ∉ other.toList := Yaml.not_mem_of_isIdentifier spelled.2 (by decide)
      have text : front ++ (ImportedName.text ⟨name, some other⟩).toList =
          (front ++ (name ++ " as").toList) ++ ' ' :: other.toList := by
        simp [ImportedName.text]
      rw [text]
      exact lastWord_append absent _

/-- The items of an import bind the names that they were made for. -/
theorem bound_of_items {names : List ImportedName} (some : names ≠ []) (spelled : ∀ i ∈ names, i.IsSpelled)
    {front : List Char} (listed : front ∈ itemFronts) :
    (splitOn ',' (front ++ (", ".intercalate (names.map ImportedName.text)).toList)).map lastWord =
      names.map ImportedName.bound := by
  induction names generalizing front with
  | nil => exact absurd rfl some
  | cons i rest inductionHypothesis =>
    rw [List.forall_mem_cons] at spelled
    obtain ⟨comma, own⟩ := bound_of_item spelled.1 listed
    cases rest with
    | nil =>
      rw [List.map_singleton, String.intercalate_singleton, splitOn_of_not_mem _ _ comma, List.map_singleton,
        own]
      rfl
    | cons next others =>
      have text : front ++ (", ".intercalate ((i :: next :: others).map ImportedName.text)).toList =
          (front ++ i.text.toList) ++
            ',' :: ([' '] ++ (", ".intercalate ((next :: others).map ImportedName.text)).toList) := by
        rw [List.map_cons, List.map_cons, String.intercalate_cons_cons]
        simp
      rw [text, splitOn_append comma, List.map_cons, own,
        inductionHypothesis (List.cons_ne_nil _ _) spelled.2 (by decide)]
      rfl

end Words

section Endings

variable {name ending other front back : String}

/-- A text with an ending that a name does not have. -/
theorem ne_append (free : ¬ending.toList <:+ name.toList) : name ≠ front ++ ending := by
  rintro rfl
  apply free
  rw [String.toList_append]
  exact List.suffix_append front.toList ending.toList

/-- Texts with endings of which none is an ending of the other. -/
theorem append_ne_append (free : ¬ending.toList <:+ other.toList) (apart : ¬other.toList <:+ ending.toList) :
    front ++ ending ≠ back ++ other := by
  intro same
  have left : ending.toList <:+ (front ++ ending).toList := by
    rw [String.toList_append]
    exact List.suffix_append front.toList ending.toList
  have right : other.toList <:+ (front ++ ending).toList := by
    rw [same, String.toList_append]
    exact List.suffix_append back.toList other.toList
  rcases List.suffix_or_suffix_of_suffix left right with inside | inside
  · exact free inside
  · exact apart inside

end Endings

section Lines

variable {base : String} {takes : GeneratedModule → List ImportedName → Prop} {line : SourceLine}
  {lines : List SourceLine}

/-- The dotted name of a module has no spaces. -/
theorem space_not_mem_dotted {m : GeneratedModule} (word : IsWord base) (spelled : m.IsSpelled) :
    ' ' ∉ (m.dotted base).toList := by
  have parts : ∀ c ∈ (".".intercalate (m.directories ++ [m.name])).toList, c ≠ ' ' := by
    refine @forall_mem_intercalate "." _ (· ≠ ' ') (by simp) ?_
    rintro part member c present rfl
    exact Yaml.not_mem_of_isIdentifier (spelled part member) (by decide) present
  rw [GeneratedModule.dotted, String.toList_append, String.toList_append, List.mem_append, List.mem_append]
  rintro ((inside | point) | behind)
  · exact word.2 inside
  · exact absurd point (by decide)
  · exact parts ' ' behind rfl

/-- An import binds what its items bind. -/
theorem boundByLine_importFrom {source : String} {names : List ImportedName} (noSpace : ' ' ∉ source.toList)
    (some : names ≠ []) (spelled : ∀ i ∈ names, i.IsSpelled) :
    boundByLine (SourceLine.importFrom source names).text = names.map ImportedName.bound := by
  let items := ", ".intercalate (names.map ImportedName.text)
  have text : (SourceLine.importFrom source names).text.toList = "from".toList ++
      ' ' :: (source.toList ++ ' ' :: ("import".toList ++ ' ' :: items.toList)) := by
    simp [SourceLine.text, items]
  have cut : (splitOn ' ' (SourceLine.importFrom source names).text.toList).map String.ofList =
      "from" :: source :: "import" :: (splitOn ' ' items.toList).map String.ofList := by
    rw [text, splitOn_append (by decide), splitOn_append noSpace, splitOn_append (by decide), List.map_cons,
      List.map_cons, List.map_cons, String.ofList_toList, String.ofList_toList, String.ofList_toList]
  have whole : (" ".intercalate ((splitOn ' ' items.toList).map String.ofList)).toList = items.toList := by
    have joined := (splitOn_eq_iff.mp (rfl : splitOn ' ' items.toList = _)).joined
    have characters : ((splitOn ' ' items.toList).map String.ofList).map String.toList =
        splitOn ' ' items.toList := by
      rw [List.map_map]
      exact List.map_id'' (fun _ => String.toList_ofList) _
    rw [String.toList_intercalate, characters]
    exact joined
  rw [boundByLine, cut]
  simp only [whole]
  exact bound_of_items some spelled (by decide : [] ∈ itemFronts)

/-- The header of a class binds its name. -/
theorem boundByLine_classHeader {name : String} (identifier : isIdentifier name = true) (bases : Option String) :
    boundByLine (SourceLine.classHeader name bases).text = [name] := by
  obtain ⟨mark, behind, stops, text⟩ := toList_classHeader name bases
  obtain ⟨rest, cut⟩ := splitOn_eq_cons ' ' (name.toList ++ mark :: behind)
  have noSpace : ∀ c ∈ name.toList, (c != ' ') = true := by
    intro c present
    rw [bne_iff_ne]
    rintro rfl
    exact Yaml.not_mem_of_isIdentifier identifier (by decide) present
  have header : (name.toList ++ mark :: behind).takeWhile (· != ' ') =
      name.toList ++ mark :: behind.takeWhile (· != ' ') := by
    rw [List.takeWhile_append_of_pos noSpace, List.takeWhile_cons_of_pos]
    rcases stops with rfl | rfl
    · decide
    · decide
  have markStops : ¬isIdentifierContinue mark = true := by
    rcases stops with rfl | rfl
    · decide
    · decide
  have front : "class ".toList ++ (name.toList ++ mark :: behind) =
      "class".toList ++ ' ' :: (name.toList ++ mark :: behind) := by
    simp
  rw [boundByLine, text, front, splitOn_append (by decide), cut, header, List.map_cons, List.map_cons,
    String.ofList_toList]
  simp only [String.toList_ofList]
  rw [List.takeWhile_append_of_pos (Yaml.continue_of_form (Bool.and_eq_true_iff.mp identifier).1),
    List.takeWhile_cons_of_neg markStops, List.append_nil, String.ofList_toList]

/-- A legible line binds what it was made to bind. -/
theorem Legible.boundByLine_eq (word : IsWord base) (some : ∀ m names, takes m names → names ≠ [])
    (legible : Legible base takes line) : boundByLine line.text = line.bound := by
  have sources : ∀ listed ∈ libraryImports, ' ' ∉ listed.1.toList := by decide
  have identifiers : ∀ listed ∈ libraryImports, isIdentifier listed.2 = true := by decide +kernel
  cases legible with
  | blank => rfl
  | @library source name listed =>
    have identifier := identifiers _ listed
    exact boundByLine_importFrom (sources _ listed) (List.cons_ne_nil _ _)
      (List.forall_mem_singleton.mpr ⟨identifier, identifier⟩)
  | taken spelled imported taken =>
    exact boundByLine_importFrom (space_not_mem_dotted word spelled) (some _ _ taken) imported
  | classHeader identifier within => exact boundByLine_classHeader identifier _
  | @code steps text within plain =>
    obtain ⟨noClass, noImport⟩ := firstWord_code plain steps
    exact boundByLine_eq_nil noImport noClass

example : boundByLine "from enum import IntEnum as Base, Flag" = ["Base", "Flag"] := by decide

/-- A module binds what its lines were made to bind. -/
theorem boundNames_sourceText (word : IsWord base) (some : ∀ m names, takes m names → names ≠ [])
    (legible : ∀ line ∈ lines, Legible base takes line) :
    boundNames (sourceText lines) = lines.flatMap SourceLine.bound := by
  have empty : boundByLine "" = [] := by decide
  rw [boundNames, textLines_sourceText word.1 legible, List.flatMap_append, List.flatMap_map,
    List.flatMap_singleton, empty, List.append_nil, List.flatMap_def, List.flatMap_def]
  exact congrArg List.flatten
    (List.map_congr_left fun line member => (legible line member).boundByLine_eq word some)

end Lines

section Modules

variable {base : String} {d : Description}

/-- The enumeration of the key, when the key is one. -/
def keyEnums (d : Description) : List String := (d.key.enumeration.map Enumeration.name).toList

theorem ne_nil_of_takes {m : GeneratedModule} {names : List ImportedName} (taken : Takes d m names) :
    names ≠ [] := by
  cases taken with
  | enumerations some _ => exact some
  | _ => exact List.cons_ne_nil _ _

theorem bound_keyImport (base : String) (d : Description) :
    (keyImport base d).flatMap SourceLine.bound = keyEnums d := by
  unfold keyImport keyEnums
  cases d.key.enumeration with
  | none => rfl
  | some e => rfl

/-- Lines of code bind nothing. -/
theorem bound_code {α : Type} (steps : Nat) (text : α → String) (all : List α) :
    (all.map fun a => SourceLine.code steps (text a)).flatMap SourceLine.bound = [] := by
  rw [List.flatMap_map, List.flatMap_eq_nil_iff]
  exact fun _ _ => rfl

/-- Each import of one name binds that name. -/
theorem bound_importOne {α : Type} (source name : α → String) (all : List α) :
    (all.map fun a => importOne (source a) (name a)).flatMap SourceLine.bound = all.map name := by
  rw [List.flatMap_map]
  exact List.map_eq_flatMap.symm

theorem boundNames_recordModule (word : IsWord base) (spelled : SpelledSheet d) :
    boundNames (sourceText (recordModule base d)) =
      ["annotations", "dataclass"] ++ enumImports d ++ [recordName d.sheet] := by
  rw [boundNames_sourceText word (fun _ _ => ne_nil_of_takes) (legible_recordModule spelled)]
  have fields := bound_code 1 fieldText d.fields
  have items (names : List String) :
      (names.map fun name => ({ name } : ImportedName)).map ImportedName.bound = names := by
    rw [List.map_map]
    exact List.map_id'' (fun _ => rfl) names
  simp only [recordModule, List.flatMap_append]
  rw [fields]
  split
  · next none =>
    rw [none]
    rfl
  · simp only [List.flatMap_cons, List.flatMap_nil, SourceLine.bound, items, banner, importOne, List.append_nil,
      List.nil_append]
    rfl

theorem boundNames_containerModule (word : IsWord base) (spelled : SpelledSheet d) :
    boundNames (sourceText (containerModule base d)) =
      ["MasterDataContainer"] ++ keyEnums d ++ [recordName d.sheet, containerName d.sheet] := by
  rw [boundNames_sourceText word (fun _ _ => ne_nil_of_takes) (legible_containerModule spelled)]
  simp only [containerModule, List.flatMap_append]
  rw [bound_keyImport]
  rfl

theorem boundNames_accessorModule (word : IsWord base) (spelled : SpelledSheet d) (asset : Path) :
    boundNames (sourceText (accessorModule base asset d)) = ["MasterDataAccessor"] ++ keyEnums d ++
      [containerName d.sheet, recordName d.sheet, accessorName d.sheet] := by
  rw [boundNames_sourceText word (fun _ _ => ne_nil_of_takes) (legible_accessorModule spelled asset)]
  simp only [accessorModule, List.flatMap_append]
  rw [bound_keyImport]
  rfl

theorem boundNames_enumModule {enums : List Enumeration} {lines : List SourceLine}
    (rendered : enumModule enums = .ok lines) (spelled : ∀ e ∈ enums, SpelledEnum e) :
    boundNames (sourceText lines) = ["IntEnum"] ++ enums.map Enumeration.name := by
  have legible : ∀ line ∈ lines, Legible "" (fun _ names => names ≠ []) line :=
    legible_enumModule rendered spelled
  have exports := bound_code 1 (fun e : Enumeration => Json.quoted e.name ++ ",") enums
  have blocks : (enumBlocks enums).flatMap SourceLine.bound = enums.map Enumeration.name := by
    have block (e : Enumeration) :
        (SourceLine.blank :: .blank :: enumBlock e).flatMap SourceLine.bound = [e.name] :=
      congrArg (e.name :: ·) (bound_code 1 (fun m : EnumMember => m.name ++ " = " ++ integerText m.value) e.members)
    rw [enumBlocks, List.flatMap_assoc, List.flatMap_def, List.map_congr_left fun e _ => block e, ← List.flatMap_def]
    exact List.map_eq_flatMap.symm
  rw [boundNames_sourceText (by decide) (fun _ _ some => some) legible, enumModule_ok rendered]
  simp only [enumHead, List.flatMap_append]
  rw [exports, blocks]
  rfl

theorem boundNames_exporterModule (word : IsWord base) {schema : String} {descriptions : List Description}
    (identifier : isIdentifier schema = true)
    (spelled : ∀ d ∈ descriptions, d.schema = schema ∧ SpelledSheet d) (source assetRoot : Path) :
    boundNames (sourceText (exporterModule base schema source assetRoot (descriptions.map Description.sheet))) =
      ["MasterDataExporter"] ++ descriptions.map (fun d => containerName d.sheet) ++ [schema ++ "Exporter"] := by
  rw [boundNames_sourceText word (fun _ _ ⟨_, _, taken⟩ => ne_nil_of_takes taken)
    (legible_exporterModule identifier spelled source assetRoot)]
  have imports := bound_importOne (fun sheet => sheetModule base "DTO" schema (containerName sheet))
    containerName (descriptions.map Description.sheet)
  have entries := bound_code 2 (fun sheet => Json.quoted sheet ++ ": " ++ containerName sheet ++ ",")
    (descriptions.map Description.sheet)
  simp only [exporterModule, List.flatMap_append]
  rw [imports, entries, List.map_map]
  simp [SourceLine.bound, banner, importOne, ImportedName.bound, Function.comp_def]

theorem boundNames_registryModule (word : IsWord base) {entries : List RegistryEntry}
    (spelled : ∀ e ∈ entries, e.IsSpelled) :
    boundNames (sourceText (registryModule base entries)) =
      ["MasterDataRegistry"] ++ entries.map fun e => (registryImport entries e).bound := by
  have legible : ∀ line ∈ registryModule base entries, Legible base (fun _ names => names ≠ []) line :=
    legible_registryModule spelled fun _ _ => List.cons_ne_nil _ _
  have imports : (entries.map fun e => SourceLine.importFrom (sheetModule base "DAO" e.schema (accessorName e.sheet))
      [registryImport entries e]).flatMap SourceLine.bound = entries.map fun e => (registryImport entries e).bound := by
    rw [List.flatMap_map]
    exact List.map_eq_flatMap.symm
  have names := bound_code 1 (fun e => (registryImport entries e).bound ++ ",") entries
  rw [boundNames_sourceText word (fun _ _ some => some) legible]
  simp only [registryModule, List.flatMap_append]
  rw [imports, names]
  simp [SourceLine.bound, banner, importOne, ImportedName.bound]

end Modules

end TypedSheets.Emission
