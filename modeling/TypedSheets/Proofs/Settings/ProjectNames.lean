import TypedSheets.Proofs.Runs.GeneratedImports
import TypedSheets.Proofs.Settings.UsableSettings
import TypedSheets.Proofs.Text.Cutting

/-!
# Names of projects

The name of a project is the first part of every dotted name that the generated modules import each other by.
Settings admit letters, digits and underscores for it, and a line feed at its end. So an admitted name is an
identifier, unless it ends with the line feed or is a reserved word, and the imports of all modules read as
imports exactly if it is one. The main statement is `project_names`.
-/

namespace TypedSheets.Emission

open TypedSheets.Text

variable {name base content text : String}

/-- A line that imports names from a module, both told by identifiers. -/
def IsImportLine (line : String) : Prop :=
  ∃ path names, path ≠ [] ∧ (∀ part ∈ path, isIdentifier part = true) ∧
    names ≠ [] ∧ (∀ i ∈ names, i.IsSpelled) ∧
    line = "from " ++ ".".intercalate path ++ " import " ++ ", ".intercalate (names.map ImportedName.text)

/-- A text stands in a module as an import from below a base. It begins where a line begins, and ends with the
line that the base ends in. -/
structure ImportsBelow (base content text : String) : Prop where
  below : ∃ rest, text = "from " ++ base ++ "." ++ rest ∧ '\n' ∉ rest.toList
  stands : ∃ front back, content = front ++ text ++ "\n" ++ back ∧ (front = "" ∨ ∃ before, front = before ++ "\n")

/-- What a dotted name has in front of its first point or of the space behind it. -/
def firstPart (text : String) : List Char := text.toList.takeWhile fun c => c != '.' && c != ' '

theorem firstPart_append {rest : String} (noPoint : '.' ∉ name.toList) (noSpace : ' ' ∉ name.toList)
    (ends : firstPart rest = []) : firstPart (name ++ rest) = name.toList := by
  rw [firstPart, String.toList_append, List.takeWhile_append_of_pos]
  · exact (congrArg _ ends).trans (List.append_nil _)
  · intro c present
    rw [Bool.and_eq_true, bne_iff_ne, bne_iff_ne]
    exact ⟨fun point => noPoint (point ▸ present), fun space => noSpace (space ▸ present)⟩

/-- Nothing is in front of a point or a space. -/
theorem firstPart_mark {mark : String} (rest : String) (stops : mark ∈ [".", " import "]) :
    firstPart (mark ++ rest) = [] := by
  rw [firstPart, String.toList_append]
  simp only [List.mem_cons, List.not_mem_nil, or_false] at stops
  rcases stops with rfl | rfl <;> rfl

/-- An import reads as one only if it begins with an identifier. -/
theorem IsImportLine.isIdentifier {rest : String} (line : IsImportLine ("from " ++ name ++ "." ++ rest))
    (noPoint : '.' ∉ name.toList) (noSpace : ' ' ∉ name.toList) : isIdentifier name = true := by
  obtain ⟨path, names, some, parts, -, -, same⟩ := line
  obtain ⟨first, others, rfl⟩ := List.exists_cons_of_ne_nil some
  have identifier := parts first List.mem_cons_self
  obtain ⟨behind, whole, ends⟩ : ∃ behind, "from " ++ name ++ "." ++ rest = "from " ++ (first ++ behind) ∧
      firstPart behind = [] := by
    rw [same]
    cases others with
    | nil =>
      refine ⟨" import " ++ ", ".intercalate (names.map ImportedName.text), ?_, firstPart_mark _ (by decide)⟩
      rw [String.intercalate_singleton]
      simp only [String.append_assoc]
    | cons second more =>
      refine ⟨"." ++ (".".intercalate (second :: more) ++ " import " ++
        ", ".intercalate (names.map ImportedName.text)), ?_, firstPart_mark _ (by decide)⟩
      rw [String.intercalate_cons_cons]
      simp only [String.append_assoc]
  have words : name.toList = first.toList := by
    have cut : name ++ ("." ++ rest) = first ++ behind := by
      rw [String.append_assoc, String.append_assoc] at whole
      simpa using whole
    have point : firstPart ("." ++ rest) = [] := firstPart_mark rest (by decide)
    rw [← firstPart_append noPoint noSpace point, cut]
    exact firstPart_append (Yaml.not_mem_of_isIdentifier identifier (by decide))
      (Yaml.not_mem_of_isIdentifier identifier (by decide)) ends
  rw [String.toList_inj.mp words]
  exact identifier

/-- A text that begins where a line does and stands in front of a line feed is a line. -/
theorem mem_splitOn {front piece back : List Char} (starts : front = [] ∨ ∃ before, front = before ++ ['\n'])
    (within : '\n' ∉ piece) : piece ∈ splitOn '\n' (front ++ piece ++ '\n' :: back) := by
  have own : piece ∈ (piece ++ '\n' :: back).splitOn '\n' := by
    rw [List.splitOn_append_cons_self_of_not_mem within]
    exact List.mem_cons_self
  rw [splitOn_eq_listSplitOn, List.append_assoc]
  rcases starts with rfl | ⟨before, rfl⟩
  · exact own
  · rw [List.append_assoc, List.singleton_append, List.splitOn_append_cons_self]
    exact List.mem_append_right _ own

/-- The dotted name of a project, the code root and what is below it. -/
theorem intercalate_below (name root : String) {parts : List String} (some : parts ≠ []) :
    ".".intercalate (name :: root :: parts) = name ++ "." ++ root ++ "." ++ ".".intercalate parts := by
  obtain ⟨first, others, rfl⟩ := List.exists_cons_of_ne_nil some
  rw [String.intercalate_cons_cons, String.intercalate_cons_cons]
  simp only [String.append_assoc]

/-- In a module of legible lines, what is imported from below an identifier is a line that reads as an import. -/
theorem ImportsBelow.reads {takes : GeneratedModule → List ImportedName → Prop} {lines : List SourceLine}
    (imports : ImportsBelow (name ++ "." ++ rootDirectory) (sourceText lines) text)
    (legible : ∀ line ∈ lines, Legible (name ++ "." ++ rootDirectory) takes line)
    (some : ∀ m names, takes m names → names ≠ []) (identifier : isIdentifier name = true) :
    text ∈ textLines (sourceText lines) ∧ IsImportLine text := by
  obtain ⟨⟨rest, same, noFeed⟩, before, back, split, starts⟩ := imports
  have within : WithinLine (name ++ "." ++ rootDirectory) := by
    rw [withinLine_append, withinLine_append]
    exact ⟨⟨withinLine_of_isIdentifier identifier, by decide⟩, by decide⟩
  have all := textLines_sourceText within legible
  have inside : '\n' ∉ text.toList := by
    intro present
    rw [same, String.toList_append, String.toList_append, String.toList_append, List.mem_append,
      List.mem_append, List.mem_append] at present
    rcases present with ((word | inBase) | point) | behind
    · exact absurd word (by decide)
    · exact absurd (within _ inBase) (by decide)
    · exact absurd point (by decide)
    · exact noFeed behind
  have listed : text ∈ textLines (sourceText lines) := by
    rw [textLines, unifyLineEnds_eq_self _ (return_not_mem_sourceText within legible), split]
    refine List.mem_map.mpr ⟨text.toList, ?_, String.ofList_toList⟩
    have front : before.toList = [] ∨ ∃ earlier, before.toList = earlier ++ ['\n'] := by
      rcases starts with rfl | ⟨earlier, rfl⟩
      · exact .inl rfl
      · exact .inr ⟨earlier.toList, String.toList_append⟩
    simpa using mem_splitOn front inside
  refine ⟨listed, ?_⟩
  rw [all] at listed
  rcases List.mem_append.mp listed with among | last
  · obtain ⟨line, member, own⟩ := List.mem_map.mp among
    obtain ⟨m, names, spelled, imported, taken, ends⟩ :=
      (legible line member).import_of_text rfl (own.trans same)
    refine ⟨name :: rootDirectory :: (m.directories ++ [m.name]), names, by simp, ?_, some m names taken,
      imported, ?_⟩
    · simp only [List.forall_mem_cons]
      exact ⟨identifier, by decide, spelled⟩
    · rw [intercalate_below _ _ (by simp), same, ends]
      simp only [String.append_assoc]
  · rw [List.mem_singleton.mp last] at same
    have characters := congrArg String.toList same
    simp at characters

/-- A module is empty or ends with a line feed. -/
theorem sourceText_ends (lines : List SourceLine) :
    sourceText lines = "" ∨ ∃ before, sourceText lines = before ++ "\n" := by
  rcases List.eq_nil_or_concat lines with rfl | ⟨front, last, rfl⟩
  · exact .inl rfl
  · refine .inr ⟨sourceText front ++ last.text, ?_⟩
    rw [List.concat_eq_append, sourceText_append, String.append_assoc]
    refine congrArg _ ?_
    simp [sourceText]

/-- An import that is a line of a module stands in it. -/
theorem importsBelow_of_mem {lines : List SourceLine} {line : SourceLine} {rest : String} (member : line ∈ lines)
    (same : line.text = "from " ++ base ++ "." ++ rest) (noFeed : '\n' ∉ rest.toList) :
    ImportsBelow base (sourceText lines) line.text := by
  obtain ⟨front, back, rfl⟩ := List.append_of_mem member
  refine ⟨⟨rest, same, noFeed⟩, sourceText front, sourceText back, ?_, sourceText_ends front⟩
  have own : sourceText [line] = line.text ++ "\n" := by simp [sourceText]
  rw [List.append_cons, sourceText_append, sourceText_append, own]
  simp only [String.append_assoc]

end TypedSheets.Emission

namespace TypedSheets.Settings

open TypedSheets.Emission TypedSheets.Grid TypedSheets.Schema TypedSheets.Text

variable {name : String} {c : Char}

/-- Letters and underscores start identifiers, -/
theorem isIdentifierStart_of_package (start : isPackageStart c = true) : isIdentifierStart c = true := by
  rw [isPackageStart, Bool.or_eq_true, beq_iff_eq] at start
  rcases start with letter | rfl
  · have letter : 65 ≤ c.toNat ∧ c.toNat ≤ 90 ∨ 97 ≤ c.toNat ∧ c.toNat ≤ 122 := by
      rcases (Bool.or_eq_true _ _).mp letter with upper | lower
      · exact .inl (of_decide_eq_true upper)
      · obtain ⟨least, greatest⟩ := Bool.and_eq_true_iff.mp lower
        exact .inr ⟨of_decide_eq_true least, of_decide_eq_true greatest⟩
    have small : c.toNat < 128 := by omega
    simp only [isIdentifierStart, if_pos small, Bool.or_eq_true, Bool.and_eq_true, decide_eq_true_eq]
    exact .inl letter
  · decide

/-- and digits continue them. -/
theorem isIdentifierContinue_of_alphanum (plain : c.isAlphanum = true ∨ c = '_') :
    isIdentifierContinue c = true := by
  have continued (start : isPackageStart c = true) : isIdentifierContinue c = true :=
    Yaml.continue_of_start _ (isIdentifierStart_of_package start)
  rcases plain with alphanum | rfl
  · rcases (Bool.or_eq_true _ _).mp alphanum with letter | digit
    · exact continued (by rw [isPackageStart, letter, Bool.true_or])
    · simp only [Char.isDigit, Bool.and_eq_true, decide_eq_true_eq, ge_iff_le, UInt32.le_iff_toNat_le] at digit
      have digit : 48 ≤ c.toNat ∧ c.toNat ≤ 57 := digit
      have small : c.toNat < 128 := by omega
      simp only [isIdentifierContinue, if_pos small, Bool.or_eq_true, Bool.and_eq_true, decide_eq_true_eq]
      exact .inr digit
  · decide

/-- The characters of package names are those of identifiers, but for a line feed. -/
theorem IsPackageName.continues (package : IsPackageName name) :
    ∀ c ∈ name.toList, isIdentifierContinue c = true ∨ c = '\n' := by
  obtain ⟨first, rest, whole, start, others⟩ := package
  have plain : ∀ c ∈ first :: rest, isIdentifierContinue c = true := by
    rw [List.forall_mem_cons]
    exact ⟨Yaml.continue_of_start _ (isIdentifierStart_of_package start),
      fun c member => isIdentifierContinue_of_alphanum (others c member)⟩
  intro c member
  rcases whole with same | same
  · rw [same] at member
    exact .inl (plain c member)
  · rw [same] at member
    rcases List.mem_append.mp member with inside | last
    · exact .inl (plain c inside)
    · exact .inr (List.mem_singleton.mp last)

/-- So a point or a space is not among them. -/
theorem IsPackageName.not_mem (package : IsPackageName name) (other : isIdentifierContinue c = false)
    (noFeed : c ≠ '\n') : c ∉ name.toList := by
  intro present
  rcases package.continues c present with continues | feed
  · rw [other] at continues
    cases continues
  · exact noFeed feed

/-- The generated modules lie below the name of the project. -/
theorem baseNamespace_of_project {s : Settings} (package : IsPackageName name) (project : s.project = some name) :
    s.destination.baseNamespace = name ++ "." ++ rootDirectory := by
  have filled : name ≠ "" := by
    rintro rfl
    obtain ⟨first, rest, whole | whole, -⟩ := package <;> cases whole
  rw [destination, Destination.baseNamespace, project]
  exact if_neg filled

/-- What is admitted for a project is an identifier unless a line feed ends it or it is a reserved word. -/
theorem IsPackageName.isIdentifier_iff (package : IsPackageName name) :
    isIdentifier name = true ↔ '\n' ∉ name.toList ∧ name ∉ reservedWords := by
  constructor
  · intro identifier
    refine ⟨Yaml.not_mem_of_isIdentifier identifier (by decide), ?_⟩
    simpa using (Bool.and_eq_true_iff.mp identifier).2
  · rintro ⟨noFeed, free⟩
    obtain ⟨first, rest, whole | whole, start, others⟩ := package
    · rw [isIdentifier, whole, hasIdentifierForm, isIdentifierStart_of_package start,
        List.all_eq_true.mpr fun c member => isIdentifierContinue_of_alphanum (others c member)]
      simpa using free
    · refine absurd ?_ noFeed
      rw [whole]
      exact List.mem_append_right _ List.mem_cons_self

/-- Options that give all settings, and a name for the project. -/
def namedSettings (name : String) : List (String × Value) :=
  CommandLine.givenSettings ++ [("project_code", .text name)]

/-- What they build. -/
def builtSettings (name : String) : Settings :=
  { source := "data", code := "gen", asset := "assets", project := some name, logs := "./logs" }

/-- Every package name is admitted. -/
theorem build_namedSettings (package : IsPackageName name) (w : Workspace) :
    (Settings.build none (namedSettings name) false w).1 = .ok (builtSettings name) := by
  have laid : override [] (namedSettings name) = (namedSettings name).map fun entry => (.text entry.1, entry.2) := by
    simp [override, namedSettings, CommandLine.givenSettings, Value.putEntry, CommandLine.same_text_eq]
  have conforms : Conforms (override [] (namedSettings name)) := by
    rw [laid]
    refine ⟨?_, ?_, ?_⟩
    · simp [OnlyKnown, namedSettings, CommandLine.givenSettings, keys]
    · simp [Complete, namedSettings, CommandLine.givenSettings, requiredKeys, Value.lookup?,
        CommandLine.same_text_eq]
    · simp [AdmittedUnder, namedSettings, CommandLine.givenSettings, keys, Value.lookup?,
        CommandLine.same_text_eq, demandOf, Admits, package]
  have built : BuiltFrom (override [] (namedSettings name)) (builtSettings name) := by
    rw [laid]
    refine ⟨?_, ?_, ?_, ?_, ?_⟩ <;>
      simp [namedSettings, CommandLine.givenSettings, builtSettings, Value.lookup?, CommandLine.same_text_eq]
  rw [isQuestion_build]
  exact build_eq_ok.mpr ⟨[], .absent rfl (by rintro _ ⟨⟩), conforms, built⟩

/-- The name of a project that settings give is a package name. -/
theorem isPackageName_of_build {p : Option Path} {values : List (String × Value)} {required : Bool} {w : Workspace}
    {s : Settings} (built : (Settings.build p values required w).1 = .ok s) (project : s.project = some name) :
    IsPackageName name := by
  rw [isQuestion_build] at built
  obtain ⟨data, -, conforms, holds⟩ := build_eq_ok.mp built
  have admitted := conforms.admitted "project_code" (by decide) _ ((holds.project name).mp project)
  obtain null | ⟨own, same, package⟩ : _ ∨ ∃ own, Value.text name = .text own ∧ IsPackageName own := admitted
  · cases null
  · cases same
    exact package

section Rendered

variable {target : Destination} {sources : List (Path × Workbook)} {all : List Artifact}

/-- What a run imports from generated modules has names. -/
theorem names_of_takesIn {m : GeneratedModule} {names : List ImportedName} (taken : TakesIn sources m names) :
    names ≠ [] := by
  obtain ⟨_, -, _, -, taken⟩ := taken
  cases taken with
  | enumerations some _ => exact some
  | record => exact List.cons_ne_nil _ _
  | container => exact List.cons_ne_nil _ _
  | accessor => exact List.cons_ne_nil _ _

/-- Each accepted sheet has a module that imports from below the code root. -/
theorem exists_importsBelow (identifiers : ∀ source ∈ sources, isIdentifier source.2.name = true)
    (rendered : renderRun target sources = .ok all) {source : Path × Workbook} (member : source ∈ sources)
    {d : Description} (described : d ∈ accepted source.2) :
    ∃ a ∈ all, ∃ text, ImportsBelow target.baseNamespace a.content text := by
  have spelled := spelledSheet_of_accepted (identifiers source member) described
  have listed := (rendered_of_accepted rendered member described).1 _ (List.mem_cons_of_mem _ List.mem_cons_self)
  have record : WithinLine (recordName d.sheet) := withinLine_of_isIdentifier (isIdentifier_recordName spelled)
  have schema : WithinLine d.schema := withinLine_of_isIdentifier spelled.schema
  have within : WithinLine ("VO.Generated." ++ d.schema ++ "." ++ recordName d.sheet ++ " import " ++
      recordName d.sheet) := by
    simp only [withinLine_append]
    exact ⟨⟨⟨⟨⟨by decide, schema⟩, by decide⟩, record⟩, by decide⟩, record⟩
  have taken : importOne (sheetModule target.baseNamespace "VO" d.schema (recordName d.sheet)) (recordName d.sheet) ∈
      containerModule target.baseNamespace d := by
    rw [containerModule]
    exact List.mem_append_right _ List.mem_cons_self
  refine ⟨_, listed, _, importsBelow_of_mem taken ?_ fun feed => absurd (within _ feed) (by decide)⟩
  rw [text_importOne, sheetModule]
  simp only [String.append_assoc]
  rfl

end Rendered

/-- The name of a project is admitted exactly if it is a package name. It is then an identifier unless a line feed
ends it or it is a reserved word, and whatever the generated modules import from below the code root is a line of
its own that reads as an import exactly if the name is an identifier. -/
theorem project_names (w : Workspace) :
    (∀ name, (∃ p values required s, (Settings.build p values required w).1 = .ok s ∧ s.project = some name) ↔
      IsPackageName name) ∧
    ∀ p values required s name, (Settings.build p values required w).1 = .ok s → s.project = some name →
      (isIdentifier name = true ↔ '\n' ∉ name.toList ∧ name ∉ reservedWords) ∧
      ∀ sources all, (∀ source ∈ sources, isIdentifier source.2.name = true) →
        renderRun s.destination sources = .ok all →
        (∀ a ∈ all, ∀ text, ImportsBelow (name ++ "." ++ rootDirectory) a.content text →
          ((text ∈ textLines a.content ∧ IsImportLine text) ↔ isIdentifier name = true)) ∧
        ∀ source ∈ sources, ∀ d ∈ accepted source.2,
          ∃ a ∈ all, ∃ text, ImportsBelow (name ++ "." ++ rootDirectory) a.content text := by
  refine ⟨fun name => ⟨?_, fun package => ?_⟩, fun p values required s name built project => ?_⟩
  · rintro ⟨p, values, required, s, built, project⟩
    exact isPackageName_of_build built project
  · exact ⟨_, _, _, _, build_namedSettings package w, rfl⟩
  · have package := isPackageName_of_build built project
    have base : s.destination.baseNamespace = name ++ "." ++ rootDirectory := baseNamespace_of_project package project
    refine ⟨package.isIdentifier_iff, fun sources all identifiers rendered => ⟨fun a member text imports => ?_, ?_⟩⟩
    · constructor
      · rintro ⟨-, line⟩
        obtain ⟨rest, same, -⟩ := imports.below
        have first : text = "from " ++ name ++ "." ++ (rootDirectory ++ "." ++ rest) := by
          rw [same]
          simp only [String.append_assoc]
        rw [first] at line
        exact line.isIdentifier (package.not_mem (by decide) (by decide)) (package.not_mem (by decide) (by decide))
      · intro identifier
        obtain ⟨lines, content, legible⟩ := isLegible_of_rendered identifiers rendered member
        rw [base] at legible
        rw [content] at imports ⊢
        exact imports.reads legible (fun _ _ => names_of_takesIn) identifier
    · intro source member d described
      rw [← base]
      exact exists_importsBelow identifiers rendered member described

/-- With a reserved word for the project, and with a line feed behind its name, settings are built and an import of
the modules does not read as one; with an identifier it does. -/
theorem project_names_reserved : ∀ name ∈ ["class", "Demo\n", "Demo"], ∃ s all,
    (Settings.build none (namedSettings name) false {}).1 = .ok s ∧ s.project = some name ∧
    renderRun s.destination [(Run.armoryFile, armory)] = .ok all ∧
    ∃ a ∈ all, ∃ text, ImportsBelow (name ++ "." ++ rootDirectory) a.content text ∧
      ((text ∈ textLines a.content ∧ IsImportLine text) ↔ name = "Demo") := by
  have package : ∀ name ∈ ["class", "Demo\n", "Demo"], isPackageName name = true := by decide
  have identifier : ∀ name ∈ ["class", "Demo\n", "Demo"], isIdentifier name = true ↔ name = "Demo" := by
    decide +kernel
  have own : isIdentifier armory.name = true := by decide
  have sources : ∀ source ∈ [(Run.armoryFile, armory)], isIdentifier source.2.name = true := by
    intro source member
    rw [List.mem_singleton.mp member]
    exact own
  have described : weaponDescription ∈ accepted armory := by
    rw [accepted_armory]
    exact List.mem_cons_self
  intro name member
  have built := build_namedSettings ((isPackageName_iff name).mp (package name member)) {}
  obtain ⟨all, rendered⟩ := Run.exists_renderRun_armory (builtSettings name).destination
  obtain ⟨-, imports⟩ := (project_names {}).2 none (namedSettings name) false (builtSettings name) name built rfl
  obtain ⟨reads, stands⟩ := imports [(Run.armoryFile, armory)] all sources rendered
  obtain ⟨a, listed, text, stand⟩ := stands _ List.mem_cons_self weaponDescription described
  exact ⟨builtSettings name, all, built, rfl, rendered, a, listed, text, stand,
    (reads a listed text stand).trans (identifier name member)⟩

end TypedSheets.Settings
