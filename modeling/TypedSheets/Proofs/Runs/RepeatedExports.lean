import TypedSheets.Proofs.Runs.RepeatedFiles

/-!
# Exports that are repeated

The export of a schema file is repeated at another time: the same sheets fail for the same reasons, the
assets that were written are passed over, and the outcomes stand in the same order.
-/

namespace TypedSheets

open TypedSheets.Emission TypedSheets.Grid TypedSheets.Schema TypedSheets.Text FileTree

section Places

variable {root : Path}

/-- The components of an asset below its root. -/
def assetFile (d : Description) : List String := [d.schema, d.sheet ++ "." ++ "asset"]

theorem assetPath_below (root : Path) {d : Description} (schema : isIdentifier d.schema = true)
    (sheet : isIdentifier d.sheet = true) :
    assetPath root d.schema d.sheet = root.below (assetFile d) ∧
      ∀ name ∈ assetFile d, IsComponent name := by
  have above := isComponent_of_isIdentifier schema
  have file : IsComponent (d.sheet ++ ".asset") :=
    isComponent_ending (Yaml.slash_not_mem_of_isIdentifier d.sheet sheet) (by decide) (by decide)
  have name : d.sheet ++ "." ++ "asset" = d.sheet ++ ".asset" := String.append_assoc
  rw [assetFile, name]
  refine ⟨?_, ?_⟩
  · rw [assetPath, child_eq_below root above, child_eq_below _ file, below_below]
    rfl
  · intro part member
    simp only [List.mem_cons, List.not_mem_nil, or_false] at member
    rcases member with rfl | rfl
    · exact above
    · exact file

/-- The path of an asset below a split root is one that a run may write to. -/
theorem isProduct_assetPath {d : Description} (split : IsSplit root)
    (schema : isIdentifier d.schema = true) (sheet : isIdentifier d.sheet = true) :
    IsProduct (assetPath root d.schema d.sheet) := by
  obtain ⟨path, components⟩ := assetPath_below root schema sheet
  have file : assetFile d = [d.schema] ++ [d.sheet ++ "." ++ "asset"] := rfl
  rw [file] at components
  rw [path, file]
  apply isProduct_below split components (by decide) (by decide)
  simp only [String.toList_append, List.mem_append, not_or]
  exact ⟨⟨Yaml.not_mem_of_isIdentifier sheet (by decide), by decide⟩, by decide⟩

/-- It has a null character only where the root has one. -/
theorem hasNull_assetPath {d : Description} (schema : isIdentifier d.schema = true)
    (sheet : isIdentifier d.sheet = true) : hasNull (assetPath root d.schema d.sheet) = hasNull root := by
  rw [(assetPath_below root schema sheet).1]
  apply hasNull_below
  intro name member
  simp only [assetFile, List.mem_cons, List.not_mem_nil, or_false] at member
  rcases member with rfl | rfl
  · exact Yaml.not_mem_of_isIdentifier schema (by decide)
  · simp only [String.toList_append, List.mem_append, not_or]
    exact ⟨⟨Yaml.not_mem_of_isIdentifier sheet (by decide), by decide⟩, by decide⟩

/-- Assets of different sheets lead apart. -/
theorem assetPaths_apart {d e : Description} (differ : d.schema ≠ e.schema ∨ d.sheet ≠ e.sheet)
    (schema : isIdentifier d.schema = true) (sheet : isIdentifier d.sheet = true)
    (schemaOther : isIdentifier e.schema = true) (sheetOther : isIdentifier e.sheet = true) :
    Apart (assetPath root d.schema d.sheet) (assetPath root e.schema e.sheet) := by
  obtain ⟨path, components⟩ := assetPath_below root schema sheet
  obtain ⟨pathOther, componentsOther⟩ := assetPath_below root schemaOther sheetOther
  rw [path, pathOther]
  apply apart_below _ components componentsOther
  intro same
  simp only [assetFile, List.cons.injEq, and_true] at same
  rcases differ with other | other
  · exact other same.1
  · apply other
    simpa using same.2

end Places

/-- An exported sheet whose asset is passed over. -/
def Exported.skipped (e : Exported) : Exported := (e.1.skipped, e.2)

variable {t : FileTree} {root : Path}

/-- The asset of a sheet. -/
theorem repeats_exportSheet {d : Description} (product : IsProduct (assetPath root d.schema d.sheet)) :
    Repeats t [assetPath root d.schema d.sheet] (exportSheet root d) (exportSheet root d)
      fun first again => again = (first.1.skipped, first.2) := by
  unfold exportSheet
  apply (Repeats.ofExcept _ _).bind_quiet
  rintro records _ rfl
  apply (Repeats.ofExcept _ _).bind_quiet
  rintro content _ rfl
  apply (repeats_writeArtifact product t).bind_last
  rintro written _ rfl
  apply (Repeats.log _ _ _ _).bind_quiet
  intro _ _ _
  exact .pure rfl

/-- The assets of some sheets. -/
theorem repeats_exportSheets {descriptions : List Description}
    (products : ∀ d ∈ descriptions, IsProduct (assetPath root d.schema d.sheet))
    (apart : (descriptions.map fun d => assetPath root d.schema d.sheet).Pairwise Apart) :
    Repeats t (descriptions.map fun d => assetPath root d.schema d.sheet)
      (exportSheets root descriptions) (exportSheets root descriptions)
      fun first again => again = first.map Exported.skipped := by
  induction descriptions with
  | nil => exact .pure rfl
  | cons d rest inductionHypothesis =>
    rw [List.map_cons, List.pairwise_cons] at apart
    obtain ⟨across, late⟩ := apart
    have own := repeats_exportSheet (t := t) (products d List.mem_cons_self)
    have later := inductionHypothesis (fun e member => products e (List.mem_cons_of_mem d member)) late
    have ends (e : Exported) : Repeats t (rest.map fun d => assetPath root d.schema d.sheet)
        (do let others ← exportSheets root rest; pure (e :: others))
        (do let others ← exportSheets root rest; pure (e.skipped :: others))
        fun first again => again = first.map Exported.skipped := by
      apply later.bind_last
      rintro others _ rfl
      exact .pure rfl
    unfold exportSheets
    apply own.attempt.bind
    · rintro _ _ (@⟨⟨written, count⟩, _, rfl⟩ | @⟨e, f, alike⟩)
      · dsimp only
        rw [pure_bind, pure_bind]
        exact ends _
      · cases alike with
        | same =>
          cases e with
          | issue i =>
            dsimp only
            rw [pure_bind]
            exact ends (stoppedBy d.schema d.sheet i)
          | _ => exact .bind_throw (.same _)
        | system first second =>
          have alike : Alike e f := .system first second
          cases e with
          | issue i => cases first
          | _ =>
            cases f with
            | issue i => cases second
            | _ => exact .bind_throw alike
        | processing text other => exact .bind_throw (.processing text other)
    · intro p member q among
      rw [List.mem_singleton.mp member]
      exact across q among

/-- The export of a workbook that is repeated: the issues are the same, and the outcomes those of assets
that are passed over. -/
def WorkbookExport.skipped (x : WorkbookExport) : WorkbookExport :=
  { x with sheets := x.sheets.map SheetOutcome.skipped }

/-- The rank of an outcome does not depend on its artifacts. -/
theorem map_mergeSort_skipped (names : List String) (all : List Exported) :
    (all.mergeSort fun a b => sheetRank names a.1.sheet ≤ sheetRank names b.1.sheet).map Exported.skipped =
      (all.map Exported.skipped).mergeSort fun a b =>
        sheetRank names a.1.sheet ≤ sheetRank names b.1.sheet := by
  apply List.map_mergeSort
  intro a _ b _
  rfl

/-- The export of all sheets of a workbook. -/
theorem repeats_exportWorkbook {w : Workbook}
    (products : ∀ d ∈ accepted w, IsProduct (assetPath root d.schema d.sheet))
    (apart : ((accepted w).map fun d => assetPath root d.schema d.sheet).Pairwise Apart) :
    Repeats t ((accepted w).map fun d => assetPath root d.schema d.sheet) (exportWorkbook w root none)
      (exportWorkbook w root none) fun first again => again = first.skipped := by
  have all : (accepted w).filter (fun d => isSelected none d.sheet) = accepted w :=
    List.filter_true _
  unfold exportWorkbook
  apply (Repeats.logAll _ _).bind_quiet
  intro _ _ _
  dsimp only
  rw [all]
  apply (repeats_exportSheets products apart).bind_last
  rintro exported _ rfl
  apply Repeats.pure
  generalize stoppedSheets : ((refused w).filter fun e => isSelected none e.place.sheet).map
    (fun e => stoppedBy w.name e.place.sheet e.issue) = stopped
  generalize absentSheets : (((none : Option (List String)).getD []).filter
    fun name => !w.sheetNames.contains name).map (fun name => stoppedBy w.name name
      (ShapeError.issue { cause := .missingSheet, place := { file := w.name, sheet := name } })) = absent
  have whole : stopped ++ exported.map Exported.skipped ++ absent =
      (stopped ++ exported ++ absent).map Exported.skipped := by
    rw [List.map_append, List.map_append, ← stoppedSheets, ← absentSheets, List.map_map, List.map_map]
    rfl
  rw [whole, ← map_mergeSort_skipped, List.map_map, List.filterMap_map]
  simp only [WorkbookExport.skipped, List.map_map]
  rfl

namespace Run

variable {clock another : Clock}

theorem repeats_noteAll (file : String) (issues : List Issue) :
    Repeats t [] (noteAll clock file issues) (noteAll another file issues)
      fun first again => again.length = first.length := by
  induction issues with
  | nil => exact .pure rfl
  | cons i rest inductionHypothesis =>
    apply (repeats_note file "" i).bind_quiet
    intro _ _ _
    apply inductionHypothesis.bind_quiet
    intro _ _ same
    refine .pure ?_
    rw [List.length_cons, List.length_cons, same]

/-- Where the assets of a file lie, if it can be opened. -/
def assetsAt (root : Path) : Option Workbook → List Path
  | none => []
  | some w => (accepted w).map fun d => assetPath root d.schema d.sheet

theorem named_of_accepted_of_name {w : Workbook} (identifier : isIdentifier w.name = true)
    {d : Description} (described : d ∈ accepted w) :
    d.schema = w.name ∧ isIdentifier d.schema = true ∧ isIdentifier d.sheet = true := by
  obtain ⟨schema, sheet⟩ := named_of_accepted described
  refine ⟨schema, ?_, sheet⟩
  rw [schema]
  exact identifier

/-- Accepted sheets of a workbook have assets that lead apart. -/
theorem apart_accepted (root : Path) {w : Workbook} (distinct : w.sheetNames.Nodup)
    (identifier : isIdentifier w.name = true) :
    ((accepted w).map fun d => assetPath root d.schema d.sheet).Pairwise Apart := by
  have sheets := (accepted_sublist w).nodup distinct
  rw [List.Nodup, List.pairwise_map] at sheets
  rw [List.pairwise_map]
  refine List.Pairwise.imp_of_mem ?_ sheets
  intro d e left right differ
  obtain ⟨-, schema, sheet⟩ := named_of_accepted_of_name identifier left
  obtain ⟨-, schemaOther, sheetOther⟩ := named_of_accepted_of_name identifier right
  exact assetPaths_apart (.inr differ) schema sheet schemaOther sheetOther

/-- So do those of workbooks with different names. -/
theorem apart_assets (root : Path) {ws : List Workbook} (names : (ws.map Workbook.name).Nodup)
    (distinct : ∀ w ∈ ws, w.sheetNames.Nodup) (identifiers : ∀ w ∈ ws, isIdentifier w.name = true) :
    (ws.flatMap fun w => assetsAt root (some w)).Pairwise Apart := by
  rw [List.pairwise_flatMap]
  refine ⟨fun w member => apart_accepted root (distinct w member) (identifiers w member), ?_⟩
  rw [List.Nodup, List.pairwise_map] at names
  refine List.Pairwise.imp_of_mem ?_ names
  intro v w memberV memberW differ p left q right
  obtain ⟨d, described, rfl⟩ := List.mem_map.mp left
  obtain ⟨e, describedOther, rfl⟩ := List.mem_map.mp right
  obtain ⟨own, schema, sheet⟩ := named_of_accepted_of_name (identifiers v memberV) described
  obtain ⟨ownOther, schemaOther, sheetOther⟩ :=
    named_of_accepted_of_name (identifiers w memberW) describedOther
  apply assetPaths_apart (.inl _) schema sheet schemaOther sheetOther
  rw [own, ownOther]
  exact differ

/-- The export of a schema file. -/
theorem repeats_exportFile {p : Path} (split : IsSplit root)
    (same : ∀ u, Grows t u → SchemaFile.reading u p = SchemaFile.reading t p)
    (distinct : ∀ w, workbookAt? t p = some w → w.sheetNames.Nodup) :
    Repeats t (assetsAt root (workbookAt? t p)) (exportFile clock root p) (exportFile another root p)
      SameResult := by
  unfold exportFile
  apply (repeats_openFile same).bind_quiet
  rintro _ _ (@⟨workbook, opened⟩ | @⟨u, records, others, found, length⟩)
  · dsimp only
    rw [opened]
    have identifier := (named_of_workbookAt? opened).1
    have products : ∀ d ∈ accepted workbook, IsProduct (assetPath root d.schema d.sheet) := by
      intro d described
      obtain ⟨-, schema, sheet⟩ := named_of_accepted_of_name identifier described
      exact isProduct_assetPath split schema sheet
    have apart := apart_accepted root (distinct workbook opened) identifier
    apply (repeats_exportWorkbook products apart).attempt.bind_last
    rintro _ _ (@⟨exported, _, rfl⟩ | ⟨alike⟩)
    · apply (repeats_noteAll workbook.name exported.issues).bind_quiet
      intro records others length
      exact .pure ⟨sameFile_ofSheets p exported.sheets [], length, rfl⟩
    · exact repeats_end ⟨rfl, rfl, rfl⟩ alike
  · rw [workbookAt?_eq_none found]
    exact .pure ⟨⟨rfl, rfl, rfl, rfl, rfl⟩, length, rfl⟩

end Run

end TypedSheets
