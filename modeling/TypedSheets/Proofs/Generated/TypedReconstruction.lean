import TypedSheets.Proofs.Generated.RecordTypes
import TypedSheets.Proofs.Schema.EnumNamespace

/-!
# Typed reconstruction

The records of an accepted sheet and the containers of its record type are inverse to each other, with
one exception: a field with the name of a step in the making of records is called there, and no record
can be made. The class that the record module of the sheet defines has a second one: names that the
class changes are not found again.
-/

namespace TypedSheets

open TypedSheets.Emission TypedSheets.Generated TypedSheets.Grid TypedSheets.Number
open TypedSheets.Schema TypedSheets.Text

/-- No field has the name of a step in the making of records. -/
def IsUncalled (d : Description) : Prop := ∀ f ∈ d.fields, f.name ∉ hookNames

variable {w : Workbook} {d : Description} {records : List Entries} {t : RecordType}

/-- The record type with the kinds that the fields were read as is the declared one. -/
theorem declares_recordType (described : d ∈ accepted w) : Declares w d d.recordType := by
  constructor
  · rfl
  · rw [Description.recordType, List.map_map]
    refine List.map_congr_left fun f member => ?_
    rw [annotatedKind_eq described member]
    rfl

/-- The class of a record module reconstructs the records of its sheet exactly when there are none, or
it keeps the names of the fields and calls none of them. -/
theorem Generated.IsClassOf.reconstructs_iff {enums : List Enumeration} {fields : List ClassField}
    (isClass : IsClassOf d enums fields t) (spelled : AreSpelled w d) (described : d ∈ accepted w)
    (module : enumImports d ≠ [] → enums = (typeEnums w).map normalized)
    (built : buildRecords d = .ok records) :
    Reconstructs t d records ↔ records = [] ∨ KeepsNames d ∧ IsUncalled d := by
  constructor
  · intro reconstructs
    by_cases empty : records = []
    · exact .inl empty
    · have keeps : KeepsNames d := isClass.keepsNames (names_of_reconstructs reconstructs empty)
      have declares := isClass.declares spelled described module keeps
      have uncalled := (declares.reconstructs_iff described built).mp reconstructs
      exact .inr ⟨keeps, uncalled.resolve_left empty⟩
  · rintro (rfl | ⟨keeps, uncalled⟩)
    · exact reconstructs_nil isClass.name built
    · have declares := isClass.declares spelled described module keeps
      exact (declares.reconstructs_iff described built).mpr (.inr uncalled)

/-- A sheet with a field that has the name of the last step in the making of a record. -/
def startSheet : Sheet :=
  { name := "Item", cells := [⟨0, 0, "id"⟩, ⟨0, 1, "__post_init__"⟩, ⟨3, 0, "int"⟩, ⟨3, 1, "int"⟩,
      ⟨4, 0, "1"⟩, ⟨4, 1, "2"⟩] }

def startDescription : Description where
  schema := "Game"
  sheet := "Item"
  key := { name := "id", column := 0, declaredType := "int", comment := "", enumeration := none,
           enumBody := "" }
  others := [{ name := "__post_init__", column := 1, declaredType := "int", comment := "",
               enumeration := none, enumBody := "" }]
  rows := [⟨4, [("id", "1"), ("__post_init__", "2")]⟩]

theorem accepted_start : accepted { name := "Game", sheets := [startSheet] } = [startDescription] := by
  have ordered (r : Int) : startSheet.row r = startSheet.cells.filter fun c => c.row == r :=
    row_of_ordered (by decide) r
  have declared : collectEnums { name := "Game", sheets := [startSheet] } = [] := by
    have none : populatedColumns startSheet enumRow = [] := by
      rw [populatedColumns, ordered]
      decide
    simp only [collectEnums, List.foldl, addDeclarations, none]
  have names : populatedColumns startSheet nameRow = [0, 1] := by
    rw [populatedColumns, ordered]
    decide
  have types : populatedColumns startSheet typeRow = [0, 1] := by
    rw [populatedColumns, ordered]
    decide
  have indices : startSheet.rowIndices = [0, 3, 4] := by
    rw [Sheet.rowIndices]
    exact List.mergeSort_of_pairwise (by decide)
  have accepts : Accepts "Game" [] startSheet startDescription := by
    refine ⟨by decide +kernel, ?_, ⟨[], ?_⟩, by decide, rfl, rfl, ?_⟩
    · rw [names, types]
      rfl
    · rw [names]
      rfl
    · rw [readRows, indices]
      decide +kernel
  rw [accepted, interpretSheets, declared]
  simp only [List.map_cons, List.map_nil, interpretIn, accepts.interpretSheet_eq]
  rfl

end TypedSheets
