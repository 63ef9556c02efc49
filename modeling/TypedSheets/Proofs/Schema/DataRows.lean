import TypedSheets.Proofs.Schema.HeaderRows

/-!
# Data rows

The data rows of a sheet are the rows from the first data row on in which a field has a text that is not
blank, in ascending order, each with the texts of all fields. So they are known by the texts of the sheet:
a row of blanks leaves no trace, whether it is stored or not.
-/

namespace TypedSheets.Schema

open TypedSheets.Grid TypedSheets.Text

variable {s t : Sheet} {fields : List Field}

/-- A coordinate of a sheet whose text is not blank. -/
def IsFilled (s : Sheet) (row column : Int) : Prop := isBlankText (s.value row column) = false

instance (s : Sheet) (row column : Int) : Decidable (IsFilled s row column) :=
  inferInstanceAs (Decidable (_ = false))

/-- A text that is not blank stands in a cell, -/
theorem IsFilled.exists_cell {row column : Int} (filled : IsFilled s row column) :
    ∃ c ∈ s.cells, c.row = row ∧ c.column = column ∧ c.value = s.value row column := by
  refine Sheet.mem_of_value fun empty => ?_
  rw [IsFilled, empty] at filled
  exact absurd filled (by decide)

/-- so its row is listed. -/
theorem IsFilled.mem_rowIndices {row column : Int} (filled : IsFilled s row column) :
    row ∈ s.rowIndices := by
  obtain ⟨c, member, place, -⟩ := filled.exists_cell
  exact Sheet.mem_rowIndices.mpr ⟨c, member, place⟩

/-- The rows from the first data row on in which a field is filled. -/
def dataRowNumbers (s : Sheet) (fields : List Field) : List Int :=
  (s.rowIndices.filter fun row => firstDataRow ≤ row).filter fun row =>
    fields.any fun f => !isBlankText (s.value row f.column)

theorem mem_dataRowNumbers {row : Int} :
    row ∈ dataRowNumbers s fields ↔ firstDataRow ≤ row ∧ ∃ f ∈ fields, IsFilled s row f.column := by
  rw [dataRowNumbers, List.mem_filter, List.mem_filter, decide_eq_true_eq, List.any_eq_true]
  simp only [Bool.not_eq_true']
  constructor
  · rintro ⟨⟨-, behind⟩, f, member, filled⟩
    exact ⟨behind, f, member, filled⟩
  · rintro ⟨behind, f, member, filled⟩
    exact ⟨⟨IsFilled.mem_rowIndices filled, behind⟩, f, member, filled⟩

theorem pairwise_dataRowNumbers (s : Sheet) (fields : List Field) :
    (dataRowNumbers s fields).Pairwise (· < ·) :=
  (s.pairwise_rowIndices.filter _).filter _

/-- One row of a sheet, with the texts of the fields. -/
def dataRow (s : Sheet) (fields : List Field) (row : Int) : DataRow :=
  { number := row, values := fields.map fun f => (f.name, s.value row f.column) }

/-- The data rows are those rows, with their texts. -/
theorem readRows_eq (s : Sheet) (fields : List Field) :
    readRows s fields = (dataRowNumbers s fields).map (dataRow s fields) := by
  rw [dataRowNumbers, ← List.filterMap_eq_map, List.filterMap_filter, readRows]
  refine List.filterMap_congr fun row _ => ?_
  simp only [List.any_map]
  rfl

/-- Sheets with the same texts have the same data rows. -/
theorem readRows_congr (same : ∀ row column, s.value row column = t.value row column)
    (fields : List Field) : readRows s fields = readRows t fields := by
  have numbers : dataRowNumbers s fields = dataRowNumbers t fields := by
    have ascending := pairwise_dataRowNumbers s fields
    have others := pairwise_dataRowNumbers t fields
    refine List.Perm.eq_of_pairwise
      (fun a b _ _ first second => absurd (first.trans second) (lt_irrefl a)) ascending others ?_
    refine (List.perm_ext_iff_of_nodup (ascending.imp ne_of_lt) (others.imp ne_of_lt)).mpr fun row => ?_
    simp only [mem_dataRowNumbers, IsFilled, same]
  rw [readRows_eq, readRows_eq, numbers]
  refine List.map_congr_left fun row _ => ?_
  simp only [dataRow, same]

end TypedSheets.Schema
