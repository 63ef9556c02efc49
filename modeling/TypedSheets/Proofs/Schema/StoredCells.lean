import TypedSheets.Proofs.Schema.DataRows
import TypedSheets.Proofs.Schema.EnumNamespace

/-!
# How a sheet is stored

The columns and rows of a sheet are found by walking its cells, while texts are looked up by coordinates.
Still a sheet is interpreted by its texts alone: the order of its cells is of no account, nor are cells
that hold nothing, as they stand in padded rows and columns. The main statement is
`interpretation_of_texts`, for a sheet by itself and for a file.
-/

namespace TypedSheets.Schema

open TypedSheets.Grid TypedSheets.Text

/-- Two sheets with one name and the same texts everywhere. -/
structure SameTexts (s t : Sheet) : Prop where
  name : s.name = t.name
  value : ∀ row column, s.value row column = t.value row column

namespace SameTexts

variable {s t : Sheet}

/-- Sheets have the same texts when each has the cells of the other that are not empty. -/
theorem of_cells (name : s.name = t.name) (included : ∀ c ∈ s.cells, c.value ≠ "" → c ∈ t.cells)
    (others : ∀ c ∈ t.cells, c.value ≠ "" → c ∈ s.cells) : SameTexts s t := by
  have carried {a b : Sheet} (kept : ∀ c ∈ a.cells, c.value ≠ "" → c ∈ b.cells) {row column : Int}
      (written : a.value row column ≠ "") : b.value row column = a.value row column := by
    obtain ⟨c, member, rfl, rfl, own⟩ := Sheet.mem_of_value written
    rw [← own, Sheet.value_of_mem (kept c member (own ▸ written))]
  refine ⟨name, fun row column => ?_⟩
  by_cases written : s.value row column = ""
  · by_cases empty : t.value row column = ""
    · rw [written, empty]
    · exact carried others empty
  · exact (carried included written).symm

/-- They have the same header, -/
theorem header (same : SameTexts s t) : SameHeader s t :=
  ⟨same.name, fun row column _ _ => same.value row column⟩

/-- and one description when both are accepted: the header decides on the fields, and the texts of these
on the rows. -/
theorem description_eq (same : SameTexts s t) {schema : String} {known : EnumTable} {d e : Description}
    (first : interpretSheet schema known s = .ok d) (second : interpretSheet schema known t = .ok e) :
    d = e := by
  have headers : d.header = e.header := by
    have outcomes := same.header.interpretSheet_eq schema known
    rw [first, second] at outcomes
    exact Except.ok.inj outcomes
  have fields : d.fields = e.fields := by
    show d.header.fields = e.header.fields
    rw [headers]
  have rows : d.rows = e.rows := by
    rw [(accepts_of_interpretSheet first).rows, (accepts_of_interpretSheet second).rows, fields]
    exact readRows_congr same.value e.fields
  calc d = { d.header with rows := d.rows } := rfl
    _ = { e.header with rows := e.rows } := by rw [headers, rows]
    _ = e := rfl

theorem interpretSheet_eq (same : SameTexts s t) (schema : String) (known : EnumTable) :
    interpretSheet schema known s = interpretSheet schema known t :=
  eq_of_map_eq (same.header.interpretSheet_eq schema known) fun _ _ first second =>
    same.description_eq first second

theorem interpretIn_eq (same : SameTexts s t) (schema : String) (enums : EnumTable) :
    interpretIn schema enums s = interpretIn schema enums t := by
  simp only [interpretIn, same.interpretSheet_eq, same.header.refuse_eq]

end SameTexts

/-- A sheet is accepted with one description, or refused in one way, however its texts are stored; and a
file declares the same enumerations, and has the same descriptions and refusals. -/
theorem interpretation_of_texts :
    (∀ s t, SameTexts s t → ∀ schema known,
      interpretSheet schema known s = interpretSheet schema known t) ∧
    ∀ w v : Workbook, w.name = v.name → List.Forall₂ SameTexts w.sheets v.sheets →
      collectEnums w = collectEnums v ∧ interpretSheets w = interpretSheets v ∧
        accepted w = accepted v ∧ refused w = refused v := by
  refine ⟨fun s t same schema known => same.interpretSheet_eq schema known, fun w v name sheets => ?_⟩
  have headers : SameHeaders w v := ⟨name, sheets.imp fun _ _ same => same.header⟩
  have enums : collectEnums w = collectEnums v := headers.collectEnums_eq
  have outcomes : interpretSheets w = interpretSheets v := by
    rw [interpretSheets, interpretSheets, name, enums]
    exact map_eq_of_forall₂ sheets fun _ _ same => same.interpretIn_eq v.name (collectEnums v)
  exact ⟨enums, outcomes, congrArg (List.filterMap _) outcomes, headers.refused_eq⟩

/-- The texts of `weaponSheet` from the last cell to the first, with a padded row and column. -/
def paddedWeaponSheet : Sheet :=
  { name := "Weapon", cells := [⟨5, 0, ""⟩, ⟨5, 1, ""⟩, ⟨4, 2, ""⟩, ⟨4, 1, "Sword"⟩, ⟨4, 0, "7"⟩,
      ⟨3, 2, ""⟩, ⟨3, 1, "Kind"⟩, ⟨3, 0, "int"⟩, ⟨1, 0, ""⟩, ⟨0, 2, ""⟩, ⟨0, 1, "kind"⟩, ⟨0, 0, "id"⟩] }

def paddedArmory : Workbook := { armory with sheets := [paddedWeaponSheet, kindSheet] }

/-- Both have the same texts, so the padded sheet has the description of the other. -/
theorem interpretation_of_texts_padded :
    SameTexts weaponSheet paddedWeaponSheet ∧ List.Forall₂ SameTexts armory.sheets paddedArmory.sheets ∧
      interpretSheet "Armory" [("Kind", kindEnumeration)] paddedWeaponSheet = .ok weaponDescription ∧
      collectEnums paddedArmory = [("Kind", kindEnumeration)] ∧
      accepted paddedArmory = [weaponDescription] := by
  have same : SameTexts weaponSheet paddedWeaponSheet := .of_cells rfl (by decide) (by decide)
  have sheets : List.Forall₂ SameTexts armory.sheets paddedArmory.sheets :=
    .cons same (.cons ⟨rfl, fun _ _ => rfl⟩ .nil)
  obtain ⟨alone, together⟩ := interpretation_of_texts
  obtain ⟨enums, -, described, -⟩ := together armory paddedArmory rfl sheets
  refine ⟨same, sheets, ?_, ?_, ?_⟩
  · rw [← alone weaponSheet paddedWeaponSheet same]
    exact (accepts_of_interpretIn interpretIn_weaponSheet).1.interpretSheet_eq
  · rw [← enums, collectEnums_armory]
  · rw [← described, accepted_armory]

end TypedSheets.Schema
