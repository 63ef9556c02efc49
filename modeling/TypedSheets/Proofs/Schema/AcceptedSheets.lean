import Mathlib.Tactic.SplitIfs
import TypedSheets.Proofs.Outcomes
import TypedSheets.Schema.Interpretation

/-!
# What an accepted sheet has passed

A sheet that is accepted has a name that is an identifier, a header that pairs, and columns that
all read; its description holds the fields of the columns and the rows below them.
-/

namespace TypedSheets.Schema

open TypedSheets.Grid TypedSheets.Text

variable {schema : String} {enums : EnumTable} {sheet : Sheet} {d : Description}

/-- The parts of the interpretation of a sheet by itself. -/
structure Accepts (schema : String) (known : EnumTable) (sheet : Sheet) (d : Description) : Prop where
  identifier : isIdentifier sheet.name = true
  header : checkHeader schema sheet (populatedColumns sheet nameRow)
    (populatedColumns sheet typeRow) = .ok ()
  columns : ∃ enums, (populatedColumns sheet nameRow).foldlM (readColumn schema sheet known) {} =
    .ok ⟨d.fields, enums⟩
  apart : ∀ f ∈ d.fields, f.name ∉ (d.fields.filterMap Field.enumeration).map Enumeration.name
  file : d.schema = schema
  named : d.sheet = sheet.name
  rows : d.rows = readRows sheet d.fields

theorem accepts_of_interpretSheet (described : interpretSheet schema enums sheet = .ok d) :
    Accepts schema enums sheet d := by
  unfold interpretSheet at described
  dsimp only at described
  split at described
  · cases described
  · next identifier =>
    obtain ⟨_, header, described⟩ := bind_eq_ok described
    obtain ⟨read, columns, described⟩ := bind_eq_ok described
    split at described
    · cases described
    · next apart =>
      split at described
      · cases described
      · next key others fields =>
        cases described
        obtain ⟨_, table⟩ := read
        subst fields
        rw [List.find?_eq_none] at apart
        refine ⟨by simpa using identifier, header, ⟨table, columns⟩, ?_, rfl, rfl, rfl⟩
        intro f member named
        refine apart f member ?_
        simp only [List.contains_iff_mem]
        exact named

/-- A sheet that has passed all of this is accepted. -/
theorem Accepts.interpretSheet_eq (accepts : Accepts schema enums sheet d) :
    interpretSheet schema enums sheet = .ok d := by
  obtain ⟨identifier, header, ⟨table, columns⟩, apart, rfl, named, rows⟩ := accepts
  have different : d.fields.find? (fun f =>
      ((d.fields.filterMap Field.enumeration).map Enumeration.name).contains f.name) = none := by
    rw [List.find?_eq_none]
    intro f member
    simpa using apart f member
  unfold interpretSheet
  dsimp only
  rw [if_neg (by simp [identifier]), header]
  simp only [columns, bind, Except.bind, different]
  rw [← named, ← rows]
  rfl

/-- A sheet that is accepted as part of its file is accepted by itself, and its enumerations are
those of the file. -/
theorem accepts_of_interpretIn (described : interpretIn schema enums sheet = .ok d) :
    Accepts schema enums sheet d ∧ conflictingField? enums d = none := by
  unfold interpretIn at described
  split at described
  · cases described
  · next own alone =>
    split at described
    · next agreed =>
      cases described
      exact ⟨accepts_of_interpretSheet alone, agreed⟩
    · cases described

/-- The accepted descriptions are those of the sheets. -/
theorem mem_accepted {w : Workbook} :
    d ∈ accepted w ↔ ∃ sheet ∈ w.sheets, interpretIn w.name (collectEnums w) sheet = .ok d := by
  rw [accepted, interpretSheets, List.filterMap_map, List.mem_filterMap]
  refine exists_congr fun sheet => and_congr_right fun _ => ?_
  cases interpreted : interpretIn w.name (collectEnums w) sheet with
  | ok own => simp [interpreted, Except.toOption]
  | error e => simp [interpreted, Except.toOption]

/-- An accepted sheet belongs to its workbook and has an identifier for a name. -/
theorem named_of_accepted {w : Workbook} (described : d ∈ accepted w) :
    d.schema = w.name ∧ isIdentifier d.sheet = true := by
  obtain ⟨sheet, -, interpreted⟩ := mem_accepted.mp described
  have accepts := (accepts_of_interpretIn interpreted).1
  refine ⟨accepts.file, ?_⟩
  rw [accepts.named]
  exact accepts.identifier

/-- The accepted sheets stand in the order of the sheets. -/
theorem accepted_sublist (w : Workbook) :
    ((accepted w).map Description.sheet).Sublist w.sheetNames := by
  rw [accepted, interpretSheets, List.filterMap_map, Workbook.sheetNames]
  induction w.sheets with
  | nil => exact .slnil
  | cons s rest inductionHypothesis =>
    cases verdict : interpretIn w.name (collectEnums w) s with
    | ok d =>
      rw [List.filterMap_cons_some (b := d) (by simp [verdict, Except.toOption]), List.map_cons,
        List.map_cons, (accepts_of_interpretIn verdict).1.named]
      exact inductionHypothesis.cons_cons s.name
    | error e =>
      rw [List.filterMap_cons_none (by simp [verdict, Except.toOption])]
      exact inductionHypothesis.cons s.name

end TypedSheets.Schema
