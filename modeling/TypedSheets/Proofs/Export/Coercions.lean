import Mathlib.Data.List.Forall2
import TypedSheets.Coercion
import TypedSheets.Proofs.Outcomes
import TypedSheets.Proofs.RelatedLists

/-!
# What coercion gives

Rows that coerce give one record each, and a record has one value for each field, under its name.
A refused cell points at its sheet.
-/

namespace TypedSheets

open TypedSheets.Schema TypedSheets.Text

variable {schema sheet : String}

/-- Parts in sequence end with what each of them ends with. -/
theorem forall₂_of_mapM {ε α β : Type} {part : α → Except ε β} {all : List α} {results : List β}
    (ended : all.mapM part = .ok results) : List.Forall₂ (fun a b => part a = .ok b) all results := by
  induction all generalizing results with
  | nil =>
    cases ended
    exact .nil
  | cons a rest inductionHypothesis =>
    obtain ⟨first, others, own, later, rfl⟩ := mapM_cons_eq_ok.mp ended
    exact .cons own (inductionHypothesis later)

/-- The cells of a row are coerced one after another, -/
theorem coerceRow_eq_mapM (row : DataRow) (fields : List Field) : coerceRow schema sheet row fields =
    fields.mapM fun f => (coerceValue schema sheet f row).map (f.name, ·) := by
  induction fields with
  | nil => rfl
  | cons f rest inductionHypothesis =>
    rw [coerceRow, List.mapM_cons, ← inductionHypothesis]
    cases coerceValue schema sheet f row with
    | error e => rfl
    | ok value => cases coerceRow schema sheet row rest <;> rfl

/-- and so are the rows. -/
theorem coerceRows_eq_mapM (fields : List Field) (rows : List DataRow) : coerceRows schema sheet fields rows =
    rows.mapM fun row => coerceRow schema sheet row fields := by
  induction rows with
  | nil => rfl
  | cons row rest inductionHypothesis =>
    rw [coerceRows, List.mapM_cons, ← inductionHypothesis]
    cases coerceRow schema sheet row fields with
    | error e => rfl
    | ok entries => cases coerceRows schema sheet fields rest <;> rfl

/-- The values of a row, field by field. -/
theorem coerceRow_ok {row : DataRow} {fields : List Field} {entries : Entries}
    (coerced : coerceRow schema sheet row fields = .ok entries) :
    List.Forall₂ (fun f entry => entry.1 = f.name ∧ coerceValue schema sheet f row = .ok entry.2)
      fields entries := by
  rw [coerceRow_eq_mapM] at coerced
  refine (forall₂_of_mapM coerced).imp fun f entry own => ?_
  obtain ⟨value, read, rfl⟩ := map_eq_ok.mp own
  exact ⟨rfl, read⟩

/-- The records of the rows, row by row. -/
theorem coerceRows_ok {fields : List Field} {rows : List DataRow} {records : List Entries}
    (coerced : coerceRows schema sheet fields rows = .ok records) :
    List.Forall₂ (fun row entries => coerceRow schema sheet row fields = .ok entries)
      rows records := by
  rw [coerceRows_eq_mapM] at coerced
  exact forall₂_of_mapM coerced

/-- A row is refused for its first cell that is, -/
theorem coerceRow_eq_error {row : DataRow} {fields : List Field} {e : CoercionError} :
    coerceRow schema sheet row fields = .error e ↔
      ∃ left f right, fields = left ++ f :: right ∧ coerceValue schema sheet f row = .error e ∧
        ∃ entries, coerceRow schema sheet row left = .ok entries := by
  simp only [coerceRow_eq_mapM, mapM_eq_error_iff, mapM_eq_ok_iff, map_eq_error]

/-- and the rows are refused for the first of them. -/
theorem coerceRows_eq_error {fields : List Field} {rows : List DataRow} {e : CoercionError} :
    coerceRows schema sheet fields rows = .error e ↔
      ∃ above row below, rows = above ++ row :: below ∧ coerceRow schema sheet row fields = .error e ∧
        ∀ other ∈ above, ∃ entries, coerceRow schema sheet other fields = .ok entries := by
  rw [coerceRows_eq_mapM, mapM_eq_error_iff]

theorem length_of_buildRecords {d : Description} {records : List Entries}
    (built : buildRecords d = .ok records) : records.length = d.rows.length :=
  (coerceRows_ok built).length_eq.symm

/-- Whatever refuses a cell points at its sheet. -/
theorem coerceValue_place {f : Field} {row : DataRow} {cause : CoercionCause} {place : Place}
    (refused : coerceValue schema sheet f row = .error (.cell cause place)) :
    place.file = schema ∧ place.sheet = sheet := by
  unfold coerceValue at refused
  dsimp only at refused
  split at refused
  · cases refused
  · split at refused
    · cases refused
      exact ⟨rfl, rfl⟩
    · split at refused
      · split at refused
        · cases refused
        · cases refused
          exact ⟨rfl, rfl⟩
      · split at refused
        · cases refused
        · split at refused
          · cases refused
          · cases refused
            exact ⟨rfl, rfl⟩

theorem coerceRow_place {row : DataRow} {fields : List Field} {cause : CoercionCause}
    {place : Place} (refused : coerceRow schema sheet row fields = .error (.cell cause place)) :
    place.file = schema ∧ place.sheet = sheet := by
  obtain ⟨_, f, _, _, own, _⟩ := coerceRow_eq_error.mp refused
  exact coerceValue_place own

theorem coerceRows_place {fields : List Field} {rows : List DataRow} {cause : CoercionCause}
    {place : Place} (refused : coerceRows schema sheet fields rows = .error (.cell cause place)) :
    place.file = schema ∧ place.sheet = sheet := by
  obtain ⟨_, row, _, _, own, _⟩ := coerceRows_eq_error.mp refused
  exact coerceRow_place own

end TypedSheets
