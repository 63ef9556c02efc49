import TypedSheets.Number.Digits

/-!
# Grids

A workbook is a list of named sheets, and a sheet a finite table of texts at pairs
of coordinates. Rows and columns are counted from zero and need be neither
contiguous nor in order. No two cells of a sheet share their coordinates: the type
carries the proof.
-/

namespace TypedSheets.Grid

open TypedSheets.Number

structure Cell where
  row : Int
  column : Int
  value : String
  deriving Repr, DecidableEq

/-- Two cells at different coordinates. -/
def Cell.Apart (a b : Cell) : Prop := a.row ≠ b.row ∨ a.column ≠ b.column

instance (a b : Cell) : Decidable (a.Apart b) := inferInstanceAs (Decidable (_ ∨ _))

structure Sheet where
  name : String
  cells : List Cell
  apart : cells.Pairwise Cell.Apart := by decide
  deriving Repr, DecidableEq

/-- Two cells that claim the same coordinates. -/
structure CellClash where
  sheet : String
  row : Int
  column : Int
  deriving Repr, DecidableEq

/-- The wording of a clash. -/
def CellClash.message (e : CellClash) : String :=
  "sheet '" ++ e.sheet ++ "' has more than one cell at row=" ++ integerText e.row ++
    " column=" ++ integerText e.column

/-- The first cell whose coordinates an earlier cell has. -/
def firstClash? (earlier : List Cell) : List Cell → Option Cell
  | [] => none
  | cell :: rest =>
    if earlier.any fun e => e.row == cell.row && e.column == cell.column then some cell
    else firstClash? (cell :: earlier) rest

/-- A sheet with the given cells, unless two of them share their coordinates. -/
def Sheet.ofCells (name : String) (cells : List Cell) : Except CellClash Sheet :=
  if apart : cells.Pairwise Cell.Apart then .ok { name, cells, apart }
  else match firstClash? [] cells with
    | some cell => .error ⟨name, cell.row, cell.column⟩
    | none => .error ⟨name, 0, 0⟩

/-- The cells of one row of texts. -/
def rowCells (row : Nat) (texts : List String) : List Cell :=
  texts.zipIdx.map fun (value, column) => { row := row, column := column, value }

/-- The cells of rows of texts, row by row. -/
def cellsOfRows (rows : List (List String)) : List Cell :=
  rows.zipIdx.flatMap fun (texts, row) => rowCells row texts

/-- The cells of one row have different columns. -/
theorem rowCells_apart (row : Nat) (texts : List String) :
    (rowCells row texts).Pairwise Cell.Apart := by
  unfold rowCells
  rw [List.pairwise_map]
  generalize 0 = first
  induction texts generalizing first with
  | nil => exact List.Pairwise.nil
  | cons text rest inductionHypothesis =>
    rw [List.zipIdx_cons, List.pairwise_cons]
    refine ⟨?_, inductionHypothesis (first + 1)⟩
    intro other member
    have later : first + 1 ≤ other.2 := List.le_snd_of_mem_zipIdx member
    exact Or.inr (by simp only [ne_eq, Int.natCast_inj]; omega)

/-- Cells laid out row by row never share their coordinates. -/
theorem cellsOfRows_apart (rows : List (List String)) :
    (cellsOfRows rows).Pairwise Cell.Apart := by
  unfold cellsOfRows
  rw [List.pairwise_flatMap]
  refine ⟨fun entry _ => rowCells_apart entry.2 entry.1, ?_⟩
  generalize 0 = first
  induction rows generalizing first with
  | nil => exact List.Pairwise.nil
  | cons texts rest inductionHypothesis =>
    rw [List.zipIdx_cons, List.pairwise_cons]
    refine ⟨?_, inductionHypothesis (first + 1)⟩
    intro other member
    have later : first + 1 ≤ other.2 := List.le_snd_of_mem_zipIdx member
    intro left leftMember right rightMember
    simp only [rowCells, List.mem_map] at leftMember rightMember
    obtain ⟨_, _, rfl⟩ := leftMember
    obtain ⟨_, _, rfl⟩ := rightMember
    exact Or.inl (by simp only [ne_eq, Int.natCast_inj]; omega)

/-- The sheet whose texts stand in rows from the first row and column on. -/
def Sheet.ofRows (name : String) (rows : List (List String)) : Sheet :=
  { name, cells := cellsOfRows rows, apart := cellsOfRows_apart rows }

/-- The cell at a pair of coordinates. -/
def Sheet.cell? (s : Sheet) (row column : Int) : Option Cell :=
  s.cells.find? fun c => c.row == row && c.column == column

/-- The text at a pair of coordinates; the empty text where there is no cell. -/
def Sheet.value (s : Sheet) (row column : Int) : String :=
  match s.cell? row column with
  | some cell => cell.value
  | none => ""

/-- The cells of a row by ascending column. -/
def Sheet.row (s : Sheet) (row : Int) : List Cell :=
  (s.cells.filter fun c => c.row == row).mergeSort fun a b => a.column ≤ b.column

/-- The cells of a column by ascending row. -/
def Sheet.column (s : Sheet) (column : Int) : List Cell :=
  (s.cells.filter fun c => c.column == column).mergeSort fun a b => a.row ≤ b.row

/-- The rows that hold cells, each once, in ascending order. -/
def Sheet.rowIndices (s : Sheet) : List Int :=
  (s.cells.map Cell.row).eraseDups.mergeSort fun a b => a ≤ b

/-- The last row that holds a cell, or -1. -/
def Sheet.maxRow (s : Sheet) : Int :=
  match s.cells.map Cell.row with
  | [] => -1
  | row :: rest => rest.foldl max row

/-- A decoded schema file. -/
structure Workbook where
  /-- The name of the file without its extension. -/
  name : String
  sheets : List Sheet
  deriving Repr, DecidableEq

/-- The first sheet with a name. -/
def Workbook.sheet? (w : Workbook) (name : String) : Option Sheet :=
  w.sheets.find? fun s => s.name == name

/-- The names of the sheets, in order. -/
def Workbook.sheetNames (w : Workbook) : List String := w.sheets.map Sheet.name

end TypedSheets.Grid
