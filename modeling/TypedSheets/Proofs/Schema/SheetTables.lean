import Mathlib.Data.List.Nodup
import Mathlib.Data.List.Pairwise
import Mathlib.Data.List.Sort
import TypedSheets.Grid

/-!
# Sheets as tables

A sheet is asked in two ways. A single cell is looked up at its coordinates, in an index that is filled cell
by cell and refuses a second cell where one stands. Whole rows and columns are picked from the list of cells
and sorted. Both ways show one table: the index is filled exactly when no two cells share their coordinates,
and then what is looked up is what the rows and columns hold. The main statement is
`Sheet.ofCells_isTable`.
-/

namespace TypedSheets.Grid

variable {s : Sheet} {c : Cell} {row column : Int}

instance : Std.Symm Cell.Apart where
  symm _ _ apart := apart.imp Ne.symm Ne.symm

/-- Cells that are not apart share their coordinates. -/
theorem Cell.not_apart_iff {a b : Cell} : ¬a.Apart b ↔ a.row = b.row ∧ a.column = b.column := by
  rw [Cell.Apart, not_or, not_not, not_not]

section Lookup

/-- What is looked up stands at the coordinates that are asked for, -/
theorem Sheet.place_of_cell? (found : s.cell? row column = some c) :
    c ∈ s.cells ∧ c.row = row ∧ c.column = column := by
  have place := List.find?_some found
  rw [Bool.and_eq_true, beq_iff_eq, beq_iff_eq] at place
  exact ⟨List.mem_of_find?_eq_some found, place⟩

/-- and what stands there is looked up, since different cells stand at different coordinates. -/
theorem Sheet.cell?_eq_some_iff :
    s.cell? row column = some c ↔ c ∈ s.cells ∧ c.row = row ∧ c.column = column := by
  refine ⟨Sheet.place_of_cell?, ?_⟩
  rintro ⟨member, rfl, rfl⟩
  cases other : s.cell? c.row c.column with
  | none => exact absurd (List.find?_eq_none.mp other c member) (by simp)
  | some o =>
    obtain ⟨among, place⟩ := Sheet.place_of_cell? other
    by_contra different
    have apart : o.Apart c := s.apart.forall among member fun same => different (congrArg some same)
    exact Cell.not_apart_iff.mpr place apart

/-- Nothing is looked up where no cell stands. -/
theorem Sheet.cell?_eq_none_iff :
    s.cell? row column = none ↔ ∀ c ∈ s.cells, ¬(c.row = row ∧ c.column = column) := by
  rw [Option.eq_none_iff_forall_ne_some]
  simp only [ne_eq, Sheet.cell?_eq_some_iff, not_and]

/-- The text at the coordinates of a cell is that of the cell. -/
theorem Sheet.value_of_mem {s : Sheet} {c : Cell} (member : c ∈ s.cells) :
    s.value c.row c.column = c.value := by
  rw [Sheet.value, Sheet.cell?_eq_some_iff.mpr ⟨member, rfl, rfl⟩]

/-- A text that is not empty stands in a cell. -/
theorem Sheet.mem_of_value {s : Sheet} {row column : Int} (written : s.value row column ≠ "") :
    ∃ c ∈ s.cells, c.row = row ∧ c.column = column ∧ c.value = s.value row column := by
  unfold Sheet.value at *
  split at written
  · next c found =>
    obtain ⟨member, own, place⟩ := Sheet.place_of_cell? found
    exact ⟨c, member, own, place, rfl⟩
  · exact absurd rfl written

end Lookup

section Lines

/-- Sorting by an integer puts it in ascending order. -/
theorem pairwise_sorted {α : Type} (key : α → Int) (all : List α) :
    (all.mergeSort fun a b => key a ≤ key b).Pairwise fun a b => key a ≤ key b := by
  have ordered : (all.mergeSort fun a b => key a ≤ key b).Pairwise fun a b => decide (key a ≤ key b) = true :=
    List.pairwise_mergeSort (fun a b c first second => by simp only [decide_eq_true_eq] at *; omega)
      (fun a b => by simp only [Bool.or_eq_true, decide_eq_true_eq]; omega) _
  exact ordered.imp of_decide_eq_true

variable {across along : Cell → Int} {place : Int} {cells : List Cell}

/-- The cells at one place across the sheet, sorted along it. -/
def lineOf (across along : Cell → Int) (place : Int) (cells : List Cell) : List Cell :=
  (cells.filter fun c => across c == place).mergeSort fun a b => along a ≤ along b

theorem Sheet.row_eq_lineOf (s : Sheet) (row : Int) : s.row row = lineOf Cell.row Cell.column row s.cells := rfl

theorem mem_lineOf : c ∈ lineOf across along place cells ↔ c ∈ cells ∧ across c = place := by
  rw [lineOf, List.mem_mergeSort, List.mem_filter, beq_iff_eq]

/-- No two cells of a line stand at the same place along it: they agree across the sheet, and are apart. -/
theorem pairwise_lineOf (apart : cells.Pairwise fun a b => across a ≠ across b ∨ along a ≠ along b) :
    (lineOf across along place cells).Pairwise fun a b => along a < along b := by
  have ordered : (lineOf across along place cells).Pairwise fun a b => along a ≤ along b := pairwise_sorted along _
  have distinct : (lineOf across along place cells).Pairwise fun a b => across a ≠ across b ∨ along a ≠ along b :=
    ((List.mergeSort_perm _ _).pairwise_iff fun apart => apart.imp Ne.symm Ne.symm).mpr (apart.filter _)
  refine (ordered.and distinct).imp_of_mem fun {a b} left right both => ?_
  have same : across a = across b := (mem_lineOf.mp left).2.trans (mem_lineOf.mp right).2.symm
  exact lt_of_le_of_ne both.1 (both.2.resolve_left (not_not_intro same))

theorem Sheet.pairwise_row (s : Sheet) (row : Int) : (s.row row).Pairwise fun a b => a.column < b.column :=
  pairwise_lineOf s.apart

theorem Sheet.pairwise_column (s : Sheet) (column : Int) :
    (s.column column).Pairwise fun a b => a.row < b.row :=
  pairwise_lineOf (s.apart.imp Or.symm)

/-- A line holds the cells of its place that are looked up at their own coordinates. -/
theorem Sheet.mem_lineOf_iff_cell? :
    c ∈ lineOf across along place s.cells ↔ across c = place ∧ s.cell? c.row c.column = some c := by
  rw [mem_lineOf, Sheet.cell?_eq_some_iff, and_comm]
  simp only [and_true]

end Lines

section Rows

/-- A list without its repetitions has none. -/
theorem nodup_eraseDups {α : Type} [BEq α] [LawfulBEq α] (all : List α) : all.eraseDups.Nodup := by
  match all with
  | [] => exact List.nodup_nil
  | first :: rest =>
    rw [List.eraseDups_cons, List.nodup_cons]
    refine ⟨?_, nodup_eraseDups _⟩
    rw [List.mem_eraseDups, List.mem_filter]
    simp
termination_by all.length
decreasing_by exact Nat.lt_succ_of_le (List.length_filter_le _ _)

/-- The rows of a sheet are those of its cells. -/
theorem Sheet.mem_rowIndices {s : Sheet} {row : Int} :
    row ∈ s.rowIndices ↔ ∃ c ∈ s.cells, c.row = row := by
  rw [Sheet.rowIndices, List.mem_mergeSort, List.mem_eraseDups, List.mem_map]

/-- They are listed in ascending order, each once. -/
theorem Sheet.pairwise_rowIndices (s : Sheet) : s.rowIndices.Pairwise (· < ·) := by
  have ordered : s.rowIndices.Pairwise (· ≤ ·) := pairwise_sorted id _
  have distinct : s.rowIndices.Pairwise (· ≠ ·) :=
    (List.mergeSort_perm _ _).nodup_iff.mpr (nodup_eraseDups _)
  exact (ordered.and distinct).imp fun both => lt_of_le_of_ne both.1 both.2

/-- The rows one after another hold every cell once. -/
theorem Sheet.flatMap_row_perm (s : Sheet) : (s.rowIndices.flatMap s.row).Perm s.cells := by
  have distinct : s.cells.Nodup := s.apart.imp fun apart same => by
    subst same
    exact apart.elim (· rfl) (· rfl)
  have once : (s.rowIndices.flatMap s.row).Nodup := by
    refine List.nodup_flatMap.mpr ⟨fun row _ => (s.pairwise_row row).imp fun ascends same => ?_, ?_⟩
    · exact absurd (congrArg Cell.column same) (ne_of_lt ascends)
    · refine s.pairwise_rowIndices.imp fun {above below} ascends c upper lower => ?_
      exact absurd ((mem_lineOf.mp upper).2.symm.trans (mem_lineOf.mp lower).2) (ne_of_lt ascends)
  refine (List.perm_ext_iff_of_nodup once distinct).mpr fun c => ?_
  simp only [List.mem_flatMap, Sheet.mem_rowIndices, Sheet.row_eq_lineOf, mem_lineOf]
  constructor
  · rintro ⟨_, -, member, -⟩
    exact member
  · intro member
    exact ⟨c.row, ⟨c, member, rfl⟩, member, rfl⟩

theorem Sheet.maxRow_eq (s : Sheet) : s.maxRow = (s.cells.map Cell.row).max?.getD (-1) := by
  rw [Sheet.maxRow]
  cases s.cells.map Cell.row with
  | nil => rfl
  | cons row rest => rw [List.max?_cons', Option.getD_some]

/-- The last of the rows is the greatest. -/
theorem Sheet.getLast?_rowIndices (s : Sheet) :
    s.rowIndices = [] ∧ s.maxRow = -1 ∨ s.rowIndices.getLast? = some s.maxRow := by
  rw [Sheet.maxRow_eq]
  cases greatest : (s.cells.map Cell.row).max? with
  | none =>
    rw [List.max?_eq_none_iff, List.map_eq_nil_iff] at greatest
    refine .inl ⟨List.eq_nil_iff_forall_not_mem.mpr fun row listed => ?_, rfl⟩
    obtain ⟨c, member, -⟩ := Sheet.mem_rowIndices.mp listed
    rw [greatest] at member
    cases member
  | some last =>
    obtain ⟨member, greatest⟩ := List.max?_eq_some_iff.mp greatest
    have listed : last ∈ s.rowIndices := Sheet.mem_rowIndices.mpr (List.mem_map.mp member)
    have nonempty := List.ne_nil_of_mem listed
    right
    rw [List.getLast?_eq_some_getLast nonempty, Option.getD_some]
    refine congrArg some (le_antisymm (greatest _ ?_) ?_)
    · exact List.mem_map.mpr (Sheet.mem_rowIndices.mp (List.getLast_mem nonempty))
    · exact (s.pairwise_rowIndices.imp le_of_lt).rel_getLast listed

end Rows

section Index

variable {table : Std.HashMap (Int × Int) Cell} {before cells : List Cell} (name : String)

/-- A cell enters an index at its coordinates, unless these are taken. -/
def enterCell (table : Std.HashMap (Int × Int) Cell) (c : Cell) :
    Except CellClash (Std.HashMap (Int × Int) Cell) :=
  if table.contains (c.row, c.column) then .error ⟨name, c.row, c.column⟩
  else .ok (table.insert (c.row, c.column) c)

/-- The index of a list of cells, which enter it one after another. -/
def indexCells (cells : List Cell) : Except CellClash (Std.HashMap (Int × Int) Cell) :=
  cells.foldlM (enterCell name) ∅

/-- An index of cells answers like a search among them. -/
def IsIndexOf (table : Std.HashMap (Int × Int) Cell) (cells : List Cell) : Prop :=
  ∀ row column, table[(row, column)]? = cells.find? fun c => c.row == row && c.column == column

theorem isIndexOf_nil : IsIndexOf ∅ [] := fun _ _ => Std.HashMap.getElem?_empty

/-- Coordinates are taken in an index where a cell has them. -/
theorem IsIndexOf.contains_iff (indexed : IsIndexOf table before) (c : Cell) :
    table.contains (c.row, c.column) = true ↔ ∃ e ∈ before, e.row = c.row ∧ e.column = c.column := by
  rw [← Std.HashMap.isSome_getElem?_eq_contains, indexed, List.find?_isSome]
  simp only [Bool.and_eq_true, beq_iff_eq]

/-- A cell at coordinates that are taken is refused with these, -/
theorem IsIndexOf.enterCell_taken (indexed : IsIndexOf table before)
    (taken : ∃ e ∈ before, e.row = c.row ∧ e.column = c.column) :
    enterCell name table c = .error ⟨name, c.row, c.column⟩ := by
  rw [enterCell, if_pos ((indexed.contains_iff c).mpr taken)]

/-- and one that is apart from all others enters. -/
theorem IsIndexOf.enterCell_apart (indexed : IsIndexOf table before) (apart : ∀ e ∈ before, e.Apart c) :
    ∃ next, enterCell name table c = .ok next ∧ IsIndexOf next (before ++ [c]) := by
  have free : ¬table.contains (c.row, c.column) = true := by
    rw [indexed.contains_iff]
    rintro ⟨e, member, place⟩
    exact Cell.not_apart_iff.mpr place (apart e member)
  refine ⟨_, by rw [enterCell, if_neg free], fun row column => ?_⟩
  rw [Std.HashMap.getElem?_insert, List.find?_append, ← indexed]
  by_cases own : c.row = row ∧ c.column = column
  · obtain ⟨rfl, rfl⟩ := own
    have absent : table[(c.row, c.column)]? = none := by
      rwa [← Std.HashMap.isSome_getElem?_eq_contains, Bool.not_eq_true, Option.isSome_eq_false_iff,
        Option.isNone_iff_eq_none] at free
    simp [absent]
  · have other : ((c.row, c.column) == (row, column)) = false := by simpa using own
    have missed : (c.row == row && c.column == column) = false := by simpa using own
    simp [other, missed]

/-- So an index takes in whatever cells are apart. -/
theorem IsIndexOf.foldlM_enterCell (indexed : IsIndexOf table before)
    (apart : (before ++ cells).Pairwise Cell.Apart) :
    ∃ next, cells.foldlM (enterCell name) table = .ok next ∧ IsIndexOf next (before ++ cells) := by
  induction cells generalizing table before with
  | nil => exact ⟨table, rfl, by rwa [List.append_nil]⟩
  | cons c rest inductionHypothesis =>
    have front : ∀ e ∈ before, e.Apart c := fun e member =>
      (List.pairwise_append.mp apart).2.2 e member c List.mem_cons_self
    obtain ⟨next, entered, grown⟩ := indexed.enterCell_apart name front
    rw [List.append_cons] at apart ⊢
    obtain ⟨last, run, whole⟩ := inductionHypothesis grown apart
    exact ⟨last, by rw [List.foldlM_cons, entered]; exact run, whole⟩

/-- A cell of a list is the first clash when a cell in front of it has its coordinates, and those in front of
it are apart. -/
def IsFirstClash (cells : List Cell) (c : Cell) : Prop :=
  ∃ front back, cells = front ++ c :: back ∧ front.Pairwise Cell.Apart ∧
    ∃ e ∈ front, e.row = c.row ∧ e.column = c.column

/-- At the first clash the index refuses. -/
theorem IsFirstClash.indexCells_eq (clash : IsFirstClash cells c) :
    indexCells name cells = .error ⟨name, c.row, c.column⟩ := by
  obtain ⟨front, back, rfl, apart, taken⟩ := clash
  obtain ⟨table, filled, indexed⟩ := isIndexOf_nil.foldlM_enterCell name apart
  rw [indexCells, List.foldlM_append, filled]
  show (c :: back).foldlM (enterCell name) table = _
  rw [List.foldlM_cons, indexed.enterCell_taken name taken]
  rfl

/-- Cells that clash are not apart. -/
theorem IsFirstClash.not_apart (clash : IsFirstClash cells c) : ¬cells.Pairwise Cell.Apart := by
  obtain ⟨front, back, rfl, -, e, member, place⟩ := clash
  intro apart
  exact Cell.not_apart_iff.mpr place ((List.pairwise_append.mp apart).2.2 e member c List.mem_cons_self)

/-- The search for a clash, behind cells that are apart, finds the first one or has seen all cells apart. -/
theorem firstClash?_spec (cells : List Cell) (apart : before.Pairwise Cell.Apart) :
    match firstClash? before.reverse cells with
    | some c => IsFirstClash (before ++ cells) c
    | none => (before ++ cells).Pairwise Cell.Apart := by
  induction cells generalizing before with
  | nil => simpa [firstClash?] using apart
  | cons c rest inductionHypothesis =>
    rw [firstClash?]
    by_cases taken : ∃ e ∈ before, e.row = c.row ∧ e.column = c.column
    · rw [if_pos (by simpa using taken)]
      exact ⟨before, rest, rfl, apart, taken⟩
    · rw [if_neg (by simpa using taken)]
      have grown : (before ++ [c]).Pairwise Cell.Apart := by
        refine List.pairwise_append.mpr ⟨apart, List.pairwise_singleton _ _, fun e member o same => ?_⟩
        rw [List.mem_singleton.mp same]
        by_contra together
        exact taken ⟨e, member, Cell.not_apart_iff.mp together⟩
      have behind := inductionHypothesis grown
      rwa [List.reverse_append, List.reverse_singleton, List.singleton_append, List.append_assoc,
        List.singleton_append] at behind

/-- Two cells of a list that share their coordinates, the one before the other. -/
def ShareCoordinates (cells : List Cell) : Prop :=
  ∃ first second : Fin cells.length, first < second ∧
    cells[first].row = cells[second].row ∧ cells[first].column = cells[second].column

theorem shareCoordinates_iff : ShareCoordinates cells ↔ ¬cells.Pairwise Cell.Apart := by
  rw [List.pairwise_iff_getElem]
  constructor
  · rintro ⟨first, second, before, place⟩ apart
    exact Cell.not_apart_iff.mpr place (apart first second first.isLt second.isLt before)
  · intro together
    push Not at together
    obtain ⟨first, second, inside, within, before, place⟩ := together
    exact ⟨⟨first, inside⟩, ⟨second, within⟩, before, Cell.not_apart_iff.mp place⟩

end Index

section Construction

variable {name : String} {cells : List Cell} {clash : CellClash}

/-- A sheet is made of cells that are apart, which it keeps as they are, -/
theorem Sheet.ofCells_eq_ok_iff :
    Sheet.ofCells name cells = .ok s ↔ cells.Pairwise Cell.Apart ∧ s.name = name ∧ s.cells = cells := by
  rw [Sheet.ofCells]
  constructor
  · intro made
    split at made
    · next apart =>
      cases made
      exact ⟨apart, rfl, rfl⟩
    · split at made <;> cases made
  · rintro ⟨apart, rfl, rfl⟩
    rw [dif_pos apart]

/-- and other cells are refused with the coordinates of the first clash. -/
theorem Sheet.firstClash_of_ofCells (refused : Sheet.ofCells name cells = .error clash) :
    ∃ c, IsFirstClash cells c ∧ clash = ⟨name, c.row, c.column⟩ := by
  have searched := firstClash?_spec cells List.Pairwise.nil
  rw [List.reverse_nil, List.nil_append] at searched
  rw [Sheet.ofCells] at refused
  split at refused
  · cases refused
  · next together =>
    cases found : firstClash? [] cells with
    | none =>
      rw [found] at searched
      exact absurd searched together
    | some c =>
      rw [found] at searched refused
      cases refused
      exact ⟨c, searched, rfl⟩

/-- The cells of a refused sheet are just those of which two share their coordinates. -/
theorem Sheet.ofCells_refused_iff :
    (∃ clash, Sheet.ofCells name cells = .error clash) ↔ ShareCoordinates cells := by
  rw [shareCoordinates_iff]
  constructor
  · rintro ⟨clash, refused⟩
    obtain ⟨c, first, -⟩ := Sheet.firstClash_of_ofCells refused
    exact first.not_apart
  · intro together
    cases made : Sheet.ofCells name cells with
    | error clash => exact ⟨clash, rfl⟩
    | ok s => exact absurd (Sheet.ofCells_eq_ok_iff.mp made).1 together

/-- The index of a sheet and its list of cells show one table. -/
structure IsTable (s : Sheet) (table : Std.HashMap (Int × Int) Cell) : Prop where
  /-- The index gives what is looked up. -/
  indexed : ∀ row column, table[(row, column)]? = s.cell? row column
  /-- What is looked up is the one cell that stands there, -/
  found : ∀ row column c, s.cell? row column = some c ↔ c ∈ s.cells ∧ c.row = row ∧ c.column = column
  /-- and nothing where none does. -/
  missing : ∀ row column, s.cell? row column = none ↔ ∀ c ∈ s.cells, ¬(c.row = row ∧ c.column = column)
  rowAscends : ∀ row, (s.row row).Pairwise fun a b => a.column < b.column
  columnAscends : ∀ column, (s.column column).Pairwise fun a b => a.row < b.row
  /-- Rows and columns hold the cells that are looked up at their own coordinates. -/
  mem_row : ∀ row c, c ∈ s.row row ↔ c.row = row ∧ table[(c.row, c.column)]? = some c
  mem_column : ∀ column c, c ∈ s.column column ↔ c.column = column ∧ table[(c.row, c.column)]? = some c
  /-- The rows one after another hold every cell once. -/
  rows : (s.rowIndices.flatMap s.row).Perm s.cells
  indicesAscend : s.rowIndices.Pairwise (· < ·)
  last : s.rowIndices = [] ∧ s.maxRow = -1 ∨ s.rowIndices.getLast? = some s.maxRow

/-- An index of the cells of a sheet is such a table. -/
theorem IsIndexOf.isTable {table : Std.HashMap (Int × Int) Cell} (indexed : IsIndexOf table s.cells) :
    IsTable s table where
  indexed := indexed
  found _ _ _ := Sheet.cell?_eq_some_iff
  missing _ _ := Sheet.cell?_eq_none_iff
  rowAscends := s.pairwise_row
  columnAscends := s.pairwise_column
  mem_row row c := by rw [indexed]; exact Sheet.mem_lineOf_iff_cell?
  mem_column column c := by rw [indexed]; exact Sheet.mem_lineOf_iff_cell?
  rows := s.flatMap_row_perm
  indicesAscend := s.pairwise_rowIndices
  last := s.getLast?_rowIndices

/-- Cells make a sheet unless two of them share their coordinates; the refusal names those of the first cell
that an earlier one stands in the way of, and filling the index stops at the same cell. A sheet keeps its
name and its cells, its index is filled, and both show one table. -/
theorem Sheet.ofCells_isTable (name : String) (cells : List Cell) :
    ((∃ clash, Sheet.ofCells name cells = .error clash) ↔ ShareCoordinates cells) ∧
    (∀ clash, Sheet.ofCells name cells = .error clash → indexCells name cells = .error clash ∧
      ∃ c, IsFirstClash cells c ∧ clash = ⟨name, c.row, c.column⟩) ∧
    ∀ s, Sheet.ofCells name cells = .ok s → s.name = name ∧ s.cells = cells ∧
      ∃ table, indexCells name cells = .ok table ∧ IsTable s table := by
  refine ⟨Sheet.ofCells_refused_iff, fun clash refused => ?_, fun s made => ?_⟩
  · obtain ⟨c, first, rfl⟩ := Sheet.firstClash_of_ofCells refused
    exact ⟨first.indexCells_eq name, c, first, rfl⟩
  · obtain ⟨apart, rfl, rfl⟩ := Sheet.ofCells_eq_ok_iff.mp made
    obtain ⟨table, filled, indexed⟩ := isIndexOf_nil.foldlM_enterCell s.name apart
    exact ⟨rfl, rfl, table, filled, indexed.isTable⟩

/-- A sheet with gaps, whose cells come in no order. -/
def scattered : Sheet where
  name := "S"
  cells := [⟨4, 3, "d"⟩, ⟨10, 2, "c"⟩, ⟨4, 0, "a"⟩, ⟨-1, 0, "x"⟩]

theorem Sheet.ofCells_isTable_scattered :
    (∃ table, indexCells "S" scattered.cells = .ok table ∧ IsTable scattered table ∧
      table[((10 : Int), (2 : Int))]? = some ⟨10, 2, "c"⟩) ∧
    indexCells "S" (scattered.cells ++ [⟨10, 2, "e"⟩]) = .error ⟨"S", 10, 2⟩ := by
  constructor
  · obtain ⟨-, -, table, filled, isTable⟩ :=
      (Sheet.ofCells_isTable "S" scattered.cells).2.2 scattered (by decide +kernel)
    exact ⟨table, filled, isTable, (isTable.indexed 10 2).trans (by decide +kernel)⟩
  · have refused : Sheet.ofCells "S" (scattered.cells ++ [⟨10, 2, "e"⟩]) = .error ⟨"S", 10, 2⟩ := by
      decide +kernel
    exact ((Sheet.ofCells_isTable "S" _).2.1 _ refused).1

end Construction

end TypedSheets.Grid
