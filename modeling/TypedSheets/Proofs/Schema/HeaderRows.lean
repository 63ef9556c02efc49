import Mathlib.Data.List.Forall2
import Mathlib.Data.List.Pairwise
import TypedSheets.Proofs.Outcomes
import TypedSheets.Proofs.RelatedLists
import TypedSheets.Proofs.Schema.SheetTables
import TypedSheets.Schema.Interpretation

/-!
# The part of a sheet that the header rows decide

Whether a sheet is accepted, why it is refused, and all of its description but the data rows depend on
the texts of the four header rows alone. The cells behind them may hold anything: other cells, more or
fewer of them, in any order.
-/

namespace TypedSheets.Schema

open TypedSheets.Grid TypedSheets.Text

/-- A column is populated where its text is not blank. -/
theorem mem_populatedColumns {s : Sheet} {row column : Int} :
    column ∈ populatedColumns s row ↔ isBlankText (s.value row column) = false := by
  unfold populatedColumns Sheet.row
  simp only [List.mem_map, List.mem_filter, List.mem_mergeSort, beq_iff_eq, Bool.not_eq_true']
  constructor
  · rintro ⟨c, ⟨⟨member, rfl⟩, written⟩, rfl⟩
    rw [Sheet.value_of_mem member]
    exact written
  · intro written
    have text : s.value row column ≠ "" := by
      intro empty
      rw [empty] at written
      exact absurd written (by decide)
    obtain ⟨c, member, rfl, rfl, own⟩ := Sheet.mem_of_value text
    exact ⟨c, ⟨⟨member, rfl⟩, own ▸ written⟩, rfl⟩

/-- The populated columns stand in ascending order, each once. -/
theorem pairwise_populatedColumns (s : Sheet) (row : Int) :
    (populatedColumns s row).Pairwise (· < ·) := by
  unfold populatedColumns
  exact List.pairwise_map.mpr ((s.pairwise_row row).filter _)

/-- Two sheets with one name whose header rows hold the same texts in every column. -/
structure SameHeader (s t : Sheet) : Prop where
  name : s.name = t.name
  value : ∀ row column, 0 ≤ row → row < firstDataRow → s.value row column = t.value row column

/-- A description without its data rows. -/
def Description.header (d : Description) : Description := { d with rows := [] }

/-- The cells of a sheet above its data rows. -/
def headerCells (s : Sheet) : List Cell := s.cells.filter fun c => c.row < firstDataRow

namespace SameHeader

variable {s t : Sheet}

/-- Sheets with the same cells above their data rows, in whatever order, have the same header. -/
theorem of_perm (name : s.name = t.name) (cells : (headerCells s).Perm (headerCells t)) :
    SameHeader s t := by
  have carried {a b : Sheet} (included : ∀ c ∈ headerCells a, c ∈ headerCells b) {row column : Int}
      (above : row < firstDataRow) (written : a.value row column ≠ "") :
      b.value row column = a.value row column := by
    obtain ⟨c, member, rfl, rfl, own⟩ := Sheet.mem_of_value written
    have among := included c (List.mem_filter.mpr ⟨member, by simpa using above⟩)
    rw [Sheet.value_of_mem (List.mem_filter.mp among).1, own]
  refine ⟨name, fun row column _ above => ?_⟩
  by_cases written : s.value row column = ""
  · by_cases empty : t.value row column = ""
    · rw [written, empty]
    · exact carried (fun c => cells.mem_iff.mpr) above empty
  · exact (carried (fun c => cells.mem_iff.mp) above written).symm

/-- The texts of a header row, as a function of the column. -/
theorem row (same : SameHeader s t) (row : Int) (header : 0 ≤ row ∧ row < firstDataRow) :
    s.value row = t.value row :=
  funext fun column => same.value row column header.1 header.2

theorem populatedColumns_eq (same : SameHeader s t) (row : Int) (header : 0 ≤ row ∧ row < firstDataRow) :
    populatedColumns s row = populatedColumns t row := by
  have ascending := pairwise_populatedColumns s row
  have others := pairwise_populatedColumns t row
  refine List.Perm.eq_of_pairwise (fun a b _ _ first second => absurd (first.trans second) (lt_irrefl a))
    ascending others ?_
  refine (List.perm_ext_iff_of_nodup (ascending.imp ne_of_lt) (others.imp ne_of_lt)).mpr fun column => ?_
  rw [mem_populatedColumns, mem_populatedColumns, same.row row header]

/-- Equal sheets are refused in equal words. -/
theorem refuse_eq {α : Type} (same : SameHeader s t) (schema : String) (cause : ShapeCause) (row column : Int) :
    (refuse schema s cause row column : Except ShapeError α) = refuse schema t cause row column := by
  rw [refuse, refuse, same.name]

theorem checkHeader_eq (same : SameHeader s t) (schema : String) (names types : List Int) :
    checkHeader schema s names types = checkHeader schema t names types := by
  simp only [checkHeader, same.refuse_eq, same.row nameRow (by decide)]

theorem declaredEnum_eq (same : SameHeader s t) (schema : String) :
    declaredEnum schema s = declaredEnum schema t := by
  funext column declared body enums
  simp only [declaredEnum, same.refuse_eq]

theorem readColumn_eq (same : SameHeader s t) (schema : String) (known : EnumTable) :
    readColumn schema s known = readColumn schema t known := by
  funext read column
  simp only [readColumn, same.declaredEnum_eq, same.refuse_eq, same.row nameRow (by decide),
    same.row commentRow (by decide), same.row enumRow (by decide),
    same.row typeRow (by decide)]

/-- What a sheet declares for its file stands in its header. -/
theorem addDeclarations_eq (same : SameHeader s t) (enums : EnumTable) :
    addDeclarations enums s = addDeclarations enums t := by
  simp only [addDeclarations, same.populatedColumns_eq enumRow (by decide),
    same.row enumRow (by decide), same.row typeRow (by decide)]

/-- The interpretation of a sheet by itself, but for the rows. -/
theorem interpretSheet_eq (same : SameHeader s t) (schema : String) (known : EnumTable) :
    (interpretSheet schema known s).map Description.header =
      (interpretSheet schema known t).map Description.header := by
  unfold interpretSheet
  simp only [same.name, same.refuse_eq, same.checkHeader_eq, same.readColumn_eq,
    same.populatedColumns_eq nameRow (by decide), same.populatedColumns_eq typeRow (by decide)]
  split
  · rfl
  · refine map_bind_congr fun _ => map_bind_congr fun read => ?_
    split
    · rfl
    · split <;> rfl

/-- The interpretation of a sheet as part of its file, but for the rows. -/
theorem interpretIn_eq (same : SameHeader s t) (schema : String) (enums : EnumTable) :
    (interpretIn schema enums s).map Description.header =
      (interpretIn schema enums t).map Description.header := by
  have alone := same.interpretSheet_eq schema enums
  unfold interpretIn
  cases left : interpretSheet schema enums s with
  | error e =>
    cases right : interpretSheet schema enums t with
    | error f => rwa [left, right] at alone
    | ok d =>
      rw [left, right] at alone
      cases alone
  | ok d =>
    cases right : interpretSheet schema enums t with
    | error f =>
      rw [left, right] at alone
      cases alone
    | ok other =>
      rw [left, right] at alone
      -- Which field conflicts is asked about the fields, which the header keeps.
      have kept : d.header = other.header := Except.ok.inj alone
      have fields : conflictingField? enums d = conflictingField? enums other := by
        show conflictingField? enums d.header = conflictingField? enums other.header
        rw [kept]
      dsimp only
      rw [fields]
      split
      · exact alone
      · rw [same.refuse_eq]

end SameHeader

/-- Two workbooks with one name, whose sheets have the same header in turn. -/
structure SameHeaders (w v : Workbook) : Prop where
  name : w.name = v.name
  sheets : List.Forall₂ SameHeader w.sheets v.sheets

namespace SameHeaders

variable {w v : Workbook}

theorem sheetNames_eq (same : SameHeaders w v) : w.sheetNames = v.sheetNames :=
  map_eq_of_forall₂ same.sheets fun _ _ header => header.name

/-- The declarations of a file stand in its headers. -/
theorem collectEnums_eq (same : SameHeaders w v) : collectEnums w = collectEnums v := by
  have fold {sheets others : List Sheet} (headers : List.Forall₂ SameHeader sheets others)
      (enums : EnumTable) : sheets.foldl addDeclarations enums = others.foldl addDeclarations enums := by
    induction headers generalizing enums with
    | nil => rfl
    | cons first _ inductionHypothesis =>
      rw [List.foldl_cons, List.foldl_cons, first.addDeclarations_eq, inductionHypothesis]
  exact fold same.sheets []

/-- The same sheets are accepted, with the same fields, and the others are refused for the same
reasons. -/
theorem interpretSheets_eq (same : SameHeaders w v) :
    (interpretSheets w).map (Except.map Description.header) =
      (interpretSheets v).map (Except.map Description.header) := by
  rw [interpretSheets, interpretSheets, same.name, same.collectEnums_eq, List.map_map, List.map_map]
  exact map_eq_of_forall₂ same.sheets fun _ _ header => header.interpretIn_eq _ _

/-- Whatever looks at the outcomes of the sheets without their rows. -/
theorem filterMap_interpretSheets_eq {α : Type} (same : SameHeaders w v)
    (view : Except ShapeError Description → Option α)
    (blind : ∀ outcome, view (outcome.map Description.header) = view outcome) :
    (interpretSheets w).filterMap view = (interpretSheets v).filterMap view := by
  have through (outcomes : List (Except ShapeError Description)) :
      outcomes.filterMap view = (outcomes.map (Except.map Description.header)).filterMap view := by
    rw [List.filterMap_map]
    exact List.filterMap_congr fun outcome _ => (blind outcome).symm
  rw [through (interpretSheets w), same.interpretSheets_eq, ← through]

theorem accepted_eq (same : SameHeaders w v) :
    (accepted w).map Description.header = (accepted v).map Description.header := by
  rw [accepted, accepted, List.map_filterMap, List.map_filterMap]
  refine same.filterMap_interpretSheets_eq _ fun outcome => ?_
  cases outcome <;> rfl

theorem refused_eq (same : SameHeaders w v) : refused w = refused v := by
  refine same.filterMap_interpretSheets_eq _ fun outcome => ?_
  cases outcome <;> rfl

end SameHeaders

end TypedSheets.Schema
