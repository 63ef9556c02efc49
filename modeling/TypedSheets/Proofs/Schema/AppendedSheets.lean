import Mathlib.Data.List.Find
import TypedSheets.Proofs.Schema.RowConvention
import TypedSheets.Proofs.Schema.SheetOrder

/-!
# One more sheet

A sheet that is appended to a workbook can only add enumerations to those of the file: what a name leads
to stays, whatever the new sheet declares under it and whatever becomes of the sheet itself. The parts of an
interpretation are followed under a growing table. Each ends as before, and only a refusal for a type that
nobody had declared may give way to something else, once the type is declared. The check of a sheet against
its file is no exception: a body that the sheet reads is known to the file already. The main statement is
`appended_sheet`.
-/

namespace TypedSheets.Schema

open TypedSheets.Grid TypedSheets.Text

variable {α β : Type} {known larger : EnumTable}

/-- A table finds all that another one finds. -/
def Extends (known larger : EnumTable) : Prop :=
  ∀ name e, known.lookup name = some e → larger.lookup name = some e

theorem Extends.refl (known : EnumTable) : Extends known known := fun _ _ found => found

theorem Extends.trans {last : EnumTable} (first : Extends known larger) (second : Extends larger last) :
    Extends known last :=
  fun name e found => second name e (first name e found)

/-- More entries at the end hide none of those before. -/
theorem extends_append (known more : EnumTable) : Extends known (known ++ more) := by
  intro name e found
  rw [List.lookup_append, found, Option.some_or]

/-- The enumeration of a column stands behind those of the table. -/
theorem extends_addDeclaration (s : Sheet) (known : EnumTable) (column : Int) :
    Extends known (addDeclaration s known column) := by
  unfold addDeclaration
  split
  · exact .refl known
  · split
    · exact extends_append known _
    · exact .refl known

/-- So do those of a sheet. -/
theorem extends_addDeclarations (known : EnumTable) (s : Sheet) : Extends known (addDeclarations known s) := by
  rw [addDeclarations_eq]
  induction populatedColumns s enumRow generalizing known with
  | nil => exact .refl known
  | cons column rest inductionHypothesis =>
    exact (extends_addDeclaration s known column).trans (inductionHypothesis _)

/-- What becomes of an outcome under a larger table: it stays, unless it refuses a type that the table did
not have and the larger one has. -/
inductive Outlasts (known larger : EnumTable) : Except ShapeError α → Except ShapeError α → Prop where
  | kept (outcome : Except ShapeError α) : Outlasts known larger outcome outcome
  | declared {refusal : ShapeError} {name : String} (unknown : refusal.cause = .unknownType name)
      (absent : known.lookup name = none) (present : ∃ e, larger.lookup name = some e)
      (after : Except ShapeError α) : Outlasts known larger (.error refusal) after

namespace Outlasts

/-- One part after another. -/
theorem bind {before after : Except ShapeError α} {next other : α → Except ShapeError β}
    (first : Outlasts known larger before after) (second : ∀ a, Outlasts known larger (next a) (other a)) :
    Outlasts known larger (before >>= next) (after >>= other) := by
  cases first with
  | kept =>
    cases before with
    | ok a => exact second a
    | error refusal => exact .kept (.error refusal)
  | declared unknown absent present => exact .declared unknown absent present _

theorem foldlM {read further : β → α → Except ShapeError β}
    (each : ∀ state a, Outlasts known larger (read state a) (further state a)) (all : List α) (start : β) :
    Outlasts known larger (all.foldlM read start) (all.foldlM further start) := by
  induction all generalizing start with
  | nil => exact .kept _
  | cons a rest inductionHypothesis =>
    rw [List.foldlM_cons, List.foldlM_cons]
    exact (each start a).bind inductionHypothesis

/-- What was accepted is accepted, with the same result. -/
theorem accepted {a : α} {after : Except ShapeError α} (outlasts : Outlasts known larger (.ok a) after) :
    after = .ok a := by
  cases outlasts
  rfl

/-- A refusal stays, unless its type is declared now. -/
theorem refused {refusal : ShapeError} {after : Except ShapeError α}
    (outlasts : Outlasts known larger (.error refusal) after) :
    after = .error refusal ∨ ∃ name, refusal.cause = .unknownType name ∧ known.lookup name = none ∧
      ∃ e, larger.lookup name = some e := by
  cases outlasts with
  | kept => exact .inl rfl
  | declared unknown absent present => exact .inr ⟨_, unknown, absent, present⟩

/-- So what a list of parts ends with is found, in order, among what it ends with then. -/
theorem sublist {before after : List (Except ShapeError α)}
    (each : List.Forall₂ (Outlasts known larger) before after) :
    (before.filterMap Except.toOption).Sublist (after.filterMap Except.toOption) := by
  induction each with
  | nil => exact .slnil
  | @cons first other _ _ outlasts _ inductionHypothesis =>
    cases first with
    | ok a =>
      rw [outlasts.accepted]
      exact inductionHypothesis.cons_cons a
    | error refusal =>
      rw [List.filterMap_cons_none rfl]
      cases other with
      | ok a => exact inductionHypothesis.cons a
      | error later => exact inductionHypothesis

end Outlasts

section Reading

variable {schema : String} {s : Sheet} {d : Description}

/-- A column asks a table for its type alone. -/
theorem readColumn_of_lookup {column : Int}
    (same : known.lookup (typeName s column) = larger.lookup (typeName s column)) (read : ColumnsRead) :
    readColumn schema s known read column = readColumn schema s larger read column := by
  rw [typeName] at same
  simp only [readColumn, same]

/-- Under a larger table it is read as before, unless its type is one that nothing declared. -/
theorem readColumn_outlasts (grown : Extends known larger) (read : ColumnsRead) (column : Int) :
    Outlasts known larger (readColumn schema s known read column) (readColumn schema s larger read column) := by
  cases absent : known.lookup (typeName s column) with
  | some e =>
    rw [readColumn_of_lookup (absent.trans (grown _ e absent).symm)]
    exact .kept _
  | none =>
    cases present : larger.lookup (typeName s column) with
    | none =>
      rw [readColumn_of_lookup (absent.trans present.symm)]
      exact .kept _
    | some e =>
      -- The name and the body of the column are judged without the table.
      unfold readColumn
      dsimp only
      split_ifs
      · exact .kept _
      · exact .kept _
      · exact .kept _
      · exact .kept _
      · exact .kept _
      · exact .kept _
      · rw [typeName] at absent present
        cases earlier : read.enums.lookup (trim (s.value typeRow column)) with
        | some own => exact .kept _
        | none =>
          rw [absent]
          exact .declared rfl absent ⟨e, present⟩ _

/-- So is a sheet by itself. -/
theorem interpretSheet_outlasts (grown : Extends known larger) (schema : String) (s : Sheet) :
    Outlasts known larger (interpretSheet schema known s) (interpretSheet schema larger s) := by
  have columns : Outlasts known larger
      ((populatedColumns s nameRow).foldlM (readColumn schema s known) {})
      ((populatedColumns s nameRow).foldlM (readColumn schema s larger) {}) :=
    .foldlM (readColumn_outlasts grown) _ _
  have header : Outlasts known larger
      (checkHeader schema s (populatedColumns s nameRow) (populatedColumns s typeRow))
      (checkHeader schema s (populatedColumns s nameRow) (populatedColumns s typeRow)) := .kept _
  unfold interpretSheet
  dsimp only
  split
  · exact .kept (refuse schema s (.sheetName s.name))
  · exact header.bind fun _ => columns.bind fun _ => .kept _

/-- A body that an accepted sheet reads declares its enumeration for the file. -/
theorem Accepts.publishes (accepts : Accepts schema known s d) {f : Field} (member : f ∈ d.fields)
    {e : Enumeration} (enumeration : f.enumeration = some e) (body : f.enumBody ≠ "") :
    Publishes s f.column e ∧ typeName s f.column = e.name := by
  obtain ⟨follows, each⟩ := accepts.convention
  have field := isFieldOf_of_mem each f member
  have uses : Uses known s f.column e := (field.enumeration e).mp enumeration
  have elsewhere (empty : ¬IsFilled s enumRow f.column)
      (free : isPrimitive (typeName s f.column) = false) : f.enumBody = "" := by
    rw [field.enumBody, if_neg (by simp [empty, free])]
  cases uses with
  | own declares =>
    obtain ⟨identifier, free, -⟩ := follows.bodies f.column declares.named declares.written
    have named : e.name = typeName s f.column := IsReadAs.name_eq ⟨_, declares.read⟩
    exact ⟨⟨declares.written, identifier, free, declares.read⟩, named.symm⟩
  | earlier empty free => exact absurd (elsewhere empty free) body
  | file empty free => exact absurd (elsewhere empty free) body

end Reading

section Appending

variable {w : Workbook}

/-- What the file finds is looked for, whatever the table grows by, so its sheets agree with it as
before. -/
theorem conflictingField?_eq (grown : Extends (collectEnums w) larger) {s : Sheet} (among : s ∈ w.sheets)
    {d : Description} (accepts : Accepts w.name (collectEnums w) s d) :
    conflictingField? (collectEnums w) d = conflictingField? larger d := by
  unfold conflictingField?
  refine List.find?_congr fun f member => ?_
  cases enumeration : f.enumeration with
  | none => rfl
  | some e =>
    by_cases body : f.enumBody = ""
    · simp [body]
    · obtain ⟨publishes, named⟩ := accepts.publishes member enumeration body
      obtain ⟨first, found⟩ :=
        (Collects.collectEnums w).complete e.name e ⟨s, among, f.column, publishes, named⟩
      simp only [found, grown _ _ found]

/-- A sheet as part of its file. -/
theorem interpretIn_outlasts (grown : Extends (collectEnums w) larger) {s : Sheet} (among : s ∈ w.sheets) :
    Outlasts (collectEnums w) larger (interpretIn w.name (collectEnums w) s) (interpretIn w.name larger s) := by
  have alone := interpretSheet_outlasts grown w.name s
  unfold interpretIn
  generalize after : interpretSheet w.name larger s = further at alone
  cases before : interpretSheet w.name (collectEnums w) s with
  | ok d =>
    rw [before] at alone
    cases alone
    dsimp only
    rw [conflictingField?_eq grown among (accepts_of_interpretSheet before)]
    exact .kept _
  | error refusal =>
    rw [before] at alone
    cases alone with
    | kept => exact .kept _
    | declared unknown absent present => exact .declared unknown absent present _

/-- A workbook with one more sheet at its end. -/
def appended (w : Workbook) (s : Sheet) : Workbook := { w with sheets := w.sheets ++ [s] }

theorem collectEnums_appended (w : Workbook) (s : Sheet) :
    collectEnums (appended w s) = addDeclarations (collectEnums w) s := by
  rw [collectEnums, appended, List.foldl_append]
  rfl

/-- The outcomes of the sheets, and that of the new one behind them. -/
theorem interpretSheets_appended (w : Workbook) (s : Sheet) :
    ∃ siblings, List.Forall₂ (Outlasts (collectEnums w) (collectEnums (appended w s))) (interpretSheets w) siblings ∧
      interpretSheets (appended w s) =
        siblings ++ [interpretIn w.name (collectEnums (appended w s)) s] := by
  have grown : Extends (collectEnums w) (collectEnums (appended w s)) := by
    rw [collectEnums_appended]
    exact extends_addDeclarations (collectEnums w) s
  refine ⟨w.sheets.map (interpretIn w.name (collectEnums (appended w s))), ?_, ?_⟩
  · rw [interpretSheets, List.forall₂_map_left_iff, List.forall₂_map_right_iff, List.forall₂_same]
    exact fun sibling among => interpretIn_outlasts grown among
  · rw [interpretSheets]
    exact List.map_append

/-- A sheet at the end of a workbook leaves the others as they are. What was accepted is accepted, with the
same description; what was refused is refused, with the same error, unless the error says that a type is
unknown which no sheet declared and the new one does. The descriptions stay in order. -/
theorem appended_sheet (w : Workbook) (s : Sheet) :
    (∀ (position : Nat) before, (interpretSheets w)[position]? = some before →
      ∃ after, (interpretSheets (appended w s))[position]? = some after ∧
        (∀ d, before = .ok d → after = .ok d) ∧
        ∀ refusal, before = .error refusal → after = .error refusal ∨
          ∃ name, refusal.cause = .unknownType name ∧ (collectEnums w).lookup name = none ∧
            ∃ e, (collectEnums (appended w s)).lookup name = some e) ∧
    (accepted w).Sublist (accepted (appended w s)) := by
  obtain ⟨siblings, each, outcomes⟩ := interpretSheets_appended w s
  constructor
  · intro position before present
    obtain ⟨inside, rfl⟩ := List.getElem?_eq_some_iff.mp present
    have other : position < siblings.length := each.length_eq ▸ inside
    have outlasts := each.get inside other
    rw [List.get_eq_getElem, List.get_eq_getElem] at outlasts
    refine ⟨siblings[position], ?_, fun d described => ?_, fun refusal failed => ?_⟩
    · rw [outcomes, List.getElem?_append_left other, List.getElem?_eq_getElem other]
    · rw [described] at outlasts
      exact outlasts.accepted
    · rw [failed] at outlasts
      exact outlasts.refused
  · rw [accepted, accepted, outcomes, List.filterMap_append]
    exact (Outlasts.sublist each).trans (List.sublist_append_left _ _)

end Appending

/-- The workbook without the sheet that declares the enumeration. -/
def unarmed : Workbook := { armory with sheets := [weaponSheet] }

/-- Its sheet is refused for the type that nothing declares. -/
def unknownKind : ShapeError :=
  { cause := .unknownType "Kind", place := { file := "Armory", sheet := "Weapon", row := 3, column := 1 } }

theorem interpretIn_unknownKind : interpretIn "Armory" [] weaponSheet = .error unknownKind := by
  have names : populatedColumns weaponSheet nameRow = [0, 1] := by
    rw [populatedColumns, row_weaponSheet]
    decide
  have types : populatedColumns weaponSheet typeRow = [0, 1] := by
    rw [populatedColumns, row_weaponSheet]
    decide
  have refused : interpretSheet "Armory" [] weaponSheet = .error unknownKind := by
    rw [interpretSheet, names, types]
    rfl
  rw [interpretIn, refused]

theorem collectEnums_unarmed : collectEnums unarmed = [] := by
  have none : populatedColumns weaponSheet enumRow = [] := by
    rw [populatedColumns, row_weaponSheet]
    decide
  simp only [collectEnums, unarmed, List.foldl, addDeclarations, none]

/-- A third sheet with other members for the enumeration changes nothing for the first one, and the second
one has turned the refusal of the first into its description. -/
theorem appended_sheet_armory :
    (interpretSheets armory)[0]? = some (.ok weaponDescription) ∧
      (interpretSheets (appended armory otherKindSheet))[0]? = some (.ok weaponDescription) ∧
      appended unarmed kindSheet = armory ∧ (interpretSheets unarmed)[0]? = some (.error unknownKind) ∧
      (collectEnums unarmed).lookup "Kind" = none ∧ ∃ e, (collectEnums armory).lookup "Kind" = some e := by
  have described : (interpretSheets armory)[0]? = some (.ok weaponDescription) := by
    rw [interpretSheets, collectEnums_armory]
    exact congrArg some interpretIn_weaponSheet
  have refused : (interpretSheets unarmed)[0]? = some (.error unknownKind) := by
    rw [interpretSheets, collectEnums_unarmed]
    exact congrArg some interpretIn_unknownKind
  obtain ⟨after, present, kept, -⟩ := (appended_sheet armory otherKindSheet).1 0 _ described
  obtain ⟨other, found, -, repaired⟩ := (appended_sheet unarmed kindSheet).1 0 _ refused
  have same : other = .ok weaponDescription := Option.some.inj (found.symm.trans described)
  refine ⟨described, by rw [present, kept _ rfl], rfl, refused, ?_⟩
  rcases repaired unknownKind rfl with stays | ⟨name, unknown, absent, declared⟩
  · rw [same] at stays
    cases stays
  · cases unknown
    exact ⟨absent, declared⟩

end TypedSheets.Schema
