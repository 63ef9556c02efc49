import TypedSheets.Proofs.Schema.DataRows
import TypedSheets.Proofs.Schema.FieldResolution

/-!
# Reading columns from left to right

Each column of a sheet is read behind those further left, which have left their fields and the enumerations
that they declare. What has been read stands for these columns, so whether the next one reads, and what its
enumeration is, are properties of the column in its sheet: `ColumnFits` and `Uses`. All columns are read
exactly when each of them fits (`columns_outcome`).
-/

namespace TypedSheets.Schema

open TypedSheets.Grid TypedSheets.Text

/-- The name of the field of a column. -/
def fieldName (s : Sheet) (column : Int) : String := trim (s.value nameRow column)

/-- The name of the type of a column. -/
def typeName (s : Sheet) (column : Int) : String := trim (s.value typeRow column)

/-- What the enum body of a column reads as, under the type of the column. -/
def bodyOf (s : Sheet) (column : Int) : Except EnumBodyError Enumeration :=
  readEnumBody (typeName s column) (s.value enumRow column)

/-- A column with a field declares an enumeration by its body. -/
structure Declares (s : Sheet) (column : Int) (e : Enumeration) : Prop where
  named : IsFilled s nameRow column
  written : IsFilled s enumRow column
  read : bodyOf s column = .ok e

/-- Some column further left declares an enumeration under the type of a column. -/
def DeclaredBefore (s : Sheet) (column : Int) (e : Enumeration) : Prop :=
  ∃ other < column, Declares s other e ∧ typeName s other = typeName s column

/-- The enumeration that a column uses: the one that it declares, or, for a type that is not primitive, the
one that a column further left declares, or else the one that is known. -/
inductive Uses (known : EnumTable) (s : Sheet) (column : Int) (e : Enumeration) : Prop where
  | own (declares : Declares s column e)
  | earlier (empty : ¬IsFilled s enumRow column) (free : isPrimitive (typeName s column) = false)
      (declared : DeclaredBefore s column e)
  | file (empty : ¬IsFilled s enumRow column) (free : isPrimitive (typeName s column) = false)
      (undeclared : ∀ other, ¬DeclaredBefore s column other)
      (found : known.lookup (typeName s column) = some e)

/-- What a column is described as. -/
structure IsFieldOf (known : EnumTable) (s : Sheet) (column : Int) (f : Field) : Prop where
  place : f.column = column
  name : f.name = fieldName s column
  declaredType : f.declaredType = typeName s column
  comment : f.comment = trim (s.value commentRow column)
  enumeration : ∀ e, f.enumeration = some e ↔ Uses known s column e
  /-- The cell of the body is kept, unless the enumeration is declared elsewhere. -/
  enumBody : f.enumBody = if IsFilled s enumRow column ∨ isPrimitive (typeName s column) = true then
    s.value enumRow column else ""

section Columns

variable {schema : String} {known : EnumTable} {s : Sheet} {done : List Int} {read : ColumnsRead}
  {column : Int}

/-- What is required of the name of a column, given the columns further left. -/
structure NameFits (s : Sheet) (column : Int) : Prop where
  identifier : isIdentifier (fieldName s column) = true
  fresh : ∀ other < column, IsFilled s nameRow other → fieldName s other ≠ fieldName s column
  free : fieldName s column ∉ reservedFieldNames

/-- What is required of a named column, given the columns further left. -/
structure ColumnFits (known : EnumTable) (s : Sheet) (column : Int) : Prop extends NameFits s column where
  declares : IsFilled s enumRow column → isIdentifier (typeName s column) = true ∧
    isPrimitive (typeName s column) = false ∧
      ∃ e, bodyOf s column = .ok e ∧ ∀ other, DeclaredBefore s column other → other = e
  refers : ¬IsFilled s enumRow column → isPrimitive (typeName s column) = true ∨
    (∃ e, DeclaredBefore s column e) ∨ ∃ e, known.lookup (typeName s column) = some e

/-- What reading some columns has come to: their fields, and the enumerations that they declare. -/
structure HasRead (known : EnumTable) (s : Sheet) (done : List Int) (read : ColumnsRead) : Prop where
  fields : List.Forall₂ (IsFieldOf known s) done read.fields
  enums : ∀ name e, read.enums.lookup name = some e ↔
    ∃ other ∈ done, Declares s other e ∧ typeName s other = name

theorem HasRead.empty (known : EnumTable) (s : Sheet) : HasRead known s [] {} :=
  ⟨.nil, fun name e => iff_of_false (by rintro ⟨⟩) (by rintro ⟨_, ⟨⟩, -⟩)⟩

/-- The fields of columns have their names. -/
theorem names_of_isFieldOf {fields : List Field} (each : List.Forall₂ (IsFieldOf known s) done fields) :
    fields.map Field.name = done.map (fieldName s) := by
  induction each with
  | nil => rfl
  | cons first _ inductionHypothesis => rw [List.map_cons, List.map_cons, first.name, inductionHypothesis]

/-- They stand in the order of the columns, -/
theorem columns_of_isFieldOf {fields : List Field} (each : List.Forall₂ (IsFieldOf known s) done fields) :
    fields.map Field.column = done := by
  induction each with
  | nil => rfl
  | cons first _ inductionHypothesis => rw [List.map_cons, first.place, inductionHypothesis]

/-- and each is the field of its column. -/
theorem isFieldOf_of_mem {fields : List Field} (each : List.Forall₂ (IsFieldOf known s) done fields) :
    ∀ f ∈ fields, IsFieldOf known s f.column f := by
  induction each with
  | nil => exact fun f member => absurd member List.not_mem_nil
  | cons first _ inductionHypothesis =>
    refine List.forall_mem_cons.mpr ⟨?_, inductionHypothesis⟩
    rw [first.place]
    exact first

/-- So a name is taken when a column further left has it. -/
theorem HasRead.taken (reads : HasRead known s done read)
    (left : ∀ other, other ∈ done ↔ IsFilled s nameRow other ∧ other < column) :
    (read.fields.any fun f => f.name == fieldName s column) = true ↔
      ∃ other < column, IsFilled s nameRow other ∧ fieldName s other = fieldName s column := by
  have names : (∃ f ∈ read.fields, f.name = fieldName s column) ↔
      ∃ other ∈ done, fieldName s other = fieldName s column := by
    rw [← List.mem_map, ← List.mem_map, names_of_isFieldOf reads.fields]
  rw [List.any_eq_true]
  simp only [beq_iff_eq]
  rw [names]
  refine exists_congr fun other => ?_
  rw [left, and_assoc, and_left_comm]

/-- Their types stand for what the columns further left declare. -/
theorem HasRead.lookup (reads : HasRead known s done read)
    (left : ∀ other, other ∈ done ↔ IsFilled s nameRow other ∧ other < column) (e : Enumeration) :
    read.enums.lookup (typeName s column) = some e ↔ DeclaredBefore s column e := by
  rw [reads.enums]
  constructor
  · rintro ⟨other, member, declares, same⟩
    exact ⟨other, ((left other).mp member).2, declares, same⟩
  · rintro ⟨other, before, declares, same⟩
    exact ⟨other, (left other).mpr ⟨declares.named, before⟩, declares, same⟩

/-- The enumerations of columns, with one more. -/
theorem HasRead.enums_append (reads : HasRead known s done read) {e : Enumeration}
    (declares : Declares s column e)
    (agrees : ∀ other, read.enums.lookup (typeName s column) = some other → other = e)
    (name : String) (other : Enumeration) :
    (if (read.enums.lookup (typeName s column)).isSome then read.enums
      else read.enums ++ [(typeName s column, e)]).lookup name = some other ↔
        ∃ c ∈ done ++ [column], Declares s c other ∧ typeName s c = name := by
  have last : (∃ c ∈ done ++ [column], Declares s c other ∧ typeName s c = name) ↔
      read.enums.lookup name = some other ∨ name = typeName s column ∧ e = other := by
    rw [reads.enums]
    constructor
    · rintro ⟨c, member, own, same⟩
      rcases List.mem_append.mp member with inside | new
      · exact .inl ⟨c, inside, own, same⟩
      · obtain rfl := List.mem_singleton.mp new
        exact .inr ⟨same.symm, Except.ok.inj (declares.read.symm.trans own.read)⟩
    · rintro (⟨c, inside, own, same⟩ | ⟨rfl, rfl⟩)
      · exact ⟨c, List.mem_append_left _ inside, own, same⟩
      · exact ⟨column, List.mem_append_right _ List.mem_cons_self, declares, rfl⟩
  rw [last]
  cases found : read.enums.lookup (typeName s column) with
  | some previous =>
    rw [Option.isSome_some, if_pos rfl, or_iff_left_of_imp]
    rintro ⟨rfl, rfl⟩
    rw [found, agrees previous found]
  | none =>
    rw [Option.isSome_none, if_neg Bool.false_ne_true, List.lookup_append, Option.or_eq_some_iff,
      List.lookup_cons]
    by_cases same : name = typeName s column
    · subst same
      simp [found]
    · simp [same, beq_false_of_ne same]

/-- Without a body, a type that is not primitive stands for what has been read, or else for what is
known. -/
theorem HasRead.uses_iff (reads : HasRead known s done read)
    (left : ∀ other, other ∈ done ↔ IsFilled s nameRow other ∧ other < column)
    (empty : ¬IsFilled s enumRow column) (free : isPrimitive (typeName s column) = false)
    (e : Enumeration) : Uses known s column e ↔
      (read.enums.lookup (typeName s column)).or (known.lookup (typeName s column)) = some e := by
  have before := reads.lookup left
  rw [Option.or_eq_some_iff, before]
  constructor
  · intro uses
    cases uses with
    | own declares => exact absurd declares.written empty
    | earlier _ _ declared => exact .inl declared
    | file _ _ undeclared found =>
      refine .inr ⟨Option.eq_none_iff_forall_ne_some.mpr fun other known => ?_, found⟩
      exact undeclared other ((before other).mp known)
  · rintro (declared | ⟨none, found⟩)
    · exact .earlier empty free declared
    · refine .file empty free (fun other declared => ?_) found
      rw [(before other).mpr declared] at none
      cases none

/-- A body that reads is the enumeration of its column. -/
theorem uses_iff_of_declares {e : Enumeration} (declares : Declares s column e) (other : Enumeration) :
    some e = some other ↔ Uses known s column other := by
  constructor
  · intro same
    rw [← Option.some.inj same]
    exact .own declares
  · intro uses
    cases uses with
    | own same => exact congrArg some (Except.ok.inj (declares.read.symm.trans same.read))
    | earlier empty => exact absurd declares.written empty
    | file empty => exact absurd declares.written empty

/-- One more column, with its field. -/
theorem HasRead.append (reads : HasRead known s done read) {enumeration : Option Enumeration}
    {enumBody : String} {enums : EnumTable}
    (uses : ∀ e, enumeration = some e ↔ Uses known s column e)
    (body : enumBody = if IsFilled s enumRow column ∨ isPrimitive (typeName s column) = true then
      s.value enumRow column else "")
    (declared : ∀ name e, enums.lookup name = some e ↔
      ∃ other ∈ done ++ [column], Declares s other e ∧ typeName s other = name) :
    HasRead known s (done ++ [column])
      ⟨read.fields ++ [columnField s column enumeration enumBody], enums⟩ :=
  ⟨List.rel_append reads.fields (.cons ⟨rfl, rfl, rfl, rfl, uses, body⟩ .nil), declared⟩

/-- A column without a body declares nothing. -/
theorem HasRead.enums_kept (reads : HasRead known s done read) (empty : ¬IsFilled s enumRow column)
    (name : String) (e : Enumeration) : read.enums.lookup name = some e ↔
      ∃ other ∈ done ++ [column], Declares s other e ∧ typeName s other = name := by
  rw [reads.enums]
  constructor
  · rintro ⟨other, inside, own⟩
    exact ⟨other, List.mem_append_left _ inside, own⟩
  · rintro ⟨other, member, declares, same⟩
    rcases List.mem_append.mp member with inside | last
    · exact ⟨other, inside, declares, same⟩
    · rw [List.mem_singleton.mp last] at declares
      exact absurd declares.written empty

/-- A column that fits is read and leaves its field, and one that does not fit is refused. -/
def IsJudged (known : EnumTable) (s : Sheet) (done : List Int) (column : Int)
    (outcome : Except ShapeError ColumnsRead) : Prop :=
  (∃ after, outcome = .ok after ∧ HasRead known s (done ++ [column]) after ∧ ColumnFits known s column) ∨
    (∃ e, outcome = .error e) ∧ ¬ColumnFits known s column

theorem IsJudged.refused {e : ShapeError} (unfit : ¬ColumnFits known s column) :
    IsJudged known s done column (.error e) :=
  .inr ⟨⟨e, rfl⟩, unfit⟩

theorem IsJudged.accepted {after : ColumnsRead} (reads : HasRead known s (done ++ [column]) after)
    (fits : ColumnFits known s column) : IsJudged known s done column (.ok after) :=
  .inl ⟨after, rfl, reads, fits⟩

/-- A body that declares an enumeration makes the field of its column. -/
theorem HasRead.judged_of_declared (reads : HasRead known s done read) (named : IsFilled s nameRow column)
    (left : ∀ other, other ∈ done ↔ IsFilled s nameRow other ∧ other < column) (name : NameFits s column)
    (written : IsFilled s enumRow column) {e : Enumeration}
    (own : declaredEnum schema s column (typeName s column) (s.value enumRow column) read.enums = .ok e) :
    IsJudged known s done column
      (.ok ⟨read.fields ++ [columnField s column (some e) (s.value enumRow column)],
        if (read.enums.lookup (typeName s column)).isSome then read.enums
        else read.enums ++ [(typeName s column, e)]⟩) := by
  obtain ⟨typed, notPrimitive, body, agrees⟩ := declaredEnum_eq_ok.mp own
  have declares : Declares s column e := ⟨named, written, body⟩
  refine .accepted ?_ ⟨name, fun _ => ?_, fun empty => absurd written empty⟩
  · exact reads.append (uses_iff_of_declares declares) (if_pos (.inl written)).symm
      (reads.enums_append declares agrees)
  · exact ⟨typed, notPrimitive, e, body,
      fun other found => agrees other ((reads.lookup left other).mpr found)⟩

/-- A body that declares none does not fit. -/
theorem HasRead.not_fits_of_undeclared (reads : HasRead known s done read)
    (left : ∀ other, other ∈ done ↔ IsFilled s nameRow other ∧ other < column)
    (written : IsFilled s enumRow column) {e : ShapeError}
    (own : declaredEnum schema s column (typeName s column) (s.value enumRow column) read.enums =
      .error e) : ¬ColumnFits known s column := by
  intro fits
  obtain ⟨typed, notPrimitive, e, body, agrees⟩ := fits.declares written
  have accepted : declaredEnum schema s column (typeName s column) (s.value enumRow column) read.enums =
      .ok e := declaredEnum_eq_ok.mpr
    ⟨typed, notPrimitive, body, fun other found => agrees other ((reads.lookup left other).mp found)⟩
  cases own.symm.trans accepted

/-- A column of a primitive type without a body uses no enumeration. -/
theorem HasRead.judged_of_primitive (reads : HasRead known s done read) (name : NameFits s column)
    (empty : ¬IsFilled s enumRow column) (primitive : isPrimitive (typeName s column) = true) :
    IsJudged known s done column
      (.ok ⟨read.fields ++ [columnField s column none (s.value enumRow column)], read.enums⟩) := by
  refine .accepted (reads.append (fun e => ?_) (if_pos (.inr primitive)).symm (reads.enums_kept empty))
    ⟨name, fun written => absurd written empty, fun _ => .inl primitive⟩
  refine iff_of_false (by rintro ⟨⟩) fun uses => ?_
  cases uses with
  | own declares => exact empty declares.written
  | earlier _ free => exact absurd primitive (by rw [free]; decide)
  | file _ free => exact absurd primitive (by rw [free]; decide)

section References

variable (reads : HasRead known s done read)
  (left : ∀ other, other ∈ done ↔ IsFilled s nameRow other ∧ other < column)
  (empty : ¬IsFilled s enumRow column) (free : isPrimitive (typeName s column) = false)

include reads left empty free

/-- Any other type without a body refers to what it stands for. -/
theorem HasRead.judged_of_found (name : NameFits s column) {e : Enumeration}
    (found : (read.enums.lookup (typeName s column)).or (known.lookup (typeName s column)) = some e) :
    IsJudged known s done column
      (.ok ⟨read.fields ++ [columnField s column (some e) ""], read.enums⟩) := by
  have elsewhere : ¬(IsFilled s enumRow column ∨ isPrimitive (typeName s column) = true) := by
    rw [free]
    exact not_or.mpr ⟨empty, Bool.false_ne_true⟩
  refine .accepted (reads.append (fun own => ?_) (if_neg elsewhere).symm (reads.enums_kept empty))
    ⟨name, fun written => absurd written empty, fun _ => .inr ?_⟩
  · rw [reads.uses_iff left empty free, found]
  · exact (Option.or_eq_some_iff.mp found).imp (fun earlier => ⟨e, (reads.lookup left e).mp earlier⟩)
      fun file => ⟨e, file.2⟩

/-- A type that stands for nothing does not fit. -/
theorem HasRead.not_fits_of_unknown
    (found : (read.enums.lookup (typeName s column)).or (known.lookup (typeName s column)) = none) :
    ¬ColumnFits known s column := by
  intro fits
  obtain ⟨absent, unknown⟩ := Option.or_eq_none_iff.mp found
  rcases fits.refers empty with primitive | ⟨e, declared⟩ | ⟨e, given⟩
  · exact absurd primitive (by rw [free]; decide)
  · rw [(reads.lookup left e).mpr declared] at absent
    cases absent
  · rw [given] at unknown
    cases unknown

end References

/-- Whether a column is read depends on the columns further left alone, and it is read as its field. -/
theorem readColumn_judged (reads : HasRead known s done read) (named : IsFilled s nameRow column)
    (left : ∀ other, other ∈ done ↔ IsFilled s nameRow other ∧ other < column) :
    IsJudged known s done column (readColumn schema s known read column) := by
  unfold readColumn
  dsimp only
  rw [show trim (s.value nameRow column) = fieldName s column from rfl,
    show trim (s.value typeRow column) = typeName s column from rfl]
  -- The checks of the name come first; what is left of the goal is a column whose name fits.
  split
  · next bad =>
    refine .refused fun fits => ?_
    rw [fits.identifier] at bad
    cases bad
  next good =>
  split
  · next repeated =>
    refine .refused fun fits => ?_
    obtain ⟨other, further, filled, same⟩ := (reads.taken left).mp repeated
    exact fits.fresh other further filled same
  next new =>
  split
  · next reserved => exact .refused fun fits => fits.free (List.contains_iff_mem.mp reserved)
  next unreserved =>
  have name : NameFits s column :=
    { identifier := by simpa using good
      fresh := fun other further filled same => new ((reads.taken left).mpr ⟨other, further, filled, same⟩)
      free := fun reserved => unreserved (List.contains_iff_mem.mpr reserved) }
  split
  · next filled =>
    have written : IsFilled s enumRow column := by simpa [IsFilled] using filled
    cases own : declaredEnum schema s column (typeName s column) (s.value enumRow column) read.enums with
    | ok e => exact reads.judged_of_declared named left name written own
    | error e => exact .refused (reads.not_fits_of_undeclared left written own)
  next unwritten =>
  have empty : ¬IsFilled s enumRow column := by simpa [IsFilled] using unwritten
  split
  · next primitive => exact reads.judged_of_primitive name empty primitive
  next other =>
  have free : isPrimitive (typeName s column) = false := Bool.eq_false_iff.mpr other
  cases found : (read.enums.lookup (typeName s column)).or (known.lookup (typeName s column)) with
  | some e => exact reads.judged_of_found left empty free name found
  | none => exact .refused (reads.not_fits_of_unknown left empty free found)

/-- Columns are all read when each of them fits. -/
theorem foldlM_readColumn_outcome (schema : String) (columns : List Int) (reads : HasRead known s done read)
    (ascending : (done ++ columns).Pairwise (· < ·))
    (listed : ∀ other, other ∈ done ++ columns ↔ IsFilled s nameRow other) :
    (∃ after, columns.foldlM (readColumn schema s known) read = .ok after ∧
      HasRead known s (done ++ columns) after ∧ ∀ column ∈ columns, ColumnFits known s column) ∨
    (∃ e, columns.foldlM (readColumn schema s known) read = .error e) ∧
      ∃ column ∈ columns, ¬ColumnFits known s column := by
  induction columns generalizing done read with
  | nil =>
    rw [List.append_nil]
    exact .inl ⟨read, rfl, reads, fun column member => absurd member List.not_mem_nil⟩
  | cons column rest inductionHypothesis =>
    obtain ⟨-, later, earlier⟩ := List.pairwise_append.mp ascending
    have named : IsFilled s nameRow column :=
      (listed column).mp (List.mem_append_right _ List.mem_cons_self)
    have left : ∀ other, other ∈ done ↔ IsFilled s nameRow other ∧ other < column := by
      intro other
      constructor
      · intro member
        exact ⟨(listed other).mp (List.mem_append_left _ member),
          earlier other member column List.mem_cons_self⟩
      · rintro ⟨filled, before⟩
        rcases List.mem_append.mp ((listed other).mpr filled) with member | behind
        · exact member
        · rcases List.mem_cons.mp behind with rfl | further
          · exact absurd before (lt_irrefl other)
          · exact absurd (before.trans ((List.pairwise_cons.mp later).1 other further)) (lt_irrefl other)
    have all : done ++ column :: rest = done ++ [column] ++ rest := by simp
    rw [List.foldlM_cons]
    have judged : IsJudged known s done column (readColumn schema s known read column) :=
      readColumn_judged reads named left
    rcases judged with ⟨middle, ran, further, fits⟩ | ⟨⟨e, ran⟩, unfit⟩
    · rw [all] at ascending listed
      rw [ran, all]
      refine (inductionHypothesis further ascending listed).imp ?_ ?_
      · rintro ⟨after, rest, reads, others⟩
        exact ⟨after, rest, reads, List.forall_mem_cons.mpr ⟨fits, others⟩⟩
      · rintro ⟨failed, other, member, unfit⟩
        exact ⟨failed, other, List.mem_cons_of_mem column member, unfit⟩
    · rw [ran]
      exact .inr ⟨⟨e, rfl⟩, column, List.mem_cons_self, unfit⟩

/-- So the named columns of a sheet are read when each of them fits. -/
theorem columns_outcome (schema : String) (known : EnumTable) (s : Sheet) :
    (∃ after, (populatedColumns s nameRow).foldlM (readColumn schema s known) {} = .ok after ∧
      HasRead known s (populatedColumns s nameRow) after ∧
      ∀ column, IsFilled s nameRow column → ColumnFits known s column) ∨
    (∃ e, (populatedColumns s nameRow).foldlM (readColumn schema s known) {} = .error e) ∧
      ∃ column, IsFilled s nameRow column ∧ ¬ColumnFits known s column := by
  have outcome := foldlM_readColumn_outcome schema (populatedColumns s nameRow) (HasRead.empty known s)
    (pairwise_populatedColumns s nameRow) fun other => mem_populatedColumns
  simp only [mem_populatedColumns, List.nil_append] at outcome
  exact outcome

end Columns

end TypedSheets.Schema
