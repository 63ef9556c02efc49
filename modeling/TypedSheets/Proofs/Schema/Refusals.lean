import Mathlib.Tactic.SplitIfs
import TypedSheets.Schema.Interpretation

/-!
# What refusals tell

Whatever refuses a sheet, the error names the file and the sheet, and a type is unknown only when the file
does not declare it. The parts of the interpretation are followed one by one: each ends well or refuses its
own sheet.
-/

namespace TypedSheets.Schema

open TypedSheets.Grid TypedSheets.Text

variable {α β : Type} {schema : String} {known : EnumTable} {sheet : Sheet}

/-- A refusal of a sheet of a file. -/
structure IsRefusal (schema : String) (known : EnumTable) (sheet : Sheet) (e : ShapeError) : Prop where
  place : e.place.file = schema ∧ e.place.sheet = sheet.name
  unknown : ∀ declared, e.cause = .unknownType declared → known.lookup declared = none

/-- An outcome that is an error only as a refusal of the sheet. -/
def Refuses (schema : String) (known : EnumTable) (sheet : Sheet) (outcome : Except ShapeError α) : Prop :=
  ∀ e, outcome = .error e → IsRefusal schema known sheet e

theorem Refuses.ok (a : α) : Refuses schema known sheet (.ok a) := by
  intro e failed
  cases failed

theorem refuse_refuses {cause : ShapeCause} (row column : Int)
    (unknown : ∀ declared, cause = .unknownType declared → known.lookup declared = none) :
    Refuses schema known sheet (refuse schema sheet cause row column : Except ShapeError α) := by
  intro e failed
  cases failed
  exact ⟨⟨rfl, rfl⟩, unknown⟩

/-- An error that is passed on as the outcome of another part. -/
theorem Refuses.passedOn {e : ShapeError}
    (first : Refuses schema known sheet (.error e : Except ShapeError α)) :
    Refuses schema known sheet (.error e : Except ShapeError β) := by
  intro other same
  cases same
  exact first e rfl

/-- One part after another. -/
theorem Refuses.bind {outcome : Except ShapeError α} {next : α → Except ShapeError β}
    (first : Refuses schema known sheet outcome) (second : ∀ a, Refuses schema known sheet (next a)) :
    Refuses schema known sheet (outcome >>= next) := by
  intro e failed
  cases outcome with
  | ok a => exact second a e failed
  | error cause =>
    cases failed
    exact first _ rfl

theorem Refuses.foldlM {read : β → α → Except ShapeError β}
    (each : ∀ state a, Refuses schema known sheet (read state a)) (all : List α) (start : β) :
    Refuses schema known sheet (all.foldlM read start) := by
  induction all generalizing start with
  | nil => exact Refuses.ok start
  | cons a rest inductionHypothesis =>
    rw [List.foldlM_cons]
    exact (each start a).bind inductionHypothesis

theorem Refuses.forIn {check : α → β → Except ShapeError (ForInStep β)}
    (each : ∀ a state, Refuses schema known sheet (check a state)) (all : List α) (start : β) :
    Refuses schema known sheet (forIn all start check) := by
  induction all generalizing start with
  | nil => exact Refuses.ok start
  | cons a rest inductionHypothesis =>
    rw [List.forIn_cons]
    refine (each a start).bind fun step => ?_
    cases step with
    | done state => exact Refuses.ok state
    | yield state => exact inductionHypothesis state

/-- Names and types that do not come in pairs. -/
theorem checkHeader_refuses (names types : List Int) :
    Refuses schema known sheet (checkHeader schema sheet names types) := by
  have columns : Refuses schema known sheet (do
      for column in names do
        if !types.contains column then
          refuse schema sheet (.untypedField (trim (sheet.value nameRow column))) typeRow column
      for column in types do
        if !names.contains column then refuse schema sheet .unnamedType nameRow column) := by
    refine Refuses.bind (Refuses.forIn (fun column _ => ?_) _ _) fun _ => ?_
    · split_ifs
      · exact Refuses.bind (refuse_refuses _ _ nofun) fun _ => Refuses.ok _
      · exact Refuses.ok _
    · refine Refuses.bind (Refuses.forIn (fun column _ => ?_) _ _) fun _ => Refuses.ok _
      split_ifs
      · exact Refuses.bind (refuse_refuses _ _ nofun) fun _ => Refuses.ok _
      · exact Refuses.ok _
  unfold checkHeader
  dsimp only
  split_ifs
  · exact Refuses.bind (refuse_refuses _ _ nofun) fun _ => columns
  · exact columns

/-- An enumeration that cannot be declared. -/
theorem declaredEnum_refuses (column : Int) (declared body : String) (enums : EnumTable) :
    Refuses schema known sheet (declaredEnum schema sheet column declared body enums) := by
  unfold declaredEnum
  split_ifs
  · exact refuse_refuses _ _ nofun
  · split
    · exact refuse_refuses _ _ nofun
    · split
      · exact Refuses.ok _
      · split_ifs
        · exact Refuses.ok _
        · exact refuse_refuses _ _ nofun

/-- A column that cannot be read. -/
theorem readColumn_refuses (known : EnumTable) (read : ColumnsRead) (column : Int) :
    Refuses schema known sheet (readColumn schema sheet known read column) := by
  unfold readColumn
  dsimp only
  split
  · exact refuse_refuses _ _ nofun
  · split
    · exact refuse_refuses _ _ nofun
    · split
      · exact refuse_refuses _ _ nofun
      · split
        · have declared : Refuses schema known sheet (declaredEnum schema sheet column
              (trim (sheet.value typeRow column)) (sheet.value enumRow column) read.enums) :=
            declaredEnum_refuses _ _ _ _
          split
          · next e failed =>
            rw [failed] at declared
            exact declared.passedOn
          · exact Refuses.ok _
        · split
          · exact Refuses.ok _
          · split
            · next undeclared =>
              refine refuse_refuses _ _ fun declared same => ?_
              cases same
              exact (Option.or_eq_none_iff.mp undeclared).2
            · exact Refuses.ok _

/-- A sheet that is refused by itself. -/
theorem interpretSheet_refuses (known : EnumTable) :
    Refuses schema known sheet (interpretSheet schema known sheet) := by
  unfold interpretSheet
  dsimp only
  split
  · intro e failed
    cases failed
    exact ⟨⟨rfl, rfl⟩, nofun⟩
  · refine Refuses.bind (checkHeader_refuses _ _) fun _ => ?_
    refine Refuses.bind (Refuses.foldlM (readColumn_refuses known) _ _) fun read => ?_
    split
    · exact refuse_refuses _ _ nofun
    · split
      · exact refuse_refuses _ _ nofun
      · exact Refuses.ok _

/-- A sheet that is refused as part of its file. -/
theorem interpretIn_refuses (enums : EnumTable) :
    Refuses schema enums sheet (interpretIn schema enums sheet) := by
  have alone : Refuses schema enums sheet (interpretSheet schema enums sheet) :=
    interpretSheet_refuses enums
  unfold interpretIn
  split
  · next e failed =>
    rw [failed] at alone
    exact alone.passedOn
  · split
    · exact Refuses.ok _
    · exact refuse_refuses _ _ nofun

/-- An error of this outcome points at a sheet of a file. -/
def RefusesAt (schema : String) (sheet : Sheet) (outcome : Except ShapeError α) : Prop :=
  ∀ e, outcome = .error e → e.place.file = schema ∧ e.place.sheet = sheet.name

/-- Whatever refuses a sheet points at it. -/
theorem interpretIn_refusesAt (enums : EnumTable) :
    RefusesAt schema sheet (interpretIn schema enums sheet) :=
  fun e failed => (interpretIn_refuses enums e failed).place

end TypedSheets.Schema
