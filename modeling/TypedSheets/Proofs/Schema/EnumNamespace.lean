import Mathlib.Data.List.Sort
import TypedSheets.Proofs.Schema.FieldResolution

/-!
# One namespace of enumerations

A column gets its enumeration from its own body, from a column of the same sheet or from any sheet of
the file, while the table of the file is collected by a walk of its own over the enum rows. For the
fields of accepted sheets both come to the same: an enumeration has the name of the declared type, and
is what the table holds under that name. So the enumeration module of the file is made of the table
alone.
-/

namespace TypedSheets.Schema

open TypedSheets.Emission TypedSheets.Grid TypedSheets.Text

variable {w : Workbook} {d : Description} {f : Field} {e : Enumeration}

/-- The enumeration of an accepted field stands in the table of the file under the declared type. -/
theorem lookup_declaredType (described : d ∈ accepted w) (member : f ∈ d.fields)
    (enumeration : f.enumeration = some e) :
    e.name = f.declaredType ∧ (collectEnums w).lookup f.declaredType = some e := by
  obtain ⟨resolved, known⟩ := resolved_of_accepted described
  have typeName := resolved.typeName f member e enumeration
  constructor
  · exact typeName
  · rw [← typeName]
    exact known f member e enumeration

/-- Every enum field of every accepted sheet has the enumeration that the file declares under its
type; two fields of one type have the same members, and the enumeration module of accepted sheets is
that of the declarations. -/
theorem enumerations_shared (w : Workbook) :
    (∀ d ∈ accepted w, ∀ f ∈ d.fields, ∀ e, f.enumeration = some e →
      e.name = f.declaredType ∧ (collectEnums w).lookup f.declaredType = some e) ∧
    (∀ d ∈ accepted w, ∀ other ∈ accepted w, ∀ f ∈ d.fields, ∀ g ∈ other.fields,
      ∀ e own, f.enumeration = some e → g.enumeration = some own →
        f.declaredType = g.declaredType → e.members = own.members) ∧
    ∀ descriptions, (∀ d ∈ descriptions, d ∈ accepted w) →
      enumModule (emittedEnums ((collectEnums w).map Prod.snd) descriptions) =
        enumModule ((collectEnums w).map Prod.snd) := by
  refine ⟨?_, ?_, ?_⟩
  · intro d described f member e enumeration
    exact lookup_declaredType described member enumeration
  · intro d described other otherDescribed f member g otherMember e own left right sameType
    have first := (lookup_declaredType described member left).2
    have second := (lookup_declaredType otherDescribed otherMember right).2
    rw [sameType, second] at first
    rw [Option.some.inj first]
  · intro descriptions described
    rw [emittedEnums_accepted described]

/-- Rows whose cells are listed from left to right are read as they are listed. -/
theorem row_of_ordered {sheet : Sheet}
    (ordered : sheet.cells.Pairwise fun a b => a.row = b.row → a.column ≤ b.column) (r : Int) :
    sheet.row r = sheet.cells.filter fun c => c.row == r := by
  rw [Sheet.row]
  apply List.mergeSort_of_pairwise
  rw [List.pairwise_filter]
  refine ordered.imp ?_
  intro a b leftToRight first second
  rw [beq_iff_eq] at first second
  simpa using leftToRight (first.trans second.symm)

/-- A sheet whose second column has an enumeration that it does not declare itself. -/
def weaponSheet : Sheet :=
  { name := "Weapon", cells := [⟨0, 0, "id"⟩, ⟨0, 1, "kind"⟩, ⟨3, 0, "int"⟩, ⟨3, 1, "Kind"⟩,
      ⟨4, 0, "7"⟩, ⟨4, 1, "Sword"⟩] }

/-- A sheet that declares the enumeration, and is refused for its name. -/
def kindSheet : Sheet :=
  { name := "2nd", cells := [⟨2, 0, "Axe\nSword"⟩, ⟨3, 0, "Kind"⟩] }

def kindEnumeration : Enumeration := { name := "Kind", members := [⟨"Axe", 0⟩, ⟨"Sword", 1⟩] }

def kindField : Field :=
  { name := "kind", column := 1, declaredType := "Kind", comment := "",
    enumeration := some kindEnumeration, enumBody := "" }

def weaponDescription : Description where
  schema := "Armory"
  sheet := "Weapon"
  key := { name := "id", column := 0, declaredType := "int", comment := "", enumeration := none,
           enumBody := "" }
  others := [kindField]
  rows := [⟨4, [("id", "7"), ("kind", "Sword")]⟩]

/-- A workbook with both sheets, the declaring one behind the other. -/
def armory : Workbook := { name := "Armory", sheets := [weaponSheet, kindSheet] }

theorem row_weaponSheet (r : Int) :
    weaponSheet.row r = weaponSheet.cells.filter fun c => c.row == r :=
  row_of_ordered (by decide) r

theorem row_kindSheet (r : Int) : kindSheet.row r = kindSheet.cells.filter fun c => c.row == r :=
  row_of_ordered (by decide) r

theorem collectEnums_armory : collectEnums armory = [("Kind", kindEnumeration)] := by
  have none : populatedColumns weaponSheet enumRow = [] := by
    rw [populatedColumns, row_weaponSheet]
    decide
  have one : populatedColumns kindSheet enumRow = [0] := by
    rw [populatedColumns, row_kindSheet]
    decide
  simp only [collectEnums, armory, List.foldl, addDeclarations, none, one]
  decide +kernel

theorem interpretIn_weaponSheet :
    interpretIn "Armory" [("Kind", kindEnumeration)] weaponSheet = .ok weaponDescription := by
  have names : populatedColumns weaponSheet nameRow = [0, 1] := by
    rw [populatedColumns, row_weaponSheet]
    decide
  have types : populatedColumns weaponSheet typeRow = [0, 1] := by
    rw [populatedColumns, row_weaponSheet]
    decide
  have indices : weaponSheet.rowIndices = [0, 3, 4] := by
    rw [Sheet.rowIndices]
    exact List.mergeSort_of_pairwise (by decide)
  have accepts : Accepts "Armory" [("Kind", kindEnumeration)] weaponSheet weaponDescription := by
    refine ⟨by decide +kernel, ?_, ⟨[], ?_⟩, by decide, rfl, rfl, ?_⟩
    · rw [names, types]
      rfl
    · rw [names]
      rfl
    · rw [readRows, indices]
      decide +kernel
  rw [interpretIn, accepts.interpretSheet_eq]
  rfl

theorem accepted_armory : accepted armory = [weaponDescription] := by
  rw [accepted, interpretSheets, collectEnums_armory, armory]
  simp only [List.map_cons, List.map_nil, interpretIn_weaponSheet]
  rfl

/-- The field of a sheet whose enumeration a refused sheet behind it declares. -/
theorem enumerations_shared_armory :
    weaponDescription ∈ accepted armory ∧ kindField ∈ weaponDescription.fields ∧
      kindField.enumeration = some kindEnumeration ∧
      (collectEnums armory).lookup "Kind" = some kindEnumeration := by
  have described : weaponDescription ∈ accepted armory := by
    rw [accepted_armory]
    exact List.mem_cons_self
  have member : kindField ∈ weaponDescription.fields := by decide
  exact ⟨described, member, rfl,
    ((enumerations_shared armory).1 weaponDescription described kindField member _ rfl).2⟩

end TypedSheets.Schema
