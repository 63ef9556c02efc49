import TypedSheets.Proofs.Schema.ColumnReading
import TypedSheets.Proofs.Schema.EnumNamespace
import TypedSheets.Proofs.Schema.Refusals

/-!
# The order of the sheets

The enumerations of a file are collected by a walk over its sheets on which the first declaration of a name
wins. What the table comes to hold is told by the declarations alone (`Collects`): a name that is declared
leads to one of its declarations, and no other name leads anywhere. Sheets read the table by looking names
up. So where the declarations of each name agree, the order of the sheets decides on the order of the
results and on nothing else, which is the main statement, `interpretation_in_any_order`.
-/

namespace TypedSheets.Schema

open TypedSheets.Grid TypedSheets.Text

variable {s : Sheet} {column : Int} {table : EnumTable} {declared : String → Enumeration → Prop}

/-- A column declares an enumeration for its file under the name of its type. The column need not have a
field. -/
structure Publishes (s : Sheet) (column : Int) (e : Enumeration) : Prop where
  written : IsFilled s enumRow column
  identifier : isIdentifier (typeName s column) = true
  free : isPrimitive (typeName s column) = false
  read : bodyOf s column = .ok e

/-- An enumeration that some column of a workbook declares under a name. -/
def IsDeclaration (w : Workbook) (name : String) (e : Enumeration) : Prop :=
  ∃ s ∈ w.sheets, ∃ column, Publishes s column e ∧ typeName s column = name

/-- All declarations of a name are equal, in whatever sheets and columns they stand. -/
def DeclarationsAgree (w : Workbook) : Prop :=
  ∀ name e f, IsDeclaration w name e → IsDeclaration w name f → e = f

/-- What is found in a table is declared, and what is declared is found or comes behind another
declaration of its name. -/
structure Collects (declared : String → Enumeration → Prop) (table : EnumTable) : Prop where
  sound : ∀ name e, table.lookup name = some e → declared name e
  complete : ∀ name e, declared name e → ∃ first, table.lookup name = some first

theorem Collects.congr {others : String → Enumeration → Prop} (collects : Collects declared table)
    (same : ∀ name e, declared name e ↔ others name e) : Collects others table :=
  ⟨fun name e found => (same name e).mp (collects.sound name e found),
    fun name e other => collects.complete name e ((same name e).mpr other)⟩

/-- Adds the enumeration of one column, unless its name is taken. -/
def addDeclaration (s : Sheet) (table : EnumTable) (column : Int) : EnumTable :=
  if (table.lookup (typeName s column)).isSome || !isIdentifier (typeName s column) ||
      isPrimitive (typeName s column) then table
  else match bodyOf s column with
    | .ok e => table ++ [(typeName s column, e)]
    | .error _ => table

theorem addDeclarations_eq (table : EnumTable) (s : Sheet) :
    addDeclarations table s = (populatedColumns s enumRow).foldl (addDeclaration s) table :=
  rfl

/-- A column adds what it declares when the name is new, and nothing otherwise. -/
theorem addDeclaration_cases (table : EnumTable) (written : IsFilled s enumRow column) :
    (∃ e, Publishes s column e ∧ table.lookup (typeName s column) = none ∧
      addDeclaration s table column = table ++ [(typeName s column, e)]) ∨
    (addDeclaration s table column = table ∧
      ∀ e, Publishes s column e → ∃ first, table.lookup (typeName s column) = some first) := by
  unfold addDeclaration
  split
  · next skipped =>
    refine .inr ⟨rfl, fun e publishes => Option.isSome_iff_exists.mp ?_⟩
    simpa [publishes.identifier, publishes.free] using skipped
  · next new =>
    simp only [Bool.or_eq_true, Bool.not_eq_true', not_or, Bool.not_eq_true, Option.isSome_eq_false_iff,
      Option.isNone_iff_eq_none, Bool.not_eq_false] at new
    obtain ⟨⟨absent, identifier⟩, free⟩ := new
    cases read : bodyOf s column with
    | ok e => exact .inl ⟨e, ⟨written, identifier, free, read⟩, absent, rfl⟩
    | error cause =>
      refine .inr ⟨rfl, fun e publishes => ?_⟩
      have contrary := publishes.read
      rw [read] at contrary
      cases contrary

namespace Collects

theorem empty : Collects (fun _ _ => False) [] :=
  ⟨fun _ _ found => (by cases found), fun _ _ contrary => contrary.elim⟩

/-- One more column. -/
theorem addDeclaration (collects : Collects declared table) (written : IsFilled s enumRow column) :
    Collects (fun name e => declared name e ∨ Publishes s column e ∧ typeName s column = name)
      (addDeclaration s table column) := by
  rcases addDeclaration_cases table written with ⟨e, publishes, absent, added⟩ | ⟨kept, taken⟩
  · have looked (name : String) : (table ++ [(typeName s column, e)]).lookup name =
        (table.lookup name).or (if name = typeName s column then some e else none) := by
      rw [List.lookup_append, List.lookup_cons, List.lookup_nil]
      by_cases same : name = typeName s column
      · simp [same]
      · simp [same, beq_false_of_ne same]
    rw [added]
    constructor
    · intro name other found
      rw [looked, Option.or_eq_some_iff] at found
      rcases found with inside | ⟨-, own⟩
      · exact .inl (collects.sound name other inside)
      · split at own
        · next same =>
          cases own
          exact .inr ⟨publishes, same.symm⟩
        · cases own
    · rintro name other (inside | ⟨-, rfl⟩)
      · obtain ⟨first, found⟩ := collects.complete name other inside
        exact ⟨first, by rw [looked, found, Option.some_or]⟩
      · exact ⟨e, by rw [looked, absent, Option.none_or, if_pos rfl]⟩
  · rw [kept]
    constructor
    · exact fun name other found => .inl (collects.sound name other found)
    · rintro name other (inside | ⟨publishes, rfl⟩)
      · exact collects.complete name other inside
      · exact taken other publishes

/-- One more sheet, column by column. -/
theorem addDeclarations (collects : Collects declared table) (s : Sheet) :
    Collects (fun name e => declared name e ∨ ∃ column, Publishes s column e ∧ typeName s column = name)
      (addDeclarations table s) := by
  have columns (all : List Int) (filled : ∀ column ∈ all, IsFilled s enumRow column) :
      Collects (fun name e => declared name e ∨
        ∃ column ∈ all, Publishes s column e ∧ typeName s column = name)
        (all.foldl (Schema.addDeclaration s) table) := by
    induction all generalizing table declared with
    | nil => exact collects.congr fun name e => by simp
    | cons column rest inductionHypothesis =>
      obtain ⟨written, further⟩ := List.forall_mem_cons.mp filled
      exact (inductionHypothesis (collects.addDeclaration written) further).congr fun name e => by
        simp [or_assoc]
  rw [addDeclarations_eq]
  refine (columns _ fun column => mem_populatedColumns.mp).congr fun name e => or_congr_right ?_
  refine exists_congr fun column => ⟨And.right, fun publishes => ⟨?_, publishes⟩⟩
  exact mem_populatedColumns.mpr publishes.1.written

/-- All sheets of a workbook. -/
theorem collectEnums (w : Workbook) : Collects (IsDeclaration w) (collectEnums w) := by
  have sheets (all : List Sheet) {table : EnumTable} {declared : String → Enumeration → Prop}
      (collects : Collects declared table) :
      Collects (fun name e => declared name e ∨
        ∃ s ∈ all, ∃ column, Publishes s column e ∧ typeName s column = name)
        (all.foldl Schema.addDeclarations table) := by
    induction all generalizing table declared with
    | nil => exact collects.congr fun name e => by simp
    | cons s rest inductionHypothesis =>
      exact (inductionHypothesis (collects.addDeclarations s)).congr fun name e => by simp [or_assoc]
  exact (sheets w.sheets empty).congr fun name e => iff_of_eq (false_or _)

end Collects

/-- Where the declarations agree, a name leads to what is declared under it. -/
theorem lookup_collectEnums {w : Workbook} (agree : DeclarationsAgree w) {name : String} {e : Enumeration} :
    (collectEnums w).lookup name = some e ↔ IsDeclaration w name e := by
  have collects := Collects.collectEnums w
  refine ⟨collects.sound name e, fun isDeclared => ?_⟩
  obtain ⟨first, found⟩ := collects.complete name e isDeclared
  rw [found, agree name first e (collects.sound name first found) isDeclared]

section Lookups

variable {known other : EnumTable}

theorem readColumn_congr (same : ∀ name, known.lookup name = other.lookup name) (schema : String) (s : Sheet) :
    readColumn schema s known = readColumn schema s other := by
  funext read column
  simp only [readColumn, same]

/-- A sheet reads the table of its file by looking names up. -/
theorem interpretIn_congr (same : ∀ name, known.lookup name = other.lookup name) (schema : String) (s : Sheet) :
    interpretIn schema known s = interpretIn schema other s := by
  simp only [interpretIn, interpretSheet, conflictingField?, readColumn_congr same, same]

end Lookups

section Order

variable {w v : Workbook}

theorem isDeclaration_of_perm (order : w.sheets.Perm v.sheets) (name : String) (e : Enumeration) :
    IsDeclaration w name e ↔ IsDeclaration v name e :=
  exists_congr fun _ => and_congr_left fun _ => order.mem_iff

theorem lookup_collectEnums_of_perm (agree : DeclarationsAgree w) (order : w.sheets.Perm v.sheets) :
    ∀ name, (collectEnums v).lookup name = (collectEnums w).lookup name := by
  have others : DeclarationsAgree v := by
    intro name e f first second
    rw [← isDeclaration_of_perm order] at first second
    exact agree name e f first second
  refine fun name => Option.ext fun e => ?_
  rw [lookup_collectEnums agree, lookup_collectEnums others, isDeclaration_of_perm order]

/-- A type that the file declares is unknown to none of its sheets. -/
theorem cause_ne_unknownType {name : String} {e : Enumeration} (isDeclared : IsDeclaration w name e)
    {s : Sheet} {refusal : ShapeError}
    (refused : interpretIn w.name (collectEnums w) s = .error refusal) :
    refusal.cause ≠ .unknownType name := by
  intro unknown
  obtain ⟨first, found⟩ := (Collects.collectEnums w).complete name e isDeclared
  rw [(interpretIn_refuses _ refusal refused).unknown name unknown] at found
  cases found

/-- A field of such a type has the enumeration of the type. -/
theorem enumeration_of_isDeclaration (agree : DeclarationsAgree w) {name : String} {e : Enumeration}
    (isDeclared : IsDeclaration w name e) {d : Description} (described : d ∈ accepted w) {f : Field}
    (member : f ∈ d.fields) (typed : f.declaredType = name) : f.enumeration = some e := by
  have found : (collectEnums w).lookup name = some e := (lookup_collectEnums agree).mpr isDeclared
  cases enumeration : f.enumeration with
  | none =>
    have primitive := (resolved_of_accepted described).1.primitive f member enumeration
    obtain ⟨_, _, column, publishes, same⟩ := isDeclared
    rw [typed, ← same, publishes.free] at primitive
    cases primitive
  | some own =>
    have known := (lookup_declaredType described member enumeration).2
    rw [typed, found] at known
    exact known.symm

/-- In whatever order the sheets of a workbook stand whose declarations agree, each has the outcome that it
has in any other order, and the descriptions and refusals stand in the order of the sheets. A type that one
of the sheets declares can be used by all, before or behind that sheet and whatever becomes of it: none is
refused for not knowing it, and its fields have the enumeration. -/
theorem interpretation_in_any_order (agree : DeclarationsAgree w) (named : w.name = v.name)
    (order : w.sheets.Perm v.sheets) :
    (∀ s ∈ w.sheets, interpretIn v.name (collectEnums v) s = interpretIn w.name (collectEnums w) s) ∧
    interpretSheets v = v.sheets.map (interpretIn w.name (collectEnums w)) ∧
    accepted v = v.sheets.filterMap (fun s => (interpretIn w.name (collectEnums w) s).toOption) ∧
    refused v = v.sheets.filterMap (fun s => fault? (interpretIn w.name (collectEnums w) s)) ∧
    ∀ name e, IsDeclaration w name e →
      (∀ s ∈ w.sheets, ∀ refusal, interpretIn w.name (collectEnums w) s = .error refusal →
        refusal.cause ≠ .unknownType name) ∧
      ∀ d ∈ accepted w, ∀ f ∈ d.fields, f.declaredType = name → f.enumeration = some e := by
  have same : interpretIn v.name (collectEnums v) = interpretIn w.name (collectEnums w) := by
    funext s
    rw [← named]
    exact interpretIn_congr (lookup_collectEnums_of_perm agree order) w.name s
  refine ⟨fun s _ => congrFun same s, ?_, ?_, ?_, fun name e isDeclared => ⟨?_, ?_⟩⟩
  · rw [interpretSheets, same]
  · rw [accepted, interpretSheets, same, List.filterMap_map]
    rfl
  · rw [refused, interpretSheets, same, List.filterMap_map]
    refine List.filterMap_congr fun s _ => ?_
    cases outcome : interpretIn w.name (collectEnums w) s with
    | ok d => rw [Function.comp_apply, outcome, fault?]
    | error refusal => rw [Function.comp_apply, outcome, fault?]
  · exact fun s _ refusal refused => cause_ne_unknownType isDeclared refused
  · exact fun d described f member typed =>
      enumeration_of_isDeclaration agree isDeclared described member typed

end Order

/-- A second sheet that declares the enumeration, in other words, and is refused for its name too. -/
def otherKindSheet : Sheet :=
  { name := "3rd", cells := [⟨2, 1, "Axe = 0, Sword = 1"⟩, ⟨3, 1, "Kind"⟩] }

/-- A workbook in which the using sheet comes between the declaring ones. -/
def arsenal : Workbook := { name := "Armory", sheets := [otherKindSheet, weaponSheet, kindSheet] }

/-- The using sheet before both. -/
def sortedArsenal : Workbook := { arsenal with sheets := [weaponSheet, kindSheet, otherKindSheet] }

theorem publishes_arsenal {s : Sheet} (member : s ∈ arsenal.sheets) {column : Int} {e : Enumeration}
    (publishes : Publishes s column e) : typeName s column = "Kind" ∧ e = kindEnumeration := by
  obtain ⟨c, stored, row, rfl, -⟩ := publishes.written.exists_cell
  have declared : ∀ t ∈ arsenal.sheets, ∀ o ∈ t.cells, o.row = enumRow →
      typeName t o.column = "Kind" ∧ bodyOf t o.column = .ok kindEnumeration := by
    decide +kernel
  obtain ⟨named, read⟩ := declared s member c stored row
  rw [publishes.read] at read
  exact ⟨named, Except.ok.inj read⟩

theorem declarationsAgree_arsenal : DeclarationsAgree arsenal := by
  rintro name e f ⟨s, member, column, first, -⟩ ⟨t, other, place, second, -⟩
  rw [(publishes_arsenal member first).2, (publishes_arsenal other second).2]

theorem collectEnums_arsenal : collectEnums arsenal = [("Kind", kindEnumeration)] := by
  have second : populatedColumns otherKindSheet enumRow = [1] := by
    rw [populatedColumns, row_of_ordered (by decide)]
    decide
  have none : populatedColumns weaponSheet enumRow = [] := by
    rw [populatedColumns, row_weaponSheet]
    decide
  have one : populatedColumns kindSheet enumRow = [0] := by
    rw [populatedColumns, row_kindSheet]
    decide
  simp only [collectEnums, arsenal, List.foldl, addDeclarations, second, none, one]
  decide +kernel

/-- The using sheet is accepted in both orders, with the enumeration that the others declare. -/
theorem interpretation_in_any_order_arsenal :
    DeclarationsAgree arsenal ∧ arsenal.name = sortedArsenal.name ∧
      arsenal.sheets.Perm sortedArsenal.sheets ∧ accepted arsenal = [weaponDescription] ∧
      accepted sortedArsenal = [weaponDescription] ∧ IsDeclaration arsenal "Kind" kindEnumeration ∧
      kindField.enumeration = some kindEnumeration := by
  have order : arsenal.sheets.Perm sortedArsenal.sheets := by decide
  obtain ⟨-, -, descriptions, -, usable⟩ :=
    interpretation_in_any_order declarationsAgree_arsenal (v := sortedArsenal) rfl order
  have described : accepted arsenal = [weaponDescription] := by
    rw [accepted, interpretSheets, collectEnums_arsenal, arsenal]
    simp only [List.map_cons, List.map_nil, interpretIn_weaponSheet]
    rfl
  have isDeclared : IsDeclaration arsenal "Kind" kindEnumeration :=
    lookup_collectEnums declarationsAgree_arsenal |>.mp (by rw [collectEnums_arsenal]; rfl)
  refine ⟨declarationsAgree_arsenal, rfl, order, described, ?_, isDeclared, ?_⟩
  · rw [descriptions, collectEnums_arsenal, sortedArsenal, arsenal]
    simp only [List.filterMap_cons, List.filterMap_nil, interpretIn_weaponSheet]
    rfl
  · exact (usable "Kind" kindEnumeration isDeclared).2 weaponDescription
      (by rw [described]; exact List.mem_cons_self) kindField (by decide) rfl

end TypedSheets.Schema
