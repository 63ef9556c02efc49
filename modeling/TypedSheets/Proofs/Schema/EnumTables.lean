import Mathlib.Data.List.Nodup
import TypedSheets.Emission.Modules
import TypedSheets.NamedList
import TypedSheets.Proofs.Schema.EnumBodies
import TypedSheets.Schema.Interpretation

/-!
# Tables of enumerations

Each enumeration of a table stands under its own name, and no name stands twice; the names are
identifiers, and no primitive type is hidden. The enumerations that a file emits start with those
that its sheets declare, so a declared name leads to what was declared under it.
-/

namespace TypedSheets.Schema

open TypedSheets.Emission TypedSheets.Grid TypedSheets.Text

/-- An enumeration is what some body declares under a name. -/
def IsReadAs (name : String) (e : Enumeration) : Prop := ∃ body, readEnumBody name body = .ok e

/-- What is true of every table of enumerations. -/
structure IsEnumTable (table : EnumTable) : Prop where
  distinct : (table.map Prod.fst).Nodup
  read : ∀ entry ∈ table, IsReadAs entry.1 entry.2
  names : ∀ entry ∈ table, isIdentifier entry.1 = true ∧ isPrimitive entry.1 = false

/-- An enumeration is read under the name of its type. -/
theorem IsReadAs.name_eq {name : String} {e : Enumeration} (read : IsReadAs name e) :
    e.name = name := by
  obtain ⟨body, read⟩ := read
  unfold readEnumBody at read
  split at read
  · cases read
  · cases read
  · cases read
    rfl

/-- A body declares at least one member, and no two of one name. -/
theorem IsReadAs.members {name : String} {e : Enumeration} (read : IsReadAs name e) :
    e.members ≠ [] ∧ (e.members.map EnumMember.name).Nodup ∧ ∀ m ∈ e.members, IsMemberName m.name := by
  obtain ⟨body, read⟩ := read
  obtain ⟨pieces, entries, -, nonempty, areEntries, distinct, rfl⟩ := readEnumBody_eq_ok_iff_entries.mp read
  refine ⟨?_, ?_, isMemberName_of_mem_numbered areEntries 0⟩
  · cases areEntries with
    | nil => exact absurd rfl nonempty
    | cons _ _ => exact List.cons_ne_nil _ _
  · rw [names_numbered]
    exact distinct

/-- A name that a table has is found in it. -/
theorem mem_of_lookup {table : EnumTable} {name : String} {e : Enumeration}
    (found : table.lookup name = some e) : (name, e) ∈ table := by
  induction table with
  | nil => cases found
  | cons entry rest inductionHypothesis =>
    obtain ⟨other, own⟩ := entry
    rw [List.lookup_cons] at found
    by_cases same : name = other
    · subst same
      simp only [beq_self_eq_true, Option.some.injEq] at found
      rw [found]
      exact List.mem_cons_self
    · rw [beq_false_of_ne same] at found
      exact List.mem_cons_of_mem _ (inductionHypothesis found)

/-- A name that a table lacks is not among its names. -/
theorem not_mem_of_lookup {table : EnumTable} {name : String} (absent : table.lookup name = none) :
    name ∉ table.map Prod.fst := by
  induction table with
  | nil => simp
  | cons entry rest inductionHypothesis =>
    obtain ⟨other, own⟩ := entry
    rw [List.lookup_cons] at absent
    by_cases same : name = other
    · subst same
      simp at absent
    · rw [beq_false_of_ne same] at absent
      rw [List.map_cons, List.mem_cons, not_or]
      exact ⟨same, inductionHypothesis absent⟩

/-- Each name is listed where it first occurs, so that none is lost. -/
theorem mem_firstOccurrences {names : List String} {name : String} :
    name ∈ firstOccurrences names ↔ name ∈ names := by
  induction names with
  | nil => rfl
  | cons first rest inductionHypothesis =>
    rw [firstOccurrences, List.mem_cons, List.mem_filter, inductionHypothesis, List.mem_cons,
      bne_iff_ne]
    by_cases same : name = first
    · simp [same]
    · simp [same]

namespace IsEnumTable

variable {table : EnumTable}

theorem empty : IsEnumTable [] := by
  refine ⟨List.nodup_nil, ?_, ?_⟩
  · intro entry member
    cases member
  · intro entry member
    cases member

/-- A table with one more enumeration, under a new name. -/
theorem append (isTable : IsEnumTable table) {e : Enumeration} {name : String}
    (fresh : table.lookup name = none) (read : IsReadAs name e) (identifier : isIdentifier name = true)
    (free : isPrimitive name = false) : IsEnumTable (table ++ [(name, e)]) := by
  refine ⟨?_, ?_, ?_⟩
  · rw [List.map_append, List.nodup_append]
    refine ⟨isTable.distinct, by simp, ?_⟩
    intro a left b right same
    simp only [List.map_cons, List.map_nil, List.mem_singleton] at right
    subst same right
    exact not_mem_of_lookup fresh left
  · intro entry member
    rcases List.mem_append.mp member with inside | last
    · exact isTable.read entry inside
    · obtain rfl := List.mem_singleton.mp last
      exact read
  · intro entry member
    rcases List.mem_append.mp member with inside | last
    · exact isTable.names entry inside
    · obtain rfl := List.mem_singleton.mp last
      exact ⟨identifier, free⟩

/-- What stands under a name has that name. -/
theorem lookup_name (isTable : IsEnumTable table) {name : String} {e : Enumeration}
    (found : table.lookup name = some e) : e.name = name :=
  (isTable.read _ (mem_of_lookup found)).name_eq

/-- The declarations of one sheet keep a table, -/
theorem addDeclarations (isTable : IsEnumTable table) (sheet : Sheet) :
    IsEnumTable (addDeclarations table sheet) := by
  unfold Schema.addDeclarations
  induction populatedColumns sheet enumRow generalizing table with
  | nil => exact isTable
  | cons column rest inductionHypothesis =>
    rw [List.foldl_cons]
    refine inductionHypothesis ?_
    dsimp only
    split
    · exact isTable
    · next new =>
      simp only [Bool.or_eq_true, Bool.not_eq_true', not_or, Bool.not_eq_true, Option.isSome_eq_false_iff,
        Option.isNone_iff_eq_none, Bool.not_eq_false] at new
      split
      · next e read => exact isTable.append new.1.1 ⟨_, read⟩ new.1.2 new.2
      · exact isTable

end IsEnumTable

/-- so the enumerations of a file form one. -/
theorem isEnumTable_collectEnums (w : Workbook) : IsEnumTable (collectEnums w) := by
  unfold collectEnums
  have fold (sheets : List Sheet) (table : EnumTable) (isTable : IsEnumTable table) :
      IsEnumTable (sheets.foldl addDeclarations table) := by
    induction sheets generalizing table with
    | nil => exact isTable
    | cons sheet rest inductionHypothesis =>
      exact inductionHypothesis _ (isTable.addDeclarations sheet)
  exact fold w.sheets [] .empty

/-- The enumeration that stands under a name is the one with that name. -/
theorem find?_of_lookup {table : EnumTable} (isTable : IsEnumTable table) {name : String}
    {e : Enumeration} (found : table.lookup name = some e) :
    (table.map Prod.snd).find? (fun other => other.name == name) = some e := by
  have member := mem_of_lookup found
  have names : (table.map Prod.snd).map Enumeration.name = table.map Prod.fst := by
    rw [List.map_map]
    exact List.map_congr_left fun entry inside => (isTable.read entry inside).name_eq
  have distinct : ((table.map Prod.snd).map Enumeration.name).Nodup := names ▸ isTable.distinct
  have named : e.name = name := (isTable.read _ member).name_eq
  have among : e ∈ table.map Prod.snd := List.mem_map_of_mem member
  rw [← named]
  exact NamedList.find?_of_distinct distinct among

/-- Descriptions add nothing to the emitted enumerations when all of theirs are declared. -/
theorem emittedEnums_eq (declared : List Enumeration) (descriptions : List Description)
    (known : ∀ d ∈ descriptions, ∀ e ∈ d.enumerations, declared.any (fun other => other.name == e.name)) :
    emittedEnums declared descriptions = declared := by
  have each : ∀ e ∈ descriptions.flatMap Description.enumerations,
      declared.any (fun other => other.name == e.name) = true := by
    intro e member
    obtain ⟨d, inside, own⟩ := List.mem_flatMap.mp member
    exact known d inside e own
  unfold emittedEnums
  generalize descriptions.flatMap Description.enumerations = own at each
  induction own with
  | nil => rfl
  | cons e rest inductionHypothesis =>
    rw [List.foldl_cons, if_pos (each e List.mem_cons_self)]
    exact inductionHypothesis fun other later => each other (List.mem_cons_of_mem e later)

end TypedSheets.Schema
