import TypedSheets.Generated.EnumModule
import TypedSheets.Proofs.Schema.FieldResolution

/-!
# What enumeration modules define

A module that loads defines every enumeration with its names in normal form. So an enumeration that
is spelled in normal form, and whose name no other enumeration of the file has, is imported as it was
declared.
-/

namespace TypedSheets.Generated

open TypedSheets.Schema TypedSheets.Text

/-- An enumeration as a module defines it. -/
def normalized (e : Enumeration) : Enumeration :=
  { name := normalForm e.name,
    members := e.members.map fun m => { name := normalForm m.name, value := m.value } }

/-- Members that load are the declared ones with their names in normal form. -/
theorem loadMembers_ok {members done all : List EnumMember}
    (loaded : loadMembers done members = .ok all) :
    all = done ++ members.map fun m => { name := normalForm m.name, value := m.value } := by
  induction members generalizing done with
  | nil =>
    cases loaded
    rw [List.map_nil, List.append_nil]
  | cons m rest inductionHypothesis =>
    unfold loadMembers at loaded
    dsimp only at loaded
    split at loaded
    · cases loaded
    · rw [inductionHypothesis loaded, List.append_assoc, List.map_cons, List.singleton_append]

theorem loadEnumeration_ok {done : List Enumeration} {e defined : Enumeration}
    (loaded : loadEnumeration done e = .ok defined) : defined = normalized e := by
  unfold loadEnumeration at loaded
  dsimp only at loaded
  split at loaded
  · cases loaded
  · obtain ⟨members, named, further⟩ := bind_eq_ok loaded
    split at further
    · cases further
    · cases further
      rw [loadMembers_ok named, List.nil_append]
      rfl

theorem loadEnumerations_ok {enums done all : List Enumeration}
    (loaded : loadEnumerations done enums = .ok all) : all = done ++ enums.map normalized := by
  induction enums generalizing done with
  | nil =>
    cases loaded
    rw [List.map_nil, List.append_nil]
  | cons e rest inductionHypothesis =>
    unfold loadEnumerations at loaded
    obtain ⟨defined, first, further⟩ := bind_eq_ok loaded
    rw [inductionHypothesis further, loadEnumeration_ok first, List.append_assoc, List.map_cons,
      List.singleton_append]

/-- An enumeration module that loads defines the normalized enumerations, in order. -/
theorem loadEnumModule_ok {schema : String} {enums defined : List Enumeration}
    (loaded : loadEnumModule schema enums = .ok defined) : defined = enums.map normalized := by
  unfold loadEnumModule at loaded
  split at loaded
  · cases loaded
  · exact loadEnumerations_ok loaded

/-- An enumeration is imported as it is when its name is in normal form and leads to nothing else. -/
theorem importEnumeration?_eq {defined : List Enumeration} {e : Enumeration} (member : e ∈ defined)
    (spelled : normalForm e.name = e.name)
    (only : ∀ other ∈ defined, other.name = e.name → other = e) :
    importEnumeration? defined e.name = some e := by
  unfold importEnumeration?
  rw [spelled]
  cases found : defined.reverse.find? fun other => other.name == e.name with
  | none =>
    have absent := List.find?_eq_none.mp found e (List.mem_reverse.mpr member)
    simp at absent
  | some other =>
    have named := List.find?_some found
    rw [only other (List.mem_reverse.mp (List.mem_of_find?_eq_some found)) (by simpa using named)]

/-- The names that enumerations of a sheet must have to be known under them in its record module:
all are in normal form, none of them is that of another enumeration of the file, and none is that of
the record. -/
structure AreSpelled (w : Grid.Workbook) (d : Description) : Prop where
  names : ∀ e ∈ d.enumerations, normalized e = e
  only : ∀ e ∈ d.enumerations, ∀ other ∈ typeEnums w, normalForm other.name = e.name → other = e
  apart : ∀ e ∈ d.enumerations, e.name ≠ Emission.recordName d.sheet

/-- An enumeration of an accepted sheet is emitted; its name is an identifier, and no primitive
type. -/
theorem mem_typeEnums {w : Grid.Workbook} {d : Description} (described : d ∈ accepted w)
    {e : Enumeration} (member : e ∈ d.enumerations) :
    e ∈ typeEnums w ∧ isIdentifier e.name = true ∧ isPrimitive e.name = false := by
  obtain ⟨f, inside, enumeration⟩ := List.mem_filterMap.mp member
  have found := (resolved_of_accepted described).2 f inside e enumeration
  obtain ⟨identifier, free⟩ := (isEnumTable_collectEnums w).names _ (mem_of_lookup found)
  exact ⟨List.mem_of_find?_eq_some (find?_typeEnums described inside enumeration), identifier, free⟩

namespace AreSpelled

variable {w : Grid.Workbook} {d : Description} {e : Enumeration}

theorem name_eq (spelled : AreSpelled w d) (member : e ∈ d.enumerations) :
    normalForm e.name = e.name :=
  congrArg Enumeration.name (spelled.names e member)

/-- The module of the file gives each enumeration of the sheet back. -/
theorem import_eq (spelled : AreSpelled w d) (described : d ∈ accepted w)
    (member : e ∈ d.enumerations) :
    importEnumeration? ((typeEnums w).map normalized) e.name = some e := by
  apply importEnumeration?_eq
  · rw [← spelled.names e member]
    exact List.mem_map_of_mem (mem_typeEnums described member).1
  · exact spelled.name_eq member
  · intro other defined same
    obtain ⟨own, inside, rfl⟩ := List.mem_map.mp defined
    rw [spelled.only e member own inside same, spelled.names e member]

end AreSpelled

end TypedSheets.Generated
