/-!
# Named lists

Values under names, in the order in which the names first occur. A later value for a name
takes the place of the earlier one.
-/

namespace TypedSheets

/-- Values under names. -/
abbrev NamedList (α : Type) : Type := List (String × α)

namespace NamedList

variable {α : Type}

/-- With a value for a name: at the place of the name, or at the end when the name is new. -/
def insert (name : String) (value : α) : NamedList α → NamedList α
  | [] => [(name, value)]
  | entry :: rest =>
    if entry.1 = name then (name, value) :: rest else entry :: insert name value rest

/-- The values of a list: of several for one name the last counts, at the place of the
first. -/
def collect (list : List (String × α)) : NamedList α :=
  list.foldl (fun found entry => insert entry.1 entry.2 found) []

/-- The names after an insertion. -/
theorem names_insert (name : String) (value : α) (list : NamedList α) :
    (insert name value list).map Prod.fst =
      if name ∈ list.map Prod.fst then list.map Prod.fst else list.map Prod.fst ++ [name] := by
  induction list with
  | nil => simp [insert]
  | cons entry rest ih =>
    by_cases here : entry.1 = name
    · simp [insert, here]
    · have other : ¬name = entry.1 := fun same => here same.symm
      simp only [insert, if_neg here, List.map_cons, ih, List.mem_cons, other, false_or]
      split <;> simp

/-- What is found after an insertion. -/
theorem lookup_insert (name wanted : String) (value : α) (list : NamedList α) :
    (insert name value list).lookup wanted =
      if wanted = name then some value else list.lookup wanted := by
  induction list with
  | nil =>
    by_cases same : wanted = name
    · simp [insert, same]
    · have differs : (wanted == name) = false := beq_false_of_ne same
      simp [insert, List.lookup_cons, same, differs]
  | cons entry rest ih =>
    obtain ⟨own, old⟩ := entry
    by_cases here : own = name
    · by_cases same : wanted = name
      · simp [insert, here, same]
      · have differs : (wanted == name) = false := beq_false_of_ne same
        simp [insert, here, same, List.lookup_cons, differs]
    · by_cases same : wanted = own
      · subst same
        simp [insert, here]
      · have differs : (wanted == own) = false := beq_false_of_ne same
        simp [insert, here, List.lookup_cons, differs, ih]

/-- Where no name stands twice, every value is found under its name. -/
theorem lookup_of_distinct {list : NamedList α} (distinct : (list.map Prod.fst).Nodup)
    {entry : String × α} (member : entry ∈ list) : list.lookup entry.1 = some entry.2 := by
  induction list with
  | nil => cases member
  | cons other rest ih =>
    obtain ⟨fresh, distinctRest⟩ := List.nodup_cons.mp distinct
    rw [List.lookup_cons]
    rcases List.mem_cons.mp member with rfl | later
    · simp
    · have differ : entry.1 ≠ other.1 := by
        intro same
        rw [← same] at fresh
        exact fresh (List.mem_map_of_mem later)
      rw [beq_false_of_ne differ]
      exact ih distinctRest later

/-- Where no two have one name, everything is found by its name. -/
theorem find?_of_distinct {list : List α} {name : α → String} (distinct : (list.map name).Nodup) {a : α}
    (member : a ∈ list) : list.find? (fun other => name other == name a) = some a := by
  induction list with
  | nil => cases member
  | cons other rest ih =>
    obtain ⟨fresh, distinctRest⟩ := List.nodup_cons.mp distinct
    rcases List.mem_cons.mp member with rfl | later
    · rw [List.find?_cons_of_pos (by simp)]
    · have differ : name other ≠ name a := by
        intro same
        rw [same] at fresh
        exact fresh (List.mem_map_of_mem later)
      rw [List.find?_cons_of_neg (by simpa using differ)]
      exact ih distinctRest later

end NamedList

end TypedSheets
