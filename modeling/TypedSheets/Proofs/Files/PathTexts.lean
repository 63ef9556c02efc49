import TypedSheets.Proofs.Files.ApartPaths

/-!
# Texts of paths

Reading a text as a path leaves out the components that say nothing. A path without such components has a
text that is read as the same path, so a path that is written somewhere as a text is not lost.
-/

namespace TypedSheets

open TypedSheets.Text FileTree

/-- A path whose components all say something and have no slashes. -/
structure Path.IsNormal (p : Path) : Prop where
  split : IsSplit p
  parts : ∀ part ∈ p.parts, part ≠ "" ∧ part ≠ "."

/-- The path of a text. -/
theorem Path.isNormal_ofText (text : String) : (Path.ofText text).IsNormal :=
  ⟨isSplit_ofText text, fun part member => by simpa using (List.mem_filter.mp member).2⟩

theorem Path.IsNormal.join {p q : Path} (first : p.IsNormal) (second : q.IsNormal) : (p.join q).IsNormal := by
  unfold Path.join
  split
  · constructor
    · intro part member
      exact (List.mem_append.mp member).elim (first.split part) (second.split part)
    · intro part member
      exact (List.mem_append.mp member).elim (first.parts part) (second.parts part)
  · exact second

theorem Path.IsNormal.child {p : Path} (normal : p.IsNormal) (name : String) : (p.child name).IsNormal :=
  normal.join (Path.isNormal_ofText name)

section Reading

variable {cs : List Char} {p : Path}

/-- Slashes in front add no components, -/
theorem partsOf_rootText (root : PathRoot) (cs : List Char) :
    Path.partsOf ((Path.rootText root).toList ++ cs) = Path.partsOf cs := by
  have slash (cs : List Char) : Path.partsOf ('/' :: cs) = Path.partsOf cs := by
    simp [Path.partsOf, splitOn]
  cases root with
  | relative => rfl
  | absolute => exact slash cs
  | doubleSlash => exact (slash ('/' :: cs)).trans (slash cs)

/-- but tell the root, when no other slash is behind them. -/
theorem rootOf_rootText (root : PathRoot) (flush : cs.head? ≠ some '/') :
    Path.rootOf ((Path.rootText root).toList ++ cs) = root := by
  cases cs with
  | nil => cases root <;> rfl
  | cons c rest =>
    have other : c ≠ '/' := fun same => flush (congrArg some same)
    cases root <;> simp [Path.rootText, Path.rootOf, other]

/-- The components of a path, joined by slashes. -/
theorem partsOf_intercalate (normal : p.IsNormal) :
    Path.partsOf ("/".intercalate p.parts).toList = p.parts := by
  by_cases none : p.parts = []
  · rw [none]
    rfl
  · have areParts : AreParts '/' ("/".intercalate p.parts).toList (p.parts.map String.toList) := by
      refine ⟨by simpa using none, ?_, by rw [String.toList_intercalate]; rfl⟩
      intro part member
      obtain ⟨own, among, rfl⟩ := List.mem_map.mp member
      exact normal.split own among
    have kept : ∀ part ∈ p.parts, (part != "" && part != ".") = true := by
      intro part member
      simpa using normal.parts part member
    rw [Path.partsOf, splitOn_eq_iff.mpr areParts, List.map_map]
    simpa [Function.comp_def] using kept

/-- They do not start with a slash. -/
theorem head?_intercalate (normal : p.IsNormal) : ("/".intercalate p.parts).toList.head? ≠ some '/' := by
  cases listed : p.parts with
  | nil => simp
  | cons first rest =>
    have member : first ∈ p.parts := by
      rw [listed]
      exact List.mem_cons_self
    have some : first.toList ≠ [] := by
      intro empty
      exact (normal.parts first member).1 (String.toList_eq_nil_iff.mp empty)
    have front : ∃ behind, ("/".intercalate (first :: rest)).toList = first.toList ++ behind := by
      cases rest with
      | nil => exact ⟨[], by simp⟩
      | cons next others => exact ⟨_, by rw [String.intercalate_cons_cons, String.append_assoc, String.toList_append]⟩
    obtain ⟨behind, whole⟩ := front
    rw [whole, List.head?_append_of_ne_nil _ some]
    intro slash
    exact normal.split first member (List.mem_of_head? slash)

/-- A path is read back from its text. -/
theorem ofText_text (normal : p.IsNormal) : Path.ofText p.text = p := by
  unfold Path.text
  split
  · next empty =>
    obtain ⟨relative, none⟩ := empty
    cases p
    subst relative none
    decide
  · rw [Path.ofText, String.toList_append, rootOf_rootText p.root (head?_intercalate normal), partsOf_rootText,
      partsOf_intercalate normal]

end Reading

end TypedSheets
