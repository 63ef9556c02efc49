import TypedSheets.Emission.Layout
import TypedSheets.Proofs.Files.FileTrees
import TypedSheets.Proofs.Yaml.IdentifierNames

/-!
# Where assets lie

The assets of one file lie in one directory, each under the name of its sheet. A sheet whose name
has no slash adds a single component, so different sheets have different locations.
-/

namespace TypedSheets

open TypedSheets.Emission TypedSheets.Text FileTree

/-- A text without the mark is one piece. -/
theorem splitOn_of_not_mem (mark : Char) (cs : List Char) (absent : mark ∉ cs) :
    splitOn mark cs = [cs] := by
  induction cs with
  | nil => rfl
  | cons c rest inductionHypothesis =>
    rw [List.mem_cons, not_or] at absent
    rw [splitOn, if_neg (Ne.symm absent.1), inductionHypothesis absent.2]

/-- A text that starts with no slash is no root. -/
theorem rootOf_of_not_mem (cs : List Char) (absent : '/' ∉ cs) :
    Path.rootOf cs = .relative := by
  unfold Path.rootOf
  split
  · simp at absent
  · simp at absent
  · simp at absent
  · rfl

/-- A name without slashes adds one component to a path. -/
theorem child_component (p : Path) (name : String) (noSlash : '/' ∉ name.toList)
    (nonempty : name ≠ "") (noPoint : name ≠ ".") :
    p.child name = { p with parts := p.parts ++ [name] } := by
  have parts : Path.partsOf name.toList = [name] := by
    rw [Path.partsOf, splitOn_of_not_mem '/' _ noSlash]
    simp [nonempty, noPoint]
  rw [Path.child, Path.join, Path.ofText, rootOf_of_not_mem _ noSlash, parts]
  rfl

/-- The name of an asset is longer than its ending. -/
theorem assetName_ne (sheet short : String) (few : short.toList.length < 6) :
    sheet ++ ".asset" ≠ short := by
  rintro rfl
  rw [String.toList_append, List.length_append] at few
  have ending : ".asset".toList.length = 6 := rfl
  omega

/-- A sheet whose name has no slash has its asset in the directory of the file. -/
theorem assetPath_eq (root : Path) (schema sheet : String) (noSlash : '/' ∉ sheet.toList) :
    assetPath root schema sheet =
      ⟨(root.child schema).root, (root.child schema).parts ++ [sheet ++ ".asset"]⟩ := by
  refine child_component _ _ ?_ (assetName_ne _ _ (by decide)) (assetName_ne _ _ (by decide))
  rw [String.toList_append, List.mem_append, not_or]
  exact ⟨noSlash, by decide⟩

/-- The location of an asset lies in the place where the directory of the file leads. -/
theorem locate_assetPath {t : FileTree} {root : Path} {schema sheet : String} {at_ : Location}
    (noSlash : '/' ∉ sheet.toList) (located : t.locate (assetPath root schema sheet) = .ok at_) :
    ∃ directory, t.walk (if (root.child schema).isAbsolute then ["/"] else [])
      (root.child schema).parts = .ok directory ∧ at_ = directory ++ [sheet ++ ".asset"] := by
  rw [assetPath_eq root schema sheet noSlash, locate] at located
  split at located
  · cases located
  · obtain ⟨directory, reached, last⟩ := walk_append located
    exact ⟨directory, reached, walk_component (assetName_ne _ _ (by decide)) last⟩

/-- Different sheets of a file have their assets at different locations. -/
theorem assetPath_apart {t : FileTree} {root : Path} {schema a b : String} {left right : Location}
    (differ : a ≠ b) (first : '/' ∉ a.toList) (second : '/' ∉ b.toList)
    (atLeft : t.locate (assetPath root schema a) = .ok left)
    (atRight : t.locate (assetPath root schema b) = .ok right) : left ≠ right := by
  obtain ⟨directory, reached, rfl⟩ := locate_assetPath first atLeft
  obtain ⟨directory', reached', rfl⟩ := locate_assetPath second atRight
  rw [reached] at reached'
  cases reached'
  intro same
  have names := List.append_cancel_left same
  simp only [List.cons.injEq, and_true] at names
  exact differ (by simpa using names)

end TypedSheets
