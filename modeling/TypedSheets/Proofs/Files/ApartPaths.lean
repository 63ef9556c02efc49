import TypedSheets.Proofs.Files.AssetPaths
import TypedSheets.Proofs.Files.Obstacles
import TypedSheets.Proofs.Text.Cutting

/-!
# Paths that lead apart

Below one path, different lists of components lead to different locations as long as none of them
goes back, and so do paths whose last components differ. What a run writes is told apart by this, and
told apart from schema files by the ends of the names.
-/

namespace TypedSheets

open TypedSheets.Text FileTree

/-- The path of some components below a path. -/
def Path.below (p : Path) (names : List String) : Path := { p with parts := p.parts ++ names }

/-- A text that is a single component of a path and leads down. -/
structure IsComponent (name : String) : Prop where
  noSlash : '/' ∉ name.toList
  nonempty : name ≠ ""
  noPoint : name ≠ "."
  down : name ≠ ".."

theorem child_eq_below (p : Path) {name : String} (component : IsComponent name) :
    p.child name = p.below [name] :=
  child_component p name component.noSlash component.nonempty component.noPoint

theorem below_below (p : Path) (names more : List String) :
    (p.below names).below more = p.below (names ++ more) := by
  simp only [Path.below, List.append_assoc]

/-- A text without slashes leads to the path itself or to something directly below it. -/
theorem child_of_noSlash (p : Path) {name : String} (noSlash : '/' ∉ name.toList) :
    p.child name = p ∨ p.child name = p.below [name] := by
  by_cases single : name ≠ "" ∧ name ≠ "."
  · exact .inr (child_component p name noSlash single.1 single.2)
  · have parts : Path.partsOf name.toList = [] := by
      rw [Path.partsOf, splitOn_of_not_mem '/' _ noSlash]
      simpa using single
    left
    rw [Path.child, Path.join, Path.ofText, rootOf_of_not_mem _ noSlash, parts, if_pos rfl,
      List.append_nil]

/-- The text of a path with one more component is longer by that and a slash at most. -/
theorem byteCount_below (p : Path) (name : String) :
    byteCount (p.below [name]).text ≤ byteCount p.text + 1 + byteCount name := by
  have text : (p.below [name]).text = Path.rootText p.root ++ "/".intercalate (p.parts ++ [name]) := by
    rw [Path.text, Path.below, if_neg (by simp)]
  rw [text]
  by_cases empty : p.parts = []
  · rw [empty, List.nil_append, String.intercalate_singleton, byteCount_append, Path.text, empty]
    cases p.root with
    | relative =>
      have nothing : byteCount (Path.rootText .relative) = 0 := rfl
      omega
    | absolute | doubleSlash =>
      rw [if_neg (by simp), byteCount_append]
      omega
  · rw [String.intercalate_append_of_ne_nil (l := p.parts) empty (List.cons_ne_nil _ _),
      String.intercalate_singleton, Path.text, if_neg (fun none => empty none.2)]
    have slash : byteCount "/" = 1 := rfl
    simp only [byteCount_append]
    omega

/-- An identifier is a component. -/
theorem isComponent_of_isIdentifier {name : String} (identifier : isIdentifier name = true) :
    IsComponent name := by
  have noPoint : '.' ∉ name.toList := Yaml.not_mem_of_isIdentifier identifier (by decide)
  constructor
  · exact Yaml.slash_not_mem_of_isIdentifier name identifier
  · rintro rfl
    revert identifier
    decide
  · rintro rfl
    exact noPoint (by decide)
  · rintro rfl
    exact noPoint (by decide)

/-- So is a name with an ending of some length. -/
theorem isComponent_ending {name ending : String} (noSlash : '/' ∉ name.toList)
    (noSlashBehind : '/' ∉ ending.toList) (long : 2 < ending.toList.length) :
    IsComponent (name ++ ending) := by
  have other (short : String) (few : short.toList.length ≤ 2) : name ++ ending ≠ short := by
    rintro rfl
    rw [String.toList_append, List.length_append] at few
    omega
  constructor
  · rw [String.toList_append, List.mem_append, not_or]
    exact ⟨noSlash, noSlashBehind⟩
  · exact other "" (by decide)
  · exact other "." (by decide)
  · exact other ".." (by decide)

/-- The path of a text has components without slashes. -/
theorem isSplit_ofText (text : String) : IsSplit (Path.ofText text) := by
  intro part member
  have piece : part ∈ (splitOn '/' text.toList).map String.ofList := (List.mem_filter.mp member).1
  obtain ⟨characters, among, rfl⟩ := List.mem_map.mp piece
  rw [String.toList_ofList]
  exact not_mem_of_mem_splitOn among

theorem isSplit_below {p : Path} {names : List String} (split : IsSplit p)
    (components : ∀ name ∈ names, IsComponent name) : IsSplit (p.below names) := by
  intro part member
  rcases List.mem_append.mp member with above | new
  · exact split part above
  · exact (components part new).noSlash

namespace FileTree

/-- Steps down end at the names. -/
theorem walk_components {t : FileTree} {names : List String} {at_ last : Location}
    (components : ∀ name ∈ names, IsComponent name) (walked : t.walk at_ names = .ok last) :
    last = at_ ++ names := by
  induction names generalizing at_ with
  | nil =>
    cases walked
    exact (List.append_nil _).symm
  | cons name rest inductionHypothesis =>
    have stretches : t.walk at_ ([name] ++ rest) = .ok last := walked
    obtain ⟨middle, first, further⟩ := walk_append stretches
    rw [walk_component (components name List.mem_cons_self).down first] at further
    rw [inductionHypothesis (fun other member => components other (List.mem_cons_of_mem name member))
      further, List.append_assoc]
    rfl

/-- What stands below a path is located below where the path leads. -/
theorem locate_below {t : FileTree} {p : Path} {names : List String} {at_ : Location}
    (components : ∀ name ∈ names, IsComponent name) (located : t.locate (p.below names) = .ok at_) :
    ∃ base, t.walk (start p) p.parts = .ok base ∧ at_ = base ++ names := by
  obtain ⟨base, reached, further⟩ := walk_append (locate_ok located).2
  exact ⟨base, reached, walk_components components further⟩

end FileTree

/-- Two paths that lead to different locations in every tree. -/
def Apart (p q : Path) : Prop :=
  ∀ (t : FileTree) left right, t.locate p = .ok left → t.locate q = .ok right → left ≠ right

theorem Apart.symm {p q : Path} (apart : Apart p q) : Apart q p :=
  fun t left right atLeft atRight same => apart t right left atRight atLeft same.symm

/-- Different components lead apart. -/
theorem apart_below {p : Path} {names more : List String} (differ : names ≠ more)
    (first : ∀ name ∈ names, IsComponent name) (second : ∀ name ∈ more, IsComponent name) :
    Apart (p.below names) (p.below more) := by
  intro t left right atLeft atRight same
  obtain ⟨base, reached, rfl⟩ := locate_below first atLeft
  obtain ⟨other, again, rfl⟩ := locate_below second atRight
  rw [reached] at again
  cases again
  exact differ (List.append_cancel_left same)

/-- So do different last components. -/
theorem apart_of_last {p q : Path} {a b : String} (differ : a ≠ b)
    (first : p.parts.getLast? = some a) (downFirst : a ≠ "..")
    (second : q.parts.getLast? = some b) (downSecond : b ≠ "..") : Apart p q := by
  rintro t left right atLeft atRight rfl
  have left := getLast?_of_walk (locate_ok atLeft).2 first downFirst
  have right := getLast?_of_walk (locate_ok atRight).2 second downSecond
  rw [left] at right
  exact differ (Option.some.inj right)

/-- A name with an ending of its own is not the name of a schema file. -/
theorem isName_append (name ending : String) (noPoint : '.' ∉ ending.toList)
    (other : ending ≠ "xlsx") : SchemaFile.isName (name ++ "." ++ ending) = false := by
  have characters : (name ++ "." ++ ending).toList.reverse =
      ending.toList.reverse ++ '.' :: name.toList.reverse := by
    simp [String.toList_append]
  have before : ∀ c ∈ ending.toList.reverse, (c != '.') = true := by
    intro c member
    rw [List.mem_reverse] at member
    simp only [bne_iff_ne, ne_eq]
    rintro rfl
    exact noPoint member
  have extension : ((name ++ "." ++ ending).toList.reverse).takeWhile (· != '.') =
      ending.toList.reverse := by
    rw [characters, List.takeWhile_append_of_pos before]
    simp
  have behind : ((name ++ "." ++ ending).toList.reverse).dropWhile (· != '.') =
      '.' :: name.toList.reverse := by
    rw [characters, List.dropWhile_append_of_pos before]
    simp
  have suffix : (Path.splitName (name ++ "." ++ ending)).2 ≠ SchemaFile.suffix := by
    unfold Path.splitName
    simp only [extension, behind]
    split_ifs
    · exact (by decide : "" ≠ SchemaFile.suffix)
    · rw [List.reverse_reverse, List.reverse_reverse]
      intro same
      have known : '.' :: ending.toList = '.' :: "xlsx".toList := by
        have characters := congrArg String.toList same
        rw [String.toList_ofList] at characters
        exact characters
      apply other
      exact String.toList_inj.mp (List.cons.inj known).2
  simp [SchemaFile.isName, suffix]

/-- Names without null characters bring none to a path. -/
theorem hasNull_below (p : Path) {names : List String} (noNull : ∀ name ∈ names, '\x00' ∉ name.toList) :
    hasNull (p.below names) = hasNull p := by
  have none : (names.any fun name => name.toList.contains '\x00') = false := by
    rw [List.any_eq_false]
    intro name member
    rw [List.contains_iff_mem]
    exact noNull name member
  rw [hasNull, hasNull, Path.below, List.any_append, none, Bool.or_false]

/-- A path below a split path, with a last name of another kind than that of schema files. -/
theorem isProduct_below {p : Path} {names : List String} {name ending : String} (split : IsSplit p)
    (components : ∀ other ∈ names ++ [name ++ "." ++ ending], IsComponent other)
    (noPoint : '.' ∉ ending.toList) (other : ending ≠ "xlsx")
    (noNull : '\x00' ∉ (name ++ "." ++ ending).toList) :
    IsProduct (p.below (names ++ [name ++ "." ++ ending])) := by
  refine ⟨isSplit_below split components, name ++ "." ++ ending, ?_, ?_,
    isName_append name ending noPoint other, noNull⟩
  · rw [Path.below, ← List.append_assoc, List.getLast?_concat]
  · exact (components _ (List.mem_append_right names List.mem_cons_self)).down

end TypedSheets
