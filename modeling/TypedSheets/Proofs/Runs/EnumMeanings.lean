import TypedSheets.Proofs.Runs.GeneratedImports

/-!
# What an enumeration module says of a name

A text that defines a class once has one enumeration of that name, and the labels of its members can be
read off the lines behind the header. So the enumeration module of a workbook gives each name the
enumeration that the workbook declares under it, and no class when it declares none.
-/

namespace TypedSheets

open TypedSheets.Emission TypedSheets.Grid TypedSheets.Number TypedSheets.Schema TypedSheets.Text

/-- The text defines an enumeration of that name, and the label is that of one of its members. -/
def HasMember (content name label : String) : Prop :=
  ∃ e, SpelledEnum e ∧ e.name = name ∧ Emits content e ∧ label ∈ e.labels

/-- What a text says of a name: it defines an enumeration with its members and no others, or no class
at all. -/
structure Means (content name : String) (meaning : Option Enumeration) : Prop where
  defined : DefinesOnce content name ↔ meaning.isSome = true
  undefined : meaning = none → ∀ line ∈ textLines content, definesClass name line = false
  emitted : ∀ e, meaning = some e → e.name = name ∧ Emits content e
  members : ∀ label, HasMember content name label ↔ ∃ e, meaning = some e ∧ label ∈ e.labels

/-- The only element of a kind parts a list in one way. -/
theorem behind_of_countP_one {α : Type} {test : α → Bool} {front back before after : List α} {a b : α}
    (one : (front ++ a :: back).countP test = 1) (first : test a = true) (second : test b = true)
    (same : front ++ a :: back = before ++ b :: after) : back = after := by
  rw [List.countP_append, List.countP_cons_of_pos first] at one
  rcases List.append_eq_append_iff.mp same with ⟨between, -, behind⟩ | ⟨between, rfl, behind⟩
  · cases between with
    | nil => exact (List.cons.inj behind).2
    | cons c rest =>
      have later : back = rest ++ b :: after := (List.cons.inj behind).2
      rw [later, List.countP_append, List.countP_cons_of_pos second] at one
      omega
  · cases between with
    | nil => exact (List.cons.inj behind).2.symm
    | cons c rest =>
      obtain ⟨rfl, -⟩ := List.cons.inj behind
      rw [List.countP_append, List.countP_cons_of_pos second] at one
      omega

section Labels

variable {content : String} {e other : Enumeration}

/-- The line of a member in a text. -/
def memberText (m : EnumMember) : String := "    " ++ (m.name ++ " = " ++ integerText m.value)

/-- The label in the line of a member: what is behind the indentation, up to the next space. -/
def labelIn (line : String) : String := String.ofList ((line.toList.drop 4).takeWhile (· != ' '))

theorem labelIn_memberText {m : EnumMember} (identifier : isIdentifier m.name = true) :
    labelIn (memberText m) = m.name := by
  have noSpace : ∀ c ∈ m.name.toList, (c != ' ') = true := by
    intro c present
    rw [bne_iff_ne]
    rintro rfl
    exact Yaml.not_mem_of_isIdentifier identifier (by decide) present
  have behind : (memberText m).toList.drop 4 =
      m.name.toList ++ (" = ".toList ++ (integerText m.value).toList) := by
    simp only [memberText, String.toList_append, List.append_assoc]
    rfl
  rw [labelIn, behind, List.takeWhile_append_of_pos noSpace, ← String.toList_inj, String.toList_ofList]
  exact List.append_nil _

theorem memberText_ne_empty (m : EnumMember) : memberText m ≠ "" := by
  intro same
  have characters := congrArg String.toList same
  rw [memberText, String.toList_append] at characters
  cases characters

/-- The labels of an enumeration as they stand in its lines. -/
theorem labels_eq (spelled : SpelledEnum e) : (e.members.map memberText).map labelIn = e.labels := by
  rw [List.map_map, Enumeration.labels]
  apply List.map_congr_left
  intro m member
  exact labelIn_memberText (spelled.2 m member)

/-- A text defines one enumeration of a name: the lines of its members end at the next empty one. -/
theorem Emits.labels_eq (first : Emits content e) (second : Emits content other)
    (same : other.name = e.name) (spelled : SpelledEnum e) (spelledOther : SpelledEnum other) :
    other.labels = e.labels := by
  obtain ⟨once, front, back, lines⟩ := first
  obtain ⟨-, before, after, linesAgain⟩ := second
  have header : definesClass e.name ("class " ++ e.name ++ "(IntEnum):") = true := by
    rw [Emission.definesClass_iff]
    exact ⟨'(', "IntEnum):".toList, .inr rfl, by simp [String.toList_append]⟩
  rw [List.append_assoc, List.cons_append] at lines linesAgain
  rw [DefinesOnce, lines] at once
  rw [same, lines] at linesAgain
  have members := behind_of_countP_one once header header linesAgain
  have upTo (own : Enumeration) (rest : List String) :
      (own.members.map memberText ++ "" :: rest).takeWhile (· != "") = own.members.map memberText := by
    rw [List.takeWhile_append_of_pos]
    · exact List.append_nil _
    · intro line among
      obtain ⟨m, -, rfl⟩ := List.mem_map.mp among
      exact bne_iff_ne.mpr (memberText_ne_empty m)
  rw [← TypedSheets.labels_eq spelled, ← TypedSheets.labels_eq spelledOther, ← upTo e back,
    ← upTo other after]
  exact congrArg (fun behind => (behind.takeWhile (· != "")).map labelIn) members.symm

end Labels

section Modules

variable {w : Workbook} {lines : List SourceLine} {name : String}

/-- The enumeration module of a workbook emits what the workbook declares under a name. -/
theorem emits_of_lookup (rendered : enumModule (typeEnums w) = .ok lines) {e : Enumeration}
    (found : (collectEnums w).lookup name = some e) : e.name = name ∧ Emits (sourceText lines) e := by
  have listed : e ∈ typeEnums w := by
    rw [typeEnums_eq]
    exact List.mem_map_of_mem (mem_of_lookup found)
  exact ⟨(isEnumTable_collectEnums w).lookup_name found,
    emits_of_enumModule rendered spelledEnum_of_emitted (nodup_typeEnums w) listed⟩

/-- It defines no class of a name under which the workbook declares nothing. -/
theorem undefined_of_lookup (rendered : enumModule (typeEnums w) = .ok lines)
    (identifier : isIdentifier name = true) (missing : (collectEnums w).lookup name = none) :
    ∀ line ∈ textLines (sourceText lines), definesClass name line = false := by
  have legible : ∀ line ∈ lines, Legible "" (fun _ _ => False) line :=
    legible_enumModule rendered spelledEnum_of_emitted
  have names : name ∉ classNames lines := by
    rw [classNames_enumModule rendered, typeEnums_eq, List.map_map]
    intro listed
    obtain ⟨entry, member, rfl⟩ := List.mem_map.mp listed
    apply not_mem_of_lookup missing
    rw [Function.comp_apply, ((isEnumTable_collectEnums w).read entry member).name_eq]
    exact List.mem_map_of_mem member
  intro line member
  rw [← Bool.not_eq_true]
  intro defines
  rw [textLines_sourceText (by decide) legible] at member
  rcases List.mem_append.mp member with inside | last
  · obtain ⟨own, listed, rfl⟩ := List.mem_map.mp inside
    rw [(legible own listed).definesClass_iff identifier] at defines
    exact names (List.mem_filterMap.mpr ⟨own, listed, defines⟩)
  · rw [List.mem_singleton.mp last] at defines
    exact absurd (firstWord_of_definesClass (by decide) defines) (by decide)

/-- It says of a name what the workbook declares under it. -/
theorem means_of_enumModule (rendered : enumModule (typeEnums w) = .ok lines)
    (identifier : isIdentifier name = true) :
    Means (sourceText lines) name ((collectEnums w).lookup name) := by
  refine ⟨?_, undefined_of_lookup rendered identifier, fun e => emits_of_lookup rendered, ?_⟩
  · cases found : (collectEnums w).lookup name with
    | some e =>
      obtain ⟨rfl, emits⟩ := emits_of_lookup rendered found
      exact ⟨fun _ => rfl, fun _ => emits.1⟩
    | none =>
      have never : (textLines (sourceText lines)).countP (definesClass name) = 0 := by
        rw [List.countP_eq_zero]
        intro line member
        rw [undefined_of_lookup rendered identifier found line member]
        exact Bool.false_ne_true
      constructor
      · intro once
        rw [DefinesOnce, never] at once
        cases once
      · intro some
        cases some
  · intro label
    constructor
    · rintro ⟨e, spelled, named, emits, listed⟩
      cases found : (collectEnums w).lookup name with
      | some known =>
        obtain ⟨own, emitsKnown⟩ := emits_of_lookup rendered found
        have labels := emitsKnown.labels_eq emits (named.trans own.symm)
          (spelledEnum_of_collected (mem_of_lookup found)) spelled
        exact ⟨known, rfl, labels ▸ listed⟩
      | none =>
        obtain ⟨line, member, defines⟩ : ∃ line ∈ textLines (sourceText lines),
            definesClass name line = true := by
          apply List.countP_pos_iff.mp
          rw [← named, emits.1]
          exact Nat.one_pos
        rw [undefined_of_lookup rendered identifier found line member] at defines
        cases defines
    · rintro ⟨e, found, listed⟩
      obtain ⟨named, emits⟩ := emits_of_lookup rendered found
      exact ⟨e, spelledEnum_of_collected (mem_of_lookup found), named, emits, listed⟩

end Modules

end TypedSheets
