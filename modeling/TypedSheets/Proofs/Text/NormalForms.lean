import Mathlib.Tactic.SplitIfs
import TypedSheets.Text.NormalForm

/-!
# Normal forms of names with endings

The modules derive names from other names by ASCII endings. No character of ASCII takes part in a
decomposition, in the order of marks or in a composition, so an ending stays as it is, whatever is in front
of it: the normal form of a name with an ending is the normal form of the name with that ending.
-/

namespace TypedSheets.Text

variable {code letter : Nat} {codes ending : List Nat}

section Tables

theorem markClass_ascii (ascii : code < 128) : markClass code = 0 := by
  have beyond : (markClasses.all fun run => decide (128 ≤ run.1)) = true := by decide +kernel
  have none : (markClasses.find? fun run => run.1 ≤ code && code ≤ run.2.1) = none := by
    rw [List.find?_eq_none]
    intro run member within
    have start := of_decide_eq_true (List.all_eq_true.mp beyond run member)
    rw [Bool.and_eq_true, decide_eq_true_eq] at within
    omega
  rw [markClass, none]

theorem tabledComposition?_ascii (ascii : code < 128) : tabledComposition? letter code = none := by
  have beyond : (compositions.all fun row => decide (128 ≤ row.1)) = true := by decide +kernel
  rw [tabledComposition?, List.findSome?_eq_none_iff]
  intro row member
  have start := of_decide_eq_true (List.all_eq_true.mp beyond row member)
  rw [if_neg (by omega)]

/-- Nothing is composed with a character of ASCII behind it. -/
theorem composition?_ascii (ascii : code < 128) : composition? letter code = none := by
  have syllable : syllable? letter code = none := by
    unfold syllable? vowelBase finalBase
    rw [if_neg (by omega), if_neg (by omega)]
  rw [composition?, syllable, tabledComposition?_ascii ascii]
  rfl

end Tables

section Order

/-- A mark stays in front of a character that is no mark. -/
theorem placeMark_append (plain : ∀ next ∈ ending.head?, markClass next = 0) :
    placeMark code (codes ++ ending) = placeMark code codes ++ ending := by
  induction codes with
  | nil =>
    cases ending with
    | nil => rfl
    | cons next rest =>
      have behind : ¬(markClass next ≠ 0 ∧ markClass next < markClass code) := fun lesser =>
        lesser.1 (plain next rfl)
      exact if_neg behind
  | cons next rest inductionHypothesis =>
    rw [List.cons_append, placeMark, placeMark, inductionHypothesis]
    split_ifs
    · rfl
    · rfl

theorem ordered_append (plain : ∀ next ∈ (ordered ending).head?, markClass next = 0) :
    ordered (codes ++ ending) = ordered codes ++ ordered ending := by
  induction codes with
  | nil => rfl
  | cons code rest inductionHypothesis =>
    have step (all : List Nat) : ordered (code :: all) = placeMark code (ordered all) := rfl
    rw [List.cons_append, step, step, inductionHypothesis, placeMark_append plain]

theorem ordered_ascii (ascii : ∀ code ∈ ending, code < 128) : ordered ending = ending := by
  induction ending with
  | nil => rfl
  | cons code rest inductionHypothesis =>
    rw [List.forall_mem_cons] at ascii
    have rest_ : ordered rest = [] ++ rest := inductionHypothesis ascii.2
    have plain : ∀ next ∈ rest.head?, markClass next = 0 := fun next first =>
      markClass_ascii (ascii.2 next (List.mem_of_mem_head? first))
    rw [ordered, List.foldr_cons, ← ordered, rest_, placeMark_append plain]
    rfl

end Order

section Compositions

theorem composeFrom_ascii (kept : List Nat) (last : Nat) (ascii : ∀ code ∈ ending, code < 128) :
    composeFrom letter kept last ending = letter :: kept ++ ending := by
  induction ending generalizing letter kept last with
  | nil => rw [composeFrom, List.append_nil]
  | cons code rest inductionHypothesis =>
    rw [List.forall_mem_cons] at ascii
    have alone : (if last = 0 ∨ last < markClass code then composition? letter code else none) = none := by
      rw [composition?_ascii ascii.1, ite_self]
    rw [composeFrom, alone, if_pos (markClass_ascii ascii.1), inductionHypothesis [] 0 ascii.2]
    rfl

theorem composeFrom_append (kept : List Nat) (last : Nat) (ascii : ∀ code ∈ ending, code < 128) :
    composeFrom letter kept last (codes ++ ending) = composeFrom letter kept last codes ++ ending := by
  induction codes generalizing letter kept last with
  | nil => rw [List.nil_append, composeFrom_ascii kept last ascii, composeFrom]
  | cons code rest inductionHypothesis =>
    rw [List.cons_append, composeFrom, composeFrom]
    split
    · rw [inductionHypothesis]
    · split_ifs
      · rw [inductionHypothesis, List.append_assoc]
      · rw [inductionHypothesis]

theorem composed_append (ascii : ∀ code ∈ ending, code < 128) :
    composed (codes ++ ending) = composed codes ++ ending := by
  cases codes with
  | nil =>
    cases ending with
    | nil => rfl
    | cons first rest =>
      rw [List.forall_mem_cons] at ascii
      exact composeFrom_ascii [] _ ascii.2
  | cons first rest => rw [List.cons_append, composed, composed, composeFrom_append _ _ ascii]

end Compositions

section Names

variable {name : String}

/-- A text of ASCII characters. -/
def IsAscii (text : String) : Prop := ∀ c ∈ text.toList, c.toNat < 128

instance : DecidablePred IsAscii :=
  fun text => List.decidableBAll (fun c : Char => c.toNat < 128) text.toList

theorem isAscii_iff {text : String} : IsAscii text ↔ (text.toList.all fun c => decide (c.toNat < 128)) = true := by
  simp [IsAscii]

theorem normalForm_ascii (ascii : IsAscii name) : normalForm name = name := if_pos (isAscii_iff.mp ascii)

/-- The full decomposition of a text. -/
def decomposition (text : String) : List Nat := text.toList.flatMap fun c => decomposed c.toNat

theorem normalForm_other (other : ¬IsAscii name) :
    normalForm name = String.ofList ((composed (ordered (decomposition name))).map Char.ofNat) :=
  if_neg (mt isAscii_iff.mpr other)

theorem decomposition_ascii (ascii : IsAscii name) : decomposition name = name.toList.map Char.toNat := by
  have each : ∀ c ∈ name.toList, decomposed c.toNat = [c.toNat] := fun c present => if_pos (ascii c present)
  rw [decomposition, List.flatMap_def, List.map_congr_left each, ← List.flatMap_def]
  exact List.map_eq_flatMap.symm

/-- An ASCII ending is kept, whatever is in front of it. -/
theorem normalForm_append {ending : String} (ascii : IsAscii ending) :
    normalForm (name ++ ending) = normalForm name ++ ending := by
  have whole : IsAscii (name ++ ending) ↔ IsAscii name ∧ IsAscii ending := by
    simp only [IsAscii, String.toList_append, List.forall_mem_append]
  by_cases nameAscii : IsAscii name
  · rw [normalForm_ascii (whole.mpr ⟨nameAscii, ascii⟩), normalForm_ascii nameAscii]
  · have behind : ∀ code ∈ decomposition ending, code < 128 := by
      rw [decomposition_ascii ascii]
      exact List.forall_mem_map.mpr ascii
    have plain : ∀ next ∈ (ordered (decomposition ending)).head?, markClass next = 0 := by
      rw [ordered_ascii behind]
      exact fun next first => markClass_ascii (behind next (List.mem_of_mem_head? first))
    have characters : (decomposition ending).map Char.ofNat = ending.toList := by
      rw [decomposition_ascii ascii, List.map_map]
      exact List.map_id'' Char.ofNat_toNat ending.toList
    have parts : decomposition (name ++ ending) = decomposition name ++ decomposition ending := by
      rw [decomposition, String.toList_append, List.flatMap_append]
      rfl
    rw [normalForm_other nameAscii, normalForm_other fun both => nameAscii (whole.mp both).1, parts,
      ordered_append plain, ordered_ascii behind, composed_append behind, List.map_append, characters,
      String.ofList_append, String.ofList_toList]

end Names

end TypedSheets.Text
