import TypedSheets.Json.Quoted
import TypedSheets.Proofs.Files.AssetPaths
import TypedSheets.Proofs.Number.DigitRuns
import TypedSheets.Proofs.Text.EncodedText

/-!
# Lines of texts

Texts without line ends, each with a line feed behind it, are the lines of what they make up. Names,
decimal and quoted texts have no line ends, and collapsing blanks removes them.
-/

namespace TypedSheets.Text

open TypedSheets.Number

/-- The lines of a text, whatever their ends are; the one behind the last end counts. -/
def textLines (text : String) : List String :=
  (splitOn '\n' (unifyLineEnds text.toList)).map String.ofList

/-- The characters that end a line. -/
def isLineEnd (c : Char) : Bool := c == '\n' || c == '\r'

/-- A character that passes a test which no line end passes. -/
theorem isLineEnd_of_test (test : Char → Bool) {c : Char} (feed : test '\n' = false)
    (carriage : test '\r' = false) (passed : test c = true) : isLineEnd c = false := by
  cases ends : isLineEnd c with
  | false => rfl
  | true =>
    rw [isLineEnd, Bool.or_eq_true, beq_iff_eq, beq_iff_eq] at ends
    rcases ends with rfl | rfl
    · rw [feed] at passed
      cases passed
    · rw [carriage] at passed
      cases passed

/-- The text has no line end. -/
def WithinLine (text : String) : Prop := ∀ c ∈ text.toList, isLineEnd c = false

instance : DecidablePred WithinLine :=
  fun text => List.decidableBAll (fun c => isLineEnd c = false) text.toList

theorem withinLine_append {front back : String} :
    WithinLine (front ++ back) ↔ WithinLine front ∧ WithinLine back := by
  simp only [WithinLine, String.toList_append, List.mem_append, or_imp, forall_and]

/-- What holds of all characters of some texts and of what is put between them. -/
theorem forall_mem_intercalate {separator : String} {texts : List String} {p : Char → Prop}
    (between : ∀ c ∈ separator.toList, p c) (each : ∀ text ∈ texts, ∀ c ∈ text.toList, p c) :
    ∀ c ∈ (separator.intercalate texts).toList, p c := by
  induction texts with
  | nil =>
    rw [String.intercalate_nil]
    exact List.forall_mem_nil p
  | cons text rest inductionHypothesis =>
    rw [List.forall_mem_cons] at each
    cases rest with
    | nil =>
      rw [String.intercalate_singleton]
      exact each.1
    | cons next others =>
      rw [String.intercalate_cons_cons, String.toList_append, String.toList_append, List.forall_mem_append,
        List.forall_mem_append]
      exact ⟨⟨each.1, between⟩, inductionHypothesis each.2⟩

theorem withinLine_intercalate {separator : String} {texts : List String}
    (between : WithinLine separator) (each : ∀ text ∈ texts, WithinLine text) :
    WithinLine (separator.intercalate texts) := forall_mem_intercalate between each

theorem withinLine_of_isIdentifier {name : String} (identifier : isIdentifier name = true) :
    WithinLine name := by
  intro c present
  apply isLineEnd_of_test isIdentifierContinue (by decide) (by decide)
  exact Yaml.continue_of_form (Bool.and_eq_true_iff.mp identifier).1 c present

theorem withinLine_integerText (n : Int) : WithinLine (integerText n) := by
  have digits : ∀ c ∈ naturalChars n.natAbs, isLineEnd c = false := by
    intro c present
    exact isLineEnd_of_test isAsciiDigit (by decide) (by decide)
      (isAsciiDigit_of_mem_naturalChars n.natAbs c present)
  intro c present
  rw [integerText, String.toList_ofList, integerChars] at present
  split at present
  · rcases List.mem_cons.mp present with rfl | behind
    · rfl
    · exact digits c behind
  · exact digits c present

theorem isLineEnd_of_mem_hexDigits {width n : Nat} {c : Char} (present : c ∈ hexDigits width n) :
    isLineEnd c = false := by
  have digits : ∀ digit < 16, isLineEnd (hexDigit digit) = false := by decide
  induction width generalizing n with
  | zero => cases present
  | succ width inductionHypothesis =>
    rcases List.mem_append.mp present with front | last
    · exact inductionHypothesis front
    · rw [List.mem_singleton.mp last]
      exact digits _ (Nat.mod_lt n (by decide))

/-- Line ends are escaped. -/
theorem isLineEnd_of_mem_escaped {c escape : Char} (present : escape ∈ Json.escaped c) :
    isLineEnd escape = false := by
  have letter {letters : List Char} (each : letters.all (fun c => !isLineEnd c) = true)
      (member : escape ∈ letters) : isLineEnd escape = false := by
    simpa using List.all_eq_true.mp each escape member
  unfold Json.escaped at present
  split_ifs at present with quote backslash feed ret tab backspace page control
  · exact letter (by decide) present
  · exact letter (by decide) present
  · exact letter (by decide) present
  · exact letter (by decide) present
  · exact letter (by decide) present
  · exact letter (by decide) present
  · exact letter (by decide) present
  · rcases List.mem_cons.mp present with rfl | behind
    · rfl
    · rcases List.mem_cons.mp behind with rfl | digits
      · rfl
      · exact isLineEnd_of_mem_hexDigits digits
  · rw [List.mem_singleton.mp present, isLineEnd, beq_false_of_ne feed, beq_false_of_ne ret, Bool.or_self]

theorem withinLine_quoted (text : String) : WithinLine (Json.quoted text) := by
  intro c present
  rw [Json.quoted, String.toList_ofList, Json.quotedChars] at present
  rcases List.mem_append.mp present with front | last
  · rcases List.mem_cons.mp front with rfl | inside
    · rfl
    · obtain ⟨own, -, escaped⟩ := List.mem_flatMap.mp inside
      exact isLineEnd_of_mem_escaped escaped
  · rw [List.mem_singleton.mp last]
    rfl

/-- Words have no blanks. -/
theorem notBlank_of_mem_wordsOf {cs current word : List Char} {c : Char}
    (before : ∀ c ∈ current, isBlank c = false) (member : word ∈ wordsOf current cs) (present : c ∈ word) :
    isBlank c = false := by
  have nothing : ∀ c ∈ ([] : List Char), isBlank c = false := by simp
  have own (same : word = current.reverse) : isBlank c = false := by
    rw [same] at present
    exact before c (List.mem_reverse.mp present)
  induction cs generalizing current with
  | nil =>
    rw [wordsOf] at member
    split at member
    · cases member
    · exact own (List.mem_singleton.mp member)
  | cons first rest inductionHypothesis =>
    have later (inside : word ∈ wordsOf [] rest) : isBlank c = false := by
      apply inductionHypothesis nothing inside
      intro same
      rw [same] at present
      cases present
    rw [wordsOf] at member
    split at member
    · split at member
      · exact later member
      · rcases List.mem_cons.mp member with same | inside
        · exact own same
        · exact later inside
    · next notBlank =>
      have longer : ∀ c ∈ first :: current, isBlank c = false := by
        intro c inside
        rcases List.mem_cons.mp inside with rfl | earlier
        · simpa using notBlank
        · exact before c earlier
      apply inductionHypothesis longer member
      intro same
      rw [same] at present
      exact longer c (List.mem_reverse.mp present)

theorem withinLine_collapseBlanks (text : String) : WithinLine (collapseBlanks text) := by
  apply withinLine_intercalate (by decide)
  intro word member
  obtain ⟨cs, among, rfl⟩ := List.mem_map.mp member
  intro c present
  rw [String.toList_ofList] at present
  have notBlank : (!isBlank c) = true := by
    rw [notBlank_of_mem_wordsOf (by simp) among present]
    rfl
  exact isLineEnd_of_test (fun c => !isBlank c) (by decide) (by decide) notBlank

/-- Pieces are cut at the first separator. -/
theorem splitOn_append {mark : Char} {piece : List Char} (absent : mark ∉ piece) (rest : List Char) :
    splitOn mark (piece ++ mark :: rest) = piece :: splitOn mark rest := by
  induction piece with
  | nil => rw [List.nil_append, splitOn, if_pos rfl]
  | cons c others inductionHypothesis =>
    rw [List.mem_cons, not_or] at absent
    rw [List.cons_append, splitOn, if_neg (Ne.symm absent.1), inductionHypothesis absent.2]

theorem splitOn_lines {lines : List String} (within : ∀ line ∈ lines, WithinLine line) :
    splitOn '\n' (lines.flatMap fun line => line.toList ++ ['\n']) =
      lines.map String.toList ++ [[]] := by
  induction lines with
  | nil => rfl
  | cons line rest inductionHypothesis =>
    have absent : '\n' ∉ line.toList := by
      intro present
      cases within line List.mem_cons_self '\n' present
    rw [List.flatMap_cons, List.append_assoc, List.singleton_append, splitOn_append absent,
      inductionHypothesis fun line later => within line (List.mem_cons_of_mem _ later)]
    rfl

theorem toList_join_lines (lines : List String) :
    (String.join (lines.map fun line => line ++ "\n")).toList =
      lines.flatMap fun line => line.toList ++ ['\n'] := by
  rw [String.toList_join, List.flatMap_map]
  simp only [String.toList_append]
  rfl

/-- What texts without line ends make up has no line ends but line feeds. -/
theorem return_not_mem_join {lines : List String} (within : ∀ line ∈ lines, WithinLine line) :
    '\r' ∉ (String.join (lines.map fun line => line ++ "\n")).toList := by
  rw [toList_join_lines]
  intro present
  obtain ⟨line, member, inside⟩ := List.mem_flatMap.mp present
  rcases List.mem_append.mp inside with own | last
  · cases within line member '\r' own
  · exact absurd (List.mem_singleton.mp last) (by decide)

/-- Its lines are these texts, and an empty one behind them. -/
theorem textLines_join {lines : List String} (within : ∀ line ∈ lines, WithinLine line) :
    textLines (String.join (lines.map fun line => line ++ "\n")) = lines ++ [""] := by
  rw [textLines, unifyLineEnds_eq_self _ (return_not_mem_join within), toList_join_lines, splitOn_lines within,
    List.map_append, List.map_map]
  simp [Function.comp_def]

end TypedSheets.Text
