import TypedSheets.Proofs.Schema.EnumBodies
import TypedSheets.Proofs.Schema.EnumTables

/-!
# Written members

A member is written as its name, an equals sign and its integer, on a line of its own. The lines of the members
of an enumeration are a body that declares it, as long as its integers are short enough to be read. The main
statement is `IsReadAs.readEnumBody_writtenMembers`.

The limit on the digits of an integer text is one of decimal texts. A hexadecimal literal has as many
digits as it likes, so a body declares a member with any natural number (`readEnumBody_hexadecimal`).
-/

namespace TypedSheets.Schema

open TypedSheets.Number TypedSheets.Text

variable {name : String} {m : EnumMember} {members : List EnumMember} {e : Enumeration}

/-- The line of a member. -/
def writtenMember (m : EnumMember) : String := "    " ++ m.name ++ " = " ++ integerText m.value ++ "\n"

/-- The lines of members. -/
def writtenMembers (members : List EnumMember) : String := String.join (members.map writtenMember)

/-- The piece that the line of a member holds. -/
def memberPiece (m : EnumMember) : List Char :=
  m.name.toList ++ ([' '] ++ '=' :: ([' '] ++ (integerText m.value).toList))

/-- What the line says of the member. -/
def memberEntry (m : EnumMember) : Entry := { name := m.name, value? := some m.value }

/-- A member whose integer is short enough to be written and read. -/
def IsShort (m : EnumMember) : Prop := m.value.natAbs < 10 ^ digitLimit

/-- The characters of an integer text are digits, but for a hyphen. -/
theorem code_of_mem_integerText {n : Int} {c : Char} (present : c ∈ (integerText n).toList) :
    isAsciiDigit c = true ∨ c = '-' := by
  rw [integerText, String.toList_ofList, integerChars] at present
  split at present
  · rcases List.mem_cons.mp present with rfl | digit
    · exact .inr rfl
    · exact .inl (isAsciiDigit_of_mem_naturalChars _ c digit)
  · exact .inl (isAsciiDigit_of_mem_naturalChars _ c present)

/-- No character of a piece ends a line, starts a comment or separates pieces. -/
theorem plain_memberPiece (isName : IsMemberName m.name) :
    ∀ mark ∈ layoutMarks, mark ∉ memberPiece m := by
  intro mark isMark present
  have noName : isIdentifierContinue mark = false := by
    have refused : ∀ mark ∈ layoutMarks, isIdentifierContinue mark = false :=
      forall_mem_of_all (by decide)
    exact refused mark isMark
  have noDigit : ¬(isAsciiDigit mark = true ∨ mark = '-') ∧ mark ≠ ' ' ∧ mark ≠ '=' := by
    have refused : ∀ mark ∈ layoutMarks,
        ¬(isAsciiDigit mark = true ∨ mark = '-') ∧ mark ≠ ' ' ∧ mark ≠ '=' := forall_mem_of_all (by decide)
    exact refused mark isMark
  simp only [memberPiece, List.mem_append, List.mem_cons, List.not_mem_nil, or_false] at present
  rcases present with inName | space | sign | space | inText
  · exact Yaml.not_mem_of_isIdentifier isName.1 noName inName
  · exact noDigit.2.1 space
  · exact noDigit.2.2 sign
  · exact noDigit.2.1 space
  · exact noDigit.1 (code_of_mem_integerText inText)

/-- The piece of a member is an entry of its name and its integer. -/
theorem isEntry_memberPiece (isName : IsMemberName m.name) (short : IsShort m) :
    IsEntry (memberPiece m) (memberEntry m) := by
  have space : ∀ c ∈ [' '], isBlank c = true := forall_mem_of_all (by decide)
  exact .assigned isName space space (.inl (isDecimal_integerText m.value short))

/-- The lines of members are a layout of their pieces. -/
theorem isLaidOut_writtenMembers (names : ∀ m ∈ members, IsMemberName m.name) (short : ∀ m ∈ members, IsShort m) :
    IsLaidOut (writtenMembers members).toList (members.map memberPiece) := by
  rw [writtenMembers, String.toList_join]
  induction members with
  | nil => exact isLaidOut_nil
  | cons m rest inductionHypothesis =>
    rw [List.forall_mem_cons] at names short
    have plain := plain_memberPiece names.1
    obtain ⟨trimmed, nonempty⟩ := (isEntry_memberPiece names.1 short.1).trimmed
    have indented : Surrounds ("    ".toList ++ memberPiece m) (memberPiece m) :=
      ⟨trimmed, "    ".toList, [], by simp, forall_mem_of_all (by decide), by simp⟩
    have absent : ∀ mark ∈ layoutMarks, mark ∉ "    ".toList ++ memberPiece m := by
      intro mark isMark present
      have spaces : ∀ mark ∈ layoutMarks, mark ∉ "    ".toList := forall_mem_of_all (by decide)
      exact (List.mem_append.mp present).elim (spaces mark isMark) (plain mark isMark)
    have line : (writtenMember m).toList = "    ".toList ++ memberPiece m ++ ['\n'] := by
      simp [writtenMember, memberPiece]
    rw [List.map_cons, List.flatMap_cons, line]
    exact (inductionHypothesis names.2 short.2).cons (within_of_plain absent)
      (holdsPieces_single indented nonempty absent)

/-- Entries with integers are numbered by these. -/
theorem numbered_memberEntry (next : Int) (members : List EnumMember) :
    numbered next (members.map memberEntry) = members := by
  induction members generalizing next with
  | nil => rfl
  | cons m rest inductionHypothesis => simp [numbered, memberEntry, inductionHypothesis]

/-- The lines of members declare them. -/
theorem readEnumBody_writtenMembers (nonempty : members ≠ []) (names : ∀ m ∈ members, IsMemberName m.name)
    (distinct : (members.map EnumMember.name).Nodup) (short : ∀ m ∈ members, IsShort m) :
    readEnumBody name (writtenMembers members) = .ok { name, members } := by
  have entries : List.Forall₂ IsEntry (members.map memberPiece) (members.map memberEntry) := by
    rw [List.forall₂_map_left_iff, List.forall₂_map_right_iff, List.forall₂_same]
    exact fun m member => isEntry_memberPiece (names m member) (short m member)
  have apart : ((members.map memberEntry).map Entry.name).Nodup := by
    rw [List.map_map]
    exact distinct
  refine readEnumBody_eq_ok_iff_entries.mpr ⟨_, _, isLaidOut_writtenMembers names short, ?_, entries, apart, ?_⟩
  · simpa using nonempty
  · rw [numbered_memberEntry]

/-- Writing its members and reading them gives an enumeration back. -/
theorem IsReadAs.readEnumBody_writtenMembers (read : IsReadAs e.name e) (short : ∀ m ∈ e.members, IsShort m) :
    readEnumBody e.name (writtenMembers e.members) = .ok e := by
  obtain ⟨nonempty, distinct, names⟩ := read.members
  exact Schema.readEnumBody_writtenMembers nonempty names distinct short

/-- A character that neither ends a piece of a body nor is dropped around one. -/
def IsPieceChar (c : Char) : Prop := isBlank c = false ∧ c ∉ [',', '#', '/', '\n', '\r']

instance (c : Char) : Decidable (IsPieceChar c) := inferInstanceAs (Decidable (_ ∧ _))

/-- A text of such characters is a layout of one piece. -/
theorem isLaidOut_of_pieceChars {cs : List Char} (some : cs ≠ []) (plain : ∀ c ∈ cs, IsPieceChar c) :
    IsLaidOut cs [cs] := by
  have trimmed : IsTrimmed cs :=
    ⟨fun c found => (plain c (List.mem_of_head? found)).1, fun c found => (plain c (List.mem_of_getLast? found)).1⟩
  refine .single ⟨trimmed, [], [], by simp, by simp, by simp⟩ some fun mark isMark present => ?_
  have among : layoutMarks ⊆ [',', '#', '/', '\n', '\r'] := by decide
  exact (plain mark present).2 (among isMark)

section Literals

open TypedSheets.Yaml

variable {width n : Nat}

/-- What hexadecimal digits are to the readers of bodies and of integers. -/
theorem plain_of_mem_upperHex {c : Char} (member : c ∈ upperHex width n) :
    IsPieceChar c ∧ numeralChar c = c ∧ isBaseDigit 16 c = true := by
  suffices digit : ∃ digit < 16, c = upperDigit (hexDigit digit) by
    obtain ⟨digit, small, rfl⟩ := digit
    clear member
    revert digit
    decide
  induction width generalizing n with
  | zero => cases member
  | succ width inductionHypothesis =>
    rw [upperHex_succ] at member
    rcases List.mem_append.mp member with before | last
    · exact inductionHypothesis before
    · exact ⟨n % 16, Nat.mod_lt _ (by decide), List.mem_singleton.mp last⟩

/-- A hexadecimal literal denotes its number, however many digits it has. -/
theorem isHexadecimal_upperHex (positive : 0 < width) (below : n < 16 ^ width) :
    IsHexadecimal ("0x".toList ++ upperHex width n) n := by
  have nonempty : upperHex width n ≠ [] := by
    rwa [← List.length_pos_iff, length_upperHex]
  obtain ⟨digits, isRun, -, value⟩ :=
    exists_digitRun_of_digits nonempty fun c member => (plain_of_mem_upperHex member).2
  refine ⟨[], "0x".toList, _, digits, false, rfl, .none, by decide, isRun, ?_⟩
  rw [integerOf, if_neg Bool.false_ne_true, value, digitsValue_upperHex width n below]

/-- So a body declares a member with any natural number. -/
theorem readEnumBody_hexadecimal (name : String) (positive : 0 < width) (below : n < 16 ^ width) :
    readEnumBody name (String.ofList ("A=0x".toList ++ upperHex width n)) =
      .ok { name, members := [{ name := "A", value := n }] } := by
  have isEntry : IsEntry ("A".toList ++ ([] ++ '=' :: ([] ++ ("0x".toList ++ upperHex width n)))) ⟨"A", some n⟩ :=
    .assigned ⟨by decide, by decide⟩ (by simp) (by simp) (.inr (isHexadecimal_upperHex positive below))
  have plain : ∀ c ∈ "A=0x".toList ++ upperHex width n, IsPieceChar c := by
    intro c member
    rcases List.mem_append.mp member with start | digit
    · have known : ∀ c ∈ "A=0x".toList, IsPieceChar c := forall_mem_of_all (by decide)
      exact known c start
    · exact (plain_of_mem_upperHex digit).1
  have laidOut := isLaidOut_of_pieceChars (by simp) plain
  refine readEnumBody_eq_ok_iff_entries.mpr ⟨_, [⟨"A", some n⟩], ?_, by simp, .cons isEntry .nil, by simp, rfl⟩
  rw [String.toList_ofList]
  exact laidOut

end Literals

end TypedSheets.Schema
