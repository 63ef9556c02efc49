import TypedSheets.Proofs.Number.IntegerNotation
import TypedSheets.Proofs.Yaml.IdentifierNames
import TypedSheets.Schema.Enumeration

/-!
# The grammar of enumeration members

A piece of a body declares a member by its name alone, or by its name, an equals sign and a literal; blanks
may stand around the sign. The main statement is `readMembers_eq_ok_iff`: pieces are read exactly when each
has this form and no name is repeated, and a member without literal follows the one before it.
-/

namespace TypedSheets.Schema

open TypedSheets.Number TypedSheets.Text

/-- A name that a member may have: an identifier, but for those that start with an underscore. -/
def IsMemberName (name : String) : Prop := isIdentifier name = true ∧ name.toList.head? ≠ some '_'

/-- A literal is an integer in decimal or in hexadecimal notation. -/
def IsLiteral (literal : List Char) (n : Int) : Prop := IsDecimal literal n ∨ IsHexadecimal literal n

/-- What a piece says of its member: the name, and the integer when there is a literal. -/
structure Entry where
  name : String
  value? : Option Int

/-- The forms of a piece. -/
inductive IsEntry : List Char → Entry → Prop where
  | bare {name : String} (isName : IsMemberName name) : IsEntry name.toList ⟨name, none⟩
  | assigned {name : String} {before after literal : List Char} {n : Int} (isName : IsMemberName name)
      (front : ∀ c ∈ before, isBlank c = true) (back : ∀ c ∈ after, isBlank c = true)
      (isLiteral : IsLiteral literal n) :
      IsEntry (name.toList ++ (before ++ '=' :: (after ++ literal))) ⟨name, some n⟩

/-- The members of entries: one without integer has the integer behind that of the member before it. -/
def numbered (next : Int) : List Entry → List EnumMember
  | [] => []
  | entry :: rest =>
    let n := entry.value?.getD next
    { name := entry.name, value := n } :: numbered (n + 1) rest

section Literals

variable {literal sign rest : List Char} {mark : Char} {negative : Bool} {n : Int}

theorem IsLiteral.trimmed (isLiteral : IsLiteral literal n) : IsTrimmed literal ∧ literal ≠ [] :=
  isLiteral.elim IsDecimal.trimmed IsHexadecimal.trimmed

/-- One sign is skipped where the base is looked for. -/
theorem dropWhile_sign (isSign : IsSign sign negative) (plain : ∀ c, rest.head? = some c → c ≠ '+' ∧ c ≠ '-') :
    ((sign ++ rest).dropWhile fun c => c == '+' || c == '-') = rest := by
  have own : (rest.dropWhile fun c => c == '+' || c == '-') = rest := by
    cases rest with
    | nil => rfl
    | cons c others => simp [plain c rfl]
  cases isSign with
  | none => exact own
  | plus => exact own
  | minus => exact own

/-- A marker behind the sign chooses base sixteen, -/
theorem readEnumLiteral_marked (isSign : IsSign sign negative) (isMark : mark = 'x' ∨ mark = 'X')
    (trimmed : IsTrimmed (sign ++ '0' :: mark :: rest)) :
    readEnumLiteral (sign ++ '0' :: mark :: rest) = readInteger 16 (String.ofList (sign ++ '0' :: mark :: rest)) := by
  have plain : ∀ c, ('0' :: mark :: rest).head? = some c → c ≠ '+' ∧ c ≠ '-' := by
    rintro c ⟨⟩
    decide
  simp only [readEnumLiteral, trimmed.trimChars_eq, dropWhile_sign isSign plain]
  rcases isMark with rfl | rfl <;> rfl

/-- and without one it is base ten. -/
theorem readEnumLiteral_unmarked (isSign : IsSign sign negative)
    (plain : ∀ c, rest.head? = some c → c ≠ '+' ∧ c ≠ '-')
    (unmarked : ∀ mark tail, rest = '0' :: mark :: tail → mark ≠ 'x' ∧ mark ≠ 'X')
    (trimmed : IsTrimmed (sign ++ rest)) :
    readEnumLiteral (sign ++ rest) = readInteger 10 (String.ofList (sign ++ rest)) := by
  simp only [readEnumLiteral, trimmed.trimChars_eq, dropWhile_sign isSign plain]
  split
  · exact absurd rfl (unmarked _ _ rfl).1
  · exact absurd rfl (unmarked _ _ rfl).2
  · rfl

/-- A run of decimal digits has no marker. -/
theorem unmarked_of_digitRun {run : List Char} {digits : List Nat} (isRun : DigitRun 10 run digits)
    (mark : Char) (tail : List Char) (whole : run = '0' :: mark :: tail) : mark ≠ 'x' ∧ mark ≠ 'X' := by
  have inside : isBaseDigit 10 (numeralChar mark) = true ∨ numeralChar mark = '_' := by
    have member : mark ∈ run := by simp [whole]
    simpa using isRun.inside _ (List.mem_map_of_mem member)
  constructor
  · rintro rfl
    revert inside
    decide
  · rintro rfl
    revert inside
    decide

/-- Literals are read as the integers that they denote, and nothing else is read. -/
theorem readEnumLiteral_eq_ok_iff (trimmed : IsTrimmed literal) :
    readEnumLiteral literal = .ok n ↔ IsLiteral literal n := by
  constructor
  · intro read
    obtain ⟨sign, rest, negative, rfl, isSign, first⟩ := exists_sign trimmed
    have plain : ∀ c, rest.head? = some c → c ≠ '+' ∧ c ≠ '-' := by
      have some : ∃ base, readInteger base (String.ofList (sign ++ rest)) = .ok n := by
        simp only [readEnumLiteral, trimmed.trimChars_eq] at read
        exact ⟨_, read⟩
      obtain ⟨base, own⟩ := some
      exact unsigned_of_readInteger isSign first trimmed own
    by_cases marked : ∃ mark tail, rest = '0' :: mark :: tail ∧ (mark = 'x' ∨ mark = 'X')
    · obtain ⟨mark, tail, rfl, isMark⟩ := marked
      rw [readEnumLiteral_marked isSign isMark trimmed, readInteger_hexadecimal isSign isMark trimmed] at read
      exact .inr read
    · have unmarked : ∀ mark tail, rest = '0' :: mark :: tail → mark ≠ 'x' ∧ mark ≠ 'X' := by
        intro mark tail whole
        rw [← not_or]
        exact fun isMark => marked ⟨mark, tail, whole, isMark⟩
      rw [readEnumLiteral_unmarked isSign plain unmarked trimmed, readInteger_decimal trimmed] at read
      exact .inl read
  · rintro (isDecimal | isHexadecimal)
    · have read := (readInteger_decimal trimmed).mpr isDecimal
      obtain ⟨sign, run, digits, negative, rfl, isSign, isRun, -, -⟩ := isDecimal
      have plain : ∀ c, run.head? = some c → c ≠ '+' ∧ c ≠ '-' := fun c found => (isRun.first c found).2
      rwa [readEnumLiteral_unmarked isSign plain (unmarked_of_digitRun isRun) trimmed]
    · obtain ⟨sign, marker, run, digits, negative, rfl, isSign, isMarker, -, -⟩ := id isHexadecimal
      have form : ∃ mark tail, marker ++ run = '0' :: mark :: tail ∧ (mark = 'x' ∨ mark = 'X') := by
        simp only [hexadecimalMarkers, List.mem_cons, List.not_mem_nil, or_false] at isMarker
        rcases isMarker with rfl | rfl | rfl | rfl <;> simp
      obtain ⟨mark, tail, whole, isMark⟩ := form
      rw [whole] at trimmed isHexadecimal ⊢
      rwa [readEnumLiteral_marked isSign isMark trimmed, readInteger_hexadecimal isSign isMark trimmed]

end Literals

section Pieces

variable {name piece before after literal : List Char} {literal? : Option (List Char)}

/-- The stretches of code points above ASCII that lie between the blanks. -/
def solidStretches : CodeRanges :=
  [(0x3001, 0x10ffff), (0xa1, 0x167f), (0x1681, 0x1fff), (0x200b, 0x2027), (0x202a, 0x202e), (0x2030, 0x205e),
    (0x2060, 0x2fff)]

/-- What continues an identifier is not blank, -/
theorem isBlank_of_continue {c : Char} (continuing : isIdentifierContinue c = true) : isBlank c = false := by
  have start : identifierStartRanges.all (Yaml.liesInside solidStretches) = true := by decide +kernel
  have extend : identifierExtendRanges.all (Yaml.liesInside solidStretches) = true := by decide +kernel
  have code := Yaml.code_of_continue start extend c continuing
  simp only [CodeRanges.covers, solidStretches, List.any_cons, List.any_nil, Bool.or_false, Bool.or_eq_true,
    Bool.and_eq_true, decide_eq_true_eq] at code
  unfold isBlank
  simp only [Bool.or_eq_false_iff, Bool.and_eq_false_iff, decide_eq_false_iff_not, beq_eq_false_iff_ne]
  omega

/-- and may stand in a name. -/
theorem isNamePart_of_continue {c : Char} (continuing : isIdentifierContinue c = true) : isNamePart c = true := by
  have other : c ≠ '=' ∧ c ≠ ',' := by
    constructor
    · rintro rfl
      cases continuing
    · rintro rfl
      cases continuing
  simp [isNamePart, isBlank_of_continue continuing, other]

theorem isNamePart_of_isMemberName {name : String} (isName : IsMemberName name) :
    name.toList ≠ [] ∧ ∀ c ∈ name.toList, isNamePart c = true := by
  have form := (Bool.and_eq_true_iff.mp isName.1).1
  refine ⟨?_, fun c present => isNamePart_of_continue (Yaml.continue_of_form form c present)⟩
  intro empty
  rw [empty] at form
  cases form

/-- A piece without an equals sign is all name. -/
theorem splitPiece?_bare (nonempty : name ≠ []) (inside : ∀ c ∈ name, isNamePart c = true) :
    splitPiece? name = some (name, none) := by
  rw [splitPiece?, List.takeWhile_eq_self_iff.mpr inside, List.dropWhile_eq_nil_iff.mpr inside]
  simp [nonempty]

/-- In any other the name ends at a blank or at the sign, and the literal is what follows the blanks behind
the sign. -/
theorem splitPiece?_assigned (nonempty : name ≠ []) (inside : ∀ c ∈ name, isNamePart c = true)
    (front : ∀ c ∈ before, isBlank c = true) (back : ∀ c ∈ after, isBlank c = true) (trimmed : IsTrimmed literal)
    (present : literal ≠ []) :
    splitPiece? (name ++ (before ++ '=' :: (after ++ literal))) = some (name, some literal) := by
  have stop : ∀ c, (before ++ '=' :: (after ++ literal)).head? = some c → isNamePart c = false := by
    intro c found
    cases before with
    | nil =>
      cases found
      rfl
    | cons d others =>
      cases found
      simp [isNamePart, front c List.mem_cons_self]
  have noName : (before ++ '=' :: (after ++ literal)).takeWhile isNamePart = [] ∧
      (before ++ '=' :: (after ++ literal)).dropWhile isNamePart = before ++ '=' :: (after ++ literal) := by
    cases tail : before ++ '=' :: (after ++ literal) with
    | nil => exact ⟨rfl, rfl⟩
    | cons c others => simp [stop c (by rw [tail]; rfl)]
  have sign : (before ++ '=' :: (after ++ literal)).dropWhile isBlank = '=' :: (after ++ literal) :=
    trimLeft_append front (by rintro c ⟨⟩; decide)
  have behind : (after ++ literal).dropWhile isBlank = literal := trimLeft_append back trimmed.first
  rw [splitPiece?, List.takeWhile_append_of_pos inside, List.dropWhile_append_of_pos inside, noName.1, noName.2, sign]
  simp [behind, nonempty, present]

/-- Nothing else is split off a piece. -/
theorem splitPiece?_eq_some (trimmed : IsTrimmed piece) (split : splitPiece? piece = some (name, literal?)) :
    (literal? = none ∧ piece = name) ∨
      ∃ before after literal, literal? = some literal ∧ piece = name ++ (before ++ '=' :: (after ++ literal)) ∧
        (∀ c ∈ before, isBlank c = true) ∧ (∀ c ∈ after, isBlank c = true) ∧ IsTrimmed literal := by
  obtain ⟨before, whole, front, -⟩ := exists_trimLeft (piece.dropWhile isNamePart)
  have parts : piece = piece.takeWhile isNamePart ++ (before ++ trimLeft (piece.dropWhile isNamePart)) := by
    rw [← whole, List.takeWhile_append_dropWhile]
  have last {c : Char} {start tail : List Char} (cut : piece = start ++ tail) (found : tail.getLast? = some c) :
      isBlank c = false := by
    apply trimmed.last c
    rw [cut, List.getLast?_append, found, Option.some_or]
  unfold splitPiece? at split
  rw [← trimLeft] at split
  dsimp only at split
  split at split
  · cases split
  · split at split
    · next nothing =>
      cases split
      rw [nothing, List.append_nil] at parts
      refine .inl ⟨rfl, ?_⟩
      -- Blanks behind the name would stand at the end of the piece.
      cases ending : before.getLast? with
      | none =>
        rw [List.getLast?_eq_none_iff.mp ending, List.append_nil] at parts
        exact parts
      | some c =>
        have solid := last parts ending
        rw [front c (List.mem_of_getLast? ending)] at solid
        cases solid
    · next behind sign =>
      rw [← trimLeft] at split
      split at split
      · cases split
      · cases split
        obtain ⟨after, rest, back, first⟩ := exists_trimLeft behind
        rw [sign, rest] at parts
        refine .inr ⟨before, after, trimLeft behind, rfl, parts, front, back, first, fun c found => ?_⟩
        have cut : piece = piece.takeWhile isNamePart ++ (before ++ '=' :: after) ++ trimLeft behind := by
          simpa using parts
        exact last cut found
    · cases split

end Pieces

section Members

variable {piece : List Char} {pieces : List (List Char)} {entry : Entry} {seen : List String} {next n : Int}
  {members : List EnumMember}

/-- A piece of one of the two forms is split into its name and its literal, which is read, -/
theorem IsEntry.split (isEntry : IsEntry piece entry) : IsMemberName entry.name ∧
    ∃ literal?, splitPiece? piece = some (entry.name.toList, literal?) ∧
      ∀ next, memberValue entry.name next literal? = .ok (entry.value?.getD next) := by
  cases isEntry with
  | bare isName =>
    obtain ⟨nonempty, inside⟩ := isNamePart_of_isMemberName isName
    exact ⟨isName, none, splitPiece?_bare nonempty inside, fun _ => rfl⟩
  | assigned isName front back isLiteral =>
    obtain ⟨nonempty, inside⟩ := isNamePart_of_isMemberName isName
    obtain ⟨trimmed, present⟩ := isLiteral.trimmed
    refine ⟨isName, _, splitPiece?_assigned nonempty inside front back trimmed present, fun next => ?_⟩
    rw [memberValue, (readEnumLiteral_eq_ok_iff trimmed).mpr isLiteral]
    rfl

/-- and what is split and read so has one of the two forms. -/
theorem exists_isEntry {name : List Char} {literal? : Option (List Char)} (trimmed : IsTrimmed piece)
    (split : splitPiece? piece = some (name, literal?)) (isName : IsMemberName (String.ofList name))
    (value : memberValue (String.ofList name) next literal? = .ok n) :
    ∃ entry, IsEntry piece entry ∧ entry.name = String.ofList name ∧ entry.value?.getD next = n := by
  rcases splitPiece?_eq_some trimmed split with ⟨rfl, rfl⟩ | ⟨before, after, literal, rfl, rfl, front, back, solid⟩
  · cases value
    have isEntry := IsEntry.bare isName
    rw [String.toList_ofList] at isEntry
    exact ⟨_, isEntry, rfl, rfl⟩
  · have read : readEnumLiteral literal = .ok n := by
      unfold memberValue at value
      dsimp only at value
      split at value
      · next found =>
        cases value
        exact found
      · cases value
    have isEntry := IsEntry.assigned isName front back ((readEnumLiteral_eq_ok_iff solid).mp read)
    rw [String.toList_ofList] at isEntry
    exact ⟨_, isEntry, rfl, rfl⟩

/-- Entries have no blanks around them. -/
theorem IsEntry.trimmed (isEntry : IsEntry piece entry) :
    IsTrimmed piece ∧ piece ≠ [] := by
  have solid {c : Char} (inside : isNamePart c = true) : isBlank c = false := by
    simp only [isNamePart, Bool.not_eq_true', Bool.or_eq_false_iff] at inside
    exact inside.1.1
  cases isEntry with
  | bare isName =>
    obtain ⟨nonempty, inside⟩ := isNamePart_of_isMemberName isName
    refine ⟨⟨fun c found => ?_, fun c found => ?_⟩, nonempty⟩
    · exact solid (inside c (List.mem_of_head? found))
    · exact solid (inside c (List.mem_of_getLast? found))
  | @assigned name before after literal n isName front back isLiteral =>
    obtain ⟨nonempty, inside⟩ := isNamePart_of_isMemberName isName
    obtain ⟨trimmed, present⟩ := isLiteral.trimmed
    refine ⟨⟨fun c found => ?_, fun c found => ?_⟩, List.append_ne_nil_of_left_ne_nil nonempty _⟩
    · obtain ⟨d, rest, start⟩ := List.exists_cons_of_ne_nil nonempty
      rw [start] at found inside
      cases found
      exact solid (inside c List.mem_cons_self)
    · have whole : name.toList ++ (before ++ '=' :: (after ++ literal)) =
          name.toList ++ (before ++ '=' :: after) ++ literal := by simp
      rw [whole, List.getLast?_append, List.getLast?_eq_some_getLast present, Option.some_or] at found
      exact trimmed.last c (found ▸ List.getLast?_eq_some_getLast present)

/-- One more piece is read when it has one of the forms and its name is new; the member behind it follows its
own. -/
theorem readMembers_cons_eq_ok_iff (trimmed : IsTrimmed piece) :
    readMembers seen next (piece :: pieces) = .ok members ↔
      ∃ entry others, IsEntry piece entry ∧ entry.name ∉ seen ∧
        readMembers (entry.name :: seen) (entry.value?.getD next + 1) pieces = .ok others ∧
        members = { name := entry.name, value := entry.value?.getD next } :: others := by
  constructor
  · intro read
    unfold readMembers at read
    split at read
    · cases read
    · next name literal? split =>
      dsimp only at read
      split at read
      · cases read
      · next valid =>
        split at read
        · cases read
        · next new =>
          split at read
          · cases read
          · next n value =>
            have isName : IsMemberName (String.ofList name) := by
              rw [IsMemberName, String.toList_ofList]
              simpa using valid
            obtain ⟨entry, isEntry, named, valued⟩ := exists_isEntry trimmed split isName value
            rw [← named, ← valued] at read
            cases further : readMembers (entry.name :: seen) (entry.value?.getD next + 1) pieces with
            | error cause =>
              rw [further] at read
              cases read
            | ok others =>
              rw [further] at read
              cases read
              exact ⟨entry, others, isEntry, by simpa [named] using new, further, rfl⟩
  · rintro ⟨entry, others, isEntry, new, further, rfl⟩
    obtain ⟨⟨identifier, noUnderscore⟩, literal?, split, value⟩ := isEntry.split
    simp [readMembers, split, identifier, noUnderscore, new, value, further, Except.map]

/-- Pieces are read as members exactly when they are entries with different names. -/
theorem readMembers_eq_ok_iff (trimmed : ∀ piece ∈ pieces, IsTrimmed piece) :
    readMembers seen next pieces = .ok members ↔
      ∃ entries, List.Forall₂ IsEntry pieces entries ∧ (entries.map Entry.name).Nodup ∧
        (∀ entry ∈ entries, entry.name ∉ seen) ∧ members = numbered next entries := by
  induction pieces generalizing seen next members with
  | nil =>
    simp [readMembers, numbered, eq_comm]
  | cons piece rest inductionHypothesis =>
    rw [List.forall_mem_cons] at trimmed
    rw [readMembers_cons_eq_ok_iff trimmed.1]
    constructor
    · rintro ⟨entry, others, isEntry, new, further, rfl⟩
      obtain ⟨entries, areEntries, distinct, unseen, rfl⟩ := (inductionHypothesis trimmed.2).mp further
      refine ⟨entry :: entries, .cons isEntry areEntries, ?_, ?_, rfl⟩
      · rw [List.map_cons, List.nodup_cons]
        refine ⟨?_, distinct⟩
        intro repeated
        obtain ⟨other, member, same⟩ := List.mem_map.mp repeated
        exact unseen other member (same ▸ List.mem_cons_self)
      · rw [List.forall_mem_cons]
        exact ⟨new, fun other member known => unseen other member (List.mem_cons_of_mem _ known)⟩
    · rintro ⟨entries, areEntries, distinct, unseen, rfl⟩
      cases areEntries with
      | @cons _ entry _ others isEntry areOthers =>
        rw [List.map_cons, List.nodup_cons] at distinct
        rw [List.forall_mem_cons] at unseen
        refine ⟨entry, _, isEntry, unseen.1, (inductionHypothesis trimmed.2).mpr ?_, rfl⟩
        refine ⟨others, areOthers, distinct.2, fun other member known => ?_, rfl⟩
        rcases List.mem_cons.mp known with same | before
        · exact distinct.1 (same ▸ List.mem_map_of_mem member)
        · exact unseen.2 other member before

/-- Members have the names of their entries, -/
theorem names_numbered (next : Int) (entries : List Entry) :
    (numbered next entries).map EnumMember.name = entries.map Entry.name := by
  induction entries generalizing next with
  | nil => rfl
  | cons entry rest inductionHypothesis => simp [numbered, inductionHypothesis]

/-- which are names that members may have. -/
theorem isMemberName_of_mem_numbered {entries : List Entry} (areEntries : List.Forall₂ IsEntry pieces entries)
    (next : Int) : ∀ m ∈ numbered next entries, IsMemberName m.name := by
  induction areEntries generalizing next with
  | nil => exact fun _ => nofun
  | cons isEntry _ inductionHypothesis =>
    rw [numbered, List.forall_mem_cons]
    exact ⟨isEntry.split.1, inductionHypothesis _⟩

end Members

end TypedSheets.Schema
