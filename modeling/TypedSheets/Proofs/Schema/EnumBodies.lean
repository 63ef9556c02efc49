import TypedSheets.Proofs.Schema.EnumGrammar
import TypedSheets.Proofs.Text.Cutting
import TypedSheets.Proofs.Text.Trimming
import TypedSheets.Schema.Enumeration

/-!
# Enumeration bodies

The same pieces can be laid out in many ways: on one line or on several, with any line ends, with trailing
commas, blank lines, comments and blanks. Which texts are layouts of which pieces is told here by how they
are put together, and the reader of bodies finds in every text the pieces that it is a layout of
(`isLaidOut_iff`).

A body declares an enumeration exactly when it is a layout of pieces, at least one of them, which are entries
with different names. The layout decides nothing but the pieces. The main statement is
`readEnumBody_grammar`.
-/

namespace TypedSheets.Schema

open TypedSheets.Text

section Layouts

variable {line text : List Char} {pieces : List (List Char)}

/-- The pieces of a line stand between the commas of its code, which ends where a comment starts; blanks
around a piece are no part of it, and nothing but blanks is no piece. -/
def HoldsPieces (line : List Char) (pieces : List (List Char)) : Prop :=
  ∃ uncommented code parts cores, IsCutAt ['/', '/'] line uncommented ∧ IsCutAt ['#'] uncommented code ∧
    AreParts ',' code parts ∧ List.Forall₂ Surrounds parts cores ∧
    pieces = cores.filter fun core => !core.isEmpty

/-- A text is a layout of the pieces that its lines hold, in order. -/
def IsLaidOut (text : List Char) (pieces : List (List Char)) : Prop :=
  ∃ lines held, HasLines text lines ∧ List.Forall₂ HoldsPieces lines held ∧ pieces = held.flatten

/-- What the reader takes from a line. -/
def linePieces (line : List Char) : List (List Char) :=
  ((splitOn ',' (stripComment line)).map trimChars).filter fun piece => !piece.isEmpty

/-- Lists whose items correspond by a function are an image. -/
theorem forall₂_iff_map {α β : Type} {related : α → β → Prop} {f : α → β}
    (determined : ∀ a b, related a b ↔ f a = b) (items : List α) (images : List β) :
    List.Forall₂ related items images ↔ images = items.map f := by
  have same : related = fun a b => f a = b := by
    funext a b
    exact propext (determined a b)
  rw [same, ← List.forall₂_map_left_iff (R := (· = ·)), List.forall₂_eq_eq_eq]
  exact eq_comm

/-- Blanks in front of a text change no part but by blanks, -/
theorem map_trimChars_splitOn_before {before : List Char} (blank : ∀ c ∈ before, isBlank c = true)
    (cs : List Char) : (splitOn ',' (before ++ cs)).map trimChars = (splitOn ',' cs).map trimChars := by
  induction before with
  | nil => rfl
  | cons c others inductionHypothesis =>
    rw [List.forall_mem_cons] at blank
    have noComma : c ≠ ',' := by
      rintro rfl
      cases blank.1
    rw [← inductionHypothesis blank.2, List.cons_append, splitOn, if_neg noComma]
    cases whole : splitOn ',' (others ++ cs) with
    | nil => exact absurd whole (splitOn_ne_nil _ _)
    | cons first rest =>
      have padded : trimChars ([c] ++ first ++ []) = trimChars first :=
        trimChars_pad (by simpa using blank.1) (by simp) first
      simpa using padded

/-- and neither do blanks behind it. -/
theorem map_trimChars_splitOn_after {after : List Char} (blank : ∀ c ∈ after, isBlank c = true)
    (cs : List Char) : (splitOn ',' (cs ++ after)).map trimChars = (splitOn ',' cs).map trimChars := by
  have noComma : ',' ∉ after := by
    intro present
    cases blank _ present
  have parts := splitOn_append_of_not_mem noComma cs
  generalize splitOn ',' cs = parts, splitOn ',' (cs ++ after) = padded at parts
  induction parts with
  | nil => rfl
  | cons head _ inductionHypothesis =>
    rw [List.map_cons, List.map_cons, inductionHypothesis]
    congr 1
    rcases head with rfl | rfl
    · rfl
    · next part _ _ _ =>
      have padded : trimChars ([] ++ part ++ after) = trimChars part := trimChars_pad (by simp) blank part
      exact padded

/-- So it does not matter that the code of a line is trimmed before it is cut. -/
theorem map_trimChars_splitOn_trimChars (code : List Char) :
    (splitOn ',' (trimChars code)).map trimChars = (splitOn ',' code).map trimChars := by
  obtain ⟨before, after, whole, front, back⟩ := (surrounds_trimChars code).blanks
  conv => rhs; rw [whole, map_trimChars_splitOn_after back, map_trimChars_splitOn_before front]

/-- The reader takes from each line the pieces that it holds, -/
theorem holdsPieces_iff (line : List Char) (pieces : List (List Char)) :
    HoldsPieces line pieces ↔ linePieces line = pieces := by
  have trimmed (parts cores : List (List Char)) :
      List.Forall₂ Surrounds parts cores ↔ cores = parts.map trimChars :=
    forall₂_iff_map (fun part core => Iff.symm trimChars_eq_iff) parts cores
  simp only [HoldsPieces, ← beforeFirst_eq_iff (List.cons_ne_nil _ _), ← splitOn_eq_iff, trimmed]
  simp [linePieces, stripComment, map_trimChars_splitOn_trimChars, eq_comm]

/-- and so from every text the pieces that it is a layout of. -/
theorem isLaidOut_iff (body : String) (pieces : List (List Char)) :
    IsLaidOut body.toList pieces ↔ bodyPieces body = pieces := by
  have lines : bodyPieces body = ((splitOn '\n' (unifyLineEnds body.toList)).map linePieces).flatten := rfl
  simp only [IsLaidOut, ← splitOn_unifyLineEnds_iff, forall₂_iff_map holdsPieces_iff]
  simp [lines, eq_comm]

/-- The characters that start a comment, separate pieces or end a line. -/
def layoutMarks : List Char := ['/', '#', ',', '\n', '\r']

/-- A text without these is within a line, -/
theorem within_of_plain (plain : ∀ mark ∈ layoutMarks, mark ∉ line) : ∀ c ∈ line, isLineEnd c = false := by
  intro c present
  rw [isLineEnd, Bool.or_eq_false_iff, beq_eq_false_iff_ne, beq_eq_false_iff_ne]
  constructor
  · rintro rfl
    exact plain _ (by decide) present
  · rintro rfl
    exact plain _ (by decide) present

/-- which holds what is not blank in it. -/
theorem holdsPieces_single {core : List Char} (surrounds : Surrounds line core) (nonempty : core ≠ [])
    (plain : ∀ mark ∈ layoutMarks, mark ∉ line) : HoldsPieces line [core] := by
  refine ⟨line, line, [line], [core], ?_, ?_, ?_, .cons surrounds .nil, by simp [nonempty]⟩
  · exact isCutAt_of_not_mem ['/'] (plain '/' (by decide))
  · exact isCutAt_of_not_mem [] (plain '#' (by decide))
  · exact areParts_of_not_mem (plain ',' (by decide))

/-- A text without lines but an empty one is a layout of no pieces, -/
theorem isLaidOut_nil : IsLaidOut [] [] := (isLaidOut_iff "" []).mpr (by decide)

/-- and a line more in front puts its pieces in front. -/
theorem IsLaidOut.cons {own : List (List Char)} (within : ∀ c ∈ line, isLineEnd c = false)
    (held : HoldsPieces line own) (laidOut : IsLaidOut text pieces) :
    IsLaidOut (line ++ ['\n'] ++ text) (own ++ pieces) := by
  obtain ⟨lines, others, hasLines, each, rfl⟩ := laidOut
  exact ⟨_, _, .next within (by decide) nofun hasLines, .cons held each, rfl⟩

/-- A text that is one such line is a layout of one piece. -/
theorem IsLaidOut.single {core : List Char} (surrounds : Surrounds line core) (nonempty : core ≠ [])
    (plain : ∀ mark ∈ layoutMarks, mark ∉ line) : IsLaidOut line [core] :=
  ⟨[line], [[core]], .last (within_of_plain plain), .cons (holdsPieces_single surrounds nonempty plain) .nil, rfl⟩

/-- Pieces have no blanks around them. -/
theorem trimmed_of_mem_bodyPieces {body : String} {piece : List Char} (member : piece ∈ bodyPieces body) :
    IsTrimmed piece := by
  obtain ⟨line, -, held⟩ := List.mem_flatMap.mp member
  obtain ⟨part, -, rfl⟩ := List.mem_map.mp (List.mem_filter.mp held).1
  exact (surrounds_trimChars part).trimmed

end Layouts

section Bodies

variable {name body : String} {e : Enumeration} {members : List EnumMember}

/-- An enumeration has the members that are read from the pieces of its body, and at least one. -/
theorem readEnumBody_eq_ok_iff : readEnumBody name body = .ok e ↔
    ∃ members, readMembers [] 0 (bodyPieces body) = .ok members ∧ members ≠ [] ∧ e = { name, members } := by
  unfold readEnumBody
  constructor
  · intro read
    split at read
    · cases read
    · cases read
    · next members nonempty found =>
      cases read
      exact ⟨members, found, nonempty, rfl⟩
  · rintro ⟨members, found, nonempty, rfl⟩
    rw [found]
    split
    · next failed => cases failed
    · next nothing =>
      cases nothing
      exact absurd rfl nonempty
    · next others _ same =>
      cases same
      rfl

/-- A body that declares none is refused under the name of its type. -/
theorem readEnumBody_ok_or_error (name body : String) : (∃ e, readEnumBody name body = .ok e) ∨
    ∃ cause, readEnumBody name body = .error { enumeration := name, cause } := by
  unfold readEnumBody
  split
  · next cause _ => exact .inr ⟨cause, rfl⟩
  · exact .inr ⟨.noMembers, rfl⟩
  · exact .inl ⟨_, rfl⟩

/-- A body declares what the entries that it is a layout of declare. -/
theorem readEnumBody_eq_ok_iff_entries : readEnumBody name body = .ok e ↔
    ∃ pieces entries, IsLaidOut body.toList pieces ∧ pieces ≠ [] ∧ List.Forall₂ IsEntry pieces entries ∧
      (entries.map Entry.name).Nodup ∧ e = { name, members := numbered 0 entries } := by
  have trimmed : ∀ piece ∈ bodyPieces body, IsTrimmed piece := fun _ => trimmed_of_mem_bodyPieces
  have nonempty_iff {pieces : List (List Char)} {entries : List Entry}
      (areEntries : List.Forall₂ IsEntry pieces entries) : pieces ≠ [] ↔ numbered 0 entries ≠ [] := by
    cases areEntries <;> simp [numbered]
  rw [readEnumBody_eq_ok_iff]
  constructor
  · rintro ⟨members, found, nonempty, rfl⟩
    obtain ⟨entries, areEntries, distinct, -, rfl⟩ := (readMembers_eq_ok_iff trimmed).mp found
    exact ⟨_, entries, (isLaidOut_iff body _).mpr rfl, (nonempty_iff areEntries).mpr nonempty, areEntries,
      distinct, rfl⟩
  · rintro ⟨pieces, entries, laidOut, nonempty, areEntries, distinct, rfl⟩
    obtain rfl := (isLaidOut_iff body pieces).mp laidOut
    exact ⟨_, (readMembers_eq_ok_iff trimmed).mpr ⟨entries, areEntries, distinct, by simp, rfl⟩,
      (nonempty_iff areEntries).mp nonempty, rfl⟩

/-- Every body is a layout of one list of pieces. It declares an enumeration exactly when there are pieces,
all of them are entries, and no two have one name; the members are then those of the entries. Any other
body is refused, and bodies of the same pieces are treated the same. -/
theorem readEnumBody_grammar (name body : String) :
    (∃! pieces, IsLaidOut body.toList pieces) ∧
    (∀ e, readEnumBody name body = .ok e ↔
      ∃ pieces entries, IsLaidOut body.toList pieces ∧ pieces ≠ [] ∧ List.Forall₂ IsEntry pieces entries ∧
        (entries.map Entry.name).Nodup ∧ e = { name, members := numbered 0 entries }) ∧
    ((∃ e, readEnumBody name body = .ok e) ∨
      ∃ cause, readEnumBody name body = .error { enumeration := name, cause }) ∧
    ∀ other pieces, IsLaidOut body.toList pieces → IsLaidOut other.toList pieces →
      readEnumBody name other = readEnumBody name body := by
  refine ⟨?_, fun e => readEnumBody_eq_ok_iff_entries, readEnumBody_ok_or_error name body,
    fun other pieces own same => ?_⟩
  · simp [isLaidOut_iff, ExistsUnique]
  · rw [isLaidOut_iff] at own same
    rw [readEnumBody, readEnumBody, own, same]

example : readEnumBody "Colour" "Red, Green = 0x10, // warm, cold\r\n\r Blue # the last\n" =
    .ok { name := "Colour", members := [⟨"Red", 0⟩, ⟨"Green", 16⟩, ⟨"Blue", 17⟩] } := by decide +kernel

end Bodies

end TypedSheets.Schema
