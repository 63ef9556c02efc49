import TypedSheets.Proofs.Yaml.NameTexts
import TypedSheets.Text.Identifier

/-!
# Identifiers as names

The characters of an identifier are letters, digits and marks. None of them ends a line, is blank
or means something in a document, so every identifier may stand as a name. Above ASCII this is
read off the ranges of the tables, each of which lies inside one stretch of harmless code points.
-/

namespace TypedSheets.Yaml

open TypedSheets.Text

/-- The stretches of code points above ASCII that lie between the controls, the line ends, the
surrogates and the byte order mark. -/
def harmlessStretches : CodeRanges :=
  [(0xa1, 0x2027), (0x202a, 0xd7ff), (0xe000, 0xfefe), (0xff00, 0xfffd), (0x10000, 0x10fffe)]

/-- Whether a range lies inside one of the stretches. -/
def isHarmlessRange (range : Nat × Nat) : Bool :=
  harmlessStretches.any fun stretch => stretch.1 ≤ range.1 && range.2 ≤ stretch.2

/-- Whether a range lies inside one of some stretches. -/
def liesInside (stretches : CodeRanges) (range : Nat × Nat) : Bool :=
  stretches.any fun stretch => stretch.1 ≤ range.1 && range.2 ≤ stretch.2

/-- What ranges inside some stretches cover, the stretches cover. -/
theorem covers_of_liesInside {stretches ranges : CodeRanges} {code : Nat}
    (inside : ranges.all (liesInside stretches) = true) (covered : ranges.covers code = true) :
    stretches.covers code = true := by
  obtain ⟨range, member, reached⟩ := List.any_eq_true.mp covered
  obtain ⟨stretch, present, around⟩ := List.any_eq_true.mp (List.all_eq_true.mp inside range member)
  simp only [Bool.and_eq_true, decide_eq_true_eq] at reached around
  refine List.any_eq_true.mpr ⟨stretch, present, ?_⟩
  simp only [Bool.and_eq_true, decide_eq_true_eq]
  omega

theorem harmless_startRanges : identifierStartRanges.all isHarmlessRange = true := by
  decide +kernel

theorem harmless_extendRanges : identifierExtendRanges.all isHarmlessRange = true := by
  decide +kernel

/-- A continuing character is an ASCII letter, digit or underscore, or is covered by the stretches that the
ranges of the tables lie in. -/
theorem code_of_continue {stretches : CodeRanges} (start : identifierStartRanges.all (liesInside stretches) = true)
    (extend : identifierExtendRanges.all (liesInside stretches) = true) (c : Char)
    (continuing : isIdentifierContinue c = true) :
    (48 ≤ c.toNat ∧ c.toNat ≤ 57 ∨ 65 ≤ c.toNat ∧ c.toNat ≤ 90 ∨ c.toNat = 95 ∨
      97 ≤ c.toNat ∧ c.toNat ≤ 122) ∨ stretches.covers c.toNat = true := by
  unfold isIdentifierContinue at continuing
  dsimp only at continuing
  split at continuing
  · next ascii =>
    refine .inl ?_
    simp only [isIdentifierStart, ascii, if_true, Bool.or_eq_true, Bool.and_eq_true,
      decide_eq_true_eq, beq_iff_eq] at continuing
    omega
  · refine .inr ?_
    rcases Bool.or_eq_true_iff.mp continuing with starts | further
    · exact covers_of_liesInside start starts
    · exact covers_of_liesInside extend further

/-- A starting character may also continue an identifier. -/
theorem continue_of_start (c : Char) (start : isIdentifierStart c = true) :
    isIdentifierContinue c = true := by
  unfold isIdentifierContinue
  dsimp only
  split
  · rw [start]
    rfl
  · next wide =>
    have covered : identifierStartRanges.covers c.toNat = true := by
      simpa [isIdentifierStart, wide] using start
    rw [covered]
    rfl

/-- The characters of identifiers are those of names. -/
theorem nameChar_of_continue (c : Char) (continuing : isIdentifierContinue c = true) :
    isOrdinary c = true ∧ isSolid c = true ∧ c ∉ nameRefused := by
  have code := code_of_continue harmless_startRanges harmless_extendRanges c continuing
  simp only [CodeRanges.covers, harmlessStretches, List.any_cons, List.any_nil, Bool.or_false,
    Bool.or_eq_true, Bool.and_eq_true, decide_eq_true_eq] at code
  have other (x : Char) (refused : x.toNat < 48 ∨ 58 ≤ x.toNat ∧ x.toNat ≤ 64 ∨ 91 ≤ x.toNat ∧
      x.toNat ≤ 94 ∨ x.toNat = 96 ∨ 123 ≤ x.toNat ∧ x.toNat ≤ 0xa0 ∨ x.toNat = 0x2028 ∨
      x.toNat = 0x2029) : c ≠ x := by
    rintro rfl
    omega
  refine ⟨?_, ?_, ?_⟩
  · simp only [isOrdinary, Bool.and_eq_true, Bool.or_eq_true, beq_iff_eq, decide_eq_true_eq, bne_iff_ne,
      ne_eq]
    omega
  · simp [isSolid, isSpace, isBreak, other ' ' (by decide), other '\t' (by decide),
      other '\n' (by decide), other '\u0085' (by decide), other '\u2028' (by decide),
      other '\u2029' (by decide)]
  · intro refused
    have each : ∀ x ∈ nameRefused, x.toNat < 48 ∨ 58 ≤ x.toNat ∧ x.toNat ≤ 64 ∨
        91 ≤ x.toNat ∧ x.toNat ≤ 94 ∨ x.toNat = 96 ∨ 123 ≤ x.toNat ∧ x.toNat ≤ 0xa0 ∨
        x.toNat = 0x2028 ∨ x.toNat = 0x2029 := forall_mem_of_all (by decide)
    exact other c (each c refused) rfl

/-- All characters of an identifier may continue one. -/
theorem continue_of_form {cs : List Char} (form : hasIdentifierForm cs = true) :
    ∀ c ∈ cs, isIdentifierContinue c = true := by
  cases cs with
  | nil => cases form
  | cons c rest =>
    simp only [hasIdentifierForm, Bool.and_eq_true, List.all_eq_true] at form
    obtain ⟨start, others⟩ := form
    intro x present
    rcases List.mem_cons.mp present with rfl | present
    · exact continue_of_start x start
    · exact others x present

/-- What has the form of an identifier may stand as a name. -/
theorem isName_of_form (cs : List Char) (form : hasIdentifierForm cs = true) : IsName cs := by
  have each := fun c present => nameChar_of_continue c (continue_of_form form c present)
  refine ⟨?_, fun c present => (each c present).1, fun c present => (each c present).2.1,
    fun c present => (each c present).2.2⟩
  rintro rfl
  cases form

/-- An identifier has no character that may not continue one, -/
theorem not_mem_of_isIdentifier {name : String} (identifier : isIdentifier name = true) {c : Char}
    (other : isIdentifierContinue c = false) : c ∉ name.toList := by
  intro present
  have continuing := continue_of_form (Bool.and_eq_true_iff.mp identifier).1 c present
  rw [other] at continuing
  cases continuing

/-- such as a slash. -/
theorem slash_not_mem_of_isIdentifier (name : String) (identifier : isIdentifier name = true) :
    '/' ∉ name.toList := not_mem_of_isIdentifier identifier (by decide)

/-- An identifier may stand as a name, -/
theorem isName_of_isIdentifier (name : String) (identifier : isIdentifier name = true) :
    IsName name.toList :=
  isName_of_form name.toList (Bool.and_eq_true_iff.mp identifier).1

/-- More letters behind a form make a form, -/
theorem hasIdentifierForm_append {cs letters : List Char} (form : hasIdentifierForm cs = true)
    (more : letters.all isIdentifierContinue = true) : hasIdentifierForm (cs ++ letters) = true := by
  cases cs with
  | nil => cases form
  | cons c rest =>
    rw [hasIdentifierForm, Bool.and_eq_true] at form
    rw [List.cons_append, hasIdentifierForm, form.1, List.all_append, form.2, more, Bool.and_self,
      Bool.and_self]

/-- so an identifier with more letters behind it may stand as a name, -/
theorem isName_append (name letters : String) (identifier : isIdentifier name = true)
    (more : letters.toList.all isIdentifierContinue = true) : IsName (name ++ letters).toList := by
  apply isName_of_form
  rw [String.toList_append]
  exact hasIdentifierForm_append (Bool.and_eq_true_iff.mp identifier).1 more

/-- and is an identifier when no reserved word ends with them. -/
theorem isIdentifier_append {name letters : String} (identifier : isIdentifier name = true)
    (more : letters.toList.all isIdentifierContinue = true)
    (free : ∀ word ∈ reservedWords, ¬letters.toList <:+ word.toList) :
    isIdentifier (name ++ letters) = true := by
  rw [isIdentifier, Bool.and_eq_true, String.toList_append, Bool.not_eq_true', ← Bool.not_eq_true,
    List.contains_iff_mem]
  refine ⟨hasIdentifierForm_append (Bool.and_eq_true_iff.mp identifier).1 more, ?_⟩
  intro reserved
  apply free _ reserved
  rw [String.toList_append]
  exact List.suffix_append name.toList letters.toList

end TypedSheets.Yaml
