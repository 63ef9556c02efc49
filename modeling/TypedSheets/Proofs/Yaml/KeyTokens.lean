import TypedSheets.Asset
import TypedSheets.Proofs.Yaml.NameTexts

/-!
# Entries as tokens

A short key stands on the line of its value, where the colon behind it shows that it is a key; a
long one has a line and a mark of its own. Both ways the tokens are the same, and the first key
of a mapping opens the block.
-/

namespace TypedSheets.Yaml

open Cursor

/-- The token of a scalar that is written as an asset writes it. -/
def formToken (form : ScalarForm) : Token :=
  let style := chooseStyle form.bare false (analyze form.text)
  .scalar (String.ofList (readBack style form.text)) (style == .plain)

namespace Lexing

/-- The tokens before a key at a column: the first key of a mapping opens it. -/
def opening (indent : Int) (column : Nat) (tokens : List Token) : List Token :=
  if indent < column then .blockMappingStart :: tokens else tokens

/-- The blocks around it. -/
def around (indent : Int) (column : Nat) (outer : List Int) : List Int :=
  if indent < column then indent :: outer else outer

/-- A colon that ends a token announces a value. -/
theorem nextToken_colon (s : Lexing) (behind : List Char) (ends : endsToken behind = true) :
    s.nextToken ':' behind = s.value := by
  simp [nextToken, isMark, List.isPrefixOf, ends]

/-- A question mark that ends a token announces a key. -/
theorem nextToken_question (s : Lexing) (behind : List Char) (ends : endsToken behind = true) :
    s.nextToken '?' behind = s.markedKey := by
  simp [nextToken, isMark, List.isPrefixOf, ends]

/-- The colon behind a candidate makes a key of it. -/
theorem value_candidate (size : Nat) (c : Cursor) (token : Token) (tokens : List Token) (indent : Int)
    (outer : List Int) (required : Bool) (index line column : Nat) (inside : indent ≤ column) :
    value (block size c (token :: tokens) indent outer false
        [{ flow := 0, position := tokens.length, required, index, line, column }]) =
      .ok (block size c.step (.value :: token :: .key :: opening indent column tokens) column
        (around indent column outer) false []) := by
  by_cases deep : indent < column
  · have later : tokens.length + 1 + 1 - tokens.length = 2 := by omega
    simp [value, candidate?, block, forgetCandidate, insertAt, openBlock, indicator, push, opening,
      around, deep, later, steps]
  · have same : indent = column := by omega
    simp [value, candidate?, block, forgetCandidate, insertAt, openBlock, indicator, push, opening,
      around, same, steps]

/-- The colon at the start of a line, behind a key with a mark of its own. -/
theorem value_marked (size : Nat) (c : Cursor) (tokens : List Token) (indent : Int)
    (outer : List Int) (inside : (c.column : Int) = indent) :
    value (block size c tokens indent outer true []) =
      .ok (block size c.step (.value :: tokens) indent outer true []) := by
  simp [value, candidate?, block, openMarked, openBlock, inside, dropCandidate, forgetCandidate,
    indicator, push, steps, bind, Except.bind, pure, Except.pure]

/-- The mark of a key. -/
theorem markedKey_block (size : Nat) (c : Cursor) (tokens : List Token) (indent : Int)
    (outer : List Int) (inside : indent ≤ c.column) :
    markedKey (block size c tokens indent outer true []) =
      .ok (block size c.step (.key :: opening indent c.column tokens) c.column
        (around indent c.column outer) true []) := by
  by_cases deep : indent < c.column
  · simp [markedKey, candidate?, block, openMarked, openBlock, deep, dropCandidate, forgetCandidate,
      indicator, push, steps, bind, Except.bind, pure, Except.pure, opening, around]
  · have same : indent = c.column := by omega
    simp [markedKey, candidate?, block, openMarked, openBlock, dropCandidate, forgetCandidate,
      indicator, push, steps, bind, Except.bind, pure, Except.pure, opening, around, same]

/-- A scalar ends before the colon of its key. -/
theorem plainEnd_colon (required : Nat) (c : Cursor) (behind : List Char)
    (rest : c.rest = ':' :: behind) (ends : endsToken behind = true) :
    PlainEnd required c c false where
  ended := by rw [rest]; simp [plainRun, ends]
  gap := by
    refine ⟨[], fun fuel _ => plainGap_spaces fuel 0 c ':' behind rest (by decide), ?_⟩
    rfl

/-- A name behind spaces is cut off before its colon, and waits for it. -/
theorem reaches_name (cs behind : List Char) (name : IsName cs) (bare : Bool) (gap size : Nat)
    (c : Cursor) (tokens : List Token) (indent : Int) (outer : List Int)
    (inside : indent ≤ (c.column + gap : Nat)) (narrow : c.column + gap + 2 < lineWidth)
    (rest : c.rest = List.replicate gap ' ' ++ (IsName.written cs bare ++ ':' :: behind))
    (ends : endsToken behind = true) (room : c.rest.length ≤ size) :
    Reaches (block size c tokens indent outer true [])
      (block size (steps (IsName.written cs bare).length (steps gap c))
        (.scalar (String.ofList cs) bare :: tokens) indent outer false
        (noted (steps gap c) tokens indent true)) := by
  have start : (steps gap c).rest = IsName.written cs bare ++ ':' :: behind :=
    rest_steps_spaces c gap _ rest
  have atColon := rest_steps_append (steps gap c) _ _ start
  have written := name.writeStyled_eq { column := 0, indent := c.column + gap + 2, folds := false } bare
  rw [← written] at rest atColon
  have token := reaches_scalar { column := 0, indent := c.column + gap + 2, folds := false }
    (if bare then .plain else .single) cs (':' :: behind) gap size c _ tokens indent outer true false
    (name.fits bare) (by simp) narrow (by simp only; omega) inside (.inr name.isWord)
    (.inr fun x found => ⟨name.ne_of_mem (List.mem_of_head? found) (by decide),
      name.ne_of_mem (List.mem_of_head? found) (by decide)⟩)
    rest room (plainEnd_colon (indent + 1).toNat _ behind atColon ends) (by rw [atColon])
  rw [ite_self, written, name.readBack_eq, IsName.beq_plain_eq, Bool.and_false] at token
  exact token

/-- The colon behind a key on the same line. -/
theorem reaches_colon (size : Nat) (c colon : Cursor) (token : Token) (tokens : List Token)
    (indent : Int) (outer : List Int) (behind : List Char) (rest : colon.rest = ':' :: behind)
    (ends : endsToken behind = true) (inside : indent ≤ c.column) (line : colon.line = c.line)
    (near : colon.index - c.index ≤ keyReach) (column : c.column ≤ colon.column) :
    Reaches (block size colon (token :: tokens) indent outer false (noted c tokens indent true))
      (block size colon.step (.value :: token :: .key :: opening indent c.column tokens) c.column
        (around indent c.column outer) false []) := by
  have cut : CutsOff
      (block size (steps 0 colon) (token :: tokens) indent outer false (noted c tokens indent true))
      (block size colon.step (.value :: token :: .key :: opening indent c.column tokens) c.column
        (around indent c.column outer) false []) := by
    refine ⟨':', behind, rest, by decide, ?_⟩
    rw [nextToken_colon _ behind ends]
    exact value_candidate size colon token tokens indent outer _ _ _ c.column inside
  refine cut.reaches 0 (':' :: behind) rest ?_ ?_ ?_
  · intro k present
    obtain ⟨-, sameLine, start⟩ := place_of_noted _ _ _ _ k present
    exact ⟨sameLine.trans line.symm, by rw [start]; exact near⟩
  · show indent ≤ ((colon.column + 0 : Nat) : Int)
    omega
  · show colon.step.rest.length < (':' :: behind).length
    rw [rest_step, rest]
    simp

/-- A key and the colon behind it on the same line. -/
theorem reaches_shortKey (cs behind : List Char) (name : IsName cs) (bare : Bool) (gap size : Nat)
    (c : Cursor) (tokens : List Token) (indent : Int) (outer : List Int)
    (short : cs.length + 2 ≤ keyReach) (inside : indent ≤ (c.column + gap : Nat))
    (narrow : c.column + gap + 2 < lineWidth)
    (rest : c.rest = List.replicate gap ' ' ++ (IsName.written cs bare ++ ':' :: behind))
    (ends : endsToken behind = true) (room : c.rest.length ≤ size) :
    Reaches (block size c tokens indent outer true [])
      (block size (steps (gap + ((IsName.written cs bare).length + 1)) c)
        (.value :: .scalar (String.ofList cs) bare :: .key :: opening indent (c.column + gap) tokens)
        (c.column + gap : Nat) (around indent (c.column + gap) outer) false []) := by
  have key := reaches_name cs behind name bare gap size c tokens indent outer inside narrow rest ends
    room
  have arrived := steps_spaces c gap _ rest
  have width := IsName.length_written cs bare
  rw [steps_add]
  generalize steps gap c = place at arrived key ⊢
  have keyColumn : place.column = c.column + gap := by rw [arrived]
  rw [← keyColumn] at inside ⊢
  have atColon := steps_inline place (IsName.written cs bare) (':' :: behind) (by rw [arrived])
    (name.inline_written bare)
  have behindColon : steps ((IsName.written cs bare).length + 1) place =
      (steps (IsName.written cs bare).length place).step := by
    rw [steps_add]
    rfl
  rw [behindColon]
  exact key.trans (reaches_colon size place _ (.scalar (String.ofList cs) bare) tokens indent outer
    behind (by rw [atColon]) ends inside (by rw [atColon]) (by rw [atColon]; simp only; omega)
    (by rw [atColon]; exact Nat.le_add_right _ _))

/-- The mark of a key that has a line of its own. -/
theorem reaches_mark (gap size : Nat) (c : Cursor) (tokens : List Token) (indent : Int)
    (outer : List Int) (behind : List Char) (inside : indent ≤ (c.column + gap : Nat))
    (rest : c.rest = List.replicate gap ' ' ++ '?' :: behind) (ends : endsToken behind = true) :
    Reaches (block size c tokens indent outer true [])
      (block size (steps gap c).step (.key :: opening indent (c.column + gap) tokens)
        (c.column + gap : Nat) (around indent (c.column + gap) outer) true []) := by
  have arrived := steps_spaces c gap _ rest
  have start : (steps gap c).rest = '?' :: behind := by rw [arrived]
  have keyColumn : (steps gap c).column = c.column + gap := by rw [arrived]
  have marked := markedKey_block size (steps gap c) tokens indent outer (by rw [keyColumn]; exact inside)
  rw [keyColumn] at marked
  have cut : CutsOff (block size (steps gap c) tokens indent outer true [])
      (block size (steps gap c).step (.key :: opening indent (c.column + gap) tokens)
        (c.column + gap : Nat) (around indent (c.column + gap) outer) true []) := by
    refine ⟨'?', behind, start, by decide, ?_⟩
    rw [nextToken_question _ behind ends]
    exact marked
  refine cut.reaches gap _ rest (by simp) inside ?_
  show (steps gap c).step.rest.length < ('?' :: behind).length
  rw [rest_step, start]
  simp

/-- The colon on a line of its own, behind a key with a mark. -/
theorem reaches_markedColon (size : Nat) (c : Cursor) (tokens : List Token) (indent : Int)
    (outer : List Int) (behind : List Char) (column : (c.column : Int) = indent)
    (rest : c.rest = ':' :: behind) (ends : endsToken behind = true) :
    Reaches (block size c tokens indent outer true [])
      (block size c.step (.value :: tokens) indent outer true []) := by
  have cut : CutsOff (block size (steps 0 c) tokens indent outer true [])
      (block size c.step (.value :: tokens) indent outer true []) := by
    refine ⟨':', behind, rest, by decide, ?_⟩
    rw [nextToken_colon _ behind ends]
    exact value_marked size c tokens indent outer column
  refine cut.reaches 0 (':' :: behind) rest (by simp) ?_ ?_
  · show indent ≤ ((c.column + 0 : Nat) : Int)
    omega
  · show c.step.rest.length < (':' :: behind).length
    rw [rest_step, rest]
    simp

/-- A key on a line of its own, behind its mark, and the colon on the next line. -/
theorem reaches_longKey (cs behind : List Char) (name : IsName cs) (bare : Bool) (gap size : Nat)
    (c : Cursor) (tokens : List Token) (indent : Int) (outer : List Int)
    (inside : indent ≤ (c.column + gap : Nat)) (narrow : c.column + gap + 2 < lineWidth)
    (rest : c.rest = List.replicate gap ' ' ++ '?' :: ' ' ::
      (IsName.written cs bare ++ (newLine (c.column + gap) ++ ':' :: behind)))
    (ends : endsToken behind = true) (room : c.rest.length ≤ size) :
    ∃ last : Cursor, last.rest = behind ∧ c.column + gap ≤ last.column ∧
      Reaches (block size c tokens indent outer true [])
        (block size last
          (.value :: .scalar (String.ofList cs) bare :: .key :: opening indent (c.column + gap) tokens)
          (c.column + gap : Nat) (around indent (c.column + gap) outer) true []) := by
  have marked := reaches_mark gap size c tokens indent outer _ inside rest rfl
  have shorter : (steps gap c).step.rest.length ≤ size := Nat.le_trans marked.rest_le room
  have arrived := steps_spaces c gap _ rest
  generalize steps gap c = place at arrived marked shorter
  have keyColumn : place.column = c.column + gap := by rw [arrived]
  rw [← keyColumn] at narrow arrived marked ⊢
  have behindMark := step_inline place '?' _ (by rw [arrived]) (by decide)
  have next : NextLine place.column place.column (':' :: behind) := by
    refine ⟨fun y found => by cases found; decide, ?_, .inl (Int.le_refl _)⟩
    cases place.column with
    | zero => exact atDocumentMark_cons ':' behind (by decide) (by decide)
    | succ more => exact atDocumentMark_of_blank ' ' _ (.inl rfl)
  have written := name.writeStyled_eq { column := 0, indent := place.column + 2, folds := false } bare
  have keyRead := reaches_value { column := 0, indent := place.column + 2, folds := false }
    (if bare then .plain else .single) cs (':' :: behind) 1 place.column size place.step
    (.key :: opening indent place.column tokens) place.column (around indent place.column outer) true
    (name.fits bare) (by simp) narrow (by simp only; omega) (by omega)
    (by rw [behindMark]; simp only; omega) (by rw [written, behindMark]; rfl) shorter next
  rw [written, name.readBack_eq, IsName.beq_plain_eq] at keyRead
  have atLine := rest_steps_append place.step.step (IsName.written cs bare)
    (newLine place.column ++ ':' :: behind) (by rw [rest_step, behindMark]; rfl)
  have atColon := steps_newLine _ '\n' place.column (':' :: behind) (by decide) atLine
  rw [show steps (1 + ((IsName.written cs bare).length + (place.column + 1))) place.step =
    steps (place.column + 1) (steps (IsName.written cs bare).length place.step.step) by
      rw [steps_add, steps_add]; rfl] at keyRead
  generalize steps (place.column + 1) (steps (IsName.written cs bare).length place.step.step) = colon
    at atColon keyRead
  have colonRest : colon.rest = ':' :: behind := by rw [atColon]
  have colonColumn : colon.column = place.column := by rw [atColon]
  have behindColon := step_inline colon ':' behind colonRest (by decide)
  have value := reaches_markedColon size colon
    (.scalar (String.ofList cs) bare :: .key :: opening indent place.column tokens) place.column
    (around indent place.column outer) behind (by rw [colonColumn]) colonRest ends
  exact ⟨colon.step, by rw [behindColon], by rw [behindColon]; simp only; omega,
    (marked.trans keyRead).trans value⟩

/-- The key of an entry is written in one of two ways. -/
theorem keyChars_eq (cs : List Char) (name : IsName cs) (indent : Nat) :
    (keyChars indent cs).1 =
      if cs.length + 5 < 128 then
        IsName.written cs (resolve (String.ofList cs) == .text) ++ [':', ' ']
      else '?' :: ' ' :: (IsName.written cs (resolve (String.ofList cs) == .text) ++
        (newLine indent ++ [':', ' '])) := by
  have oneLine : cs.any isBreak = false :=
    List.any_eq_false.mpr fun x present => by simp [(name.notBlank x present).2]
  have notEmpty : cs.isEmpty = false := by simpa using name.nonempty
  have scalar (site : Site) (bare : Bool) :
      scalarChars site { text := cs, bare } = IsName.written cs bare := by
    rw [scalarChars, name.chooseStyle_eq, name.writeStyled_eq]
    rfl
  have short : isShortKey cs = decide (cs.length + 5 < 128) := by
    simp [isShortKey, oneLine, notEmpty]
  by_cases fits : cs.length + 5 < 128
  · simp [keyChars, short, fits, scalar]
  · simp [keyChars, short, fits, scalar]

/-- A key and its colon, however the key is written. -/
theorem reaches_key (cs behind : List Char) (name : IsName cs) (gap size : Nat) (c : Cursor)
    (tokens : List Token) (indent : Int) (outer : List Int)
    (inside : indent ≤ (c.column + gap : Nat)) (narrow : c.column + gap + 2 < lineWidth)
    (rest : c.rest = List.replicate gap ' ' ++ ((keyChars (c.column + gap) cs).1 ++ behind))
    (room : c.rest.length ≤ size) :
    ∃ (last : Cursor) (keyAllowed : Bool), last.rest = ' ' :: behind ∧
      c.column + gap ≤ last.column ∧
      Reaches (block size c tokens indent outer true [])
        (block size last (.value :: .scalar (String.ofList cs) (resolve (String.ofList cs) == .text) ::
          .key :: opening indent (c.column + gap) tokens) (c.column + gap : Nat)
          (around indent (c.column + gap) outer) keyAllowed []) := by
  rw [keyChars_eq cs name] at rest
  split at rest
  · next short =>
    have here : c.rest = List.replicate gap ' ' ++
        (IsName.written cs (resolve (String.ofList cs) == .text) ++ ':' :: ' ' :: behind) := by
      rw [rest, List.append_assoc]
      rfl
    have reaches := reaches_shortKey cs (' ' :: behind) name _ gap size c tokens indent outer
      (by simp only [keyReach]; omega) inside narrow here rfl room
    have whole : c.rest = (List.replicate gap ' ' ++
        (IsName.written cs (resolve (String.ofList cs) == .text) ++ [':'])) ++ ' ' :: behind := by
      rw [here]
      simp
    have way := steps_inline c _ _ whole (by
      intro y present
      rcases List.mem_append.mp present with spaces | key
      · rw [List.eq_of_mem_replicate spaces]
        exact isInline_space
      · rcases List.mem_append.mp key with inName | colon
        · exact name.inline_written _ y inName
        · rw [List.mem_singleton.mp colon]
          decide)
    simp only [List.length_append, List.length_replicate, List.length_singleton] at way
    exact ⟨_, false, by rw [way], by rw [way]; simp only; omega, reaches⟩
  · have here : c.rest = List.replicate gap ' ' ++ '?' :: ' ' ::
        (IsName.written cs (resolve (String.ofList cs) == .text) ++
          (newLine (c.column + gap) ++ ':' :: ' ' :: behind)) := by
      rw [rest]
      simp
    obtain ⟨last, lastRest, column, reaches⟩ := reaches_longKey cs (' ' :: behind) name _ gap size c
      tokens indent outer inside narrow here rfl room
    exact ⟨last, true, lastRest, column, reaches⟩

/-- A whole entry, with the line end behind it: its key, its value and where the next line stands. -/
theorem reaches_entry (cs behind : List Char) (name : IsName cs) (form : ScalarForm)
    (noMark : form.typeMark = []) (nonempty : form.bare = true → form.text ≠ [])
    (gap count column size : Nat) (c : Cursor) (tokens : List Token) (indent : Int)
    (outer : List Int) (inside : indent ≤ (c.column + gap : Nat))
    (narrow : c.column + gap + 2 < lineWidth)
    (rest : c.rest = List.replicate gap ' ' ++ ((keyChars (c.column + gap) cs).1 ++
      (scalarChars { column, indent := c.column + gap + 2, folds := true } form ++
        (newLine count ++ behind))))
    (room : c.rest.length ≤ size) (next : NextLine (c.column + gap : Nat) count behind) :
    ∃ last : Cursor, last.rest = behind ∧ last.column = count ∧
      Reaches (block size c tokens indent outer true [])
        (block size last (formToken form :: .value ::
          .scalar (String.ofList cs) (resolve (String.ofList cs) == .text) :: .key ::
          opening indent (c.column + gap) tokens) (c.column + gap : Nat)
          (around indent (c.column + gap) outer) true []) := by
  obtain ⟨colon, keyAllowed, colonRest, colonColumn, keyReached⟩ := reaches_key cs _ name gap size c
    tokens indent outer inside narrow rest room
  have written : scalarChars { column, indent := c.column + gap + 2, folds := true } form =
      writeStyled { column := column + form.typeMark.length, indent := c.column + gap + 2
                    folds := true } (chooseStyle form.bare false (analyze form.text)) form.text := by
    rw [scalarChars, noMark]
    rfl
  rw [written] at colonRest
  have shorter : colon.rest.length ≤ size := Nat.le_trans keyReached.rest_le room
  have valueReached := reaches_value _ _ form.text behind 1 count size colon
    (.value :: .scalar (String.ofList cs) (resolve (String.ofList cs) == .text) :: .key ::
      opening indent (c.column + gap) tokens) (c.column + gap : Nat)
    (around indent (c.column + gap) outer) keyAllowed (fits_chooseStyle form.bare false form.text nonempty) (by simp) narrow (by simp only; omega)
    (by omega) (by omega) colonRest shorter next
  have atValue := rest_steps_append colon [' '] _ colonRest
  have atEnd := rest_steps_append (steps 1 colon) _ _ atValue
  have atNext := steps_newLine _ '\n' count behind (by decide) atEnd
  rw [steps_add, steps_add] at valueReached
  refine ⟨_, ?_, ?_, keyReached.trans valueReached⟩
  · rw [atNext]
  · rw [atNext]

end Lexing

end TypedSheets.Yaml
