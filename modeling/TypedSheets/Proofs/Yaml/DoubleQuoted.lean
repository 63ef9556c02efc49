import Mathlib.Tactic.SplitIfs
import TypedSheets.Proofs.Number.DigitRuns
import TypedSheets.Proofs.Yaml.QuotedScalars

/-!
# Double quotes read back

Between double quotes every text can stand: what a document cannot carry is escaped, and a
line that grows too long is broken behind a backslash. Reading takes the escapes and the
breaks away, so the text comes back character for character.
-/

namespace TypedSheets.Yaml

open Cursor TypedSheets.Number

/-- One row of the table of short escapes: the reader inverts it, or a later row applies. -/
theorem escapedChar?_row {x y l letter : Char} {later : Option Char}
    (found : (if x = y then some l else later) = some letter) (here : escapedChar? l = some y)
    (there : later = some letter → escapedChar? letter = some x) : escapedChar? letter = some x := by
  split at found
  · next same =>
    cases found
    rw [here, same]
  · exact there found

/-- A short escape is read as the character that it stands for. -/
theorem escapedChar?_escapeLetter? (x letter : Char) (found : escapeLetter? x = some letter) :
    escapedChar? letter = some x := by
  unfold escapeLetter? at found
  iterate 15 refine escapedChar?_row found (by decide) fun found => ?_
  cases found

/-- A numeric escape of a character is read as that character: no character is half of a pair. -/
theorem readEscape_code (x letter : Char) (width : Nat) (c : Cursor) (behind : List Char)
    (noLetter : escapedChar? letter = none) (isWidth : escapeWidth? letter = some width)
    (below : x.toNat < 16 ^ width) (rest : c.rest = (letter :: upperHex width x.toNat) ++ behind) :
    readEscape c = .ok ([x], steps (letter :: upperHex width x.toNat).length c) := by
  have whole : x.toNat < 0xd800 ∨ 0xdfff < x.toNat ∧ x.toNat < 0x110000 := x.valid
  have digits : (upperHex width x.toNat ++ behind).take width = upperHex width x.toNat :=
    List.take_left' (length_upperHex width x.toNat)
  have allDigits : (upperHex width x.toNat).all (isBaseDigit 16) = true :=
    List.all_eq_true.mpr fun y present => isBaseDigit_of_mem_upperHex width _ y present
  have notHalf : isFirstHalf x.toNat = false := by
    simp only [isFirstHalf, Bool.and_eq_false_iff, decide_eq_false_iff_not]
    omega
  have inRange : ¬0x110000 ≤ x.toNat := by omega
  have valid : x.toNat.isValidChar := x.valid
  simp [readEscape, rest, noLetter, isWidth, digits, length_upperHex, allDigits,
    digitsValue_upperHex width x.toNat below, notHalf, charOfCode, inRange, valid, Except.map, steps]

/-- Every escape is read as the character that it was written for. -/
theorem readEscape_escapeOf (x : Char) :
    ∃ tail, escapeOf x = '\\' :: tail ∧ ∀ (c : Cursor) behind, c.rest = tail ++ behind →
      readEscape c = .ok ([x], steps tail.length c) := by
  have whole : x.toNat < 0x110000 := by
    have valid : x.toNat < 0xd800 ∨ 0xdfff < x.toNat ∧ x.toNat < 0x110000 := x.valid
    omega
  unfold escapeOf
  split
  · next letter found =>
    have escaped := escapedChar?_escapeLetter? x letter found
    refine ⟨[letter], rfl, fun c behind rest => ?_⟩
    simp [readEscape, rest, escaped, steps]
  · dsimp only
    split_ifs with two four
    · exact ⟨_, rfl, fun c behind rest =>
        readEscape_code x 'x' 2 c behind (by decide) (by decide) (by omega) rest⟩
    · exact ⟨_, rfl, fun c behind rest =>
        readEscape_code x 'u' 4 c behind (by decide) (by decide) (by omega) rest⟩
    · exact ⟨_, rfl, fun c behind rest =>
        readEscape_code x 'U' 8 c behind (by decide) (by decide) (by omega) rest⟩

/-- What an escape is read as comes before what is read behind it. -/
theorem readQuoted_escape (fuel : Nat) (c next behind : Cursor) (tail escaped text : List Char)
    (rest : c.rest = '\\' :: tail) (read : readEscape c.step = .ok (escaped, next))
    (further : readQuoted true fuel next = .ok (text, behind)) :
    readQuoted true (fuel + 1) c = .ok (escaped ++ text, behind) := by
  simp [readQuoted, rest, isSpace, isBreak, read, further, bind, Except.bind, pure, Except.pure]

/-- A backslash before a line end makes the line end and the indentation vanish. -/
theorem readQuoted_fold (indent fuel : Nat) (indented : 1 ≤ indent) (c behind : Cursor) (x : Char)
    (tail text : List Char) (rest : c.rest = ('\\' :: newLine indent) ++ x :: tail)
    (solid : isSolid x = true)
    (further : readQuoted true fuel (steps ('\\' :: newLine indent).length c) = .ok (text, behind)) :
    readQuoted true (fuel + 1) c = .ok (text, behind) := by
  have afterSlash : c.step.rest = '\n' :: (List.replicate indent ' ' ++ x :: tail) := by
    rw [rest_step, rest]
    rfl
  have afterBreak : c.step.step.rest = List.replicate indent ' ' ++ x :: tail := by
    rw [rest_step, afterSlash]
    rfl
  have vanished := quotedBreaks_run [] indent c.step.rest.length c.step.step x tail indented
    (by simp [afterSlash]) (by simp) afterBreak solid
  have read : readEscape c.step = .ok ([], steps ('\\' :: newLine indent).length c) := by
    have noEscape : escapedChar? '\n' = none := by decide
    have noWidth : escapeWidth? '\n' = none := by decide
    rw [afterSlash] at vanished
    simp only [readEscape, afterSlash, noEscape, noWidth, show isBreak '\n' = true by decide,
      if_true, vanished]
    simp [newLine, steps]
  exact readQuoted_escape fuel c _ behind _ [] text rest read further

/-- A space within a line comes before what is read behind it, given enough fuel. -/
theorem readQuoted_space (double : Bool) (fuel count : Nat) (c behind : Cursor) (x : Char)
    (tail text : List Char) (rest : c.rest = ' ' :: (List.replicate count ' ' ++ x :: tail))
    (solid : isSolid x = true) (further : readQuoted double fuel c.step = .ok (text, behind))
    (more : readQuoted double (fuel + 1) c.step = .ok (text, behind)) :
    readQuoted double (fuel + 1) c = .ok (' ' :: text, behind) := by
  have gap := quotedGap_spaces fuel (count + 1) c x tail rest solid
  have here : readQuoted double (fuel + 1) c =
      (readQuoted double fuel (steps (count + 1) c)).map
        fun read => (List.replicate (count + 1) ' ' ++ read.1, read.2) := by
    rw [readQuoted]
    simp only [rest, show (isSpace ' ' || isBreak ' ') = true by decide, if_true, gap, bind,
      Except.bind]
    cases readQuoted double fuel (steps (count + 1) c) <;> rfl
  cases count with
  | zero =>
    rw [here, show steps (0 + 1) c = c.step from rfl, further]
    rfl
  | succ count =>
    have next : c.step.rest = ' ' :: (List.replicate count ' ' ++ x :: tail) := by
      rw [rest_step, rest]
      rfl
    have nextGap := quotedGap_spaces fuel (count + 1) c.step x tail next solid
    rw [readQuoted] at more
    simp only [next, show (isSpace ' ' || isBreak ' ') = true by decide, if_true, nextGap] at more
    rw [here, show steps (count + 1 + 1) c = steps (count + 1) c.step from rfl]
    cases read : readQuoted double fuel (steps (count + 1) c.step) with
    | error cause => simp [read, bind, Except.bind] at more
    | ok found =>
      simp only [read, bind, Except.bind, pure, Except.pure, Except.ok.injEq, Prod.mk.injEq] at more
      simp [Except.map, ← more.1, ← more.2, List.replicate_succ]

/-- A character that stands for itself between double quotes is no line end, no tab and
neither the quote nor the backslash. -/
theorem solid_of_unescaped (x : Char) (unescaped : needsEscape x = false) (notSpace : x ≠ ' ') :
    isSolid x = true ∧ x ≠ '"' ∧ x ≠ '\\' := by
  have other : ∀ y, needsEscape y = true → x ≠ y := by
    rintro y escaped rfl
    rw [unescaped] at escaped
    exact Bool.noConfusion escaped
  have noTab := other '\t' (by decide)
  have noFeed := other '\n' (by decide)
  have noNext := other '\u0085' (by decide)
  have noLine := other '\u2028' (by decide)
  have noParagraph := other '\u2029' (by decide)
  refine ⟨?_, other '"' (by decide), other '\\' (by decide)⟩
  simp [isSolid, isSpace, isBreak, notSpace, noTab, noFeed, noNext, noLine, noParagraph]

/-- What is written consists of spaces up to a solid character, be it the closing quote. -/
theorem writeDouble_spaces (site : Site) (cs behind : List Char) (first : Bool)
    (column pending : Nat) :
    ∃ count x tail, writeDouble site first column pending cs ++ '"' :: behind =
      List.replicate count ' ' ++ x :: tail ∧ isSolid x = true := by
  induction cs generalizing first column pending with
  | nil => exact ⟨0, '"', behind, rfl, by decide⟩
  | cons c rest inductionHypothesis =>
    obtain ⟨escapeTail, escape, -⟩ := readEscape_escapeOf c
    have slash : isSolid '\\' = true := by decide
    simp only [writeDouble, escape, foldDouble]
    split_ifs with escaped broken fold
    · exact ⟨0, '\\', _, rfl, slash⟩
    · exact ⟨0, '\\', _, rfl, slash⟩
    · exact ⟨0, '\\', _, rfl, slash⟩
    · exact ⟨0, '\\', _, rfl, slash⟩
    · exact ⟨0, '\\', _, rfl, slash⟩
    · have unescaped : needsEscape c = false := by simpa using escaped
      by_cases space : c = ' '
      · subst space
        obtain ⟨count, x, tail, written, solid⟩ := inductionHypothesis false column (pending + 1)
        exact ⟨count + 1, x, tail, by rw [List.replicate_succ, List.cons_append, written]; rfl, solid⟩
      · exact ⟨0, c, _, rfl, (solid_of_unescaped c unescaped space).1⟩

/-- A text comes back from double quotes: whatever was written before it, reading gives the
text and ends behind the closing quote. -/
def ReadsBack (site : Site) (cs : List Char) : Prop :=
  ∀ first column pending (c : Cursor) behind fuel,
    c.rest = writeDouble site first column pending cs ++ '"' :: behind →
    (writeDouble site first column pending cs).length < fuel →
    readQuoted true fuel c =
      .ok (cs, steps ((writeDouble site first column pending cs).length + 1) c)

/-- What is written reads as a text, wherever it stands before a closing quote. -/
def ReadsAs (written text : List Char) : Prop :=
  ∀ (c : Cursor) behind fuel, c.rest = written ++ '"' :: behind → written.length < fuel →
    readQuoted true fuel c = .ok (text, steps (written.length + 1) c)

theorem ReadsBack.readsAs {site : Site} {cs : List Char} (back : ReadsBack site cs) (first : Bool)
    (column pending : Nat) : ReadsAs (writeDouble site first column pending cs) cs :=
  back first column pending

/-- An unescaped character comes back before a text that comes back. -/
theorem readsAs_unescaped (site : Site) (x : Char) (cs : List Char) (back : ReadsBack site cs)
    (unescaped : needsEscape x = false) (first : Bool) (column pending : Nat) :
    ReadsAs (x :: writeDouble site first column pending cs) (x :: cs) := by
  intro c behind fuel rest enough
  obtain ⟨fuel, rfl⟩ : ∃ less, fuel = less + 1 := ⟨fuel - 1, by omega⟩
  have next : c.step.rest = writeDouble site first column pending cs ++ '"' :: behind := by
    rw [rest_step, rest]
    rfl
  simp only [List.length_cons] at enough
  have further := back first column pending c.step behind fuel next (by omega)
  by_cases space : x = ' '
  · subst space
    have more := back first column pending c.step behind (fuel + 1) next (by omega)
    obtain ⟨count, y, tail, written, solid⟩ :=
      writeDouble_spaces site cs behind first column pending
    rw [List.cons_append, written] at rest
    exact readQuoted_space true fuel count c _ y tail cs rest solid further more
  · obtain ⟨solid, notQuote, notSlash⟩ := solid_of_unescaped x unescaped space
    exact readQuoted_solid true fuel c _ x _ cs rest solid notQuote (fun _ => notSlash) further

/-- An escape comes back before what reads as a text. -/
theorem readsAs_escape (x : Char) (tail written text : List Char)
    (read : ∀ (c : Cursor) behind, c.rest = tail ++ behind →
      readEscape c = .ok ([x], steps tail.length c))
    (back : ReadsAs written text) : ReadsAs ('\\' :: tail ++ written) (x :: text) := by
  intro c behind fuel rest enough
  obtain ⟨fuel, rfl⟩ : ∃ less, fuel = less + 1 := ⟨fuel - 1, by omega⟩
  rw [List.append_assoc] at rest
  have here : c.step.rest = tail ++ (written ++ '"' :: behind) := by
    rw [rest_step, rest]
    rfl
  have arrived := rest_steps_append c.step tail _ here
  have further := back _ behind fuel arrived (by
    simp only [List.length_append, List.length_cons] at enough
    omega)
  rw [steps_append_succ]
  exact readQuoted_escape fuel c _ _ _ [x] text rest (read c.step _ here) further

/-- An escaped space is read as a space. -/
theorem readEscape_space (c : Cursor) (behind : List Char) (rest : c.rest = [' '] ++ behind) :
    readEscape c = .ok ([' '], steps [' '].length c) := by
  have escape : escapedChar? ' ' = some ' ' := by decide
  rw [List.singleton_append] at rest
  simp only [readEscape, rest, escape]
  rfl

/-- A fold before what starts with a solid character vanishes. -/
theorem readsAs_fold (indent : Nat) (indented : 1 ≤ indent) (x : Char) (tail text : List Char)
    (solid : isSolid x = true) (back : ReadsAs (x :: tail) text) :
    ReadsAs (('\\' :: newLine indent) ++ x :: tail) text := by
  intro c behind fuel rest enough
  obtain ⟨fuel, rfl⟩ : ∃ less, fuel = less + 1 := ⟨fuel - 1, by omega⟩
  rw [List.append_assoc] at rest
  have arrived := rest_steps_append c _ _ rest
  have further := back _ behind fuel arrived (by
    simp only [List.length_append, List.length_cons] at enough ⊢
    omega)
  rw [steps_append_succ]
  exact readQuoted_fold indent fuel indented c _ x (tail ++ '"' :: behind) text rest solid further

/-- Behind a fold an unescaped character is never folded away from its place again. -/
theorem writeDouble_unescaped (site : Site) (narrow : site.indent < lineWidth) (x : Char)
    (cs : List Char) (unescaped : needsEscape x = false) :
    writeDouble site false (foldedColumn site (x :: cs)) 0 (x :: cs) =
      x :: writeDouble site false (foldedColumn site (x :: cs)) 1 cs := by
  have fits : ¬lineWidth < foldedColumn site (x :: cs) := by
    unfold foldedColumn
    split <;> omega
  simp [writeDouble, unescaped, fits]

/-- An escaped character is written from a backslash on. -/
theorem writeDouble_escaped (site : Site) (x : Char) (cs : List Char) (first : Bool)
    (column pending : Nat) (escaped : needsEscape x = true) :
    ∃ tail, writeDouble site first column pending (x :: cs) = '\\' :: tail := by
  obtain ⟨tail, escape, -⟩ := readEscape_escapeOf x
  simp only [writeDouble, escaped, escape, if_true]
  split_ifs
  · exact ⟨_, rfl⟩
  · exact ⟨_, rfl⟩

/-- Before anything but a space a fold has no backslash at its end. -/
theorem foldDouble_cons (site : Site) (x : Char) (cs : List Char) (notSpace : x ≠ ' ') :
    foldDouble site (x :: cs) = '\\' :: newLine site.indent := by
  simp [foldDouble, notSpace]

/-- A fold vanishes, and the text behind it comes back. Before an unescaped space the fold
ends in a backslash, which makes an escape of the space. -/
theorem readsAs_folded (site : Site) (indented : 1 ≤ site.indent) (narrow : site.indent < lineWidth)
    (x : Char) (cs : List Char) (back : ReadsBack site cs)
    (escaped : needsEscape x = true → ReadsBack site (x :: cs)) :
    ReadsAs (foldDouble site (x :: cs) ++
      writeDouble site false (foldedColumn site (x :: cs)) 0 (x :: cs)) (x :: cs) := by
  cases needed : needsEscape x with
  | true =>
    have notSpace : x ≠ ' ' := by
      rintro rfl
      exact absurd needed (by decide)
    have inner := (escaped needed).readsAs false (foldedColumn site (x :: cs)) 0
    obtain ⟨tail, written⟩ := writeDouble_escaped site x cs false (foldedColumn site (x :: cs)) 0 needed
    rw [foldDouble_cons site x cs notSpace]
    rw [written] at inner ⊢
    exact readsAs_fold site.indent indented '\\' tail _ (by decide) inner
  | false =>
    rw [writeDouble_unescaped site narrow x cs needed]
    by_cases space : x = ' '
    · subst space
      have fold : foldDouble site (' ' :: cs) = ('\\' :: newLine site.indent) ++ ['\\'] := rfl
      have inner := readsAs_escape ' ' [' '] _ cs readEscape_space
        (back.readsAs false (foldedColumn site (' ' :: cs)) 1)
      rw [fold, List.append_assoc]
      exact readsAs_fold site.indent indented '\\' _ _ (by decide) inner
    · rw [foldDouble_cons site x cs space]
      exact readsAs_fold site.indent indented x _ _ (solid_of_unescaped x needed space).1
        (readsAs_unescaped site x cs back needed false (foldedColumn site (x :: cs)) 1)

/-- One more character comes back before a text that comes back. What is written for it is an
escape, an escape and a fold, a fold and the character, or the character alone. -/
theorem readsBack_cons (site : Site) (indented : 1 ≤ site.indent) (narrow : site.indent < lineWidth)
    (x : Char) (cs : List Char) (back : ReadsBack site cs) (further : ReadsBack site cs.tail) :
    ReadsBack site (x :: cs) := by
  intro first column pending
  show ReadsAs (writeDouble site first column pending (x :: cs)) (x :: cs)
  cases needed : needsEscape x with
  | true =>
    obtain ⟨tail, escape, read⟩ := readEscape_escapeOf x
    simp only [writeDouble, needed, if_true, escape]
    split_ifs with broken
    · cases cs with
      | nil => simp at broken
      | cons y cs =>
        rw [List.append_assoc]
        exact readsAs_escape x tail _ (y :: cs) read
          (readsAs_folded site indented narrow y cs further fun _ => back)
    · exact readsAs_escape x tail _ cs read (back.readsAs false _ 0)
  | false =>
    by_cases fold : (!first && !cs.isEmpty && site.folds && (x == ' ' || pending == 0) &&
        decide (lineWidth < column + pending)) = true
    · have written : writeDouble site first column pending (x :: cs) =
          foldDouble site (x :: cs) ++
            writeDouble site false (foldedColumn site (x :: cs)) 0 (x :: cs) := by
        rw [writeDouble_unescaped site narrow x cs needed]
        simp only [writeDouble, needed, Bool.false_eq_true, if_false, fold, if_true]
      rw [written]
      exact readsAs_folded site indented narrow x cs back fun escaped => by
        rw [needed] at escaped
        cases escaped
    · have written : writeDouble site first column pending (x :: cs) =
          x :: writeDouble site false column (pending + 1) cs := by
        simp only [writeDouble, needed, Bool.false_eq_true, if_false, fold]
      rw [written]
      exact readsAs_unescaped site x cs back needed false column (pending + 1)

/-- Every text comes back from double quotes. The induction keeps that the text behind the
first character comes back too: a fold is read together with the character behind it. -/
theorem readsBack (site : Site) (indented : 1 ≤ site.indent) (narrow : site.indent < lineWidth)
    (cs : List Char) : ReadsBack site cs ∧ ReadsBack site cs.tail := by
  induction cs with
  | nil =>
    have empty : ReadsBack site [] := by
      intro first column pending c behind fuel rest enough
      obtain ⟨fuel, rfl⟩ : ∃ less, fuel = less + 1 := ⟨fuel - 1, by omega⟩
      exact readQuoted_close true fuel c behind rest (by simp)
    exact ⟨empty, empty⟩
  | cons x cs inductionHypothesis =>
    obtain ⟨back, further⟩ := inductionHypothesis
    exact ⟨readsBack_cons site indented narrow x cs back further, back⟩

end TypedSheets.Yaml
