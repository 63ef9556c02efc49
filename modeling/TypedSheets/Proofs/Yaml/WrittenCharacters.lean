import Mathlib.Tactic.SplitIfs
import TypedSheets.Proofs.Yaml.AssetTokens

/-!
# The characters of an asset file

Whatever the values are, the text of an asset holds only characters that a document may hold, and
no carriage return: what a style writes as it is was found harmless, and the rest is escaped. So a
reader of the file finds the text as it was written.
-/

namespace TypedSheets.Yaml

open TypedSheets.Number

/-- A character that reaches the reader of a document as it stands in the file. -/
def survives (c : Char) : Bool := isAdmitted c && c != '\r'

/-- A text of such characters. -/
def Survives (cs : List Char) : Prop := ∀ x ∈ cs, survives x = true

theorem survives_of_code (c : Char) (harmless : 32 ≤ c.toNat ∧ c.toNat ≤ 126 ∨ c.toNat = 0x85 ∨
    0xa0 ≤ c.toNat ∧ c.toNat ≤ 0xd7ff ∨ 0xe000 ≤ c.toNat ∧ c.toNat ≤ 0xfffd ∨ 0x10000 ≤ c.toNat) :
    survives c = true := by
  have noReturn : c ≠ '\r' := by
    rintro rfl
    revert harmless
    decide
  simp only [survives, isAdmitted, Bool.and_eq_true, Bool.or_eq_true, beq_iff_eq, decide_eq_true_eq,
    bne_iff_ne, ne_eq]
  exact ⟨by omega, noReturn⟩

/-- Ordinary characters survive. -/
theorem survives_of_ordinary (c : Char) (ordinary : isOrdinary c = true) : survives c = true := by
  refine survives_of_code c ?_
  simp only [isOrdinary, Bool.and_eq_true, Bool.or_eq_true, beq_iff_eq, decide_eq_true_eq] at ordinary
  omega

/-- So do those that need no escape. -/
theorem survives_of_unescaped (c : Char) (unescaped : needsEscape c = false) : survives c = true := by
  refine survives_of_code c ?_
  simp only [needsEscape, Bool.or_eq_false_iff, Bool.not_eq_false', Bool.or_eq_true, Bool.and_eq_true,
    decide_eq_true_eq] at unescaped
  omega

namespace Survives

theorem nil : Survives [] := by
  intro x present
  cases present

theorem cons {x : Char} {cs : List Char} (first : survives x = true) (rest : Survives cs) :
    Survives (x :: cs) := by
  intro y present
  rcases List.mem_cons.mp present with rfl | present
  · exact first
  · exact rest y present

theorem append {a b : List Char} (first : Survives a) (second : Survives b) : Survives (a ++ b) := by
  intro y present
  rcases List.mem_append.mp present with inside | inside
  · exact first y inside
  · exact second y inside

theorem tail {x : Char} {cs : List Char} (whole : Survives (x :: cs)) : Survives cs :=
  fun y present => whole y (List.mem_cons_of_mem x present)

theorem head {x : Char} {cs : List Char} (whole : Survives (x :: cs)) : survives x = true :=
  whole x List.mem_cons_self

theorem spaces (count : Nat) : Survives (List.replicate count ' ') := by
  intro y present
  rw [List.eq_of_mem_replicate present]
  decide

theorem line (indent : Nat) : Survives (newLine indent) :=
  cons (by decide) (spaces indent)

/-- Closed texts are checked. -/
theorem of_all (cs : List Char) (checked : cs.all survives = true) : Survives cs :=
  List.all_eq_true.mp checked

end Survives

open Survives in
/-- Without quotes a text is written as it is, with new lines for some of its spaces. -/
theorem survives_writePlain (site : Site) (column : Nat) (cs : List Char) (own : Survives cs) :
    Survives (writePlain site column cs) := by
  have space : survives ' ' = true := by decide
  have general (size : Nat) : ∀ (cs : List Char) (column : Nat), cs.length ≤ size → Survives cs →
      Survives (writePlain site column cs) ∧ Survives (writePlain.writePlainSpaces site column cs) := by
    induction size with
    | zero =>
      intro cs column small own
      obtain rfl := List.length_eq_zero_iff.mp (Nat.le_zero.mp small)
      exact ⟨by rw [writePlain]; exact nil, by rw [writePlain.writePlainSpaces]; exact nil⟩
    | succ size inductionHypothesis =>
      intro cs column small own
      cases cs with
      | nil => exact ⟨by rw [writePlain]; exact nil, by rw [writePlain.writePlainSpaces]; exact nil⟩
      | cons x rest =>
        rw [List.length_cons] at small
        have further (column : Nat) := inductionHypothesis rest column (by omega) own.tail
        refine ⟨?_, ?_⟩
        · unfold writePlain
          split
          · exact nil
          · next y more same =>
            cases same
            have behind (column : Nat) := inductionHypothesis more column
              (by rw [List.length_cons] at small; omega) own.tail.tail
            split_ifs
            · exact (line _).append (cons own.tail.head (behind _).1)
            · exact cons space (cons space (behind _).2)
            · exact cons space (cons own.tail.head (behind _).1)
          · next same =>
            cases same
            exact cons own.head (further _).1
        · rw [writePlain.writePlainSpaces]
          split_ifs
          · exact cons space (further _).2
          · exact cons own.head (further _).1
  exact (general cs.length cs column (Nat.le_refl _) own).1

open Survives in
/-- So it is between single quotes, where a quote is written twice. -/
theorem survives_writeSingle (site : Site) (fuel : Nat) (first : Bool) (column : Nat)
    (cs : List Char) (own : Survives cs) : Survives (writeSingle site fuel first column cs) := by
  have space : survives ' ' = true := by decide
  have quote : survives '\'' = true := by decide
  induction fuel generalizing first column cs with
  | zero => exact nil
  | succ fuel inductionHypothesis =>
    unfold writeSingle
    split
    · exact nil
    · next rest =>
      have behind : Survives (rest.dropWhile (· == ' ')) := fun y present =>
        own.tail y ((List.dropWhile_sublist _).subset present)
      have run : Survives (rest.takeWhile (· == ' ')) := fun y present =>
        own.tail y ((List.takeWhile_sublist _).subset present)
      dsimp only
      split_ifs
      · exact (line _).append (inductionHypothesis _ _ _ behind)
      · exact (cons space run).append (inductionHypothesis _ _ _ behind)
    · next c rest _ =>
      have behind : Survives (rest.dropWhile isBreak) := fun y present =>
        own.tail y ((List.dropWhile_sublist _).subset present)
      have run : Survives (c :: rest.takeWhile isBreak) := fun y present => by
        rcases List.mem_cons.mp present with rfl | present
        · exact own.head
        · exact own.tail y ((List.takeWhile_sublist _).subset present)
      have breaks : Survives (writeBreaks (c :: rest.takeWhile isBreak)) := by
        unfold writeBreaks
        split
        · exact cons (by decide) run
        · exact run
      dsimp only
      split_ifs
      · exact (breaks.append (spaces _)).append (inductionHypothesis _ _ _ behind)
      · exact cons quote (cons quote (inductionHypothesis _ _ _ own.tail))
      · exact cons own.head (inductionHypothesis _ _ _ own.tail)

/-- A hexadecimal digit survives. -/
theorem survives_of_baseDigit (c : Char) (digit : isBaseDigit 16 c = true) : survives c = true := by
  refine survives_of_code c (.inl ?_)
  unfold isBaseDigit baseDigit? at digit
  split_ifs at digit with low middle high
  · exact ⟨Nat.le_trans (by decide) (show '0'.toNat ≤ c.toNat from low.1),
      Nat.le_trans (show c.toNat ≤ '9'.toNat from low.2) (by decide)⟩
  · exact ⟨Nat.le_trans (by decide) (show 'a'.toNat ≤ c.toNat from middle.1),
      Nat.le_trans (show c.toNat ≤ 'f'.toNat from middle.2) (by decide)⟩
  · exact ⟨Nat.le_trans (by decide) (show 'A'.toNat ≤ c.toNat from high.1),
      Nat.le_trans (show c.toNat ≤ 'F'.toNat from high.2) (by decide)⟩

/-- One row of the table of short escapes. -/
theorem survives_row {x y l letter : Char} {later : Option Char}
    (found : (if x = y then some l else later) = some letter) (here : survives l = true)
    (there : later = some letter → survives letter = true) : survives letter = true := by
  split at found
  · cases found
    exact here
  · exact there found

open Survives in
/-- An escape is a backslash with letters and digits. -/
theorem survives_escapeOf (c : Char) : Survives (escapeOf c) := by
  have slash : survives '\\' = true := by decide
  have digits (width : Nat) : Survives (upperHex width c.toNat) := fun x present =>
    survives_of_baseDigit x (isBaseDigit_of_mem_upperHex width c.toNat x present)
  have letters : ∀ letter, escapeLetter? c = some letter → survives letter = true := by
    intro letter found
    unfold escapeLetter? at found
    iterate 15 refine survives_row found (by decide) fun found => ?_
    cases found
  unfold escapeOf
  split
  · next letter found => exact cons slash (cons (letters letter found) nil)
  · dsimp only
    split_ifs
    · exact cons slash (cons (by decide) (digits 2))
    · exact cons slash (cons (by decide) (digits 4))
    · exact cons slash (cons (by decide) (digits 8))

open Survives in
/-- Between double quotes everything that would not survive is escaped. -/
theorem survives_writeDouble (site : Site) (first : Bool) (column pending : Nat) (cs : List Char) :
    Survives (writeDouble site first column pending cs) := by
  have folds (next : List Char) : Survives (foldDouble site next) := by
    refine (cons (by decide) (line _)).append ?_
    split_ifs
    · exact cons (by decide) nil
    · exact nil
  induction cs generalizing first column pending with
  | nil => exact nil
  | cons c rest inductionHypothesis =>
    unfold writeDouble
    dsimp only
    split_ifs with needed
    · exact ((survives_escapeOf c).append (folds rest)).append (inductionHypothesis _ _ _)
    · exact (survives_escapeOf c).append (inductionHypothesis _ _ _)
    · exact (folds _).append
        (cons (survives_of_unescaped c (by simpa using needed)) (inductionHypothesis _ _ _))
    · exact cons (survives_of_unescaped c (by simpa using needed)) (inductionHypothesis _ _ _)

open Survives in
/-- Whatever a text is, what its style writes for it survives. -/
theorem survives_writeStyled (site : Site) (bare key : Bool) (cs : List Char) :
    Survives (writeStyled site (chooseStyle bare key (analyze cs)) cs) := by
  cases style : chooseStyle bare key (analyze cs) with
  | plain =>
    have allowed : (analyze cs).allowsPlain = true := by
      unfold chooseStyle at style
      split_ifs at style with chosen
      simp only [Bool.and_eq_true] at chosen
      exact chosen.1.2
    refine survives_writePlain site site.column cs fun x present => survives_of_ordinary x ?_
    have nonempty : cs ≠ [] := List.ne_nil_of_mem present
    exact (plainText_of_allowsPlain cs nonempty allowed).1.ordinary x present
  | single =>
    have allowed : (analyze cs).allowsSingle = true := by
      unfold chooseStyle at style
      split_ifs at style with _ chosen
      simp only [Bool.and_eq_true] at chosen
      exact chosen.1
    have own : Survives cs := fun x present => by
      rcases (quotable_of_allowsSingle cs allowed).unescaped x present with rfl | ordinary
      · decide
      · exact survives_of_ordinary x ordinary
    exact (cons (by decide) (survives_writeSingle site _ true _ cs own)).append (cons (by decide) nil)
  | double =>
    exact (cons (by decide) (survives_writeDouble site true _ 0 cs)).append (cons (by decide) nil)

open Survives in
/-- An entry that can be held is written, and survives. -/
theorem survives_entryChars (indent : Nat) (entry : String × Value) (writable : Writable entry) :
    ∃ chars, entryChars indent entry.1 entry.2 = .ok chars ∧ Survives chars := by
  refine ⟨_, Lexing.entryChars_eq indent entry writable, ?_⟩
  have name : Survives entry.1.toList := fun x present =>
    survives_of_ordinary x (writable.name.ordinary x present)
  have written (bare : Bool) : Survives (IsName.written entry.1.toList bare) := by
    cases bare with
    | true => exact name
    | false => exact (cons (by decide) name).append (cons (by decide) nil)
  have key : Survives (keyChars indent entry.1.toList).1 := by
    rw [Lexing.keyChars_eq _ writable.name]
    split_ifs
    · exact (written _).append (of_all _ (by decide))
    · exact cons (by decide) (cons (by decide)
        ((written _).append ((line _).append (of_all _ (by decide)))))
  refine key.append ?_
  unfold scalarChars
  rw [writable.noMark]
  exact survives_writeStyled _ _ _ _

open Survives in
/-- So are the entries of a record behind its first one. -/
theorem survives_furtherEntries (entries : Entries) (writable : ∀ entry ∈ entries, Writable entry) :
    ∃ chars, furtherEntries entries = .ok chars ∧ Survives chars := by
  induction entries with
  | nil => exact ⟨[], rfl, nil⟩
  | cons entry rest inductionHypothesis =>
    obtain ⟨first, written, own⟩ := survives_entryChars 2 entry (writable entry List.mem_cons_self)
    obtain ⟨tail, others, ownTail⟩ :=
      inductionHypothesis fun e present => writable e (List.mem_cons_of_mem entry present)
    refine ⟨newLine 2 ++ first ++ tail, ?_, ((line 2).append own).append ownTail⟩
    rw [furtherEntries, written, others]

open Survives in
/-- So is a record. -/
theorem survives_recordChars (entries : Entries) (writable : ∀ entry ∈ entries, Writable entry) :
    ∃ chars, recordChars entries = .ok chars ∧ Survives chars := by
  cases entries with
  | nil => exact ⟨_, rfl, of_all _ (by decide)⟩
  | cons entry rest =>
    obtain ⟨first, written, own⟩ := survives_entryChars 2 entry (writable entry List.mem_cons_self)
    obtain ⟨tail, others, ownTail⟩ :=
      survives_furtherEntries rest fun e present => writable e (List.mem_cons_of_mem entry present)
    refine ⟨'-' :: ' ' :: first ++ tail ++ ['\n'], ?_, ?_⟩
    · rw [recordChars, written, others]
    · exact ((cons (by decide) (cons (by decide) own)).append ownTail).append (of_all _ (by decide))

open Survives in
/-- So are all records. -/
theorem survives_recordsChars (records : List Entries)
    (writable : ∀ entries ∈ records, ∀ entry ∈ entries, Writable entry) :
    ∃ chars, recordsChars records = .ok chars ∧ Survives chars := by
  induction records with
  | nil => exact ⟨[], rfl, nil⟩
  | cons entries rest inductionHypothesis =>
    obtain ⟨first, written, own⟩ := survives_recordChars entries (writable entries List.mem_cons_self)
    obtain ⟨tail, others, ownTail⟩ :=
      inductionHypothesis fun e present => writable e (List.mem_cons_of_mem entries present)
    exact ⟨first ++ tail, by rw [recordsChars, written, others], own.append ownTail⟩

open Survives in
/-- An asset whose entries can be held has a text, and all of it survives. -/
theorem survives_assetText (a : Asset)
    (writable : ∀ entries ∈ a.records, ∀ entry ∈ entries, Writable entry) :
    ∃ text, a.text = .ok text ∧ Survives text.toList := by
  obtain ⟨name, nameWritten, nameOwn⟩ :=
    survives_entryChars 0 _ (writable_text "name" a.name isName_name)
  obtain ⟨type, typeWritten, typeOwn⟩ :=
    survives_entryChars 0 _ (writable_text "record_type" a.recordType isName_recordType)
  obtain ⟨records, recordsWritten, recordsOwn⟩ := survives_recordsChars a.records writable
  have feed : survives '\n' = true := by decide
  obtain ⟨list, listWritten, listOwn⟩ : ∃ list, (if a.records.isEmpty then
      Except.ok "list: []\n".toList
      else (recordsChars a.records).map ("list:\n".toList ++ ·)) = .ok list ∧ Survives list := by
    split_ifs
    · exact ⟨_, rfl, of_all _ (by decide)⟩
    · rw [recordsWritten]
      exact ⟨_, rfl, (of_all _ (by decide)).append recordsOwn⟩
  refine ⟨String.ofList (name ++ '\n' :: type ++ '\n' :: list), ?_, ?_⟩
  · unfold Asset.text
    simp only [nameWritten, typeWritten, bind, Except.bind, pure, Except.pure]
    split_ifs at listWritten ⊢
    · cases listWritten
      rfl
    · rw [listWritten]
  · rw [String.toList_ofList]
    exact (nameOwn.append (cons feed typeOwn)).append (cons feed listOwn)

end TypedSheets.Yaml
