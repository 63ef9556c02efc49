import Mathlib.Data.List.Chain
import Mathlib.Tactic.SplitIfs
import TypedSheets.Proofs.Yaml.QuotedScalars

/-!
# Single quotes read back

A text without characters that need an escape, and without a space next to a line end, can
stand in single quotes. What is read back is `carried`: the text itself, but for the next-line
control, which a reader takes for an ordinary line end and folds.
-/

namespace TypedSheets.Yaml

open Cursor

/-- What single quotes carry of a text. The flag tells that a line end precedes. A next-line
control becomes a line feed behind another line end; as the first of several it vanishes, and
on its own it becomes a space. Everything else stays. -/
def carried (inBreaks : Bool) : List Char → List Char
  | [] => []
  | c :: rest =>
    if c = '\u0085' then
      if inBreaks then '\n' :: carried true rest
      else if rest.head?.any isBreak then carried true rest
      else ' ' :: carried false rest
    else c :: carried (isBreak c) rest

/-- No next-line control comes back. -/
theorem nextLine_not_mem_carried (cs : List Char) (inBreaks : Bool) :
    '\u0085' ∉ carried inBreaks cs := by
  induction cs generalizing inBreaks with
  | nil => simp [carried]
  | cons c rest inductionHypothesis =>
    rw [carried]
    by_cases control : c = '\u0085'
    · rw [if_pos control]
      split_ifs <;> simp [inductionHypothesis]
    · rw [if_neg control]
      simp [inductionHypothesis, Ne.symm control]

/-- A text without next-line controls is carried unchanged. -/
theorem carried_eq_self (cs : List Char) (inBreaks : Bool) (free : '\u0085' ∉ cs) :
    carried inBreaks cs = cs := by
  induction cs generalizing inBreaks with
  | nil => rfl
  | cons c rest inductionHypothesis =>
    have different : c ≠ '\u0085' := fun same => free (same ▸ List.mem_cons_self)
    rw [carried, if_neg different,
      inductionHypothesis _ fun present => free (List.mem_cons_of_mem c present)]

/-- Exactly the texts with a next-line control come back changed. -/
theorem carried_eq_self_iff (cs : List Char) (inBreaks : Bool) :
    carried inBreaks cs = cs ↔ '\u0085' ∉ cs := by
  refine ⟨fun same => ?_, carried_eq_self cs inBreaks⟩
  rw [← same]
  exact nextLine_not_mem_carried cs inBreaks

/-- Two characters that may stand side by side without an escape: no space meets a line end. -/
def MayMeet (a b : Char) : Prop :=
  (a = ' ' → isBreak b = false) ∧ (isBreak a = true → b ≠ ' ')

/-- A text that single quotes can hold. -/
structure Quotable (cs : List Char) : Prop where
  unescaped : ∀ x ∈ cs, x = '\n' ∨ isOrdinary x = true
  apart : cs.IsChain MayMeet

/-- What follows a part of such a text is such a text. -/
theorem Quotable.tail {front behind : List Char} (quotable : Quotable (front ++ behind)) :
    Quotable behind where
  unescaped x present := quotable.unescaped x (List.mem_append_right front present)
  apart := (List.isChain_append.mp quotable.apart).2.1

/-- The part before a cut and the part behind it meet lawfully. -/
theorem Quotable.meets {front behind : List Char} (quotable : Quotable (front ++ behind))
    (a b : Char) (last : front.getLast? = some a) (next : behind.head? = some b) :
    MayMeet a b :=
  (List.isChain_append.mp quotable.apart).2.2 a last b next

/-- Tabs need an escape, so the only blanks are spaces. -/
theorem Quotable.not_tab {cs : List Char} (quotable : Quotable cs) (x : Char) (present : x ∈ cs)
    (notSpace : x ≠ ' ') : isSpace x = false := by
  have notTab : x ≠ '\t' := by
    rintro rfl
    rcases quotable.unescaped _ present with same | ordinary
    · exact absurd same (by decide)
    · exact absurd ordinary (by decide)
  simp [isSpace, notSpace, notTab]

/-- What a line end is carried as behind another one. -/
theorem carried_breaks (breaks behind : List Char) (ends : ∀ x ∈ breaks, isBreak x = true) :
    carried true (breaks ++ behind) = breaks.map breakChar ++ carried true behind := by
  induction breaks with
  | nil => rfl
  | cons x breaks inductionHypothesis =>
    have xEnds := ends x List.mem_cons_self
    have further := inductionHypothesis fun y present => ends y (List.mem_cons_of_mem x present)
    by_cases control : x = '\u0085'
    · subst control
      simp [carried, further, breakChar]
    · have kept : breakChar x = x := by
        simp only [isBreak, Bool.or_eq_true, beq_iff_eq] at xEnds
        rcases xEnds with ((rfl | rfl) | rfl) | rfl
        all_goals first | rfl | exact absurd rfl control
      rw [List.cons_append, carried, if_neg control, xEnds, further, List.map_cons, kept]
      rfl

/-- Before a character that ends no line it does not matter what precedes. -/
theorem carried_flag (cs : List Char) (inBreaks : Bool)
    (noBreak : ∀ x, cs.head? = some x → isBreak x = false) :
    carried inBreaks cs = carried false cs := by
  cases cs with
  | nil => rfl
  | cons x rest =>
    have different : x ≠ '\u0085' := by
      rintro rfl
      exact absurd (noBreak _ rfl) (by decide)
    rw [carried, carried, if_neg different, if_neg different]

/-- A character that ends no line is carried as it is. -/
theorem carried_cons (x : Char) (rest : List Char) (inBreaks : Bool) (noBreak : isBreak x = false) :
    carried inBreaks (x :: rest) = x :: carried false rest := by
  have different : x ≠ '\u0085' := by
    rintro rfl
    exact absurd noBreak (by decide)
  rw [carried, if_neg different, noBreak]

/-- Spaces are carried as they are. -/
theorem carried_spaces (count : Nat) (rest : List Char) :
    carried false (List.replicate count ' ' ++ rest) =
      List.replicate count ' ' ++ carried false rest := by
  induction count with
  | zero => rfl
  | succ count inductionHypothesis =>
    rw [List.replicate_succ, List.cons_append, carried_cons _ _ _ (by decide), inductionHypothesis]
    rfl

/-- A run of line ends as it is written with indentation behind it, and what a reader makes
of it: the line feed that leads is the one that folding takes away. -/
theorem writeBreaks_passed (first : Char) (breaks behind : List Char) (spaces : Nat)
    (indented : 1 ≤ spaces) (ends : ∀ x ∈ first :: breaks, isBreak x = true)
    (noBreak : ∀ x, behind.head? = some x → isBreak x = false) :
    ∃ read, PassedGap (writeBreaks (first :: breaks) ++ List.replicate spaces ' ') read ∧
      carried false (first :: breaks ++ behind) = read ++ carried false behind := by
  have firstEnds := ends first List.mem_cons_self
  have further := carried_breaks breaks behind fun x present =>
    ends x (List.mem_cons_of_mem first present)
  rw [carried_flag behind true noBreak] at further
  have kept : first ≠ '\u0085' → carried false (first :: breaks ++ behind) =
      first :: breaks.map breakChar ++ carried false behind := fun different => by
    rw [List.cons_append, carried, if_neg different, firstEnds, further, List.cons_append]
  simp only [isBreak, Bool.or_eq_true, beq_iff_eq] at firstEnds
  rcases firstEnds with ((rfl | rfl) | rfl) | rfl
  · refine ⟨_, passedGap_breaks '\n' ('\n' :: breaks) spaces indented ?_, kept (by decide)⟩
    intro x present
    rcases List.mem_cons.mp present with rfl | present
    · decide
    · exact ends x present
  · refine ⟨_, passedGap_breaks '\u0085' breaks spaces indented ends, ?_⟩
    rw [List.cons_append, carried, if_pos rfl]
    cases breaks with
    | nil =>
      have alone : behind.head?.any isBreak = false := by
        cases behind with
        | nil => rfl
        | cons x behind => simpa using noBreak x rfl
      simp [alone, foldBreaks, breakChar]
    | cons x breaks =>
      have xEnds := ends x (by simp)
      simp only [List.cons_append] at further
      simp [xEnds, further, foldBreaks, breakChar]
  · exact ⟨_, passedGap_breaks '\u2028' breaks spaces indented ends, kept (by decide)⟩
  · exact ⟨_, passedGap_breaks '\u2029' breaks spaces indented ends, kept (by decide)⟩

/-- A quote is written twice. -/
theorem writeSingle_quote (site : Site) (fuel : Nat) (first : Bool) (column : Nat)
    (cs : List Char) :
    writeSingle site (fuel + 1) first column ('\'' :: cs) =
      '\'' :: '\'' :: writeSingle site fuel false (column + 2) cs := rfl

/-- Any other solid character is written as it is. -/
theorem writeSingle_solid (site : Site) (fuel : Nat) (first : Bool) (column : Nat) (x : Char)
    (cs : List Char) (solid : isSolid x = true) (notQuote : x ≠ '\'') :
    writeSingle site (fuel + 1) first column (x :: cs) =
      x :: writeSingle site fuel false (column + 1) cs := by
  have notSpace : x ≠ ' ' := by
    rintro rfl
    exact absurd solid (by decide)
  simp [writeSingle, isBreak_of_solid solid, notQuote]

/-- Where neither a space nor a line end comes next, what is written starts with a solid
character, be it the closing quote. -/
theorem writeSingle_head (site : Site) (fuel : Nat) (first : Bool) (column : Nat)
    (cs behind : List Char) (enough : cs.length < fuel) (quotable : Quotable cs)
    (solid : ∀ x, cs.head? = some x → x ≠ ' ' ∧ isBreak x = false) :
    ∃ x rest, writeSingle site fuel first column cs ++ '\'' :: behind = x :: rest ∧
      isSolid x = true := by
  cases fuel with
  | zero => simp at enough
  | succ fuel =>
    cases cs with
    | nil => exact ⟨'\'', behind, rfl, by decide⟩
    | cons x cs =>
      obtain ⟨notSpace, noBreak⟩ := solid x rfl
      have noTab := quotable.not_tab x List.mem_cons_self notSpace
      by_cases quote : x = '\''
      · subst quote
        exact ⟨'\'', _, by rw [writeSingle_quote]; rfl, by decide⟩
      · have own : isSolid x = true := by simp [isSolid, noTab, noBreak]
        exact ⟨x, _, by rw [writeSingle_solid site fuel first column x cs own quote]; rfl, own⟩

/-- Spaces before a word are written as they are, or a single one becomes a new line. -/
theorem writeSingle_spaces (site : Site) (fuel : Nat) (first : Bool) (column count : Nat)
    (words : List Char) (noSpace : ∀ x, words.head? = some x → x ≠ ' ') :
    ∃ gap next, writeSingle site (fuel + 1) first column
          (' ' :: (List.replicate count ' ' ++ words)) =
        gap ++ writeSingle site fuel false next words ∧
      (gap = List.replicate (count + 1) ' ' ∨ count = 0 ∧ gap = newLine site.indent) := by
  have refused : ∀ x, words.head? = some x → (x == ' ') = false := fun x found =>
    beq_false_of_ne (noSpace x found)
  have accepted : ∀ x ∈ List.replicate count ' ', (x == ' ') = true := fun x present => by
    simp [List.eq_of_mem_replicate present]
  have taken := takeWhile_append_refused (· == ' ') _ words accepted refused
  have left := dropWhile_append_refused (· == ' ') _ words accepted refused
  simp only [writeSingle, taken, left]
  split_ifs with folds
  · have none : count = 0 := by
      simp only [Bool.and_eq_true, List.isEmpty_replicate] at folds
      simpa using folds.1.1.1.1
    exact ⟨newLine site.indent, site.indent, rfl, .inr ⟨none, rfl⟩⟩
  · exact ⟨List.replicate (count + 1) ' ', _, rfl, .inl rfl⟩

/-- Line ends before a word are written as a run with the indentation behind it. -/
theorem writeSingle_breaks (site : Site) (fuel : Nat) (first : Bool) (column : Nat) (x : Char)
    (breaks words : List Char) (ends : ∀ y ∈ x :: breaks, isBreak y = true)
    (noBreak : ∀ y, words.head? = some y → isBreak y = false) :
    writeSingle site (fuel + 1) first column (x :: (breaks ++ words)) =
      writeBreaks (x :: breaks) ++ List.replicate site.indent ' ' ++
        writeSingle site fuel false site.indent words := by
  have xEnds := ends x List.mem_cons_self
  have notSpace : x ≠ ' ' := by
    rintro rfl
    exact absurd xEnds (by decide)
  have accepted := fun y present => ends y (List.mem_cons_of_mem x present)
  have taken := takeWhile_append_refused isBreak breaks words accepted noBreak
  have left := dropWhile_append_refused isBreak breaks words accepted noBreak
  simp only [writeSingle, xEnds, taken, left, if_true]

/-- Blanks at the front are written as a gap that is read as what they are carried as, and
the words behind them go on as before. -/
theorem writeSingle_gap (site : Site) (indented : 1 ≤ site.indent) (fuel : Nat) (first : Bool)
    (column : Nat) (x : Char) (cs : List Char) (quotable : Quotable (x :: cs))
    (blank : x = ' ' ∨ isBreak x = true) :
    ∃ written read next words, PassedGap written read ∧
      writeSingle site (fuel + 1) first column (x :: cs) =
        written ++ writeSingle site fuel false next words ∧
      carried false (x :: cs) = read ++ carried false words ∧
      Quotable words ∧ words.length ≤ cs.length ∧
      ∀ y, words.head? = some y → y ≠ ' ' ∧ isBreak y = false := by
  rcases blank with rfl | ends
  · obtain ⟨spaces, words, rfl, spacesOnly, stops⟩ := exists_run (· == ' ') cs
    obtain ⟨count, rfl⟩ : ∃ count, spaces = List.replicate count ' ' :=
      ⟨spaces.length, List.eq_replicate_of_mem fun y present => by
        simpa using spacesOnly y present⟩
    have noSpace : ∀ y, words.head? = some y → y ≠ ' ' := fun y found => by
      simpa using stops y found
    have front : Quotable (List.replicate (count + 1) ' ' ++ words) := quotable
    have noBreak : ∀ y, words.head? = some y → isBreak y = false := fun y found =>
      (front.meets ' ' y (by simp [List.getLast?_replicate]) found).1 rfl
    have length : words.length ≤ (List.replicate count ' ' ++ words).length := by simp
    have spacesCarried : carried false (' ' :: (List.replicate count ' ' ++ words)) =
        List.replicate (count + 1) ' ' ++ carried false words := carried_spaces (count + 1) words
    obtain ⟨gap, next, written, kept | ⟨none, folded⟩⟩ :=
      writeSingle_spaces site fuel first column count words noSpace
    · refine ⟨gap, List.replicate (count + 1) ' ', next, words, ?_, written, spacesCarried,
        front.tail, length, fun y found => ⟨noSpace y found, noBreak y found⟩⟩
      rw [kept]
      exact passedGap_spaces count
    · subst none
      refine ⟨gap, [' '], next, words, ?_, written, spacesCarried, front.tail, length,
        fun y found => ⟨noSpace y found, noBreak y found⟩⟩
      rw [folded]
      exact passedGap_newLine site.indent indented
  · obtain ⟨breaks, words, rfl, endsOnly, stops⟩ := exists_run isBreak cs
    have allEnd : ∀ y ∈ x :: breaks, isBreak y = true := fun y present => by
      rcases List.mem_cons.mp present with rfl | present
      · exact ends
      · exact endsOnly y present
    have front : Quotable ((x :: breaks) ++ words) := quotable
    obtain ⟨last, isLast⟩ : ∃ last, (x :: breaks).getLast? = some last :=
      ⟨_, List.getLast?_cons⟩
    have lastEnds := allEnd last (List.mem_of_getLast? isLast)
    obtain ⟨read, passed, same⟩ :=
      writeBreaks_passed x breaks words site.indent indented allEnd stops
    exact ⟨_, read, _, words, passed,
      writeSingle_breaks site fuel first column x breaks words allEnd stops, same, front.tail,
      by simp, fun y found => ⟨(front.meets last y isLast found).2 lastEnds, stops y found⟩⟩

/-- Reading what stands in single quotes gives what the quotes carry, and ends behind the
closing quote. The induction is on the steps of the writer: each of them is read back by one
step of the reader, and what is left of the text stays quotable. -/
theorem readQuoted_writeSingle (site : Site) (indented : 1 ≤ site.indent) (fuel : Nat)
    (first : Bool) (column : Nat) (cs behind : List Char) (c : Cursor) (readFuel : Nat)
    (enough : cs.length < fuel) (quotable : Quotable cs) (ends : behind.head? ≠ some '\'')
    (rest : c.rest = writeSingle site fuel first column cs ++ '\'' :: behind)
    (more : (writeSingle site fuel first column cs).length < readFuel) :
    readQuoted false readFuel c =
      .ok (carried false cs,
        steps ((writeSingle site fuel first column cs).length + 1) c) := by
  induction fuel generalizing first column cs c readFuel with
  | zero => simp at enough
  | succ fuel inductionHypothesis =>
    obtain ⟨readFuel, rfl⟩ : ∃ less, readFuel = less + 1 := ⟨readFuel - 1, by omega⟩
    cases cs with
    | nil =>
      exact readQuoted_close false readFuel c behind rest fun _ => ends
    | cons x cs =>
      have shorter : cs.length < fuel := by simpa using enough
      by_cases blank : x = ' ' ∨ isBreak x = true
      · obtain ⟨written, read, next, words, gap, split, same, remains, notLonger, solid⟩ :=
          writeSingle_gap site indented fuel first column x cs quotable blank
        rw [split] at rest more ⊢
        have fits : words.length < fuel := by omega
        obtain ⟨y, tail, start, solidStart⟩ :=
          writeSingle_head site fuel false next words behind fits remains solid
        have here : c.rest = written ++ y :: tail := by rw [rest, List.append_assoc, start]
        have arrived := rest_steps_append c written _ here
        obtain ⟨z, more', nonempty, -⟩ := gap.starts
        have positive : 0 < written.length := by simp [nonempty]
        simp only [List.length_append] at more
        have further := inductionHypothesis false next words (steps written.length c) readFuel
          fits remains (arrived.trans start.symm) (by omega)
        rw [same, List.length_append, Nat.add_assoc]
        exact readQuoted_gap false readFuel _ c y written read tail _ gap here solidStart
          (by omega) further
      · obtain ⟨notSpace, noBreak⟩ := not_or.mp blank
        have noBreak : isBreak x = false := by simpa using noBreak
        have noTab := quotable.not_tab x List.mem_cons_self notSpace
        have solid : isSolid x = true := by simp [isSolid, noTab, noBreak]
        have remains : Quotable cs := Quotable.tail (show Quotable ([x] ++ cs) from quotable)
        rw [carried_cons x cs false noBreak]
        by_cases quote : x = '\''
        · subst quote
          rw [writeSingle_quote] at rest more ⊢
          have arrived : c.step.step.rest = writeSingle site fuel false (column + 2) cs ++
              '\'' :: behind := by
            rw [rest_step, rest_step, rest]
            rfl
          have further := inductionHypothesis false (column + 2) cs c.step.step readFuel shorter
            remains arrived (by simp only [List.length_cons] at more; omega)
          exact readQuoted_quote readFuel c _ _ _ rest further
        · rw [writeSingle_solid _ _ _ _ _ _ solid quote] at rest more ⊢
          have arrived : c.step.rest = writeSingle site fuel false (column + 1) cs ++
              '\'' :: behind := by
            rw [rest_step, rest]
            rfl
          have further := inductionHypothesis false (column + 1) cs c.step readFuel shorter
            remains arrived (by simp only [List.length_cons] at more; omega)
          exact readQuoted_solid false readFuel c _ x _ _ rest solid quote (by simp) further

end TypedSheets.Yaml
