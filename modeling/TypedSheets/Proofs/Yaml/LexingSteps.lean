import Mathlib.Tactic.SplitIfs
import TypedSheets.Proofs.Yaml.QuotedScalars
import TypedSheets.Yaml.TokenStream

/-!
# Steps of the token stream

Cutting a text into tokens goes from state to state: blanks are passed, then the token at the
cursor is cut off. `Reaches` says that one state leads to another without using more steps than
characters, so what is shown about parts of a text can be put together.
-/

namespace TypedSheets.Yaml

open Cursor

namespace Lexing

/-- A state outside of flow collections. -/
def block (size : Nat) (c : Cursor) (tokens : List Token) (indent : Int) (outer : List Int)
    (keyAllowed : Bool) (candidates : List KeyCandidate) : Lexing :=
  { size, cursor := c, tokens, count := tokens.length, indent, outer, keyAllowed, candidates }

/-- What follows is nothing, or a solid character that starts no comment. -/
def StopsBlanks (behind : List Char) : Prop :=
  ∀ x, behind.head? = some x → isSolid x = true ∧ x ≠ '#'

/-- Spaces are passed, and no comment is found behind them. -/
theorem skipComment_spaces (count : Nat) (c : Cursor) (behind : List Char)
    (rest : c.rest = List.replicate count ' ' ++ behind) (stops : StopsBlanks behind) :
    c.skipComment = steps count c := by
  have accepted : ∀ y ∈ List.replicate count ' ', (y == ' ') = true := fun y present => by
    simp [List.eq_of_mem_replicate present]
  have refused : ∀ y, behind.head? = some y → (y == ' ') = false := fun y found => by
    have solid := (stops y found).1
    refine beq_false_of_ne ?_
    rintro rfl
    exact absurd solid (by decide)
  have skipped : c.skipSpaces = steps (List.replicate count ' ').length c :=
    skip_eq c (· == ' ') _ _ rest accepted refused
  rw [List.length_replicate] at skipped
  have arrived := rest_steps_spaces c count behind rest
  have noComment : (behind.head? == some '#') = false := by
    cases head : behind.head? with
    | none => rfl
    | some y => simpa using (stops y head).2
  simp [skipComment, skipped, arrived, noComment]

/-- Spaces within a line are passed. -/
theorem skipBlanks_spaces (fuel count : Nat) (s : Lexing) (behind : List Char)
    (rest : s.cursor.rest = List.replicate count ' ' ++ behind) (stops : StopsBlanks behind) :
    skipBlanks (fuel + 1) s = { s with cursor := steps count s.cursor } := by
  have skipped := skipComment_spaces count s.cursor behind rest stops
  have arrived := rest_steps_spaces s.cursor count behind rest
  rw [skipBlanks]
  simp only [skipped, arrived]
  cases behind with
  | nil => rfl
  | cons x behind => simp [isBreak_of_solid (stops x rfl).1]

/-- A line end and the spaces behind it are passed; behind it a key may start. -/
theorem skipBlanks_newLine (fuel count : Nat) (s : Lexing) (behind : List Char)
    (rest : s.cursor.rest = newLine count ++ behind) (stops : StopsBlanks behind)
    (outside : s.flow = 0) :
    skipBlanks (fuel + 2) s =
      { s with cursor := steps (count + 1) s.cursor, keyAllowed := true } := by
  have here : s.cursor.rest = '\n' :: (List.replicate count ' ' ++ behind) := rest
  have refused : ∀ y, s.cursor.rest.head? = some y → (y == ' ') = false := fun y found => by
    rw [here] at found
    cases found
    rfl
  have stays : s.cursor.skipSpaces = s.cursor := skip_refused s.cursor (· == ' ') refused
  have noComment : s.cursor.skipComment = s.cursor := by simp [skipComment, stays, here]
  have next : s.cursor.step.rest = List.replicate count ' ' ++ behind := by
    rw [rest_step, here]
    rfl
  have further := skipBlanks_spaces fuel count
    { s with cursor := s.cursor.step, keyAllowed := s.keyAllowed || s.flow == 0 } behind next stops
  rw [skipBlanks]
  simp only [noComment, here, show isBreak '\n' = true by decide, if_true, further]
  simp [outside, steps]

/-- Candidates within reach stay. -/
theorem dropStale_fresh (s : Lexing) (fresh : ∀ k ∈ s.candidates, s.isStale k = false) :
    s.dropStale = .ok s := by
  have none : ¬(s.candidates.any fun k => s.isStale k && k.required) = true := by
    simp only [List.any_eq_true, Bool.and_eq_true, not_exists, not_and]
    intro k present stale
    rw [fresh k present] at stale
    cases stale
  have all : s.candidates.filter (fun k => !s.isStale k) = s.candidates :=
    List.filter_eq_self.mpr fun k present => by rw [fresh k present]; rfl
  rw [dropStale, if_neg none, all]

/-- Candidates out of reach go, as long as none of them had to be a key. -/
theorem dropStale_stale (s : Lexing)
    (stale : ∀ k ∈ s.candidates, s.isStale k = true ∧ k.required = false) :
    s.dropStale = .ok { s with candidates := [] } := by
  have none : ¬(s.candidates.any fun k => s.isStale k && k.required) = true := by
    simp only [List.any_eq_true, Bool.and_eq_true, not_exists, not_and]
    intro k present _
    simp [(stale k present).2]
  have gone : s.candidates.filter (fun k => !s.isStale k) = [] :=
    List.filter_eq_nil_iff.mpr fun k present => by rw [(stale k present).1]; decide
  rw [dropStale, if_neg none, gone]

/-- The state that the next token is looked for in. -/
def settle (s : Lexing) : Except ReadError Lexing := (s.skipBlanks (s.size + 1)).dropStale

/-- Spaces within a line are passed, and keys within reach stay. -/
theorem settle_spaces (count size : Nat) (c : Cursor) (tokens : List Token) (indent : Int)
    (outer : List Int) (keyAllowed : Bool) (candidates : List KeyCandidate) (behind : List Char)
    (rest : c.rest = List.replicate count ' ' ++ behind) (stops : StopsBlanks behind)
    (fresh : ∀ k ∈ candidates, k.line = (steps count c).line ∧
      (steps count c).index - k.index ≤ keyReach) :
    settle (block size c tokens indent outer keyAllowed candidates) =
      .ok (block size (steps count c) tokens indent outer keyAllowed candidates) := by
  have skipped := skipBlanks_spaces size count (block size c tokens indent outer keyAllowed candidates)
    behind rest stops
  refine (congrArg dropStale skipped).trans (dropStale_fresh _ fun k present => ?_)
  obtain ⟨line, near⟩ := fresh k present
  have notFar : ¬keyReach < (steps count c).index - k.index := by omega
  simp [isStale, block, line, notFar]

/-- On the next line a key may start, and what could have been a key before it no longer is. -/
theorem settle_newLine (count size : Nat) (c : Cursor) (tokens : List Token) (indent : Int)
    (outer : List Int) (keyAllowed : Bool) (candidates : List KeyCandidate) (behind : List Char)
    (rest : c.rest = newLine count ++ behind) (stops : StopsBlanks behind) (room : 1 ≤ size)
    (optional : ∀ k ∈ candidates, k.line ≤ c.line ∧ k.required = false) :
    settle (block size c tokens indent outer keyAllowed candidates) =
      .ok (block size (steps (count + 1) c) tokens indent outer true []) := by
  obtain ⟨less, rfl⟩ : ∃ less, size = less + 1 := ⟨size - 1, by omega⟩
  have skipped := skipBlanks_newLine less count
    (block (less + 1) c tokens indent outer keyAllowed candidates) behind rest stops rfl
  have arrived := steps_newLine c '\n' count behind (by decide) rest
  refine (congrArg dropStale skipped).trans (dropStale_stale _ fun k present => ?_)
  obtain ⟨before, notRequired⟩ := optional k present
  have different : k.line ≠ c.line + 1 := by omega
  exact ⟨by simp [isStale, block, arrived, different], notRequired⟩

/-- Where a token starts, nothing is passed, and keys on earlier lines are out of reach. -/
theorem settle_here (size : Nat) (c : Cursor) (tokens : List Token) (indent : Int)
    (outer : List Int) (keyAllowed : Bool) (candidates : List KeyCandidate)
    (stops : StopsBlanks c.rest)
    (optional : ∀ k ∈ candidates, k.line < c.line ∧ k.required = false) :
    settle (block size c tokens indent outer keyAllowed candidates) =
      .ok (block size c tokens indent outer keyAllowed []) := by
  have skipped := skipBlanks_spaces size 0 (block size c tokens indent outer keyAllowed candidates)
    c.rest rfl stops
  refine (congrArg dropStale skipped).trans (dropStale_stale _ fun k present => ?_)
  obtain ⟨before, notRequired⟩ := optional k present
  have different : k.line ≠ c.line := by omega
  exact ⟨by simp [isStale, block, steps, different], notRequired⟩

/-- From one state the tokens are the same as from the other, and the steps between them are at
most as many as the characters between them. -/
def Reaches (s t : Lexing) : Prop :=
  ∃ count, count + t.cursor.rest.length ≤ s.cursor.rest.length ∧
    ∀ fuel, run (count + fuel) s = run fuel t

theorem Reaches.refl (s : Lexing) : Reaches s s :=
  ⟨0, by rw [Nat.zero_add], fun fuel => by rw [Nat.zero_add]⟩

theorem Reaches.trans {s t u : Lexing} (first : Reaches s t) (second : Reaches t u) :
    Reaches s u := by
  obtain ⟨m, firstShorter, firstRun⟩ := first
  obtain ⟨n, secondShorter, secondRun⟩ := second
  refine ⟨m + n, by omega, fun fuel => ?_⟩
  rw [Nat.add_assoc, firstRun, secondRun]

/-- No characters come back. -/
theorem Reaches.rest_le {s t : Lexing} (reaches : Reaches s t) :
    t.cursor.rest.length ≤ s.cursor.rest.length := by
  obtain ⟨count, shorter, -⟩ := reaches
  omega

/-- What settles into a state that stays has the same tokens as that state. -/
theorem reaches_settle (s t : Lexing) (settles : settle s = .ok t) (stays : settle t = .ok t)
    (same : t.tokens = s.tokens) (shorter : t.cursor.rest.length ≤ s.cursor.rest.length) :
    Reaches s t := by
  refine ⟨0, by omega, fun fuel => ?_⟩
  rw [Nat.zero_add]
  cases fuel with
  | zero => rw [run, run, same]
  | succ fuel =>
    have alike : s.advance = t.advance := by
      unfold advance
      rw [show (s.skipBlanks (s.size + 1)).dropStale = .ok t from settles,
        show (t.skipBlanks (t.size + 1)).dropStale = .ok t from stays]
    rw [run, run, alike, same]

/-- A token is cut off where a state settles. -/
theorem reaches_token (s t u : Lexing) (x : Char) (behind : List Char) (settles : settle s = .ok t)
    (rest : t.cursor.rest = x :: behind)
    (token : (t.closeBlocks t.cursor.column).nextToken x behind = .ok u)
    (shorter : u.cursor.rest.length < s.cursor.rest.length) : Reaches s u := by
  refine ⟨1, by omega, fun fuel => ?_⟩
  have next : s.advance = .ok (false, u) := by
    unfold advance
    rw [show (s.skipBlanks (s.size + 1)).dropStale = .ok t from settles]
    simp only [bind, Except.bind, rest, token, pure, Except.pure]
  rw [Nat.add_comm, run, next]

/-- A column that is not left of the block closes nothing. -/
theorem closeBlocks_inside (column : Int) (s : Lexing) (inside : s.indent ≤ column) :
    s.closeBlocks column = s := by
  have deep : ¬column < s.indent := by omega
  unfold closeBlocks
  split
  · rfl
  · cases s.outer with
    | nil => rfl
    | cons outer more => rw [closeBlocks.go, if_neg deep]

/-- From the cursor a token is cut off, whose first character is no blank and starts no comment. -/
def CutsOff (s t : Lexing) : Prop :=
  ∃ x behind, s.cursor.rest = x :: behind ∧ (isSolid x = true ∧ x ≠ '#') ∧
    s.nextToken x behind = .ok t

/-- Spaces before a token are passed, and the candidates before it stay within reach. -/
theorem CutsOff.reaches {size : Nat} {c : Cursor} {tokens : List Token} {indent : Int}
    {outer : List Int} {keyAllowed : Bool} {candidates : List KeyCandidate} {t : Lexing} (gap : Nat)
    (behind : List Char)
    (token : CutsOff (block size (steps gap c) tokens indent outer keyAllowed candidates) t)
    (rest : c.rest = List.replicate gap ' ' ++ behind)
    (fresh : ∀ k ∈ candidates, k.line = c.line ∧ c.index + gap - k.index ≤ keyReach)
    (inside : indent ≤ (c.column + gap : Nat)) (shorter : t.cursor.rest.length < behind.length) :
    Reaches (block size c tokens indent outer keyAllowed candidates) t := by
  obtain ⟨x, more, start, solid, next⟩ := token
  have arrived := steps_spaces c gap behind rest
  have same : behind = x :: more := by
    rw [← start, block, arrived]
  have stops : StopsBlanks behind := fun y found => by
    rw [same] at found
    cases found
    exact solid
  have settles := settle_spaces gap size c tokens indent outer keyAllowed candidates _ rest stops
    fun k present => by rw [arrived]; exact fresh k present
  refine reaches_token _ _ t x more settles start ?_ ?_
  · rw [closeBlocks_inside _ _ (by rw [block, arrived]; exact inside)]
    exact next
  · show t.cursor.rest.length < c.rest.length
    rw [rest, List.length_append]
    omega

/-- Where a token starts, the keys on earlier lines are given up. -/
theorem reaches_here (size : Nat) (c : Cursor) (tokens : List Token) (indent : Int)
    (outer : List Int) (keyAllowed : Bool) (candidates : List KeyCandidate)
    (stops : StopsBlanks c.rest)
    (optional : ∀ k ∈ candidates, k.line < c.line ∧ k.required = false) :
    Reaches (block size c tokens indent outer keyAllowed candidates)
      (block size c tokens indent outer keyAllowed []) :=
  reaches_settle _ _ (settle_here size c tokens indent outer keyAllowed candidates stops optional)
    (settle_here size c tokens indent outer keyAllowed [] stops (by simp)) rfl (Nat.le_refl _)

/-- A line end leads to where the next line's token starts. -/
theorem reaches_newLine (count size : Nat) (c : Cursor) (tokens : List Token) (indent : Int)
    (outer : List Int) (keyAllowed : Bool) (candidates : List KeyCandidate) (behind : List Char)
    (rest : c.rest = newLine count ++ behind) (stops : StopsBlanks behind) (room : 1 ≤ size)
    (optional : ∀ k ∈ candidates, k.line ≤ c.line ∧ k.required = false) :
    Reaches (block size c tokens indent outer keyAllowed candidates)
      (block size (steps (count + 1) c) tokens indent outer true []) := by
  have arrived := steps_newLine c '\n' count behind (by decide) rest
  refine reaches_settle _ _ (settle_newLine count size c tokens indent outer keyAllowed candidates
    behind rest stops room optional) (settle_here size _ tokens indent outer true [] ?_ (by simp)) rfl ?_
  · rw [arrived]
    exact stops
  · show (steps (count + 1) c).rest.length ≤ c.rest.length
    rw [arrived, rest, List.length_append]
    simp only
    omega

end Lexing

end TypedSheets.Yaml
