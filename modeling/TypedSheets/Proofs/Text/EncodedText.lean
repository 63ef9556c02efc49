import Mathlib.Data.List.TakeWhile
import Mathlib.Tactic.SplitIfs
import TypedSheets.Text.Lines
import TypedSheets.Text.Utf8

/-!
# Encoded texts read back

Decoding the encoding of a text gives the text back: every character is read from as
many bytes as were written for it, and never from the bytes of its neighbours. A text
without carriage returns also passes the unification of line ends unchanged.
-/

namespace TypedSheets.Text

/-- A byte that was made from a small number is that number. -/
theorem toNat_byte (n : Nat) (small : n < 256) : (UInt8.ofNat n).toNat = n := by
  simp [Nat.mod_eq_of_lt small]

/-- A continuation byte carries its payload in its low six bits. -/
theorem toNat_continuation (payload : Nat) :
    (continuation payload).toNat = 0x80 + payload % 64 := by
  have small : 0x80 + payload % 64 < 256 := by omega
  exact toNat_byte _ small

/-- Continuation bytes are recognised as such. -/
theorem isContinuation_continuation (payload : Nat) :
    isContinuation (continuation payload) = true := by
  simp only [isContinuation, Bool.and_eq_true, decide_eq_true_eq, UInt8.le_iff_toNat_le,
    UInt8.lt_iff_toNat_lt, toNat_continuation, UInt8.reduceToNat]
  omega

/-- Code points stop below the end of the last plane and leave the surrogates out. -/
theorem char_code_valid (c : Char) :
    c.toNat < 0xd800 ∨ 0xdfff < c.toNat ∧ c.toNat < 0x110000 := c.valid

/-- The bytes of one character as the decoder sees them: the first byte tells how many
follow, those that follow continue it whatever comes behind, and together they give the
code point. -/
structure ReadsAs (first : UInt8) (others : List UInt8) (code : Nat) : Prop where
  width : charWidth? first = some (others.length + 1)
  continues : ∀ rest, continued first others.length (others ++ rest) = others.length
  code_eq : codeOf first others = code

/-- The second byte lies in the range that the first one leaves for it. -/
def FollowsFirst (first second : UInt8) : Prop :=
  (secondRange first).1 ≤ second ∧ second ≤ (secondRange first).2

/-- A second byte in range and continuation bytes behind it continue the character. -/
theorem continued_all (first second : UInt8) (tail rest : List UInt8)
    (follows : FollowsFirst first second) (continuing : ∀ b ∈ tail, isContinuation b = true) :
    continued first (second :: tail).length ((second :: tail) ++ rest) =
      (second :: tail).length := by
  have inRange : ((secondRange first).1 ≤ second && second ≤ (secondRange first).2) = true := by
    simpa only [Bool.and_eq_true, decide_eq_true_eq, FollowsFirst] using follows
  have run : (tail.takeWhile isContinuation).length = tail.length := by
    rw [List.takeWhile_eq_self_iff.mpr continuing]
  simp only [List.length_cons, List.cons_append, continued, inRange, ite_true, List.take_left', run]
  omega

/-- The range of the second byte by the number that the first byte is. -/
theorem secondRange_eq (first : UInt8) :
    secondRange first =
      if first.toNat = 0xe0 then (0xa0, 0xbf) else if first.toNat = 0xed then (0x80, 0x9f)
      else if first.toNat = 0xf0 then (0x90, 0xbf) else if first.toNat = 0xf4 then (0x80, 0x8f)
      else (0x80, 0xbf) := by
  simp only [secondRange, ← UInt8.toNat_inj, UInt8.reduceToNat]

/-- The number of bytes of a character by the number that its first byte is. -/
theorem charWidth?_eq (first : UInt8) :
    charWidth? first =
      if first.toNat < 0x80 then some 1
      else if 0xc2 ≤ first.toNat ∧ first.toNat ≤ 0xdf then some 2
      else if 0xe0 ≤ first.toNat ∧ first.toNat ≤ 0xef then some 3
      else if 0xf0 ≤ first.toNat ∧ first.toNat ≤ 0xf4 then some 4 else none := by
  simp only [charWidth?, UInt8.lt_iff_toNat_lt, UInt8.le_iff_toNat_le, UInt8.reduceToNat]

/-- One byte for each code point below 128. -/
theorem readsAs_one (code : Nat) (small : code < 0x80) :
    ReadsAs (UInt8.ofNat code) [] code := by
  have byte : (UInt8.ofNat code).toNat = code := toNat_byte code (by omega)
  refine ⟨?_, fun rest => rfl, ?_⟩
  · rw [charWidth?_eq, byte, if_pos small]
    rfl
  · simp only [codeOf, List.length_nil, List.foldl_nil, byte]

/-- Two bytes up to eleven bits. -/
theorem readsAs_two (code : Nat) (above : 0x80 ≤ code) (below : code < 0x800) :
    ReadsAs (UInt8.ofNat (0xc0 + code / 64)) [continuation code] code := by
  have byte : (UInt8.ofNat (0xc0 + code / 64)).toNat = 0xc0 + code / 64 :=
    toNat_byte _ (by omega)
  have second := toNat_continuation code
  refine ⟨?_, fun rest => ?_, ?_⟩
  · rw [charWidth?_eq, byte, if_neg (by omega), if_pos (by omega)]
    rfl
  · refine continued_all _ _ [] rest ?_ (by simp)
    simp only [FollowsFirst, secondRange_eq, byte, UInt8.le_iff_toNat_le, second]
    rw [if_neg (by omega), if_neg (by omega), if_neg (by omega), if_neg (by omega)]
    simp only [UInt8.reduceToNat]
    omega
  · simp only [codeOf, List.length_singleton, List.foldl_cons, List.foldl_nil, byte, second]
    omega

/-- Three bytes for the rest of the first plane, without the surrogates. -/
theorem readsAs_three (code : Nat) (above : 0x800 ≤ code) (below : code < 0x10000)
    (valid : code < 0xd800 ∨ 0xdfff < code) :
    ReadsAs (UInt8.ofNat (0xe0 + code / 4096)) [continuation (code / 64), continuation code]
      code := by
  have byte : (UInt8.ofNat (0xe0 + code / 4096)).toNat = 0xe0 + code / 4096 :=
    toNat_byte _ (by omega)
  have second := toNat_continuation (code / 64)
  have third := toNat_continuation code
  refine ⟨?_, fun rest => ?_, ?_⟩
  · rw [charWidth?_eq, byte, if_neg (by omega), if_neg (by omega), if_pos (by omega)]
    rfl
  · refine continued_all _ _ [_] rest ?_ (by simp [isContinuation_continuation])
    simp only [FollowsFirst, secondRange_eq, byte, UInt8.le_iff_toNat_le, second]
    split_ifs <;> simp only [UInt8.reduceToNat] <;> omega
  · simp only [codeOf, List.length_cons, List.length_nil, List.foldl_cons, List.foldl_nil, byte,
      second, third]
    omega

/-- Four bytes for the other planes. -/
theorem readsAs_four (code : Nat) (above : 0x10000 ≤ code) (below : code < 0x110000) :
    ReadsAs (UInt8.ofNat (0xf0 + code / 262144))
      [continuation (code / 4096), continuation (code / 64), continuation code] code := by
  have byte : (UInt8.ofNat (0xf0 + code / 262144)).toNat = 0xf0 + code / 262144 :=
    toNat_byte _ (by omega)
  have second := toNat_continuation (code / 4096)
  have third := toNat_continuation (code / 64)
  have fourth := toNat_continuation code
  refine ⟨?_, fun rest => ?_, ?_⟩
  · rw [charWidth?_eq, byte, if_neg (by omega), if_neg (by omega), if_neg (by omega),
      if_pos (by omega)]
    rfl
  · refine continued_all _ _ [_, _] rest ?_ (by simp [isContinuation_continuation])
    simp only [FollowsFirst, secondRange_eq, byte, UInt8.le_iff_toNat_le, second]
    split_ifs <;> simp only [UInt8.reduceToNat] <;> omega
  · simp only [codeOf, List.length_cons, List.length_nil, List.foldl_cons, List.foldl_nil, byte,
      second, third, fourth]
    omega

/-- Every character is written as bytes that read as it. -/
theorem encodeChar_readsAs (c : Char) :
    ∃ first others, encodeChar c = first :: others ∧ ReadsAs first others c.toNat := by
  have valid := char_code_valid c
  simp only [encodeChar]
  split_ifs with one two three
  · exact ⟨_, _, rfl, readsAs_one _ one⟩
  · exact ⟨_, _, rfl, readsAs_two _ (by omega) two⟩
  · exact ⟨_, _, rfl, readsAs_three _ (by omega) three (by omega)⟩
  · exact ⟨_, _, rfl, readsAs_four _ (by omega) (by omega)⟩

/-- Decoding takes the bytes of one character off and goes on behind them. -/
theorem decodeChars_encodeChar (c : Char) (fuel offset : Nat) (rest : List UInt8) :
    decodeChars (fuel + 1) offset (encodeChar c ++ rest) =
      (decodeChars fuel (offset + (encodeChar c).length) rest).map (c :: ·) := by
  obtain ⟨first, others, encoded, read⟩ := encodeChar_readsAs c
  have found := read.continues rest
  rw [encoded, List.cons_append, decodeChars]
  simp only [read.width, Nat.add_sub_cancel, found, Nat.lt_irrefl, ite_false, List.take_left',
    List.drop_left', read.code_eq, Char.ofNat_toNat, List.length_cons]

/-- The bytes of several characters decode to those characters, in order. -/
theorem decodeChars_encodeChars (cs : List Char) (fuel offset : Nat)
    (enough : cs.length ≤ fuel) : decodeChars fuel offset (encodeChars cs) = .ok cs := by
  induction cs generalizing fuel offset with
  | nil => cases fuel <;> rfl
  | cons c rest inductionHypothesis =>
    cases fuel with
    | zero => simp at enough
    | succ fuel =>
      have further := inductionHypothesis fuel (offset + (encodeChar c).length)
        (Nat.le_of_succ_le_succ enough)
      rw [show encodeChars (c :: rest) = encodeChar c ++ encodeChars rest from rfl,
        decodeChars_encodeChar, further]
      rfl

/-- No character is written without a byte. -/
theorem length_le_encodeChars (cs : List Char) : cs.length ≤ (encodeChars cs).length := by
  induction cs with
  | nil => exact Nat.le_refl 0
  | cons c rest inductionHypothesis =>
    obtain ⟨first, others, encoded, -⟩ := encodeChar_readsAs c
    rw [show encodeChars (c :: rest) = encodeChar c ++ encodeChars rest from rfl, encoded]
    simp only [List.length_cons, List.length_append]
    omega

theorem encodeUtf8_append (first second : String) :
    encodeUtf8 (first ++ second) = encodeUtf8 first ++ encodeUtf8 second := by
  rw [encodeUtf8, String.toList_append]
  exact List.flatMap_append

/-- Decoding is a left inverse of encoding. -/
theorem decodeUtf8_encodeUtf8 (text : String) : decodeUtf8 (encodeUtf8 text) = .ok text := by
  have decoded := decodeChars_encodeChars text.toList _ 0 (length_le_encodeChars text.toList)
  rw [decodeUtf8, encodeUtf8, decoded]
  simp only [Except.map, String.ofList_toList]

/-- Without carriage returns there is nothing to unify. -/
theorem unifyLineEnds_eq_self (cs : List Char) (free : '\r' ∉ cs) : unifyLineEnds cs = cs := by
  induction cs with
  | nil => rfl
  | cons c rest inductionHypothesis =>
    have different : c ≠ '\r' := fun same => free (same ▸ List.mem_cons_self)
    have tail := inductionHypothesis fun present => free (List.mem_cons_of_mem c present)
    rw [unifyLineEnds, tail]
    · intro _ same _
      exact different same
    · exact different

end TypedSheets.Text
