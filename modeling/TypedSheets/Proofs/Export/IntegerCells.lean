import Mathlib.Algebra.Order.Field.Power
import Mathlib.Algebra.Order.Ring.Rat
import Mathlib.Tactic.NormNum
import Mathlib.Tactic.Positivity
import TypedSheets.Proofs.Export.CellValues
import TypedSheets.Value.Text

/-!
# Integers in typed cells

A spreadsheet stores an integer as an integer or as a floating point number, bare or with the width of its
column. The grid has one text for all of these, the decimal text of the integer, and each type of integers
reads the integer back from it when it holds the integer and refuses it otherwise. The main statement is
`integerCell_roundTrip`.
-/

namespace TypedSheets

open TypedSheets.Number TypedSheets.Schema TypedSheets.Text

/-- The number that a double is. -/
def Number.Double.rational? : Double → Option ℚ
  | .finite negative significand exponent => some ((if negative then -1 else 1) * significand * 2 ^ exponent)
  | _ => none

/-- The cells that hold an integer: integers and doubles, bare, of a fixed width, or of single precision. -/
inductive HoldsInteger (n : Int) : Value → Prop where
  | int : HoldsInteger n (.int n)
  | float {x : Double} (equal : x.rational? = some (n : ℚ)) : HoldsInteger n (.float x)
  | integer (format : IntegerFormat) : HoldsInteger n (.cell (.integer format n))
  | double {x : Double} (equal : x.rational? = some (n : ℚ)) : HoldsInteger n (.cell (.double x))
  | single {x : Double} (equal : x.rational? = some (n : ℚ)) : HoldsInteger n (.cell (.single x))

section Notation

/-- The digits of a natural number are its digits in base ten. -/
theorem Number.naturalChars_eq_toDigits (n : Nat) : naturalChars n = Nat.toDigits 10 n := by
  have same : ∀ digit < 10, digitChar digit = Nat.digitChar digit := by decide
  induction n using Nat.strong_induction_on with
  | _ n inductionHypothesis =>
    rw [naturalChars_eq]
    split
    · next small => rw [Nat.toDigits_of_lt_base small, same n small]
    · next large =>
      rw [Nat.toDigits_of_base_le (by decide) (by omega), inductionHypothesis (n / 10) (by omega),
        same (n % 10) (Nat.mod_lt n (by decide))]

/-- The text of an integer is its usual one. -/
theorem Number.integerText_eq_toString (n : Int) : integerText n = toString n := by
  have digits (m : Nat) : m.repr = String.ofList (naturalChars m) := by
    rw [Nat.repr_eq_ofList_toDigits, naturalChars_eq_toDigits]
  rw [Int.toString_eq_repr, Int.repr_eq_if, integerText, integerChars, digits, digits]
  by_cases negative : n < 0
  · have size : (-n).toNat = n.natAbs := by omega
    rw [if_pos negative, if_neg (by omega), size, ← List.singleton_append, String.ofList_append]
  · have size : n.toNat = n.natAbs := by omega
    rw [if_neg negative, if_pos (by omega), size]

end Notation

section Doubles

variable {x : Double} {n : Int}

/-- The ratio of a double without its sign. -/
theorem Number.Double.ratio_eq (significand : Nat) (exponent : Int) :
    0 < (Double.ratio significand exponent).2 ∧
      (significand : ℚ) * 2 ^ exponent =
        (Double.ratio significand exponent).1 / (Double.ratio significand exponent).2 := by
  have power (k : Nat) : Nat.pow 2 k = 2 ^ k := rfl
  rw [Double.ratio, power]
  by_cases fraction : exponent < 0
  · have size : exponent = -(exponent.natAbs : Int) := by omega
    rw [if_pos fraction]
    refine ⟨by positivity, ?_⟩
    rw [size, zpow_neg, zpow_natCast, Int.natAbs_neg, Int.natAbs_natCast, Nat.cast_pow, Nat.cast_ofNat, div_eq_mul_inv]
  · have size : exponent = (exponent.natAbs : Int) := by omega
    rw [if_neg fraction]
    refine ⟨Nat.one_pos, ?_⟩
    rw [size, zpow_natCast, Int.natAbs_natCast, Nat.cast_mul, Nat.cast_pow, Nat.cast_ofNat, Nat.cast_one, div_one]

/-- A double that is an integer is that integer times a denominator, over the denominator. -/
theorem Number.Double.ratio_of_rational {negative : Bool} {significand : Nat} {exponent : Int}
    (equal : (Double.finite negative significand exponent).rational? = some (n : ℚ)) :
    (Double.ratio significand exponent).1 = n.natAbs * (Double.ratio significand exponent).2 ∧
      (if negative then -(n.natAbs : Int) else n.natAbs) = n := by
  obtain ⟨positive, ratio⟩ := Double.ratio_eq significand exponent
  have signed := Option.some.inj equal
  rw [mul_assoc, ratio] at signed
  generalize Double.ratio significand exponent = pair at positive signed ⊢
  obtain ⟨num, den⟩ := pair
  have nonzero : (den : ℚ) ≠ 0 := by
    rw [Nat.cast_ne_zero]
    exact Nat.pos_iff_ne_zero.mp positive
  have whole : (if negative then -(num : Int) else num) = n * den := by
    rw [← mul_div_assoc, div_eq_iff nonzero] at signed
    cases negative with
    | true => exact_mod_cast (neg_one_mul (num : ℚ)).symm.trans signed
    | false => exact_mod_cast (one_mul (num : ℚ)).symm.trans signed
  have size := congrArg Int.natAbs whole
  rw [Int.natAbs_mul, Int.natAbs_natCast] at size
  cases negative with
  | true =>
    rw [if_pos rfl, Int.natAbs_neg, Int.natAbs_natCast] at size
    refine ⟨size, ?_⟩
    rw [if_pos rfl] at whole ⊢
    have low : n * den ≤ 0 := by omega
    have negative : n ≤ 0 := nonpos_of_mul_nonpos_left low (by exact_mod_cast positive)
    omega
  | false =>
    rw [if_neg Bool.false_ne_true, Int.natAbs_natCast] at size
    refine ⟨size, ?_⟩
    rw [if_neg Bool.false_ne_true] at whole ⊢
    have high : 0 ≤ n * den := by omega
    have natural : 0 ≤ n := nonneg_of_mul_nonneg_left high (by exact_mod_cast positive)
    omega

/-- So it has the text of the integer, whatever the sign of a zero. -/
theorem gridDoubleText_eq (equal : x.rational? = some (n : ℚ)) : Value.gridDoubleText x = integerText n := by
  cases x with
  | nan => cases equal
  | infinite negative => cases equal
  | finite negative significand exponent =>
    obtain ⟨whole, signed⟩ := Double.ratio_of_rational equal
    have positive := (Double.ratio_eq significand exponent).1
    have integral : (Double.finite negative significand exponent).isIntegral = true := by
      simp [Double.isIntegral, whole]
    have truncated : (Double.finite negative significand exponent).truncate? = some n := by
      rw [Double.truncate?]
      simp only [whole, Nat.mul_div_cancel _ positive, signed]
    rw [Value.gridDoubleText, if_neg (by simp [Double.isNan]), if_pos integral, truncated]
    rfl

end Doubles

section Reading

variable {n : Int} {v : Value} {p : Primitive} {f : Field} {row : DataRow} {schema sheet : String}

/-- The grid has the text of the integer that a cell holds. -/
theorem HoldsInteger.gridText_eq (holds : HoldsInteger n v) (short : n.natAbs < 10 ^ digitLimit) :
    v.gridText = .ok (integerText n) := by
  cases holds with
  | int =>
    have shown : (Value.int n).gridText = integerText? n := by
      simp [Value.gridText, Value.isLoneMissing, Value.plainText, Value.shown, Value.shownWithin, Value.shownAtom]
    rw [shown, integerText?_short n short]
  | float equal => exact congrArg Except.ok (gridDoubleText_eq equal)
  | integer format => rfl
  | double equal => exact congrArg Except.ok (gridDoubleText_eq equal)
  | single equal => exact congrArg Except.ok (gridDoubleText_eq equal)

/-- A type of integers takes the integer of a text within its bounds, and names the bound that it is beyond. -/
theorem read_integerText (isInteger : p ∈ integerTypes) (short : n.natAbs < 10 ^ digitLimit) :
    (p.Holds n → p.read (integerText n) = .ok (.int n)) ∧
      (¬p.Holds n → ∃ bound, p.Holds bound ∧ (∀ m, p.Holds m → (n - bound).natAbs ≤ (n - m).natAbs) ∧
        p.read (integerText n) = .error (if n < bound then .below n bound else .above n bound)) := by
  obtain ⟨lo, hi, range, least, greatest, within⟩ := exists_bounds isInteger
  have number := isDecimal_integerText n short
  have parsed : readInteger 10 (trim (integerText n)) = .ok n := by
    have read := (readInteger_decimal number.trimmed.1).mpr number
    rw [String.ofList_toList] at read
    rw [trim_eq_self number.trimmed.1, read]
  rw [read_integer range, readBounded, parsed]
  dsimp only
  refine ⟨fun holds => ?_, fun outside => ?_⟩
  · obtain ⟨above, below⟩ := (within n).mp holds
    rw [if_neg (by omega), if_neg (by omega)]
    rfl
  · rw [within] at outside
    by_cases below : n < lo
    · refine ⟨lo, least, fun m holds => ?_, by rw [if_pos below, if_pos below]; rfl⟩
      have bounds := (within m).mp holds
      omega
    · have above : hi < n := by omega
      refine ⟨hi, greatest, fun m holds => ?_, by rw [if_neg below, if_pos above, if_neg (by omega)]; rfl⟩
      have bounds := (within m).mp holds
      omega

/-- A field with a type of integers coerces what its type makes of the text of an integer. -/
theorem coerceValue_integerText (primitive : HasPrimitive f p) (isInteger : p ∈ integerTypes)
    (short : n.natAbs < 10 ^ digitLimit) (stored : row.raw f.name = integerText n) :
    coerceValue schema sheet f row = match p.read (integerText n) with
      | .ok value => .ok value
      | .error cause => .error (.cell (.unreadable (integerText n) f.declaredType f.name cause)
        (cellPlace schema sheet row f)) := by
  have apart : ∀ p ∈ integerTypes, p ∉ textTypes := by decide
  obtain ⟨trimmed, nonempty⟩ := (isDecimal_integerText n short).trimmed
  have plain : trim (row.raw f.name) = integerText n := by rw [stored, trim_eq_self trimmed]
  have filled : trim (row.raw f.name) ≠ "" := by
    rw [plain]
    rintro blank
    rw [blank] at nonempty
    exact nonempty rfl
  have noText : ∀ q ∈ textTypes, ¬HasPrimitive f q := by
    intro q isText other
    obtain rfl := primitive.unique other
    exact apart p isInteger isText
  cases read : p.read (integerText n) with
  | ok value => rw [coerceValue_primitive noText primitive filled, plain, read]
  | error cause => rw [coerceValue_primitive noText primitive filled, plain, read]

end Reading

/-- The grid has the decimal text of an integer, in whichever form a cell holds it. A field with a type of
integers coerces this text to the integer when its type holds it, and refuses the cell otherwise, naming the
nearest integer that the type holds. -/
theorem integerCell_roundTrip (n : Int) (short : n.natAbs < 10 ^ digitLimit) :
    (∀ v, HoldsInteger n v → v.gridText = .ok (toString n)) ∧
      ∀ (schema sheet : String) (f : Field) (row : DataRow), ∀ p ∈ integerTypes, HasPrimitive f p →
        row.raw f.name = toString n →
        (p.Holds n → coerceValue schema sheet f row = .ok (.int n)) ∧
        (¬p.Holds n → ∃ bound, p.Holds bound ∧ (∀ m, p.Holds m → (n - bound).natAbs ≤ (n - m).natAbs) ∧
          coerceValue schema sheet f row = .error (.cell (.unreadable (toString n) f.declaredType f.name
            (if n < bound then .below n bound else .above n bound)) (cellPlace schema sheet row f))) := by
  rw [← integerText_eq_toString]
  refine ⟨fun v holds => holds.gridText_eq short, ?_⟩
  intro schema sheet f row p isInteger primitive stored
  obtain ⟨taken, refused⟩ := read_integerText isInteger short
  rw [coerceValue_integerText primitive isInteger short stored]
  refine ⟨fun holds => by rw [taken holds], fun outside => ?_⟩
  obtain ⟨bound, held, nearest, failed⟩ := refused outside
  exact ⟨bound, held, nearest, by rw [failed]⟩

/-- A field of a type of integers. -/
def numberField (p : Primitive) : Field :=
  { name := "serial", column := 0, declaredType := p.name, comment := "", enumeration := none, enumBody := "" }

/-- A row with the first integer that is too large for eight signed bytes. -/
def largeRow : DataRow := { number := 4, values := [("serial", "9223372036854775808")] }

/-- A double with eleven zeros behind its significand, and an integer, have the same text; without a sign eight
bytes hold it, and with a sign they do not. -/
theorem integerCell_roundTrip_large :
    (Value.float (.finite false (2 ^ 52) 11)).gridText = .ok "9223372036854775808" ∧
      (Value.cell (.single (.finite false (2 ^ 52) 11))).gridText = (Value.int (2 ^ 63)).gridText ∧
      coerceValue "Armory" "Weapon" (numberField .ulong) largeRow = .ok (.int (2 ^ 63)) ∧
      coerceValue "Armory" "Weapon" (numberField .long) largeRow = .error (.cell
        (.unreadable "9223372036854775808" "long" "serial" (.above (2 ^ 63) (2 ^ 63 - 1)))
        { file := "Armory", sheet := "Weapon", row := 4, column := 0 }) := by
  have few : (2 ^ 63 : Int).natAbs < 10 ^ 20 := by decide
  have short : (2 ^ 63 : Int).natAbs < 10 ^ digitLimit :=
    Nat.lt_of_lt_of_le few (Nat.pow_le_pow_right (by decide) (by decide))
  have equal : Double.rational? (.finite false (2 ^ 52) 11) = some ((2 ^ 63 : Int) : ℚ) := by
    norm_num [Double.rational?]
  have written : toString (2 ^ 63 : Int) = "9223372036854775808" := by decide
  obtain ⟨texts, fields⟩ := integerCell_roundTrip (2 ^ 63) short
  have unsigned := (fields "Armory" "Weapon" (numberField .ulong) largeRow .ulong (by decide) ⟨rfl, rfl⟩ rfl).1
  have signed := (fields "Armory" "Weapon" (numberField .long) largeRow .long (by decide) ⟨rfl, rfl⟩ rfl).2
  refine ⟨?_, ?_, unsigned (by unfold Primitive.Holds; omega), ?_⟩
  · rw [texts _ (.float equal), written]
  · rw [texts _ (.single equal), texts _ .int]
  · obtain ⟨bound, held, nearest, failed⟩ := signed (by unfold Primitive.Holds; omega)
    have limit : bound = 2 ^ 63 - 1 := by
      have close := nearest (2 ^ 63 - 1) (by unfold Primitive.Holds; omega)
      unfold Primitive.Holds at held
      omega
    rw [failed, limit, written]
    rfl

end TypedSheets
