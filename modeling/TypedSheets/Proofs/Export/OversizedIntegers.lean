import TypedSheets.Asset
import TypedSheets.Proofs.Export.CellValues
import TypedSheets.Proofs.Export.Coercions
import TypedSheets.Proofs.Number.DigitRuns
import TypedSheets.Proofs.Outcomes
import TypedSheets.Proofs.Schema.FieldResolution
import TypedSheets.Proofs.Schema.WrittenMembers

/-!
# Integers without decimal text

A member of an enumeration may have more decimal digits than are converted: a hexadecimal literal has as
many digits as it likes, and a member without literal counts on. Such a body is read like any other, so
no sheet is refused for it. But the integer has no text, so the enumeration module cannot be rendered, nor
the asset of a sheet that names the member. Nothing else stands in the way of either.
-/

namespace TypedSheets

open TypedSheets.Emission TypedSheets.Grid TypedSheets.Number TypedSheets.Schema TypedSheets.Text

/-- An integer has more decimal digits than are converted. The power is never to be computed. -/
@[irreducible]
def IsOversized (n : Int) : Prop := 10 ^ digitLimit ≤ n.natAbs

/-- A workbook declares an enumeration with a member that has no decimal text. -/
def EnumsOversized (w : Workbook) : Prop :=
  ∃ entry ∈ collectEnums w, ∃ m ∈ entry.2.members, IsOversized m.value

/-- The rows of a sheet coerce, and one of their values has no decimal text. -/
def RecordsOversized (d : Description) : Prop :=
  ∃ records, buildRecords d = .ok records ∧
    ∃ entries ∈ records, ∃ entry ∈ entries, ∃ n, entry.2 = .int n ∧ IsOversized n

/-- An integer has a decimal text unless it has too many digits. -/
theorem fault?_integerText? (n : Int) : fault? (integerText? n) = some {} ↔ IsOversized n := by
  unfold integerText? IsOversized
  generalize digitLimit = limit
  rw [fault?_eq_some]
  split
  · next short => exact iff_of_false (by simp) (Nat.not_le_of_lt short)
  · next long => exact iff_of_true rfl (Nat.le_of_not_lt long)

/-- Integers of primitive types have few digits. -/
theorem not_isOversized_of_small {n : Int} (small : n.natAbs ≤ 10 ^ 20) : ¬IsOversized n := by
  have fewer : 10 ^ 20 < 10 ^ digitLimit := Nat.pow_lt_pow_right (by decide) (by decide)
  rw [IsOversized, Nat.not_le]
  exact Nat.lt_of_le_of_lt small fewer

/-- There are bodies with such members: reading a body sets no limit. -/
theorem exists_oversized_body (name : String) :
    ∃ body e, readEnumBody name body = .ok e ∧ ∃ m ∈ e.members, IsOversized m.value := by
  unfold IsOversized
  generalize 10 ^ digitLimit = n
  have below : n < 16 ^ (n + 1) :=
    (Nat.lt_pow_self (by decide)).trans (Nat.pow_lt_pow_succ (by decide))
  exact ⟨_, _, readEnumBody_hexadecimal name n.succ_pos below, _, List.mem_singleton_self _, le_refl n⟩

section Modules

variable {target : Destination} {w : Workbook} {p : Path} {descriptions : List Description}

/-- The lines of an enumeration fail with the first of its members. -/
theorem fault?_enumLines (e : Enumeration) :
    fault? (enumLines e) = e.members.findSome? fun m => fault? (integerText? m.value) := by
  have members := fault?_mapM (fun m : EnumMember =>
    (integerText? m.value).map fun digits => SourceLine.code 1 (m.name ++ " = " ++ digits)) e.members
  simp only [fault?_map] at members
  rw [← members, enumLines, fault?_bind]
  split
  · next texts written => rw [written]; rfl
  · next cause failed => rw [failed]; rfl

theorem fault?_enumModule (enums : List Enumeration) :
    fault? (enumModule enums) =
      enums.findSome? fun e => e.members.findSome? fun m => fault? (integerText? m.value) := by
  have classes := fault?_mapM enumLines enums
  simp only [fault?_enumLines] at classes
  rw [← classes, enumModule]
  cases enums.mapM enumLines <;> rfl

/-- The modules of a file as a whole are rendered unless a member of its enumerations is oversized. -/
theorem fault?_fileArtifacts (described : ∀ d ∈ descriptions, d ∈ accepted w) :
    fault? (fileArtifacts target w.name p ((collectEnums w).map Prod.snd) descriptions) = some {} ↔
      EnumsOversized w := by
  have rendered : fault? (fileArtifacts target w.name p ((collectEnums w).map Prod.snd) descriptions) =
      fault? (enumModule ((collectEnums w).map Prod.snd)) := by
    rw [fileArtifacts, emittedEnums_accepted described]
    cases enumModule ((collectEnums w).map Prod.snd) <;> rfl
  rw [rendered, fault?_enumModule, List.findSome?_map]
  constructor
  · intro failed
    obtain ⟨entry, member, failed⟩ := List.exists_of_findSome?_eq_some failed
    obtain ⟨m, own, failed⟩ := List.exists_of_findSome?_eq_some failed
    exact ⟨entry, member, m, own, (fault?_integerText? m.value).mp failed⟩
  · rintro ⟨entry, member, m, own, oversized⟩
    have failed := (fault?_integerText? m.value).mpr oversized
    cases first : (collectEnums w).findSome? _ with
    | some cause => rfl
    | none =>
      have none := List.findSome?_eq_none_iff.mp (List.findSome?_eq_none_iff.mp first entry member) m own
      rw [failed] at none
      cases none

end Modules

section Assets

/-- A record has a text when each of its values has. -/
theorem fault?_entryChars (indent : Nat) (key : String) (value : Value) :
    fault? (entryChars indent key value) = fault? (scalarForm value) := by
  unfold entryChars
  cases scalarForm value <;> rfl

theorem fault?_furtherEntries (entries : Entries) :
    fault? (furtherEntries entries) = entries.findSome? fun entry => fault? (scalarForm entry.2) := by
  induction entries with
  | nil => rfl
  | cons entry rest inductionHypothesis =>
    rw [furtherEntries, List.findSome?_cons, ← inductionHypothesis, ← fault?_entryChars 2 entry.1]
    cases entryChars 2 entry.1 entry.2 with
    | error e => rfl
    | ok own => cases furtherEntries rest <;> rfl

theorem fault?_recordChars (entries : Entries) :
    fault? (recordChars entries) = entries.findSome? fun entry => fault? (scalarForm entry.2) := by
  cases entries with
  | nil => rfl
  | cons entry rest =>
    rw [recordChars, List.findSome?_cons, ← fault?_furtherEntries, ← fault?_entryChars 2 entry.1]
    cases entryChars 2 entry.1 entry.2 with
    | error e => rfl
    | ok own => cases furtherEntries rest <;> rfl

theorem fault?_recordsChars (records : List Entries) :
    fault? (recordsChars records) =
      records.findSome? fun entries => entries.findSome? fun entry => fault? (scalarForm entry.2) := by
  induction records with
  | nil => rfl
  | cons entries rest inductionHypothesis =>
    rw [recordsChars, List.findSome?_cons, ← inductionHypothesis, ← fault?_recordChars]
    cases recordChars entries with
    | error e => rfl
    | ok own => cases recordsChars rest <;> rfl

/-- The text of an asset fails with the first value of its records that has none. -/
theorem fault?_assetText (a : Asset) :
    fault? a.text =
      a.records.findSome? fun entries => entries.findSome? fun entry => fault? (scalarForm entry.2) := by
  rw [← fault?_recordsChars, Asset.text]
  cases a.records with
  | nil => rfl
  | cons first rest => cases recordsChars (first :: rest) <;> rfl

/-- What a cell is read as: a text, an integer, a number or a truth value. -/
inductive IsCoerced : Value → Prop
  | text (s : String) : IsCoerced (.text s)
  | int (n : Int) : IsCoerced (.int n)
  | float (x : Double) : IsCoerced (.float x)
  | bool (truth : Bool) : IsCoerced (.bool truth)

seal integerText? in
theorem fault?_scalarForm_int (n : Int) :
    fault? (scalarForm (.int n)) = (fault? (integerText? n)).map .oversized := by
  unfold scalarForm
  cases text : integerText? n <;> simp only [text] <;> rfl

/-- Of these only integers can be without text. -/
theorem IsCoerced.fault?_scalarForm {value : Value} (coerced : IsCoerced value) {e : AssetError} :
    fault? (scalarForm value) = some e ↔ e = .oversized {} ∧ ∃ n, value = .int n ∧ IsOversized n := by
  cases coerced with
  | int n =>
    rw [fault?_scalarForm_int, Option.map_eq_some_iff]
    constructor
    · rintro ⟨cause, failed, rfl⟩
      exact ⟨rfl, n, rfl, (fault?_integerText? n).mp failed⟩
    · rintro ⟨rfl, other, same, oversized⟩
      cases same
      exact ⟨{}, (fault?_integerText? n).mpr oversized, rfl⟩
  | _ =>
    apply iff_of_false
    · rintro ⟨⟩
    · rintro ⟨-, other, ⟨⟩, -⟩

end Assets

section Cells

variable {schema sheet : String} {fields : List Field}

/-- An integer of a primitive type is no long one. -/
theorem Schema.Primitive.Holds.not_isOversized {p : Primitive} {n : Int} (holds : p.Holds n) :
    ¬IsOversized n := by
  apply not_isOversized_of_small
  cases p <;> simp only [Primitive.Holds] at holds <;> omega

/-- A cell is read as a value of its type, or as the integer of a member of its enumeration. -/
theorem coerceValue_ok {f : Field} {row : DataRow} {value : Value}
    (read : coerceValue schema sheet f row = .ok value) :
    IsCoerced value ∧ ∀ n, value = .int n → IsOversized n →
      ∃ e, f.enumeration = some e ∧ ∃ m ∈ e.members, m.value = n := by
  cases coerceValue_eq_ok_iff.mp read with
  | text primitive isText => exact ⟨.text _, by simp⟩
  | @label e m before after enumeration filled members named first =>
    refine ⟨.int _, ?_⟩
    rintro _ ⟨⟩ -
    exact ⟨e, enumeration, m, by rw [members]; exact List.mem_append_right before List.mem_cons_self, rfl⟩
  | integer primitive number holds =>
    refine ⟨.int _, ?_⟩
    rintro _ ⟨⟩ oversized
    exact absurd oversized holds.not_isOversized
  | floating primitive isFloat readAs finite => exact ⟨.float _, by simp⟩
  | truth primitive isWord spelled => exact ⟨.bool _, by simp⟩

/-- A field of an accepted sheet is refused for its cell and nothing else. -/
theorem coerceValue_error {f : Field} (primitive : f.enumeration = none → isPrimitive f.declaredType = true)
    {row : DataRow} {e : CoercionError} (refused : coerceValue schema sheet f row = .error e) :
    ∃ cause place, e = .cell cause place := by
  have typed (plain : f.enumeration = none) : ∃ p, HasPrimitive f p := by
    obtain ⟨p, named⟩ := Option.isSome_iff_exists.mp (primitive plain)
    exact ⟨p, plain, ofName?_eq_some_iff.mp named⟩
  obtain ⟨cause, -, same⟩ := isRefused_of_coerceValue typed refused
  exact ⟨cause, _, same⟩

theorem coerceRow_error
    (primitive : ∀ f ∈ fields, f.enumeration = none → isPrimitive f.declaredType = true)
    {row : DataRow} {e : CoercionError} (refused : coerceRow schema sheet row fields = .error e) :
    ∃ cause place, e = .cell cause place := by
  obtain ⟨left, f, right, rfl, own, _⟩ := coerceRow_eq_error.mp refused
  exact coerceValue_error (primitive f (by simp)) own

theorem coerceRows_error
    (primitive : ∀ f ∈ fields, f.enumeration = none → isPrimitive f.declaredType = true)
    {rows : List DataRow} {e : CoercionError} (refused : coerceRows schema sheet fields rows = .error e) :
    ∃ cause place, e = .cell cause place := by
  obtain ⟨_, row, _, _, own, _⟩ := coerceRows_eq_error.mp refused
  exact coerceRow_error primitive own

end Cells

section Sheets

variable {w : Workbook} {d : Description}

/-- The rows of an accepted sheet coerce, or a cell stops them. -/
theorem buildRecords_of_accepted (described : d ∈ accepted w) :
    (∃ records, buildRecords d = .ok records) ∨
      ∃ cause place, buildRecords d = .error (.cell cause place) := by
  have primitive := (resolved_of_accepted described).1.primitive
  cases built : buildRecords d with
  | ok records => exact .inl ⟨records, rfl⟩
  | error e =>
    obtain ⟨cause, place, rfl⟩ := coerceRows_error primitive built
    exact .inr ⟨cause, place, rfl⟩

/-- A value of a record was read from a cell of some field. -/
theorem read_of_buildRecords {records : List Entries} (built : buildRecords d = .ok records)
    {entries : Entries} (member : entries ∈ records) {entry : String × Value} (own : entry ∈ entries) :
    ∃ f ∈ d.fields, ∃ row, coerceValue d.schema d.sheet f row = .ok entry.2 := by
  obtain ⟨row, -, coerced⟩ := exists_of_forall₂ (coerceRows_ok built) member
  obtain ⟨f, among, -, read⟩ := exists_of_forall₂ (coerceRow_ok coerced) own
  exact ⟨f, among, row, read⟩

/-- The asset of a sheet has a text unless a value of its records is oversized. -/
theorem fault?_sheetAsset {records : List Entries} (built : buildRecords d = .ok records) {e : AssetError} :
    fault? (sheetAsset d.sheet records).text = some e ↔ e = .oversized {} ∧ RecordsOversized d := by
  have coerced {entries : Entries} (member : entries ∈ records) {entry : String × Value}
      (own : entry ∈ entries) : IsCoerced entry.2 := by
    obtain ⟨f, -, row, read⟩ := read_of_buildRecords built member own
    exact (coerceValue_ok read).1
  rw [fault?_assetText]
  constructor
  · intro failed
    obtain ⟨entries, member, failed⟩ := List.exists_of_findSome?_eq_some failed
    obtain ⟨entry, own, failed⟩ := List.exists_of_findSome?_eq_some failed
    obtain ⟨same, oversized⟩ := (coerced member own).fault?_scalarForm.mp failed
    exact ⟨same, records, built, entries, member, entry, own, oversized⟩
  · rintro ⟨rfl, others, builtOthers, entries, member, entry, own, oversized⟩
    obtain rfl : others = records := by
      rw [built] at builtOthers
      exact (Except.ok.inj builtOthers).symm
    have failed := (coerced member own).fault?_scalarForm.mpr ⟨rfl, oversized⟩
    cases first : (sheetAsset d.sheet others).records.findSome? _ with
    | none =>
      have none := List.findSome?_eq_none_iff.mp first entries member
      have none := List.findSome?_eq_none_iff.mp none entry own
      rw [failed] at none
      cases none
    | some cause =>
      obtain ⟨entries, member, failed⟩ := List.exists_of_findSome?_eq_some first
      obtain ⟨entry, own, failed⟩ := List.exists_of_findSome?_eq_some failed
      rw [((coerced member own).fault?_scalarForm.mp failed).1]

/-- A sheet has such a value only where it names an oversized member of an enumeration. -/
theorem enumsOversized_of_records (described : d ∈ accepted w) (oversized : RecordsOversized d) :
    EnumsOversized w := by
  obtain ⟨records, built, entries, member, entry, own, n, value, long⟩ := oversized
  obtain ⟨f, among, row, read⟩ := read_of_buildRecords built member own
  obtain ⟨e, enumeration, m, inside, same⟩ := (coerceValue_ok read).2 n value long
  have known := (resolved_of_accepted described).2 f among e enumeration
  refine ⟨(e.name, e), mem_of_lookup known, m, inside, ?_⟩
  rw [same]
  exact long

end Sheets

end TypedSheets
