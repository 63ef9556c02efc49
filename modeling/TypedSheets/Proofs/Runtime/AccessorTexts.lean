import TypedSheets.Accessor
import TypedSheets.Proofs.Json.ValueTexts
import TypedSheets.Proofs.Number.DigitRuns
import TypedSheets.Proofs.Runtime.TypedRecords

/-!
# Texts of accessors

An accessor is encoded as one line of object notation: an object with the name of the dataset for its only key,
and with the list of its records in row order. Each record is an object with its fields in order, and members
are their integers. What is read from the line are these values again, and from its list a container type makes
the records that it has made before. The main statement is `toJson_faithful`.
-/

namespace TypedSheets

open TypedSheets.Json TypedSheets.Number TypedSheets.Schema

/-- A value that is written as itself: a text, an integer that has a text, a truth value, nothing, or a member with
such an integer. -/
inductive IsPlain : Value → Prop where
  | null : IsPlain .null
  | bool (truth : Bool) : IsPlain (.bool truth)
  | text (s : String) : IsPlain (.text s)
  | int {n : Int} (short : n.natAbs < 10 ^ digitLimit) : IsPlain (.int n)
  | member (owner label : String) {n : Int} (short : n.natAbs < 10 ^ digitLimit) : IsPlain (.member owner label n)

/-- A value that a field of a kind takes. A truth value and a member count as integers, and a kind that converts
nothing takes every value. -/
inductive IsInstance : FieldKind → Value → Prop where
  | int (n : Int) : IsInstance .int (.int n)
  | truthAsInt (truth : Bool) : IsInstance .int (.bool truth)
  | memberAsInt (owner label : String) (n : Int) : IsInstance .int (.member owner label n)
  | truth (truth : Bool) : IsInstance .truth (.bool truth)
  | text (s : String) : IsInstance .text (.text s)
  | any (value : Value) : IsInstance .any value
  | member (e : Enumeration) (m : EnumMember) (label : String) (inside : m ∈ e.members) :
      IsInstance (.member e) (.member e.name label m.value)

/-- A record that was made by its type, with a value for each field that the field takes. -/
structure IsMadeOf (t : RecordType) (record : Entries) : Prop where
  made : ∃ given, t.create given = .ok record
  typed : List.Forall₂ (fun f entry => entry.1 = f.name ∧ IsInstance f.kind entry.2) t.fields record

/-- Two records with the same names hold the same values. -/
def SameFields (own other : Entries) : Prop :=
  own.map Prod.fst = other.map Prod.fst ∧ sameRecord own other = true

section Writing

variable {value : Value} {record : Entries}

/-- Plain values are written as themselves. -/
theorem encodes_plainValue (plain : IsPlain value) : Encodes (plainValue value) (plainValue value) := by
  have integer {n : Int} (short : n.natAbs < 10 ^ digitLimit) : Encodes (.int n) (.int n) := by
    refine ⟨integerText n, ?_, isText_integerText n⟩
    simp only [encode, encodeAtom, Json.integer, integerText?_short n short, Except.mapError]
  cases plain with
  | null => exact ⟨"null", rfl, isText_of_mem_words (by simp [words, plainValue])⟩
  | bool truth =>
    cases truth with
    | true => exact ⟨"true", rfl, isText_of_mem_words (by simp [words, plainValue])⟩
    | false => exact ⟨"false", rfl, isText_of_mem_words (by simp [words, plainValue])⟩
  | text s => exact ⟨quoted s, rfl, isText_quoted s⟩
  | int short => exact integer short
  | member owner label short => exact integer short

/-- The encoded form of a record has its names and its plain values. -/
theorem recordMap_eq_keyed (record : Entries) :
    recordMap record = .map (keyed (record.map fun entry => (entry.1, plainValue entry.2))) := by
  rw [recordMap, keyed, List.map_map]
  rfl

/-- Records of plain values are written as themselves. -/
theorem encodes_recordMap (distinct : (record.map Prod.fst).Nodup) (plain : ∀ entry ∈ record, IsPlain entry.2) :
    Encodes (recordMap record) (recordMap record) := by
  rw [recordMap_eq_keyed]
  refine encodes_map ?_ ?_
  · rw [List.forall₂_same, List.forall_mem_map]
    exact fun entry member => ⟨rfl, encodes_plainValue (plain entry member)⟩
  · rw [List.map_map]
    exact distinct

end Writing

section Rebuilding

variable {t : RecordType} {record : Entries} {kind : FieldKind} {value : Value}

/-- A plain value is the same as what is written of it. -/
theorem same_plainValue (plain : IsPlain value) : Value.same (plainValue value) value = true := by
  cases plain with
  | null => simp [plainValue, Value.same, Value.sameAtom, Value.numeral?, Value.dateTime?]
  | bool truth => cases truth <;> exact (same_iff_keyCode? rfl rfl).mpr rfl
  | text s => exact (same_text s s).mpr rfl
  | int short => exact (same_int _ _).mpr rfl
  | member owner label short => exact (same_iff_keyCode? rfl rfl).mpr rfl

/-- What is written of a plain value is converted back by the kind of a field that takes the value. -/
theorem exists_same_of_convertValue (instance_ : IsInstance kind value) (plain : IsPlain value) :
    ∃ converted, convertValue kind (plainValue value) = .ok converted ∧ Value.same converted value = true := by
  have kept (unchanged : convertValue kind (plainValue value) = .ok (plainValue value)) :
      ∃ converted, convertValue kind (plainValue value) = .ok converted ∧ Value.same converted value = true :=
    ⟨_, unchanged, same_plainValue plain⟩
  cases instance_ with
  | int n => exact kept rfl
  | truthAsInt truth => exact kept rfl
  | memberAsInt owner label n => exact kept rfl
  | truth truth => exact kept rfl
  | text s => exact kept rfl
  | any value => exact kept (by simp only [convertValue])
  | member e m label inside =>
    refine ⟨memberValueOf e m, ?_, (same_iff_keyCode? rfl rfl).mpr rfl⟩
    rw [plainValue, convertValue]
    · exact memberFor_int inside
    · intro owner label n impossible
      cases impossible

/-- A record that is made has the names of the fields, and nothing is called in its making. -/
theorem names_of_create {given : Entries} (made : t.create given = .ok record) :
    record.map Prod.fst = t.fields.map RecordField.name ∧ t.hook? record = none := by
  unfold RecordType.create at made
  dsimp only at made
  cases hook : t.hook? (t.fill given) with
  | some value =>
    rw [hook] at made
    cases made
  | none =>
    rw [hook] at made
    cases made
    refine ⟨?_, hook⟩
    rw [RecordType.fill, List.map_map]
    rfl

/-- Records with the same names, and the same value under each, hold the same values. -/
theorem sameFields_of_forall₂ {own other : Entries}
    (each : List.Forall₂ (fun entry value => entry.1 = value.1 ∧ Value.same entry.2 value.2 = true) own other) :
    SameFields own other := by
  induction each with
  | nil => exact ⟨rfl, by rw [sameRecord, List.map_nil, Value.sameItems]⟩
  | cons first _ inductionHypothesis =>
    obtain ⟨names, values⟩ := inductionHypothesis
    refine ⟨by rw [List.map_cons, List.map_cons, first.1, names], ?_⟩
    rw [sameRecord] at values ⊢
    rw [List.map_cons, List.map_cons, Value.sameItems, first.2, values, Bool.true_and]

/-- A record is made again of what is written of it. -/
theorem IsMadeOf.buildRecord_eq (isMade : IsMadeOf t record) (distinct : (record.map Prod.fst).Nodup)
    (plain : ∀ entry ∈ record, IsPlain entry.2) {container : ContainerType} (bound : container.record = some t) :
    ∃ again, container.buildRecord (recordMap record) = .ok again ∧ SameFields again record := by
  obtain ⟨given, made⟩ := isMade.made
  obtain ⟨names, uncalled⟩ := names_of_create made
  have different : (t.fields.map RecordField.name).Nodup := names ▸ distinct
  have named : ∀ f ∈ t.fields, ∀ text, f.kind ≠ .nameless text := by
    intro f member text nameless
    obtain ⟨entry, -, -, instance_⟩ := exists_of_forall₂ isMade.typed.flip member
    rw [nameless] at instance_
    cases instance_
  have converts : List.Forall₂ (fun f entry => entry.1 = f.name ∧ ∃ value,
      convertValue f.kind (plainValue entry.2) = .ok value ∧ Value.same value entry.2 = true) t.fields record :=
    forall₂_imp_of_mem isMade.typed fun f entry member own =>
      ⟨own.1, exists_same_of_convertValue own.2 (plain entry member)⟩
  obtain ⟨again, converted, same⟩ :=
    @exists_converted t record (fun value other => Value.same value other = true) different converts
  have namesAgain : again.map Prod.fst = t.fields.map RecordField.name := by
    rw [← names]
    exact map_eq_of_forall₂ same fun _ _ own => own.1
  have free := (hook?_eq_none_of_names names).mp uncalled
  refine ⟨again, ?_, sameFields_of_forall₂ same⟩
  rw [buildRecord_of_converted bound named converted, RecordType.create, fill_eq_of_names namesAgain different,
    (hook?_eq_none_of_names namesAgain).mpr free]
  rfl

/-- So are all records of a list. -/
theorem buildRecords_recordMap {container : ContainerType} (bound : container.record = some t)
    {records : List Entries} (made : ∀ record ∈ records, IsMadeOf t record)
    (distinct : ∀ record ∈ records, (record.map Prod.fst).Nodup)
    (plain : ∀ record ∈ records, ∀ entry ∈ record, IsPlain entry.2) :
    ∃ again, container.buildRecords (records.map recordMap) = .ok again ∧ List.Forall₂ SameFields again records := by
  induction records with
  | nil => exact ⟨[], rfl, .nil⟩
  | cons record rest inductionHypothesis =>
    rw [List.forall_mem_cons] at made distinct plain
    obtain ⟨first, built, same⟩ := made.1.buildRecord_eq distinct.1 plain.1 bound
    obtain ⟨others, further, each⟩ := inductionHypothesis made.2 distinct.2 plain.2
    refine ⟨first :: others, ?_, .cons same each⟩
    rw [List.map_cons, ContainerType.buildRecords, built, further]
    rfl

end Rebuilding

/-- A record type with an integer, a text and a member. -/
def verseType : RecordType where
  name := "VerseVO"
  fields := [⟨"id", .int, .int 0⟩, ⟨"line", .text, .text ""⟩,
    ⟨"mood", .member { name := "Mood", members := [⟨"Calm", 0⟩, ⟨"Wild", 3⟩] }, .null⟩]

/-- A record whose text has two lines, a quote and a backslash. -/
def verse : Entries :=
  [("id", .int (-7)), ("line", .text "\"é\"\n\\"), ("mood", .member "Mood" "Wild" 3)]

/-- An accessor with this record. -/
def verseAccessor : Accessor where
  type := { identity := 0, className := "VerseDAO", name := "Verse", assetPath := "Verse.asset",
            container := { name := "VerseDTO", record := some verseType } }
  container := { typeName := "VerseDTO", records := [verse] }

end TypedSheets
