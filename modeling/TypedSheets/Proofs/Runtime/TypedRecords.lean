import Mathlib.Data.List.Forall2
import TypedSheets.Container
import TypedSheets.Proofs.Outcomes
import TypedSheets.Proofs.RelatedLists
import TypedSheets.Proofs.Runtime.KeyIndexes

/-!
# Records of one type

A record whose values are of the kinds of its fields is stored as plain values, and the record type
makes the same record of them again: integers become members of the enumerations that they came from.
It fails to only where a field has the name of a step in the making of records.
-/

namespace TypedSheets

open TypedSheets.Schema

/-- The names of fields that are called while a record is made. -/
def hookNames : List String := ["__setattr__", "__getattribute__", "__post_init__"]

/-- A value of a kind. -/
inductive HasKind : FieldKind → Value → Prop where
  | int (n : Int) : HasKind .int (.int n)
  | float (x : Number.Double) : HasKind .float (.float x)
  | sharedNan (source : NanSource) : HasKind .float (.sharedNan source)
  | truth (b : Bool) : HasKind .truth (.bool b)
  | text (s : String) : HasKind .text (.text s)
  | member (e : Enumeration) (m : EnumMember) (inside : m ∈ e.members) :
      HasKind (.member e) (memberValueOf e m)

/-- Entries hold a value of the right kind for each of some fields, in their order. -/
def HaveKinds (fields : List RecordField) (entries : Entries) : Prop :=
  List.Forall₂ (fun f entry => entry.1 = f.name ∧ HasKind f.kind entry.2) fields entries

/-- A record has a value of the right kind for each field of its type. -/
def HasType (t : RecordType) (record : Entries) : Prop := HaveKinds t.fields record

/-- Integers are equal when they are the same. -/
theorem same_int (a b : Int) : Value.same (.int a) (.int b) = true ↔ a = b := by
  rw [same_iff_keyCode? (x := .inr a) (y := .inr b) rfl rfl]
  simp

theorem same_text (a b : String) : Value.same (.text a) (.text b) = true ↔ a = b := by
  rw [same_iff_keyCode? (x := .inl a) (y := .inl b) rfl rfl]
  simp

/-- Members with one integer are one value. -/
theorem memberValueOf_eq {e : Enumeration} {m other : EnumMember} (inside : m ∈ e.members)
    (same : other.value = m.value) : memberValueOf e other = memberValueOf e m := by
  cases found : e.memberOf? m.value with
  | none =>
    have absent := List.find?_eq_none.mp found m inside
    simp at absent
  | some first =>
    rw [memberValueOf, memberValueOf, same, found]
    rfl

/-- The integer of a member leads back to the member. -/
theorem memberFor_int {e : Enumeration} {m : EnumMember} (inside : m ∈ e.members) :
    memberFor e (.int m.value) = .ok (memberValueOf e m) := by
  unfold memberFor
  cases found : e.members.find? fun other => Value.same (.int other.value) (.int m.value) with
  | none =>
    have absent := List.find?_eq_none.mp found m inside
    exact absurd ((same_int _ _).mpr rfl) absent
  | some other =>
    have same := (same_int _ _).mp (List.find?_some
      (p := fun other : EnumMember => Value.same (.int other.value) (.int m.value)) found)
    dsimp only
    rw [memberValueOf_eq inside same]

/-- A value that was stored is converted to what it was. -/
theorem convertValue_plainValue {kind : FieldKind} {value : Value} (hasKind : HasKind kind value) :
    convertValue kind (plainValue value) = .ok value := by
  cases hasKind with
  | int n => simp only [plainValue, convertValue]
  | float x => simp only [plainValue, convertValue]
  | sharedNan source => simp only [plainValue, convertValue]
  | truth b => simp only [plainValue, convertValue]
  | text s => simp only [plainValue, convertValue]
  | member e m inside =>
    rw [memberValueOf, plainValue, convertValue]
    · exact memberFor_int inside
    · intro owner label n impossible
      cases impossible

/-- The names of entries are those of the fields. -/
theorem HaveKinds.names_eq {fields : List RecordField} {entries : Entries}
    (haveKinds : HaveKinds fields entries) : entries.map Prod.fst = fields.map RecordField.name := by
  induction haveKinds with
  | nil => rfl
  | cons first _ inductionHypothesis =>
    rw [List.map_cons, List.map_cons, first.1, inductionHypothesis]

section Making

variable {t : RecordType} {record : Entries}

/-- Entries for the fields of a type, in their order, are converted one by one: what holds of each converted value
and the value that it comes from holds of the records. -/
theorem exists_converted {related : Value → Value → Prop} (distinct : (t.fields.map RecordField.name).Nodup)
    (each : List.Forall₂ (fun f entry => entry.1 = f.name ∧
      ∃ value, convertValue f.kind (plainValue entry.2) = .ok value ∧ related value entry.2) t.fields record) :
    ∃ converted, convertEntries t (record.map fun entry => (.text entry.1, plainValue entry.2)) = .ok converted ∧
      List.Forall₂ (fun own other => own.1 = other.1 ∧ related own.2 other.2) converted record := by
  have part (fields : List RecordField) (inside : ∀ f ∈ fields, f ∈ t.fields) (own : Entries)
      (converts : List.Forall₂ (fun f entry => entry.1 = f.name ∧
        ∃ value, convertValue f.kind (plainValue entry.2) = .ok value ∧ related value entry.2) fields own) :
      ∃ converted, convertEntries t (own.map fun entry => (.text entry.1, plainValue entry.2)) = .ok converted ∧
        List.Forall₂ (fun own other => own.1 = other.1 ∧ related own.2 other.2) converted own := by
    induction converts with
    | nil => exact ⟨[], rfl, .nil⟩
    | @cons f entry fields own first _ inductionHypothesis =>
      obtain ⟨name, value⟩ := entry
      obtain ⟨rfl, converted, own, holds⟩ := first
      have member := inside f List.mem_cons_self
      have declares : t.declares f.name = true :=
        List.any_eq_true.mpr ⟨f, member, beq_self_eq_true _⟩
      have kind : t.kindOf f.name = f.kind := by
        rw [RecordType.kindOf, NamedList.find?_of_distinct distinct member]
        rfl
      obtain ⟨others, further, related⟩ :=
        inductionHypothesis fun other later => inside other (List.mem_cons_of_mem f later)
      refine ⟨(f.name, converted) :: others, ?_, .cons ⟨rfl, holds⟩ related⟩
      rw [List.map_cons, convertEntries]
      dsimp only
      rw [if_pos declares, kind, own, further]
      rfl
  exact part t.fields (fun f member => member) record each

/-- Nothing has to be filled in where every field has a value. -/
theorem fill_eq_of_names (names : record.map Prod.fst = t.fields.map RecordField.name)
    (distinct : (t.fields.map RecordField.name).Nodup) : t.fill record = record := by
  rw [← names] at distinct
  have values : ∀ entry ∈ record, ∀ filling : Value,
      (entry.1, (record.lookup entry.1).getD filling) = entry := fun entry member filling => by
    rw [NamedList.lookup_of_distinct distinct member, Option.getD_some]
  have part (fields : List RecordField) (own : Entries) (inside : ∀ entry ∈ own, entry ∈ record)
      (same : own.map Prod.fst = fields.map RecordField.name) :
      fields.map (fun f => (f.name, (record.lookup f.name).getD f.filling)) = own := by
    induction fields generalizing own with
    | nil => exact (List.map_eq_nil_iff.mp same).symm
    | cons f fields inductionHypothesis =>
      cases own with
      | nil => cases same
      | cons entry own =>
        obtain ⟨name, others⟩ := List.cons.inj same
        rw [List.map_cons, ← name, values entry (inside entry List.mem_cons_self),
          inductionHypothesis own (fun other later => inside other (List.mem_cons_of_mem _ later)) others]
  exact part t.fields record (fun entry member => member) names

/-- Nothing is called in the making of a record exactly when no field has the name of a step. -/
theorem hook?_eq_none_of_names (names : record.map Prod.fst = t.fields.map RecordField.name) :
    t.hook? record = none ↔ ∀ f ∈ t.fields, f.name ∉ hookNames := by
  have last : "__post_init__" ∈ record.map Prod.fst ↔ ∃ f ∈ t.fields, f.name = "__post_init__" := by
    rw [names, List.mem_map]
  unfold RecordType.hook?
  cases found : t.fields.find? fun f => f.name == "__setattr__" || f.name == "__getattribute__" with
  | some f =>
    have hook := List.find?_some found
    simp only [Bool.or_eq_true, beq_iff_eq] at hook
    refine iff_of_false (by simp) fun free => ?_
    refine free f (List.mem_of_find?_eq_some found) ?_
    rcases hook with name | name <;> simp [hookNames, name]
  | none =>
    rw [List.find?_eq_none] at found
    simp only [Bool.or_eq_true, beq_iff_eq, not_or] at found
    dsimp only
    constructor
    · intro absent f member hook
      simp only [hookNames, List.mem_cons, List.not_mem_nil, or_false] at hook
      rcases hook with name | name | name
      · exact (found f member).1 name
      · exact (found f member).2 name
      · have present : "__post_init__" ∈ record.map Prod.fst := last.mpr ⟨f, member, name⟩
        rw [List.lookup_eq_none_iff] at absent
        obtain ⟨entry, inside, same⟩ := List.mem_map.mp present
        have differs := absent entry inside
        simp [same] at differs
    · intro free
      rw [List.lookup_eq_none_iff]
      intro entry inside
      rw [bne_iff_ne]
      intro same
      obtain ⟨f, member, name⟩ := last.mp (by rw [same]; exact List.mem_map_of_mem inside)
      exact free f member (by simp [hookNames, name])

/-- The kinds of the fields can be looked up when all of them have a name. -/
theorem checkKinds_of_named (named : ∀ f ∈ t.fields, ∀ text, f.kind ≠ .nameless text) :
    t.checkKinds = .ok () := by
  have part (fields : List RecordField) (each : ∀ f ∈ fields, ∀ text, f.kind ≠ .nameless text) :
      ({ t with fields } : RecordType).checkKinds = .ok () := by
    induction fields with
    | nil => rfl
    | cons f fields inductionHypothesis =>
      rw [List.forall_mem_cons] at each
      have others := inductionHypothesis each.2
      unfold RecordType.checkKinds at others ⊢
      dsimp only at others ⊢
      rw [List.forM, others]
      cases kind : f.kind with
      | nameless text => exact absurd kind (each.1 text)
      | _ => rfl
  exact part t.fields named

/-- A record is made of what its entries are converted to. -/
theorem buildRecord_of_converted {container : ContainerType} (bound : container.record = some t)
    (named : ∀ f ∈ t.fields, ∀ text, f.kind ≠ .nameless text) {given : Entries}
    (converted : convertEntries t (record.map fun entry => (.text entry.1, plainValue entry.2)) = .ok given) :
    container.buildRecord (recordMap record) = (t.create given).mapError .record := by
  unfold ContainerType.buildRecord
  simp only [recordMap, Value.opened, bound, checkKinds_of_named named, converted, Except.mapError, bind,
    Except.bind]

end Making

namespace HasType

variable {t : RecordType} {record : Entries}

/-- The stored values are converted to the record. -/
theorem convertEntries_eq (hasType : HasType t record)
    (distinct : (t.fields.map RecordField.name).Nodup) :
    convertEntries t (record.map fun entry => (.text entry.1, plainValue entry.2)) = .ok record := by
  have each : List.Forall₂ (fun f entry => entry.1 = f.name ∧
      ∃ value, convertValue f.kind (plainValue entry.2) = .ok value ∧ value = entry.2) t.fields record :=
    hasType.imp fun _ _ own => ⟨own.1, _, convertValue_plainValue own.2, rfl⟩
  obtain ⟨converted, ended, same⟩ := exists_converted distinct each
  have records : converted = record := by
    rw [← List.forall₂_eq_eq_eq]
    exact same.imp fun _ _ own => Prod.ext own.1 own.2
  rw [ended, records]

/-- Nothing is called in the making of a record exactly when no field has the name of a step. -/
theorem hook?_eq_none (hasType : HasType t record) :
    t.hook? record = none ↔ ∀ f ∈ t.fields, f.name ∉ hookNames :=
  hook?_eq_none_of_names (HaveKinds.names_eq hasType)

/-- No kind is without a name. -/
theorem named (hasType : HasType t record) : ∀ f ∈ t.fields, ∀ text, f.kind ≠ .nameless text := by
  intro f member text nameless
  obtain ⟨entry, -, -, hasKind⟩ := exists_of_forall₂ hasType.flip member
  rw [nameless] at hasKind
  cases hasKind

/-- The record is made of its values, -/
theorem create_eq (hasType : HasType t record) (distinct : (t.fields.map RecordField.name).Nodup)
    (free : ∀ f ∈ t.fields, f.name ∉ hookNames) : t.create record = .ok record := by
  rw [RecordType.create, fill_eq_of_names (HaveKinds.names_eq hasType) distinct, hasType.hook?_eq_none.mpr free]

/-- unless a field is called. -/
theorem create_error (hasType : HasType t record) (distinct : (t.fields.map RecordField.name).Nodup)
    (hooked : ¬∀ f ∈ t.fields, f.name ∉ hookNames) : ∃ e, t.create record = .error e := by
  rw [RecordType.create, fill_eq_of_names (HaveKinds.names_eq hasType) distinct]
  cases hook : t.hook? record with
  | none => exact absurd (hasType.hook?_eq_none.mp hook) hooked
  | some value => exact ⟨_, rfl⟩

/-- The plain values of a record are made into the record that they are of. -/
theorem buildRecord_eq (hasType : HasType t record)
    (distinct : (t.fields.map RecordField.name).Nodup) {container : ContainerType}
    (bound : container.record = some t) :
    container.buildRecord (recordMap record) = (t.create record).mapError .record :=
  buildRecord_of_converted bound hasType.named (hasType.convertEntries_eq distinct)

end HasType

namespace ContainerType

variable {container : ContainerType}

/-- A mapping gives the records of the entries of its list. -/
theorem fromAsset_of_lookup {entries : List (Value × Value)} {items : List Value}
    (list : Value.lookup? (.text "list") entries = some (.list items)) : container.fromAsset (.map entries) =
      (container.buildRecords items).map fun records => { typeName := container.name, records } := by
  unfold fromAsset
  simp only [Value.opened, list]
  cases items with
  | nil => rfl
  | cons item rest =>
    simp only [Value.isTruthy, List.isEmpty_cons, Bool.not_false, if_true, itemsOf, Value.opened,
      Except.mapError, bind, Except.bind]
    cases container.buildRecords (item :: rest) <;> rfl

/-- So does an asset. -/
theorem fromAsset_list (first second : Value) (items : List Value) :
    container.fromAsset (.map [(.text "name", first), (.text "record_type", second),
      (.text "list", .list items)]) =
        (container.buildRecords items).map fun records => { typeName := container.name, records } := by
  have name : Value.same (.text "name") (.text "list") = false :=
    Bool.eq_false_iff.mpr fun same => absurd ((same_text _ _).mp same) (by decide)
  have type : Value.same (.text "record_type") (.text "list") = false :=
    Bool.eq_false_iff.mpr fun same => absurd ((same_text _ _).mp same) (by decide)
  have own : Value.same (.text "list") (.text "list") = true := (same_text _ _).mpr rfl
  exact fromAsset_of_lookup (by simp [Value.lookup?, name, type, own])

/-- All plain records are made into what they are of, -/
theorem buildRecords_eq {t : RecordType} (bound : container.record = some t)
    (distinct : (t.fields.map RecordField.name).Nodup) {records : List Entries}
    (typed : ∀ record ∈ records, HasType t record) (free : ∀ f ∈ t.fields, f.name ∉ hookNames) :
    container.buildRecords (records.map recordMap) = .ok records := by
  induction records with
  | nil => rfl
  | cons record rest inductionHypothesis =>
    have hasType := typed record List.mem_cons_self
    rw [List.map_cons, buildRecords, hasType.buildRecord_eq distinct bound,
      hasType.create_eq distinct free,
      inductionHypothesis fun other later => typed other (List.mem_cons_of_mem record later)]
    rfl

/-- unless a field is called in the making of the first one. -/
theorem buildRecords_error {t : RecordType} (rest : List Entries) (bound : container.record = some t)
    (distinct : (t.fields.map RecordField.name).Nodup) {record : Entries}
    (hasType : HasType t record) (hooked : ¬∀ f ∈ t.fields, f.name ∉ hookNames) :
    ∃ e, container.buildRecords ((record :: rest).map recordMap) = .error e := by
  obtain ⟨e, failed⟩ := hasType.create_error distinct hooked
  rw [List.map_cons, buildRecords, hasType.buildRecord_eq distinct bound, failed]
  exact ⟨_, rfl⟩

/-- A record that is made has the names of its type, -/
theorem names_of_buildRecord {t : RecordType} (bound : container.record = some t) {item : Value}
    {record : Entries} (built : container.buildRecord item = .ok record) :
    record.map Prod.fst = t.fields.map RecordField.name := by
  unfold buildRecord at built
  split at built
  · rw [bound] at built
    obtain ⟨_, _, further⟩ := bind_eq_ok built
    obtain ⟨given, _, made⟩ := bind_eq_ok further
    unfold RecordType.create at made
    dsimp only at made
    split at made
    · cases made
    · cases made
      rw [RecordType.fill, List.map_map]
      rfl
  · cases built

theorem names_of_buildRecords {t : RecordType} (bound : container.record = some t)
    {items : List Value} {records : List Entries}
    (built : container.buildRecords items = .ok records) :
    ∀ record ∈ records, record.map Prod.fst = t.fields.map RecordField.name := by
  induction items generalizing records with
  | nil =>
    cases built
    intro record member
    cases member
  | cons item rest inductionHypothesis =>
    obtain ⟨first, made, further⟩ := bind_eq_ok built
    obtain ⟨others, later, ended⟩ := bind_eq_ok further
    cases ended
    intro record member
    rcases List.mem_cons.mp member with rfl | inside
    · exact names_of_buildRecord bound made
    · exact inductionHypothesis later record inside

/-- and so have the records of a container that comes from an asset. -/
theorem names_of_fromAsset {t : RecordType} (bound : container.record = some t) {payload : Value}
    {c : Container} (made : container.fromAsset payload = .ok c) :
    ∀ record ∈ c.records, record.map Prod.fst = t.fields.map RecordField.name := by
  have last {given : Except Failure (List Value)} (ran : (do
      let items ← given
      let records ← container.buildRecords items
      pure { typeName := container.name, records }) = Except.ok c) :
      ∀ record ∈ c.records, record.map Prod.fst = t.fields.map RecordField.name := by
    obtain ⟨items, _, further⟩ := bind_eq_ok ran
    obtain ⟨records, built, ended⟩ := bind_eq_ok further
    cases ended
    exact names_of_buildRecords bound built
  unfold fromAsset at made
  split at made
  · dsimp only at made
    split at made
    · exact last made
    · split at made
      · exact last made
      · exact last made
  · cases made

/-- A stored container is made again, -/
theorem fromAsset_records {t : RecordType} (bound : container.record = some t)
    (distinct : (t.fields.map RecordField.name).Nodup) {records : List Entries}
    (typed : ∀ record ∈ records, HasType t record) (first second : Value)
    (free : records = [] ∨ ∀ f ∈ t.fields, f.name ∉ hookNames) :
    container.fromAsset (.map [(.text "name", first), (.text "record_type", second),
      (.text "list", .list (records.map recordMap))]) =
        .ok { typeName := container.name, records } := by
  rw [fromAsset_list]
  rcases free with rfl | free
  · rfl
  · rw [buildRecords_eq bound distinct typed free]
    rfl

/-- or cannot be made when it has a record and a field of its type is called. -/
theorem fromAsset_error {t : RecordType} (bound : container.record = some t)
    (distinct : (t.fields.map RecordField.name).Nodup) {records : List Entries}
    (typed : ∀ record ∈ records, HasType t record) (first second : Value)
    (hooked : ¬(records = [] ∨ ∀ f ∈ t.fields, f.name ∉ hookNames)) :
    ∃ e, container.fromAsset (.map [(.text "name", first), (.text "record_type", second),
      (.text "list", .list (records.map recordMap))]) = .error e := by
  rw [not_or] at hooked
  cases records with
  | nil => exact absurd rfl hooked.1
  | cons record rest =>
    obtain ⟨e, failed⟩ := buildRecords_error rest bound distinct
      (typed record List.mem_cons_self) hooked.2
    rw [fromAsset_list, failed]
    exact ⟨e, rfl⟩

end ContainerType

end TypedSheets
