import TypedSheets.Generated.RecordModule
import TypedSheets.Proofs.Generated.EnumModules

/-!
# The fields of generated classes

A field is known inside its class under the normal form of its name, with the name of the class in
front when it is private. As long as these names differ, a class that loads has the fields of its
sheet in order; otherwise it has fewer.
-/

namespace TypedSheets.Generated

open TypedSheets.Emission TypedSheets.Schema TypedSheets.Text

/-- What a class calls a field of a sheet. -/
def nameInClass (owner : String) (f : Field) : String := nameWithin owner (normalForm f.name)

/-- What a class says of a field besides its default. -/
def ClassField.declared (f : ClassField) : String × String := (f.name, f.typeName)

/-- A field that is put among others replaces the one of its name, or becomes the last one. -/
theorem putField_cases (field : ClassField) (done : List ClassField) :
    (field.name ∉ done.map ClassField.name ∧ putField field done = done ++ [field]) ∨
      (field.name ∈ done.map ClassField.name ∧
        (putField field done).map ClassField.name = done.map ClassField.name) := by
  induction done with
  | nil => exact .inl ⟨List.not_mem_nil, rfl⟩
  | cons other rest inductionHypothesis =>
    rw [putField]
    by_cases same : other.name = field.name
    · rw [if_pos same, List.map_cons, List.map_cons, same]
      exact .inr ⟨List.mem_cons_self, rfl⟩
    · rw [if_neg same, List.map_cons, List.mem_cons, not_or, List.map_cons]
      rcases inductionHypothesis with ⟨fresh, appended⟩ | ⟨known, kept⟩
      · exact .inl ⟨⟨Ne.symm same, fresh⟩, by rw [appended, List.cons_append]⟩
      · exact .inr ⟨.inr known, by rw [kept]⟩

/-- One step of the definition of a class. -/
theorem classFields_cons {owner : String} {imported : List Enumeration} {done all : List ClassField}
    {f : Field} {rest : List Field} (ran : classFields owner imported done (f :: rest) = .ok all) :
    ∃ default, classFields owner imported
      (putField ⟨nameInClass owner f, default, normalForm ( annotation f)⟩ done) rest = .ok all := by
  unfold classFields at ran
  obtain ⟨default, _, further⟩ := bind_eq_ok ran
  dsimp only at further
  split at further
  · cases further
  · exact ⟨default, further⟩

/-- The fields of a class are those of the sheet, or some share a name and there are fewer. -/
theorem classFields_cases {owner : String} {imported : List Enumeration} {fields : List Field}
    {done all : List ClassField} (ran : classFields owner imported done fields = .ok all) :
    all.map ClassField.declared = done.map ClassField.declared ++
        fields.map (fun f => (nameInClass owner f, normalForm ( annotation f))) ∨
      (all.length < done.length + fields.length ∧
        ¬(done.map ClassField.name ++ fields.map (nameInClass owner)).Nodup) := by
  induction fields generalizing done with
  | nil =>
    cases ran
    exact .inl (List.append_nil _).symm
  | cons f rest inductionHypothesis =>
    obtain ⟨default, further⟩ := classFields_cons ran
    have later := inductionHypothesis further
    generalize declaration : ClassField.mk (nameInClass owner f) default
      (normalForm ( annotation f)) = field at later
    have name : nameInClass owner f = field.name := by rw [← declaration]
    have declared : field.declared = (nameInClass owner f, normalForm ( annotation f)) := by
      rw [← declaration]
      rfl
    rw [List.map_cons, List.map_cons, List.length_cons, name]
    rcases putField_cases field done with ⟨_, appended⟩ | ⟨known, kept⟩
    · rw [appended, List.map_append, List.map_append, List.length_append, List.append_assoc,
        List.append_assoc] at later
      rcases later with same | ⟨fewer, repeated⟩
      · refine .inl (same.trans ?_)
        rw [List.map_singleton, declared, name, List.singleton_append]
      · refine .inr ⟨?_, repeated⟩
        rw [List.length_singleton] at fewer
        omega
    · refine .inr ⟨?_, fun distinct => ?_⟩
      · have length : (putField field done).length = done.length := by
          simpa using congrArg List.length kept
        rcases later with same | ⟨fewer, _⟩
        · have total := congrArg List.length same
          rw [List.length_append, List.length_map, List.length_map, List.length_map] at total
          omega
        · omega
      · exact (List.nodup_append.mp distinct).2.2 _ known _ List.mem_cons_self rfl

/-- The fields of a class have different names. -/
theorem nodup_classFields {owner : String} {imported : List Enumeration} {fields : List Field}
    {done all : List ClassField} (ran : classFields owner imported done fields = .ok all)
    (distinct : (done.map ClassField.name).Nodup) : (all.map ClassField.name).Nodup := by
  induction fields generalizing done with
  | nil =>
    cases ran
    exact distinct
  | cons f rest inductionHypothesis =>
    obtain ⟨default, further⟩ := classFields_cons ran
    refine inductionHypothesis further ?_
    rcases putField_cases ⟨nameInClass owner f, default, normalForm ( annotation f)⟩ done with
      ⟨fresh, appended⟩ | ⟨_, kept⟩
    · rw [appended, List.map_append, List.map_singleton, ← List.concat_eq_append]
      exact distinct.concat fresh
    · rw [kept]
      exact distinct

/-- What the class of a sheet is defined with, and how it becomes a record type. -/
structure IsClassOf (d : Description) (enums : List Enumeration) (fields : List ClassField)
    (t : RecordType) : Prop where
  defined : classFields (recordName d.sheet) ((enumImports d).filterMap (importEnumeration? enums)) []
    d.fields = .ok fields
  name : t.name = recordName d.sheet
  fields : t.fields.map (fun f => (f.name, f.kind)) = fields.map fun f => (f.name,
    kindNamed (recordName d.sheet) ((enumImports d).filterMap (importEnumeration? enums)) fields
      f.typeName)

/-- A record module that loads defines its class with what the enumeration module gives. -/
theorem loadRecordModule_ok {base : String} {defined : Except LoadError (List Enumeration)}
    {d : Description} {t : RecordType} (loaded : loadRecordModule base defined d = .ok t) :
    ∃ enums fields, (enumImports d ≠ [] → defined = .ok enums) ∧ IsClassOf d enums fields t := by
  unfold loadRecordModule at loaded
  dsimp only at loaded
  split at loaded
  · cases loaded
  · obtain ⟨imported, given, empty, further⟩ := bind_ite_eq_ok loaded
    have known : ∃ enums, (enumImports d ≠ [] → defined = .ok enums) ∧
        imported = (enumImports d).filterMap (importEnumeration? enums) := by
      by_cases none : enumImports d = []
      · refine ⟨[], fun some => absurd none some, ?_⟩
        rw [none]
        exact empty (by rw [none]; rfl)
      · have mapped := given (by rwa [List.isEmpty_iff])
        cases defined with
        | error e => cases mapped
        | ok enums =>
          cases mapped
          exact ⟨enums, fun _ => rfl, rfl⟩
    obtain ⟨enums, module, rfl⟩ := known
    obtain ⟨fields, defines, more⟩ := bind_eq_ok further
    obtain ⟨_, _, ended⟩ := bind_eq_ok more
    split at ended
    · cases ended
    · obtain ⟨_, _, last⟩ := bind_eq_ok ended
      cases last
      refine ⟨enums, fields, module, defines, rfl, ?_⟩
      rw [List.map_map]
      rfl

end TypedSheets.Generated
