import TypedSheets.AssetFile
import TypedSheets.Coercion
import TypedSheets.Proofs.Files.Artifacts
import TypedSheets.Proofs.Text.EncodedText
import TypedSheets.Proofs.Yaml.AssetValues
import TypedSheets.Proofs.Yaml.IdentifierNames
import TypedSheets.Proofs.Yaml.WrittenCharacters

/-!
# Assets through their files

What is written for the records of a sheet is read back as the same records, with the same names in
the same order and values of the same types. Texts come back as they were, with one exception: the
next-line control, where single quotes carry it, is read as a line end and folded.
-/

namespace TypedSheets

open TypedSheets.Emission TypedSheets.Number TypedSheets.Text TypedSheets.Yaml

/-- A record of cell values under names that differ. -/
structure IsRecord (entries : Entries) : Prop where
  names : ∀ entry ∈ entries, IsName entry.1.toList
  values : ∀ entry ∈ entries, IsCellValue entry.2
  different : (entries.map Prod.fst).Nodup

/-- The text of an asset is a document whose value is the asset that comes back. -/
theorem readValue_assetText (a : Asset) (isName : IsName a.name.toList)
    (isType : IsName a.recordType.toList) (records : ∀ entries ∈ a.records, IsRecord entries) :
    ∃ text, a.text = .ok text ∧ '\r' ∉ text.toList ∧
      readValue text = .ok (returnedAsset a).toValue := by
  have writable : ∀ entries ∈ a.records, ∀ entry ∈ entries, Writable entry := fun entries present entry member =>
    writable_cell entry.1 entry.2 ((records entries present).names entry member)
      ((records entries present).values entry member)
  obtain ⟨text, written, own⟩ := survives_assetText a writable
  have admitted : text.toList.all isAdmitted = true :=
    List.all_eq_true.mpr fun x present => (Bool.and_eq_true_iff.mp (own x present)).1
  have noReturn : '\r' ∉ text.toList := fun present => absurd (own _ present) (by decide)
  have document : Document.ofText? text = .ok (some { nodes := (assetNodes a).toArray, root := 0 }) := by
    rw [Document.ofText?, if_pos admitted, tokens_assetText a text written writable, ofTokens?_asset]
  refine ⟨text, written, noReturn, ?_⟩
  rw [readValue, document]
  exact value_asset a isName isType (fun entries present => (records entries present).values)
    fun entries present => (records entries present).different

/-- The bytes of a text are that text again. -/
theorem text_bytes (text : String) (noReturn : '\r' ∉ text.toList) :
    (FileContent.bytes (encodeUtf8 text)).text = .ok text := by
  rw [FileContent.text, decodeUtf8_encodeUtf8]
  show Except.ok (unifyLines text) = Except.ok text
  rw [unifyLines, unifyLineEnds_eq_self _ noReturn, String.ofList_toList]

/-- A file with the bytes of an asset is read as that asset. -/
theorem readAsset_of_read (a : Asset) (text : String) (noReturn : '\r' ∉ text.toList)
    (read : readValue text = .ok a.toValue) (base : Option Path) (path : String) (w : Workspace)
    (held : w.files.read (assetFilePath base path) = .ok (.bytes (encodeUtf8 text))) :
    readAsset base path w = (.ok a.toValue, w) := by
  have document : readDocument (assetFilePath base path) w = (.ok a.toValue, w) := by
    rw [readDocument, Job.run_bind, Job.run_ask, held]
    dsimp only
    rw [Job.run_bind, Job.run_ofExcept, text_bytes text noReturn]
    dsimp only
    rw [Job.run_ofExcept, read]
  rw [readAsset, Job.run_bind, document]
  rfl

/-- So is a path that was written. -/
theorem readAsset_holding (a : Asset) (text : String) (noReturn : '\r' ∉ text.toList)
    (read : readValue text = .ok a.toValue) (base : Option Path) (path : String)
    (before : FileTree) (w : Workspace)
    (holding : Holding (assetFilePath base path) (encodeUtf8 text) before w.files) :
    readAsset base path w = (.ok a.toValue, w) :=
  readAsset_of_read a text noReturn read base path w holding.read_eq

/-- A text that comes back from an asset as it was: without the next-line control, or in another
style than single quotes. -/
def IsKept (s : String) : Prop :=
  ¬('\u0085' ∈ s.toList ∧ (analyze s.toList).allowsSingle = true)

/-- A text with the next-line control is never written without quotes. -/
theorem chooseStyle_nextLine (cs : List Char) (bare : Bool) (present : '\u0085' ∈ cs) :
    chooseStyle bare false (analyze cs) =
      if (analyze cs).allowsSingle = true then .single else .double := by
  have multiline : cs.any isBreak = true := List.any_eq_true.mpr ⟨_, present, by decide⟩
  have noPlain : (analyze cs).allowsPlain = false := by
    rw [analyze_eq cs (List.ne_nil_of_mem present), multiline]
    simp
  simp [chooseStyle, noPlain]

/-- Which texts come back as they were. -/
theorem returned_text_iff (s : String) : returned (.text s) = .text s ↔ IsKept s := by
  have unfolded : returned (.text s) = .text s ↔
      readBack (chooseStyle (resolve s == .text) false (analyze s.toList)) s.toList = s.toList := by
    rw [returned, Value.text.injEq, ← String.toList_inj, String.toList_ofList]
  rw [unfolded, IsKept]
  by_cases present : '\u0085' ∈ s.toList
  · rw [chooseStyle_nextLine s.toList _ present]
    by_cases allowed : (analyze s.toList).allowsSingle = true
    · simp only [allowed, if_true, readBack, carried_eq_self_iff, present, and_self]
    · simp [allowed, readBack]
  · refine ⟨fun _ both => present both.1, fun _ => ?_⟩
    unfold readBack
    split
    · rfl
    · exact carried_eq_self s.toList false present
    · rfl

/-- The other values always do. -/
theorem returned_eq_iff (value : Value) (isCell : IsCellValue value) :
    returned value = value ↔ ∀ s, value = .text s → IsKept s := by
  cases isCell with
  | text s =>
    rw [returned_text_iff]
    refine ⟨fun kept t same => ?_, fun all => all s rfl⟩
    cases same
    exact kept
  | int n short => exact ⟨fun _ s same => (by cases same), fun _ => rfl⟩
  | bool truth => exact ⟨fun _ s same => (by cases same), fun _ => rfl⟩

/-- An asset comes back as it was exactly when all its texts do. -/
theorem returnedAsset_eq_iff (a : Asset) (records : ∀ entries ∈ a.records, IsRecord entries) :
    (returnedAsset a).toValue = a.toValue ↔
      ∀ entries ∈ a.records, ∀ entry ∈ entries, ∀ s, entry.2 = .text s → IsKept s := by
  have each : (returnedAsset a).toValue = a.toValue ↔
      ∀ entries ∈ a.records, ∀ entry ∈ entries, returned entry.2 = entry.2 := by
    simp [Asset.toValue, returnedAsset, List.map_inj_left]
  rw [each]
  refine forall₄_congr fun entries present entry member => ?_
  exact returned_eq_iff entry.2 ((records entries present).values entry member)

/-- The records of a sheet: its fields in order, each with the value of a cell. -/
structure IsSheet (name : String) (fields : List String) (records : List Entries) : Prop where
  name : isIdentifier name = true
  fieldNames : ∀ field ∈ fields, isIdentifier field = true
  distinct : fields.Nodup
  rows : ∀ entries ∈ records, entries.map Prod.fst = fields ∧ ∀ entry ∈ entries, IsCellValue entry.2

/-- Each row of a sheet is a record. -/
theorem IsSheet.isRecord {name : String} {fields : List String} {records : List Entries}
    (sheet : IsSheet name fields records) (entries : Entries) (present : entries ∈ records) :
    IsRecord entries where
  names entry member := by
    have field : entry.1 ∈ fields := by
      rw [← (sheet.rows entries present).1]
      exact List.mem_map_of_mem member
    exact isName_of_isIdentifier entry.1 (sheet.fieldNames entry.1 field)
  values := (sheet.rows entries present).2
  different := by
    rw [(sheet.rows entries present).1]
    exact sheet.distinct

/-- Writing the asset of a sheet and reading it back, whatever was there before: the reader gets
the asset that comes back. -/
theorem readAsset_sheetAsset {name : String} {fields : List String} {records : List Entries}
    (sheet : IsSheet name fields records) :
    ∃ text, (sheetAsset name records).text = .ok text ∧
      ∀ (base : Option Path) (path : String) (before after : Workspace) (written : Written),
        writeArtifact ⟨assetFilePath base path, text⟩ before = (.ok written, after) →
        readAsset base path after = (.ok (returnedAsset (sheetAsset name records)).toValue, after) := by
  obtain ⟨text, written, noReturn, read⟩ := readValue_assetText (sheetAsset name records)
    (isName_of_isIdentifier name sheet.name) (Yaml.isName_append name "VO" sheet.name (by decide))
    sheet.isRecord
  refine ⟨text, written, fun base path before after artifact ran => ?_⟩
  exact readAsset_holding _ text noReturn read base path before.files after (writeArtifact_ok ran).1

/-- Export and load of a sheet. The text of its asset exists, and wherever it was written, the
loader reads a mapping with the name of the sheet, the name of its record type and the records in
order, each with the same fields in the same order and values of the same types. This mapping is
the one that was exported exactly when no text holds the next-line control in single quotes. -/
theorem load_exported {name : String} {fields : List String} {records : List Entries}
    (sheet : IsSheet name fields records) :
    ∃ text, (sheetAsset name records).text = .ok text ∧
      ∀ (base : Option Path) (path : String) (before after : Workspace) (written : Written),
        writeArtifact ⟨assetFilePath base path, text⟩ before = (.ok written, after) →
        ∃ loaded, readAsset base path after = (.ok loaded, after) ∧
          loaded = (sheetAsset name (records.map fun entries =>
            entries.map fun entry => (entry.1, returned entry.2))).toValue ∧
          (loaded = (sheetAsset name records).toValue ↔
            ∀ entries ∈ records, ∀ entry ∈ entries, ∀ s, entry.2 = .text s → IsKept s) := by
  obtain ⟨text, written, loads⟩ := readAsset_sheetAsset sheet
  refine ⟨text, written, fun base path before after artifact ran => ?_⟩
  exact ⟨_, loads base path before after artifact ran, rfl,
    returnedAsset_eq_iff (sheetAsset name records) sheet.isRecord⟩

/-- A sheet with one field and one row, which holds a text. -/
theorem isSheet_note (note : String) : IsSheet "Item" ["note"] [[("note", .text note)]] where
  name := by decide
  fieldNames := by decide
  distinct := by decide
  rows := by
    intro entries present
    obtain rfl := List.mem_singleton.mp present
    refine ⟨rfl, fun entry member => ?_⟩
    obtain rfl := List.mem_singleton.mp member
    exact .text note

/-- Its asset can be written into an empty tree. -/
theorem writeArtifact_item (text : String) :
    ∃ after written, writeArtifact ⟨assetFilePath none "Item.asset", text⟩ {} = (.ok written, after) := by
  have status : writeStatus {} (assetFilePath none "Item.asset") (encodeUtf8 text) = .ok .generated := rfl
  rw [writeArtifact, Job.run_bind, Job.run_ask, status]
  dsimp only
  rw [Job.run_bind, Job.run_logAll]
  simp only [ne_eq, reduceCtorEq, not_false_eq_true, if_true]
  exact ⟨_, _, rfl⟩

/-- A text that looks like a number comes back as a text. -/
theorem load_exported_digits :
    ∃ text after loaded, (sheetAsset "Item" [[("note", .text "012")]]).text = .ok text ∧
      (∃ written, writeArtifact ⟨assetFilePath none "Item.asset", text⟩ {} = (.ok written, after)) ∧
      readAsset none "Item.asset" after = (.ok loaded, after) ∧
      loaded = (sheetAsset "Item" [[("note", .text "012")]]).toValue := by
  obtain ⟨text, written, loads⟩ := load_exported (isSheet_note "012")
  obtain ⟨after, artifact, ran⟩ := writeArtifact_item text
  obtain ⟨loaded, read, -, same⟩ := loads none "Item.asset" {} after artifact ran
  refine ⟨text, after, loaded, written, ⟨artifact, ran⟩, read, same.mpr ?_⟩
  intro entries present entry member s is both
  obtain rfl := List.mem_singleton.mp present
  obtain rfl := List.mem_singleton.mp member
  cases is
  exact absurd both.1 (by decide)

/-- A text with the next-line control comes back with a space in its place. -/
theorem load_nextLine :
    ∃ text after loaded, (sheetAsset "Item" [[("note", .text "a\u0085b")]]).text = .ok text ∧
      (∃ written, writeArtifact ⟨assetFilePath none "Item.asset", text⟩ {} = (.ok written, after)) ∧
      readAsset none "Item.asset" after = (.ok loaded, after) ∧
      loaded = (sheetAsset "Item" [[("note", .text "a b")]]).toValue ∧
      loaded ≠ (sheetAsset "Item" [[("note", .text "a\u0085b")]]).toValue := by
  obtain ⟨text, written, loads⟩ := readAsset_sheetAsset (isSheet_note "a\u0085b")
  obtain ⟨after, artifact, ran⟩ := writeArtifact_item text
  have back : returned (.text "a\u0085b") = .text "a b" :=
    congrArg Value.text (by decide)
  have loaded : (returnedAsset (sheetAsset "Item" [[("note", .text "a\u0085b")]])).toValue =
      (sheetAsset "Item" [[("note", .text "a b")]]).toValue := by
    simp [returnedAsset, sheetAsset, Asset.toValue, back]
  refine ⟨text, after, _, written, ⟨artifact, ran⟩,
    loads none "Item.asset" {} after artifact ran, loaded, ?_⟩
  rw [loaded]
  simp [sheetAsset, Asset.toValue]

end TypedSheets
