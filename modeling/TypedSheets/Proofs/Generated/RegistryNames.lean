import Mathlib.Data.List.Perm.Subperm
import TypedSheets.Proofs.Generated.BoundNames
import TypedSheets.Proofs.Generated.RegistryLoading
import TypedSheets.Proofs.Text.NormalForms

/-!
# Names in registries

A registry imports each accessor under the name of its class, but puts the schema in front when another entry
has a sheet of that name. Renamed accessors and the others share one namespace, so these names are not always
different: the main statement, `registry_names`, says when they are, and what becomes of the registry.
-/

namespace TypedSheets.Emission

open TypedSheets.Generated TypedSheets.Grid TypedSheets.Schema TypedSheets.Text

/-- Another entry has a sheet of the same name. -/
def IsShared (entries : List RegistryEntry) (e : RegistryEntry) : Prop :=
  ∃ other ∈ entries, other ≠ e ∧ other.sheet = e.sheet

instance (entries : List RegistryEntry) (e : RegistryEntry) : Decidable (IsShared entries e) :=
  inferInstanceAs (Decidable (∃ other ∈ entries, other ≠ e ∧ other.sheet = e.sheet))

/-- What tells the accessor of an entry from others: its sheet, behind its schema if another entry shares it. -/
def registryLabel (entries : List RegistryEntry) (e : RegistryEntry) : String :=
  if IsShared entries e then e.schema ++ e.sheet else e.sheet

/-- No label is that of two entries: schema and sheet do not run into the same text for two shared sheets, nor
into the name of a sheet that is not shared. -/
structure IsUnambiguous (entries : List RegistryEntry) : Prop where
  shared : ∀ e ∈ entries, ∀ other ∈ entries, IsShared entries e → IsShared entries other →
    e.schema ++ e.sheet = other.schema ++ other.sheet → e = other
  apart : ∀ e ∈ entries, ∀ other ∈ entries, IsShared entries e → ¬IsShared entries other →
    e.schema ++ e.sheet ≠ other.sheet

/-- The line in front of the accessor types. -/
def typesMark : String := "ACCESSOR_TYPES = ("

/-- The name in a line of the accessor types. -/
def listedName (line : String) : String :=
  String.ofList ((line.toList.dropWhile (· == ' ')).takeWhile isIdentifierContinue)

/-- The accessor types that the text of a registry lists. -/
def listedTypes (text : String) : List String :=
  ((((textLines text).dropWhile (· != typesMark)).drop 1).takeWhile (· != ")")).map listedName

section Labels

variable {entries : List RegistryEntry} {e : RegistryEntry}

/-- A sheet is shared exactly if its name occurs more than once. -/
theorem isShared_iff (nodup : entries.Nodup) (listed : e ∈ entries) :
    IsShared entries e ↔ 1 < entries.countP fun other => other.sheet == e.sheet := by
  let alike := entries.filter fun other => other.sheet == e.sheet
  have alikeNodup : alike.Nodup := nodup.filter _
  have own : e ∈ alike := List.mem_filter.mpr ⟨listed, beq_self_eq_true _⟩
  rw [List.countP_eq_length_filter]
  constructor
  · rintro ⟨other, inside, different, same⟩
    have among : other ∈ alike := List.mem_filter.mpr ⟨inside, beq_iff_eq.mpr same⟩
    have two : [e, other].Nodup := by simpa using different.symm
    have both : [e, other] ⊆ alike := by
      rintro _ member
      rcases List.mem_cons.mp member with rfl | last
      · exact own
      · rwa [List.mem_singleton.mp last]
    exact (two.subperm both).length_le
  · intro several
    by_contra alone
    have single : alike ⊆ [e] := by
      intro other among
      obtain ⟨inside, same⟩ := List.mem_filter.mp among
      rw [List.mem_singleton]
      by_contra different
      exact alone ⟨other, inside, different, beq_iff_eq.mp same⟩
    exact absurd (alikeNodup.subperm single).length_le (Nat.not_le_of_lt several)

theorem bound_eq (nodup : entries.Nodup) (listed : e ∈ entries) :
    (registryImport entries e).bound = accessorName (registryLabel entries e) := by
  unfold registryImport registryLabel
  by_cases shared : IsShared entries e
  · rw [if_pos ((isShared_iff nodup listed).mp shared), if_pos shared]
    exact String.append_assoc.symm
  · rw [if_neg (mt (isShared_iff nodup listed).mpr shared), if_neg shared]
    rfl

theorem labels_nodup_iff (nodup : entries.Nodup) :
    (entries.map (registryLabel entries)).Nodup ↔ IsUnambiguous entries := by
  rw [List.nodup_map_iff_inj_on nodup]
  constructor
  · intro injective
    constructor
    · intro e listed other inside shared otherShared same
      apply injective e listed other inside
      rw [registryLabel, registryLabel, if_pos shared, if_pos otherShared, same]
    · intro e listed other inside shared alone same
      have equal : e = other := by
        apply injective e listed other inside
        rw [registryLabel, registryLabel, if_pos shared, if_neg alone, same]
      exact alone (equal ▸ shared)
  · intro unambiguous e listed other inside same
    by_cases shared : IsShared entries e
    · by_cases otherShared : IsShared entries other
      · rw [registryLabel, registryLabel, if_pos shared, if_pos otherShared] at same
        exact unambiguous.shared e listed other inside shared otherShared same
      · rw [registryLabel, registryLabel, if_pos shared, if_neg otherShared] at same
        exact absurd same (unambiguous.apart e listed other inside shared otherShared)
    · by_cases otherShared : IsShared entries other
      · rw [registryLabel, registryLabel, if_neg shared, if_pos otherShared] at same
        exact absurd same.symm (unambiguous.apart other inside e listed otherShared shared)
      · rw [registryLabel, registryLabel, if_neg shared, if_neg otherShared] at same
        by_contra different
        exact shared ⟨other, inside, Ne.symm different, same.symm⟩

end Labels

section Texts

variable {base : String} {entries : List RegistryEntry}

/-- The line of an entry lists the name that is bound for it. -/
theorem listedName_code {name : String} (identifier : isIdentifier name = true) :
    (SourceLine.code 1 (name ++ ",")).text ≠ ")" ∧ listedName (SourceLine.code 1 (name ++ ",")).text = name := by
  have text : (SourceLine.code 1 (name ++ ",")).text.toList = List.replicate 4 ' ' ++ (name.toList ++ [',']) := by
    simp [SourceLine.text]
  have continuing := Yaml.continue_of_form (Bool.and_eq_true_iff.mp identifier).1
  have flush : (name.toList ++ [',']).dropWhile (· == ' ') = name.toList ++ [','] := by
    apply dropWhile_of_flush
    intro indented
    have present := List.mem_of_mem_head? indented
    rw [List.mem_append] at present
    rcases present with inside | comma
    · exact Yaml.not_mem_of_isIdentifier identifier (by decide) inside
    · exact absurd comma (by decide)
  constructor
  · intro same
    rw [same] at text
    exact absurd text (by simp)
  · rw [listedName, text, List.dropWhile_append_of_pos (by simp), flush, List.takeWhile_append_of_pos continuing,
      List.takeWhile_cons_of_neg (by decide), List.append_nil, String.ofList_toList]

/-- The registry lists the names that it binds, in the order of the entries. -/
theorem listedTypes_registryModule (word : IsWord base) (spelled : ∀ e ∈ entries, e.IsSpelled) :
    listedTypes (sourceText (registryModule base entries)) =
      entries.map fun e => (registryImport entries e).bound := by
  have legible : ∀ line ∈ registryModule base entries, Legible base (fun _ names => names ≠ []) line :=
    legible_registryModule spelled fun _ _ => List.cons_ne_nil _ _
  let front : List SourceLine := [banner, importOne runtimePackage "MasterDataRegistry", .blank] ++
    entries.map (fun e => .importFrom (sheetModule base "DAO" e.schema (accessorName e.sheet))
      [registryImport entries e]) ++ [SourceLine.blank]
  let listing : List SourceLine := entries.map fun e => .code 1 ((registryImport entries e).bound ++ ",")
  let back : List SourceLine := [.blank, .blank, .code 0 "def create_registry() -> MasterDataRegistry:",
    .code 1 ("return MasterDataRegistry(accessor_type() " ++ "for accessor_type in ACCESSOR_TYPES)")]
  have parts : registryModule base entries = front ++ .code 0 typesMark :: (listing ++ .code 0 ")" :: back) := by
    simp [registryModule, front, listing, back, typesMark]
  have before : ∀ text ∈ front.map SourceLine.text, (text != typesMark) = true := by
    simp only [front, List.forall_mem_map, List.forall_mem_append, bne_iff_ne]
    refine ⟨⟨by decide +kernel, fun e _ same => ?_⟩, by decide⟩
    have word := firstWord_importFrom (sheetModule base "DAO" e.schema (accessorName e.sheet)) [registryImport entries e]
    rw [same] at word
    exact absurd word (by decide)
  have listed : ∀ text ∈ listing.map SourceLine.text, (text != ")") = true := by
    simp only [listing, List.forall_mem_map, bne_iff_ne]
    exact fun e member => (listedName_code ((spelled e member).registryImport entries).2).1
  have lines : textLines (sourceText (registryModule base entries)) = front.map SourceLine.text ++
      typesMark :: (listing.map SourceLine.text ++ ")" :: (back.map SourceLine.text ++ [""])) := by
    rw [textLines_sourceText word.1 legible, parts]
    simp [SourceLine.text]
  rw [listedTypes, lines, List.dropWhile_append_of_pos before, List.dropWhile_cons_of_neg (by simp), List.drop_one,
    List.tail_cons, List.takeWhile_append_of_pos listed, List.takeWhile_cons_of_neg (by simp), List.append_nil,
    List.map_map, List.map_map]
  apply List.map_congr_left
  intro e member
  exact (listedName_code ((spelled e member).registryImport entries).2).2

end Texts

section Registries

variable {base : String} {entries : List RegistryEntry}

/-- What is bound for the entries is different exactly if their labels are. -/
theorem accessorNames_nodup_iff {labels : List String} : (labels.map accessorName).Nodup ↔ labels.Nodup :=
  List.nodup_map_iff fun _ _ same => (String.append_left_inj "DAO").mp same

theorem names_eq (nodup : entries.Nodup) :
    (entries.map fun e => (registryImport entries e).bound) = (entries.map (registryLabel entries)).map accessorName := by
  rw [List.map_map]
  exact List.map_congr_left fun e listed => bound_eq nodup listed

/-- The registry that is written for some entries binds a name for each of them and lists these names in the
order of the entries. The names are different exactly if schemas and sheets do not run into each other. When
the registry is loaded it has one accessor for each entry, made of its own modules and in the same order,
exactly if the project and all modules load, the normal forms of the labels are different, and the entries are
in normal form; a registry with two equal labels is never loaded. -/
theorem registry_names (word : IsWord base) (nodup : entries.Nodup) (spelled : ∀ e ∈ entries, e.IsSpelled) :
    boundNames (sourceText (registryModule base entries)) =
      "MasterDataRegistry" :: (entries.map (registryLabel entries)).map accessorName ∧
    listedTypes (sourceText (registryModule base entries)) =
      (entries.map (registryLabel entries)).map accessorName ∧
    ((boundNames (sourceText (registryModule base entries))).Nodup ↔ IsUnambiguous entries) ∧
    ∀ p : Package, p.IsSound → p.entries = entries →
      (p.BuildsOwn ↔ p.checkProject = .ok () ∧
        (∀ m ∈ p.schemas, ∀ d ∈ m.sheets, ∃ s, loadSheet p.target.baseNamespace m d = .ok s) ∧
        ((entries.map (registryLabel entries)).map normalForm).Nodup ∧ ∀ e ∈ entries, IsNormal e) ∧
      ∀ loaded, p.load = .ok loaded → ((entries.map (registryLabel entries)).map normalForm).Nodup := by
  have bound := boundNames_registryModule word spelled
  have listed := listedTypes_registryModule word spelled
  rw [names_eq nodup] at bound listed
  refine ⟨bound, listed, ?_, ?_⟩
  · have own : "MasterDataRegistry" ∉ (entries.map (registryLabel entries)).map accessorName := by
      intro among
      obtain ⟨label, -, same⟩ := List.mem_map.mp among
      exact ne_append (by decide) same.symm
    rw [bound, List.singleton_append, List.nodup_cons, accessorNames_nodup_iff, labels_nodup_iff nodup]
    exact and_iff_right own
  · rintro p sound rfl
    have names : p.entries.map p.boundName = ((p.entries.map (registryLabel p.entries)).map normalForm).map accessorName := by
      rw [List.map_map, List.map_map]
      refine List.map_congr_left fun e among => ?_
      exact (congrArg normalForm (bound_eq nodup among)).trans (normalForm_append (by decide))
    have load := buildsOwn_iff sound nodup
    rw [names, accessorNames_nodup_iff] at load
    refine ⟨load, fun ⟨sheets, registry⟩ loaded => ?_⟩
    have apart := boundNames_of_load loaded
    rwa [names, accessorNames_nodup_iff] at apart

/-- A sheet with a number for a key and no other field. -/
def plainDescription (schema sheet : String) : Description where
  schema := schema
  sheet := sheet
  key := { name := "id", column := 0, declaredType := "int", comment := "", enumeration := none, enumBody := "" }
  others := []
  rows := []

/-- The package of schemas with such sheets. -/
def plainPackage (schemas : List (String × List String)) : Package where
  target := { code := .ofText "gen", asset := .ofText "assets", project := none }
  schemas := schemas.map fun (schema, sheets) =>
    { source := .ofText (schema ++ ".xlsx"), schema, enumerations := [],
      sheets := sheets.map (plainDescription schema) }

/-- Two files with a sheet of one name, and one of them with a further sheet. -/
def arsenals : Package := plainPackage [("Armory", ["Weapon"]), ("Arsenal", ["Weapon", "Shield"])]

/-- Two files with a sheet of one name, and a third one with a sheet that is called like the first file and
its sheet together. -/
def clashing : Package := plainPackage [("A", ["Item"]), ("B", ["Item"]), ("C", ["AItem"])]

/-- In the first package each sheet has an accessor of its own. -/
theorem registry_names_arsenals :
    IsWord "MasterData" ∧ arsenals.entries.Nodup ∧ (∀ e ∈ arsenals.entries, e.IsSpelled) ∧ arsenals.IsSound ∧
      (boundNames (sourceText (registryModule "MasterData" arsenals.entries))).Nodup ∧ arsenals.BuildsOwn := by
  have word : IsWord "MasterData" := by decide
  have nodup : arsenals.entries.Nodup := by decide
  have spelled : ∀ e ∈ arsenals.entries, e.IsSpelled := by
    unfold RegistryEntry.IsSpelled
    decide +kernel
  have sound : arsenals.IsSound := ⟨by decide, by decide⟩
  have unambiguous : IsUnambiguous arsenals.entries := ⟨by decide, by decide⟩
  obtain ⟨-, -, different, loads⟩ := @registry_names "MasterData" arsenals.entries word nodup spelled
  refine ⟨word, nodup, spelled, sound, different.mpr unambiguous, (loads arsenals sound rfl).1.mpr ⟨rfl, ?_, ?_, ?_⟩⟩
  · have each : ∀ m ∈ arsenals.schemas, ∀ d ∈ m.sheets,
        (loadSheet arsenals.target.baseNamespace m d).toOption.isSome = true := by decide +kernel
    intro m member d inside
    have own := each m member d inside
    cases loaded : loadSheet arsenals.target.baseNamespace m d with
    | ok s => exact ⟨s, rfl⟩
    | error e =>
      rw [loaded] at own
      cases own
  · decide +kernel
  · unfold IsNormal
    decide +kernel

/-- In the second one two sheets are bound to one name, and there is no registry. -/
theorem registry_names_clashing :
    clashing.entries.Nodup ∧ (∀ e ∈ clashing.entries, e.IsSpelled) ∧ clashing.IsSound ∧
      ¬(boundNames (sourceText (registryModule "MasterData" clashing.entries))).Nodup ∧
      ∀ loaded, clashing.load ≠ .ok loaded := by
  have nodup : clashing.entries.Nodup := by decide
  have spelled : ∀ e ∈ clashing.entries, e.IsSpelled := by
    unfold RegistryEntry.IsSpelled
    decide +kernel
  refine ⟨nodup, spelled, ⟨by decide, by decide⟩, ?_, fun loaded loads => ?_⟩
  · rw [boundNames_registryModule (by decide) spelled, names_eq nodup]
    decide
  · exact absurd (boundNames_of_load loads) (by decide +kernel)

end Registries

end TypedSheets.Emission
