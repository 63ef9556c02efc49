import Mathlib.Data.List.Forall2
import Mathlib.Data.List.Nodup
import TypedSheets.Generated.Package
import TypedSheets.Proofs.Outcomes
import TypedSheets.Proofs.RelatedLists

/-!
# Loading a registry

A registry module imports the accessor of each entry under a name, lists these names, and makes an accessor
of what each name stands for behind its imports. So an entry has an accessor of its own as long as its name is
not taken away by an import further down. Names count by their normal forms, and so do the modules that are
found under them. The main statement is `buildsOwn_iff`.
-/

namespace TypedSheets.Registry

variable {r registry : Registry} {types : List AccessorType}

/-- The types that have an accessor. -/
def identities (r : Registry) : List Nat := r.accessors.map fun a => a.type.identity

theorem register_new (t : AccessorType) : r.register t.new =
    if t.identity ∈ r.identities then .error (.alreadyRegistered t.className)
    else .ok { accessors := r.accessors ++ [t.new] } := by
  have known : (r.find? t.identity).isSome = true ↔ t.identity ∈ r.identities := by
    simp [find?, identities]
  exact if_congr known rfl rfl

/-- Accessor types are registered exactly if they are new and different. -/
theorem registerAll_eq_ok_iff (fresh : r.identities.Nodup) :
    r.registerAll types = .ok registry ↔
      (r.identities ++ types.map AccessorType.identity).Nodup ∧
        registry.accessors = r.accessors ++ types.map AccessorType.new := by
  induction types generalizing r with
  | nil =>
    rw [registerAll, List.map_nil, List.append_nil, List.map_nil, List.append_nil, Except.ok.injEq]
    constructor
    · rintro rfl
      exact ⟨fresh, rfl⟩
    · rintro ⟨-, same⟩
      cases r
      cases registry
      exact congrArg Registry.mk same.symm
  | cons t rest inductionHypothesis =>
    rw [registerAll, register_new]
    by_cases known : t.identity ∈ r.identities
    · have clash : ¬(r.identities ++ (t :: rest).map AccessorType.identity).Nodup := fun nodup =>
        (List.nodup_append.mp nodup).2.2 t.identity known t.identity List.mem_cons_self rfl
      rw [if_pos known]
      exact ⟨nofun, fun ⟨nodup, _⟩ => absurd nodup clash⟩
    · let next : Registry := { accessors := r.accessors ++ [t.new] }
      have identities_next : next.identities = r.identities ++ [t.identity] := by
        simp [next, identities, AccessorType.new]
      have fresh_next : next.identities.Nodup := by
        rw [identities_next, List.nodup_append]
        exact ⟨fresh, List.nodup_singleton _, fun x inside y last same =>
          known (List.mem_singleton.mp last ▸ same ▸ inside)⟩
      rw [if_neg known]
      refine (inductionHypothesis fresh_next).trans ?_
      rw [identities_next, List.map_cons, List.map_cons, List.append_assoc, List.append_assoc]
      rfl

end TypedSheets.Registry

namespace TypedSheets.Generated

open TypedSheets.Emission TypedSheets.Schema TypedSheets.Text

/-- Each schema has its modules in one place, and they are for the sheets of that schema. -/
structure Package.IsSound (p : Package) : Prop where
  schemas : (p.schemas.map SchemaModules.schema).Nodup
  own : ∀ m ∈ p.schemas, ∀ d ∈ m.sheets, d.schema = m.schema

/-- The modules that were generated for an entry load as a sheet. -/
def Package.LoadsOwn (p : Package) (e : RegistryEntry) (s : LoadedSheet) : Prop :=
  ∃ m ∈ p.schemas, ∃ d ∈ m.sheets, e = ⟨d.schema, d.sheet⟩ ∧ loadSheet p.target.baseNamespace m d = .ok s

/-- The registry of a package has one accessor for each entry, in their order, and each comes from the
modules that were generated for its entry. -/
def Package.BuildsOwn (p : Package) : Prop :=
  ∃ sheets registry, p.load = .ok (sheets, registry) ∧ List.Forall₂ p.LoadsOwn p.entries sheets ∧
    List.Forall₂ (fun s a => ∃ identity, a = (s.accessorType p.target.assetRoot identity).new) sheets
      registry.accessors

/-- The name that an entry is bound to. -/
def Package.boundName (p : Package) (e : RegistryEntry) : String := normalForm (registryImport p.entries e).bound

/-- The name of an entry is spelled as it is found. -/
def IsNormal (e : RegistryEntry) : Prop := normalForm e.schema = e.schema ∧ normalForm e.sheet = e.sheet

/-- What a sheet is called. -/
def LoadedSheet.entry (s : LoadedSheet) : RegistryEntry := ⟨s.schema, s.sheet⟩

variable {p : Package} {m : SchemaModules} {d : Description} {s : LoadedSheet} {e : RegistryEntry}
  {entries : List RegistryEntry} {sheets : List LoadedSheet} {imports : List (String × LoadedSheet)}

section Imports

theorem entry_of_loadSheet {base : String} (loaded : loadSheet base m d = .ok s) :
    s.entry = ⟨d.schema, d.sheet⟩ := by
  have behind {record : Except LoadError RecordType} {checked : Except LoadError Unit}
      {enums : List Enumeration} (ended : (do
        let record ← record
        checked
        pure ({ schema := d.schema, sheet := d.sheet, record, enumerations := enums } : LoadedSheet)) = .ok s) :
      s.entry = ⟨d.schema, d.sheet⟩ := by
    obtain ⟨_, _, further⟩ := bind_eq_ok ended
    obtain ⟨_, _, last⟩ := bind_eq_ok further
    cases last
    rfl
  unfold loadSheet at loaded
  dsimp only at loaded
  split at loaded
  · cases loaded
  · split at loaded
    · obtain ⟨_, _, further⟩ := bind_eq_ok loaded
      exact behind further
    · exact behind loaded

theorem mem_entries : e ∈ p.entries ↔ ∃ m ∈ p.schemas, ∃ d ∈ m.sheets, e = ⟨d.schema, d.sheet⟩ := by
  simp only [Package.entries, List.mem_flatMap, List.mem_map, eq_comm]

/-- The sheets of a schema have different names. -/
theorem sheets_nodup (sound : p.IsSound) (nodup : p.entries.Nodup) (member : m ∈ p.schemas) :
    (m.sheets.map Description.sheet).Nodup := by
  have own := (List.nodup_flatMap.mp nodup).1 m member
  have named : (m.sheets.map fun d => (⟨d.schema, d.sheet⟩ : RegistryEntry)) =
      (m.sheets.map Description.sheet).map (RegistryEntry.mk m.schema) := by
    rw [List.map_map]
    exact List.map_congr_left fun d inside => congrArg (RegistryEntry.mk · d.sheet) (sound.own m member d inside)
  rw [named] at own
  exact own.of_map

/-- An entry whose name is in normal form is found. -/
theorem importSheet_of_normal (sound : p.IsSound) (nodup : p.entries.Nodup) (member : m ∈ p.schemas)
    (inside : d ∈ m.sheets) (normal : IsNormal ⟨d.schema, d.sheet⟩) :
    p.importSheet ⟨d.schema, d.sheet⟩ = loadSheet p.target.baseNamespace m d := by
  have modules : (p.schemas.reverse.find? fun other => other.schema == m.schema) = some m := by
    apply NamedList.find?_of_distinct _ (List.mem_reverse.mpr member)
    rw [List.map_reverse, List.nodup_reverse]
    exact sound.schemas
  have sheet : (m.sheets.reverse.find? fun other => other.sheet == d.sheet) = some d := by
    apply NamedList.find?_of_distinct _ (List.mem_reverse.mpr inside)
    rw [List.map_reverse, List.nodup_reverse]
    exact sheets_nodup sound nodup member
  have schemaNormal : normalForm d.schema = m.schema := normal.1.trans (sound.own m member d inside)
  have sheetNormal : normalForm d.sheet = d.sheet := normal.2
  unfold Package.importSheet
  simp only [schemaNormal, sheetNormal, modules, sheet]

/-- What an entry finds has the normal form of its name. -/
theorem entry_of_importSheet (sound : p.IsSound) (imported : p.importSheet e = .ok s) :
    s.entry = ⟨normalForm e.schema, normalForm e.sheet⟩ := by
  unfold Package.importSheet at imported
  dsimp only at imported
  split at imported
  · cases imported
  · next m modules =>
    split at imported
    · cases imported
    · next d sheet =>
      have member := List.mem_reverse.mp (List.mem_of_find?_eq_some modules)
      have inside := List.mem_reverse.mp (List.mem_of_find?_eq_some sheet)
      have schemaName : m.schema = normalForm e.schema := by simpa using List.find?_some modules
      have sheetName : d.sheet = normalForm e.sheet := by simpa using List.find?_some sheet
      rw [entry_of_loadSheet imported, sound.own m member d inside, schemaName, sheetName]

/-- An entry whose name is in normal form finds the modules that were generated for it. -/
theorem importSheet_eq_ok_iff (sound : p.IsSound) (nodup : p.entries.Nodup) (listed : e ∈ p.entries)
    (normal : IsNormal e) : p.importSheet e = .ok s ↔ p.LoadsOwn e s := by
  constructor
  · intro imported
    obtain ⟨m, member, d, inside, rfl⟩ := mem_entries.mp listed
    rw [importSheet_of_normal sound nodup member inside normal] at imported
    exact ⟨m, member, d, inside, rfl, imported⟩
  · rintro ⟨m, member, d, inside, rfl, loaded⟩
    rw [importSheet_of_normal sound nodup member inside normal, loaded]

/-- The imports bind the name of each entry to the sheet that the entry finds. -/
theorem importSheets_eq_ok_iff : p.importSheets entries = .ok imports ↔
    List.Forall₂ (fun e entry => entry.1 = p.boundName e ∧ p.importSheet e = .ok entry.2) entries imports := by
  induction entries generalizing imports with
  | nil =>
    rw [Package.importSheets, Except.ok.injEq, List.forall₂_nil_left_iff, eq_comm]
  | cons e rest inductionHypothesis =>
    rw [Package.importSheets, List.forall₂_cons_left_iff]
    constructor
    · intro ended
      obtain ⟨s, own, further⟩ := bind_eq_ok ended
      obtain ⟨others, later, last⟩ := bind_eq_ok further
      cases last
      exact ⟨_, others, ⟨rfl, own⟩, inductionHypothesis.mp later, rfl⟩
    · rintro ⟨⟨name, s⟩, others, ⟨rfl, own⟩, later, rfl⟩
      rw [own, inductionHypothesis.mpr later]
      rfl

end Imports

section Accessors

/-- What a name stands for behind the imports. -/
def lastBound (imports : List (String × LoadedSheet)) (name : String) : Option LoadedSheet :=
  imports.reverse.lookup name

/-- Every listed name stands for something. -/
theorem map_accessorTypes (imports : List (String × LoadedSheet)) :
    (Package.accessorTypes imports).map some = (imports.map Prod.fst).map (lastBound imports) := by
  have all (some_ : ∀ entry ∈ imports, (lastBound imports entry.1).isSome = true) :
      (imports.filterMap fun entry => lastBound imports entry.1).map some =
        imports.map fun entry => lastBound imports entry.1 := by
    rw [List.map_filterMap]
    generalize lastBound imports = found at some_
    induction imports with
    | nil => rfl
    | cons entry rest inductionHypothesis =>
      rw [List.forall_mem_cons] at some_
      obtain ⟨s, own⟩ := Option.isSome_iff_exists.mp some_.1
      rw [List.filterMap_cons_some (by rw [own]; rfl), List.map_cons, own, inductionHypothesis some_.2]
  rw [List.map_map]
  apply all
  intro entry member
  rw [lastBound, List.lookup_isSome_iff]
  exact ⟨entry, List.mem_reverse.mpr member, beq_self_eq_true _⟩

/-- A name that is bound once stands for what it was bound to. -/
theorem lastBound_of_nodup (nodup : (imports.map Prod.fst).Nodup) {entry : String × LoadedSheet}
    (member : entry ∈ imports) : lastBound imports entry.1 = some entry.2 := by
  obtain ⟨before, after, parts⟩ := List.append_of_mem (List.mem_reverse.mpr member)
  rw [lastBound, List.lookup_eq_some_iff]
  refine ⟨before, after, parts, fun other earlier => ?_⟩
  rw [← List.nodup_reverse, ← List.map_reverse, parts, List.map_append, List.map_cons, List.nodup_append] at nodup
  rw [bne_iff_ne]
  exact fun same => nodup.2.2 other.1 (List.mem_map_of_mem earlier) entry.1 List.mem_cons_self same.symm

theorem accessorTypes_of_nodup (nodup : (imports.map Prod.fst).Nodup) :
    Package.accessorTypes imports = imports.map Prod.snd := by
  apply List.map_injective_iff.mpr (fun _ _ => Option.some.inj)
  rw [map_accessorTypes, List.map_map, List.map_map]
  exact List.map_congr_left fun entry member => lastBound_of_nodup nodup member

/-- Sheets have one place exactly if they are called the same. -/
theorem placeOf_eq_iff {other : LoadedSheet} (member : s ∈ sheets) :
    Package.placeOf sheets s = Package.placeOf sheets other ↔ s.entry = other.entry := by
  have found {t : LoadedSheet} (inside : Package.placeOf sheets t < sheets.length) :
      ∃ u, sheets[Package.placeOf sheets t]? = some u ∧ u.entry = t.entry := by
    have own := List.findIdx_getElem (w := inside)
    simp only [Bool.and_eq_true, beq_iff_eq] at own
    refine ⟨_, List.getElem?_eq_getElem inside, ?_⟩
    rw [LoadedSheet.entry, LoadedSheet.entry, RegistryEntry.mk.injEq]
    exact own
  have inside : Package.placeOf sheets s < sheets.length :=
    List.findIdx_lt_length.mpr ⟨s, member, by simp⟩
  constructor
  · intro same
    obtain ⟨t, own, called⟩ := found inside
    obtain ⟨u, others, calledOther⟩ := found (same ▸ inside)
    rw [same, others] at own
    cases own
    exact called.symm.trans calledOther
  · intro same
    obtain ⟨schema, sheet⟩ := RegistryEntry.mk.inj same
    rw [Package.placeOf, Package.placeOf, schema, sheet]

/-- A registry is made of sheets exactly if they are called differently. -/
theorem registerAll_sheets {root : Path} {registry : Registry} :
    (({} : Registry).registerAll (sheets.map fun s => s.accessorType root (Package.placeOf sheets s))) = .ok registry ↔
      (sheets.map LoadedSheet.entry).Nodup ∧
        registry.accessors = sheets.map fun s => (s.accessorType root (Package.placeOf sheets s)).new := by
  have identities : ({} : Registry).identities ++
      (sheets.map fun s => s.accessorType root (Package.placeOf sheets s)).map AccessorType.identity =
        sheets.map (Package.placeOf sheets) := by
    rw [List.map_map]
    rfl
  have places : (sheets.map (Package.placeOf sheets)).Nodup ↔ (sheets.map LoadedSheet.entry).Nodup := by
    rw [List.nodup_iff_pairwise_ne, List.nodup_iff_pairwise_ne, List.pairwise_map, List.pairwise_map]
    exact List.Pairwise.iff_of_mem fun inside _ => not_congr (placeOf_eq_iff inside)
  have fresh : ({} : Registry).identities.Nodup := List.nodup_nil
  rw [Registry.registerAll_eq_ok_iff fresh, identities, places, List.map_map]
  rfl

end Accessors

section Loads

/-- The names that imports bind are those of the entries. -/
theorem names_of_importSheets (imported : p.importSheets entries = .ok imports) :
    entries.map p.boundName = imports.map Prod.fst :=
  map_eq_of_forall₂ (importSheets_eq_ok_iff.mp imported) fun _ _ bound => bound.1.symm

/-- Imports succeed when each of them does. -/
theorem exists_importSheets (each : ∀ e ∈ entries, ∃ s, p.importSheet e = .ok s) :
    ∃ imports, p.importSheets entries = .ok imports := by
  induction entries with
  | nil => exact ⟨[], rfl⟩
  | cons e rest inductionHypothesis =>
    rw [List.forall_mem_cons] at each
    obtain ⟨s, own⟩ := each.1
    obtain ⟨others, later⟩ := inductionHypothesis each.2
    refine ⟨(p.boundName e, s) :: others, ?_⟩
    rw [Package.importSheets, own, later]
    rfl

/-- A package loads exactly if its project can be imported, every entry finds a sheet, and the names of the
registry stand for sheets that are called differently. -/
theorem load_eq_ok_iff {registry : Registry} : p.load = .ok (sheets, registry) ↔
    p.checkProject = .ok () ∧ ∃ imports, p.importSheets p.entries = .ok imports ∧
      sheets = Package.accessorTypes imports ∧ (sheets.map LoadedSheet.entry).Nodup ∧
        registry.accessors =
          sheets.map fun s => (s.accessorType p.target.assetRoot (Package.placeOf sheets s)).new := by
  constructor
  · intro ended
    obtain ⟨⟨⟩, checked, further⟩ := bind_eq_ok ended
    obtain ⟨imports, imported, more⟩ := bind_eq_ok further
    obtain ⟨made, registered, last⟩ := bind_eq_ok more
    cases last
    exact ⟨checked, imports, imported, rfl, registerAll_sheets.mp (mapError_eq_ok.mp registered)⟩
  · rintro ⟨checked, imports, imported, rfl, built⟩
    unfold Package.load
    simp only [checked, imported, bind, Except.bind, registerAll_sheets.mpr built]
    rfl

/-- The names of a registry that loads are different. -/
theorem boundNames_of_load {registry : Registry} (loaded : p.load = .ok (sheets, registry)) :
    (p.entries.map p.boundName).Nodup := by
  obtain ⟨-, imports, imported, rfl, apart, -⟩ := load_eq_ok_iff.mp loaded
  have listed : ((Package.accessorTypes imports).map some).Nodup :=
    apart.of_map.map fun _ _ => Option.some.inj
  rw [map_accessorTypes, ← names_of_importSheets imported] at listed
  exact listed.of_map

/-- Each entry of a package has an accessor of its own exactly if the project can be imported, all modules
load, the names that the registry binds are different, and the names of all entries are spelled as they are
found. -/
theorem buildsOwn_iff (sound : p.IsSound) (nodup : p.entries.Nodup) :
    p.BuildsOwn ↔ p.checkProject = .ok () ∧
      (∀ m ∈ p.schemas, ∀ d ∈ m.sheets, ∃ s, loadSheet p.target.baseNamespace m d = .ok s) ∧
      (p.entries.map p.boundName).Nodup ∧ ∀ e ∈ p.entries, IsNormal e := by
  constructor
  · rintro ⟨sheets, registry, loaded, own, -⟩
    have names := boundNames_of_load loaded
    obtain ⟨checked, imports, imported, rfl, -⟩ := load_eq_ok_iff.mp loaded
    have bound := importSheets_eq_ok_iff.mp imported
    rw [accessorTypes_of_nodup (names_of_importSheets imported ▸ names)] at own
    have called : p.entries.map id = (imports.map Prod.snd).map LoadedSheet.entry :=
      map_eq_of_forall₂ own fun _ _ ⟨_, _, _, _, named, loads⟩ => named.trans (entry_of_loadSheet loads).symm
    have found : p.entries.map (fun e => (⟨normalForm e.schema, normalForm e.sheet⟩ : RegistryEntry)) =
        imports.map (LoadedSheet.entry ∘ Prod.snd) :=
      map_eq_of_forall₂ bound fun _ _ ⟨_, gives⟩ => (entry_of_importSheet sound gives).symm
    have normal : ∀ e ∈ p.entries, IsNormal e := by
      rw [List.map_map, ← found] at called
      intro e listed
      have same := List.map_inj_left.mp called e listed
      exact ⟨(congrArg RegistryEntry.schema same).symm, (congrArg RegistryEntry.sheet same).symm⟩
    refine ⟨checked, fun m member d inside => ?_, names, normal⟩
    have listed : (⟨d.schema, d.sheet⟩ : RegistryEntry) ∈ p.entries := mem_entries.mpr ⟨m, member, d, inside, rfl⟩
    have outcomes : p.entries.map p.importSheet = imports.map fun entry => .ok entry.2 :=
      map_eq_of_forall₂ bound fun _ _ gives => gives.2
    have among := List.mem_map_of_mem (f := p.importSheet) listed
    rw [outcomes, List.mem_map] at among
    obtain ⟨entry, -, gives⟩ := among
    rw [importSheet_of_normal sound nodup member inside (normal _ listed)] at gives
    exact ⟨entry.2, gives.symm⟩
  · rintro ⟨checked, loads, names, normal⟩
    obtain ⟨imports, imported⟩ : ∃ imports, p.importSheets p.entries = .ok imports := by
      apply exists_importSheets
      intro e listed
      obtain ⟨m, member, d, inside, rfl⟩ := mem_entries.mp listed
      rw [importSheet_of_normal sound nodup member inside (normal _ listed)]
      exact loads m member d inside
    have own : List.Forall₂ p.LoadsOwn p.entries (imports.map Prod.snd) := by
      have bound := (List.forall₂_and_left _ _).mpr ⟨fun e listed => listed, importSheets_eq_ok_iff.mp imported⟩
      rw [List.forall₂_map_right_iff]
      exact bound.imp fun e entry ⟨listed, _, gives⟩ =>
        (importSheet_eq_ok_iff sound nodup listed (normal e listed)).mp gives
    have called : p.entries.map id = (imports.map Prod.snd).map LoadedSheet.entry :=
      map_eq_of_forall₂ own fun _ _ ⟨_, _, _, _, named, loads⟩ => named.trans (entry_of_loadSheet loads).symm
    have types := accessorTypes_of_nodup (names_of_importSheets imported ▸ names)
    refine ⟨imports.map Prod.snd, ⟨_⟩, load_eq_ok_iff.mpr ⟨checked, imports, imported, types.symm, ?_, rfl⟩, own, ?_⟩
    · rw [← called, List.map_id]
      exact nodup
    · rw [List.forall₂_map_right_iff, List.forall₂_same]
      exact fun s _ => ⟨_, rfl⟩

end Loads

end TypedSheets.Generated
