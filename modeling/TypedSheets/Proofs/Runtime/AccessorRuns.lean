import TypedSheets.Proofs.Runtime.KeyIndexes
import TypedSheets.Registry

/-!
# Runs over the accessors of a registry

Whatever is loaded, looked up or cleared, and in whatever order: after every step the index of every
accessor answers for the container that it holds. A load that fails, wherever it does, changes
nothing at all.
-/

namespace TypedSheets

/-- What may be done with one accessor. A load waits for what a fetch delivers; a fetch that fails or
is cancelled delivers a failure. -/
inductive AccessorStep where
  | load (container : Container)
  | loadAsset (payload : Value)
  | loadFetched (fetched : Except Failure Value)
  | get (key : Value)
  | getSilently (key : Value)
  | contains (key : Value)
  | containsRecord (record : Entries)
  | find (test : Entries → Except Failure Bool)
  | findAll (test : Entries → Except Failure Bool)

namespace AccessorStep

/-- A lookup gives the accessor back as it is, when it does not fail. -/
def unchanged {ε α : Type} (wrap : ε → Failure) (a : Accessor) (answer : Except ε α) :
    Except Failure Accessor :=
  match answer with
  | .ok _ => .ok a
  | .error e => .error (wrap e)

/-- The log lines of a step, and the accessor behind it or the failure that it raises. -/
def run (a : Accessor) : AccessorStep → List LogLine × Except Failure Accessor
  | .load container => a.load container
  | .loadAsset payload => a.loadAsset payload
  | .loadFetched fetched => a.loadFetched fetched
  | .get key => ((a.get key).1, unchanged .record a (a.get key).2)
  | .getSilently key => ([], unchanged .record a (a.getSilently key))
  | .contains key => ([], unchanged .record a (a.contains key))
  | .containsRecord record => ([], unchanged .record a (.ok (a.containsRecord record)))
  | .find test => ([], unchanged id a (Accessor.find? test a.container.records))
  | .findAll test => ([], unchanged id a (Accessor.findAll test a.container.records))

/-- The accessor after a step: a step that fails leaves it as it was. -/
def after (step : AccessorStep) (a : Accessor) : Accessor :=
  match (step.run a).2 with
  | .ok b => b
  | .error _ => a

/-- The container that a step hands to the accessor for loading. -/
def delivers (a : Accessor) : AccessorStep → Option Container
  | .load container => some container
  | .loadAsset payload => (a.type.container.fromAsset payload).toOption
  | .loadFetched (.ok payload) => (a.type.container.fromAsset payload).toOption
  | _ => none

end AccessorStep

/-- What may be done with a registry. -/
inductive RegistryStep where
  | access (place : Nat) (step : AccessorStep)
  | clear

/-- The registry after a step. -/
def Registry.after (r : Registry) : RegistryStep → Registry
  | .access place step => { accessors := r.accessors.modify place step.after }
  | .clear => r.clear

/-- A step that loads only records whose keys are of a type, as far as they can be keys. -/
def RegistryStep.Lawful (K : KeyType) (r : Registry) : RegistryStep → Prop
  | .access place step => ∀ a, r.accessors[place]? = some a →
      ∀ container, step.delivers a = some container →
      ∀ record ∈ container.records, ∀ key, askedKey record >>= checkKey = .ok key → K.holds key
  | .clear => True

/-- The registries that a run comes to which starts with new accessors of some types. -/
inductive Reached (K : KeyType) (types : List AccessorType) : Registry → Prop
  | start : Reached K types { accessors := types.map AccessorType.new }
  | next (r : Registry) (step : RegistryStep) (reached : Reached K types r)
      (lawful : step.Lawful K r) : Reached K types (r.after step)

/-- An accessor whose index answers for its container. -/
def Accessor.Indexed (K : KeyType) (a : Accessor) : Prop :=
  Indexes K a.container.records a.index a.duplicates

/-- An accessor before its first load, and one that was cleared. -/
theorem AccessorType.indexed_new (K : KeyType) (t : AccessorType) : t.new.Indexed K :=
  Indexes.empty K

namespace Accessor

/-- What a load does: on success it takes the container over, with the index of its records, and
logs one line for each repeated key. -/
theorem load_ok {a b : Accessor} {container : Container} {lines : List LogLine}
    (loaded : a.load container = (lines, .ok b)) :
    (indexRecords {} container.records).stopped = none ∧
      b = { a with container := container, index := (indexRecords {} container.records).index
                   duplicates := (indexRecords {} container.records).duplicates } ∧
      lines = b.duplicates.map a.duplicateLine := by
  unfold load at loaded
  cases stopped : (indexRecords {} container.records).stopped with
  | some e => simp [stopped] at loaded
  | none =>
    simp only [stopped, Prod.mk.injEq, Except.ok.injEq] at loaded
    obtain ⟨rfl, rfl⟩ := loaded
    exact ⟨rfl, rfl, rfl⟩

end Accessor

namespace AccessorStep

/-- A step that hands a container over is a load of it. -/
theorem run_of_delivers {a : Accessor} {step : AccessorStep} {container : Container}
    (delivered : step.delivers a = some container) : step.run a = a.load container := by
  have asset (payload : Value)
      (built : (a.type.container.fromAsset payload).toOption = some container) :
      a.loadAsset payload = a.load container := by
    unfold Accessor.loadAsset
    cases found : a.type.container.fromAsset payload with
    | error e => simp [found, Except.toOption] at built
    | ok c =>
      simp only [found, Except.toOption, Option.some.injEq] at built
      rw [built]
  cases step with
  | load c =>
    cases delivered
    rfl
  | loadAsset payload => exact asset payload delivered
  | loadFetched fetched =>
    cases fetched with
    | error e => cases delivered
    | ok payload => exact asset payload delivered
  | _ => cases delivered

/-- A step that hands no container over leaves the accessor as it is. -/
theorem after_of_delivers_none {a : Accessor} {step : AccessorStep}
    (nothing : step.delivers a = none) : step.after a = a := by
  have lookup {ε α : Type} (wrap : ε → Failure) (answer : Except ε α) :
      (match unchanged wrap a answer with
        | .ok b => b
        | .error _ => a) = a := by
    cases answer <;> rfl
  have asset (payload : Value) (built : (a.type.container.fromAsset payload).toOption = none) :
      (match (a.loadAsset payload).2 with
        | .ok b => b
        | .error _ => a) = a := by
    unfold Accessor.loadAsset
    cases found : a.type.container.fromAsset payload with
    | error e => rfl
    | ok c => simp [found, Except.toOption] at built
  cases step with
  | load c => cases nothing
  | loadAsset payload => exact asset payload nothing
  | loadFetched fetched =>
    cases fetched with
    | error e => rfl
    | ok payload => exact asset payload nothing
  | get key => exact lookup _ _
  | getSilently key => exact lookup _ _
  | contains key => exact lookup _ _
  | containsRecord record => exact lookup Failure.record (.ok (a.containsRecord record))
  | find test => exact lookup _ _
  | findAll test => exact lookup _ _

/-- A step keeps the index of an accessor in order. -/
theorem indexed_after (K : KeyType) (a : Accessor) (step : AccessorStep) (indexed : a.Indexed K)
    (lawful : ∀ container, step.delivers a = some container →
      ∀ record ∈ container.records, ∀ key, askedKey record >>= checkKey = .ok key → K.holds key) :
    (step.after a).Indexed K := by
  cases delivered : step.delivers a with
  | none =>
    rw [after_of_delivers_none delivered]
    exact indexed
  | some container =>
    unfold after
    rw [run_of_delivers delivered]
    cases loaded : a.load container with
    | mk lines outcome =>
      cases outcome with
      | error e => exact indexed
      | ok b =>
        obtain ⟨finished, rfl, -⟩ := Accessor.load_ok loaded
        have whole := indexes_indexRecords K container.records [] {} (Indexes.empty K)
          (lawful container delivered) finished
        exact whole

end AccessorStep

/-- A step keeps the index of every accessor in order. -/
theorem Registry.indexed_after (K : KeyType) (r : Registry) (step : RegistryStep)
    (indexed : ∀ a ∈ r.accessors, a.Indexed K) (lawful : step.Lawful K r) :
    ∀ a ∈ (r.after step).accessors, a.Indexed K := by
  cases step with
  | clear =>
    intro a present
    obtain ⟨old, -, rfl⟩ := List.mem_map.mp present
    exact old.type.indexed_new K
  | access place step =>
    intro a present
    obtain ⟨other, found⟩ := List.mem_iff_getElem?.mp present
    rw [after, List.getElem?_modify] at found
    obtain ⟨old, stood, same⟩ := Option.map_eq_some_iff.mp found
    have before := indexed old (List.mem_of_getElem? stood)
    by_cases here : place = other
    · subst here
      rw [if_pos rfl] at same
      subst same
      exact step.indexed_after K old before (lawful old stood)
    · rw [if_neg here] at same
      subst same
      exact before

/-- Every registry that a run comes to has its indexes in order. -/
theorem Reached.indexed {K : KeyType} {types : List AccessorType} {r : Registry}
    (reached : Reached K types r) : ∀ a ∈ r.accessors, a.Indexed K := by
  induction reached with
  | start =>
    intro a present
    obtain ⟨t, -, rfl⟩ := List.mem_map.mp present
    exact t.indexed_new K
  | next r step _ lawful inductionHypothesis =>
    exact r.indexed_after K step inductionHypothesis lawful

/-- Asking every record gives those that match, when none refuses. -/
theorem Accessor.findAll_eq (test : Entries → Except Failure Bool) (isMatch : Entries → Bool)
    (records : List Entries) (answers : ∀ record ∈ records, test record = .ok (isMatch record)) :
    Accessor.findAll test records = .ok (records.filter isMatch) := by
  induction records with
  | nil => rfl
  | cons record rest inductionHypothesis =>
    have others := inductionHypothesis fun other present => answers other (List.mem_cons_of_mem record present)
    simp only [findAll, answers record List.mem_cons_self, others, bind, Except.bind, pure, Except.pure,
      List.filter_cons]

/-- Whether the key of a record equals a given one, as a caller of an accessor would ask. -/
def hasKey (key : Value) (record : Entries) : Except Failure Bool :=
  ((askedKey record).mapError .record).map (Value.same · key)

namespace Accessor.Indexed

variable {K : KeyType} {a : Accessor}

/-- All records with a key, in row order. -/
theorem findAll_hasKey (indexed : a.Indexed K) (key : Value) :
    Accessor.findAll (hasKey key) a.container.records =
      .ok (a.container.records.filter fun record => Value.same (recordKey record) key) := by
  refine Accessor.findAll_eq _ _ _ fun record present => ?_
  rw [hasKey, indexed.asked record present]
  rfl

/-- A lookup gives the last of them. -/
theorem getSilently_eq (indexed : a.Indexed K) (key : Value) (holds : K.holds key) :
    a.getSilently key = .ok (a.container.records.filter fun record =>
      Value.same (recordKey record) key).getLast? := by
  rw [getSilently, checkKey, if_pos (K.isKey key holds)]
  show Except.ok (a.index.find? key) = _
  rw [indexed.finds key holds, lastWith_eq_getLast?]

/-- A key is held exactly when some record answers with it. -/
theorem contains_iff (indexed : a.Indexed K) (key : Value) (holds : K.holds key) :
    a.contains key = .ok true ↔
      ∃ record ∈ a.container.records, ∃ own, askedKey record = .ok own ∧ Value.same own key = true := by
  have answer : a.contains key = .ok (lastWith key a.container.records).isSome := by
    rw [contains, getSilently, checkKey, if_pos (K.isKey key holds)]
    show Except.ok (a.index.find? key).isSome = _
    rw [indexed.finds key holds]
  rw [answer, Except.ok.injEq, lastWith_isSome, keysOf, List.any_map, List.any_eq_true]
  refine exists_congr fun record => and_congr_right fun present => ?_
  rw [indexed.asked record present]
  simp

end Accessor.Indexed

/-- The invariant of accessors over whole runs. After every step of a run, for every accessor:
a key is held exactly when some record of the container has it, and a lookup gives the last one that
does; the index lists the keys in the order of their first occurrence; the repeated keys are those,
in row order, that occurred before, so that the lengths add up. And whatever is done next: a step that
fails leaves every accessor as it was, and a load that succeeds takes its container over and logs
exactly one warning for each repeated key. -/
theorem index_invariant {K : KeyType} {types : List AccessorType} {r : Registry}
    (reached : Reached K types r) :
    (∀ a ∈ r.accessors,
      (∀ key, K.holds key →
        (a.contains key = .ok true ↔ ∃ record ∈ a.container.records, ∃ own,
          askedKey record = .ok own ∧ Value.same own key = true) ∧
        ∃ found, Accessor.findAll (hasKey key) a.container.records = .ok found ∧
          a.getSilently key = .ok found.getLast?) ∧
      (∀ record ∈ a.container.records, askedKey record = .ok (recordKey record)) ∧
      a.index.map Prod.fst = firstKeys [] (keysOf a.container.records) ∧
      a.duplicates = repeatedKeys [] (keysOf a.container.records) ∧
      a.index.length + a.duplicates.length = a.container.records.length) ∧
    ∀ place a step, r.accessors[place]? = some a →
      (∀ lines e, step.run a = (lines, .error e) → r.after (.access place step) = r) ∧
      ∀ container lines b, step.delivers a = some container → step.run a = (lines, .ok b) →
        b.container = container ∧ lines = b.duplicates.map a.duplicateLine ∧
          lines.length = b.duplicates.length := by
  refine ⟨fun a present => ?_, fun place a step found => ⟨fun lines e failed => ?_, ?_⟩⟩
  · have indexed := reached.indexed a present
    refine ⟨fun key holds => ⟨indexed.contains_iff key holds, _, indexed.findAll_hasKey key,
      indexed.getSilently_eq key holds⟩, indexed.asked, indexed.order, indexed.repeats,
      indexed.length_eq⟩
  · have same : step.after a = a := by rw [AccessorStep.after, failed]
    have kept : r.accessors.modify place step.after = r.accessors := by
      refine List.ext_getElem? fun other => ?_
      rw [List.getElem?_modify]
      by_cases here : place = other
      · subst here
        rw [found]
        simp [same]
      · simp [here]
    rw [Registry.after, kept]
  · intro container lines b delivered ran
    rw [AccessorStep.run_of_delivers delivered] at ran
    obtain ⟨-, taken, logged⟩ := Accessor.load_ok ran
    refine ⟨by rw [taken], logged, ?_⟩
    rw [logged, List.length_map]

/-- An accessor of a sheet of items. -/
def itemAccess : AccessorType :=
  { identity := 0, className := "ItemDAO", name := "Item", assetPath := "Item.asset"
    container := { name := "ItemDTO", record := none } }

/-- Two items with one key. -/
def twinItems : Container :=
  { typeName := "ItemDTO"
    records := [[("id", .int 1), ("price", .int 10)], [("id", .int 1), ("price", .int 20)]] }

/-- After two items with one key were loaded, the later one is found. -/
theorem index_invariant_twins :
    ∃ r a, Reached plainKeys [itemAccess] r ∧ a ∈ r.accessors ∧ a.container = twinItems ∧
      a.getSilently (.int 1) = .ok (some [("id", .int 1), ("price", .int 20)]) ∧
      a.index.length + a.duplicates.length = 2 := by
  have reached : Reached plainKeys [itemAccess]
      (Registry.after { accessors := [itemAccess.new] } (.access 0 (.load twinItems))) := by
    refine .next _ _ .start ?_
    intro a found container delivered record present key asked
    cases delivered
    refine ⟨.inr 1, ?_⟩
    rcases List.mem_cons.mp present with rfl | present
    · cases asked
      rfl
    · obtain rfl := List.mem_singleton.mp present
      cases asked
      rfl
  obtain ⟨holding, -⟩ := index_invariant reached
  obtain ⟨lookups, -, -, -, counted⟩ := holding _ List.mem_cons_self
  obtain ⟨-, found, all, last⟩ := lookups (.int 1) ⟨.inr 1, rfl⟩
  refine ⟨_, _, reached, List.mem_cons_self, rfl, ?_, counted⟩
  have equal : Value.same (.int 1) (.int 1) = true := (same_iff_keyCode? rfl rfl).mpr rfl
  cases all
  refine last.trans ?_
  simp [recordKey, equal]

end TypedSheets
