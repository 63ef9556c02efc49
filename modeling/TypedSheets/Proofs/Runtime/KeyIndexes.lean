import Mathlib.Tactic.ByContra
import Mathlib.Tactic.SplitIfs
import TypedSheets.Accessor

/-!
# Indexing records by their keys

Going through records in row order, the index holds under each key the last record with it, in the
order in which the keys first occur, and the keys that occurred before are set aside. This asks of
the keys only that equality by meaning is an equivalence among them, which it is not for a
not-a-number.
-/

namespace TypedSheets

/-- The values of a type of keys: each can be a key, and equality is an equivalence among them. -/
structure KeyType where
  holds : Value → Prop
  isKey : ∀ a, holds a → a.isKey = true
  refl : ∀ a, holds a → Value.same a a = true
  symm : ∀ a b, holds a → holds b → Value.same a b = true → Value.same b a = true
  trans : ∀ a b c, holds a → holds b → holds c → Value.same a b = true → Value.same b c = true →
    Value.same a c = true

/-- What texts, integers, truth values and members of enumerations are told apart by. -/
def keyCode? : Value → Option (String ⊕ Int)
  | .text s => some (.inl s)
  | .int n => some (.inr n)
  | .bool truth => some (.inr (if truth then 1 else 0))
  | .member _ _ n => some (.inr n)
  | _ => none

/-- Two such values are equal by meaning exactly when their codes are. -/
theorem same_iff_keyCode? {a b : Value} {x y : String ⊕ Int} (first : keyCode? a = some x)
    (second : keyCode? b = some y) : Value.same a b = true ↔ x = y := by
  unfold keyCode? at first second
  split at first <;> split at second <;> cases first <;> cases second <;>
    simp [Value.same, Value.sameAtom, Value.numeral?, Value.dateTime?, Value.Numeral.compare?]

/-- The keys that sheets have are texts, integers, truth values and members. -/
def plainKeys : KeyType where
  holds a := ∃ x, keyCode? a = some x
  isKey a known := by
    obtain ⟨x, code⟩ := known
    unfold keyCode? at code
    split at code
    all_goals first
      | rfl
      | cases code
  refl a known := by
    obtain ⟨x, code⟩ := known
    exact (same_iff_keyCode? code code).mpr rfl
  symm a b first second same := by
    obtain ⟨x, codeA⟩ := first
    obtain ⟨y, codeB⟩ := second
    exact (same_iff_keyCode? codeB codeA).mpr ((same_iff_keyCode? codeA codeB).mp same).symm
  trans a b c first second third left right := by
    obtain ⟨x, codeA⟩ := first
    obtain ⟨y, codeB⟩ := second
    obtain ⟨z, codeC⟩ := third
    exact (same_iff_keyCode? codeA codeC).mpr
      (((same_iff_keyCode? codeA codeB).mp left).trans ((same_iff_keyCode? codeB codeC).mp right))

/-- The keys of records, in row order. -/
def keysOf (records : List Entries) : List Value := records.map recordKey

/-- The keys that did not occur before, in order. -/
def firstKeys (before : List Value) : List Value → List Value
  | [] => []
  | key :: rest =>
    if before.any (Value.same · key) then firstKeys (before ++ [key]) rest
    else key :: firstKeys (before ++ [key]) rest

/-- The keys that occurred before, in order. -/
def repeatedKeys (before : List Value) : List Value → List Value
  | [] => []
  | key :: rest =>
    if before.any (Value.same · key) then key :: repeatedKeys (before ++ [key]) rest
    else repeatedKeys (before ++ [key]) rest

/-- The last record with a key. -/
def lastWith (key : Value) (records : List Entries) : Option Entries :=
  records.reverse.find? fun record => Value.same (recordKey record) key

/-- One more key counts as repeated when it is among those before it. -/
theorem firstKeys_append (before keys : List Value) (key : Value) :
    firstKeys before (keys ++ [key]) =
      firstKeys before keys ++ if (before ++ keys).any (Value.same · key) then [] else [key] := by
  induction keys generalizing before with
  | nil =>
    rw [List.nil_append, List.append_nil]
    rfl
  | cons first keys inductionHypothesis =>
    have further := inductionHypothesis (before ++ [first])
    rw [List.append_assoc, List.singleton_append] at further
    simp only [List.cons_append, firstKeys, further]
    split_ifs <;> rfl

theorem repeatedKeys_append (before keys : List Value) (key : Value) :
    repeatedKeys before (keys ++ [key]) =
      repeatedKeys before keys ++ if (before ++ keys).any (Value.same · key) then [key] else [] := by
  induction keys generalizing before with
  | nil =>
    rw [List.nil_append, List.append_nil]
    rfl
  | cons first keys inductionHypothesis =>
    have further := inductionHypothesis (before ++ [first])
    rw [List.append_assoc, List.singleton_append] at further
    simp only [List.cons_append, repeatedKeys, further]
    split_ifs <;> rfl

/-- Each key either occurs for the first time or is repeated. -/
theorem length_firstKeys (before keys : List Value) :
    (firstKeys before keys).length + (repeatedKeys before keys).length = keys.length := by
  induction keys generalizing before with
  | nil => rfl
  | cons key keys inductionHypothesis =>
    have further := inductionHypothesis (before ++ [key])
    simp only [firstKeys, repeatedKeys, List.length_cons]
    split_ifs
    · rw [List.length_cons]
      omega
    · rw [List.length_cons]
      omega

/-- One more record is the last one with its key. -/
theorem lastWith_append (key : Value) (records : List Entries) (record : Entries) :
    lastWith key (records ++ [record]) =
      if Value.same (recordKey record) key = true then some record else lastWith key records := by
  rw [lastWith, List.reverse_append, List.reverse_singleton, List.singleton_append, List.find?_cons]
  split
  · next found => rw [if_pos found]
  · next other => rw [if_neg (by simp [other]), lastWith]

/-- There is a last record with a key when there is one at all. -/
theorem lastWith_isSome (key : Value) (records : List Entries) :
    (lastWith key records).isSome = (keysOf records).any (Value.same · key) := by
  rw [Bool.eq_iff_iff, lastWith, List.find?_isSome, keysOf, List.any_map, List.any_eq_true]
  simp only [List.mem_reverse, Function.comp_apply]

/-- It is the last of all records with the key. -/
theorem lastWith_eq_getLast? (key : Value) (records : List Entries) :
    lastWith key records =
      (records.filter fun record => Value.same (recordKey record) key).getLast? := by
  rw [lastWith, ← List.head?_filter, List.filter_reverse, List.head?_reverse]

namespace KeyIndex

/-- What stands in an index after one more record. A key that is there already keeps its form, which
makes no difference to what equals it. -/
theorem find?_insert (K : KeyType) (index : KeyIndex) (key asked : Value) (record : Entries)
    (inside : ∀ entry ∈ index, K.holds entry.1) (keyHolds : K.holds key) (askedHolds : K.holds asked) :
    (index.insert key record).find? asked =
      if Value.same key asked = true then some record else index.find? asked := by
  induction index with
  | nil =>
    simp only [insert, find?, List.find?_cons, List.find?_nil]
    cases Value.same key asked <;> rfl
  | cons entry rest inductionHypothesis =>
    have entryHolds := inside entry List.mem_cons_self
    have further := inductionHypothesis fun e present => inside e (List.mem_cons_of_mem entry present)
    by_cases here : Value.same entry.1 key = true
    · have equal : Value.same entry.1 asked = Value.same key asked := by
        rw [Bool.eq_iff_iff]
        refine ⟨fun same => ?_, fun same => K.trans _ _ _ entryHolds keyHolds askedHolds here same⟩
        exact K.trans _ _ _ keyHolds entryHolds askedHolds (K.symm _ _ entryHolds keyHolds here) same
      rw [insert, if_pos here]
      simp only [find?, List.find?_cons, equal]
      cases Value.same key asked <;> rfl
    · rw [insert, if_neg here]
      by_cases found : Value.same entry.1 asked = true
      · have different : Value.same key asked = false := by
          by_contra same
          have same : Value.same key asked = true := by simpa using same
          exact here (K.trans _ _ _ entryHolds askedHolds keyHolds found
            (K.symm _ _ keyHolds askedHolds same))
        simp [find?, found, different]
      · simp only [find?, List.find?_cons, Bool.eq_false_iff.mpr found] at further ⊢
        exact further

/-- The keys of an index after one more record. -/
theorem keys_insert (index : KeyIndex) (key : Value) (record : Entries) :
    (index.insert key record).map Prod.fst =
      index.map Prod.fst ++ if (index.find? key).isSome then [] else [key] := by
  induction index with
  | nil => rfl
  | cons entry rest inductionHypothesis =>
    by_cases here : Value.same entry.1 key = true
    · simp [insert, find?, here]
    · have behind : find? (entry :: rest) key = find? rest key := by
        simp only [find?, List.find?_cons, Bool.eq_false_iff.mpr here]
      rw [insert, if_neg here, List.map_cons, inductionHypothesis, behind, List.map_cons,
        List.cons_append]

end KeyIndex

/-- What the work on records has come to: the index finds the last record with each key, in the order
of the first ones, and the repeated keys are set aside. -/
structure Indexes (K : KeyType) (records : List Entries) (index : KeyIndex) (duplicates : List Value) :
    Prop where
  asked : ∀ record ∈ records, askedKey record = .ok (recordKey record)
  inside : ∀ entry ∈ index, K.holds entry.1
  finds : ∀ key, K.holds key → index.find? key = lastWith key records
  order : index.map Prod.fst = firstKeys [] (keysOf records)
  repeats : duplicates = repeatedKeys [] (keysOf records)

theorem Indexes.empty (K : KeyType) : Indexes K [] [] [] :=
  ⟨by simp, by simp, fun _ _ => rfl, rfl, rfl⟩

/-- The index, the repeated keys and the records have matching lengths. -/
theorem Indexes.length_eq {K : KeyType} {records : List Entries} {index : KeyIndex}
    {duplicates : List Value} (indexes : Indexes K records index duplicates) :
    index.length + duplicates.length = records.length := by
  have counted := length_firstKeys [] (keysOf records)
  rw [← indexes.order, ← indexes.repeats, List.length_map, keysOf, List.length_map] at counted
  exact counted

/-- The key that is asked of a record is its first value. -/
theorem askedKey_eq {record : Entries} {key : Value} (asked : askedKey record = .ok key) :
    key = recordKey record := by
  unfold askedKey at asked
  split at asked
  · cases asked
  · cases asked
    rfl

/-- One more record. -/
theorem Indexes.next {K : KeyType} {records : List Entries} {index : KeyIndex}
    {duplicates : List Value} (indexes : Indexes K records index duplicates) (record : Entries)
    (asked : askedKey record = .ok (recordKey record)) (holds : K.holds (recordKey record)) :
    Indexes K (records ++ [record]) (index.insert (recordKey record) record)
      (if (index.find? (recordKey record)).isSome then duplicates ++ [recordKey record]
        else duplicates) := by
  have seen : (index.find? (recordKey record)).isSome =
      (keysOf records).any (Value.same · (recordKey record)) := by
    rw [indexes.finds _ holds, lastWith_isSome]
  have keys : keysOf (records ++ [record]) = keysOf records ++ [recordKey record] := by simp [keysOf]
  refine ⟨?_, ?_, ?_, ?_, ?_⟩
  · intro other present
    rcases List.mem_append.mp present with before | last
    · exact indexes.asked other before
    · rw [List.mem_singleton.mp last]
      exact asked
  · intro entry present
    have key : entry.1 ∈ (index.insert (recordKey record) record).map Prod.fst :=
      List.mem_map_of_mem present
    rw [KeyIndex.keys_insert] at key
    rcases List.mem_append.mp key with before | new
    · obtain ⟨old, inside, same⟩ := List.mem_map.mp before
      rw [← same]
      exact indexes.inside old inside
    · split_ifs at new
      · cases new
      · rw [List.mem_singleton.mp new]
        exact holds
  · intro key keyHolds
    rw [KeyIndex.find?_insert K index _ key record indexes.inside holds keyHolds, lastWith_append,
      indexes.finds key keyHolds]
  · rw [KeyIndex.keys_insert, keys, firstKeys_append, indexes.order, seen, List.nil_append]
  · rw [keys, repeatedKeys_append, List.nil_append, ← seen, indexes.repeats]
    split_ifs
    · rfl
    · rw [List.append_nil]

/-- Records are indexed as a whole unless the work is stopped. The induction is on the records that
are left; those before them are indexed. -/
theorem indexes_indexRecords (K : KeyType) (rest before : List Entries) (done : Indexing)
    (indexes : Indexes K before done.index done.duplicates)
    (lawful : ∀ record ∈ rest, ∀ key, askedKey record >>= checkKey = .ok key → K.holds key)
    (finished : (indexRecords done rest).stopped = none) :
    Indexes K (before ++ rest) (indexRecords done rest).index (indexRecords done rest).duplicates := by
  induction rest generalizing before done with
  | nil => rwa [List.append_nil]
  | cons record rest inductionHypothesis =>
    unfold indexRecords at finished ⊢
    split at finished
    · cases finished
    · next key found =>
      have holds := lawful record List.mem_cons_self key found
      obtain ⟨asked, same⟩ : askedKey record = .ok key ∧ key = recordKey record := by
        cases given : askedKey record with
        | error e => simp [given, bind, Except.bind] at found
        | ok own =>
          have checked : checkKey own = .ok key := by simpa [given, bind, Except.bind] using found
          unfold checkKey at checked
          split_ifs at checked
          cases checked
          exact ⟨rfl, askedKey_eq given⟩
      subst same
      have whole := inductionHypothesis (before ++ [record]) _ (indexes.next record asked holds)
        (fun other present => lawful other (List.mem_cons_of_mem record present)) finished
      rwa [List.append_assoc, List.singleton_append] at whole

end TypedSheets
