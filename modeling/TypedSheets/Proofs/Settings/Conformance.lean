import Mathlib.Tactic.ByContra
import TypedSheets.Proofs.Outcomes
import TypedSheets.Settings

/-!
# Mappings that conform

A mapping conforms when it has no other keys than those of the settings, each required one, and under each
key a value that is admitted there. The check accepts exactly the mappings that conform, and the settings
hold what the mapping has under the keys. Of another mapping it reports a violation, unless the violation
has no wording: a key or a value in it is shown, and an integer of too many digits cannot be.
-/

namespace TypedSheets.Settings

open TypedSheets.Number TypedSheets.Text

/-- A package name: a letter or an underscore, then letters, digits and underscores; one line feed may
follow. -/
def IsPackageName (text : String) : Prop :=
  ∃ first rest, (text.toList = first :: rest ∨ text.toList = first :: rest ++ ['\n']) ∧
    isPackageStart first = true ∧ ∀ c ∈ rest, c.isAlphanum = true ∨ c = '_'

/-- What is admitted under a key. -/
def Admits : Demand → Value → Prop
  | .filledText, value => ∃ s, value = .text s ∧ s ≠ ""
  | .packageName, value => value = .null ∨ ∃ s, value = .text s ∧ IsPackageName s

/-- What a mapping has under a key, if anything, is admitted there. -/
def AdmittedUnder (data : List (Value × Value)) (key : String) : Prop :=
  ∀ value, Value.lookup? (.text key) data = some value → Admits (demandOf key) value

/-- A mapping has no other keys than those of the settings. -/
def OnlyKnown (data : List (Value × Value)) : Prop := ∀ entry ∈ data, ∃ key ∈ keys, entry.1 = .text key

/-- A mapping has each key that settings need. -/
def Complete (data : List (Value × Value)) : Prop :=
  ∀ key ∈ requiredKeys, Value.lookup? (.text key) data ≠ none

/-- A mapping that settings can be made of. -/
structure Conforms (data : List (Value × Value)) : Prop where
  known : OnlyKnown data
  complete : Complete data
  admitted : ∀ key ∈ keys, AdmittedUnder data key

/-- Settings that hold what a mapping has under their keys; logs have a directory by default. -/
structure BuiltFrom (data : List (Value × Value)) (s : Settings) : Prop where
  source : Value.lookup? (.text "source_directory") data = some (.text s.source)
  code : Value.lookup? (.text "code_destination") data = some (.text s.code)
  asset : Value.lookup? (.text "asset_destination") data = some (.text s.asset)
  project : ∀ name, s.project = some name ↔ Value.lookup? (.text "project_code") data = some (.text name)
  logs : (Value.lookup? (.text "log_dir") data).getD (.text "./logs") = .text s.logs

/-- A value is not shown: an integer in it has too many digits. -/
def Unshown (value : Value) : Prop := value.shown = .error {}

/-- Under some keys, the first value that is not admitted is not shown. -/
inductive FirstUnshown (data : List (Value × Value)) : List String → Prop
  | here (key : String) (rest : List String) (value : Value)
      (held : Value.lookup? (.text key) data = some value) (unshown : Unshown value) :
      FirstUnshown data (key :: rest)
  | behind (key : String) (rest : List String) (admitted : AdmittedUnder data key)
      (further : FirstUnshown data rest) : FirstUnshown data (key :: rest)

/-- A mapping with a violation that has no wording. Keys that are not known are all shown; otherwise the
values are looked at from the greatest key on. -/
inductive Unworded (data : List (Value × Value)) : Prop
  | key (entry : Value × Value) (member : entry ∈ data) (unknown : ∀ key ∈ keys, entry.1 ≠ .text key)
      (unshown : Unshown entry.1)
  | value (known : OnlyKnown data) (complete : Complete data) (unshown : FirstUnshown data keys.reverse)

section Check

variable {data : List (Value × Value)}

theorem isPackageName_iff (text : String) : isPackageName text = true ↔ IsPackageName text := by
  unfold isPackageName IsPackageName
  generalize text.toList = cs
  dsimp only
  constructor
  · intro accepted
    split at accepted
    · cases accepted
    · next first rest bare =>
      simp only [Bool.and_eq_true, List.all_eq_true, Bool.or_eq_true, beq_iff_eq] at accepted
      refine ⟨first, rest, ?_, accepted⟩
      split at bare
      · next last =>
        obtain ⟨before, rfl⟩ := List.getLast?_eq_some_iff.mp (beq_iff_eq.mp last)
        rw [List.dropLast_concat] at bare
        exact .inr (by rw [bare])
      · exact .inl bare
  · rintro ⟨first, rest, whole, start, others⟩
    have bare : (if cs.getLast? == some '\n' then cs.dropLast else cs) = first :: rest := by
      rcases whole with rfl | rfl
      · -- the last character is one of a package name, so it is no line feed
        have plain : ∀ c ∈ first :: rest, c ≠ '\n' := by
          rintro c member rfl
          rcases List.mem_cons.mp member with rfl | member
          · exact absurd start (by decide)
          · exact absurd (others _ member) (by decide)
        have last : (first :: rest).getLast? ≠ some '\n' := fun last =>
          plain _ (List.mem_of_getLast? last) rfl
        rw [beq_false_of_ne last]
        rfl
      · rw [List.getLast?_concat, List.dropLast_concat]
        rfl
    rw [bare]
    simpa [start] using others

/-- A mapping value of the wrong kind violates in some wording, if it has one. -/
theorem map_some_ne_none {shown : Except OversizedInteger String} {f : String → String} :
    (shown.map fun text => some (f text)) ≠ .ok none := by
  cases shown <;> simp [Except.map]

theorem violation?_eq_none {demand : Demand} {value : Value} :
    violation? demand value = .ok none ↔ Admits demand value := by
  unfold violation?
  split
  · simp [Admits]
  · next other => exact iff_of_false map_some_ne_none fun ⟨s, same, _⟩ => other s same
  · simp [Admits]
  · simp [Admits, isPackageName_iff]
  · next notNull other =>
    refine iff_of_false map_some_ne_none ?_
    rintro (same | ⟨s, same, _⟩)
    · exact notNull same
    · exact other s same

/-- A violation has no wording when its value is not shown. -/
theorem violation?_eq_error {demand : Demand} {value : Value} {e : OversizedInteger} :
    violation? demand value = .error e ↔ Unshown value := by
  have text (s : String) : (Value.text s).shown = .ok (quote s) := rfl
  have null : Value.null.shown = .ok "None" := rfl
  unfold violation? Unshown
  split
  · simp [text]
  · cases Value.shown _ <;> simp [Except.map]
  · simp [null]
  · simp [text]
  · cases Value.shown _ <;> simp [Except.map]

/-- Going through keys finds no violation when all that is under them is admitted. -/
theorem firstViolation?_eq_none {names : List String} :
    firstViolation? data names = .ok none ↔ ∀ key ∈ names, AdmittedUnder data key := by
  induction names with
  | nil => simp [firstViolation?]
  | cons key rest inductionHypothesis =>
    rw [List.forall_mem_cons, ← inductionHypothesis, firstViolation?, AdmittedUnder]
    cases held : Value.lookup? (.text key) data with
    | none => simp
    | some value =>
      have own : Admits (demandOf key) value ↔ _ := violation?_eq_none.symm
      cases violation : violation? (demandOf key) value with
      | error e => simp [own, violation]
      | ok message => cases message <;> simp [own, violation]

theorem firstUnshown_cons {key : String} {rest : List String} :
    FirstUnshown data (key :: rest) ↔
      (∃ value, Value.lookup? (.text key) data = some value ∧ Unshown value) ∨
        AdmittedUnder data key ∧ FirstUnshown data rest := by
  constructor
  · rintro (⟨_, _, value, held, unshown⟩ | ⟨_, _, admitted, further⟩)
    · exact .inl ⟨value, held, unshown⟩
    · exact .inr ⟨admitted, further⟩
  · rintro (⟨value, held, unshown⟩ | ⟨admitted, further⟩)
    · exact .here key rest value held unshown
    · exact .behind key rest admitted further

theorem firstViolation?_eq_error {names : List String} {e : OversizedInteger} :
    firstViolation? data names = .error e ↔ FirstUnshown data names := by
  induction names with
  | nil => exact iff_of_false (by simp [firstViolation?]) (by rintro ⟨⟩)
  | cons key rest inductionHypothesis =>
    rw [firstUnshown_cons, ← inductionHypothesis, firstViolation?, AdmittedUnder]
    cases held : Value.lookup? (.text key) data with
    | none => simp
    | some value =>
      have admits : Admits (demandOf key) value ↔ _ := violation?_eq_none.symm
      have unshown : Unshown value ↔ violation? (demandOf key) value = .error e := violation?_eq_error.symm
      cases violation : violation? (demandOf key) value with
      | error cause => simp [admits, unshown, violation]
      | ok message => cases message <;> simp [admits, unshown, violation]

seal integerText? in
/-- A value has a plain text when it is shown. -/
theorem fault?_plainText (value : Value) : fault? value.plainText = fault? value.shown := by
  cases value with
  | member owner label n =>
    simp only [Value.plainText, Value.shown, Value.shownWithin, Value.shownAtom, fault?_map]
  | _ => rfl

theorem fault?_unknownKeys (unknown : List Value) :
    fault? (unknownKeys unknown) = unknown.findSome? fun key => fault? key.shown := by
  have labels (key : Value) :
      fault? (do pure ((← key.plainText), (← key.shown)) : Except OversizedInteger (String × String)) =
        fault? key.shown := by
    have same := fault?_plainText key
    rw [fault?_bind]
    split
    · rw [fault?_bind]
      cases key.shown <;> rfl
    · next e failed => rw [← same, failed]; rfl
  have labelled := fault?_mapM (fun key : Value =>
    (do pure ((← key.plainText), (← key.shown)) : Except OversizedInteger (String × String))) unknown
  simp only [labels] at labelled
  rw [unknownKeys, fault?_bind, ← labelled]
  split
  · next texts written => rw [written]; rfl
  · next e failed => rw [failed]; rfl

/-- The keys that are not known. -/
theorem mem_unknown {key : Value} :
    key ∈ (data.map Prod.fst).filter (fun key => !isKnown key) ↔
      (∃ entry ∈ data, entry.1 = key) ∧ ∀ name ∈ keys, key ≠ .text name := by
  have known : isKnown key = true ↔ ∃ name ∈ keys, key = .text name := by
    unfold isKnown
    split
    · next name => simp
    · next other => exact iff_of_false Bool.false_ne_true fun ⟨name, _, same⟩ => other name same
  rw [List.mem_filter, Bool.not_eq_true', Bool.eq_false_iff, ne_eq, known, List.mem_map]
  simp

theorem unknown_eq_nil : (data.map Prod.fst).filter (fun key => !isKnown key) = [] ↔ OnlyKnown data := by
  rw [List.eq_nil_iff_forall_not_mem]
  constructor
  · intro none entry member
    by_contra unknown
    exact none entry.1 (mem_unknown.mpr
      ⟨⟨entry, member, rfl⟩, fun name among same => unknown ⟨name, among, same⟩⟩)
  · rintro known key unknown
    obtain ⟨⟨entry, member, rfl⟩, other⟩ := mem_unknown.mp unknown
    obtain ⟨name, among, same⟩ := known entry member
    exact other name among same

/-- A mapping with a key that is not known is refused for it. -/
theorem check_of_unknown (unknown : ¬OnlyKnown data) :
    check data = (unknownKeys ((data.map Prod.fst).filter fun key => !isKnown key)).map some := by
  have some := List.isEmpty_eq_false_iff.mpr (mt unknown_eq_nil.mp unknown)
  exact if_pos (by rw [some]; rfl)

/-- With known keys only, the required ones are asked for first. -/
theorem check_of_known (known : OnlyKnown data) : check data =
    match requiredKeys.find? fun key => (Value.lookup? (.text key) data).isNone with
    | some key => .ok (some (quote key ++ " is a required property"))
    | none => firstViolation? data keys.reverse := by
  have none := List.isEmpty_iff.mpr (unknown_eq_nil.mpr known)
  exact if_neg (by rw [none]; decide)

/-- A mapping that lacks a required key is refused for that. -/
theorem check_of_incomplete (known : OnlyKnown data) (incomplete : ¬Complete data) :
    ∃ message, check data = .ok (some message) := by
  have missing : (requiredKeys.find? fun key => (Value.lookup? (.text key) data).isNone) ≠ none := by
    intro all
    refine incomplete fun key among absent => List.find?_eq_none.mp all key among ?_
    rw [absent, Option.isNone_none]
  obtain ⟨key, found⟩ := Option.ne_none_iff_exists'.mp missing
  rw [check_of_known known, found]
  exact ⟨_, rfl⟩

/-- Otherwise the values decide. -/
theorem check_of_complete (known : OnlyKnown data) (complete : Complete data) :
    check data = firstViolation? data keys.reverse := by
  have all : (requiredKeys.find? fun key => (Value.lookup? (.text key) data).isNone) = none :=
    List.find?_eq_none.mpr fun key among absent => complete key among (Option.isNone_iff_eq_none.mp absent)
  rw [check_of_known known, all]

/-- The check finds nothing exactly in the mappings that conform. -/
theorem check_eq_none : check data = .ok none ↔ Conforms data := by
  by_cases known : OnlyKnown data
  · by_cases complete : Complete data
    · rw [check_of_complete known complete, firstViolation?_eq_none]
      simp only [List.mem_reverse]
      exact ⟨fun admitted => ⟨known, complete, admitted⟩, Conforms.admitted⟩
    · obtain ⟨message, refused⟩ := check_of_incomplete known complete
      rw [refused]
      exact iff_of_false (by simp) fun conforms => complete conforms.complete
  · rw [check_of_unknown known]
    refine iff_of_false ?_ fun conforms => known conforms.known
    cases unknownKeys _ <;> simp [Except.map]

/-- Unknown keys have no wording when one of them is not shown. -/
theorem unknownKeys_eq_error {unknown : List Value} {e : OversizedInteger} :
    unknownKeys unknown = .error e ↔ ∃ key ∈ unknown, Unshown key := by
  rw [← fault?_eq_some, fault?_unknownKeys]
  constructor
  · intro failed
    obtain ⟨key, member, failed⟩ := List.exists_of_findSome?_eq_some failed
    exact ⟨key, member, fault?_eq_some.mp failed⟩
  · rintro ⟨key, member, unshown⟩
    cases first : unknown.findSome? fun key => fault? key.shown with
    | some cause => rfl
    | none =>
      have shown := List.findSome?_eq_none_iff.mp first key member
      rw [unshown] at shown
      cases shown

/-- The check fails exactly where the violation that it would report has no wording. -/
theorem check_eq_error {e : OversizedInteger} : check data = .error e ↔ Unworded data := by
  by_cases known : OnlyKnown data
  · have value (unworded : Unworded data) : Complete data ∧ FirstUnshown data keys.reverse := by
      cases unworded with
      | key entry member unknown _ =>
        obtain ⟨name, among, same⟩ := known entry member
        exact absurd same (unknown name among)
      | value _ complete unshown => exact ⟨complete, unshown⟩
    by_cases complete : Complete data
    · rw [check_of_complete known complete, firstViolation?_eq_error]
      exact ⟨.value known complete, fun unworded => (value unworded).2⟩
    · obtain ⟨message, refused⟩ := check_of_incomplete known complete
      rw [refused]
      exact iff_of_false (by simp) fun unworded => complete (value unworded).1
  · rw [check_of_unknown known, ← fault?_eq_some, fault?_map, fault?_eq_some, unknownKeys_eq_error]
    constructor
    · rintro ⟨key, member, unshown⟩
      obtain ⟨⟨entry, inside, rfl⟩, unknown⟩ := mem_unknown.mp member
      exact .key entry inside unknown unshown
    · rintro (⟨entry, inside, unknown, unshown⟩ | ⟨all, _, _⟩)
      · exact ⟨entry.1, mem_unknown.mpr ⟨⟨entry, inside, rfl⟩, unknown⟩, unshown⟩
      · exact absurd all known

end Check

section Data

variable {data : List (Value × Value)} {s : Settings}

/-- A mapping determines the settings that are built from it. -/
theorem BuiltFrom.unique {other : Settings} (own : BuiltFrom data s) (built : BuiltFrom data other) :
    s = other := by
  have text {found : Option Value} {a b : String} (left : found = some (.text a))
      (right : found = some (.text b)) : a = b := by
    rw [left] at right
    cases right
    rfl
  have project : s.project = other.project :=
    Option.ext fun name => (own.project name).trans (built.project name).symm
  have logs : s.logs = other.logs := Value.text.inj (own.logs.symm.trans built.logs)
  cases s
  cases other
  simp only [Settings.mk.injEq]
  exact ⟨text own.source built.source, text own.code built.code, text own.asset built.asset, project, logs⟩

theorem textUnder?_eq_some {key text : String} :
    textUnder? data key = some text ↔ Value.lookup? (.text key) data = some (.text text) := by
  unfold textUnder?
  split
  · next held => simp [held]
  · next other => exact iff_of_false (by simp) (other text)

/-- Under a required key of a mapping that conforms is a text. -/
theorem Conforms.exists_text (conforms : Conforms data) (key : String) (required : key ∈ requiredKeys) :
    ∃ text, textUnder? data key = some text := by
  have known : key ∈ keys ∧ key ≠ "project_code" := by
    revert key
    decide
  obtain ⟨value, held⟩ := Option.ne_none_iff_exists'.mp (conforms.complete key required)
  have admits := conforms.admitted key known.1 value held
  rw [demandOf, if_neg known.2] at admits
  obtain ⟨text, rfl, -⟩ := admits
  exact ⟨text, textUnder?_eq_some.mpr held⟩

/-- Settings are made exactly of the mappings that conform, and hold what these have under the keys. -/
theorem ofData_eq_ok : ofData data = .ok s ↔ Conforms data ∧ BuiltFrom data s := by
  have built (conforms : Conforms data) : ∃ own, ofData data = .ok own ∧ BuiltFrom data own := by
    obtain ⟨source, first⟩ := conforms.exists_text "source_directory" (by decide)
    obtain ⟨code, second⟩ := conforms.exists_text "code_destination" (by decide)
    obtain ⟨asset, third⟩ := conforms.exists_text "asset_destination" (by decide)
    rw [ofData, check_eq_none.mpr conforms]
    refine ⟨_, rfl, ?_, ?_, ?_, ?_, ?_⟩
    · rw [first]; exact textUnder?_eq_some.mp first
    · rw [second]; exact textUnder?_eq_some.mp second
    · rw [third]; exact textUnder?_eq_some.mp third
    · intro name
      rw [← textUnder?_eq_some]
      split
      · next empty =>
        have admits := conforms.admitted "project_code" (by decide) _ (textUnder?_eq_some.mp empty)
        obtain ⟨_, ⟨⟩, _, _, whole | whole, _⟩ : ∃ s, Value.text "" = .text s ∧ IsPackageName s := by
          exact admits.resolve_left (by simp)
        · cases whole
        · cases whole
      · rfl
    · cases held : Value.lookup? (.text "log_dir") data with
      | none =>
        have absent : textUnder? data "log_dir" = none := by rw [textUnder?, held]
        rw [absent]
        rfl
      | some value =>
        obtain ⟨text, rfl, -⟩ : ∃ s, value = .text s ∧ s ≠ "" :=
          conforms.admitted "log_dir" (by decide) value held
        rw [textUnder?_eq_some.mpr held]
        rfl
  constructor
  · intro made
    have conforms : Conforms data := by
      unfold ofData at made
      split at made
      · cases made
      · cases made
      · next none => exact check_eq_none.mp none
    obtain ⟨own, same, holds⟩ := built conforms
    rw [made] at same
    cases same
    exact ⟨conforms, holds⟩
  · rintro ⟨conforms, holds⟩
    obtain ⟨own, made, other⟩ := built conforms
    rw [made, holds.unique other]

/-- Of another mapping a violation is reported, unless it has no wording. -/
theorem ofData_eq_error {e : Failure} :
    ofData data = .error e ↔
      (∃ message, check data = .ok (some message) ∧ e = .settings ("config validation failed: " ++ message)) ∨
        Unworded data ∧ e = .oversized {} := by
  rw [← check_eq_error (e := {}), ofData]
  cases check data with
  | error cause => simp [eq_comm]
  | ok message => cases message <;> simp [eq_comm]

end Data

end TypedSheets.Settings
