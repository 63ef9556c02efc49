/-!
# Outcomes in sequence

When a sequence of parts ends well, each part has ended well, with a result that the next one goes on
with.
-/

namespace TypedSheets

variable {ε α β : Type} {outcome : Except ε α} {next : α → Except ε β} {b : β}

/-- Two parts that both end well. -/
theorem bind_eq_ok (ended : (outcome >>= next) = .ok b) :
    ∃ a, outcome = .ok a ∧ next a = .ok b := by
  cases outcome with
  | ok a => exact ⟨a, rfl, ended⟩
  | error e => cases ended

/-- Two parts fail where one of them does. -/
theorem bind_eq_error {e : ε} :
    (outcome >>= next) = .error e ↔ outcome = .error e ∨ ∃ a, outcome = .ok a ∧ next a = .error e := by
  constructor
  · intro ended
    cases outcome with
    | ok a => exact .inr ⟨a, rfl, ended⟩
    | error cause =>
      cases ended
      exact .inl rfl
  · rintro (rfl | ⟨a, rfl, failed⟩)
    · rfl
    · exact failed

/-- A part that is skipped on a condition, with a result that stands for its own. -/
theorem bind_ite_eq_ok {condition : Prop} [Decidable condition] {a : α}
    (ended : (if condition then pure a >>= next else outcome >>= next) = .ok b) :
    ∃ given, (¬condition → outcome = .ok given) ∧ (condition → given = a) ∧ next given = .ok b := by
  split at ended
  · next holds => exact ⟨a, fun fails => absurd holds fails, fun _ => rfl, ended⟩
  · next fails =>
    obtain ⟨given, known, further⟩ := bind_eq_ok ended
    exact ⟨given, fun _ => known, fun holds => absurd holds fails, further⟩

/-- What follows a part may be exchanged for what gives the same as far as it is looked at. -/
theorem map_bind_congr {γ : Type} {view : β → γ} {other : α → Except ε β}
    (same : ∀ a, (next a).map view = (other a).map view) :
    (outcome >>= next).map view = (outcome >>= other).map view := by
  cases outcome with
  | ok a => exact same a
  | error e => rfl

/-- Parts that end the same as far as it is looked at, and with the same result when both end well. -/
theorem eq_of_map_eq {view : α → β} {other : Except ε α} (same : outcome.map view = other.map view)
    (results : ∀ a b, outcome = .ok a → other = .ok b → a = b) : outcome = other := by
  cases outcome with
  | ok a =>
    cases other with
    | ok b => rw [results a b rfl rfl]
    | error e => cases same
  | error e =>
    cases other with
    | ok b => cases same
    | error cause => exact congrArg Except.error (Except.error.inj same)

/-- A list of parts ends well when the first one and the others do. -/
theorem mapM_cons_eq_ok {part : α → Except ε β} {a : α} {rest : List α} {results : List β} :
    (a :: rest).mapM part = .ok results ↔
      ∃ first others, part a = .ok first ∧ rest.mapM part = .ok others ∧ results = first :: others := by
  rw [List.mapM_cons]
  constructor
  · intro ended
    obtain ⟨first, own, further⟩ := bind_eq_ok ended
    obtain ⟨others, later, last⟩ := bind_eq_ok further
    cases last
    exact ⟨first, others, own, later, rfl⟩
  · rintro ⟨first, others, own, later, rfl⟩
    rw [own, later]
    rfl

/-- When all parts end well, what they end with are the results. -/
theorem mem_of_mapM {part : α → Except ε β} {all : List α} {results : List β}
    (ended : all.mapM part = .ok results) :
    (∀ a ∈ all, ∃ b ∈ results, part a = .ok b) ∧ ∀ b ∈ results, ∃ a ∈ all, part a = .ok b := by
  induction all generalizing results with
  | nil =>
    cases ended
    exact ⟨by simp, by simp⟩
  | cons first rest inductionHypothesis =>
    obtain ⟨b, others, own, later, rfl⟩ := mapM_cons_eq_ok.mp ended
    obtain ⟨parts, results⟩ := inductionHypothesis later
    constructor
    · intro a member
      rcases List.mem_cons.mp member with rfl | behind
      · exact ⟨b, List.mem_cons_self, own⟩
      · obtain ⟨other, listed, same⟩ := parts a behind
        exact ⟨other, List.mem_cons_of_mem b listed, same⟩
    · intro other member
      rcases List.mem_cons.mp member with rfl | behind
      · exact ⟨first, List.mem_cons_self, own⟩
      · obtain ⟨a, listed, same⟩ := results other behind
        exact ⟨a, List.mem_cons_of_mem first listed, same⟩

/-- What a part fails with, if it does. -/
def fault? : Except ε α → Option ε
  | .ok _ => none
  | .error e => some e

@[simp]
theorem fault?_eq_some {e : ε} : fault? outcome = some e ↔ outcome = .error e := by
  cases outcome <;> simp [fault?]

theorem map_eq_ok {view : α → β} : outcome.map view = .ok b ↔ ∃ a, outcome = .ok a ∧ view a = b := by
  cases outcome <;> simp [Except.map]

theorem map_eq_error {view : α → β} {e : ε} : outcome.map view = .error e ↔ outcome = .error e := by
  cases outcome <;> simp [Except.map]

theorem mapError_eq_ok {δ : Type} {wrap : ε → δ} {a : α} :
    outcome.mapError wrap = .ok a ↔ outcome = .ok a := by
  cases outcome with
  | ok b =>
    constructor
    · rintro ⟨⟩
      rfl
    · rintro ⟨⟩
      rfl
  | error cause => exact iff_of_false (by rintro ⟨⟩) (by rintro ⟨⟩)

theorem mapError_eq_error {δ : Type} {wrap : ε → δ} {e : δ} :
    outcome.mapError wrap = .error e ↔ ∃ cause, outcome = .error cause ∧ wrap cause = e := by
  cases outcome with
  | ok b => exact iff_of_false (by rintro ⟨⟩) (by rintro ⟨_, ⟨⟩, _⟩)
  | error cause =>
    constructor
    · rintro ⟨⟩
      exact ⟨cause, rfl, rfl⟩
    · rintro ⟨_, ⟨⟩, rfl⟩
      rfl

theorem fault?_map (view : α → β) : fault? (outcome.map view) = fault? outcome := by
  cases outcome <;> rfl

/-- Two parts fail as the first one does, or else as the second. -/
theorem fault?_bind :
    fault? (outcome >>= next) = match outcome with
      | .ok a => fault? (next a)
      | .error e => some e := by
  cases outcome <;> rfl

/-- A list of parts fails as the first of them that does. -/
theorem fault?_mapM (part : α → Except ε β) (all : List α) :
    fault? (all.mapM part) = all.findSome? fun a => fault? (part a) := by
  induction all with
  | nil => rfl
  | cons a rest inductionHypothesis =>
    rw [List.mapM_cons, List.findSome?_cons, ← inductionHypothesis, fault?_bind]
    cases part a with
    | error e => rfl
    | ok b => cases rest.mapM part <;> rfl

/-- Parts in sequence fail as the first one that fails; those before it end well. -/
theorem mapM_eq_error_iff {part : α → Except ε β} {all : List α} {e : ε} : all.mapM part = .error e ↔
    ∃ before a after, all = before ++ a :: after ∧ part a = .error e ∧
      ∀ b ∈ before, ∃ result, part b = .ok result := by
  have ended (a : α) : fault? (part a) = none ↔ ∃ result, part a = .ok result := by
    cases part a <;> simp [fault?]
  rw [← fault?_eq_some, fault?_mapM, List.findSome?_eq_some_iff]
  simp only [fault?_eq_some, ended]

/-- They end well when each of them does. -/
theorem mapM_eq_ok_iff {part : α → Except ε β} {all : List α} :
    (∃ results, all.mapM part = .ok results) ↔ ∀ a ∈ all, ∃ result, part a = .ok result := by
  constructor
  · rintro ⟨results, ended⟩ a member
    obtain ⟨result, -, own⟩ := (mem_of_mapM ended).1 a member
    exact ⟨result, own⟩
  · intro each
    cases ended : all.mapM part with
    | ok results => exact ⟨results, rfl⟩
    | error e =>
      obtain ⟨before, a, after, rfl, failed, -⟩ := mapM_eq_error_iff.mp ended
      obtain ⟨result, own⟩ := each a (by simp)
      rw [failed] at own
      cases own

/-- Whether a question is answered with yes. -/
def isYes : Except ε Bool → Bool
  | .ok yes => yes
  | .error _ => false

/-- Elements are picked when the question is answered for each of them. -/
theorem filterAuxM_of_answers {test : α → Except ε Bool} {all : List α}
    (answered : ∀ a ∈ all, ∃ yes, test a = .ok yes) (before : List α) :
    all.filterAuxM test before = .ok ((all.filter fun a => isYes (test a)).reverse ++ before) := by
  induction all generalizing before with
  | nil => rfl
  | cons a rest inductionHypothesis =>
    obtain ⟨yes, answer⟩ := answered a List.mem_cons_self
    have further := inductionHypothesis fun other member => answered other (List.mem_cons_of_mem a member)
    rw [List.filterAuxM, answer]
    cases yes with
    | false =>
      rw [List.filter_cons_of_neg (by rw [answer]; exact Bool.false_ne_true)]
      exact further before
    | true =>
      rw [List.filter_cons_of_pos (by rw [answer]; rfl), List.reverse_cons, List.append_assoc]
      exact further (a :: before)

theorem answers_of_filterAuxM {test : α → Except ε Bool} {all before picked : List α}
    (ended : all.filterAuxM test before = .ok picked) : ∀ a ∈ all, ∃ yes, test a = .ok yes := by
  induction all generalizing before with
  | nil =>
    intro a member
    cases member
  | cons first rest inductionHypothesis =>
    obtain ⟨yes, answer, further⟩ := bind_eq_ok ended
    intro a member
    rcases List.mem_cons.mp member with rfl | later
    · exact ⟨yes, answer⟩
    · exact inductionHypothesis further a later

theorem filterM_eq_ok {test : α → Except ε Bool} {all picked : List α} :
    all.filterM test = .ok picked ↔
      (∀ a ∈ all, ∃ yes, test a = .ok yes) ∧ picked = all.filter fun a => isYes (test a) := by
  constructor
  · intro ended
    obtain ⟨reversed, taken, rest⟩ := bind_eq_ok ended
    have answered := answers_of_filterAuxM taken
    rw [filterAuxM_of_answers answered] at taken
    cases taken
    cases rest
    exact ⟨answered, by simp⟩
  · rintro ⟨answered, rfl⟩
    rw [List.filterM, filterAuxM_of_answers answered]
    simp [bind, Except.bind, pure, Except.pure]

end TypedSheets
