import Mathlib.Data.List.Forall2

/-!
# Lists that are related in turn

Two lists are related in turn when they are equally long and each element of one is related to the element of
the other in the same place. What is known of the elements is told here of the lists.
-/

namespace TypedSheets

/-- Every element on the right of a relation between lists has a partner on the left. -/
theorem exists_of_forall₂ {α β : Type} {related : α → β → Prop} {left : List α} {right : List β}
    (each : List.Forall₂ related left right) {b : β} (member : b ∈ right) :
    ∃ a ∈ left, related a b := by
  induction each with
  | nil => cases member
  | cons first _ inductionHypothesis =>
    rcases List.mem_cons.mp member with rfl | later
    · exact ⟨_, List.mem_cons_self, first⟩
    · obtain ⟨a, inside, holds⟩ := inductionHypothesis later
      exact ⟨a, List.mem_cons_of_mem _ inside, holds⟩

/-- Relations between lists hold of their elements, so what they imply holds of the lists. -/
theorem forall₂_imp_of_mem {α β : Type} {related other : α → β → Prop} {left : List α} {right : List β}
    (each : List.Forall₂ related left right) (imp : ∀ a, ∀ b ∈ right, related a b → other a b) :
    List.Forall₂ other left right := by
  induction each with
  | nil => exact .nil
  | cons first _ inductionHypothesis =>
    exact .cons (imp _ _ List.mem_cons_self first)
      (inductionHypothesis fun a b member => imp a b (List.mem_cons_of_mem _ member))

/-- Related elements that look the same give lists that look the same. -/
theorem map_eq_of_forall₂ {α β γ : Type} {related : α → β → Prop} {left : List α} {right : List β}
    {f : α → γ} {g : β → γ} (each : List.Forall₂ related left right)
    (same : ∀ a b, related a b → f a = g b) : left.map f = right.map g := by
  induction each with
  | nil => rfl
  | cons first _ inductionHypothesis =>
    rw [List.map_cons, List.map_cons, same _ _ first, inductionHypothesis]

/-- The same, told from right to left. -/
theorem map_of_forall₂ {α β γ : Type} {related : α → β → Prop} {left : List α} {right : List β}
    {f : α → γ} {g : β → γ} (each : List.Forall₂ related left right)
    (same : ∀ a b, related a b → g b = f a) : right.map g = left.map f :=
  (map_eq_of_forall₂ each fun a b related => (same a b related).symm).symm

end TypedSheets
