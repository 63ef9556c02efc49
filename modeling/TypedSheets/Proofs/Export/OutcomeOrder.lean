import Mathlib.Data.List.Nodup
import TypedSheets.Export

/-!
# The order of outcomes

Sorting by rank keeps elements of one rank in their order, so the sorted list is known from its
ranks: it is the one list in ascending order that has the same elements of each rank. The ranks of
sheets with different names follow the sheets, and every other name ranks behind them.
-/

namespace TypedSheets

variable {α : Type} (rank : α → Nat)

/-- Ranks can be compared in a row, -/
theorem rank_trans (a b c : α) : decide (rank a ≤ rank b) = true →
    decide (rank b ≤ rank c) = true → decide (rank a ≤ rank c) = true := by
  simp only [decide_eq_true_eq]
  omega

/-- and in pairs. -/
theorem rank_total (a b : α) : (decide (rank a ≤ rank b) || decide (rank b ≤ rank a)) = true := by
  simp only [Bool.or_eq_true, decide_eq_true_eq]
  omega

/-- Sorting by rank keeps the elements of one rank in order. -/
theorem filter_mergeSort (all : List α) (r : Nat) :
    (all.mergeSort fun a b => rank a ≤ rank b).filter (fun a => rank a == r) =
      all.filter fun a => rank a == r := by
  have ascending : (all.filter fun a => rank a == r).Pairwise
      fun a b => decide (rank a ≤ rank b) = true := by
    refine List.Pairwise.imp_of_mem ?_ (List.pairwise_of_forall fun _ _ => trivial)
    intro a b left right _
    have equal := (List.mem_filter.mp left).2
    have equal' := (List.mem_filter.mp right).2
    simp only [beq_iff_eq] at equal equal'
    simp only [decide_eq_true_eq]
    omega
  have part : (all.filter fun a => rank a == r).Sublist all := List.filter_sublist
  have inside := List.sublist_mergeSort (rank_trans rank) (rank_total rank) ascending part
  have again := inside.filter fun a => rank a == r
  rw [List.filter_filter] at again
  simp only [Bool.and_self] at again
  refine (again.eq_of_length ?_).symm
  exact ((List.mergeSort_perm all _).filter _).length_eq.symm

/-- Two lists in ascending order with the same elements of each rank are equal. -/
theorem eq_of_ranks (left right : List α) (leftOrder : left.Pairwise fun a b => rank a ≤ rank b)
    (rightOrder : right.Pairwise fun a b => rank a ≤ rank b)
    (same : ∀ r, left.filter (fun a => rank a == r) = right.filter fun a => rank a == r) :
    left = right := by
  induction left generalizing right with
  | nil =>
    cases right with
    | nil => rfl
    | cons b _ => simpa using same (rank b)
  | cons a left inductionHypothesis =>
    cases right with
    | nil => simpa using same (rank a)
    | cons b right =>
      obtain ⟨leftLeast, leftTail⟩ := List.pairwise_cons.mp leftOrder
      obtain ⟨rightLeast, rightTail⟩ := List.pairwise_cons.mp rightOrder
      have found : a ∈ b :: right := by
        have member : a ∈ (a :: left).filter fun x => rank x == rank a := by simp
        rw [same] at member
        exact (List.mem_filter.mp member).1
      have found' : b ∈ a :: left := by
        have member : b ∈ (b :: right).filter fun x => rank x == rank b := by simp
        rw [← same] at member
        exact (List.mem_filter.mp member).1
      have below : rank b ≤ rank a := by
        rcases List.mem_cons.mp found with rfl | later
        · exact Nat.le_refl _
        · exact rightLeast a later
      have above : rank a ≤ rank b := by
        rcases List.mem_cons.mp found' with rfl | later
        · exact Nat.le_refl _
        · exact leftLeast b later
      have first := same (rank a)
      rw [List.filter_cons_of_pos (by simp), List.filter_cons_of_pos
        (by simp only [beq_iff_eq]; omega)] at first
      obtain rfl := (List.cons.inj first).1
      congr 1
      refine inductionHypothesis right leftTail rightTail fun r => ?_
      have others := same r
      by_cases here : rank a = r
      · rw [List.filter_cons_of_pos (by simpa using here),
          List.filter_cons_of_pos (by simpa using here)] at others
        exact (List.cons.inj others).2
      · rwa [List.filter_cons_of_neg (by simpa using here),
          List.filter_cons_of_neg (by simpa using here)] at others

/-- So the sorted list is the one in ascending order with the same elements of each rank. -/
theorem mergeSort_eq_of_ranks (all sorted : List α)
    (order : sorted.Pairwise fun a b => rank a ≤ rank b)
    (same : ∀ r, sorted.filter (fun a => rank a == r) = all.filter fun a => rank a == r) :
    (all.mergeSort fun a b => rank a ≤ rank b) = sorted := by
  have ascending := List.pairwise_mergeSort (rank_trans rank) (rank_total rank) all
  refine eq_of_ranks rank _ _ (ascending.imp fun le => by simpa using le) order fun r => ?_
  rw [filter_mergeSort, same]

/-- Elements of different ranks may be divided in two: those of each rank stay the same. -/
theorem filter_divided (own : List α) (order : own.Pairwise fun a b => rank a < rank b)
    (first : α → Bool) (r : Nat) :
    (own.filter first ++ own.filter fun a => !first a).filter (fun a => rank a == r) =
      own.filter fun a => rank a == r := by
  induction own with
  | nil => rfl
  | cons a rest inductionHypothesis =>
    obtain ⟨least, order⟩ := List.pairwise_cons.mp order
    have further := inductionHypothesis order
    rw [List.filter_append] at further ⊢
    simp only [List.filter_filter] at further
    by_cases here : rank a = r
    · have none : rest.filter (fun b => rank b == r) = [] := by
        rw [List.filter_eq_nil_iff]
        intro b member equal
        have := least b member
        simp only [beq_iff_eq] at equal
        omega
      rw [none] at further
      obtain ⟨noneFirst, noneSecond⟩ := List.append_eq_nil_iff.mp further
      cases chosen : first a <;> simp [chosen, here, none, noneFirst, noneSecond]
    · cases chosen : first a <;> simp [chosen, here, further]

/-- A name behind those of the sheets. -/
theorem sheetRank_absent {names : List String} {name : String} (absent : name ∉ names) :
    sheetRank names name = names.length := by
  have nowhere : names.reverse.idxOf? name = none := by
    rw [List.idxOf?_eq_none_iff]
    simpa using absent
  rw [sheetRank, nowhere]

/-- The name of a sheet ranks where the sheet stands, when no other sheet has the name. -/
theorem sheetRank_getElem {names : List String} (distinct : names.Nodup) (i : Nat)
    (inside : i < names.length) : sheetRank names names[i] = i := by
  have behind : names.reverse.idxOf? names[i] = some (names.length - 1 - i) := by
    rw [List.idxOf?_eq_some_iff]
    refine ⟨by rw [List.length_reverse]; omega, ?_, ?_⟩
    · rw [List.getElem_reverse]
      congr 1
      omega
    · intro j earlier equal
      rw [List.getElem_reverse, List.Nodup.getElem_inj_iff distinct] at equal
      omega
  rw [sheetRank, behind]
  dsimp only
  omega

/-- The ranks of different sheets ascend, and all are before the place behind the sheets. -/
theorem sheetRank_ascending {names : List String} (distinct : names.Nodup) :
    names.Pairwise fun a b => sheetRank names a < sheetRank names b := by
  rw [List.pairwise_iff_getElem]
  intro i j first second before
  rw [sheetRank_getElem distinct, sheetRank_getElem distinct]
  exact before

theorem sheetRank_present {names : List String} (distinct : names.Nodup) {name : String}
    (present : name ∈ names) : sheetRank names name < names.length := by
  obtain ⟨i, inside, rfl⟩ := List.getElem_of_mem present
  rw [sheetRank_getElem distinct]
  exact inside

end TypedSheets
