import Mathlib.Data.List.Nodup
import TypedSheets.Proofs.Schema.AcceptedSheets
import TypedSheets.Proofs.Schema.Refusals
import TypedSheets.Run

/-!
# What a run knows of each sheet

A run looks the outcome of a sheet up under the name of the sheet, first among the refusals and then
among the descriptions. In a workbook whose sheets have different names this gives each sheet the
outcome of its own interpretation.
-/

namespace TypedSheets.Run

open TypedSheets.Grid TypedSheets.Schema

variable {w : Workbook} {s : Sheet}

/-- The last element that passes is the only one that does. -/
theorem lastWith?_eq {α : Type} {test : α → Bool} {all : List α} {a : α} (member : a ∈ all)
    (passes : test a = true) (only : ∀ b ∈ all, test b = true → b = a) :
    lastWith? test all = some a := by
  unfold lastWith?
  cases found : all.reverse.find? test with
  | none =>
    have refused := List.find?_eq_none.mp found a (List.mem_reverse.mpr member)
    exact absurd passes refused
  | some b =>
    rw [only b (List.mem_reverse.mp (List.mem_of_find?_eq_some found)) (List.find?_some found)]

theorem lastWith?_eq_none {α : Type} {test : α → Bool} {all : List α}
    (refused : ∀ b ∈ all, test b ≠ true) : lastWith? test all = none := by
  unfold lastWith?
  rw [List.find?_eq_none]
  intro b member
  exact refused b (List.mem_reverse.mp member)

theorem mem_refused {e : ShapeError} :
    e ∈ refused w ↔ ∃ sheet ∈ w.sheets, interpretIn w.name (collectEnums w) sheet = .error e := by
  rw [refused, interpretSheets, List.filterMap_map, List.mem_filterMap]
  refine exists_congr fun sheet => and_congr_right fun _ => ?_
  cases interpreted : interpretIn w.name (collectEnums w) sheet with
  | ok own => simp [interpreted]
  | error own => simp [interpreted]

/-- Sheets with one name are one sheet. -/
theorem eq_of_sheetName (distinct : w.sheetNames.Nodup) {other : Sheet} (member : s ∈ w.sheets)
    (among : other ∈ w.sheets) (same : other.name = s.name) : other = s :=
  List.inj_on_of_nodup_map distinct among member same

/-- Each sheet is looked up as it is interpreted. -/
theorem verdict?_eq (distinct : w.sheetNames.Nodup) (member : s ∈ w.sheets) :
    verdict? w s.name = some (interpretIn w.name (collectEnums w) s) := by
  have refusal {e : ShapeError} (among : e ∈ refused w) (same : e.place.sheet = s.name) :
      interpretIn w.name (collectEnums w) s = .error e := by
    obtain ⟨other, inside, interpreted⟩ := mem_refused.mp among
    have own := (interpretIn_refusesAt (collectEnums w) e interpreted).2
    rw [← eq_of_sheetName distinct member inside (own.symm.trans same)]
    exact interpreted
  have description {d : Description} (among : d ∈ accepted w) (same : d.sheet = s.name) :
      interpretIn w.name (collectEnums w) s = .ok d := by
    obtain ⟨other, inside, interpreted⟩ := mem_accepted.mp among
    have own := (accepts_of_interpretIn interpreted).1.named
    rw [← eq_of_sheetName distinct member inside (own.symm.trans same)]
    exact interpreted
  cases interpreted : interpretIn w.name (collectEnums w) s with
  | error e =>
    have found : lastWith? (fun e => e.place.sheet == s.name) (refused w) = some e := by
      apply lastWith?_eq (mem_refused.mpr ⟨s, member, interpreted⟩)
      · exact beq_iff_eq.mpr (interpretIn_refusesAt (collectEnums w) e interpreted).2
      · intro other among same
        have twice := refusal among (beq_iff_eq.mp same)
        rw [interpreted] at twice
        exact (Except.error.inj twice).symm
    rw [verdict?, found]
  | ok d =>
    have absent : lastWith? (fun e => e.place.sheet == s.name) (refused w) = none := by
      apply lastWith?_eq_none
      intro e among same
      rw [refusal among (beq_iff_eq.mp same)] at interpreted
      cases interpreted
    have found : lastWith? (fun d => d.sheet == s.name) (accepted w) = some d := by
      apply lastWith?_eq (mem_accepted.mpr ⟨s, member, interpreted⟩)
      · exact beq_iff_eq.mpr (accepts_of_interpretIn interpreted).1.named
      · intro other among same
        have twice := description among (beq_iff_eq.mp same)
        rw [interpreted] at twice
        exact (Except.ok.inj twice).symm
    rw [verdict?, absent, found]
    rfl

/-- The outcomes of the sheets of a workbook, under the names of the sheets. -/
def verdicts (w : Workbook) : List (String × Except ShapeError Description) :=
  w.sheets.map fun s => (s.name, interpretIn w.name (collectEnums w) s)

theorem verdicts_eq (distinct : w.sheetNames.Nodup) :
    (w.sheetNames.filterMap fun name => (verdict? w name).map fun verdict => (name, verdict)) =
      verdicts w := by
  rw [Workbook.sheetNames, List.filterMap_map, verdicts, ← List.filterMap_eq_map]
  apply List.filterMap_congr
  intro s member
  rw [Function.comp_apply, verdict?_eq distinct member]
  rfl

/-- The descriptions among some outcomes. -/
def described (outcomes : List (String × Except ShapeError Description)) : List Description :=
  outcomes.filterMap fun outcome => outcome.2.toOption

theorem described_verdicts (w : Workbook) : described (verdicts w) = accepted w := by
  rw [described, verdicts, accepted, interpretSheets, List.filterMap_map, List.filterMap_map]
  rfl

end TypedSheets.Run
