import FindingCheck.Comparison
import FindingCheck.Proofs.AssertionOrder
import Mathlib.Data.List.Forall2

/-!
# Reports without changes

A comparison of two reports is empty exactly if their outcomes agree one by one. Leftovers and the
spelling of equal paths have no influence.

## Main statements

* `changes_eq_nil_iff` — there are no changes between outcomes that agree one by one
* `Comparison.isEmpty_ofReports_iff` — the same for the comparison of reports
-/

namespace FindingCheck

/-- The outcomes are about equal assertions and come out the same. -/
def Outcome.Agrees (a b : Outcome) : Prop :=
  (a.assertion == b.assertion) = true ∧ a.passed = b.passed

theorem Change.between?_eq_none_iff {before now : Bool} :
    between? before now = none ↔ now = before := by
  cases before <;> cases now <;> decide

theorem changes_eq_nil_iff {now baseline : List Outcome} :
    changes now baseline = [] ↔ List.Forall₂ Outcome.Agrees now baseline := by
  fun_induction changes now baseline with
  | case1 baseline =>
    rw [List.map_eq_nil_iff, List.forall₂_nil_left_iff]
  | case2 now hnow =>
    rw [List.map_eq_nil_iff, List.forall₂_nil_right_iff]
  | case3 outcome now before baseline hlt ih =>
    -- the first outcome is missing from the baseline: a change, and no agreement
    have hne : ¬outcome.Agrees before := by
      rintro ⟨hassertion, -⟩
      rw [Assertion.compare_eq_iff.mpr hassertion] at hlt
      cases hlt
    simp [hne]
  | case4 outcome now before baseline hgt ih =>
    have hne : ¬outcome.Agrees before := by
      rintro ⟨hassertion, -⟩
      rw [Assertion.compare_eq_iff.mpr hassertion] at hgt
      cases hgt
    simp [hne]
  | case5 outcome now before baseline heq change hchange ih =>
    have hne : ¬outcome.Agrees before := by
      rintro ⟨-, hpassed⟩
      rw [Change.between?_eq_none_iff.mpr hpassed] at hchange
      cases hchange
    simp [hne]
  | case6 outcome now before baseline heq hchange ih =>
    have hagrees : outcome.Agrees before :=
      ⟨Assertion.compare_eq_iff.mp heq, Change.between?_eq_none_iff.mp hchange⟩
    rw [ih, List.forall₂_cons]
    exact ⟨fun h => ⟨hagrees, h⟩, fun h => h.2⟩

/-- What the baseline says beside its assertions and whether they pass does not count. -/
theorem changes_map_right {f : Outcome → Outcome}
    (hassertion : ∀ outcome, (f outcome).assertion = outcome.assertion)
    (hpassed : ∀ outcome, (f outcome).passed = outcome.passed) (now baseline : List Outcome) :
    changes now (baseline.map f) = changes now baseline := by
  fun_induction changes now baseline with
  | case1 baseline => simp [changes, hassertion]
  | case2 now hnow => simp [changes]
  | case3 outcome now before baseline hlt ih =>
    rw [← ih]
    simp [changes, hassertion, hlt]
  | case4 outcome now before baseline hgt ih =>
    rw [← ih]
    simp [changes, hassertion, hgt]
  | case5 outcome now before baseline heq change hchange ih =>
    rw [← ih]
    simp [changes, hassertion, hpassed, heq, hchange]
  | case6 outcome now before baseline heq hchange ih =>
    rw [← ih]
    simp [changes, hassertion, hpassed, heq, hchange]

namespace Comparison

theorem isEmpty_ofChanges {found : List (Change × Assertion)} :
    (ofChanges found).isEmpty = true ↔ found = [] := by
  cases found with
  | nil => exact ⟨fun _ => rfl, fun _ => rfl⟩
  | cons entry rest =>
    -- the list of its kind holds the first change
    obtain ⟨change, assertion⟩ := entry
    cases change <;> simp [ofChanges, assertionsOf, isEmpty]

/-- Nothing changed exactly if the outcomes agree one by one. -/
theorem isEmpty_ofReports_iff {current baseline : Report} :
    (ofReports current baseline).isEmpty = true ↔
      List.Forall₂ Outcome.Agrees current.outcomes baseline.outcomes :=
  isEmpty_ofChanges.trans changes_eq_nil_iff

end Comparison

end FindingCheck
