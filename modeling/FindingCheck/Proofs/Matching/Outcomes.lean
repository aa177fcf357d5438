import FindingCheck.Proofs.AssertionOrder
import FindingCheck.Proofs.Matching
import FindingCheck.Proofs.StableSort
import Mathlib.Algebra.BigOperators.Group.List.Basic
import Mathlib.Algebra.GroupWithZero.Nat

/-!
# The outcomes on a file

The outcomes on a file are those of its expectations, by line, text and fact, and then that of the
whole file. Every finding in the file is accounted for: an expectation took it, or it is left over.

## Main definitions

* `Expectation.inOrder` — expectations by line, text and fact
* `Matching.claimOutcomes` — the outcomes without that of the whole file

## Main statements

* `outcomes_matchFile` — the outcome of the whole file comes last
* `map_assertion_outcomes_matchFile` — what a report on a file asserts, in order
* `Matching.perm_settle` — what the expectations took and what they did not take
* `length_findings_matchFile` — the findings in a file, counted in its outcomes
-/

namespace FindingCheck

variable {α : Type} [Finding α]

/-! ### The order of the outcomes -/

/-- Expectations in the order of line, text and fact. -/
def Expectation.inOrder (expectations : List Expectation) : List Expectation :=
  expectations.mergeSort fun a b =>
    ((compare a.line b.line).then ((compare a.text b.text).then (compare a.fact b.fact))).isLE

theorem Assertion.notBehind_noUnexpected {expectation : Expectation} {file : Path}
    (h : (expectation.file == file) = true) :
    notBehind id (Assertion.expected expectation) (.noUnexpected file) = true :=
  Ordering.isLE_of_eq_lt (Assertion.compare_expected_noUnexpected h)

theorem Assertion.notBehind_expected {a b : Expectation} (h : (a.file == b.file) = true) :
    notBehind id (Assertion.expected a) (.expected b) =
      ((compare a.line b.line).then
        ((compare a.text b.text).then (compare a.fact b.fact))).isLE :=
  congrArg Ordering.isLE (Assertion.compare_expected h)

/-- Expectations for one file, once they are assertions, are sorted by line, text and fact. -/
theorem Assertion.sortOn_expected {file : Path} {expectations : List Expectation}
    (h : ∀ expectation ∈ expectations, (expectation.file == file) = true) :
    sortOn id (expectations.map Assertion.expected) =
      (Expectation.inOrder expectations).map .expected := by
  refine (List.map_mergeSort fun a ha b hb => ?_).symm
  exact (notBehind_expected (BEq.trans (h a ha) (BEq.symm (h b hb)))).symm

namespace Matching

/-- The outcomes of the expectations, in the order in which they took findings. -/
def claimOutcomes (matching : Matching α) : List Outcome :=
  matching.claims.map fun claim => .ofExpectation claim.1 claim.2.isSome

theorem map_assertion_claimOutcomes (file : Path) (expectations : List Expectation)
    (findings : List α) :
    (ofFile file expectations findings).claimOutcomes.map Outcome.assertion =
      (expectations.filter (·.file == file)).map .expected := by
  have hall := map_assertion_outcomes file expectations findings
  rw [outcomes, List.map_append] at hall
  exact List.append_cancel_right hall

end Matching

/-- The outcome of the whole file comes last. -/
theorem outcomes_matchFile (file : Path) (expectations : List Expectation) (findings : List α) :
    (matchFile file expectations findings).outcomes =
      sortOn Outcome.assertion (Matching.ofFile file expectations findings).claimOutcomes ++
        [.ofLeftovers file (Matching.ofFile file expectations findings).leftovers] := by
  have hlast : ∀ x ∈ (Matching.ofFile file expectations findings).claimOutcomes,
      ∀ y ∈ [Outcome.ofLeftovers file (Matching.ofFile file expectations findings).leftovers],
        notBehind Outcome.assertion x y = true := by
    intro x hx y hy
    have hassertion := List.mem_map_of_mem (f := Outcome.assertion) hx
    rw [Matching.map_assertion_claimOutcomes] at hassertion
    obtain ⟨expectation, hexpectation, heq⟩ := List.mem_map.mp hassertion
    show notBehind id x.assertion y.assertion = true
    rw [List.mem_singleton.mp hy, ← heq]
    exact Assertion.notBehind_noUnexpected (List.mem_filter.mp hexpectation).2
  exact (sortOn_append_of_notBehind hlast).trans
    (congrArg _ (sortOn_of_pairwise _ (List.pairwise_singleton _ _)))

/-- What a report on a file asserts: the expectations for the file by line, text and fact, and
then the whole file. -/
theorem map_assertion_outcomes_matchFile (file : Path) (expectations : List Expectation)
    (findings : List α) :
    (matchFile file expectations findings).outcomes.map Outcome.assertion =
      (Expectation.inOrder (expectations.filter (·.file == file))).map .expected ++
        [.noUnexpected file] := by
  have hsorted : (sortOn Outcome.assertion
      (Matching.ofFile file expectations findings).claimOutcomes).map Outcome.assertion =
        sortOn id ((expectations.filter (·.file == file)).map .expected) := by
    rw [← Matching.map_assertion_claimOutcomes file expectations findings]
    exact List.map_mergeSort fun _ _ _ _ => rfl
  rw [outcomes_matchFile, List.map_append, hsorted,
    Assertion.sortOn_expected fun expectation h => (List.mem_filter.mp h).2]
  rfl

theorem filter_outcomes_matchFile (file : Path) (expectations : List Expectation)
    (findings : List α) :
    (matchFile file expectations findings).outcomes.filter (!·.assertion.isWholeFile) =
      sortOn Outcome.assertion (Matching.ofFile file expectations findings).claimOutcomes := by
  have hclaims : ∀ outcome ∈ sortOn Outcome.assertion
      (Matching.ofFile file expectations findings).claimOutcomes,
      (!outcome.assertion.isWholeFile) = true := by
    intro outcome houtcome
    obtain ⟨claim, -, rfl⟩ := List.mem_map.mp ((perm_sortOn _ _).mem_iff.mp houtcome)
    rfl
  rw [outcomes_matchFile, List.filter_append, List.filter_eq_self.mpr hclaims]
  exact List.append_nil _

/-! ### What becomes of the findings -/

theorem perm_find?_eraseP {β : Type} (p : β → Bool) (xs : List β) :
    xs.Perm ((xs.find? p).toList ++ xs.eraseP p) := by
  induction xs with
  | nil => exact .refl _
  | cons x xs ih =>
    cases h : p x with
    | true => rw [List.find?_cons_of_pos h, List.eraseP_cons_of_pos h]; exact .refl _
    | false =>
      rw [List.find?_cons_of_neg (by simp [h]), List.eraseP_cons_of_neg (by simp [h])]
      exact (ih.cons x).trans List.perm_middle.symm

namespace Matching

/-- Every finding was taken once or is not taken. -/
theorem perm_settle (expectations : List Expectation) (findings : List α) :
    findings.Perm ((settle expectations findings).claims.filterMap Prod.snd ++
      (settle expectations findings).unclaimed) := by
  induction expectations generalizing findings with
  | nil => exact .refl _
  | cons expectation more ih =>
    have hfirst := perm_find?_eraseP expectation.accepts findings
    have hlater := ih (findings.eraseP expectation.accepts)
    rw [settle]
    cases htaken : findings.find? expectation.accepts with
    | none =>
      rw [htaken] at hfirst
      exact hfirst.trans hlater
    | some finding =>
      rw [htaken] at hfirst
      exact hfirst.trans (hlater.cons finding)

theorem length_findings (expectations : List Expectation) (findings : List α) :
    findings.length = (settle expectations findings).claims.countP (·.2.isSome) +
      (settle expectations findings).unclaimed.length := by
  have hlength := (perm_settle expectations findings).length_eq
  rw [List.length_append, List.length_filterMap_eq_countP] at hlength
  exact hlength

theorem countP_claimOutcomes {β : Type} (matching : Matching β) :
    matching.claimOutcomes.countP (fun outcome => outcome.passed && !outcome.assertion.isWholeFile) =
      matching.claims.countP (·.2.isSome) := by
  rw [claimOutcomes, List.countP_map]
  refine List.countP_congr fun claim _ => ?_
  simp [Outcome.ofExpectation, Assertion.isWholeFile]

theorem sum_leftovers_claimOutcomes {β : Type} (matching : Matching β) :
    (matching.claimOutcomes.map (·.leftovers.length)).sum = 0 := by
  rw [claimOutcomes, List.map_map]
  refine List.sum_eq_zero fun n hn => ?_
  obtain ⟨claim, -, rfl⟩ := List.mem_map.mp hn
  rfl

theorem length_leftovers (matching : Matching α) :
    matching.leftovers.length = matching.unclaimed.length := by
  rw [leftovers, List.length_map]
  exact (perm_sortOn _ _).length_eq

end Matching

/-- The findings in a file are as many as its expectations that passed and its leftovers. -/
theorem length_findings_matchFile (file : Path) (expectations : List Expectation)
    (findings : List α) :
    (findings.filter (Finding.file · == file)).length =
      (matchFile file expectations findings).outcomes.countP
          (fun outcome => outcome.passed && !outcome.assertion.isWholeFile) +
        ((matchFile file expectations findings).outcomes.map (·.leftovers.length)).sum := by
  obtain ⟨matching, hmatching⟩ : ∃ matching, matching = Matching.ofFile file expectations findings :=
    ⟨_, rfl⟩
  have hperm := perm_sortOn Outcome.assertion matching.claimOutcomes
  have hpassed : [Outcome.ofLeftovers file matching.leftovers].countP
      (fun outcome => outcome.passed && !outcome.assertion.isWholeFile) = 0 := by
    simp [Outcome.ofLeftovers, Assertion.isWholeFile]
  have hleft : ([Outcome.ofLeftovers file matching.leftovers].map (·.leftovers.length)).sum =
      matching.unclaimed.length := by
    rw [List.map_singleton, List.sum_singleton]
    exact matching.length_leftovers
  rw [outcomes_matchFile, ← hmatching, List.countP_append, List.map_append, List.sum_append,
    hperm.countP_eq, (hperm.map _).sum_eq, matching.countP_claimOutcomes,
    matching.sum_leftovers_claimOutcomes, hpassed, hleft, Nat.add_zero, Nat.zero_add, hmatching]
  exact Matching.length_findings _ _

end FindingCheck
