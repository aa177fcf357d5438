import FindingCheck.Proofs.Matching
import FindingCheck.Proofs.Report.Occurrences

/-!
# Equal expectations

Equal expectations accept the same findings, and a finding that is taken does not come back. So
where one of them finds nothing, no later one finds anything, and of their outcomes in a report
those that pass come first.

## Main statements

* `Matching.passesFirst_settle` — equal expectations, one after the other
* `passesFirst_matchFile` — the same for the report on a file
-/

namespace FindingCheck

variable {α : Type} [Finding α]

theorem Expectation.accepts_congr {a b : Expectation} (h : (a == b) = true) (finding : α) :
    a.accepts finding = b.accepts finding := by
  obtain ⟨-, hline, -, hfact⟩ := Expectation.beq_iff.mp h
  rw [accepts, accepts, hline, hfact]

namespace Matching

/-- An expectation that accepts nothing that is left finds nothing later. -/
theorem claim_eq_none {expectation : Expectation} {findings : List α}
    (hnone : ∀ finding ∈ findings, expectation.accepts finding = false)
    (expectations : List Expectation) :
    ∀ claim ∈ (settle expectations findings).claims,
      (claim.1 == expectation) = true → claim.2 = none := by
  induction expectations generalizing findings with
  | nil => simp [settle]
  | cons other more ih =>
    intro claim hclaim heq
    rw [settle] at hclaim
    rcases List.mem_cons.mp hclaim with rfl | hlater
    · refine List.find?_eq_none.mpr fun finding hfinding => ?_
      rw [Expectation.accepts_congr heq, hnone finding hfinding]
      exact Bool.false_ne_true
    · -- what is left later is left now
      have hleft : ∀ finding ∈ findings.eraseP other.accepts,
          expectation.accepts finding = false := fun finding hfinding =>
        hnone finding (List.mem_of_mem_eraseP hfinding)
      exact ih hleft claim hlater heq

/-- Of equal expectations that take findings one after the other, those that find something come
first. -/
theorem passesFirst_settle (expectation : Expectation) (expectations : List Expectation)
    (findings : List α) :
    PassesFirst (((settle expectations findings).claims.filter (·.1 == expectation)).map
      (·.2.isSome)) := by
  induction expectations generalizing findings with
  | nil => exact ⟨0, 0, rfl⟩
  | cons other more ih =>
    by_cases hnone : ∀ finding ∈ findings, expectation.accepts finding = false
    · refine .of_forall_false fun b hb => ?_
      obtain ⟨claim, hclaim, rfl⟩ := List.mem_map.mp hb
      obtain ⟨hclaim, hequal⟩ := List.mem_filter.mp hclaim
      rw [claim_eq_none hnone _ claim hclaim hequal]
      rfl
    · have hlater := ih (findings.eraseP other.accepts)
      rw [settle, List.filter_cons]
      by_cases hequal : (other == expectation) = true
      · -- something is accepted, so the first of the equal expectations finds it
        have hfound : (findings.find? other.accepts).isSome = true := by
          push Not at hnone
          obtain ⟨finding, hfinding, haccepts⟩ := hnone
          rw [List.find?_isSome]
          refine ⟨finding, hfinding, ?_⟩
          rw [Expectation.accepts_congr hequal]
          exact Bool.ne_false_iff.mp haccepts
        rw [if_pos hequal, List.map_cons, hfound]
        exact hlater.cons_true
      · rw [if_neg hequal]
        exact hlater

end Matching

theorem passesOf_matchFile (file : Path) (expectations : List Expectation) (findings : List α)
    (assertion : Assertion) :
    (matchFile file expectations findings).passesOf assertion =
      (((Matching.ofFile file expectations findings).outcomes file).filter
        (·.assertion == assertion)).map (·.passed) := by
  rw [Report.passesOf, filter_assertion_eq_tie, filter_assertion_eq_tie]
  exact congrArg _ (tie_sortOn _ _ _)

/-- How equal expectations came out in the report on a file is what they found, in order. -/
theorem passesOf_matchFile_expected (file : Path) (expectations : List Expectation)
    (findings : List α) (expectation : Expectation) :
    (matchFile file expectations findings).passesOf (.expected expectation) =
      ((Matching.ofFile file expectations findings).claims.filter (·.1 == expectation)).map
        (·.2.isSome) := by
  have hwhole (leftovers : List Leftover) : [Outcome.ofLeftovers file leftovers].filter
      (·.assertion == .expected expectation) = [] := rfl
  rw [passesOf_matchFile, Matching.outcomes, List.filter_append, hwhole, List.append_nil,
    List.filter_map, List.map_map]
  rfl

/-- Of equal assertions in the report on a file, those that pass come first. -/
theorem passesFirst_matchFile (file : Path) (expectations : List Expectation) (findings : List α)
    (assertion : Assertion) :
    PassesFirst ((matchFile file expectations findings).passesOf assertion) := by
  cases assertion with
  | expected expectation =>
    rw [passesOf_matchFile_expected]
    exact Matching.passesFirst_settle expectation _ _
  | noUnexpected other =>
    -- no expectation is about a whole file, so at most one outcome is left
    have hclaims : ((Matching.ofFile file expectations findings).claims.map fun claim =>
        Outcome.ofExpectation claim.1 claim.2.isSome).filter
          (·.assertion == .noUnexpected other) = [] := by
      refine List.filter_eq_nil_iff.mpr fun outcome houtcome => ?_
      obtain ⟨claim, -, rfl⟩ := List.mem_map.mp houtcome
      exact Bool.false_ne_true
    rw [passesOf_matchFile, Matching.outcomes, List.filter_append, hclaims, List.nil_append]
    refine .of_length_le_one ?_
    rw [List.length_map]
    exact List.length_filter_le _ _

end FindingCheck
