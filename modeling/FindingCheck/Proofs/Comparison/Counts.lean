import FindingCheck.Proofs.Comparison.Occurrences
import Mathlib.Data.Finset.Card
import Mathlib.Order.Interval.Finset.Nat

/-!
# How often an assertion is listed

A comparison lists an assertion under a change once for each of its occurrences that changed so. The
occurrences are paired from the front, and those that one report has beyond the other are new or
deleted.

## Main definitions

* `Change.times` — how many occurrences of an assertion change in a way
* `Comparison.listed` — the assertions under a change

## Main statements

* `Comparison.count_listed` — how often an assertion is listed
* `Comparison.exists_of_mem_listed` — what is listed is in one of the reports
* `Comparison.pairwise_listed` — the lists ascend
-/

namespace FindingCheck

/-! ### Counting occurrences -/

/-- How many occurrences of an assertion change in a way. They come out as `now`, and came out as
`before`. -/
def Change.times : Change → (now before : List Bool) → Nat
  | newlyFailing, now, before =>
    ((Finset.range (min now.length before.length)).filter fun i =>
      before[i]? = some true ∧ now[i]? = some false).card
  | newlyFixed, now, before =>
    ((Finset.range (min now.length before.length)).filter fun i =>
      before[i]? = some false ∧ now[i]? = some true).card
  | newFailing, now, before =>
    ((Finset.Ico before.length now.length).filter fun i => now[i]? = some false).card
  | newPassing, now, before =>
    ((Finset.Ico before.length now.length).filter fun i => now[i]? = some true).card
  | deleted, now, before => before.length - now.length

theorem occurrenceChanges_eq_filterMap (now before : List Bool) :
    occurrenceChanges now before =
      (List.range (max now.length before.length)).filterMap fun i =>
        Change.ofOccurrence? now[i]? before[i]? := by
  have hall : List.zipWithAll Change.ofOccurrence? now before =
      (List.range (max now.length before.length)).map fun i =>
        Change.ofOccurrence? now[i]? before[i]? := by
    apply List.ext_getElem?
    intro i
    rw [List.getElem?_zipWithAll, List.getElem?_map]
    by_cases hi : i < max now.length before.length
    · rw [List.getElem?_range hi, Option.map_some]
      cases hnow : now[i]? with
      | some passed => rfl
      | none =>
        have hbefore : i < before.length := by
          rw [List.getElem?_eq_none_iff] at hnow
          omega
        rw [List.getElem?_eq_getElem hbefore]
    · have hnow : now[i]? = none := List.getElem?_eq_none (by omega)
      have hbefore : before[i]? = none := List.getElem?_eq_none (by omega)
      rw [hnow, hbefore, List.getElem?_eq_none (by rw [List.length_range]; omega)]
      rfl
  rw [occurrenceChanges, hall, List.filterMap_map]
  rfl

theorem count_occurrenceChanges_eq_card (change : Change) (now before : List Bool) :
    (occurrenceChanges now before).count change =
      ((Finset.range (max now.length before.length)).filter fun i =>
        Change.ofOccurrence? now[i]? before[i]? = some change).card := by
  have hdecide : (fun i : Nat => Change.ofOccurrence? now[i]? before[i]? == some change) =
      fun i : Nat => decide (Change.ofOccurrence? now[i]? before[i]? = some change) := by
    funext i
    exact beq_eq_decide ..
  rw [occurrenceChanges_eq_filterMap, List.count_filterMap, hdecide, List.countP_eq_length_filter]
  rfl

/-- Occurrences at the same position are compared, and what has no partner is new or deleted. -/
theorem count_occurrenceChanges (change : Change) (now before : List Bool) :
    (occurrenceChanges now before).count change = change.times now before := by
  rw [count_occurrenceChanges_eq_card]
  cases change with
  | newlyFailing =>
    refine congrArg Finset.card (Finset.ext fun i => ?_)
    simp only [Finset.mem_filter, Finset.mem_range, Change.ofOccurrence?_eq_newlyFailing_iff,
      List.getElem?_eq_some_iff]
    grind
  | newlyFixed =>
    refine congrArg Finset.card (Finset.ext fun i => ?_)
    simp only [Finset.mem_filter, Finset.mem_range, Change.ofOccurrence?_eq_newlyFixed_iff,
      List.getElem?_eq_some_iff]
    grind
  | newFailing =>
    refine congrArg Finset.card (Finset.ext fun i => ?_)
    simp only [Finset.mem_filter, Finset.mem_range, Finset.mem_Ico,
      Change.ofOccurrence?_eq_newFailing_iff, List.getElem?_eq_none_iff, List.getElem?_eq_some_iff]
    grind
  | newPassing =>
    refine congrArg Finset.card (Finset.ext fun i => ?_)
    simp only [Finset.mem_filter, Finset.mem_range, Finset.mem_Ico,
      Change.ofOccurrence?_eq_newPassing_iff, List.getElem?_eq_none_iff, List.getElem?_eq_some_iff]
    grind
  | deleted =>
    rw [Change.times, ← Nat.card_Ico]
    refine congrArg Finset.card (Finset.ext fun i => ?_)
    simp only [Finset.mem_filter, Finset.mem_range, Finset.mem_Ico,
      Change.ofOccurrence?_eq_deleted_iff, List.getElem?_eq_none_iff, ne_eq]
    omega

/-! ### What changes -/

theorem exists_outcome_of_mem_changes {now baseline : List Outcome} {entry : Change × Assertion}
    (h : entry ∈ changes now baseline) :
    ∃ outcome ∈ now ++ baseline, outcome.assertion = entry.2 := by
  fun_induction changes now baseline with
  | case1 baseline =>
    obtain ⟨before, hbefore, rfl⟩ := List.mem_map.mp h
    exact ⟨before, hbefore, rfl⟩
  | case2 now hnow =>
    obtain ⟨outcome, houtcome, rfl⟩ := List.mem_map.mp h
    exact ⟨outcome, List.mem_append_left _ houtcome, rfl⟩
  | case3 outcome now before baseline hlt ih =>
    rcases List.mem_cons.mp h with rfl | hlater
    · exact ⟨outcome, by simp, rfl⟩
    · obtain ⟨other, hother, heq⟩ := ih hlater
      exact ⟨other, List.mem_cons_of_mem _ hother, heq⟩
  | case4 outcome now before baseline hgt ih =>
    rcases List.mem_cons.mp h with rfl | hlater
    · exact ⟨before, by simp, rfl⟩
    · obtain ⟨other, hother, heq⟩ := ih hlater
      refine ⟨other, ?_, heq⟩
      simp only [List.mem_append, List.mem_cons] at hother ⊢
      tauto
  | case5 outcome now before baseline heq change hchange ih =>
    rcases List.mem_cons.mp h with rfl | hlater
    · exact ⟨outcome, by simp, rfl⟩
    · obtain ⟨other, hother, heq⟩ := ih hlater
      refine ⟨other, ?_, heq⟩
      simp only [List.mem_append, List.mem_cons] at hother ⊢
      tauto
  | case6 outcome now before baseline heq hchange ih =>
    obtain ⟨other, hother, heq⟩ := ih h
    refine ⟨other, ?_, heq⟩
    simp only [List.mem_append, List.mem_cons] at hother ⊢
    tauto

/-- What is in front of all outcomes is in front of all that changes. -/
theorem notBehind_of_mem_changes {now baseline : List Outcome} {assertion : Assertion}
    (hnow : ∀ outcome ∈ now, notBehind id assertion outcome.assertion = true)
    (hbaseline : ∀ outcome ∈ baseline, notBehind id assertion outcome.assertion = true) :
    ∀ entry ∈ changes now baseline, notBehind id assertion entry.2 = true := by
  intro entry hentry
  obtain ⟨outcome, houtcome, heq⟩ := exists_outcome_of_mem_changes hentry
  rw [← heq]
  rcases List.mem_append.mp houtcome with h | h
  · exact hnow outcome h
  · exact hbaseline outcome h

theorem Ascending.head {outcome : Outcome} {outcomes : List Outcome}
    (h : Ascending (outcome :: outcomes)) :
    ∀ other ∈ outcome :: outcomes, notBehind id outcome.assertion other.assertion = true := by
  intro other hother
  show notBehind Outcome.assertion outcome other = true
  exact notBehind_head h hother

theorem Ascending.head_of_notBehind {outcome : Outcome} {outcomes : List Outcome}
    (h : Ascending (outcome :: outcomes)) {assertion : Assertion}
    (hfront : notBehind id assertion outcome.assertion = true) :
    ∀ other ∈ outcome :: outcomes, notBehind id assertion other.assertion = true :=
  fun other hother => notBehind_trans id _ _ _ hfront (h.head other hother)

/-- The changes come out in the order of the assertions. -/
theorem pairwise_changes {now baseline : List Outcome} (hnow : Ascending now)
    (hbaseline : Ascending baseline) :
    (changes now baseline).Pairwise fun a b => notBehind Prod.snd a b = true := by
  fun_induction changes now baseline with
  | case1 baseline => exact List.pairwise_map.mpr hbaseline
  | case2 now hne => exact List.pairwise_map.mpr hnow
  | case3 outcome now before baseline hlt ih =>
    have hfront : notBehind id outcome.assertion before.assertion = true :=
      congrArg Ordering.isLE hlt
    refine List.pairwise_cons.mpr ⟨?_, ih hnow.tail hbaseline⟩
    exact notBehind_of_mem_changes (fun other h => hnow.head other (List.mem_cons_of_mem _ h))
      (hbaseline.head_of_notBehind hfront)
  | case4 outcome now before baseline hgt ih =>
    have hfront : notBehind id before.assertion outcome.assertion = true :=
      congrArg Ordering.isLE (Std.OrientedCmp.lt_of_gt hgt)
    refine List.pairwise_cons.mpr ⟨?_, ih hnow hbaseline.tail⟩
    exact notBehind_of_mem_changes (hnow.head_of_notBehind hfront)
      fun other h => hbaseline.head other (List.mem_cons_of_mem _ h)
  | case5 outcome now before baseline heq change hchange ih =>
    have hfront : notBehind id outcome.assertion before.assertion = true :=
      congrArg Ordering.isLE heq
    refine List.pairwise_cons.mpr ⟨?_, ih hnow.tail hbaseline.tail⟩
    exact notBehind_of_mem_changes (fun other h => hnow.head other (List.mem_cons_of_mem _ h))
      fun other h => hbaseline.head_of_notBehind hfront other (List.mem_cons_of_mem _ h)
  | case6 outcome now before baseline heq hchange ih => exact ih hnow.tail hbaseline.tail

/-! ### What is listed -/

namespace Comparison

/-- The assertions under a change. -/
def listed (comparison : Comparison) : Change → List Assertion
  | .newlyFailing => comparison.newlyFailing
  | .newlyFixed => comparison.newlyFixed
  | .newFailing => comparison.newFailing
  | .newPassing => comparison.newPassing
  | .deleted => comparison.deleted

theorem listed_ofChanges (found : List (Change × Assertion)) (change : Change) :
    (ofChanges found).listed change = assertionsOf change found := by
  cases change <;> rfl

theorem count_assertionsOf (change : Change) (found : List (Change × Assertion))
    (assertion : Assertion) :
    (assertionsOf change found).count assertion =
      ((found.filter (·.2 == assertion)).map Prod.fst).count change := by
  rw [assertionsOf, List.count, List.count, List.countP_map, List.countP_map, List.countP_filter,
    List.countP_filter]
  refine List.countP_congr fun entry _ => ?_
  simp [and_comm]

variable (current baseline : Report)

/-- An assertion is listed under a change as often as its occurrences changed so. -/
theorem count_listed (change : Change) (assertion : Assertion) :
    ((ofReports current baseline).listed change).count assertion =
      change.times (current.passesOf assertion) (baseline.passesOf assertion) := by
  rw [ofReports, listed_ofChanges, count_assertionsOf,
    map_fst_filter_changes current.ascends baseline.ascends, ← count_occurrenceChanges]
  rfl

theorem exists_of_mem_listed {change : Change} {assertion : Assertion}
    (h : assertion ∈ (ofReports current baseline).listed change) :
    ∃ outcome ∈ current.outcomes ++ baseline.outcomes, outcome.assertion = assertion := by
  rw [ofReports, listed_ofChanges] at h
  obtain ⟨entry, hentry, rfl⟩ := List.mem_map.mp h
  exact exists_outcome_of_mem_changes (List.mem_of_mem_filter hentry)

theorem pairwise_listed (change : Change) :
    ((ofReports current baseline).listed change).Pairwise fun a b => notBehind id a b = true := by
  rw [ofReports, listed_ofChanges]
  exact List.pairwise_map.mpr
    ((pairwise_changes current.ascends baseline.ascends).sublist List.filter_sublist)

end Comparison

end FindingCheck
