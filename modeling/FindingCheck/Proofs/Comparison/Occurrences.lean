import FindingCheck.Proofs.Comparison
import FindingCheck.Proofs.Report.Occurrences

/-!
# The changes of one assertion

A comparison goes through two reports side by side. Seen from one assertion it does something
simpler: how the assertion came out now is paired with how it came out in the baseline, occurrence
by occurrence, and every pair that is not level is a change.

## Main definitions

* `Change.ofOccurrence?` — the change of one occurrence
* `occurrenceChanges` — the changes of all occurrences of an assertion

## Main statements

* `map_fst_filter_changes` — the changes of an assertion are those of its occurrences
* `PassesFirst.oneWay` — an assertion whose passes come first changes in one way
* `Comparison.exists_mem_changes_iff` — which assertions are listed under a change
-/

namespace FindingCheck

/-- The change of an occurrence of an assertion, from how it comes out now and in the baseline,
where it occurs at all. -/
def Change.ofOccurrence? : (now before : Option Bool) → Option Change
  | some now, some before => between? before now
  | some now, none => some (ofNew now)
  | none, some _ => some deleted
  | none, none => none

theorem Change.ofOccurrence?_eq_newlyFailing_iff {now before : Option Bool} :
    ofOccurrence? now before = some newlyFailing ↔ now = some false ∧ before = some true := by
  rcases now with _ | _ | _ <;> rcases before with _ | _ | _ <;> decide

theorem Change.ofOccurrence?_eq_newlyFixed_iff {now before : Option Bool} :
    ofOccurrence? now before = some newlyFixed ↔ now = some true ∧ before = some false := by
  rcases now with _ | _ | _ <;> rcases before with _ | _ | _ <;> decide

theorem Change.ofOccurrence?_eq_newPassing_iff {now before : Option Bool} :
    ofOccurrence? now before = some newPassing ↔ now = some true ∧ before = none := by
  rcases now with _ | _ | _ <;> rcases before with _ | _ | _ <;> decide

theorem Change.ofOccurrence?_eq_newFailing_iff {now before : Option Bool} :
    ofOccurrence? now before = some newFailing ↔ now = some false ∧ before = none := by
  rcases now with _ | _ | _ <;> rcases before with _ | _ | _ <;> decide

theorem Change.ofOccurrence?_eq_deleted_iff {now before : Option Bool} :
    ofOccurrence? now before = some deleted ↔ now = none ∧ before ≠ none := by
  rcases now with _ | _ | _ <;> rcases before with _ | _ | _ <;> decide

/-- The changes of an assertion, whose occurrences are paired in their order. -/
def occurrenceChanges (now before : List Bool) : List Change :=
  (List.zipWithAll Change.ofOccurrence? now before).filterMap id

theorem occurrenceChanges_nil_left (before : List Bool) :
    occurrenceChanges [] before = before.map fun _ => .deleted := by
  simp [occurrenceChanges, Change.ofOccurrence?]

theorem occurrenceChanges_nil_right (now : List Bool) :
    occurrenceChanges now [] = now.map .ofNew := by
  simp [occurrenceChanges, Change.ofOccurrence?]

theorem occurrenceChanges_cons (passed passedBefore : Bool) (now before : List Bool) :
    occurrenceChanges (passed :: now) (passedBefore :: before) =
      (Change.between? passedBefore passed).toList ++ occurrenceChanges now before := by
  rw [occurrenceChanges, List.zipWithAll_cons_cons, List.filterMap_cons, Change.ofOccurrence?]
  cases Change.between? passedBefore passed <;> rfl

theorem mem_occurrenceChanges_iff {change : Change} {now before : List Bool} :
    change ∈ occurrenceChanges now before ↔
      ∃ i : Nat, Change.ofOccurrence? now[i]? before[i]? = some change := by
  rw [occurrenceChanges, List.mem_filterMap]
  simp only [id, exists_eq_right, List.mem_iff_getElem?, List.getElem?_zipWithAll]
  refine exists_congr fun i => ?_
  cases now[i]? <;> cases before[i]? <;> simp [Change.ofOccurrence?]

/-! ### Ascending outcomes -/

/-- Outcomes in the order of their assertions. -/
def Ascending (outcomes : List Outcome) : Prop :=
  outcomes.Pairwise fun a b => notBehind Outcome.assertion a b = true

theorem Ascending.tail {outcome : Outcome} {outcomes : List Outcome}
    (h : Ascending (outcome :: outcomes)) : Ascending outcomes :=
  (List.pairwise_cons.mp h).2

/-- What stands in front of outcomes that ascend is not among them. -/
theorem Ascending.filter_eq_nil {outcome : Outcome} {outcomes : List Outcome}
    (h : Ascending (outcome :: outcomes)) {assertion : Assertion}
    (hlt : compare assertion outcome.assertion = .lt) :
    (outcome :: outcomes).filter (·.assertion == assertion) = [] := by
  refine List.filter_eq_nil_iff.mpr fun other hother heq => ?_
  have hnot : notBehind Outcome.assertion outcome other = true := notBehind_head h hother
  have hbefore : compare other.assertion outcome.assertion = .lt :=
    Std.TransCmp.lt_of_eq_of_lt (Assertion.compare_eq_iff.mpr heq) hlt
  rw [notBehind, Std.OrientedCmp.gt_of_lt hbefore] at hnot
  cases hnot

instance : EquivBEq Assertion :=
  @Std.LawfulBEqCmp.equivBEq Assertion _ compare _ _

theorem lt_of_beq_of_lt {a b c : Assertion} (hab : (a == b) = true) (hac : compare a c = .lt) :
    compare b c = .lt :=
  Std.TransCmp.lt_of_eq_of_lt (Std.OrientedCmp.eq_symm (Assertion.compare_eq_iff.mpr hab)) hac

/-- Of two outcomes of equal assertions, both or none are outcomes of a given one. -/
theorem occurrenceChanges_filter_cons {outcome before : Outcome}
    (heq : compare outcome.assertion before.assertion = .eq) (now baseline : List Outcome)
    (assertion : Assertion) :
    occurrenceChanges (((outcome :: now).filter (·.assertion == assertion)).map (·.passed))
        (((before :: baseline).filter (·.assertion == assertion)).map (·.passed)) =
      (if outcome.assertion == assertion then
          (Change.between? before.passed outcome.passed).toList else []) ++
        occurrenceChanges ((now.filter (·.assertion == assertion)).map (·.passed))
          ((baseline.filter (·.assertion == assertion)).map (·.passed)) := by
  have hsame : (before.assertion == assertion) = (outcome.assertion == assertion) :=
    (BEq.congr_left (Assertion.compare_eq_iff.mp heq)).symm
  rw [List.filter_cons, List.filter_cons, hsame]
  split
  · rw [List.map_cons, List.map_cons, occurrenceChanges_cons]
  · rfl

/-- The changes of an assertion between two reports are those of its occurrences, in whose order
the reports have it. -/
theorem map_fst_filter_changes {now baseline : List Outcome} (hnow : Ascending now)
    (hbaseline : Ascending baseline) (assertion : Assertion) :
    ((changes now baseline).filter (·.2 == assertion)).map Prod.fst =
      occurrenceChanges ((now.filter (·.assertion == assertion)).map (·.passed))
        ((baseline.filter (·.assertion == assertion)).map (·.passed)) := by
  fun_induction changes now baseline with
  | case1 baseline =>
    rw [List.filter_nil, List.map_nil, occurrenceChanges_nil_left]
    simp [List.filter_map, Function.comp_def]
  | case2 now hne =>
    rw [List.filter_nil, List.map_nil, occurrenceChanges_nil_right]
    simp [List.filter_map, Function.comp_def]
  | case3 outcome now before baseline hlt ih =>
    have hlater := ih hnow.tail hbaseline
    rw [List.filter_cons, List.filter_cons]
    by_cases hequal : (outcome.assertion == assertion) = true
    · -- the baseline goes on behind the assertion, so it has no occurrence of it
      have hmissing := hbaseline.filter_eq_nil (lt_of_beq_of_lt hequal hlt)
      rw [hmissing, List.map_nil, occurrenceChanges_nil_right] at hlater ⊢
      rw [if_pos hequal, if_pos hequal, List.map_cons, List.map_cons, List.map_cons, hlater]
    · rw [if_neg hequal, if_neg hequal]
      exact hlater
  | case4 outcome now before baseline hgt ih =>
    have hlater := ih hnow hbaseline.tail
    rw [List.filter_cons, List.filter_cons (x := before)]
    by_cases hequal : (before.assertion == assertion) = true
    · have hmissing := hnow.filter_eq_nil
        (lt_of_beq_of_lt hequal (Std.OrientedCmp.lt_of_gt hgt))
      rw [hmissing, List.map_nil, occurrenceChanges_nil_left] at hlater ⊢
      rw [if_pos hequal, if_pos hequal, List.map_cons, List.map_cons, List.map_cons, hlater]
    · rw [if_neg hequal, if_neg hequal]
      exact hlater
  | case5 outcome now before baseline heq change hchange ih =>
    rw [occurrenceChanges_filter_cons heq, hchange, ← ih hnow.tail hbaseline.tail, List.filter_cons]
    split <;> rfl
  | case6 outcome now before baseline heq hchange ih =>
    rw [occurrenceChanges_filter_cons heq, hchange, ← ih hnow.tail hbaseline.tail,
      Option.toList_none, ite_self, List.nil_append]

/-- Where those that pass come first, now and in the baseline, no occurrence is fixed and none
is new and passes if one is newly failing. -/
theorem PassesFirst.oneWay {now before : List Bool} (hnow : PassesFirst now)
    (hbefore : PassesFirst before) {i j : Nat}
    (hbroken : Change.ofOccurrence? now[i]? before[i]? = some .newlyFailing) :
    Change.ofOccurrence? now[j]? before[j]? ≠ some .newlyFixed ∧
      Change.ofOccurrence? now[j]? before[j]? ≠ some .newPassing := by
  obtain ⟨hfails, hpassed⟩ := Change.ofOccurrence?_eq_newlyFailing_iff.mp hbroken
  constructor
  · intro hfixed
    obtain ⟨hpasses, hfailed⟩ := Change.ofOccurrence?_eq_newlyFixed_iff.mp hfixed
    have hji : j < i := hnow.lt_of_getElem? hpasses hfails
    have hij : i < j := hbefore.lt_of_getElem? hpassed hfailed
    omega
  · intro hnew
    obtain ⟨hpasses, hmissing⟩ := Change.ofOccurrence?_eq_newPassing_iff.mp hnew
    have hji : j < i := hnow.lt_of_getElem? hpasses hfails
    have hi : i < before.length := (List.getElem?_eq_some_iff.mp hpassed).1
    have hj : before.length ≤ j := List.getElem?_eq_none_iff.mp hmissing
    omega

namespace Comparison

theorem exists_mem_assertionsOf_iff {change : Change} {found : List (Change × Assertion)}
    {assertion : Assertion} :
    (∃ other ∈ assertionsOf change found, (other == assertion) = true) ↔
      change ∈ (found.filter (·.2 == assertion)).map Prod.fst := by
  constructor
  · rintro ⟨other, hother, hequal⟩
    obtain ⟨entry, hentry, rfl⟩ := List.mem_map.mp hother
    obtain ⟨hmem, hchange⟩ := List.mem_filter.mp hentry
    exact List.mem_map.mpr ⟨entry, List.mem_filter.mpr ⟨hmem, hequal⟩, of_decide_eq_true hchange⟩
  · intro h
    obtain ⟨entry, hentry, hchange⟩ := List.mem_map.mp h
    obtain ⟨hmem, hequal⟩ := List.mem_filter.mp hentry
    exact ⟨entry.2, List.mem_map_of_mem (List.mem_filter.mpr ⟨hmem, decide_eq_true hchange⟩), hequal⟩

/-- An assertion is listed under a change exactly if one of its occurrences changed so. -/
theorem exists_mem_changes_iff {change : Change} {current baseline : Report}
    {assertion : Assertion} :
    (∃ other ∈ assertionsOf change (changes current.outcomes baseline.outcomes),
        (other == assertion) = true) ↔
      ∃ i : Nat, Change.ofOccurrence? (current.passesOf assertion)[i]?
        (baseline.passesOf assertion)[i]? = some change := by
  rw [exists_mem_assertionsOf_iff, map_fst_filter_changes current.ascends baseline.ascends,
    mem_occurrenceChanges_iff]
  rfl

end Comparison

end FindingCheck
