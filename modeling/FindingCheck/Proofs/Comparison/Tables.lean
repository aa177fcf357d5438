import FindingCheck.Proofs.Comparison.Counts
import FindingCheck.Proofs.StoredReport

/-!
# Comparing by tables

Reports can be compared without going through them side by side: every outcome is a row of a table,
under its assertion and the number of equal assertions in front of it, and each row of one table is
looked up in the other. The order in which a table lists its rows has no influence, and the changes
that are found are those between the reports.

## Main definitions

* `Row`, `Report.rows` — the table of a report
* `Row.look?` — what a table says of an occurrence of an assertion
* `tableChanges`, `Comparison.ofTables` — the changes between two tables

## Main statements

* `Row.look?_of_perm` — a table in any order says how each occurrence comes out
* `perm_map_fst_filter_tableChanges` — the changes of each assertion between two tables
* `eq_of_count_eq` — lists that ascend and hold each assertion equally often are equal
* `ofReports_counts` — what a comparison of reports lists, and that tables in any order give the same
-/

namespace FindingCheck

/-- An outcome in a table. -/
structure Row where
  /-- The assertion. -/
  assertion : Assertion
  /-- The number of equal assertions in front of it. -/
  occurrence : Nat
  /-- Whether it holds. -/
  passed : Bool

/-- The rows of outcomes in a report, behind those whose assertions are given. -/
def rowsBehind (seen : List Assertion) : List Outcome → List Row
  | [] => []
  | outcome :: more =>
    ⟨outcome.assertion, seen.count outcome.assertion, outcome.passed⟩ ::
      rowsBehind (outcome.assertion :: seen) more

/-- The table of a report. -/
def Report.rows (report : Report) : List Row :=
  rowsBehind [] report.outcomes

/-- How an occurrence of an assertion comes out, if the table has it. -/
def Row.look? (table : List Row) (assertion : Assertion) (occurrence : Nat) : Option Bool :=
  (table.find? fun row => row.assertion == assertion && row.occurrence == occurrence).map (·.passed)

/-- The changes between two tables: what has become of each row of the one now, and the rows of
the one before that are missing now. -/
def tableChanges (now before : List Row) : List (Change × Assertion) :=
  (now.filterMap fun row =>
    (Change.ofOccurrence? (some row.passed) (Row.look? before row.assertion row.occurrence)).map
      fun change => (change, row.assertion)) ++
  (before.filter fun row => (Row.look? now row.assertion row.occurrence).isNone).map fun row =>
    (.deleted, row.assertion)

/-- The comparison of two tables. Its lists are sorted in the end. -/
def Comparison.ofTables (now before : List Row) : Comparison where
  newlyFailing := sortOn id (assertionsOf .newlyFailing (tableChanges now before))
  newlyFixed := sortOn id (assertionsOf .newlyFixed (tableChanges now before))
  newFailing := sortOn id (assertionsOf .newFailing (tableChanges now before))
  newPassing := sortOn id (assertionsOf .newPassing (tableChanges now before))
  deleted := sortOn id (assertionsOf .deleted (tableChanges now before))

theorem Comparison.listed_ofTables (now before : List Row) (change : Change) :
    (ofTables now before).listed change =
      sortOn id (assertionsOf change (tableChanges now before)) := by
  cases change <;> rfl

/-- A comparison is known from its five lists. -/
theorem Comparison.ext_listed {a b : Comparison} (h : ∀ change, a.listed change = b.listed change) :
    a = b := by
  cases a
  cases b
  rw [Comparison.mk.injEq]
  exact ⟨h .newlyFailing, h .newlyFixed, h .newFailing, h .newPassing, h .deleted⟩

/-! ### What a table says -/

theorem count_congr {a b : Assertion} (h : (a == b) = true) (assertions : List Assertion) :
    assertions.count a = assertions.count b := by
  refine List.countP_congr fun other _ => ?_
  rw [BEq.congr_right h]

theorem Report.passesOf_congr (report : Report) {a b : Assertion} (h : (a == b) = true) :
    report.passesOf a = report.passesOf b := by
  refine congrArg (List.map _) (List.filter_congr fun outcome _ => ?_)
  rw [BEq.congr_right h]

/-- What a row says of an assertion. -/
def Row.statement (row : Row) : Bool × Nat :=
  (row.passed, row.occurrence)

/-- The rows of equal assertions number their outcomes. -/
theorem map_statement_rowsBehind (seen : List Assertion) (outcomes : List Outcome)
    (assertion : Assertion) :
    ((rowsBehind seen outcomes).filter (·.assertion == assertion)).map Row.statement =
      ((outcomes.filter (·.assertion == assertion)).map (·.passed)).zipIdx
        (seen.count assertion) := by
  induction outcomes generalizing seen with
  | nil => rfl
  | cons outcome more ih =>
    have hlater := ih (outcome.assertion :: seen)
    rw [List.count_cons] at hlater
    rw [rowsBehind, List.filter_cons, List.filter_cons]
    by_cases hequal : (outcome.assertion == assertion) = true
    · rw [if_pos hequal] at hlater
      rw [if_pos hequal, if_pos hequal, List.map_cons, List.map_cons, List.zipIdx_cons, hlater,
        Row.statement, count_congr hequal]
    · rw [if_neg hequal] at hlater
      rw [if_neg hequal, if_neg hequal, hlater, Nat.add_zero]

variable {report current baseline : Report} {table now before : List Row}

/-- A table in any order states the outcomes of each assertion. -/
theorem perm_map_statement (h : table.Perm report.rows) (assertion : Assertion) :
    ((table.filter (·.assertion == assertion)).map Row.statement).Perm
      (report.passesOf assertion).zipIdx := by
  have hrows : (report.rows.filter (·.assertion == assertion)).map Row.statement =
      (report.passesOf assertion).zipIdx :=
    map_statement_rowsBehind [] report.outcomes assertion
  rw [← hrows]
  exact (h.filter _).map _

/-- In a table in any order, an occurrence is looked up by its position among the equal
assertions. -/
theorem Row.look?_of_perm (h : table.Perm report.rows) (assertion : Assertion) (occurrence : Nat) :
    look? table assertion occurrence = (report.passesOf assertion)[occurrence]? := by
  have hstated (passed : Bool) : (report.passesOf assertion)[occurrence]? = some passed ↔
      ∃ row ∈ table, (row.assertion == assertion) = true ∧ row.statement = (passed, occurrence) := by
    rw [← List.mk_mem_zipIdx_iff_getElem?, ← (perm_map_statement h assertion).mem_iff,
      List.mem_map]
    simp only [List.mem_filter, and_assoc]
  cases hfound : table.find? fun row =>
      row.assertion == assertion && row.occurrence == occurrence with
  | some row =>
    obtain ⟨hequal, hoccurrence⟩ := Bool.and_eq_true_iff.mp
      (@List.find?_some _ _ row table hfound)
    rw [look?, hfound, Option.map_some, eq_comm, hstated]
    exact ⟨row, List.mem_of_find?_eq_some hfound, hequal, Prod.ext rfl (beq_iff_eq.mp hoccurrence)⟩
  | none =>
    rw [look?, hfound, Option.map_none, eq_comm, Option.eq_none_iff_forall_ne_some]
    intro passed hpassed
    obtain ⟨row, hrow, hequal, hstatement⟩ := (hstated passed).mp hpassed
    have hnot := List.find?_eq_none.mp hfound row hrow
    rw [hequal, (Prod.mk.inj hstatement).2] at hnot
    simp at hnot

/-! ### The changes between tables -/

/-- The changes of an assertion: what became of each occurrence now, and the occurrences that are
missing now. -/
theorem occurrenceChanges_eq_append (now before : List Bool) :
    occurrenceChanges now before =
      now.zipIdx.filterMap (fun stated =>
        Change.ofOccurrence? (some stated.1) before[stated.2]?) ++
      (before.zipIdx.filter fun stated => now[stated.2]?.isNone).map fun _ => .deleted := by
  induction now generalizing before with
  | nil =>
    rw [occurrenceChanges_nil_left]
    simp
  | cons passed now ih =>
    cases before with
    | nil =>
      have hnow : (passed :: now).map Change.ofNew =
          (passed :: now).zipIdx.map (Change.ofNew ∘ Prod.fst) := by
        rw [← List.map_map, List.zipIdx_map_fst]
      rw [occurrenceChanges_nil_right, hnow]
      simp [Change.ofOccurrence?]
    | cons passedBefore before =>
      rw [occurrenceChanges_cons, ih, List.zipIdx_cons, List.zipIdx_cons, List.zipIdx_succ,
        List.zipIdx_succ, List.filterMap_cons, List.filter_cons, List.filterMap_map,
        List.filter_map]
      cases hchange : Change.between? passedBefore passed <;>
        simp [Change.ofOccurrence?, hchange, Function.comp_def]

/-- The changes of an assertion between two tables in any order are those of its occurrences, in
some order. -/
theorem perm_map_fst_filter_tableChanges (hnow : now.Perm current.rows)
    (hbefore : before.Perm baseline.rows) (assertion : Assertion) :
    (((tableChanges now before).filter (·.2 == assertion)).map Prod.fst).Perm
      (occurrenceChanges (current.passesOf assertion) (baseline.passesOf assertion)) := by
  have hfound : (((now.filterMap fun row =>
        (Change.ofOccurrence? (some row.passed)
          (Row.look? before row.assertion row.occurrence)).map
            fun change => (change, row.assertion)).filter (·.2 == assertion)).map Prod.fst) =
      ((now.filter (·.assertion == assertion)).map Row.statement).filterMap fun stated =>
        Change.ofOccurrence? (some stated.1) (baseline.passesOf assertion)[stated.2]? := by
    rw [List.filter_filterMap, List.map_filterMap, List.filterMap_map, List.filterMap_filter]
    refine List.filterMap_congr fun row _ => ?_
    rw [Function.comp_apply, Row.statement, Row.look?_of_perm hbefore]
    by_cases hequal : (row.assertion == assertion) = true
    · rw [if_pos hequal, baseline.passesOf_congr hequal]
      cases Change.ofOccurrence? (some row.passed) (baseline.passesOf assertion)[row.occurrence]? <;>
        simp [hequal]
    · rw [if_neg hequal]
      cases Change.ofOccurrence? (some row.passed)
        (baseline.passesOf row.assertion)[row.occurrence]? <;> simp [hequal]
  have hmissing : ((((before.filter fun row =>
        (Row.look? now row.assertion row.occurrence).isNone).map fun row =>
          (Change.deleted, row.assertion)).filter (·.2 == assertion)).map Prod.fst) =
      (((before.filter (·.assertion == assertion)).map Row.statement).filter fun stated =>
        (current.passesOf assertion)[stated.2]?.isNone).map fun _ => .deleted := by
    rw [List.filter_map, List.map_map, List.filter_map, List.map_map, List.filter_filter,
      List.filter_filter]
    refine congrArg (List.map _) (List.filter_congr fun row _ => ?_)
    rw [Function.comp_apply, Function.comp_apply, Row.statement, Row.look?_of_perm hnow]
    by_cases hequal : (row.assertion == assertion) = true
    · rw [current.passesOf_congr hequal, hequal, Bool.true_and, Bool.and_true]
    · rw [Bool.eq_false_iff.mpr hequal, Bool.false_and, Bool.and_false]
  rw [tableChanges, List.filter_append, List.map_append, hfound, hmissing,
    occurrenceChanges_eq_append]
  exact ((perm_map_statement hnow assertion).filterMap _).append
    (((perm_map_statement hbefore assertion).filter _).map _)

theorem exists_outcome_of_mem_rowsBehind {seen : List Assertion} {outcomes : List Outcome}
    {row : Row} (h : row ∈ rowsBehind seen outcomes) :
    ∃ outcome ∈ outcomes, outcome.assertion = row.assertion := by
  induction outcomes generalizing seen with
  | nil => cases h
  | cons outcome more ih =>
    rcases List.mem_cons.mp h with rfl | hlater
    · exact ⟨outcome, List.mem_cons_self, rfl⟩
    · obtain ⟨other, hother, heq⟩ := ih hlater
      exact ⟨other, List.mem_cons_of_mem _ hother, heq⟩

theorem exists_outcome_of_mem_tableChanges (hnow : now.Perm current.rows)
    (hbefore : before.Perm baseline.rows) {entry : Change × Assertion}
    (h : entry ∈ tableChanges now before) :
    ∃ outcome ∈ current.outcomes ++ baseline.outcomes, outcome.assertion = entry.2 := by
  rcases List.mem_append.mp h with hfound | hmissing
  · obtain ⟨row, hrow, hchange⟩ := List.mem_filterMap.mp hfound
    obtain ⟨change, -, rfl⟩ := Option.map_eq_some_iff.mp hchange
    obtain ⟨outcome, houtcome, heq⟩ := exists_outcome_of_mem_rowsBehind (hnow.mem_iff.mp hrow)
    exact ⟨outcome, List.mem_append_left _ houtcome, heq⟩
  · obtain ⟨row, hrow, rfl⟩ := List.mem_map.mp hmissing
    obtain ⟨outcome, houtcome, heq⟩ :=
      exists_outcome_of_mem_rowsBehind (hbefore.mem_iff.mp (List.mem_of_mem_filter hrow))
    exact ⟨outcome, List.mem_append_right _ houtcome, heq⟩

/-! ### Lists that ascend -/

theorem length_tie_eq_count (assertion : Assertion) (assertions : List Assertion) :
    (tie id assertion assertions).length = assertions.count assertion := by
  rw [tie, List.count, List.countP_eq_length_filter]
  refine congrArg List.length (List.filter_congr fun other _ => ?_)
  rw [Bool.eq_iff_iff, beq_iff_eq, ← Assertion.compare_eq_iff]
  rfl

/-- Lists that ascend and hold each assertion equally often are equal, where equal assertions
are the same. -/
theorem eq_of_count_eq {xs ys : List Assertion}
    (hxs : xs.Pairwise fun a b => notBehind id a b = true)
    (hys : ys.Pairwise fun a b => notBehind id a b = true)
    (hsame : ∀ a ∈ xs, ∀ b ∈ ys, (a == b) = true → a = b)
    (hcount : ∀ assertion, xs.count assertion = ys.count assertion) : xs = ys := by
  refine eq_of_tie_eq hxs hys fun k => ?_
  have hlength : (tie id k xs).length = (tie id k ys).length := by
    rw [length_tie_eq_count, length_tie_eq_count, hcount]
  refine List.ext_getElem hlength fun i hix hiy => ?_
  -- all that is in a tie is equal to its key, so what stands at the same position is equal
  obtain ⟨hx, hxk⟩ := mem_tie.mp (List.getElem_mem hix)
  obtain ⟨hy, hyk⟩ := mem_tie.mp (List.getElem_mem hiy)
  refine hsame _ hx _ hy (Assertion.compare_eq_iff.mp ?_)
  exact Std.TransCmp.eq_trans hxk (Std.OrientedCmp.eq_symm hyk)

/-- Where equal files are spelled alike, equal assertions are the same. -/
theorem Report.SpelledAlike.eq_of_beq (hcurrent : current.SpelledAlike current)
    (hbaseline : baseline.SpelledAlike baseline) (hboth : current.SpelledAlike baseline)
    {x y : Outcome} (hx : x ∈ current.outcomes ++ baseline.outcomes)
    (hy : y ∈ current.outcomes ++ baseline.outcomes)
    (hequal : (x.assertion == y.assertion) = true) : x.assertion = y.assertion := by
  have hfile : (x.assertion.file == y.assertion.file) = true := Assertion.file_beq_of_beq hequal
  refine Assertion.eq_of_beq hequal ?_
  rcases List.mem_append.mp hx with hxnow | hxbefore <;>
    rcases List.mem_append.mp hy with hynow | hybefore
  · exact hcurrent x hxnow y hynow hfile
  · exact hboth x hxnow y hybefore hfile
  · exact (hboth y hynow x hxbefore (BEq.symm hfile)).symm
  · exact hbaseline x hxbefore y hybefore hfile

/-- Tables in any order give the comparison of the reports, where equal files are spelled
alike. -/
theorem ofTables_eq_ofReports (hcurrent : current.SpelledAlike current)
    (hbaseline : baseline.SpelledAlike baseline) (hboth : current.SpelledAlike baseline)
    (hnow : now.Perm current.rows) (hbefore : before.Perm baseline.rows) :
    Comparison.ofTables now before = Comparison.ofReports current baseline := by
  refine Comparison.ext_listed fun change => ?_
  rw [Comparison.listed_ofTables]
  refine eq_of_count_eq (pairwise_sortOn _ _) (Comparison.pairwise_listed current baseline change)
    ?_ fun assertion => ?_
  · intro a ha b hb hequal
    obtain ⟨entry, hentry, rfl⟩ := List.mem_map.mp ((perm_sortOn _ _).mem_iff.mp ha)
    obtain ⟨x, hx, hxa⟩ :=
      exists_outcome_of_mem_tableChanges hnow hbefore (List.mem_of_mem_filter hentry)
    obtain ⟨y, hy, rfl⟩ := Comparison.exists_of_mem_listed current baseline hb
    rw [← hxa] at hequal ⊢
    exact hcurrent.eq_of_beq hbaseline hboth hx hy hequal
  · rw [(perm_sortOn _ _).count_eq, Comparison.count_assertionsOf,
      (perm_map_fst_filter_tableChanges hnow hbefore assertion).count_eq,
      count_occurrenceChanges, Comparison.count_listed]

/-- Two reports that spell equal files alike compare the same by tables in any order. An
assertion is listed under a change as often as its occurrences changed so, which are paired in the
order of the reports; nothing else is listed, and the lists ascend. -/
theorem ofReports_counts (hcurrent : current.SpelledAlike current)
    (hbaseline : baseline.SpelledAlike baseline) (hboth : current.SpelledAlike baseline) :
    (∀ now before, now.Perm current.rows → before.Perm baseline.rows →
        Comparison.ofTables now before = Comparison.ofReports current baseline) ∧
      ∀ change,
        (∀ assertion, ((Comparison.ofReports current baseline).listed change).count assertion =
            change.times (current.passesOf assertion) (baseline.passesOf assertion)) ∧
          (∀ assertion ∈ (Comparison.ofReports current baseline).listed change,
            ∃ outcome ∈ current.outcomes ++ baseline.outcomes, outcome.assertion = assertion) ∧
          ((Comparison.ofReports current baseline).listed change).Pairwise
            fun a b => notBehind id a b = true := by
  refine ⟨fun now before hnow hbefore =>
    ofTables_eq_ofReports hcurrent hbaseline hboth hnow hbefore, fun change => ⟨?_, ?_, ?_⟩⟩
  · exact Comparison.count_listed current baseline change
  · exact fun assertion => Comparison.exists_of_mem_listed current baseline
  · exact Comparison.pairwise_listed current baseline change

/-- The expectation of `puzzlingReport` once more: the two outcomes it had have changed places, and
the file is left out. -/
def swappedReport : Report where
  outcomes := [.ofExpectation puzzlingExpectation false, .ofExpectation puzzlingExpectation true,
    .ofExpectation puzzlingExpectation true]
  ascends := by decide

theorem ofReports_counts_swapped :
    Comparison.ofTables swappedReport.rows.reverse puzzlingReport.rows.reverse =
        .ofReports swappedReport puzzlingReport ∧
      [Change.newlyFailing, .newlyFixed, .newFailing, .newPassing, .deleted].map (fun change =>
          ((Comparison.ofReports swappedReport puzzlingReport).listed change).count
            (.expected puzzlingExpectation)) =
        [1, 1, 0, 1, 0] ∧
      ((Comparison.ofReports swappedReport puzzlingReport).listed .deleted).count
        (.noUnexpected puzzlingFile) = 1 := by
  have hswapped : swappedReport.SpelledAlike swappedReport := by
    unfold Report.SpelledAlike
    decide
  have hpuzzling : puzzlingReport.SpelledAlike puzzlingReport := by
    unfold Report.SpelledAlike
    decide
  have hboth : swappedReport.SpelledAlike puzzlingReport := by
    unfold Report.SpelledAlike
    decide
  obtain ⟨htables, hlists⟩ := ofReports_counts hswapped hpuzzling hboth
  refine ⟨htables _ _ (List.reverse_perm _) (List.reverse_perm _), ?_, ?_⟩
  · simp only [List.map_cons, List.map_nil, fun change => (hlists change).1]
    decide +kernel
  · rw [(hlists .deleted).1]
    decide +kernel

end FindingCheck
