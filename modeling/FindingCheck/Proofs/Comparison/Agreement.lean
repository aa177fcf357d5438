import FindingCheck.Proofs.Comparison.Tables

/-!
# Reports that compare as equal

A comparison sorts what changed into five lists, and whether anything changed is read off these
lists. They are empty only if the reports are the same outcome by outcome: it is not enough that
they hold the same assertions, for each occurrence of an assertion has to come out as it did.

## Main statements

* `occurrenceChanges_eq_nil_iff` — an assertion without changes comes out the same each time
* `tableChanges_eq_nil_iff`, `Comparison.isEmpty_ofTables` — tables without changes
* `Comparison.isEmpty_iff_agrees` — a comparison is empty exactly if the outcomes agree one by one
-/

namespace FindingCheck

theorem occurrenceChanges_eq_nil_iff {now before : List Bool} :
    occurrenceChanges now before = [] ↔ now = before := by
  induction now generalizing before with
  | nil =>
    rw [occurrenceChanges_nil_left, List.map_eq_nil_iff]
    exact eq_comm
  | cons passed now ih =>
    cases before with
    | nil => simp [occurrenceChanges_nil_right]
    | cons passedBefore before =>
      rw [occurrenceChanges_cons, List.append_eq_nil_iff, ih, Option.toList_eq_nil_iff,
        Change.between?_eq_none_iff, List.cons.injEq]

/-- Changes are none if none is about any assertion. -/
theorem eq_nil_iff_forall_filter {found : List (Change × Assertion)} :
    found = [] ↔ ∀ assertion, (found.filter (·.2 == assertion)).map Prod.fst = [] := by
  constructor
  · rintro rfl assertion
    rfl
  · intro h
    refine List.eq_nil_iff_forall_not_mem.mpr fun entry hentry => ?_
    have hnone := List.filter_eq_nil_iff.mp (List.map_eq_nil_iff.mp (h entry.2)) entry hentry
    exact hnone BEq.rfl

section

variable {current baseline : Report} {now before : List Row}

theorem changes_eq_nil_iff_passesOf :
    changes current.outcomes baseline.outcomes = [] ↔
      ∀ assertion, current.passesOf assertion = baseline.passesOf assertion := by
  rw [eq_nil_iff_forall_filter]
  refine forall_congr' fun assertion => ?_
  rw [map_fst_filter_changes current.ascends baseline.ascends]
  exact occurrenceChanges_eq_nil_iff

/-- Tables have no changes exactly if each assertion comes out the same in all its
occurrences. -/
theorem tableChanges_eq_nil_iff (hnow : now.Perm current.rows)
    (hbefore : before.Perm baseline.rows) :
    tableChanges now before = [] ↔
      ∀ assertion, current.passesOf assertion = baseline.passesOf assertion := by
  rw [eq_nil_iff_forall_filter]
  refine forall_congr' fun assertion => ?_
  have hperm := perm_map_fst_filter_tableChanges hnow hbefore assertion
  calc ((tableChanges now before).filter (·.2 == assertion)).map Prod.fst = []
      ↔ occurrenceChanges (current.passesOf assertion) (baseline.passesOf assertion) = [] :=
        by rw [← List.isEmpty_iff, hperm.isEmpty_eq, List.isEmpty_iff]
    _ ↔ current.passesOf assertion = baseline.passesOf assertion := occurrenceChanges_eq_nil_iff

namespace Comparison

theorem isEmpty_iff_listed {comparison : Comparison} :
    comparison.isEmpty = true ↔ ∀ change, comparison.listed change = [] := by
  simp only [isEmpty, Bool.and_eq_true, List.isEmpty_iff]
  constructor
  · rintro ⟨⟨⟨⟨hfailing, hfixed⟩, hnewFailing⟩, hnewPassing⟩, hdeleted⟩ change
    cases change
    · exact hfailing
    · exact hfixed
    · exact hnewFailing
    · exact hnewPassing
    · exact hdeleted
  · intro h
    exact ⟨⟨⟨⟨h .newlyFailing, h .newlyFixed⟩, h .newFailing⟩, h .newPassing⟩, h .deleted⟩

/-- The lists of a comparison of tables are sorted, which makes none of them empty. -/
theorem isEmpty_ofTables : (ofTables now before).isEmpty = true ↔ tableChanges now before = [] := by
  rw [← isEmpty_ofChanges, isEmpty_iff_listed, isEmpty_iff_listed]
  refine forall_congr' fun change => ?_
  rw [listed_ofTables, listed_ofChanges, ← List.isEmpty_iff, (perm_sortOn id _).isEmpty_eq,
    List.isEmpty_iff]

/-- A comparison is empty exactly if the outcomes of the reports agree one by one: about equal
assertions, whose files may be spelled differently, and whether they hold. This is so for any
reports, whatever assertions they repeat and whatever leftovers they hold, and also where the
reports are compared by tables that list their rows in any order. -/
theorem isEmpty_iff_agrees (current baseline : Report) :
    ((ofReports current baseline).isEmpty = true ↔
      List.Forall₂ Outcome.Agrees current.outcomes baseline.outcomes) ∧
    ∀ now before, now.Perm current.rows → before.Perm baseline.rows →
      ((ofTables now before).isEmpty = true ↔
        List.Forall₂ Outcome.Agrees current.outcomes baseline.outcomes) := by
  refine ⟨isEmpty_ofReports_iff, fun now before hnow hbefore => ?_⟩
  calc (ofTables now before).isEmpty = true
      ↔ tableChanges now before = [] := isEmpty_ofTables
    _ ↔ ∀ assertion, current.passesOf assertion = baseline.passesOf assertion :=
        tableChanges_eq_nil_iff hnow hbefore
    _ ↔ changes current.outcomes baseline.outcomes = [] := changes_eq_nil_iff_passesOf.symm
    _ ↔ List.Forall₂ Outcome.Agrees current.outcomes baseline.outcomes := changes_eq_nil_iff

end Comparison

end

/-- `puzzlingReport` with its file spelled in another way, and without what was left over. -/
def respelledReport : Report where
  outcomes := [.ofExpectation { puzzlingExpectation with file := ⟨"b:7//x 1:y"⟩ } true,
    .ofExpectation puzzlingExpectation false,
    { assertion := .noUnexpected ⟨"b:7/./x 1:y/"⟩, passed := false }]
  ascends := by decide

theorem isEmpty_iff_agrees_respelledReport :
    (Comparison.ofReports respelledReport puzzlingReport).isEmpty = true ∧
      (Comparison.ofTables respelledReport.rows.reverse puzzlingReport.rows).isEmpty = true ∧
      (Comparison.ofTables swappedReport.rows.reverse puzzlingReport.rows).isEmpty = false := by
  have hagree : List.Forall₂ Outcome.Agrees respelledReport.outcomes puzzlingReport.outcomes :=
    .cons ⟨by decide, rfl⟩ (.cons ⟨by decide, rfl⟩ (.cons ⟨by decide, rfl⟩ .nil))
  have hdiffer : ¬List.Forall₂ Outcome.Agrees swappedReport.outcomes puzzlingReport.outcomes := by
    simp [swappedReport, puzzlingReport, Outcome.Agrees, Outcome.ofExpectation]
  obtain ⟨hreports, htables⟩ := Comparison.isEmpty_iff_agrees respelledReport puzzlingReport
  refine ⟨hreports.mpr hagree, (htables _ _ (List.reverse_perm _) (List.Perm.refl _)).mpr hagree, ?_⟩
  rw [Bool.eq_false_iff, Ne, (Comparison.isEmpty_iff_agrees swappedReport puzzlingReport).2 _ _
    (List.reverse_perm _) (List.Perm.refl _)]
  exact hdiffer

end FindingCheck
