import FindingCheck.Proofs.Checking.FileOrder
import FindingCheck.Proofs.Matching.Outcomes
import FindingCheck.Proofs.Reading.Expectations
import Mathlib.Algebra.BigOperators.Group.List.Basic
import Mathlib.Data.List.Perm.Basic

/-!
# What a report accounts for

Of each file, the report of a corpus gives the outcomes of the expectations and then that of the
whole file. Every diagnostic that was recorded in a file of the corpus is found there once: it made
an expectation pass, or it is left over.

## Main statements

* `countP_contains` — the findings in different files, counted file by file
* `checkRecorded_accounts` — what the outcomes of a report are, and how many
-/

namespace FindingCheck

/-- The findings in different files are those in each of them, added up. -/
theorem countP_contains {α : Type} [Finding α] {files : List Path} (hfiles : DifferentFiles files)
    (findings : List α) :
    findings.countP (fun finding => files.contains (Finding.file finding)) =
      (files.map fun file => (findings.filter (Finding.file · == file)).length).sum := by
  induction files with
  | nil => simp
  | cons file files ih =>
    obtain ⟨hfile, hothers⟩ := List.pairwise_cons.mp hfiles
    have hhere : (findings.filter (Finding.file · == file)).countP
        (fun finding => (file :: files).contains (Finding.file finding)) =
          (findings.filter (Finding.file · == file)).length := by
      refine List.countP_eq_length.mpr fun finding hfinding => ?_
      rw [List.contains_cons, (List.mem_filter.mp hfinding).2, Bool.true_or]
    -- a finding in the file is in no other one, so it is not counted there again
    have hthere : (findings.filter fun finding => !(Finding.file finding == file)).countP
        (fun finding => (file :: files).contains (Finding.file finding)) =
          findings.countP fun finding => files.contains (Finding.file finding) := by
      rw [List.countP_filter]
      refine List.countP_congr fun finding _ => ?_
      rw [List.contains_cons]
      cases hin : Finding.file finding == file with
      | false => simp
      | true =>
        have hnone : files.contains (Finding.file finding) = false := by
          rw [← Bool.not_eq_true, List.contains_iff_exists_mem_beq]
          rintro ⟨other, hother, heq⟩
          have hsame : (file == other) = true := BEq.trans (BEq.symm hin) heq
          rw [hfile other hother] at hsame
          cases hsame
        simp [hnone]
    rw [List.map_cons, List.sum_cons, ← ih hothers, ← hhere, ← hthere,
      ← List.countP_eq_countP_filter_add]

theorem map_assertion_of_declares {tree : FileTree} {vocabulary : Vocabulary} {root file : Path}
    {annotations : Annotations} (h : tree.Declares vocabulary root file annotations)
    (diagnostics : List Diagnostic) :
    (matchFile file annotations.expectations diagnostics).outcomes.map Outcome.assertion =
      (Expectation.inOrder annotations.expectations).map .expected ++ [.noUnexpected file] := by
  obtain ⟨text, -, hread⟩ := h
  rw [map_assertion_outcomes_matchFile, filter_file_of_readAnnotations hread]

theorem length_inOrder (expectations : List Expectation) :
    (Expectation.inOrder expectations).length = expectations.length :=
  (List.mergeSort_perm _ _).length_eq

theorem countP_isWholeFile (file : Path) (expectations : List Expectation) :
    ((Expectation.inOrder expectations).map Assertion.expected ++
      [Assertion.noUnexpected file]).countP Assertion.isWholeFile = 1 := by
  have hnone : ((Expectation.inOrder expectations).map Assertion.expected).countP
      Assertion.isWholeFile = 0 := by
    rw [List.countP_eq_zero]
    intro assertion h
    obtain ⟨expectation, -, rfl⟩ := List.mem_map.mp h
    simp [Assertion.isWholeFile]
  rw [List.countP_append, hnone]
  rfl

theorem sum_map_sortOn (files : List Path) (count : Path → Nat) :
    ((sortOn id files).map count).sum = (files.map count).sum :=
  ((perm_sortOn id files).map count).sum_eq

/-- What a report accounts for. It goes through the different files of a corpus in ascending order:
of each it has one outcome for each expectation that the file declares, by line, text and fact, and
then one for the whole file. And the diagnostics recorded in these files are as many as the
expectations that passed and all leftovers. -/
theorem checkRecorded_accounts {vocabulary : Vocabulary} {root : Path} {tree : FileTree}
    {files : List Path} {groups : List Group} (hfiles : DifferentFiles files)
    (hgroups : (groups.flatMap Group.files).Perm files) {diagnostics : List Diagnostic}
    {report : Report}
    (hrun : tree.checkRecorded vocabulary root diagnostics groups = (.ok report, tree)) :
    ∃ annotations : Path → Annotations,
      (∀ file ∈ files, tree.Declares vocabulary root file (annotations file)) ∧
      report.outcomes.map Outcome.assertion =
        (sortOn id files).flatMap (fun file =>
          (Expectation.inOrder (annotations file).expectations).map .expected ++
            [.noUnexpected file]) ∧
      report.fileCount = files.length ∧
      report.total =
        files.length + (files.map fun file => (annotations file).expectations.length).sum ∧
      diagnostics.countP (fun diagnostic => files.contains diagnostic.file) =
        report.outcomes.countP (fun outcome => outcome.passed && !outcome.assertion.isWholeFile) +
          (report.outcomes.map (·.leftovers.length)).sum := by
  obtain ⟨annotations, hdeclares, houtcomes⟩ :=
    FileTree.exists_declares_of_checkRecorded hfiles hgroups hrun
  have hassertions : report.outcomes.map Outcome.assertion =
      (sortOn id files).flatMap (fun file =>
        (Expectation.inOrder (annotations file).expectations).map .expected ++
          [.noUnexpected file]) := by
    rw [houtcomes, List.map_flatMap]
    refine List.flatMap_congr fun file hfile => ?_
    exact map_assertion_of_declares
      (hdeclares file ((perm_sortOn id files).mem_iff.mp hfile)) diagnostics
  refine ⟨annotations, hdeclares, hassertions, ?_, ?_, ?_⟩
  · calc report.fileCount
        = (report.outcomes.map Outcome.assertion).countP Assertion.isWholeFile := by
          rw [List.countP_map]
          rfl
      _ = ((sortOn id files).map fun _ => 1).sum := by
          rw [hassertions, List.countP_flatMap]
          exact congrArg List.sum (List.map_congr_left fun file _ => countP_isWholeFile file _)
      _ = files.length := by
          rw [sum_map_sortOn, List.map_const', List.sum_replicate_nat, Nat.mul_one]
  · calc report.total
        = (report.outcomes.map Outcome.assertion).length := (List.length_map _).symm
      _ = ((sortOn id files).map fun file => (annotations file).expectations.length + 1).sum := by
          rw [hassertions, List.length_flatMap]
          simp only [List.length_append, List.length_map, length_inOrder, List.length_singleton]
      _ = files.length + (files.map fun file => (annotations file).expectations.length).sum := by
          rw [sum_map_sortOn, List.sum_map_add, List.map_const', List.sum_replicate_nat,
            Nat.mul_one, Nat.add_comm]
  · calc diagnostics.countP (fun diagnostic => files.contains diagnostic.file)
        = (files.map fun file => (diagnostics.filter (Finding.file · == file)).length).sum :=
          countP_contains hfiles diagnostics
      _ = ((sortOn id files).map fun file =>
            (diagnostics.filter (Finding.file · == file)).length).sum := (sum_map_sortOn _ _).symm
      _ = _ := by
          rw [houtcomes, List.countP_flatMap, List.map_flatMap, List.flatMap_def, List.sum_flatten,
            List.map_map, ← List.sum_map_add]
          exact congrArg List.sum (List.map_congr_left fun file _ =>
            length_findings_matchFile file (annotations file).expectations diagnostics)

theorem checkRecorded_accounts_sampleTree :
    ∃ report,
      sampleTree.checkRecorded .standard ⟨"."⟩ sampleDiagnostics singleGroups =
        (.ok report, sampleTree) ∧
      report.fileCount = 2 ∧
      report.outcomes.countP (fun outcome => outcome.passed && !outcome.assertion.isWholeFile) +
        (report.outcomes.map (·.leftovers.length)).sum = 2 := by
  obtain ⟨report, hrun⟩ := exists_checkRecorded_sampleTree perm_singleGroups sampleDiagnostics
  obtain ⟨-, -, -, hcount, -, hrecorded⟩ :=
    checkRecorded_accounts differentFiles_sampleFiles perm_singleGroups hrun
  have htwo : sampleDiagnostics.countP
      (fun diagnostic => sampleFiles.contains diagnostic.file) = 2 := by
    decide
  exact ⟨report, hrun, hcount, hrecorded.symm.trans htwo⟩

end FindingCheck
