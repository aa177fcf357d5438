import FindingCheck.Proofs.Checking.FileOrder
import FindingCheck.Proofs.Matching.Reordering

/-!
# Reordered diagnostics in a corpus

The outcomes of expectations are the same in whatever order the diagnostics were recorded. The order
can be seen in whether a whole file passes, but only where one expectation accepts diagnostics of
which some must be expected and some need not be.

## Main statements

* `checkRecorded_perm` — the order of the diagnostics, for the expectations and for the text
-/

namespace FindingCheck

variable {vocabulary : Vocabulary} {root : Path} {tree : FileTree} {files : List Path}
  {groups others : List Group}

/-- The order in which diagnostics were recorded has no influence on the outcomes of the
expectations. If the diagnostics are consistent, the text of the report is the same as well. -/
theorem checkRecorded_perm (hfiles : DifferentFiles files)
    (hgroups : (groups.flatMap Group.files).Perm files)
    (hothers : (others.flatMap Group.files).Perm files) {diagnostics reordered : List Diagnostic}
    (hperm : diagnostics.Perm reordered) {report moved : Report}
    (hreport : tree.checkRecorded vocabulary root diagnostics groups = (.ok report, tree))
    (hmoved : tree.checkRecorded vocabulary root reordered others = (.ok moved, tree)) :
    report.outcomes.filter (!·.assertion.isWholeFile) =
        moved.outcomes.filter (!·.assertion.isWholeFile) ∧
      (Consistent diagnostics → report.render false = moved.render false) := by
  obtain ⟨annotations, hdeclares, houtcomes⟩ :=
    FileTree.exists_declares_of_checkRecorded hfiles hgroups hreport
  obtain ⟨again, hagain, hmovedOutcomes⟩ :=
    FileTree.exists_declares_of_checkRecorded hfiles hothers hmoved
  -- both checks read the same texts, so the files declare the same in both
  have hsame : ∀ file ∈ sortOn id files, again file = annotations file := by
    intro file hfile
    replace hfile := (perm_sortOn id files).mem_iff.mp hfile
    exact (hagain file hfile).unique (hdeclares file hfile) rfl
  constructor
  · rw [houtcomes, hmovedOutcomes, List.filter_flatMap, List.filter_flatMap]
    refine List.flatMap_congr fun file hfile => ?_
    rw [hsame file hfile]
    exact filter_outcomes_matchFile_perm hperm file _
  · intro hconsistent
    have hstored : report.withoutLeftovers = moved.withoutLeftovers := by
      apply Report.eq_of_outcomes_eq
      show report.outcomes.map Outcome.withoutLeftovers = moved.outcomes.map Outcome.withoutLeftovers
      rw [houtcomes, hmovedOutcomes, List.map_flatMap, List.map_flatMap]
      refine List.flatMap_congr fun file hfile => ?_
      rw [hsame file hfile]
      exact map_withoutLeftovers_matchFile_perm hperm hconsistent file _
    rw [← Report.render_withoutLeftovers report, ← Report.render_withoutLeftovers moved, hstored]

theorem checkRecorded_perm_sampleTree :
    ∃ report moved,
      sampleTree.checkRecorded .standard ⟨"."⟩ sampleDiagnostics jointGroups =
        (.ok report, sampleTree) ∧
      sampleTree.checkRecorded .standard ⟨"."⟩ sampleDiagnostics.reverse singleGroups =
        (.ok moved, sampleTree) ∧
      report.outcomes.filter (!·.assertion.isWholeFile) =
        moved.outcomes.filter (!·.assertion.isWholeFile) ∧
      report.render false = moved.render false := by
  obtain ⟨report, hreport⟩ := exists_checkRecorded_sampleTree perm_jointGroups sampleDiagnostics
  obtain ⟨moved, hmoved⟩ :=
    exists_checkRecorded_sampleTree perm_singleGroups sampleDiagnostics.reverse
  have herrors : ∀ diagnostic ∈ sampleDiagnostics, Finding.mustBeExpected diagnostic = true := by
    decide
  have hconsistent : Consistent sampleDiagnostics := by
    intro a ha b hb _ _
    rw [herrors a ha, herrors b hb]
  obtain ⟨hexpected, hrender⟩ := checkRecorded_perm differentFiles_sampleFiles perm_jointGroups
    perm_singleGroups (List.reverse_perm sampleDiagnostics).symm hreport hmoved
  exact ⟨report, moved, hreport, hmoved, hexpected, hrender hconsistent⟩

end FindingCheck
