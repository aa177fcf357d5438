import FindingCheck.Proofs.Checking.FileOrder

/-!
# One file and the others

What a report says about a file comes from the text of this file and from the diagnostics that were
recorded in it. Nothing that happens in one file can be seen in the part of the report that is about
the others, and what was recorded outside the corpus cannot be seen at all.

## Main statements

* `FileTree.checkRecorded_filter_contains` — what was recorded outside the corpus has no influence
* `checkRecorded_independent` — neither has what happens in one file on what is said about others
-/

namespace FindingCheck

/-- A check uses no diagnostic outside its files. -/
theorem FileTree.checkRecorded_filter_contains (tree : FileTree) (vocabulary : Vocabulary)
    (root : Path) (diagnostics : List Diagnostic) {files : List Path} {groups : List Group}
    (hgroups : ∀ file ∈ groups.flatMap Group.files, file ∈ files) :
    tree.checkRecorded vocabulary root
        (diagnostics.filter fun diagnostic => files.contains diagnostic.file) groups =
      tree.checkRecorded vocabulary root diagnostics groups := by
  have hreports : (groups.flatMap Group.files).mapM (fun file =>
      (tree.source root file).report vocabulary
        (diagnostics.filter fun diagnostic => files.contains diagnostic.file)) =
      (groups.flatMap Group.files).mapM fun file =>
        (tree.source root file).report vocabulary diagnostics :=
    mapM_congr_left fun file hfile => Source.report_filter_contains (hgroups file hfile) diagnostics
  rw [checkRecorded_eq, checkRecorded_eq, hreports]

/-- A report on a file says nothing about others. -/
theorem Report.IsOn.filter_eq {report : Report} {file : Path} (h : report.IsOn file)
    (changed : Path) :
    report.outcomes.filter (fun outcome => !(outcome.assertion.file == changed)) =
      if file == changed then [] else report.outcomes := by
  have hfile : ∀ outcome ∈ report.outcomes,
      (outcome.assertion.file == changed) = (file == changed) := fun outcome houtcome =>
    BEq.congr_left (h outcome houtcome)
  cases hchanged : file == changed with
  | true =>
    refine List.filter_eq_nil_iff.mpr fun outcome houtcome => ?_
    rw [hfile outcome houtcome, hchanged]
    exact Bool.false_ne_true
  | false =>
    refine List.filter_eq_self.mpr fun outcome houtcome => ?_
    rw [hfile outcome houtcome, hchanged]
    rfl

/-- What happens in one file has no influence on what a report says about the others: two checks
that succeed agree there if all other files have the same texts and the same diagnostics. And
diagnostics that were recorded in no file of the corpus have no influence on any check. -/
theorem checkRecorded_independent {files : List Path} (hfiles : DifferentFiles files)
    {groups others : List Group} (hgroups : (groups.flatMap Group.files).Perm files)
    (hothers : (others.flatMap Group.files).Perm files) (vocabulary : Vocabulary)
    (diagnostics recorded : List Diagnostic) (root otherRoot : Path) (tree other : FileTree) :
    (∀ (changed : Path) (report found : Report),
      (∀ file ∈ files, (file == changed) = false →
        tree.readText (root.join file) = other.readText (otherRoot.join file) ∧
          diagnostics.filter (·.file == file) = recorded.filter (·.file == file)) →
      tree.checkRecorded vocabulary root diagnostics groups = (.ok report, tree) →
      other.checkRecorded vocabulary otherRoot recorded others = (.ok found, other) →
      report.outcomes.filter (fun outcome => !(outcome.assertion.file == changed)) =
        found.outcomes.filter fun outcome => !(outcome.assertion.file == changed)) ∧
    (diagnostics.filter (fun diagnostic => files.contains diagnostic.file) =
        recorded.filter (fun diagnostic => files.contains diagnostic.file) →
      tree.checkRecorded vocabulary root diagnostics groups =
        tree.checkRecorded vocabulary root recorded groups) := by
  constructor
  · intro changed report found hsame hreport hfound
    obtain ⟨annotations, hdeclares, houtcomes⟩ :=
      FileTree.exists_declares_of_checkRecorded hfiles hgroups hreport
    obtain ⟨again, hagain, hfoundOutcomes⟩ :=
      FileTree.exists_declares_of_checkRecorded hfiles hothers hfound
    rw [houtcomes, hfoundOutcomes, List.filter_flatMap, List.filter_flatMap]
    refine List.flatMap_congr fun file hfile => ?_
    replace hfile := (perm_sortOn id files).mem_iff.mp hfile
    rw [(isOn_matchFile file _ _).filter_eq, (isOn_matchFile file _ _).filter_eq]
    cases hchanged : file == changed with
    | true => rfl
    | false =>
      obtain ⟨htext, hrecorded⟩ := hsame file hfile hchanged
      rw [(hdeclares file hfile).unique (hagain file hfile) htext]
      exact congrArg Report.outcomes (matchFile_congr _ hrecorded)
  · intro hcorpus
    have hmem : ∀ file ∈ groups.flatMap Group.files, file ∈ files := fun _ => hgroups.mem_iff.mp
    calc tree.checkRecorded vocabulary root diagnostics groups
        = tree.checkRecorded vocabulary root
            (diagnostics.filter fun diagnostic => files.contains diagnostic.file) groups :=
          (tree.checkRecorded_filter_contains vocabulary root diagnostics hmem).symm
      _ = tree.checkRecorded vocabulary root
            (recorded.filter fun diagnostic => files.contains diagnostic.file) groups := by
          rw [hcorpus]
      _ = tree.checkRecorded vocabulary root recorded groups :=
          tree.checkRecorded_filter_contains vocabulary root recorded hmem

/-- Something in the second file of the sample. -/
def plainNote : Diagnostic :=
  { file := ⟨"Two.java"⟩, line := 1, key := "redundant", severity := .note }

theorem checkRecorded_independent_sampleTree :
    (∃ report found,
      sampleTree.checkRecorded .standard ⟨"."⟩ (plainNote :: sampleDiagnostics) jointGroups =
        (.ok report, sampleTree) ∧
      sampleTree.checkRecorded .standard ⟨"."⟩ [plainNote] singleGroups =
        (.ok found, sampleTree) ∧
      report.outcomes.filter (fun outcome => !(outcome.assertion.file == ⟨"One.java"⟩)) =
        found.outcomes.filter fun outcome => !(outcome.assertion.file == ⟨"One.java"⟩)) ∧
    sampleTree.checkRecorded .standard ⟨"."⟩ sampleDiagnostics jointGroups =
      sampleTree.checkRecorded .standard ⟨"."⟩ (sampleDiagnostics.eraseIdx 1) jointGroups := by
  constructor
  · obtain ⟨report, hreport⟩ :=
      exists_checkRecorded_sampleTree perm_jointGroups (plainNote :: sampleDiagnostics)
    obtain ⟨found, hfound⟩ := exists_checkRecorded_sampleTree perm_singleGroups [plainNote]
    refine ⟨report, found, hreport, hfound, ?_⟩
    refine (checkRecorded_independent differentFiles_sampleFiles perm_jointGroups perm_singleGroups
      _ _ _ _ _ _ _).1 ⟨"One.java"⟩ report found ?_ hreport hfound
    intro file hfile hother
    rcases List.mem_pair.mp hfile with rfl | rfl
    · exact absurd hother (by decide)
    · exact ⟨rfl, by decide⟩
  · exact (checkRecorded_independent differentFiles_sampleFiles perm_jointGroups perm_jointGroups
      _ _ _ _ ⟨"."⟩ _ sampleTree).2 (by decide)

end FindingCheck
