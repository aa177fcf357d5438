import FindingCheck.Proofs.Checking.Partition

/-!
# The files of a report in order

The report of a corpus goes through the files in ascending order, and of each file it gives what the
report on the file alone gives. Whatever is known of the reports on single files is so known of the
report of a corpus.

## Main statements

* `Report.outcomes_ofOutcomes_files` — the outcomes on different files stand file after file
* `FileTree.exists_declares_of_checkRecorded` — what is known of a check that succeeds
-/

namespace FindingCheck

/-- The order of assertions is that of their files, where these differ. -/
theorem Assertion.notBehind_of_files {x y : Assertion} {a b : Path} (hx : (x.file == a) = true)
    (hy : (y.file == b) = true) (hdiffer : (a == b) = false) (hab : notBehind id a b = true) :
    notBehind id x y = true := by
  have hfiles : compare x.file y.file = compare a b := by
    show compare x.file.components y.file.components = compare a.components b.components
    rw [Path.beq_iff.mp hx, Path.beq_iff.mp hy]
  show ((compare x.file y.file).then _).isLE = true
  rw [hfiles]
  replace hab : (compare a b).isLE = true := hab
  cases hcompare : compare a b with
  | lt => rfl
  | eq =>
    rw [Path.compare_eq_iff.mp hcompare] at hdiffer
    cases hdiffer
  | gt =>
    rw [hcompare] at hab
    cases hab

/-- The outcomes on files that differ stand file after file. -/
theorem Report.outcomes_ofOutcomes_files {files : List Path} (hfiles : DifferentFiles files)
    {report : Path → Report} (hreport : ∀ file, (report file).IsOn file) :
    (Report.ofOutcomes (files.flatMap fun file => (report file).outcomes)).outcomes =
      (sortOn id files).flatMap fun file => (report file).outcomes := by
  have hperm := perm_sortOn id files
  have hmoved : combineAll (files.map report) = combineAll ((sortOn id files).map report) :=
    combineAll_perm (hperm.symm.map report) (hfiles.pairwise_apart hreport)
  have hascends : ((sortOn id files).flatMap fun file => (report file).outcomes).Pairwise
      fun a b => notBehind Outcome.assertion a b = true := by
    refine List.pairwise_flatMap.mpr ⟨fun file _ => (report file).ascends, ?_⟩
    refine ((pairwise_sortOn id files).and (hfiles.perm hperm.symm)).imp ?_
    rintro a b ⟨hab, hdiffer⟩ x hx y hy
    exact Assertion.notBehind_of_files (hreport a x hx) (hreport b y hy) hdiffer hab
  rw [combineAll, combineAll, List.flatMap_map, List.flatMap_map] at hmoved
  rw [hmoved]
  exact sortOn_of_pairwise _ hascends

namespace FileTree

variable {vocabulary : Vocabulary} {root : Path} {tree : FileTree} {files : List Path}
  {groups : List Group}

/-- A check that succeeds has used what the files declare. -/
theorem exists_declares_of_checkRecorded (hfiles : DifferentFiles files)
    (hgroups : (groups.flatMap Group.files).Perm files) {diagnostics : List Diagnostic}
    {report : Report}
    (hrun : tree.checkRecorded vocabulary root diagnostics groups = (.ok report, tree)) :
    ∃ annotations : Path → Annotations,
      (∀ file ∈ files, tree.Declares vocabulary root file (annotations file)) ∧
        report.outcomes = (sortOn id files).flatMap fun file =>
          (matchFile file (annotations file).expectations diagnostics).outcomes := by
  have hsound : ∀ file ∈ files, ¬tree.Faulty vocabulary root file := by
    intro file hfile hfaulty
    obtain ⟨failure, hfailure⟩ :=
      checkRecorded_of_faulty (hgroups.mem_iff.mpr hfile) hfaulty diagnostics
    rw [hrun] at hfailure
    cases hfailure
  obtain ⟨annotations, hdeclares⟩ := exists_declares hsound
  refine ⟨annotations, hdeclares, ?_⟩
  rw [checkRecorded_of_declares hfiles hgroups hdeclares] at hrun
  rw [← Except.ok.inj (Prod.mk.inj hrun).1]
  exact Report.outcomes_ofOutcomes_files hfiles fun file => isOn_matchFile file _ _

end FileTree

end FindingCheck
