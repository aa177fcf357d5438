import FindingCheck.Proofs.Checking.Partition
import FindingCheck.Proofs.Comparison.Occurrences
import FindingCheck.Proofs.Matching.EqualExpectations

/-!
# Assertions change in one way

Of equal assertions in the report of a check, those that pass come first. Between two such reports
the number of those that pass can only grow or shrink, so no assertion is broken and fixed at the
same time.

## Main definitions

* `Report.OfDifferentFiles` — the reports of checks

## Main statements

* `passesFirst_checkCorpus` — of equal assertions in the report of a check, those that pass come
  first
* `passesFirst_oneWay` — so it is in the report on a file, and a comparison of checks lists no
  assertion both as newly failing and as newly fixed or new and passing
-/

namespace FindingCheck

/-- The report is that of a check of different files, by any analyzer and in any tree. -/
def Report.OfDifferentFiles (report : Report) : Prop :=
  ∃ (α : Type) (_ : Finding α) (vocabulary : Vocabulary) (analyzer : Analyzer α) (root : Path)
    (groups : List Group) (tree : FileTree),
    DifferentFiles (groups.flatMap Group.files) ∧
      (checkGroups vocabulary analyzer root groups :
        ExceptT Failure (StateM FileTree) Report).run.run tree = (.ok report, tree)

section

variable {α : Type} [Finding α] {vocabulary : Vocabulary} {analyzer : Analyzer α} {root : Path}

/-- The sources that were read stand under their files. -/
theorem map_fst_of_readSource {sources : List Source} {annotated : List (Path × Annotations)}
    (h : sources.map (fun source => (readSource vocabulary source).result) = annotated.map .ok) :
    annotated.map Prod.fst = sources.map (·.path) := by
  induction sources generalizing annotated with
  | nil =>
    rw [List.map_eq_nil_iff.mp h.symm]
    rfl
  | cons source sources ih =>
    cases annotated with
    | nil => cases h
    | cons file annotated =>
      obtain ⟨hread, hrest⟩ := List.cons.inj h
      rw [List.map_cons, List.map_cons, path_of_readSource hread, ih hrest]

theorem passesFirst_checkGroup {sources : List Source}
    (hfiles : DifferentFiles (sources.map (·.path))) {report : Report}
    (h : (checkGroup vocabulary analyzer root sources).result = .ok report)
    (assertion : Assertion) : PassesFirst (report.passesOf assertion) := by
  rw [checkGroup_result, bind_eq_ok_iff] at h
  obtain ⟨annotated, hannotated, h⟩ := h
  obtain ⟨findings, -, h⟩ := bind_eq_ok_iff.mp h
  obtain rfl := Except.ok.inj h
  have hpaths := map_fst_of_readSource (mapM_eq_ok_iff.mp hannotated)
  have hapart : (annotated.map fun file =>
      matchFile file.1 file.2.expectations findings).Pairwise Report.Apart := by
    rw [← hpaths, DifferentFiles, List.pairwise_map] at hfiles
    refine List.pairwise_map.mpr (hfiles.imp fun hdiffer => ?_)
    exact (isOn_matchFile _ _ _).apart (isOn_matchFile _ _ _) hdiffer
  refine Report.passesFirst_combineAll hapart fun matched hmatched => ?_
  obtain ⟨file, -, rfl⟩ := List.mem_map.mp hmatched
  exact passesFirst_matchFile file.1 file.2.expectations findings assertion

/-- Of equal assertions in the report of a check, those that pass come first. -/
theorem passesFirst_checkCorpus {groups : List (List Source)}
    (hfiles : DifferentFiles (groups.flatten.map (·.path))) {report : Report}
    (h : checkCorpus vocabulary analyzer root groups = .ok report) (assertion : Assertion) :
    PassesFirst (report.passesOf assertion) := by
  obtain ⟨reports, hreports, rfl⟩ := checkCorpus_eq_ok_iff.mp h
  rw [DifferentFiles, List.pairwise_map, List.pairwise_flatten] at hfiles
  obtain ⟨hinside, hbetween⟩ := hfiles
  refine Report.passesFirst_combineAll (pairwise_apart hreports hbetween) fun part hpart => ?_
  obtain ⟨group, hgroup, hresult⟩ := exists_of_mem_results hreports hpart
  exact passesFirst_checkGroup (List.pairwise_map.mpr (hinside group hgroup)) hresult assertion

end

theorem Report.OfDifferentFiles.passesFirst {report : Report} (h : report.OfDifferentFiles)
    (assertion : Assertion) : PassesFirst (report.passesOf assertion) := by
  obtain ⟨α, _, vocabulary, analyzer, root, groups, tree, hfiles, hrun⟩ := h
  rw [run_checkGroups] at hrun
  refine passesFirst_checkCorpus ?_ (Prod.mk.inj hrun).1 assertion
  have hpaths : ((groups.map fun group => group.files.map (tree.source root)).flatten).map
      (·.path) = groups.flatMap Group.files := by
    simp [List.map_flatten, List.flatMap_def, Function.comp_def, FileTree.source]
  rw [hpaths]
  exact hfiles

/-- Of equal expectations for a file, those that pass come first in the report. So between the
reports of two checks of different files no assertion is newly failing and at the same time newly
fixed, or newly failing and at the same time new and passing. -/
theorem passesFirst_oneWay :
    (∀ {α : Type} [Finding α] (file : Path) (expectations : List Expectation) (findings : List α)
      (expectation : Expectation),
      PassesFirst ((matchFile file expectations findings).passesOf (.expected expectation))) ∧
    ∀ current baseline : Report, current.OfDifferentFiles → baseline.OfDifferentFiles →
      ∀ broken ∈ (Comparison.ofReports current baseline).newlyFailing,
        (∀ fixed ∈ (Comparison.ofReports current baseline).newlyFixed,
          (broken == fixed) = false) ∧
        ∀ new ∈ (Comparison.ofReports current baseline).newPassing, (broken == new) = false := by
  refine ⟨fun file expectations findings expectation =>
    passesFirst_matchFile file expectations findings (.expected expectation), ?_⟩
  intro current baseline hcurrent hbaseline broken hbroken
  -- seen from the broken assertion, one of its occurrences is newly failing
  obtain ⟨i, hi⟩ := Comparison.exists_mem_changes_iff.mp
    ⟨broken, hbroken, (BEq.rfl : (broken == broken) = true)⟩
  have honeWay (j : Nat) :=
    @PassesFirst.oneWay _ _ (hcurrent.passesFirst broken) (hbaseline.passesFirst broken) i j hi
  constructor
  · intro fixed hfixed
    refine Bool.eq_false_iff.mpr fun hequal => ?_
    obtain ⟨j, hj⟩ := Comparison.exists_mem_changes_iff.mp ⟨fixed, hfixed, BEq.symm hequal⟩
    exact (honeWay j).1 hj
  · intro new hnew
    refine Bool.eq_false_iff.mpr fun hequal => ?_
    obtain ⟨j, hj⟩ := Comparison.exists_mem_changes_iff.mp ⟨new, hnew, BEq.symm hequal⟩
    exact (honeWay j).2 hj

/-! ### A directive that is written twice -/

def doubledText : String :=
  "// jspecify_nullness_mismatch\n// jspecify_nullness_mismatch\nuse(x);\n"

/-- A tree with a file that expects the same mismatch twice. -/
def doubledTree : FileTree :=
  FileTree.put default [] "Twice.java" (.file doubledText.toUTF8)

def doubledGroups : List Group :=
  [⟨[⟨"Twice.java"⟩], by decide⟩]

/-- What the file expects twice. -/
def doubledExpectation : Expectation where
  file := ⟨"Twice.java"⟩
  line := 3
  text := "jspecify_nullness_mismatch"
  fact := .nullnessMismatch

def doubledMismatch : Diagnostic where
  file := ⟨"Twice.java"⟩
  line := 3
  key := "argument"
  severity := .error

theorem readText_doubledTree : doubledTree.readText ⟨"./Twice.java"⟩ = .ok doubledText := by
  have hspelling : isSpelling "./Twice.java" = true := by
    simp [isSpelling, String.contains_char_eq]
  have hproblem : spellingProblem? "./Twice.java" = none := by
    decide +kernel
  have hnames : pathNames ⟨"./Twice.java"⟩ = [".", "Twice.java"] := by
    decide +kernel
  refine FileTree.readText_of_readBytes ?_
  rw [FileTree.readBytes, FileTree.resolve, hspelling, hproblem, hnames]
  rfl

/-- A check of the file, and how its expectation comes out in it. -/
theorem exists_ofDifferentFiles_doubledTree (diagnostics : List Diagnostic) (passed : List Bool)
    (hpassed : (readAnnotations .standard ⟨"Twice.java"⟩ doubledText).toOption.map
      (fun annotations =>
        ((Matching.ofFile ⟨"Twice.java"⟩ annotations.expectations diagnostics).claims.filter
          (·.1 == doubledExpectation)).map (·.2.isSome)) = some passed) :
    ∃ report : Report, report.OfDifferentFiles ∧
      report.passesOf (.expected doubledExpectation) = passed := by
  obtain ⟨annotations, hannotations, rfl⟩ := Option.map_eq_some_iff.mp hpassed
  have hread : readAnnotations .standard ⟨"Twice.java"⟩ doubledText = .ok annotations :=
    toOption_eq_some_iff.mp hannotations
  have hdeclares : ∀ file ∈ [(⟨"Twice.java"⟩ : Path)],
      doubledTree.Declares .standard ⟨"."⟩ file annotations := by
    intro file hfile
    rw [List.mem_singleton.mp hfile]
    exact ⟨doubledText, readText_doubledTree, hread⟩
  have hdifferent : DifferentFiles (doubledGroups.flatMap Group.files) :=
    List.pairwise_singleton _ _
  have hrun : doubledTree.checkRecorded .standard ⟨"."⟩ diagnostics doubledGroups = _ :=
    FileTree.checkRecorded_of_declares hdifferent (.refl _) hdeclares diagnostics
  refine ⟨_, ⟨Diagnostic, inferInstance, .standard, .replay diagnostics, ⟨"."⟩, doubledGroups,
    doubledTree, hdifferent, hrun⟩, ?_⟩
  show (Report.ofOutcomes ([(⟨"Twice.java"⟩ : Path)].flatMap _)).passesOf _ = _
  rw [← passesOf_matchFile_expected, List.flatMap_singleton, Report.ofOutcomes_outcomes]

theorem passesFirst_oneWay_doubledTree :
    ∃ current baseline : Report, current.OfDifferentFiles ∧ baseline.OfDifferentFiles ∧
      ∃ broken ∈ (Comparison.ofReports current baseline).newlyFailing,
        (broken == .expected doubledExpectation) = true ∧
        (∀ fixed ∈ (Comparison.ofReports current baseline).newlyFixed,
          (broken == fixed) = false) ∧
        ∀ new ∈ (Comparison.ofReports current baseline).newPassing, (broken == new) = false := by
  -- both expectations are met in the baseline, and only the first of them now
  obtain ⟨current, hcurrent, hnow⟩ :=
    exists_ofDifferentFiles_doubledTree [doubledMismatch] [true, false] (by decide +kernel)
  obtain ⟨baseline, hbaseline, hbefore⟩ :=
    exists_ofDifferentFiles_doubledTree [doubledMismatch, doubledMismatch] [true, true]
      (by decide +kernel)
  have hsecond : Change.ofOccurrence?
      (current.passesOf (.expected doubledExpectation))[1]?
      (baseline.passesOf (.expected doubledExpectation))[1]? = some .newlyFailing := by
    rw [hnow, hbefore]
    rfl
  obtain ⟨broken, hbroken, hequal⟩ := Comparison.exists_mem_changes_iff.mpr ⟨1, hsecond⟩
  exact ⟨current, baseline, hcurrent, hbaseline, broken, hbroken, hequal,
    passesFirst_oneWay.2 current baseline hcurrent hbaseline broken hbroken⟩

end FindingCheck
