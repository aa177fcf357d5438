import FindingCheck.Mode
import FindingCheck.Proofs.Checking.OneWay
import FindingCheck.Proofs.Report.FailuresByFile

/-!
# Failures are explained

Whoever asks for details is told of every file with a failure what went wrong there. A report that
was read somewhere may say that a file fails and not why. The report of a check says why: a file
fails over a finding that must be expected, and this finding is listed.

## Main definitions

* `Report.OfCheck` — the reports of checks
* `Outcome.IsExplained` — an outcome that has a line in the listing if it failed

## Main statements

* `Report.OfCheck.isExplained` — every outcome of a check is explained
* `Mode.apply_details` — the verdict on a report of which details are wanted
-/

namespace FindingCheck

/-- The report is that of a check, by any analyzer and in any tree. -/
def Report.OfCheck (report : Report) : Prop :=
  ∃ (α : Type) (_ : Finding α) (vocabulary : Vocabulary) (analyzer : Analyzer α) (root : Path)
    (groups : List Group) (tree : FileTree),
    (checkGroups vocabulary analyzer root groups :
      ExceptT Failure (StateM FileTree) Report).run.run tree = (.ok report, tree)

theorem Report.OfDifferentFiles.ofCheck {report : Report} (h : report.OfDifferentFiles) :
    report.OfCheck := by
  obtain ⟨α, _, vocabulary, analyzer, root, groups, tree, -, hrun⟩ := h
  exact ⟨α, _, vocabulary, analyzer, root, groups, tree, hrun⟩

/-- If the outcome failed, the listing has a line on it. -/
def Outcome.IsExplained (outcome : Outcome) : Prop :=
  outcome.passed = false → Report.failureLines outcome ≠ []

theorem Outcome.isExplained_ofExpectation (expectation : Expectation) (passed : Bool) :
    (ofExpectation expectation passed).IsExplained := by
  intro _
  simp [Report.failureLines, ofExpectation]

/-- A file fails over a leftover that must be expected. -/
theorem Outcome.isExplained_ofLeftovers (file : Path) (leftovers : List Leftover) :
    (ofLeftovers file leftovers).IsExplained := by
  intro hfailed hnil
  have hsome : leftovers.any (·.mustBeExpected) = true := by
    simpa [ofLeftovers] using hfailed
  obtain ⟨leftover, hleftover, hmust⟩ := List.any_eq_true.mp hsome
  have hnone : leftovers.filter (·.mustBeExpected) = [] := List.map_eq_nil_iff.mp hnil
  exact List.filter_eq_nil_iff.mp hnone leftover hleftover hmust

theorem isExplained_of_mem_matchFile {α : Type} [Finding α] {file : Path}
    {expectations : List Expectation} {findings : List α} {outcome : Outcome}
    (h : outcome ∈ (matchFile file expectations findings).outcomes) : outcome.IsExplained := by
  have hmem : outcome ∈ (Matching.ofFile file expectations findings).outcomes file :=
    (perm_sortOn _ _).mem_iff.mp h
  rcases List.mem_append.mp hmem with hclaim | hwhole
  · obtain ⟨claim, -, rfl⟩ := List.mem_map.mp hclaim
    exact Outcome.isExplained_ofExpectation _ _
  · rw [List.mem_singleton.mp hwhole]
    exact Outcome.isExplained_ofLeftovers _ _

namespace Report

/-- Every outcome of a check is explained. -/
theorem OfCheck.isExplained {report : Report} (h : report.OfCheck) :
    ∀ outcome ∈ report.outcomes, outcome.IsExplained := by
  obtain ⟨α, _, vocabulary, analyzer, root, groups, tree, hrun⟩ := h
  rw [run_checkGroups] at hrun
  intro outcome houtcome
  obtain ⟨_, -, _, -, _, _, hmem⟩ :=
    exists_matchFile_of_mem_checkCorpus (Prod.mk.inj hrun).1 houtcome
  exact isExplained_of_mem_matchFile hmem

/-- Where every outcome is explained, no file is named and nothing said of it. -/
theorem lines_ne_nil_of_isExplained {report : Report}
    (h : ∀ outcome ∈ report.outcomes, outcome.IsExplained) {file : Path}
    (hfile : file ∈ report.failedFiles) :
    report.missingLines file ++ report.unexpectedLines file ≠ [] := by
  obtain ⟨outcome, hmem, hfailed, hon⟩ :=
    report.exists_mem_failedFiles_iff.mp ⟨file, hfile, BEq.rfl⟩
  have houtcome : outcome ∈ report.failuresOn file :=
    List.mem_filter.mpr ⟨List.mem_filter.mpr ⟨hmem, by simpa using hfailed⟩, hon⟩
  rw [← flatMap_failureLines]
  intro hnil
  exact h outcome hmem hfailed (List.flatMap_eq_nil_iff.mp hnil outcome houtcome)

end Report

/-- Where details are wanted, the verdict is to pass exactly if every assertion holds. Otherwise
its message goes through the files with a failure: each is named once, in ascending order, and
behind its name stand the expectations that are not met and the leftovers that must be expected.
For the report of a check, something stands behind every name. -/
theorem Mode.apply_details {m : Type → Type} [Monad m] [MonadFiles m] (vocabulary : Vocabulary)
    (report : Report) (path : Path) :
    ∃ verdict : Verdict,
      (Mode.details.apply vocabulary report path : ExceptT Failure m Verdict) = pure verdict ∧
      (verdict.passed = true ↔ ∀ outcome ∈ report.outcomes, outcome.passed = true) ∧
      (verdict.passed = false → verdict.message =
        String.join ((report.failedFiles.flatMap report.failureBlock).map lineOf)) ∧
      report.failedFiles.Pairwise (fun a b => Ord.compare a b = .lt) ∧
      (∀ file, (∃ named ∈ report.failedFiles, (named == file) = true) ↔
        ∃ outcome ∈ report.outcomes, outcome.passed = false ∧
          (outcome.assertion.file == file) = true) ∧
      (∀ file ∈ report.failedFiles,
        (report.failuresOn file).head?.map (·.assertion.file) = some file) ∧
      (report.OfCheck → ∀ file ∈ report.failedFiles,
        report.missingLines file ++ report.unexpectedLines file ≠ []) := by
  refine ⟨.ofDetails report, rfl, ?_, ?_, report.pairwise_failedFiles,
    fun _ => report.exists_mem_failedFiles_iff, fun _ => report.head?_failuresOn,
    fun hcheck _ => Report.lines_ne_nil_of_isExplained hcheck.isExplained⟩
  · rw [← List.all_eq_true, Verdict.ofDetails]
    show _ ↔ report.allPassed = true
    cases report.allPassed <;> simp
  · intro hfailed
    rw [Verdict.ofDetails] at hfailed ⊢
    split at hfailed
    · cases hfailed
    · next hsome =>
      rw [if_neg hsome]
      exact report.failures_eq

theorem apply_details_doubledTree :
    ∃ report : Report, report.OfCheck ∧ ∃ verdict : Verdict,
      (Mode.details.apply .standard report ⟨"report.txt"⟩ :
        ExceptT Failure (StateM FileTree) Verdict) = pure verdict ∧
      verdict.passed = false ∧
      verdict.message =
        String.join ((report.failedFiles.flatMap report.failureBlock).map lineOf) ∧
      ∃ file ∈ report.failedFiles, (file == ⟨"Twice.java"⟩) = true ∧
        report.missingLines file ++ report.unexpectedLines file ≠ [] := by
  -- the second of the two expectations finds nothing
  obtain ⟨report, hreport, hpassed⟩ :=
    exists_ofDifferentFiles_doubledTree [doubledMismatch] [true, false] (by decide +kernel)
  obtain ⟨outcome, houtcome, hfailed⟩ : ∃ outcome ∈
      report.outcomes.filter (·.assertion == .expected doubledExpectation),
      outcome.passed = false := by
    refine List.mem_map.mp ?_
    show false ∈ report.passesOf _
    rw [hpassed]
    decide
  obtain ⟨hmem, hequal⟩ := List.mem_filter.mp houtcome
  obtain ⟨verdict, hrun, hpasses, hmessage, -, hfiles, -, hlines⟩ :=
    Mode.apply_details (m := StateM FileTree) .standard report ⟨"report.txt"⟩
  have hverdict : verdict.passed = false := by
    rw [Bool.eq_false_iff]
    intro hpass
    cases hfailed.symm.trans (hpasses.mp hpass outcome hmem)
  obtain ⟨file, hfile, hnamed⟩ := (hfiles ⟨"Twice.java"⟩).mpr
    ⟨outcome, hmem, hfailed, Assertion.file_beq_of_beq hequal⟩
  exact ⟨report, hreport.ofCheck, verdict, hrun, hverdict, hmessage hverdict, file, hfile, hnamed,
    hlines hreport.ofCheck file hfile⟩

end FindingCheck
