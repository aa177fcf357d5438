import FindingCheck.Files.Tree.Access
import FindingCheck.Mode
import FindingCheck.Proofs.Comparison
import FindingCheck.Proofs.Report.RoundTrip

/-!
# Comparing with a stored report

A report is compared with a stored one twice: the texts are compared as they are, and if they
differ the stored one is read and compared assertion by assertion. The two agree, so a run never
fails over a report in which nothing changed, and never passes over a change.

## Main statements

* `Comparison.isEmpty_ofReports_iff_render_eq` — nothing changed exactly if the texts are equal
* `Mode.apply_compare` — the verdict on a report where another one is stored
-/

namespace FindingCheck

/-- Equal files in the two reports are spelled alike. -/
def Report.SpelledAlike (a b : Report) : Prop :=
  ∀ x ∈ a.outcomes, ∀ y ∈ b.outcomes,
    (x.assertion.file == y.assertion.file) = true → x.assertion.file = y.assertion.file

/-- Outcomes agree exactly if the same is stored of them, where equal files are spelled alike. -/
theorem Outcome.agrees_iff {a b : Outcome}
    (h : (a.assertion.file == b.assertion.file) = true → a.assertion.file = b.assertion.file) :
    a.Agrees b ↔ a.withoutLeftovers = b.withoutLeftovers := by
  constructor
  · rintro ⟨hassertion, hpassed⟩
    have hsame := Assertion.eq_of_beq hassertion (h (Assertion.file_beq_of_beq hassertion))
    rw [withoutLeftovers, withoutLeftovers, hsame, hpassed]
  · intro hstored
    obtain ⟨hassertion, hpassed, -⟩ := Outcome.mk.inj hstored
    refine ⟨?_, hpassed⟩
    rw [hassertion]
    exact Assertion.compare_eq_iff.mp Std.ReflOrd.compare_self

theorem forall₂_agrees_iff {now baseline : List Outcome}
    (h : ∀ x ∈ now, ∀ y ∈ baseline,
      (x.assertion.file == y.assertion.file) = true → x.assertion.file = y.assertion.file) :
    List.Forall₂ Outcome.Agrees now baseline ↔
      now.map Outcome.withoutLeftovers = baseline.map Outcome.withoutLeftovers := by
  induction now generalizing baseline with
  | nil => cases baseline <;> simp
  | cons outcome now ih =>
    cases baseline with
    | nil => simp
    | cons before baseline =>
      have hhead := Outcome.agrees_iff (h outcome (by simp) before (by simp))
      have htail := @ih baseline fun x hx y hy =>
        h x (List.mem_cons_of_mem _ hx) y (List.mem_cons_of_mem _ hy)
      rw [List.forall₂_cons, hhead, htail, List.map_cons, List.map_cons, List.cons.injEq]

namespace Comparison

theorem ofReports_withoutLeftovers (current baseline : Report) :
    ofReports current baseline.withoutLeftovers = ofReports current baseline := by
  have hchanges := @changes_map_right Outcome.withoutLeftovers (fun _ => rfl) (fun _ => rfl)
    current.outcomes baseline.outcomes
  exact congrArg ofChanges hchanges

/-- Where equal files are spelled alike, nothing changed exactly if the same is stored of both
reports. -/
theorem isEmpty_ofReports_iff_withoutLeftovers_eq {current baseline : Report}
    (h : current.SpelledAlike baseline) :
    (ofReports current baseline).isEmpty = true ↔
      current.withoutLeftovers = baseline.withoutLeftovers := by
  rw [isEmpty_ofReports_iff, forall₂_agrees_iff h]
  constructor
  · intro houtcomes
    exact Report.eq_of_outcomes_eq houtcomes
  · intro hstored
    exact congrArg Report.outcomes hstored

/-- Where equal files are spelled alike, nothing changed exactly if the texts are equal. -/
theorem isEmpty_ofReports_iff_render_eq {vocabulary : Vocabulary} {current stored : Report}
    (hcurrent : current.Storable vocabulary) (hstored : stored.Storable vocabulary)
    (hspelled : current.SpelledAlike stored) :
    (ofReports current stored).isEmpty = true ↔ stored.render false = current.render false := by
  rw [isEmpty_ofReports_iff_withoutLeftovers_eq hspelled]
  constructor
  · intro h
    rw [← current.render_withoutLeftovers, h, stored.render_withoutLeftovers]
  · intro h
    -- both are what is read in the one text
    have hread : Report.parse vocabulary (current.render false) = .ok current.withoutLeftovers :=
      hcurrent.parse_plain_eq
    rw [← h, hstored.parse_plain_eq] at hread
    exact (Except.ok.inj hread).symm

end Comparison

theorem Verdict.ofStored_render {vocabulary : Vocabulary} {current stored : Report}
    (hcurrent : current.Storable vocabulary) (hstored : stored.Storable vocabulary)
    (hspelled : current.SpelledAlike stored) (path : Path) :
    ofStored vocabulary current path (stored.render false) =
      .ok (if (Comparison.ofReports current stored).isEmpty then
          { passed := true, message := "Report matches " ++ path.text }
        else ofDifference path (.ofReports current stored)) := by
  have htext := Comparison.isEmpty_ofReports_iff_render_eq hcurrent hstored hspelled
  by_cases hempty : (Comparison.ofReports current stored).isEmpty = true
  · rw [ofStored, if_pos (htext.mp hempty), if_pos hempty]
  · rw [ofStored, if_neg (fun h => hempty (htext.mpr h)), if_neg hempty, hstored.parse_plain_eq]
    simp only [Comparison.ofReports_withoutLeftovers]

/-- A comparison only reads, and its verdict depends on the text that is stored. -/
theorem run_compareStored (vocabulary : Vocabulary) (report : Report) (path : Path)
    (tree : FileTree) :
    (compareStored vocabulary report path : ExceptT Failure (StateM FileTree) Verdict).run.run
        tree =
      ((Except.mapError (.unreadableReport path) (tree.readText path)).bind
        (Verdict.ofStored vocabulary report path), tree) := by
  show ((ExceptT.bindCont _ (Except.mapError _ (tree.readText path))) :
    StateM FileTree (Except Failure Verdict)) tree = _
  cases tree.readText path <;> rfl

/-- Where a storable report is stored, `compare` comes to a verdict on every other storable report
that spells equal files alike. The verdict is to pass exactly if no assertion changed, and
otherwise it says what changed. -/
theorem Mode.apply_compare {vocabulary : Vocabulary} {current stored : Report} {tree : FileTree}
    {path : Path} (hcurrent : current.Storable vocabulary) (hstored : stored.Storable vocabulary)
    (hspelled : current.SpelledAlike stored)
    (hfile : tree.readBytes path = .ok (stored.render false).toUTF8) :
    ∃ verdict : Verdict,
      (Mode.compare.apply vocabulary current path :
          ExceptT Failure (StateM FileTree) Verdict).run.run tree = (.ok verdict, tree) ∧
        (verdict.passed = true ↔ (Comparison.ofReports current stored).isEmpty = true) ∧
        (verdict.passed = false →
          verdict.comparison? = some (.ofReports current stored) ∧
            (Comparison.ofReports current stored).isEmpty = false) := by
  have hverdict := Verdict.ofStored_render hcurrent hstored hspelled path
  have hrun := run_compareStored vocabulary current path tree
  rw [FileTree.readText_of_readBytes hfile] at hrun
  refine ⟨_, hrun.trans (congrArg (·, tree) hverdict), ?_⟩
  cases hempty : (Comparison.ofReports current stored).isEmpty with
  | true => simp
  | false => simp [Verdict.ofDifference]

/-- `puzzlingReport` after the expectation that failed has been met. -/
def mendedReport : Report where
  outcomes := [.ofExpectation puzzlingExpectation true, .ofExpectation puzzlingExpectation true,
    .ofLeftovers puzzlingFile []]
  ascends := by decide

/-- A tree that holds the file of a report and nothing else. -/
def reportTree (report : Report) : FileTree :=
  FileTree.put default [] "report.txt" (.file (report.render false).toUTF8)

theorem readBytes_reportTree (report : Report) :
    (reportTree report).readBytes ⟨"report.txt"⟩ = .ok (report.render false).toUTF8 := by
  have hspelling : isSpelling "report.txt" = true := by
    simp [isSpelling, String.contains_char_eq]
  have hproblem : spellingProblem? "report.txt" = none := by decide +kernel
  have hnames : pathNames ⟨"report.txt"⟩ = ["report.txt"] := by decide +kernel
  rw [FileTree.readBytes, FileTree.resolve, hspelling, hproblem, hnames]
  rfl

theorem apply_compare_mendedReport :
    ∃ verdict : Verdict,
      (Mode.compare.apply .standard mendedReport ⟨"report.txt"⟩ :
          ExceptT Failure (StateM FileTree) Verdict).run.run (reportTree puzzlingReport) =
        (.ok verdict, reportTree puzzlingReport) ∧
      verdict.passed = false ∧
      verdict.comparison? = some (.ofReports mendedReport puzzlingReport) := by
  have hmended : mendedReport.Storable .standard :=
    storable_of_puzzling (by simp [mendedReport, Outcome.ofExpectation, Outcome.ofLeftovers])
  have hpuzzling : puzzlingReport.Storable .standard :=
    storable_of_puzzling (by simp [puzzlingReport, Outcome.ofExpectation, Outcome.ofLeftovers])
  have hspelled : mendedReport.SpelledAlike puzzlingReport := by
    unfold Report.SpelledAlike
    decide
  have hchanged : (Comparison.ofReports mendedReport puzzlingReport).isEmpty = false := by
    rw [Bool.eq_false_iff, Ne, Comparison.isEmpty_ofReports_iff]
    simp [mendedReport, puzzlingReport, Outcome.Agrees, Outcome.ofExpectation]
  obtain ⟨verdict, hrun, hpassed, hfailed⟩ :=
    Mode.apply_compare hmended hpuzzling hspelled (readBytes_reportTree puzzlingReport)
  have hverdict : verdict.passed = false := by
    rw [Bool.eq_false_iff, Ne, hpassed, hchanged]
    decide
  exact ⟨verdict, hrun, hverdict, (hfailed hverdict).1⟩

end FindingCheck
