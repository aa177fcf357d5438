import FindingCheck.Comparison
import FindingCheck.Proofs.Report.LineKinds
import FindingCheck.Proofs.Report.Occurrences

/-!
# Texts whose lines are put in another order

The lines of a stored report may be put in another order, and lines that say nothing may come and
go. What is read stays the same, as long as lines on equal assertions keep their order among each
other: only by that order are the outcomes of such assertions told apart.

## Main definitions

* `Report.StatesOn` — the lines on an assertion
* `Report.Rearranges` — a text that holds the lines of another in such an order

## Main statements

* `Report.tie_filterMap_statedOutcome?` — the outcomes of an assertion are those of its lines
* `Report.parse_of_rearranges` — a text that is rearranged is read as the same report
-/

namespace FindingCheck

namespace Report

variable {vocabulary : Vocabulary} {text other : String} {report : Report}

/-- The line states an outcome of the assertion. -/
def StatesOn (vocabulary : Vocabulary) (assertion : Assertion) (line : String) : Prop :=
  ∃ outcome, States vocabulary line outcome ∧ (outcome.assertion == assertion) = true

theorem statesOn_iff {assertion : Assertion} {line : String} :
    StatesOn vocabulary assertion line ↔
      (statedOutcome? vocabulary line).any (·.assertion == assertion) = true := by
  simp only [StatesOn, states_iff, Option.any_eq_true]

instance (assertion : Assertion) : DecidablePred (StatesOn vocabulary assertion) :=
  fun _ => decidable_of_iff _ statesOn_iff.symm

/-- The lines of a text that say something. -/
def saying (text : String) : List String :=
  (lines text).filter fun line => ¬SaysNothing line

theorem saying_eq_statements (text : String) : saying text = statements text :=
  List.filter_congr fun line _ => by simp [← isSkipped_iff]

/-- The other text holds the lines of the text that say something, in an order in which lines on
equal assertions keep theirs. Lines that say nothing may stand anywhere in either. -/
structure Rearranges (vocabulary : Vocabulary) (text other : String) : Prop where
  perm : (saying other).Perm (saying text)
  keeps : ∀ assertion, (saying other).filter (StatesOn vocabulary assertion) =
    (saying text).filter (StatesOn vocabulary assertion)

/-- Lines that share no assertion may change places. -/
theorem Rearranges.of_swap {front back : List String} (htext : saying text = front ++ back)
    (hother : saying other = back ++ front)
    (hapart : ∀ line ∈ front, ∀ assertion, StatesOn vocabulary assertion line →
      ∀ later ∈ back, ¬StatesOn vocabulary assertion later) :
    Rearranges vocabulary text other where
  perm := by
    rw [htext, hother]
    exact List.perm_append_comm
  keeps assertion := by
    rw [htext, hother, List.filter_append, List.filter_append]
    -- only one of the two holds lines on the assertion
    by_cases hfront : front.filter (StatesOn vocabulary assertion) = []
    · rw [hfront, List.append_nil, List.nil_append]
    · obtain ⟨line, hline⟩ := List.exists_mem_of_ne_nil _ hfront
      obtain ⟨hmem, hstates⟩ := List.mem_filter.mp hline
      have hback : back.filter (StatesOn vocabulary assertion) = [] :=
        List.filter_eq_nil_iff.mpr fun later hlater => by
          simpa using hapart line hmem assertion (of_decide_eq_true hstates) later hlater
      rw [hback, List.append_nil, List.nil_append]

/-- A text is read exactly if each of its lines that say something states an outcome. -/
theorem parse_eq_ok_iff_saying :
    parse vocabulary text = .ok report ↔
      (∀ line ∈ saying text, statedOutcome? vocabulary line ≠ none) ∧
        report = ofOutcomes ((saying text).filterMap (statedOutcome? vocabulary)) := by
  rw [saying_eq_statements]
  exact parse_eq_ok_iff_filterMap

/-- The outcomes of an assertion are those that its lines state. -/
theorem tie_filterMap_statedOutcome? (written : List String) (assertion : Assertion) :
    tie Outcome.assertion assertion (written.filterMap (statedOutcome? vocabulary)) =
      (written.filter (StatesOn vocabulary assertion)).filterMap (statedOutcome? vocabulary) := by
  rw [← filter_assertion_eq_tie, List.filter_filterMap, List.filterMap_filter]
  refine List.filterMap_congr fun line _ => ?_
  simp only [statesOn_iff]
  cases statedOutcome? vocabulary line with
  | none => rfl
  | some outcome =>
    cases hequal : outcome.assertion == assertion <;> simp [hequal]

/-- A text that is rearranged is read as the same report: a report is stored by what its lines
state, and not by where they stand. So whatever is compared with it compares the same. -/
theorem parse_of_rearranges (h : Rearranges vocabulary text other)
    (hparse : parse vocabulary text = .ok report) :
    parse vocabulary other = .ok report ∧
      ∀ current, (parse vocabulary other).map (Comparison.ofReports current) =
        (parse vocabulary text).map (Comparison.ofReports current) := by
  obtain ⟨hstates, hreport⟩ := parse_eq_ok_iff_saying.mp hparse
  have hother : parse vocabulary other = .ok report := by
    refine parse_eq_ok_iff_saying.mpr ⟨?_, ?_⟩
    · exact fun line hline => hstates line (h.perm.mem_iff.mp hline)
    · -- the two lists of outcomes have the same ties, so they sort to the same list
      rw [hreport]
      refine eq_of_outcomes_eq (sortOn_eq_sortOn_iff.mpr fun assertion => ?_)
      rw [tie_filterMap_statedOutcome?, tie_filterMap_statedOutcome?, h.keeps]
  refine ⟨hother, fun current => ?_⟩
  rw [hother, hparse]

end Report

/-- A text in which an assertion stands twice, once with a zero in front of its line number. -/
def repeatedReport : String :=
  "# 2 pass; 1 fail\nPASS: A.java:3 jspecify_nullness_mismatch\n" ++
    "FAIL: A.java:03 jspecify_nullness_mismatch\nPASS: A.java: no unexpected facts\n"

/-- `repeatedReport` with its last line in front, and other lines that say nothing. -/
def rearrangedReport : String :=
  "PASS: A.java: no unexpected facts\n\nPASS: A.java:3 jspecify_nullness_mismatch\nINFO: note\n" ++
    "FAIL: A.java:03 jspecify_nullness_mismatch\n"

theorem parse_of_rearranges_repeatedReport :
    ∃ report, Report.parse .standard repeatedReport = .ok report ∧
      Report.parse .standard rearrangedReport = .ok report := by
  let front := ["PASS: A.java:3 jspecify_nullness_mismatch",
    "FAIL: A.java:03 jspecify_nullness_mismatch"]
  let back := ["PASS: A.java: no unexpected facts"]
  have htext : Report.saying repeatedReport = front ++ back := by decide +kernel
  have hother : Report.saying rearrangedReport = back ++ front := by decide +kernel
  -- the lines in front are on a line of the file, and the last one is on the whole of it
  have hfront : ∀ line ∈ front,
      (Report.statedOutcome? .standard line).any (!·.assertion.isWholeFile) = true := by
    decide +kernel
  have hback : ∀ line ∈ back,
      (Report.statedOutcome? .standard line).any (·.assertion.isWholeFile) = true := by
    decide +kernel
  have hstates : ∀ line ∈ Report.saying repeatedReport,
      Report.statedOutcome? .standard line ≠ none := by
    rw [htext]
    intro line hline hnone
    rcases List.mem_append.mp hline with hline | hline
    · simpa [hnone] using hfront line hline
    · simpa [hnone] using hback line hline
  have hrearranges : Report.Rearranges .standard repeatedReport rearrangedReport := by
    refine .of_swap htext hother ?_
    rintro line hline assertion ⟨outcome, hstates, hequal⟩ later hlater
      ⟨outcomeLater, hstatesLater, hequalLater⟩
    replace hfront := hfront line hline
    replace hback := hback later hlater
    rw [Report.states_iff.mp hstates, Option.any_some,
      Assertion.isWholeFile_eq_of_beq hequal] at hfront
    rw [Report.states_iff.mp hstatesLater, Option.any_some,
      Assertion.isWholeFile_eq_of_beq hequalLater] at hback
    simp [hback] at hfront
  have hparse := Report.parse_eq_ok_iff_saying.mpr ⟨hstates, rfl⟩
  exact ⟨_, hparse, (Report.parse_of_rearranges hrearranges hparse).1⟩

end FindingCheck
