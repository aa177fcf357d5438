import FindingCheck.Assertion
import FindingCheck.Finding
import FindingCheck.Sorting

/-!
# Reports

A report lists assertions with their outcomes. The list is always in the order of the assertions,
so a report does not depend on the order in which files were worked on.

## Main definitions

* `Leftover`, `Outcome` — what became of one assertion
* `Report`, `Report.ofOutcomes`, `Report.combine`, `Report.combineAll` — outcomes in order
* `Report.passes`, `Report.total`, `Report.score?` — the counts

## Design notes

That the outcomes ascend is part of the type. Outcomes of equal assertions keep the order in which
they came, and a comparison of reports depends on that.
-/

namespace FindingCheck

/-- A finding that no expectation asked for. -/
structure Leftover where
  /-- The line of the finding. -/
  line : UInt32
  /-- Whether it fails the file. -/
  mustBeExpected : Bool
  /-- The finding in words. -/
  text : String
deriving DecidableEq, Repr

namespace Leftover

/-- What is kept of a finding that is left over. -/
def ofFinding {α : Type} [Finding α] (finding : α) : Leftover :=
  ⟨Finding.line finding, Finding.mustBeExpected finding, Finding.text finding⟩

end Leftover

/-- What became of an assertion. -/
structure Outcome where
  /-- The assertion. -/
  assertion : Assertion
  /-- Whether it holds. -/
  passed : Bool
  /-- For a whole file, the findings that nobody asked for. -/
  leftovers : List Leftover := []
deriving BEq, Repr

namespace Outcome

/-- The outcome of an expectation. -/
def ofExpectation (expectation : Expectation) (passed : Bool) : Outcome :=
  { assertion := .expected expectation, passed }

/-- The outcome for a whole file, which passes if no leftover must be expected. -/
def ofLeftovers (file : Path) (leftovers : List Leftover) : Outcome :=
  { assertion := .noUnexpected file, passed := !leftovers.any (·.mustBeExpected), leftovers }

/-- The word for the outcome. -/
def status (outcome : Outcome) : String :=
  if outcome.passed then "PASS" else "FAIL"

end Outcome

/-- Outcomes in the order of their assertions. -/
structure Report where
  /-- The outcomes. -/
  outcomes : List Outcome
  /-- They ascend. -/
  ascends : outcomes.Pairwise fun a b => notBehind Outcome.assertion a b = true

namespace Report

instance : BEq Report where
  beq a b := a.outcomes == b.outcomes

/-- The report on no file. -/
def empty : Report :=
  ⟨[], .nil⟩

/-- The report of outcomes that come in any order. -/
def ofOutcomes (outcomes : List Outcome) : Report :=
  ⟨sortOn Outcome.assertion outcomes, pairwise_sortOn _ _⟩

theorem eq_of_outcomes_eq {a b : Report} (h : a.outcomes = b.outcomes) : a = b := by
  cases a
  cases b
  cases h
  rfl

/-- The outcomes of a report are in order already. -/
theorem ofOutcomes_outcomes (report : Report) : ofOutcomes report.outcomes = report :=
  eq_of_outcomes_eq (sortOn_of_pairwise _ report.ascends)

/-- The report on what either report is on. -/
def combine (a b : Report) : Report :=
  ofOutcomes (a.outcomes ++ b.outcomes)

/-- The report on what any of the reports is on: all outcomes in order, those of equal
assertions in the order of the reports. -/
def combineAll (reports : List Report) : Report :=
  ofOutcomes (reports.flatMap outcomes)

/-- The number of assertions that hold. -/
def passes (report : Report) : Nat :=
  report.outcomes.countP (·.passed)

/-- The number of assertions. -/
def total (report : Report) : Nat :=
  report.outcomes.length

/-- The number of assertions that do not hold. -/
def fails (report : Report) : Nat :=
  report.total - report.passes

/-- The number of files, each of which has one assertion on the whole. -/
def fileCount (report : Report) : Nat :=
  report.outcomes.countP (·.assertion.isWholeFile)

/-- The assertions that hold in per cent of all; nothing if there are none. -/
def score? (report : Report) : Option Float :=
  if report.total = 0 then none
  else some (100.0 * report.passes.toFloat / report.total.toFloat)

/-- Whether every assertion holds. -/
def allPassed (report : Report) : Bool :=
  report.outcomes.all (·.passed)

end Report

end FindingCheck
