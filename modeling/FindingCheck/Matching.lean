import FindingCheck.Event
import FindingCheck.Report

/-!
# Matching expectations with findings

The expectations of a file are taken in order, and each takes the first finding that is left on its
line and satisfies it. Nothing is taken twice, so the earlier of two expectations wins.

## Main definitions

* `Expectation.accepts` — a finding on the line that satisfies the fact
* `Matching`, `Matching.settle` — which expectation took which finding
* `Matching.ofFile`, `matchFile` — the matching of one file, and its report
-/

namespace FindingCheck

variable {α : Type} [Finding α]

/-- Whether an expectation can take a finding: it is on the line and satisfies the fact. -/
def Expectation.accepts (expectation : Expectation) (finding : α) : Bool :=
  Finding.line finding == expectation.line && Finding.satisfies finding expectation.fact

/-- Which expectation took which finding. -/
structure Matching (α : Type) where
  /-- The expectations in order, each with the finding that it took. -/
  claims : List (Expectation × Option α)
  /-- The findings that nothing took, in the order in which they were reported. -/
  unclaimed : List α

namespace Matching

/-- Lets the expectations take findings, one after the other and the first that will do. -/
def settle : List Expectation → List α → Matching α
  | [], findings => ⟨[], findings⟩
  | expectation :: more, findings =>
    let later := settle more (findings.eraseP expectation.accepts)
    ⟨(expectation, findings.find? expectation.accepts) :: later.claims, later.unclaimed⟩

/-- The matching of a file. What belongs to another file has no part in it. -/
def ofFile (file : Path) (expectations : List Expectation) (findings : List α) : Matching α :=
  settle (expectations.filter (·.file == file)) (findings.filter (Finding.file · == file))

/-- What is left over, line by line. -/
def leftovers (matching : Matching α) : List Leftover :=
  (sortOn Finding.line matching.unclaimed).map Leftover.ofFinding

/-- The outcomes for a file: one for each expectation, and one for the whole. -/
def outcomes (matching : Matching α) (file : Path) : List Outcome :=
  matching.claims.map (fun claim => .ofExpectation claim.1 claim.2.isSome) ++
    [.ofLeftovers file matching.leftovers]

/-- The report on a file. -/
def report (matching : Matching α) (file : Path) : Report :=
  .ofOutcomes (matching.outcomes file)

/-- What a matching stands for: an event for each expectation that took nothing, and one for the
whole. -/
def events (matching : Matching α) (file : Path) : List Event :=
  ((matching.claims.filter (·.2.isNone)).map fun claim =>
    ⟨.debug, "expectation not satisfied",
      [("file", file.text), ("line", toString claim.1.line), ("kind", claim.1.fact.name)]⟩) ++
  [⟨.debug, "matched file",
    [("file", file.text), ("expected", toString matching.claims.length),
      ("unmatched", toString matching.unclaimed.length)]⟩]

end Matching

/-- The report on what was expected and found in a file. -/
def matchFile (file : Path) (expectations : List Expectation) (findings : List α) : Report :=
  (Matching.ofFile file expectations findings).report file

end FindingCheck
