import FindingCheck.Report.Render

/-!
# Comparing reports

Two reports are compared assertion by assertion, not line by line. Where a report holds equal
assertions several times, the first is compared with the first, the second with the second, and so
on.

## Main definitions

* `Change` — how the outcome of an assertion changed
* `changes` — the changes between the outcomes of two reports
* `Comparison`, `Comparison.ofReports` — the changed assertions, by their change
* `Comparison.render` — the changes in words

## Design notes

The outcomes of a report ascend, so two reports are gone through side by side, and the changes come
out in order as well.
-/

namespace FindingCheck

/-- How the outcome of an assertion changed from a baseline to now. -/
inductive Change where
  /-- It passed in the baseline and fails now. -/
  | newlyFailing
  /-- It failed in the baseline and passes now. -/
  | newlyFixed
  /-- It is not in the baseline, and fails now. -/
  | newFailing
  /-- It is not in the baseline, and passes now. -/
  | newPassing
  /-- It is in the baseline only. -/
  | deleted
deriving DecidableEq, Repr

namespace Change

/-- The change between the outcomes of an assertion before and now, if there is one. -/
def between? : Bool → Bool → Option Change
  | true, false => some newlyFailing
  | false, true => some newlyFixed
  | _, _ => none

/-- The change that an assertion is which was not there before. -/
def ofNew (passed : Bool) : Change :=
  if passed then newPassing else newFailing

end Change

/-- The changes from the outcomes of a baseline to outcomes now, where both ascend. An assertion
that comes before the first one of the other list is not in that list; equal assertions meet in
pairs. -/
def changes : List Outcome → List Outcome → List (Change × Assertion)
  | [], baseline => baseline.map fun before => (.deleted, before.assertion)
  | now, [] => now.map fun outcome => (.ofNew outcome.passed, outcome.assertion)
  | outcome :: now, before :: baseline =>
    match compare outcome.assertion before.assertion with
    | .lt => (.ofNew outcome.passed, outcome.assertion) :: changes now (before :: baseline)
    | .gt => (.deleted, before.assertion) :: changes (outcome :: now) baseline
    | .eq =>
      match Change.between? before.passed outcome.passed with
      | some change => (change, outcome.assertion) :: changes now baseline
      | none => changes now baseline
termination_by now baseline => now.length + baseline.length

/-- The assertions whose outcome changed from a baseline to now. -/
structure Comparison where
  /-- Passed in the baseline and fail now. -/
  newlyFailing : List Assertion := []
  /-- Failed in the baseline and pass now. -/
  newlyFixed : List Assertion := []
  /-- Not in the baseline, and fail now. -/
  newFailing : List Assertion := []
  /-- Not in the baseline, and pass now. -/
  newPassing : List Assertion := []
  /-- In the baseline only. -/
  deleted : List Assertion := []
deriving BEq, Repr

namespace Comparison

/-- The assertions of one kind of change. -/
def assertionsOf (change : Change) (found : List (Change × Assertion)) : List Assertion :=
  (found.filter (·.1 = change)).map Prod.snd

/-- The changes, put together by their kind. -/
def ofChanges (found : List (Change × Assertion)) : Comparison where
  newlyFailing := assertionsOf .newlyFailing found
  newlyFixed := assertionsOf .newlyFixed found
  newFailing := assertionsOf .newFailing found
  newPassing := assertionsOf .newPassing found
  deleted := assertionsOf .deleted found

/-- Compares a report with a baseline. -/
def ofReports (current baseline : Report) : Comparison :=
  ofChanges (changes current.outcomes baseline.outcomes)

/-- Whether nothing changed. -/
def isEmpty (comparison : Comparison) : Bool :=
  comparison.newlyFailing.isEmpty && comparison.newlyFixed.isEmpty &&
    comparison.newFailing.isEmpty && comparison.newPassing.isEmpty && comparison.deleted.isEmpty

/-- Whether something that passed fails now. -/
def hasRegressions (comparison : Comparison) : Bool :=
  !comparison.newlyFailing.isEmpty

/-- Assertions under a label, one a line. -/
def labelled (label : String) (assertions : List Assertion) : String :=
  String.join (assertions.map fun assertion => lineOf (label ++ ": " ++ assertion.render))

/-- The changes in words, one a line. -/
def render (comparison : Comparison) : String :=
  labelled "newly failing" comparison.newlyFailing ++
    labelled "newly fixed" comparison.newlyFixed ++
    labelled "new failing" comparison.newFailing ++
    labelled "new passing" comparison.newPassing ++
    labelled "deleted" comparison.deleted

end Comparison

end FindingCheck
