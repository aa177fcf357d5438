import FindingCheck.Report
import FindingCheck.Text.Tenths

/-!
# The text of a report

A report is written as a heading with its counts and then one line for each outcome. On request the
leftovers of a file stand behind the line of the whole file.

## Main definitions

* `Report.heading`, `Outcome.render`, `Leftover.render` — the kinds of lines
* `Report.render` — the text
* `Report.failures` — what went wrong, file by file
-/

namespace FindingCheck

/-- A line with its end. -/
def lineOf (text : String) : String :=
  text ++ "\n"

/-- A leftover as a line of details: `OOPS` fails the file, `INFO` does not. -/
def Leftover.render (leftover : Leftover) (file : Path) : String :=
  (if leftover.mustBeExpected then "OOPS: " else "INFO: ") ++
    Assertion.placed file leftover.line leftover.text

/-- An outcome as a line of the report. -/
def Outcome.render (outcome : Outcome) : String :=
  outcome.status ++ ": " ++ outcome.assertion.render

/-- The lines of an outcome, with its leftovers if details are wanted. -/
def Outcome.renderLines (outcome : Outcome) (details : Bool) : List String :=
  outcome.render ::
    if details then outcome.leftovers.map (·.render outcome.assertion.file) else []

namespace Report

/-- The first line. A report on nothing has the full score. -/
def heading (report : Report) : String :=
  "# " ++ toString report.passes ++ " pass; " ++ toString report.fails ++ " fail; " ++
    toString report.total ++ " total; " ++ tenthsText (report.score?.getD 100.0) ++ "% score"

/-- The text of a report, with or without the leftovers. -/
def render (report : Report) (details : Bool) : String :=
  String.join ((report.heading :: report.outcomes.flatMap (·.renderLines details)).map lineOf)

/-- The lines on an outcome that failed, below the line that names its file. -/
def failureLines (outcome : Outcome) : List String :=
  match outcome.assertion with
  | .expected _ => ["  missing expected fact: " ++ outcome.assertion.render]
  | .noUnexpected file =>
    (outcome.leftovers.filter (·.mustBeExpected)).map fun leftover =>
      "  unexpected fact: " ++ Assertion.placed file leftover.line leftover.text

/-- The lines on outcomes that failed. A file is named where it differs from the file before. -/
def failureListing : Option Path → List Outcome → List String
  | _, [] => []
  | previous, outcome :: more =>
    let file := outcome.assertion.file
    let named := if previous.any (· == file) then [] else [file.display ++ ":"]
    named ++ failureLines outcome ++ failureListing (some file) more

/-- What went wrong, file by file. -/
def failures (report : Report) : String :=
  String.join ((failureListing none (report.outcomes.filter (!·.passed))).map lineOf)

end Report

end FindingCheck
