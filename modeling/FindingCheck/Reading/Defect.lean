import FindingCheck.Path
import FindingCheck.Text.Quoted

/-!
# Defects of directives

A directive that cannot be understood, or that stands where it must not stand, is a defect of its
file. Reading goes on past a defect, so that one pass finds them all.

## Main definitions

* `Problem` — what can be wrong with a directive
* `Defect`, `Defect.message` — a problem with its place
* `Defect.listing` — the text of several defects
-/

namespace FindingCheck

/-- What can be wrong with a directive. -/
inductive Problem where
  /-- No grammar reads the directive. -/
  | unrecognized
  /-- A test is named after an expectation of its run. -/
  | nameAfterExpectation
  /-- A run is named a second time. -/
  | nameAlreadySet
  /-- The name is empty, reads as an integer or holds a colon. -/
  | invalidName
  /-- A named run holds no expectation. -/
  | noExpectations
  /-- Several runs bear one name; the lines are those that the runs decorate. -/
  | nameNotUnique (name : String) (lines : List UInt32)
deriving DecidableEq, Repr

namespace Problem

/-- The problem in words. -/
def message : Problem → String
  | unrecognized => "unrecognized expectation"
  | nameAfterExpectation => "test name must come before assertions for a line"
  | nameAlreadySet => "test name already set"
  | invalidName => "test name cannot be an integer or contain a colon"
  | noExpectations => "no expected facts"
  | nameNotUnique name lines =>
    "test name not unique: test '" ++ name ++ "' appears on tests of lines " ++
      bracketed (lines.map toString)

end Problem

/-- A problem with its place. -/
structure Defect where
  /-- The file that holds the directive. -/
  file : Path
  /-- The line of the directive. -/
  line : UInt32
  /-- The text of the directive. -/
  text : String
  /-- What is wrong with it. -/
  problem : Problem
deriving BEq, Repr

namespace Defect

/-- The defect in words, place first and text last. -/
def message (defect : Defect) : String :=
  defect.file.text ++ ":" ++ toString defect.line ++ ": " ++ defect.problem.message ++
    " (in \x60" ++ defect.text ++ "\x60)"

/-- The text of several defects: their number and then one line for each. -/
def listing (defects : List Defect) : String :=
  toString defects.length ++ " malformed expectation(s):" ++
    String.join (defects.map fun defect => "\n  " ++ defect.message)

end Defect

end FindingCheck
