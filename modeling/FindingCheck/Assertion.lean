import FindingCheck.Expectation

/-!
# Assertions

An assertion is what a run of the program checks: that an expectation is met or, for a file as a
whole, that nothing was found which nobody expected.

## Main definitions

* `Assertion` — the two kinds
* `Assertion.render` — an assertion as reports print it

## Design notes

The order puts the files one after the other, and the assertion on the whole file behind the
expectations of the file.
-/

namespace FindingCheck

/-- What a run checks. -/
inductive Assertion where
  /-- An expectation is met. -/
  | expected (expectation : Expectation)
  /-- Every finding in the file that must be expected is expected. -/
  | noUnexpected (file : Path)
deriving BEq, Repr

/-- What stands for the text of an expectation in the assertion on a whole file. -/
def noUnexpectedText : String := "no unexpected facts"

namespace Assertion

/-- The file that the assertion is about. -/
def file : Assertion → Path
  | expected expectation => expectation.file
  | noUnexpected file => file

/-- The expectation, unless the assertion is on a whole file. -/
def expectation? : Assertion → Option Expectation
  | expected expectation => some expectation
  | noUnexpected _ => none

/-- Whether the assertion is on a whole file. -/
def isWholeFile : Assertion → Bool
  | expected _ => false
  | noUnexpected _ => true

/-- The line that the assertion is about, unless it is on a whole file. -/
def line? (assertion : Assertion) : Option UInt32 :=
  assertion.expectation?.map (·.line)

/-- The text of the assertion without its place. -/
def text : Assertion → String
  | expected expectation => expectation.text
  | noUnexpected _ => noUnexpectedText

/-- A place and a text, as reports print them. -/
def placed (file : Path) (line : UInt32) (text : String) : String :=
  file.display ++ ":" ++ toString line ++ " " ++ text

/-- The assertion as reports print it. -/
def render : Assertion → String
  | expected expectation => placed expectation.file expectation.line expectation.text
  | noUnexpected file => file.display ++ ": " ++ noUnexpectedText

/-- Assertions are ordered by file, then expectations before the whole file, then as the
expectations are. -/
instance : Ord Assertion where
  compare := compareLex (compareOn file) (compareLex (compareOn isWholeFile)
    (compareOn expectation?))

instance : Std.TransOrd Assertion :=
  inferInstanceAs (Std.TransCmp (compareLex (compareOn file) (compareLex (compareOn isWholeFile)
    (compareOn expectation?))))

end Assertion

end FindingCheck
