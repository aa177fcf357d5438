import FindingCheck.Fact
import FindingCheck.Path

/-!
# Expectations

An expectation is a fact with the place where it is expected: the directive's text is kept, because
reports print it.

## Main definitions

* `Expectation` — a fact expected on a line of a file
-/

namespace FindingCheck

/-- A fact that a directive declares for a line of code. -/
structure Expectation where
  /-- The file, relative to the root of the corpus. -/
  file : Path
  /-- The line of code that the directive decorates. -/
  line : UInt32
  /-- The body of the directive, as it was written. -/
  text : String
  /-- What the directive declares. -/
  fact : Fact
deriving Repr

namespace Expectation

/-- Expectations are equal when all their parts are. Paths are compared last, which costs
most. -/
instance : BEq Expectation where
  beq a b := a.line == b.line && a.text == b.text && a.fact == b.fact && a.file == b.file

/-- Expectations are ordered by file, line, text and fact, in this order of importance. -/
instance : Ord Expectation where
  compare := compareLex (compareOn file) (compareLex (compareOn line)
    (compareLex (compareOn text) (compareOn fact)))

instance : Std.TransOrd Expectation :=
  inferInstanceAs (Std.TransCmp (compareLex (compareOn file) (compareLex (compareOn line)
    (compareLex (compareOn text) (compareOn fact)))))

end Expectation

end FindingCheck
