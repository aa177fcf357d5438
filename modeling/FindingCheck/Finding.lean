import FindingCheck.Fact
import FindingCheck.Path

/-!
# Findings

A finding is something that an analyzer reports of a line of code. Analyzers differ in how they
report, so a finding is any type that answers a few questions.

## Main definitions

* `Finding` — the questions
-/

namespace FindingCheck

/-- What has to be known of an analyzer's finding. -/
class Finding (α : Type) where
  /-- The file, relative to the root of the corpus. -/
  file : α → Path
  /-- The line. -/
  line : α → UInt32
  /-- Whether the file fails if no expectation asks for the finding. -/
  mustBeExpected : α → Bool
  /-- The finding in words. -/
  text : α → String
  /-- Whether the finding is of the kind that a fact declares. An analyzer that says nothing about
  facts satisfies none. -/
  satisfies : α → Fact → Bool := fun _ _ => false

end FindingCheck
