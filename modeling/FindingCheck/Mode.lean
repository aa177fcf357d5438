import FindingCheck.Comparison
import FindingCheck.Corpus

/-!
# Modes

A mode says what is done with the report of a run: it is compared with a stored one, it is stored,
or its failures are listed.

## Main definitions

* `Mode`, `Mode.ofText?` — the modes and their names
* `Verdict` — whether the run succeeds, and why
* `Mode.apply` — what a mode does with a report
-/

namespace FindingCheck

/-- What is done with the report of a run. -/
inductive Mode where
  /-- The run fails if the report differs from the stored one. -/
  | compare
  /-- The report is stored. -/
  | write
  /-- The run fails unless every assertion holds. -/
  | details
deriving DecidableEq, Repr, Inhabited

namespace Mode

/-- The name of a mode. -/
def name : Mode → String
  | compare => "compare"
  | write => "write"
  | details => "details"

/-- The mode that a text names. Blanks around the name and the case of ASCII letters do not
count. -/
def ofText? (text : String) : Option Mode :=
  let word := String.ofList ((trim text.toList).map Char.toLower)
  [compare, write, details].find? (·.name == word)

/-- The mode that a text names, or the failure to name one. -/
def ofText (text : String) : Except Failure Mode :=
  (ofText? text).elim (.error (.unknownMode text)) .ok

/-- The variable of the environment that names the mode. -/
def variableName : String := "JSPECIFY_CONFORMANCE_TEST_MODE"

/-- The mode that the environment names; without the variable it is `compare`. -/
def ofEnvironment (value? : Option String) : Except Failure Mode :=
  value?.elim (.ok compare) ofText

end Mode

/-- Whether a run succeeds, and why. -/
structure Verdict where
  /-- Whether the run succeeds. -/
  passed : Bool
  /-- The reason in words. -/
  message : String
  /-- What differs from the stored report, where that was looked for. -/
  comparison? : Option Comparison := none
deriving BEq, Repr

namespace Verdict

/-- The verdict on a report that is listed. -/
def ofDetails (report : Report) : Verdict :=
  if report.allPassed then
    { passed := true, message := "All " ++ toString report.total ++ " assertions passed" }
  else
    { passed := false, message := report.failures }

/-- The verdict on a report that differs from a stored one. -/
def ofDifference (path : Path) (comparison : Comparison) : Verdict where
  passed := false
  message := "Report differs from " ++ path.text ++
    if comparison.isEmpty then " (text only; no assertion changed)"
    else ":\n" ++ comparison.render
  comparison? := some comparison

/-- The verdict on a report, given the text that is stored. Equal texts are not read. -/
def ofStored (vocabulary : Vocabulary) (report : Report) (path : Path) (stored : String) :
    Except Failure Verdict :=
  if stored = report.render false then
    .ok { passed := true, message := "Report matches " ++ path.text }
  else
    match Report.parse vocabulary stored with
    | .ok baseline => .ok (ofDifference path (.ofReports report baseline))
    | .error malformation => .error (.malformedReport path malformation)

/-- The verdict on a report that has been stored. -/
def ofWritten (path : Path) : Verdict :=
  { passed := true, message := "Wrote " ++ path.text }

end Verdict

section

variable {m : Type → Type} [Monad m] [MonadFiles m]

/-- Compares a report with the stored one. -/
def compareStored (vocabulary : Vocabulary) (report : Report) (path : Path) :
    ExceptT Failure m Verdict := do
  let stored ← accessing (.unreadableReport path) (MonadFiles.readText path)
  ExceptT.mk (pure (Verdict.ofStored vocabulary report path stored))

/-- The directory that has to be there before a file can be written. -/
def directoryFor? (path : Path) : Option Path :=
  path.parent?.filter fun parent => !parent.text.isEmpty

/-- Stores a report, and makes the directory for it. -/
def writeReport (report : Report) (path : Path) : ExceptT Failure m Verdict := do
  match directoryFor? path with
  | some directory => accessing (.noReportDirectory directory) (makeDirectories directory)
  | none => pure ()
  accessing (.unwritableReport path) (MonadFiles.writeText path (report.render false))
  return .ofWritten path

/-- What a mode does with a report, which is stored at a path. -/
def Mode.apply (mode : Mode) (vocabulary : Vocabulary) (report : Report) (path : Path) :
    ExceptT Failure m Verdict :=
  match mode with
  | .compare => compareStored vocabulary report path
  | .write => writeReport report path
  | .details => return .ofDetails report

end

end FindingCheck
