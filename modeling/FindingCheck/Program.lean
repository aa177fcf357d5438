import FindingCheck.Check
import FindingCheck.Options

/-!
# The program

A run loads the recorded findings, discovers and reads the corpus, checks it, and does with the
report what the mode says.

## Main definitions

* `Output` — what a run leaves behind besides files
* `Program.check` — the report on the corpus
* `Program.run` — a run from its arguments to its exit code
-/

namespace FindingCheck

/-- What a run leaves behind besides files. -/
structure Output where
  /-- The exit code: 0 for success, 1 for failure, 2 for arguments that cannot be used. -/
  exit : Nat
  /-- The text on standard output. -/
  stdout : String := ""
  /-- The text on standard error. -/
  stderr : String := ""
deriving DecidableEq, Repr

namespace Output

/-- The output for arguments that cannot be used. -/
def usage : Output :=
  { exit := 2 }

/-- The output of a run that a failure stops. -/
def ofFailure (failure : Failure) : Output :=
  { exit := 1, stderr := failure.report }

/-- The last line of a run. -/
def lastLine (word : String) (mode : Mode) : String :=
  "Conformance " ++ word ++ " (" ++ mode.name ++ " mode).\n"

/-- The output of a run that comes to a verdict; `listing` has been printed before it. -/
def ofVerdict (mode : Mode) (listing : String) (verdict : Verdict) : Output :=
  if verdict.passed then
    { exit := 0, stdout := listing ++ verdict.message ++ "\n" ++ lastLine "PASSED" mode }
  else
    { exit := 1, stdout := listing
      stderr := String.ofList (trimEnd verdict.message.toList) ++ "\n" ++ lastLine "FAILED" mode }

end Output

namespace Program

variable {m : Type → Type} [Monad m] [MonadFiles m]

/-- Loads the diagnostics of a dump. -/
def loadDump (path : Path) : ExceptT Failure m (List Diagnostic) := do
  let text ← accessing (.unreadable path) (MonadFiles.readText path)
  ExceptT.mk (pure (Except.mapError (.badDump path) (Diagnostic.parseDump text)))

/-- The report on the corpus. -/
def check (options : Options) : ExceptT Failure m Report := do
  let diagnostics ← loadDump options.facts
  let groups ← Corpus.discover options.root options.extension
  checkGroups .standard (.replay diagnostics) options.root groups

/-- What is printed before the verdict: in `details` mode the report with its leftovers. -/
def listing (mode : Mode) (report : Report) : String :=
  if mode = .details then report.render true ++ "\n" else ""

/-- A run with its options, up to its output. -/
def runOptions (options : Options) (modeName? : Option String) : ExceptT Failure m Output := do
  let mode ← ExceptT.mk (pure (options.mode?.elim (Mode.ofEnvironment modeName?) .ok))
  let report ← check options
  let verdict ← mode.apply .standard report options.report
  return .ofVerdict mode (listing mode report) verdict

/-- A run from its arguments and the variable of the environment to its output. -/
def run (arguments : List String) (modeName? : Option String) : m Output := do
  match Options.parse? arguments with
  | none => return .usage
  | some options =>
    match ← (runOptions options modeName?).run with
    | .ok output => return output
    | .error failure => return .ofFailure failure

end Program

end FindingCheck
