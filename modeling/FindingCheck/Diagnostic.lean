import FindingCheck.Finding

/-!
# Diagnostics

A diagnostic is a finding that was recorded from a run of an analyzer. Its key says what kind of
message it is, and the arguments of the message are kept beside its text.

## Main definitions

* `Severity`, `Diagnostic` — a recorded finding
* `mismatchKeys` — the keys that report a nullness mismatch
* `Analyzer`, `Analyzer.replay` — an analyzer, and the one that replays diagnostics
-/

namespace FindingCheck

/-- How a diagnostic is shown to users. -/
inductive Severity where
  /-- As an error. -/
  | error
  /-- As a warning. -/
  | warning
  /-- As information. -/
  | note
deriving DecidableEq, Repr

namespace Severity

/-- The word for a severity. -/
def name : Severity → String
  | error => "error"
  | warning => "warning"
  | note => "note"

/-- The severity that a word stands for. -/
def ofName? (name : String) : Option Severity :=
  [error, warning, note].find? (·.name == name)

theorem ofName?_name (severity : Severity) : ofName? severity.name = some severity := by
  cases severity <;> decide

end Severity

/-- A recorded finding. -/
structure Diagnostic where
  /-- The file, relative to the root of the corpus. -/
  file : Path
  /-- The line. -/
  line : UInt32
  /-- The key of the message. -/
  key : String
  /-- The severity. -/
  severity : Severity
  /-- The message in words, or nothing. -/
  message : String := ""
  /-- The arguments of the message. -/
  arguments : List String := []
deriving DecidableEq, Repr

/-- The keys that report a nullness mismatch. -/
def mismatchKeys : List String := [
  "argument",
  "assignment",
  "atomicreference.must.include.null",
  "cast.unsafe",
  "dereference.of.nullable",
  "lambda.param",
  "methodref.receiver.bound",
  "methodref.receiver",
  "methodref.return",
  "override.param",
  "override.return",
  "return",
  "threadlocal.must.include.null",
  "type.argument"]

namespace Diagnostic

/-- Whether the key reports a nullness mismatch. -/
def isMismatch (diagnostic : Diagnostic) : Bool :=
  mismatchKeys.contains diagnostic.key

/-- Whether key and arguments are the given ones. -/
def hasContent (diagnostic : Diagnostic) (key : String) (arguments : List String) : Bool :=
  diagnostic.key == key && diagnostic.arguments == arguments

/-- Whether a diagnostic is of the kind that a fact declares. Types of a conversion are not
compared; the informational kinds have a key of their own and must agree in every argument. -/
def satisfies (diagnostic : Diagnostic) : Fact → Bool
  | .nullnessMismatch => diagnostic.isMismatch
  | .cannotConvert _ _ => diagnostic.isMismatch
  | .expressionType type expression => diagnostic.hasContent "expression.type" [type, expression]
  | .annotationIrrelevant name => diagnostic.hasContent "irrelevant.annotation" [name]
  | .sinkType type sink => diagnostic.hasContent "sink.type" [type, sink]

/-- The diagnostic in words: the key, and the message if there is one. -/
def text (diagnostic : Diagnostic) : String :=
  if diagnostic.message.isEmpty then diagnostic.key
  else "(" ++ diagnostic.key ++ ") " ++ diagnostic.message

instance : Finding Diagnostic where
  file := file
  line := line
  mustBeExpected diagnostic := diagnostic.severity == .error
  text := text
  satisfies := satisfies

end Diagnostic

/-- Something that finds things in the files of a group. -/
structure Analyzer (α : Type) where
  /-- The findings in files beneath a root, or why there are none. -/
  analyze : Path → List Path → Except String (List α)

namespace Analyzer

/-- The analyzer that replays diagnostics: those of the files asked for, in the recorded order. -/
def replay (diagnostics : List Diagnostic) : Analyzer Diagnostic where
  analyze _ files := .ok (diagnostics.filter fun diagnostic => files.contains diagnostic.file)

end Analyzer

end FindingCheck
