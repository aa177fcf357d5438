import FindingCheck.Diagnostic.Dump
import FindingCheck.Files
import FindingCheck.Reading.Defect
import FindingCheck.Report.Parse

/-!
# Failures

What can stop a run of the program. A failure is told as a chain of texts: first what was being
done, and then the reasons, each the cause of the one before.

## Main definitions

* `Failure` — what can stop a run
* `Failure.chain` — the failure in words, the outermost first
* `Failure.report` — the chain as it is printed
-/

namespace FindingCheck

/-- What can stop a run. -/
inductive Failure where
  /-- A text names no mode. -/
  | unknownMode (text : String)
  /-- The root of the corpus is no directory. -/
  | noRoot (root : Path)
  /-- A file or directory cannot be read. -/
  | unreadable (path : Path) (problem : FileProblem)
  /-- What lies beneath a directory cannot be listed. -/
  | unlistable (path : Path) (problem : ListingProblem)
  /-- A file holds no dump of diagnostics. -/
  | badDump (path : Path) (problem : DumpProblem)
  /-- The directives of a file have defects. -/
  | malformedSource (file : Path) (defects : List Defect)
  /-- The analyzer fails on the files of a group. -/
  | analyzerFailed (files : List Path) (reason : String)
  /-- The stored report cannot be read. -/
  | unreadableReport (path : Path) (problem : FileProblem)
  /-- The stored report is no report. -/
  | malformedReport (path : Path) (malformation : Malformation)
  /-- The directory for the report cannot be made. -/
  | noReportDirectory (path : Path) (problem : FileProblem)
  /-- The report cannot be written. -/
  | unwritableReport (path : Path) (problem : FileProblem)
deriving BEq, Repr

/-- What is wrong with a text that holds no diagnostics, in words. -/
def DumpProblem.chain (problem : DumpProblem) : List String :=
  ["Invalid recorded facts JSON", problem.message]

namespace Failure

/-- The failure in words: what failed first, its cause after it, and so on. -/
def chain : Failure → List String
  | unknownMode text =>
    ["unrecognized conformance test mode \x60" ++ text ++
      "\x60; valid modes are: compare, write, details"]
  | noRoot root => ["Test root " ++ root.text ++ " is not a directory"]
  | unreadable path problem => ["Cannot read " ++ path.text, problem.message]
  | unlistable path problem => ("Cannot walk " ++ path.text) :: problem.chain
  | badDump path problem => ("In " ++ path.text) :: problem.chain
  | malformedSource file defects =>
    ["Malformed expectations in " ++ file.text, Defect.listing defects]
  | analyzerFailed files reason =>
    ["Analyzer failed on group " ++ bracketed (files.map fun file => quoted file.text), reason]
  | unreadableReport path problem => ["Cannot read stored report " ++ path.text, problem.message]
  | malformedReport path malformation =>
    ["Cannot parse stored report " ++ path.text, malformation.message]
  | noReportDirectory path problem => ["Cannot create " ++ path.text, problem.message]
  | unwritableReport path problem => ["Cannot write report " ++ path.text, problem.message]

/-- A text with `first` in front of its first line and `other` in front of the others. -/
def indented (first other : String) (text : String) : String :=
  first ++ String.intercalate ("\n" ++ other)
    ((text.toList.splitOn '\n').map String.ofList)

/-- A number with blanks in front of it, up to a width of five. -/
def padded (number : Nat) : String :=
  let digits := toString number
  String.ofList (List.replicate (5 - digits.length) ' ') ++ digits

/-- The causes, one below the other. Several causes are numbered. -/
def causes : List String → List String
  | [cause] => [indented "    " "    " cause]
  | several => several.zipIdx.map fun cause =>
    indented (padded cause.2 ++ ": ") "       " cause.1

/-- The failure as it is printed. -/
def report (failure : Failure) : String :=
  match failure.chain with
  | [] => ""
  | [only] => "Error: " ++ only ++ "\n"
  | outermost :: reasons =>
    "Error: " ++ outermost ++ "\n\nCaused by:\n" ++ String.intercalate "\n" (causes reasons) ++ "\n"

end Failure

end FindingCheck
