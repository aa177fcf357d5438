import FindingCheck.Report
import FindingCheck.Text.Blank
import FindingCheck.Text.Decimal
import FindingCheck.Text.Lines
import FindingCheck.Vocabulary

/-!
# Reading a report

A stored report is read line by line. Blank lines, comments and details are skipped; every other
line is an outcome. The place of an expectation ends at the first colon that a line number and a
space follow; a line without such a colon is about a whole file.

## Main definitions

* `Malformation` — why a text is no report
* `splitLocation?` — file, line and text of an expectation
* `Report.parse` — the report that a text holds
-/

namespace FindingCheck

/-- Why a text is no report. -/
inductive Malformation where
  /-- A line is neither skipped nor an outcome. -/
  | unrecognizedLine (line : Nat) (text : String)
  /-- No grammar reads the text of an expectation. -/
  | unknownExpectation (line : Nat) (text : String)
deriving DecidableEq, Repr

namespace Malformation

/-- The malformation in words. -/
def message : Malformation → String
  | unrecognizedLine line text =>
    "report line " ++ toString line ++ ": unrecognized line \x60" ++ text ++ "\x60"
  | unknownExpectation line text =>
    "report line " ++ toString line ++ ": unrecognized expectation \x60" ++ text ++ "\x60"

end Malformation

/-- A line number and the text behind it, at the start of `text`: digits, whose value fits into 32
bits, and a space. -/
def lineNumber? (text : List Char) : Option (UInt32 × List Char) :=
  let digits := text.takeWhile Char.isDigit
  match text.dropWhile Char.isDigit with
  | ' ' :: fact =>
    if isDigits digits && decimalValue digits < UInt32.size then
      some (UInt32.ofNat (decimalValue digits), fact)
    else
      none
  | _ => none

/-- Looks for the end of the file from a position on; `before` is what stands in front of it, the
last character first. -/
def splitLocationFrom? (before : List Char) : List Char → Option (List Char × UInt32 × List Char)
  | [] => none
  | c :: rest =>
    match if c = ':' && !before.isEmpty then lineNumber? rest else none with
    | some (line, fact) => some (before.reverse, line, fact)
    | none => splitLocationFrom? (c :: before) rest

/-- File, line and text of an expectation. The file is not empty and as short as can be. -/
def splitLocation? (body : List Char) : Option (List Char × UInt32 × List Char) :=
  splitLocationFrom? [] body

namespace Report

/-- Whether a line says nothing about an outcome. -/
def isSkipped (line : List Char) : Bool :=
  line.all isBlank || "#".toList.isPrefixOf line || "OOPS: ".toList.isPrefixOf line ||
    "INFO: ".toList.isPrefixOf line

/-- The status at the start of a line, and what follows it. -/
def splitStatus? (line : List Char) : Option (Bool × List Char) :=
  match "PASS: ".toList.isPrefixOf? line with
  | some body => some (true, body)
  | none => ("FAIL: ".toList.isPrefixOf? line).map (false, ·)

/-- The assertion that the body of a line states. -/
def parseBody (vocabulary : Vocabulary) (number : Nat) (line : String) (body : List Char) :
    Except Malformation Assertion :=
  match splitLocation? body with
  | some (file, lineNumber, text) =>
    match vocabulary.read? (String.ofList text) with
    | some fact =>
      .ok (.expected ⟨⟨String.ofList file⟩, lineNumber, String.ofList text, fact⟩)
    | none => .error (.unknownExpectation number (String.ofList text))
  | none =>
    match (": " ++ noUnexpectedText).toList.isSuffixOf? body with
    | some file => .ok (.noUnexpected ⟨String.ofList file⟩)
    | none => .error (.unrecognizedLine number line)

/-- The outcome that a line states, if it states one. -/
def parseLine (vocabulary : Vocabulary) (line : String) (number : Nat) :
    Except Malformation (Option Outcome) :=
  if isSkipped line.toList then .ok none
  else
    match splitStatus? line.toList with
    | none => .error (.unrecognizedLine number line)
    | some (passed, body) =>
      (parseBody vocabulary number line body).map fun assertion => some { assertion, passed }

/-- The report that a text holds, or what is wrong with the first line that is wrong. -/
def parse (vocabulary : Vocabulary) (text : String) : Except Malformation Report := do
  let outcomes ← ((lines text).zipIdx 1).mapM fun line => parseLine vocabulary line.1 line.2
  return ofOutcomes (outcomes.filterMap id)

end Report

end FindingCheck
