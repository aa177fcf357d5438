import FindingCheck.Event
import FindingCheck.Expectation
import FindingCheck.Reading.Block

/-!
# Reading the expectations of a source text

A source text declares its expectations in runs of directives. Reading gives the expectations of
every line of code, the names of the tests, and all defects of the directives.

## Main definitions

* `Annotations` — the expectations and test names of a text
* `Reading`, `Reading.ofText` — the same with the defects
* `readAnnotations` — the annotations of a text without defects
* `Reader`, `Reader.read`, `Reader.check` — several texts, the defects reported together

## Design notes

The defects come in the order in which they show: those of a run, run after run; then those of the
directives behind the last line of code; and last the names that several tests bear, by name.
-/

namespace FindingCheck

/-- What the directives of a text declare. -/
structure Annotations where
  /-- The expectations in the order of the text. -/
  expectations : List Expectation := []
  /-- The lines that named tests decorate, ascending, with the names. -/
  names : List (UInt32 × String) := []
deriving BEq, Repr

namespace Annotations

/-- The name of the test that decorates a line. -/
def nameOf? (annotations : Annotations) (line : UInt32) : Option String :=
  (annotations.names.find? (·.1 == line)).map (·.2)

end Annotations

/-- What reading a text gives. -/
structure Reading extends Annotations where
  /-- Everything that is wrong with the directives. -/
  defects : List Defect := []
  /-- The number of expectations behind the last line of code, if something is said there. -/
  dropped : Option Nat := none
deriving BEq, Repr

/-- A named test. -/
structure NamedTest where
  /-- The name. -/
  name : String
  /-- The line of the directive that gives it. -/
  directive : UInt32
  /-- The line of code that the test decorates. -/
  decorated : UInt32
deriving DecidableEq, Repr

/-- What a run says: the block of its directives, with the line that it decorates. -/
structure DecoratedBlock extends Block where
  /-- The line of code. -/
  decorated : UInt32
deriving DecidableEq, Repr

namespace DecoratedBlock

/-- What a run says. -/
def ofRun (vocabulary : Vocabulary) (run : Run) : DecoratedBlock :=
  { Block.ofDirectives vocabulary run.directives with decorated := run.decorated }

/-- The expectations for the decorated line. -/
def expected (block : DecoratedBlock) (file : Path) : List Expectation :=
  block.expectations.map fun entry => ⟨file, block.decorated, entry.1, entry.2⟩

/-- The test, if the run has a name and an expectation. -/
def test? (block : DecoratedBlock) : Option NamedTest :=
  if block.expectations.isEmpty then none
  else block.name.map fun name => ⟨name.1, name.2.line, block.decorated⟩

end DecoratedBlock

/-- The defect that a fault is in a file. -/
def Defect.ofFault (file : Path) (fault : Directive × Problem) : Defect :=
  ⟨file, fault.1.line, fault.1.body, fault.2⟩

namespace DecoratedBlock

/-- The defects of a run: its faults, and a name that names no expectation. -/
def defects (block : DecoratedBlock) (file : Path) : List Defect :=
  block.faults.map (Defect.ofFault file) ++
    match block.name with
    | some (name, directive) =>
      if block.expectations.isEmpty then
        [⟨file, directive.line, testNameMark ++ name, .noExpectations⟩]
      else
        []
    | none => []

end DecoratedBlock

namespace NamedTest

/-- The names of tests, ascending and each once. -/
def distinctNames (tests : List NamedTest) : List String :=
  (tests.map name).eraseDups.mergeSort fun a b => (compare a b).isLE

/-- The defect of a name, if several tests bear it. It stands at the first of them. -/
def clash? (file : Path) (tests : List NamedTest) (name : String) : Option Defect :=
  match tests.filter (·.name == name) with
  | first :: second :: more =>
    some ⟨file, first.directive, testNameMark ++ name,
      .nameNotUnique name ((first :: second :: more).map decorated)⟩
  | _ => none

/-- The defects of all names that several tests bear. -/
def clashes (file : Path) (tests : List NamedTest) : List Defect :=
  (distinctNames tests).filterMap (clash? file tests)

end NamedTest

namespace Reading

/-- What the directives of a layout say. -/
def ofLayout (vocabulary : Vocabulary) (file : Path) (layout : Layout) : Reading :=
  let blocks := layout.runs.map (DecoratedBlock.ofRun vocabulary)
  let last := Block.ofDirectives vocabulary layout.trailing
  let tests := blocks.filterMap DecoratedBlock.test?
  { expectations := blocks.flatMap (·.expected file)
    names := tests.map fun test => (test.decorated, test.name)
    defects := blocks.flatMap (·.defects file) ++ last.faults.map (Defect.ofFault file) ++
      NamedTest.clashes file tests
    dropped := if last.isEmpty then none else some last.expectations.length }

/-- Reads a text. -/
def ofText (vocabulary : Vocabulary) (file : Path) (text : String) : Reading :=
  ofLayout vocabulary file (Layout.ofText text)

/-- The annotations, if there is no defect. -/
def check (reading : Reading) : Except (List Defect) Annotations :=
  if reading.defects.isEmpty then .ok reading.toAnnotations else .error reading.defects

/-- What reading a file stands for. -/
def events (reading : Reading) (file : Path) : List Event :=
  (match reading.dropped with
    | some dropped =>
      [⟨.debug, "directive run at end of file decorates no line",
        [("file", file.text), ("dropped", toString dropped)]⟩]
    | none => []) ++
  [⟨.debug, "read expectations",
    [("file", file.text), ("facts", toString reading.expectations.length)]⟩]

end Reading

/-- Reads a text that must be without defects. -/
def readAnnotations (vocabulary : Vocabulary) (file : Path) (text : String) :
    Except (List Defect) Annotations :=
  (Reading.ofText vocabulary file text).check

/-- Reads several texts and keeps their defects until they are asked for. -/
structure Reader where
  /-- The forms of directives. -/
  vocabulary : Vocabulary
  /-- The defects found since the last check. -/
  pending : List Defect := []

namespace Reader

/-- Reads a text; its defects are added to the pending ones. -/
def read (reader : Reader) (file : Path) (text : String) : Annotations × Reader :=
  let reading := Reading.ofText reader.vocabulary file text
  (reading.toAnnotations, { reader with pending := reader.pending ++ reading.defects })

/-- Reports the pending defects and forgets them. -/
def check (reader : Reader) : Except (List Defect) Unit × Reader :=
  (if reader.pending.isEmpty then .ok () else .error reader.pending, { reader with pending := [] })

end Reader

end FindingCheck
