import FindingCheck.Reading.Defect
import FindingCheck.Reading.Layout
import FindingCheck.Text.Decimal
import FindingCheck.Vocabulary

/-!
# What a run of directives says

Each directive of a run declares an expectation or names the test that the run is. A run has at
most one name, and the name comes before the expectations.

## Main definitions

* `Meaning`, `Vocabulary.meaning` — what one directive says
* `isTestName` — the names that a test can have
* `Block`, `Block.ofDirectives` — what the directives of a run say together

## Design notes

Directives are taken in order. A directive that is at fault changes nothing but the list of faults,
so what the others say stays the same.
-/

namespace FindingCheck

/-- What a directive that names a test starts with. -/
def testNameMark : String := "test:name:"

/-- What one directive says. -/
inductive Meaning where
  /-- It names the test. -/
  | testName (name : String)
  /-- It declares a fact. -/
  | expectation (fact : Fact)
  /-- Nothing that can be understood. -/
  | unknown
deriving DecidableEq, Repr

/-- What a directive body says. Naming comes first: no grammar is asked about such a body. -/
def Vocabulary.meaning (vocabulary : Vocabulary) (body : String) : Meaning :=
  match testNameMark.toList.isPrefixOf? body.toList with
  | some name => .testName (String.ofList (trim name))
  | none =>
    match vocabulary.read? body with
    | some fact => .expectation fact
    | none => .unknown

/-- Whether a text reads as an integer: ASCII digits, with a sign in front of them or without. -/
def isInteger (text : List Char) : Bool :=
  match text with
  | '+' :: digits => isDigits digits
  | '-' :: digits => isDigits digits
  | digits => isDigits digits

/-- Whether a test can have the name. A name is not empty, no integer, and without a colon, so
it cannot be taken for a line number or for another directive. -/
def isTestName (name : String) : Bool :=
  !name.isEmpty && !isInteger name.toList && !name.toList.contains ':'

/-- What the directives of a run say. -/
structure Block where
  /-- The name of the test and the directive that gives it. -/
  name : Option (String × Directive) := none
  /-- The expectations, each with the text of its directive. -/
  expectations : List (String × Fact) := []
  /-- The directives at fault. -/
  faults : List (Directive × Problem) := []
deriving DecidableEq, Repr

namespace Block

/-- Whether nothing has been said. -/
def isEmpty (block : Block) : Bool :=
  block.name.isNone && block.expectations.isEmpty

/-- Puts a directive on the list of faults. -/
def fault (block : Block) (directive : Directive) (problem : Problem) : Block :=
  { block with faults := block.faults ++ [(directive, problem)] }

/-- Takes the next directive. -/
def add (vocabulary : Vocabulary) (block : Block) (directive : Directive) : Block :=
  match vocabulary.meaning directive.body with
  | .expectation fact =>
    { block with expectations := block.expectations ++ [(directive.body, fact)] }
  | .unknown => block.fault directive .unrecognized
  | .testName name =>
    if !block.expectations.isEmpty then block.fault directive .nameAfterExpectation
    else if block.name.isSome then block.fault directive .nameAlreadySet
    else if !isTestName name then block.fault directive .invalidName
    else { block with name := some (name, directive) }

/-- What directives say, taken in order. -/
def ofDirectives (vocabulary : Vocabulary) (directives : List Directive) : Block :=
  directives.foldl (add vocabulary) {}

end Block

end FindingCheck
