import FindingCheck.Fact
import FindingCheck.Pattern.Search
import FindingCheck.Pattern.Written
import FindingCheck.Text.Quoted

/-!
# Directive grammars

A directive is a comment that declares a fact. A *grammar* is a pattern for whole directive bodies
together with the fact that a match declares; a *vocabulary* is a list of grammars of which the
first that matches decides.

## Main definitions

* `Grammar`, `Grammar.compile?`, `Grammar.read?` — one form of directive
* `Vocabulary`, `Vocabulary.register`, `Vocabulary.read?` — the forms of directives in order
* `Vocabulary.standard` — the five forms that every test corpus may use

## Design notes

Registering appends, so a vocabulary that grows never changes what a body meant before.
-/

namespace FindingCheck

/-- One form of directive. -/
structure Grammar where
  /-- The pattern as it was written. -/
  written : String
  /-- The pattern, which has to match the whole body. -/
  pattern : Pattern
  /-- The fact that a match declares. -/
  construct : Captures → Fact

namespace Grammar

/-- The grammar for a written pattern, unless nothing is written by it. -/
def compile? (written : String) (construct : Captures → Fact) : Option Grammar :=
  (Pattern.parse? written).map fun pattern => { written, pattern, construct }

/-- The fact that a directive body declares by this grammar. -/
def read? (grammar : Grammar) (body : String) : Option Fact :=
  (grammar.pattern.matchWhole? body.toList).map grammar.construct

/-- The grammar as inspection shows it: its pattern, anchored at both ends. -/
def inspect (grammar : Grammar) : String :=
  "DirectiveGrammar \x7b pattern: " ++ quoted ("^(?:" ++ grammar.written ++ ")$") ++ " \x7d"

end Grammar

/-- The forms of directives, the first that matches deciding. -/
structure Vocabulary where
  /-- The grammars in order. -/
  grammars : List Grammar

namespace Vocabulary

/-- The vocabulary in which nothing can be said. -/
def empty : Vocabulary :=
  { grammars := [] }

/-- Adds a grammar behind those that are there. -/
def register (vocabulary : Vocabulary) (grammar : Grammar) : Vocabulary :=
  { grammars := vocabulary.grammars ++ [grammar] }

/-- The number of grammars. -/
def size (vocabulary : Vocabulary) : Nat :=
  vocabulary.grammars.length

/-- Whether there is no grammar. -/
def isEmpty (vocabulary : Vocabulary) : Bool :=
  vocabulary.grammars.isEmpty

/-- The fact that a directive body declares: the first grammar that matches decides. -/
def read? (vocabulary : Vocabulary) (body : String) : Option Fact :=
  vocabulary.grammars.findSome? (·.read? body)

/-- The vocabulary as inspection shows it. -/
def inspect (vocabulary : Vocabulary) : String :=
  "AssertionRegistry \x7b grammars: " ++ bracketed (vocabulary.grammars.map Grammar.inspect) ++ " \x7d"

/-- The forms of the standard vocabulary, as they are written. -/
def standardForms : List (String × (Captures → Fact)) := [
  ("jspecify_nullness_mismatch\\b.*", fun _ => .nullnessMismatch),
  ("test:cannot-convert:(?<source>[^:]+?) to (?<sink>[^:]+)",
    fun captures => .cannotConvert (captures.get "source") (captures.get "sink")),
  ("test:expression-type:(?<type>[^:]+):(?<expression>.+)",
    fun captures => .expressionType (captures.get "type") (captures.get "expression")),
  ("test:irrelevant-annotation:(?<annotation>.+)",
    fun captures => .annotationIrrelevant (captures.get "annotation")),
  ("test:sink-type:(?<type>[^:]+):(?<sink>.+)",
    fun captures => .sinkType (captures.get "type") (captures.get "sink"))]

/-- The vocabulary of the standard forms. -/
def standard : Vocabulary :=
  { grammars := standardForms.filterMap fun form => Grammar.compile? form.1 form.2 }

theorem read?_register (vocabulary : Vocabulary) (grammar : Grammar) (body : String) :
    (vocabulary.register grammar).read? body =
      (vocabulary.read? body).or (grammar.read? body) := by
  simp [read?, register, List.findSome?_append]

end Vocabulary

end FindingCheck
