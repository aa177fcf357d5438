import FindingCheck.Text.Blank
import FindingCheck.Text.Lines

/-!
# Directives and the lines they decorate

A directive is a line that starts, after blanks, with two slashes and a space; what follows is its
body. Every other line is code. The directives that stand in consecutive lines are a *run*, and
the run decorates the line of code below it.

## Main definitions

* `directiveBody?` — the body of a line that is a directive
* `Directive`, `Run`, `Layout` — the directives of a text and the lines they decorate
* `Layout.ofText` — the layout of a text

## Design notes

The lines are taken from the last to the first, so the line of code that a run decorates is known
before the directives of the run are met. A line of code that nothing decorates has a run too, an
empty one.
-/

namespace FindingCheck

/-- The body of a line, if the line is a directive. -/
def directiveBody? (line : String) : Option String :=
  match trimStart line.toList with
  | '/' :: '/' :: ' ' :: body => some (String.ofList body)
  | _ => none

/-- The number of the line with the given index. Lines are counted from one, and the count stops
at the largest number of 32 bits. -/
def lineNumber (index : Nat) : UInt32 :=
  UInt32.ofNat (min (index + 1) (UInt32.size - 1))

/-- A directive with its place. -/
structure Directive where
  /-- The line of the directive. -/
  line : UInt32
  /-- What the directive says. -/
  body : String
deriving DecidableEq, Repr

/-- The directives above a line of code. -/
structure Run where
  /-- The line of code. -/
  decorated : UInt32
  /-- The directives in the lines directly above it, in order. -/
  directives : List Directive
deriving DecidableEq, Repr

/-- The directives of a text and the lines they decorate. -/
structure Layout where
  /-- One run for each line of code, in order. -/
  runs : List Run := []
  /-- The directives behind the last line of code, which decorate nothing. -/
  trailing : List Directive := []
deriving DecidableEq, Repr

namespace Layout

/-- Takes a line in front of those that are laid out. Code starts a run; a directive joins the
run of the code below it, if there is code below it. -/
def push (line : String × Nat) (layout : Layout) : Layout :=
  match directiveBody? line.1 with
  | none => { layout with runs := ⟨lineNumber line.2, []⟩ :: layout.runs }
  | some body =>
    let directive : Directive := ⟨lineNumber line.2, body⟩
    match layout.runs with
    | [] => { layout with trailing := directive :: layout.trailing }
    | run :: more =>
      { layout with runs := { run with directives := directive :: run.directives } :: more }

/-- The layout of lines that start at an index. -/
def ofLines (lines : List String) (index : Nat) : Layout :=
  (lines.zipIdx index).foldr push {}

/-- The layout of a text. -/
def ofText (text : String) : Layout :=
  ofLines (lines text) 0

end Layout

end FindingCheck
