/-!
# Lines of a text

A line ends at a line feed. A carriage return directly before that line feed belongs to the line
ending and not to the line; any other carriage return is text. The last line may lack its line
feed, and then nothing is removed from it. A text that ends with a line feed has no empty line
after it.

## Main definitions

* `LineCut`, `LineCut.push` — the lines from a position on, and one character more in front of them
* `lines` — the lines of a text

## Design notes

The text is taken from its end, so that a carriage return sees whether a line feed follows. One
pass builds all the lines.
-/

namespace FindingCheck

/-- The lines from some position of a text on. -/
structure LineCut where
  /-- The lines; the first of them is still open at its start. -/
  lines : List (List Char) := []
  /-- Whether the character at the position is a line feed. -/
  atFeed : Bool := false
deriving DecidableEq, Repr

namespace LineCut

/-- Takes the character in front of a position. A line feed opens a line that it ends, a
carriage return before a line feed is dropped, and any other character joins the open line. -/
def push (c : Char) (cut : LineCut) : LineCut :=
  if c = '\n' then
    { lines := [] :: cut.lines, atFeed := true }
  else if c = '\r' && cut.atFeed then
    { lines := cut.lines }
  else
    match cut.lines with
    | [] => { lines := [[c]] }
    | line :: more => { lines := (c :: line) :: more }

end LineCut

/-- The lines of a text, without their endings. -/
def lines (text : String) : List String :=
  (text.toList.foldr LineCut.push {}).lines.map String.ofList

end FindingCheck
