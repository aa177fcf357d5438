import FindingCheck.Pattern

/-!
# The search for the best way

A text can be matched in very many ways, so the search for the best one does not list them. It
reads the text once and keeps the *attempts* that are still possible: what is left of the pattern
and what has been taken. At each character an attempt goes on, splits or dies, and of two attempts
with the same left to do only the better one is kept, because the other can do nothing that the
better one cannot. What can be left of a pattern has only so many forms, so the work is in
proportion to the length of the text.

## Main definitions

* `Attempt` — what is left of a pattern and what has been taken
* `Move`, `Pattern.moves` — what a pattern can do up to the next character, best first
* `Attempt.advance`, `Attempt.search` — how attempts take the next character and the whole text
* `Pattern.matchWhole?` — the best way to match a whole text
-/

namespace FindingCheck

/-- A way that has not come to its end. -/
structure Attempt where
  /-- What is left of the pattern. -/
  left : Pattern
  /-- What has been taken. -/
  now : Progress
deriving DecidableEq, Repr

/-- What a pattern does up to the next character. -/
inductive Move where
  /-- It is over without taking a character. -/
  | done (now : Progress)
  /-- It takes a character and is not over before that. -/
  | onward (attempt : Attempt)
deriving DecidableEq, Repr

namespace Move

/-- The end of the move if it takes nothing. -/
def done? : Move → Option Progress
  | done now => some now
  | onward _ => none

/-- The attempt that the move leads to if it takes a character. -/
def onward? : Move → Option Attempt
  | done _ => none
  | onward attempt => some attempt

end Move

/-- The attempt with a pattern to follow. Nothing left leaves only that pattern, so that equal
tasks have equal forms. -/
def Attempt.followedBy (attempt : Attempt) (next : Pattern) : Attempt :=
  { attempt with left := if attempt.left = .empty then next else .seq attempt.left next }

/-- What a pattern can do up to the next character from a position, best first. -/
def Pattern.moves : Pattern → Progress → List Move
  | empty, s => [.done s]
  | one cls, s =>
    match s.rest with
    | [] => []
    | c :: rest => if cls.contains c then [.onward ⟨empty, s.take c rest⟩] else []
  | wordBorder, s => if s.atWordBorder then [.done s] else []
  | seq first second, s =>
    (first.moves s).flatMap fun
      | .done t => second.moves t
      | .onward attempt => [.onward (attempt.followedBy second)]
  | alt first second, s => first.moves s ++ second.moves s
  | maybe inner lazily, s => if lazily then .done s :: inner.moves s else inner.moves s ++ [.done s]
  | many inner lazily, s =>
    let onward := ((inner.moves s).filterMap Move.onward?).map fun attempt =>
      .onward (attempt.followedBy (many inner lazily))
    if lazily then .done s :: onward else onward ++ [.done s]
  | mark, s => [.done s.mark]
  | keep name, s => [.done (s.keep name)]

namespace Attempt

/-- The attempts that an attempt becomes by taking the next character, best first. -/
def advance (attempt : Attempt) : List Attempt :=
  (attempt.left.moves attempt.now).filterMap Move.onward?

/-- The best way to end an attempt without taking a character. -/
def finish? (attempt : Attempt) : Option Progress :=
  (attempt.left.moves attempt.now).findSome? Move.done?

/-- The attempts without those that have the same left to do as a better one. -/
def distinct : List Attempt → List Attempt
  | [] => []
  | attempt :: worse => attempt :: (distinct worse).filter (·.left ≠ attempt.left)

/-- The best way to end one of the attempts when the text is over. -/
def search : List Char → List Attempt → Option Progress
  | [], attempts => attempts.findSome? finish?
  | _ :: text, attempts => search text (distinct (attempts.flatMap advance))

end Attempt

namespace Pattern

/-- The best way to match a whole text, if there is one. -/
def matchWhole? (pattern : Pattern) (text : List Char) : Option Captures :=
  (Attempt.search text [{ left := pattern, now := { rest := text } }]).map fun s =>
    { text, spans := s.spans }

end Pattern

end FindingCheck
