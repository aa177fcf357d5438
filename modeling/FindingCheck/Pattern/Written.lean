import FindingCheck.Pattern

/-!
# The written form of patterns

A pattern is written in the common notation of regular expressions: `.` for any character but a
line feed, `[...]` and `[^...]` for classes, `|` for alternatives, `?`, `*` and `+` for optional and
repeated parts, each with a `?` behind it if lazy, `(...)`, `(?:...)` and `(?<name>...)` for groups,
`\b` for the border of a word, and a backslash in front of a punctuation character that stands for
itself.

## Main definitions

* `Pattern.parse?` — the pattern that a text writes

## Design notes

The reader keeps the open groups on a stack. A group holds its finished alternatives and the parts
of the alternative being read, both with the latest first.
-/

namespace FindingCheck

namespace Pattern

/-- A group that has been opened and not closed. -/
structure OpenGroup where
  /-- The name of the group, if it has one. -/
  name : Option String := none
  /-- The alternatives that are complete, latest first. -/
  alternatives : List Pattern := []
  /-- The parts of the alternative being read, latest first. -/
  parts : List Pattern := []
deriving DecidableEq, Repr

namespace OpenGroup

/-- Adds a part to the alternative being read. -/
def add (group : OpenGroup) (part : Pattern) : OpenGroup :=
  { group with parts := part :: group.parts }

/-- Ends one alternative and starts the next. -/
def next (group : OpenGroup) : OpenGroup :=
  { group with alternatives := sequence group.parts.reverse :: group.alternatives, parts := [] }

/-- The pattern of the group when it is closed. -/
def close (group : OpenGroup) : Pattern :=
  let body := choice group.next.alternatives.reverse
  match group.name with
  | some name => named name body
  | none => body

/-- Applies a repetition to the part read last; there has to be one. -/
def amend? (group : OpenGroup) (f : Pattern → Pattern) : Option OpenGroup :=
  match group.parts with
  | [] => none
  | part :: parts => some { group with parts := f part :: parts }

end OpenGroup

/-- The class of every character but the line feed. -/
def anyInLine : CharClass :=
  .allBut '\n'

/-- The ranges between the brackets of a class. -/
def classRanges? : List Char → Option Ranges
  | [] => some []
  | low :: '-' :: high :: more =>
    if low.toNat ≤ high.toNat then (classRanges? more).map ((low.toNat, high.toNat) :: ·) else none
  | c :: more =>
    if c = '[' || c = '\\' || c = '-' || c = '&' || c = '~' then none
    else (classRanges? more).map ((c.toNat, c.toNat) :: ·)

/-- The class with the given text between its brackets. A class is not empty. -/
def class? : List Char → Option CharClass
  | '^' :: body =>
    if body.isEmpty then none else (classRanges? body).map ({ ranges := ·, negated := true })
  | body => if body.isEmpty then none else (classRanges? body).map ({ ranges := · })

/-- What a backslash and a character stand for. -/
def escape? : Char → Option Pattern
  | 'b' => some wordBorder
  | 'n' => some (one (.only '\n'))
  | 'r' => some (one (.only '\r'))
  | 't' => some (one (.only '\t'))
  | c => if c.toNat < 128 && c.isAlphanum = false && '!' ≤ c then some (one (.only c)) else none

/-- Whether a text names a group: ASCII letters, digits and underscores, no digit first. -/
def isGroupName : List Char → Bool
  | [] => false
  | c :: more => (c.isAlpha || c = '_') && more.all fun d => d.isAlphanum || d = '_'

/-- Reads on inside the group `group`, with the groups around it on the stack. Every step takes a
character, so `fuel` above the length of the text is never used up. -/
def read? : Nat → List OpenGroup → OpenGroup → List Char → Option Pattern
  | 0, _, _, _ => none
  | fuel + 1, stack, group, text =>
    match text with
    | [] => if stack.isEmpty then some group.close else none
    | '(' :: '?' :: ':' :: rest => read? fuel (group :: stack) {} rest
    | '(' :: '?' :: '<' :: rest =>
      let name := rest.takeWhile (· ≠ '>')
      if isGroupName name && name.length < rest.length then
        read? fuel (group :: stack) { name := String.ofList name } (rest.drop (name.length + 1))
      else
        none
    | '(' :: '?' :: _ => none
    | '(' :: rest => read? fuel (group :: stack) {} rest
    | ')' :: rest =>
      match stack with
      | [] => none
      | outer :: stack => read? fuel stack (outer.add group.close) rest
    | '|' :: rest => read? fuel stack group.next rest
    | '?' :: '?' :: rest => (group.amend? (maybe · true)).bind (read? fuel stack · rest)
    | '?' :: rest => (group.amend? (maybe · false)).bind (read? fuel stack · rest)
    | '*' :: '?' :: rest => (group.amend? (many · true)).bind (read? fuel stack · rest)
    | '*' :: rest => (group.amend? (many · false)).bind (read? fuel stack · rest)
    | '+' :: '?' :: rest => (group.amend? (atLeastOnce · true)).bind (read? fuel stack · rest)
    | '+' :: rest => (group.amend? (atLeastOnce · false)).bind (read? fuel stack · rest)
    | '.' :: rest => read? fuel stack (group.add (one anyInLine)) rest
    | '\\' :: c :: rest => (escape? c).bind fun part => read? fuel stack (group.add part) rest
    | '[' :: rest =>
      let body := rest.takeWhile (· ≠ ']')
      if body.length < rest.length then
        (class? body).bind fun cls =>
          read? fuel stack (group.add (one cls)) (rest.drop (body.length + 1))
      else
        none
    | c :: rest =>
      if c = '\\' || c = '\x7b' || c = '^' || c = '$' then none
      else read? fuel stack (group.add (one (.only c))) rest

/-- The pattern that a text writes, if it writes one. -/
def parse? (text : String) : Option Pattern :=
  read? (text.toList.length + 1) [] {} text.toList

end Pattern

end FindingCheck
