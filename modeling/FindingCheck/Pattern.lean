import FindingCheck.Text.WordChar

/-!
# Patterns

A pattern describes texts by the usual means of regular expressions: characters of a class,
sequences, alternatives, optional and repeated parts, the border of a word. Parts can be named, and
a match says which piece of the text each named part took.

## Main definitions

* `CharClass`, `Pattern` — the patterns
* `Progress`, `Pattern.run` — the ways a pattern can match from a position, best first
* `Captures`, `Captures.get` — what the named parts took

## Design notes

`Pattern.run` lists all the ways in order of preference: the left alternative before the right
one, more repetitions before fewer unless the part is lazy. A match of the whole text is the first
way that leaves nothing over. Repetition needs a bound, and the length of the text ahead is one,
because a repetition that takes nothing is not followed up.

A named part is a pattern between two marks that take nothing: one where its piece begins and one
where the piece ends and gets its name.
-/

namespace FindingCheck

/-- A class of characters: those in the ranges or, negated, those in none of them. -/
structure CharClass where
  /-- The ranges of code points. -/
  ranges : Ranges
  /-- Whether the class holds what the ranges do not. -/
  negated : Bool := false
deriving DecidableEq, Repr

namespace CharClass

/-- The class of one character. -/
def only (c : Char) : CharClass :=
  { ranges := [(c.toNat, c.toNat)] }

/-- The class of every character but one. -/
def allBut (c : Char) : CharClass :=
  { ranges := [(c.toNat, c.toNat)], negated := true }

/-- Membership of a character. -/
def contains (cls : CharClass) (c : Char) : Bool :=
  cls.ranges.contains c != cls.negated

theorem contains_only {c d : Char} : (only c).contains d = true ↔ d = c := by
  simp only [contains, only, Bool.bne_false, Ranges.contains_iff, List.mem_singleton,
    exists_eq_left]
  constructor
  · intro h
    exact Char.toNat_inj.mp (Nat.le_antisymm h.2 h.1)
  · rintro rfl
    exact ⟨Nat.le_refl _, Nat.le_refl _⟩

theorem contains_allBut {c d : Char} : (allBut c).contains d = true ↔ d ≠ c := by
  rw [show (allBut c).contains d = !(only c).contains d by simp [contains, allBut, only],
    Bool.not_eq_true', ← Bool.not_eq_true, contains_only]

end CharClass

/-- A description of texts. -/
inductive Pattern where
  /-- The empty text. -/
  | empty
  /-- One character of a class. -/
  | one (cls : CharClass)
  /-- Nothing, between a word character and something else. -/
  | wordBorder
  /-- One part and then another. -/
  | seq (first second : Pattern)
  /-- One of two parts, the first by preference. -/
  | alt (first second : Pattern)
  /-- A part or nothing; nothing by preference if lazy. -/
  | maybe (inner : Pattern) (lazily : Bool)
  /-- A part any number of times; as seldom as possible if lazy. -/
  | many (inner : Pattern) (lazily : Bool)
  /-- Nothing; a piece of the text begins here. -/
  | mark
  /-- Nothing; the piece that began last ends here and is kept under a name. -/
  | keep (name : String)
deriving DecidableEq, Repr

/-- The piece of a text that a named part took, by its borders. -/
structure Span where
  /-- The name of the part. -/
  name : String
  /-- The number of characters in front of the piece. -/
  start : Nat
  /-- The number of characters up to its end. -/
  stop : Nat
deriving DecidableEq, Repr

/-- A position in a text, with what has been taken on the way. -/
structure Progress where
  /-- The number of characters taken. -/
  position : Nat := 0
  /-- The character taken last. -/
  previous : Option Char := none
  /-- The characters ahead. -/
  rest : List Char
  /-- Where the pieces that have not ended began, the latest first. -/
  begun : List Nat := []
  /-- The pieces of named parts, the latest first. -/
  spans : List Span := []
deriving DecidableEq, Repr

namespace Progress

/-- Takes one character. -/
def take (s : Progress) (c : Char) (rest : List Char) : Progress :=
  { s with position := s.position + 1, previous := some c, rest := rest }

/-- Begins a piece of the text. -/
def mark (s : Progress) : Progress :=
  { s with begun := s.position :: s.begun }

/-- Ends the piece that began last and keeps it under a name. -/
def keep (s : Progress) (name : String) : Progress :=
  { s with
    begun := s.begun.tail
    spans := { name, start := s.begun.headD 0, stop := s.position } :: s.spans }

/-- Whether the position is the border of a word: exactly one of its two neighbours is a word
character. -/
def atWordBorder (s : Progress) : Bool :=
  s.previous.any isWordChar != s.rest.head?.any isWordChar

end Progress

namespace Pattern

/-- The ways to repeat a step from a position, at most `fuel` times and never past a step that
takes nothing. -/
def repeated (step : Progress → List Progress) (lazily : Bool) : Nat → Progress → List Progress
  | 0, s => [s]
  | fuel + 1, s =>
    let onward := ((step s).filter fun t => t.rest.length < s.rest.length).flatMap
      (repeated step lazily fuel)
    if lazily then s :: onward else onward ++ [s]

/-- The ways a pattern can match from a position, best first. -/
def run : Pattern → Progress → List Progress
  | empty, s => [s]
  | one cls, s =>
    match s.rest with
    | [] => []
    | c :: rest => if cls.contains c then [s.take c rest] else []
  | wordBorder, s => if s.atWordBorder then [s] else []
  | seq first second, s => (first.run s).flatMap second.run
  | alt first second, s => first.run s ++ second.run s
  | maybe inner lazily, s => if lazily then s :: inner.run s else inner.run s ++ [s]
  | many inner lazily, s => repeated inner.run lazily s.rest.length s
  | mark, s => [s.mark]
  | keep name, s => [s.keep name]

/-- A part whose piece of the text is kept under a name. -/
def named (name : String) (inner : Pattern) : Pattern :=
  seq mark (seq inner (keep name))

/-- A pattern at least once. -/
def atLeastOnce (inner : Pattern) (lazily : Bool) : Pattern :=
  seq inner (many inner lazily)

/-- The patterns one after the other. -/
def sequence : List Pattern → Pattern
  | [] => empty
  | [p] => p
  | p :: more => seq p (sequence more)

/-- The patterns as alternatives, the first preferred. -/
def choice : List Pattern → Pattern
  | [] => empty
  | [p] => p
  | p :: more => alt p (choice more)

end Pattern

/-- What the named parts of a pattern took from a text. -/
structure Captures where
  /-- The text. -/
  text : List Char
  /-- The pieces, the latest first. -/
  spans : List Span
deriving DecidableEq, Repr

namespace Captures

/-- The piece under a name. A part that took no part in the match has the empty piece. -/
def get (captures : Captures) (name : String) : String :=
  match captures.spans.find? (·.name == name) with
  | some span => String.ofList ((captures.text.drop span.start).take (span.stop - span.start))
  | none => ""

end Captures

end FindingCheck
