import FindingCheck.Pattern.Written
import FindingCheck.Proofs.Patterns

/-!
# Shapes of patterns

A directive starts with a mark, and behind it stand one or two parts. Four shapes of patterns are
enough for such directives. For each of them, the texts that it matches and the pieces that its
named parts take are known from the text alone.

## Main definitions

* `wordThenLine`, `markThenLine`, `markThenTyped`, `markThenBetween` — the shapes
* `IsField` — what a named part can take

## Main statements

* `matchWhole?_wordThenLine`, `matchWhole?_markThenLine`, `matchWhole?_markThenTyped`,
  `matchWhole?_markThenBetween` — what the shapes match
-/

namespace FindingCheck

namespace Pattern

variable {word start between name other : String} {text : List Char} {captures : Captures}

/-- A word, and behind it anything in one line that does not go on with the word. -/
def wordThenLine (word : String) : Pattern :=
  sequence (literal word.toList ++ [wordBorder, many (one anyInLine) false])

/-- A mark, and behind it anything in one line, under a name. -/
def markThenLine (start name : String) : Pattern :=
  sequence (literal start.toList ++ [named name (atLeastOnce (one anyInLine) false)])

/-- A mark, a part without colons, a colon, and anything in one line, both parts under names. -/
def markThenTyped (start name other : String) : Pattern :=
  sequence (literal start.toList ++
    named name (atLeastOnce (one (.allBut ':')) false) ::
      (literal [':'] ++ [named other (atLeastOnce (one anyInLine) false)]))

/-- A mark and two parts without colons, with a text between them, the first part as short as
possible. -/
def markThenBetween (start name between other : String) : Pattern :=
  sequence (literal start.toList ++
    named name (atLeastOnce (one (.allBut ':')) true) ::
      (literal between.toList ++ [named other (atLeastOnce (one (.allBut ':')) false)]))

/-- A piece that a named part can take: it is not empty and holds no such character. -/
structure IsField (mark : Char) (piece : List Char) : Prop where
  nonempty : piece ≠ []
  free : mark ∉ piece

/-- The pieces of two named parts, from their lengths and those of what stands in front of them. -/
def twoSpans (name other : String) (front first middle second : Nat) : List Span :=
  [⟨other, front + first + middle, front + first + middle + second⟩, ⟨name, front, front + first⟩]

theorem matchWhole?_wordThenLine (hword : word.toList.getLast?.any isWordChar = true) :
    (wordThenLine word).matchWhole? text = some captures ↔
      ∃ rest, text = word.toList ++ rest ∧ rest.head?.any isWordChar = false ∧ '\n' ∉ rest ∧
        captures = ⟨text, []⟩ := by
  have hborder : ∀ rest : List Char,
      (Progress.takeAll { rest := text } word.toList rest).atWordBorder =
        !rest.head?.any isWordChar := by
    intro rest
    simp [Progress.atWordBorder, Progress.takeAll, hword]
  rw [matchWhole?_eq_first?, Option.map_eq_some_iff]
  constructor
  · rintro ⟨s, hs, rfl⟩
    obtain ⟨rest, htext, hs⟩ := first?_literal_eq_some_iff.mp hs
    rw [first?_sequence_cons, first?_wordBorder, hborder] at hs
    split at hs
    · next hhead =>
      obtain ⟨hline, rfl⟩ := first?_many_finished?_eq_some_iff.mp hs
      exact ⟨rest, htext, by simpa using hhead, forall_allBut_contains_iff.mp hline, rfl⟩
    · cases hs
  · rintro ⟨rest, htext, hhead, hline, rfl⟩
    refine ⟨(Progress.takeAll { rest := text } word.toList rest).takeAll rest [],
      first?_literal_eq_some_iff.mpr ⟨rest, htext, ?_⟩, rfl⟩
    rw [first?_sequence_cons, first?_wordBorder, hborder, if_pos (by simp [hhead])]
    exact first?_many_finished?_eq_some_iff.mpr ⟨forall_allBut_contains_iff.mpr hline, rfl⟩

theorem matchWhole?_markThenLine :
    (markThenLine start name).matchWhole? text = some captures ↔
      ∃ piece, text = start.toList ++ piece ∧ IsField '\n' piece ∧
        captures =
          ⟨text, [⟨name, start.toList.length, start.toList.length + piece.length⟩]⟩ := by
  rw [matchWhole?_eq_first?, Option.map_eq_some_iff]
  constructor
  · rintro ⟨s, hs, rfl⟩
    obtain ⟨piece, htext, hs⟩ := first?_literal_eq_some_iff.mp hs
    obtain ⟨hne, hline, rfl⟩ := first?_named_finished?_eq_some_iff.mp hs
    refine ⟨piece, htext, ⟨hne, forall_allBut_contains_iff.mp hline⟩, ?_⟩
    simp [Progress.takeNamed, Progress.takeAll]
  · rintro ⟨piece, htext, hpiece, rfl⟩
    have hline : ∀ c ∈ piece, anyInLine.contains c := forall_allBut_contains_iff.mpr hpiece.free
    refine ⟨_, first?_literal_eq_some_iff.mpr ⟨piece, htext,
      first?_named_finished?_eq_some_iff.mpr ⟨hpiece.nonempty, hline, rfl⟩⟩, ?_⟩
    simp [Progress.takeNamed, Progress.takeAll]

theorem matchWhole?_markThenTyped :
    (markThenTyped start name other).matchWhole? text = some captures ↔
      ∃ type value, text = start.toList ++ (type ++ ':' :: value) ∧ IsField ':' type ∧
        IsField '\n' value ∧
        captures = ⟨text, twoSpans name other start.toList.length type.length 1 value.length⟩ := by
  rw [matchWhole?_eq_first?, Option.map_eq_some_iff]
  constructor
  · rintro ⟨s, hs, rfl⟩
    obtain ⟨rest, htext, hs⟩ := first?_literal_eq_some_iff.mp hs
    obtain ⟨type, value, hrest, htype, hcolon, hs⟩ := first?_named_mark_eq_some_iff.mp hs
    obtain ⟨hvalue, hline, rfl⟩ := first?_named_finished?_eq_some_iff.mp hs
    obtain rfl : rest = type ++ ':' :: value := hrest
    refine ⟨type, value, htext, ⟨htype, hcolon⟩,
      ⟨hvalue, forall_allBut_contains_iff.mp hline⟩, ?_⟩
    simp [Progress.takeNamed, Progress.takeAll, twoSpans]
  · rintro ⟨type, value, htext, htype, hvalue, rfl⟩
    have hline : ∀ c ∈ value, anyInLine.contains c := forall_allBut_contains_iff.mpr hvalue.free
    refine ⟨_, first?_literal_eq_some_iff.mpr ⟨_, htext, first?_named_mark_eq_some_iff.mpr
      ⟨type, value, rfl, htype.nonempty, htype.free,
        first?_named_finished?_eq_some_iff.mpr ⟨hvalue.nonempty, hline, rfl⟩⟩⟩, ?_⟩
    simp [Progress.takeNamed, Progress.takeAll, twoSpans]

/-- The text is two parts without colons with a text between them. -/
structure IsSplit (between : String) (text first second : List Char) : Prop where
  text : text = first ++ (between.toList ++ second)
  first : IsField ':' first
  second : IsField ':' second

/-- A first part leads on if the text between and a second part follow. -/
theorem leads_between_iff {s t : Progress} {piece : List Char} :
    Leads (.allBut ':') (fun u => (sequence (literal between.toList ++
        [named other (atLeastOnce (one (.allBut ':')) false)])).first? Progress.finished?
          (u.keep name)) s.mark piece t ↔
      ':' ∉ piece ∧ ∃ sink, s.rest = piece ++ (between.toList ++ sink) ∧ IsField ':' sink ∧
        ((s.takeNamed name piece (between.toList ++ sink)).takeAll between.toList sink).takeNamed
          other sink [] = t := by
  constructor
  · rintro ⟨rest, hrest, hpiece, hnext⟩
    obtain ⟨sink, hsink, hnext⟩ := first?_literal_eq_some_iff.mp hnext
    obtain ⟨hne, hcolon, rfl⟩ := first?_named_finished?_eq_some_iff.mp hnext
    obtain rfl : rest = between.toList ++ sink := hsink
    exact ⟨forall_allBut_contains_iff.mp hpiece, sink, hrest,
      ⟨hne, forall_allBut_contains_iff.mp hcolon⟩, rfl⟩
  · rintro ⟨hpiece, sink, hrest, hsink, rfl⟩
    have hcolon : ∀ c ∈ sink, (CharClass.allBut ':').contains c :=
      forall_allBut_contains_iff.mpr hsink.free
    exact ⟨between.toList ++ sink, hrest, forall_allBut_contains_iff.mpr hpiece,
      first?_literal_eq_some_iff.mpr ⟨sink, rfl,
        first?_named_finished?_eq_some_iff.mpr ⟨hsink.nonempty, hcolon, rfl⟩⟩⟩

/-- Two parts with a text between them are split as early as possible. -/
theorem first?_between_eq_some_iff {s t : Progress} :
    (sequence (named name (atLeastOnce (one (.allBut ':')) true) :: (literal between.toList ++
        [named other (atLeastOnce (one (.allBut ':')) false)]))).first? Progress.finished? s =
          some t ↔
      ∃ first second, IsSplit between s.rest first second ∧
        (∀ piece rest, IsSplit between s.rest piece rest → first.length ≤ piece.length) ∧
        ((s.takeNamed name first (between.toList ++ second)).takeAll between.toList
          second).takeNamed other second [] = t := by
  rw [first?_sequence_cons, first?_named, first?_atLeastOnce_eq_some_iff]
  constructor
  · rintro ⟨first, hleads, henough, hbest⟩
    obtain ⟨hcolon, second, hrest, hsecond, rfl⟩ := leads_between_iff.mp hleads
    refine ⟨first, second, ⟨hrest, ⟨List.ne_nil_of_length_pos henough, hcolon⟩, hsecond⟩,
      fun piece rest hother => ?_, rfl⟩
    exact hbest piece _
      (leads_between_iff.mpr ⟨hother.first.free, rest, hother.text, hother.second, rfl⟩)
      (List.length_pos_iff.mpr hother.first.nonempty)
  · rintro ⟨first, second, ⟨hrest, hfirst, hsecond⟩, hbest, rfl⟩
    refine ⟨first, leads_between_iff.mpr ⟨hfirst.free, second, hrest, hsecond, rfl⟩,
      List.length_pos_iff.mpr hfirst.nonempty, fun piece u hother henough => ?_⟩
    obtain ⟨hcolon, rest, hsplit, hrest, -⟩ := leads_between_iff.mp hother
    exact hbest piece rest ⟨hsplit, ⟨List.ne_nil_of_length_pos henough, hcolon⟩, hrest⟩

theorem matchWhole?_markThenBetween :
    (markThenBetween start name between other).matchWhole? text = some captures ↔
      ∃ ahead first second, text = start.toList ++ ahead ∧ IsSplit between ahead first second ∧
        (∀ piece rest, IsSplit between ahead piece rest → first.length ≤ piece.length) ∧
        captures = ⟨text, twoSpans name other start.toList.length first.length
          between.toList.length second.length⟩ := by
  rw [matchWhole?_eq_first?, Option.map_eq_some_iff]
  constructor
  · rintro ⟨s, hs, rfl⟩
    obtain ⟨ahead, htext, hs⟩ := first?_literal_eq_some_iff.mp hs
    obtain ⟨first, second, hsplit, hshortest, rfl⟩ := first?_between_eq_some_iff.mp hs
    refine ⟨ahead, first, second, htext, hsplit, hshortest, ?_⟩
    simp [Progress.takeNamed, Progress.takeAll, twoSpans]
  · rintro ⟨ahead, first, second, htext, hsplit, hshortest, rfl⟩
    refine ⟨_, first?_literal_eq_some_iff.mpr ⟨ahead, htext, first?_between_eq_some_iff.mpr
      ⟨first, second, hsplit, hshortest, rfl⟩⟩, ?_⟩
    simp [Progress.takeNamed, Progress.takeAll, twoSpans]

end Pattern

open Pattern

theorem Captures.get_eq {captures : Captures} {name : String} {front piece back : List Char}
    (htext : captures.text = front ++ piece ++ back)
    (hspan : captures.spans.find? (·.name == name) =
      some ⟨name, front.length, front.length + piece.length⟩) :
    captures.get name = String.ofList piece := by
  simp [get, hspan, htext]

theorem Captures.get_twoSpans {name other : String} (hname : name ≠ other)
    {text front first middle second : List Char}
    (htext : text = front ++ first ++ middle ++ second) :
    (Captures.mk text (twoSpans name other front.length first.length middle.length
        second.length)).get name = String.ofList first ∧
      (Captures.mk text (twoSpans name other front.length first.length middle.length
        second.length)).get other = String.ofList second := by
  constructor
  · refine @get_eq _ _ front first (middle ++ second) ?_ ?_
    · rw [htext, List.append_assoc _ middle]
    · simp [twoSpans, hname.symm]
  · refine @get_eq _ _ (front ++ first ++ middle) second [] ?_ ?_
    · rw [htext, List.append_nil]
    · simp [twoSpans]
      omega

end FindingCheck
