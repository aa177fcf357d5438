import FindingCheck.Proofs.Reading.Expectations
import FindingCheck.Proofs.Report.Place
import Mathlib.Data.List.Basic

/-!
# What the body of a directive says

A body that starts with the mark of naming names a test, and no grammar is asked about it. Any other
body is what the vocabulary reads in it.

## Main definitions

* `IsNaming`, `givenName` — bodies that name a test, and the name
* `IsNumeral` — texts that read as a number
* `Vocabulary.expected?` — the fact that a body declares

## Main statements

* `Vocabulary.meaning_eq` — the meaning of a body by its start
* `isTestName_iff` — the names that a test can have
-/

namespace FindingCheck

/-- A body names a test: it starts with the mark of naming. -/
def IsNaming (body : String) : Prop :=
  testNameMark.toList <+: body.toList

instance (body : String) : Decidable (IsNaming body) :=
  inferInstanceAs (Decidable (_ <+: _))

/-- The name that a body gives: what follows the mark, without the blanks at both ends. -/
def givenName (body : String) : String :=
  String.ofList (trim (body.toList.drop testNameMark.toList.length))

/-- A text reads as a number: ASCII digits, one at least, with one sign or none in front. -/
def IsNumeral (text : List Char) : Prop :=
  ∃ sign digits, (sign = [] ∨ sign = ['+'] ∨ sign = ['-']) ∧ digits ≠ [] ∧
    (∀ c ∈ digits, c.isDigit = true) ∧ text = sign ++ digits

theorem isInteger_iff {text : List Char} : isInteger text = true ↔ IsNumeral text := by
  constructor
  · intro h
    unfold isInteger at h
    split at h
    · next digits =>
      exact ⟨['+'], digits, .inr (.inl rfl), (isDigits_iff.mp h).1, (isDigits_iff.mp h).2, rfl⟩
    · next digits =>
      exact ⟨['-'], digits, .inr (.inr rfl), (isDigits_iff.mp h).1, (isDigits_iff.mp h).2, rfl⟩
    · exact ⟨[], text, .inl rfl, (isDigits_iff.mp h).1, (isDigits_iff.mp h).2, rfl⟩
  · rintro ⟨sign, digits, rfl | rfl | rfl, hne, hall, rfl⟩
    · -- a digit is no sign, so nothing is taken off
      unfold isInteger
      split
      · exact absurd (hall '+' (List.mem_cons_self ..)) (by decide)
      · exact absurd (hall '-' (List.mem_cons_self ..)) (by decide)
      · exact isDigits_iff.mpr ⟨hne, hall⟩
    · exact isDigits_iff.mpr ⟨hne, hall⟩
    · exact isDigits_iff.mpr ⟨hne, hall⟩

/-- The names that a test can have: not empty, without a colon, and no number. -/
theorem isTestName_iff {name : String} :
    isTestName name = true ↔ name ≠ "" ∧ ':' ∉ name.toList ∧ ¬IsNumeral name.toList := by
  rw [← isInteger_iff, isTestName]
  simp [and_assoc, and_comm]

namespace Vocabulary

/-- The fact that a body declares, unless it names a test. -/
def expected? (vocabulary : Vocabulary) (body : String) : Option Fact :=
  if IsNaming body then none else vocabulary.read? body

theorem isPrefixOf?_of_isNaming {body : String} (h : IsNaming body) :
    testNameMark.toList.isPrefixOf? body.toList =
      some (body.toList.drop testNameMark.toList.length) := by
  obtain ⟨rest, hrest⟩ := h
  rw [List.isPrefixOf?_eq_some_iff_append_eq, ← hrest, List.drop_left]

theorem isPrefixOf?_of_not_isNaming {body : String} (h : ¬IsNaming body) :
    testNameMark.toList.isPrefixOf? body.toList = none := by
  refine Option.eq_none_iff_forall_ne_some.mpr fun rest hrest => h ⟨rest, ?_⟩
  exact List.isPrefixOf?_eq_some_iff_append_eq.mp hrest

/-- What a body says: a name after the mark, else what is read in it. -/
theorem meaning_eq (vocabulary : Vocabulary) (body : String) :
    vocabulary.meaning body =
      if IsNaming body then .testName (givenName body)
      else (vocabulary.read? body).elim .unknown .expectation := by
  by_cases hnaming : IsNaming body
  · rw [meaning, isPrefixOf?_of_isNaming hnaming, if_pos hnaming]
    rfl
  · rw [meaning, isPrefixOf?_of_not_isNaming hnaming, if_neg hnaming]
    cases vocabulary.read? body <;> rfl

theorem declared?_eq (vocabulary : Vocabulary) (directive : Directive) :
    vocabulary.declared? directive =
      (vocabulary.expected? directive.body).map (directive.body, ·) := by
  rw [declared?, meaning_eq, expected?]
  by_cases hnaming : IsNaming directive.body
  · rw [if_pos hnaming, if_pos hnaming]
    rfl
  · rw [if_neg hnaming, if_neg hnaming]
    cases vocabulary.read? directive.body <;> rfl

end Vocabulary

end FindingCheck
