import FindingCheck.Assertion

/-!
# Order and equality of assertions

Paths, expectations and assertions are compared by what counts of them, so two that are spelled
differently can be equal. Order and equality agree all the same: what compares as equal is equal.

## Main statements

* `Expectation.compare_eq_iff`, `Assertion.compare_eq_iff` — comparing as equal is being equal
* `Assertion.compare_expected_noUnexpected`, `Assertion.compare_expected` — the order within a file
* `Assertion.eq_of_beq` — equal assertions whose files are spelled alike are the same
-/

namespace FindingCheck

instance : Std.LawfulBEqOrd Path where
  compare_eq_iff_beq := Path.compare_eq_iff

instance : EquivBEq Path :=
  @Std.LawfulBEqCmp.equivBEq Path _ compare _ _

namespace Expectation

theorem beq_iff {a b : Expectation} :
    (a == b) = true ↔ (a.file == b.file) = true ∧ a.line = b.line ∧ a.text = b.text ∧
      a.fact = b.fact := by
  show (a.line == b.line && a.text == b.text && a.fact == b.fact && a.file == b.file) = true ↔ _
  simp only [Bool.and_eq_true, beq_iff_eq]
  constructor
  · rintro ⟨⟨⟨hline, htext⟩, hfact⟩, hfile⟩
    exact ⟨hfile, hline, htext, hfact⟩
  · rintro ⟨hfile, hline, htext, hfact⟩
    exact ⟨⟨⟨hline, htext⟩, hfact⟩, hfile⟩

theorem compare_eq_iff {a b : Expectation} : compare a b = .eq ↔ (a == b) = true := by
  show ((compare a.file b.file).then ((compare a.line b.line).then
    ((compare a.text b.text).then (compare a.fact b.fact)))) = .eq ↔ _
  rw [Ordering.then_eq_eq, Ordering.then_eq_eq, Ordering.then_eq_eq, beq_iff,
    Path.compare_eq_iff, Std.LawfulEqOrd.compare_eq_iff_eq, Std.LawfulEqOrd.compare_eq_iff_eq,
    Std.LawfulEqOrd.compare_eq_iff_eq]

instance : Std.LawfulBEqOrd Expectation where
  compare_eq_iff_beq := compare_eq_iff

end Expectation

namespace Assertion

theorem beq_expected {a b : Expectation} : (expected a == expected b) = (a == b) :=
  rfl

theorem beq_noUnexpected {a b : Path} : (noUnexpected a == noUnexpected b) = (a == b) :=
  rfl

/-- Two assertions compare as equal exactly when they are equal. -/
theorem compare_eq_iff {a b : Assertion} : compare a b = .eq ↔ (a == b) = true := by
  show ((compare a.file b.file).then ((compare a.isWholeFile b.isWholeFile).then
    (compare a.expectation? b.expectation?))) = .eq ↔ _
  rw [Ordering.then_eq_eq, Ordering.then_eq_eq]
  cases a with
  | expected a =>
    cases b with
    | expected b =>
      show compare a.file b.file = .eq ∧ _ ∧ compare a b = .eq ↔ _
      rw [Expectation.compare_eq_iff, beq_expected]
      constructor
      · exact fun h => h.2.2
      · intro h
        exact ⟨Path.compare_eq_iff.mpr (Expectation.beq_iff.mp h).1, rfl, h⟩
    | noUnexpected b =>
      constructor
      · rintro ⟨-, hkind, -⟩
        cases hkind
      · intro h
        cases h
  | noUnexpected a =>
    cases b with
    | expected b =>
      constructor
      · rintro ⟨-, hkind, -⟩
        cases hkind
      · intro h
        cases h
    | noUnexpected b =>
      show compare a b = .eq ∧ _ ∧ _ ↔ _
      rw [Path.compare_eq_iff, beq_noUnexpected]
      exact ⟨fun h => h.1, fun h => ⟨h, rfl, rfl⟩⟩

instance : Std.LawfulBEqOrd Assertion where
  compare_eq_iff_beq := compare_eq_iff

theorem file_beq_of_beq {a b : Assertion} (h : (a == b) = true) : (a.file == b.file) = true :=
  Path.compare_eq_iff.mp (Ordering.then_eq_eq.mp (compare_eq_iff.mpr h)).1

theorem isWholeFile_eq_of_beq {a b : Assertion} (h : (a == b) = true) :
    a.isWholeFile = b.isWholeFile := by
  cases a with
  | expected a =>
    cases b with
    | expected b => rfl
    | noUnexpected b => cases h
  | noUnexpected a =>
    cases b with
    | expected b => cases h
    | noUnexpected b => rfl

/-! ### Within a file -/

/-- An expectation for a file comes before the assertion on the whole file. -/
theorem compare_expected_noUnexpected {expectation : Expectation} {file : Path}
    (h : (expectation.file == file) = true) :
    compare (expected expectation) (noUnexpected file) = .lt := by
  show (compare expectation.file file).then _ = .lt
  rw [Path.compare_eq_iff.mpr h]
  rfl

/-- Expectations for a file compare by line, text and fact. -/
theorem compare_expected {a b : Expectation} (h : (a.file == b.file) = true) :
    compare (expected a) (expected b) =
      (compare a.line b.line).then ((compare a.text b.text).then (compare a.fact b.fact)) := by
  show (compare a.file b.file).then ((compare a.file b.file).then _) = _
  rw [Path.compare_eq_iff.mpr h]
  rfl

/-- Behind the assertion on a whole file, there is no expectation for the file. -/
theorem isWholeFile_of_isLE {a b : Assertion} (hfile : (a.file == b.file) = true)
    (hle : (compare a b).isLE = true) (ha : a.isWholeFile = true) : b.isWholeFile = true := by
  cases a with
  | expected a => cases ha
  | noUnexpected a =>
    cases b with
    | expected b =>
      have hlt : compare (expected b) (noUnexpected a) = .lt :=
        compare_expected_noUnexpected (BEq.symm hfile)
      rw [Std.OrientedCmp.gt_iff_lt.mpr hlt] at hle
      cases hle
    | noUnexpected b => rfl

/-! ### Spelling -/

/-- Equal assertions whose files are spelled alike are the same. -/
theorem eq_of_beq {a b : Assertion} (h : (a == b) = true) (hfile : a.file = b.file) : a = b := by
  cases a with
  | expected a =>
    cases b with
    | expected b =>
      obtain ⟨-, hline, htext, hfact⟩ := Expectation.beq_iff.mp h
      cases a
      cases b
      cases hfile
      cases hline
      cases htext
      cases hfact
      rfl
    | noUnexpected b => cases h
  | noUnexpected a =>
    cases b with
    | expected b => cases h
    | noUnexpected b => exact congrArg noUnexpected hfile

end Assertion

end FindingCheck
