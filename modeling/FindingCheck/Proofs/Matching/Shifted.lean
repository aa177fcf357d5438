import FindingCheck.Proofs.Reading.Shifted

/-!
# The report on a text behind lines of code

Code in front of a text moves the lines of its expectations. Where the findings move along, the
report says what it said, on lines that have moved as far.

## Main statements

* `outcomes_matchFile_shifted` — the report on what was read in the text behind the code
-/

namespace FindingCheck

/-- Shifting a file. Let lines of code stand in front of a text, so that no line becomes too
large a number. Then the text is well formed there if and only if it is by itself. The findings
shifted along, the report on it has the same outcomes in the same order, with shifted lines in
assertions and leftovers, and the tests have the same names on shifted lines. -/
theorem outcomes_matchFile_shifted (vocabulary : Vocabulary) (file : Path) {front text : String}
    {diagnostics : List Diagnostic} (hfront : front = "" ∨ front.toList.getLast? = some '\n')
    (hcode : ∀ line ∈ lines front, directiveBody? line = none)
    (hlines : ∀ i < (lines text).length, CanShift (lines front).length (lineNumber i))
    (hdiagnostics : ∀ diagnostic ∈ diagnostics, (diagnostic.file == file) = true →
      CanShift (lines front).length diagnostic.line) :
    ((∃ behind, readAnnotations vocabulary file (front ++ text) = .ok behind) ↔
      ∃ annotations, readAnnotations vocabulary file text = .ok annotations) ∧
    ∀ annotations behind, readAnnotations vocabulary file text = .ok annotations →
      readAnnotations vocabulary file (front ++ text) = .ok behind →
      (matchFile file behind.expectations
        (diagnostics.map (Diagnostic.renumber (shifted (lines front).length)))).outcomes =
        (matchFile file annotations.expectations diagnostics).outcomes.map
          (Outcome.renumber (shifted (lines front).length)) ∧
      behind.names =
        annotations.names.map fun entry => (shifted (lines front).length entry.1, entry.2) := by
  have happend := readAnnotations_append hfront hcode hlines vocabulary file
  refine ⟨?_, fun annotations behind hread hbehind => ?_⟩
  · rw [happend]
    cases readAnnotations vocabulary file text with
    | error defects => simp [Except.mapError, Except.map]
    | ok annotations => simp [Except.mapError, Except.map]
  · rw [happend, hread] at hbehind
    obtain rfl : annotations.renumber (shifted (lines front).length) = behind :=
      Except.ok.inj hbehind
    refine ⟨?_, rfl⟩
    refine outcomes_matchFile_renumber (keepsOrder_shifted _) (Diagnostic.renumbers _)
      (fun expectation hexpectation => ?_) hdiagnostics
    obtain ⟨i, hi, hline⟩ := line_of_mem_readAnnotations hread hexpectation
    rw [hline]
    exact hlines i hi

/-- A line of code and an empty one, with different ends. -/
def importLines : String :=
  "import a.B;\r\n\n"

/-- A statement of which a mismatch is expected, with a name. -/
def namedStatement : String :=
  "// test:name:first\n// jspecify_nullness_mismatch\nfoo();"

/-- The mismatch, one that nothing expects, and one in the last line of another file. -/
def statementDiagnostics : List Diagnostic :=
  [⟨⟨"A.java"⟩, 3, "argument", .error, "", []⟩,
    ⟨⟨"A.java"⟩, 4, "argument", .error, "", []⟩,
    ⟨⟨"B.java"⟩, 4294967295, "argument", .error, "", []⟩]

/-- What the directives of `namedStatement` say. -/
def namedBlock : DecoratedBlock where
  name := some ("first", ⟨1, "test:name:first"⟩)
  expectations := [("jspecify_nullness_mismatch", .nullnessMismatch)]
  decorated := 3

theorem readAnnotations_namedStatement :
    ∃ annotations, readAnnotations .standard ⟨"A.java"⟩ namedStatement = .ok annotations ∧
      annotations.names = [(3, "first")] := by
  have hblocks : (Layout.ofText namedStatement).runs.map (DecoratedBlock.ofRun .standard) =
      [namedBlock] := by
    decide +kernel
  have htrailing : (Layout.ofText namedStatement).trailing = [] := by decide +kernel
  have htest : namedBlock.test? = some ⟨"first", 1, 3⟩ := rfl
  have hdefects : namedBlock.defects ⟨"A.java"⟩ = [] := rfl
  refine ⟨_, readAnnotations_eq_ok_iff.mpr ⟨?_, rfl⟩, ?_⟩
  · simp [Reading.ofText, Reading.ofLayout, hblocks, htrailing, htest, hdefects,
      Block.ofDirectives, NamedTest.clashes, NamedTest.distinctNames, NamedTest.clash?]
  · simp [Reading.ofText, Reading.ofLayout, hblocks, htest]

theorem outcomes_matchFile_shifted_namedStatement :
    ∃ annotations behind, readAnnotations .standard ⟨"A.java"⟩ namedStatement = .ok annotations ∧
      readAnnotations .standard ⟨"A.java"⟩ (importLines ++ namedStatement) = .ok behind ∧
      behind.names = [(5, "first")] ∧
      (matchFile ⟨"A.java"⟩ behind.expectations
        (statementDiagnostics.map (Diagnostic.renumber (shifted 2)))).outcomes =
        (matchFile ⟨"A.java"⟩ annotations.expectations statementDiagnostics).outcomes.map
          (Outcome.renumber (shifted 2)) := by
  have himport : (lines importLines).length = 2 := by decide +kernel
  have hstatement : (lines namedStatement).length = 3 := by decide +kernel
  obtain ⟨hread, hreport⟩ := @outcomes_matchFile_shifted .standard ⟨"A.java"⟩
    importLines namedStatement statementDiagnostics (.inr (by decide +kernel)) (by decide +kernel)
    (by rw [himport, hstatement]; unfold CanShift; decide +kernel)
    (by rw [himport]; unfold CanShift; decide +kernel)
  obtain ⟨annotations, hannotations, hnames⟩ := readAnnotations_namedStatement
  obtain ⟨behind, hbehind⟩ := hread.mpr ⟨annotations, hannotations⟩
  obtain ⟨houtcomes, hshifted⟩ := hreport annotations behind hannotations hbehind
  rw [himport] at houtcomes hshifted
  rw [hnames] at hshifted
  exact ⟨annotations, behind, hannotations, hbehind, hshifted, houtcomes⟩

end FindingCheck
