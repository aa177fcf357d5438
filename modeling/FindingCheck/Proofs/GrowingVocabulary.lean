import FindingCheck.Proofs.Reading.Vocabulary
import FindingCheck.Proofs.Report.Statements

/-!
# Growing vocabularies

A vocabulary that grows says more and takes nothing back: sources and reports that were well formed
are read as before, and those that become well formed hold a text in which nothing was read before.

## Main definitions

* `Vocabulary.registerAll` — a vocabulary with more grammars
* `Report.expectationTexts` — the texts of the expectations of a stored report

## Main statements

* `Report.parse_congr` — a report is read with a vocabulary by asking it about these texts
* `registerAll_conservative` — what more grammars change of sources and reports
-/

namespace FindingCheck

/-! ### What more grammars read -/

namespace Vocabulary

/-- Adds grammars one after the other. -/
def registerAll (vocabulary : Vocabulary) (grammars : List Grammar) : Vocabulary :=
  grammars.foldl register vocabulary

variable {vocabulary : Vocabulary} (grammars : List Grammar) {body : String}

theorem read?_registerAll :
    (vocabulary.registerAll grammars).read? body =
      (vocabulary.read? body).or (grammars.findSome? (·.read? body)) := by
  induction grammars generalizing vocabulary with
  | nil => exact Option.or_none.symm
  | cons grammar grammars ih =>
    show ((vocabulary.register grammar).registerAll grammars).read? body = _
    rw [ih, read?_register, Option.or_assoc, List.findSome?_cons]
    cases grammar.read? body <;> rfl

theorem read?_registerAll_of_ne_none (h : vocabulary.read? body ≠ none) :
    (vocabulary.registerAll grammars).read? body = vocabulary.read? body := by
  obtain ⟨fact, hfact⟩ := Option.ne_none_iff_exists'.mp h
  rw [read?_registerAll, hfact, Option.some_or]

theorem meaning_eq_unknown_iff :
    vocabulary.meaning body = .unknown ↔
      testNameMark.toList.isPrefixOf? body.toList = none ∧ vocabulary.read? body = none := by
  unfold meaning
  cases testNameMark.toList.isPrefixOf? body.toList with
  | some name => simp
  | none => cases vocabulary.read? body <;> simp

/-- A directive that said something says it still. -/
theorem meaning_registerAll_of_ne_unknown (h : vocabulary.meaning body ≠ .unknown) :
    (vocabulary.registerAll grammars).meaning body = vocabulary.meaning body := by
  cases hname : testNameMark.toList.isPrefixOf? body.toList with
  | some name => simp only [meaning, hname]
  | none =>
    have hread : vocabulary.read? body ≠ none := fun hnone =>
      h (meaning_eq_unknown_iff.mpr ⟨hname, hnone⟩)
    simp only [meaning, hname, read?_registerAll_of_ne_none grammars hread]

end Vocabulary

/-! ### What reports ask of a vocabulary -/

namespace Report

/-- The text of the expectation that a line states an outcome of, if it is one of an expectation. -/
def expectationText? (line : String) : Option String :=
  (splitStatus? line.toList).bind fun status =>
    (splitLocation? status.2).map fun place => String.ofList place.2.2

/-- The texts of the expectations among the lines that are not skipped. -/
def expectationTexts (text : String) : List String :=
  (statements text).filterMap expectationText?

variable {vocabulary other : Vocabulary} {line text body : String}

theorem statedOutcome?_congr
    (h : ∀ body, expectationText? line = some body → vocabulary.read? body = other.read? body) :
    statedOutcome? vocabulary line = statedOutcome? other line := by
  unfold statedOutcome? statedAssertion?
  cases hstatus : splitStatus? line.toList with
  | none => rfl
  | some status =>
    dsimp only [Option.bind_some]
    cases hplace : splitLocation? status.2 with
    | none => rfl
    | some place =>
      have hbody : expectationText? line = some (String.ofList place.2.2) := by
        simp [expectationText?, hstatus, hplace]
      dsimp only
      rw [h _ hbody]

/-- Two vocabularies read a report the same if they agree on the texts of its expectations. -/
theorem parse_congr
    (h : ∀ body ∈ expectationTexts text, vocabulary.read? body = other.read? body)
    {report : Report} : parse vocabulary text = .ok report ↔ parse other text = .ok report := by
  have hstated : (statements text).map (statedOutcome? vocabulary) =
      (statements text).map (statedOutcome? other) :=
    List.map_congr_left fun line hline => statedOutcome?_congr fun body hbody =>
      h body (List.mem_filterMap.mpr ⟨line, hline, hbody⟩)
  rw [parse_eq_ok_iff, parse_eq_ok_iff, hstated]

theorem statedOutcome?_eq_none (hbody : expectationText? line = some body)
    (hread : vocabulary.read? body = none) : statedOutcome? vocabulary line = none := by
  obtain ⟨status, hstatus, hplaced⟩ := Option.bind_eq_some_iff.mp hbody
  obtain ⟨place, hplace, rfl⟩ := Option.map_eq_some_iff.mp hplaced
  simp [statedOutcome?, statedAssertion?, hstatus, hplace, hread]

/-- Every text of an expectation is read in a text that is a report. -/
theorem read?_ne_none_of_parse {report : Report} (hparse : parse vocabulary text = .ok report)
    (hbody : body ∈ expectationTexts text) : vocabulary.read? body ≠ none := by
  intro hread
  obtain ⟨line, hline, hline_body⟩ := List.mem_filterMap.mp hbody
  obtain ⟨outcomes, hstated, -⟩ := parse_eq_ok_iff.mp hparse
  have hmem : statedOutcome? vocabulary line ∈ outcomes.map some := by
    rw [← hstated]
    exact List.mem_map_of_mem hline
  rw [statedOutcome?_eq_none hline_body hread] at hmem
  obtain ⟨outcome, -, hnone⟩ := List.mem_map.mp hmem
  cases hnone

end Report

/-! ### Sources and reports -/

/-- More grammars are a conservative extension. A source or a report that was well formed is
read as before. One that becomes well formed holds a directive, or the text of an expectation, in
which nothing was read before and something is read now. -/
theorem registerAll_conservative (vocabulary : Vocabulary) (grammars : List Grammar) :
    (∀ file text annotations, readAnnotations vocabulary file text = .ok annotations →
      readAnnotations (vocabulary.registerAll grammars) file text = .ok annotations) ∧
    (∀ text report, Report.parse vocabulary text = .ok report →
      Report.parse (vocabulary.registerAll grammars) text = .ok report) ∧
    (∀ file text annotations defects,
      readAnnotations (vocabulary.registerAll grammars) file text = .ok annotations →
      readAnnotations vocabulary file text = .error defects →
      ∃ body ∈ directiveBodies text, vocabulary.meaning body = .unknown ∧
        vocabulary.read? body = none ∧
        ((vocabulary.registerAll grammars).read? body).isSome = true) ∧
    ∀ text report malformation,
      Report.parse (vocabulary.registerAll grammars) text = .ok report →
      Report.parse vocabulary text = .error malformation →
      ∃ body ∈ Report.expectationTexts text, vocabulary.read? body = none ∧
        ((vocabulary.registerAll grammars).read? body).isSome = true := by
  refine ⟨fun file text annotations hread => ?_, fun text report hparse => ?_,
    fun file text annotations defects hgrown hread => ?_,
    fun text report malformation hgrown hparse => ?_⟩
  · rw [← hread]
    exact readAnnotations_congr file fun body hbody =>
      Vocabulary.meaning_registerAll_of_ne_unknown grammars
        (meaning_ne_unknown_of_readAnnotations hread hbody)
  · refine (Report.parse_congr fun body hbody => ?_).mpr hparse
    exact Vocabulary.read?_registerAll_of_ne_none grammars
      (Report.read?_ne_none_of_parse hparse hbody)
  · by_cases hknown : ∀ body ∈ directiveBodies text, vocabulary.meaning body ≠ .unknown
    · -- then the text reads the same with both
      rw [readAnnotations_congr file fun body hbody =>
        Vocabulary.meaning_registerAll_of_ne_unknown grammars (hknown body hbody), hread] at hgrown
      cases hgrown
    · obtain ⟨body, hbody, hunknown⟩ :
          ∃ body ∈ directiveBodies text, vocabulary.meaning body = .unknown := by
        simpa using hknown
      obtain ⟨hname, hnone⟩ := Vocabulary.meaning_eq_unknown_iff.mp hunknown
      refine ⟨body, hbody, hunknown, hnone, Option.isSome_iff_ne_none.mpr fun hstill => ?_⟩
      exact meaning_ne_unknown_of_readAnnotations hgrown hbody
        (Vocabulary.meaning_eq_unknown_iff.mpr ⟨hname, hstill⟩)
  · by_cases hknown : ∀ body ∈ Report.expectationTexts text, vocabulary.read? body ≠ none
    · rw [Report.parse_congr fun body hbody =>
        Vocabulary.read?_registerAll_of_ne_none grammars (hknown body hbody), hparse] at hgrown
      cases hgrown
    · obtain ⟨body, hbody, hnone⟩ :
          ∃ body ∈ Report.expectationTexts text, vocabulary.read? body = none := by
        simpa using hknown
      exact ⟨body, hbody, hnone,
        Option.isSome_iff_ne_none.mpr (Report.read?_ne_none_of_parse hgrown hbody)⟩

/-- A form for bodies that are a certain word. -/
def wordForm (word : String) : List Grammar :=
  (Grammar.compile? word fun _ => .nullnessMismatch).toList

def doneVocabulary : Vocabulary :=
  ⟨wordForm "done"⟩

/-- A source with the word as a directive. -/
def wordSource (word : String) : String :=
  "// " ++ word ++ "\nfoo();"

/-- A report with the word as the text of an expectation. -/
def wordReport (word : String) : String :=
  "PASS: A.java:2 " ++ word

theorem registerAll_conservative_wordForm :
    (∃ annotations,
      readAnnotations doneVocabulary ⟨"A.java"⟩ (wordSource "done") = .ok annotations ∧
      readAnnotations (doneVocabulary.registerAll (wordForm "todo")) ⟨"A.java"⟩
        (wordSource "done") = .ok annotations) ∧
    (∃ report, Report.parse doneVocabulary (wordReport "done") = .ok report ∧
      Report.parse (doneVocabulary.registerAll (wordForm "todo")) (wordReport "done") =
        .ok report) ∧
    (∃ body ∈ directiveBodies (wordSource "todo"), doneVocabulary.meaning body = .unknown ∧
      doneVocabulary.read? body = none ∧
      ((doneVocabulary.registerAll (wordForm "todo")).read? body).isSome = true) ∧
    ∃ body ∈ Report.expectationTexts (wordReport "todo"), doneVocabulary.read? body = none ∧
      ((doneVocabulary.registerAll (wordForm "todo")).read? body).isSome = true := by
  obtain ⟨hsource, hreport, hnewSource, hnewReport⟩ :=
    registerAll_conservative doneVocabulary (wordForm "todo")
  refine ⟨?_, ?_, ?_, ?_⟩
  · obtain ⟨annotations, hread⟩ : ∃ annotations,
        readAnnotations doneVocabulary ⟨"A.java"⟩ (wordSource "done") = .ok annotations :=
      exists_eq_ok_iff.mpr (by decide +kernel)
    exact ⟨annotations, hread, hsource _ _ _ hread⟩
  · obtain ⟨report, hparse⟩ : ∃ report,
        Report.parse doneVocabulary (wordReport "done") = .ok report :=
      exists_eq_ok_iff.mpr (by decide +kernel)
    exact ⟨report, hparse, hreport _ _ hparse⟩
  · obtain ⟨annotations, hgrown⟩ : ∃ annotations,
        readAnnotations (doneVocabulary.registerAll (wordForm "todo")) ⟨"A.java"⟩
          (wordSource "todo") = .ok annotations :=
      exists_eq_ok_iff.mpr (by decide +kernel)
    obtain ⟨defects, hread⟩ : ∃ defects,
        readAnnotations doneVocabulary ⟨"A.java"⟩ (wordSource "todo") = .error defects :=
      exists_eq_error_iff.mpr (by decide +kernel)
    exact hnewSource _ _ _ _ hgrown hread
  · obtain ⟨report, hgrown⟩ : ∃ report,
        Report.parse (doneVocabulary.registerAll (wordForm "todo")) (wordReport "todo") =
          .ok report :=
      exists_eq_ok_iff.mpr (by decide +kernel)
    obtain ⟨malformation, hparse⟩ : ∃ malformation,
        Report.parse doneVocabulary (wordReport "todo") = .error malformation :=
      exists_eq_error_iff.mpr (by decide +kernel)
    exact hnewReport _ _ _ hgrown hparse

end FindingCheck
