import FindingCheck.Proofs.Report.LineKinds
import FindingCheck.Proofs.Report.RoundTrip

/-!
# Texts that are put into normal form

A text that is edited by hand may hold its lines in any order, with comments, a heading that is
wrong and line numbers with zeros in front. To read it and to write what was read puts it into
normal form: reading that gives the same report again. Nothing has to be asked of the names of the
files, for what reading takes as a file never holds the place of an expectation.

## Main statements

* `IsPlaced.not_isPlaced_file` — no place ends inside of the shortest file
* `Report.States.statedOutcome?_render` — the line that is written on a stated outcome states it
* `Report.parse_render_of_parse` — what has been read is written and read as the same report
-/

namespace FindingCheck

section

variable {body file text : List Char} {line : UInt32}

theorem IsPlaced.append (h : IsPlaced body file line text) (more : List Char) :
    IsPlaced (body ++ more) file line (text ++ more) := by
  obtain ⟨hne, digits, hdigits, hvalue, rfl⟩ := h
  exact ⟨hne, digits, hdigits, hvalue, by simp⟩

theorem IsPlaced.length_lt (h : IsPlaced body file line text) : file.length < body.length := by
  obtain ⟨-, digits, -, -, rfl⟩ := h
  simp

/-- A place that ends inside of the file would have made a shorter file. -/
theorem IsPlaced.not_isPlaced_file (h : IsPlaced body file line text)
    (hshortest : ∀ file' line' text', IsPlaced body file' line' text' →
      file.length ≤ file'.length) :
    ∀ front line' after, ¬IsPlaced file front line' after := by
  obtain ⟨-, digits, -, -, rfl⟩ := h
  intro front line' after hinside
  have hle := hshortest front line' _ (hinside.append _)
  have hlt := hinside.length_lt
  omega

end

namespace Report

variable {vocabulary : Vocabulary} {line : String} {outcome : Outcome}

/-- What a line states holds no line feed if the line does not. -/
theorem States.feed_not_mem (h : States vocabulary line outcome) (hfeed : '\n' ∉ line.toList) :
    '\n' ∉ outcome.assertion.file.text.toList ∧
      ∀ expectation, outcome.assertion = .expected expectation →
        '\n' ∉ expectation.text.toList := by
  cases h with
  | expectation hstatus hplace hread =>
    obtain ⟨-, digits, -, -, rfl⟩ := (splitLocation?_eq_some_iff.mp hplace).1
    simp only [hstatus, List.mem_append, List.mem_cons, not_or] at hfeed
    obtain ⟨-, hfile, -, -, -, htext⟩ := hfeed
    refine ⟨by simpa [Assertion.file] using hfile, ?_⟩
    intro expectation hexpectation
    obtain rfl := Assertion.expected.inj hexpectation
    simpa using htext
  | wholeFile hstatus hplace hbody =>
    simp only [hstatus, hbody, List.mem_append, not_or] at hfeed
    refine ⟨by simpa [Assertion.file] using hfeed.2.1, ?_⟩
    intro expectation hexpectation
    cases hexpectation

/-- The line that is written on a stated outcome states the same outcome, however the line was
written that stated it first. -/
theorem States.statedOutcome?_render (h : States vocabulary line outcome)
    (hfeed : '\n' ∉ line.toList) (hbackslash : '\\' ∉ outcome.assertion.file.text.toList)
    (hreturn : outcome.assertion.text.toList.getLast? ≠ some '\r') :
    statedOutcome? vocabulary (String.ofList (dropReturn outcome.render.toList)) =
      some outcome := by
  obtain ⟨hfileFeed, htextFeed⟩ := h.feed_not_mem hfeed
  cases h with
  | @expectation passed body file text number fact hstatus hplace hread =>
    obtain ⟨hplaced, hshortest⟩ := splitLocation?_eq_some_iff.mp hplace
    have hfile : Path.Storable ⟨String.ofList file⟩ := by
      refine ⟨?_, hbackslash, hfileFeed, ?_⟩
      · simpa using hplaced.1
      · rw [String.toList_ofList]
        exact hplaced.not_isPlaced_file hshortest
    have hexpectation : Expectation.Storable vocabulary
        ⟨⟨String.ofList file⟩, number, String.ofList text, fact⟩ :=
      ⟨htextFeed _ rfl, hreturn, hread⟩
    refine Eq.trans (Report.statedOutcome?_render hfile) ?_
    rw [Outcome.readBack?, Assertion.readBack?, hexpectation.readBack?_eq]
    rfl
  | @wholeFile passed body file hstatus hplace hbody =>
    have hnone : ∀ front number after,
        ¬IsPlaced (String.ofList file).toList front number after := by
      intro front number after hplaced
      rw [String.toList_ofList] at hplaced
      rw [splitLocation?_eq_none_iff, hbody] at hplace
      exact hplace front number _ (hplaced.append _)
    have hassertion : statedAssertion? vocabulary
        (dropReturn (Assertion.noUnexpected ⟨String.ofList file⟩).render.toList) =
          some (.noUnexpected ⟨String.ofList file⟩) :=
      statedAssertion?_noUnexpected hbackslash hnone
    rw [statedOutcome?_dropReturn_render, hassertion]
    rfl

/-- What has been read is written as a text that is read as the same report, whatever the first
text looked like. A backslash in a file would be written as a slash, and a carriage return at the
end of a line would be lost. -/
theorem parse_render_of_parse {text : String} {report : Report}
    (h : parse vocabulary text = .ok report)
    (hbackslash : ∀ outcome ∈ report.outcomes, '\\' ∉ outcome.assertion.file.text.toList)
    (hreturn : ∀ outcome ∈ report.outcomes,
      outcome.assertion.text.toList.getLast? ≠ some '\r') :
    parse vocabulary (report.render false) = .ok report := by
  obtain ⟨outcomes, hstated, rfl⟩ := parse_eq_ok_iff.mp h
  -- each outcome was stated by a line of the text
  have hstates : ∀ outcome ∈ (ofOutcomes outcomes).outcomes,
      ∃ line, '\n' ∉ line.toList ∧ States vocabulary line outcome := by
    intro outcome houtcome
    have hmem : some outcome ∈ outcomes.map some :=
      List.mem_map_of_mem ((perm_sortOn _ _).mem_iff.mp houtcome)
    rw [← hstated] at hmem
    obtain ⟨line, hline, hsays⟩ := List.mem_map.mp hmem
    exact ⟨line, not_mem_of_mem_lines (List.mem_of_mem_filter hline), states_iff.mpr hsays⟩
  have hfeed : ∀ outcome ∈ (ofOutcomes outcomes).outcomes,
      ∀ line ∈ outcome.renderLines false, '\n' ∉ line.toList := by
    intro outcome houtcome
    obtain ⟨line, hline, hsays⟩ := hstates outcome houtcome
    obtain ⟨hfile, htext⟩ := hsays.feed_not_mem hline
    exact feed_not_mem_renderLines hfile htext fun hdetails => by cases hdetails
  refine parse_eq_ok_iff.mpr ⟨_, ?_, (ofOutcomes outcomes).ofOutcomes_outcomes.symm⟩
  rw [statements_render hfeed, List.map_map]
  refine List.map_congr_left fun outcome houtcome => ?_
  obtain ⟨line, hline, hsays⟩ := hstates outcome houtcome
  rw [Function.comp_apply]
  exact hsays.statedOutcome?_render hline (hbackslash outcome houtcome) (hreturn outcome houtcome)

end Report

/-- A text with a wrong heading, lines out of order, zeros in front of a line number, an assertion
that stands twice, a place in the name of a file and a file without a name. -/
def editedReport : String :=
  "# all is well\nPASS: : no unexpected facts\n\nFAIL: b:9/x:007 jspecify_nullness_mismatch\r\n" ++
    "INFO: gone\nPASS: b:9/x:7 jspecify_nullness_mismatch\n"

theorem parse_render_of_parse_editedReport :
    ∃ report, Report.parse .standard editedReport = .ok report ∧
      Report.parse .standard (report.render false) = .ok report := by
  have hstatements : Report.statements editedReport =
      ["PASS: : no unexpected facts", "FAIL: b:9/x:007 jspecify_nullness_mismatch",
        "PASS: b:9/x:7 jspecify_nullness_mismatch"] := by decide +kernel
  -- what is asked of an outcome is asked of what a line states
  let fits (outcome : Outcome) : Bool :=
    !outcome.assertion.file.text.toList.contains '\\' &&
      outcome.assertion.text.toList.getLast? != some '\r'
  have hall : ∀ line ∈ Report.statements editedReport,
      (Report.statedOutcome? .standard line).any fits = true := by
    rw [hstatements]
    decide +kernel
  have hstates : ∀ line ∈ Report.statements editedReport,
      Report.statedOutcome? .standard line ≠ none := by
    intro line hline hnone
    simpa [hnone] using hall line hline
  have hparse := Report.parse_eq_ok_iff_filterMap.mpr ⟨hstates, rfl⟩
  have hfits : ∀ outcome ∈ (Report.ofOutcomes
      ((Report.statements editedReport).filterMap (Report.statedOutcome? .standard))).outcomes,
      fits outcome = true := by
    intro outcome houtcome
    obtain ⟨line, hline, hstated⟩ :=
      List.mem_filterMap.mp ((perm_sortOn _ _).mem_iff.mp houtcome)
    simpa [hstated] using hall line hline
  refine ⟨_, hparse, Report.parse_render_of_parse hparse ?_ ?_⟩
  · intro outcome houtcome
    simpa using (Bool.and_eq_true_iff.mp (hfits outcome houtcome)).1
  · intro outcome houtcome
    simpa using (Bool.and_eq_true_iff.mp (hfits outcome houtcome)).2

end FindingCheck
