import FindingCheck.Proofs.Report.ReadBack

/-!
# Storing a report and reading it

A report is *storable* when everything in it survives being printed on one line: the files can be
told from what follows them, and the texts end in no carriage return and are read as the facts that
they stand for. Reading a stored report gives it back without its leftovers.

## Main definitions

* `Expectation.Storable`, `Report.Storable` — what can be stored
* `Outcome.withoutLeftovers`, `Report.withoutLeftovers` — what is stored

## Main statements

* `Report.render_withoutLeftovers` — what is stored determines the text without details
* `Report.parse_render` — a storable report comes back, whether or not its details are printed
-/

namespace FindingCheck

/-- The text fits on a line, keeps its end there, and is read as the fact. -/
structure Expectation.Storable (vocabulary : Vocabulary) (expectation : Expectation) : Prop where
  no_feed : '\n' ∉ expectation.text.toList
  no_return : expectation.text.toList.getLast? ≠ some '\r'
  reads : vocabulary.read? expectation.text = some expectation.fact

/-- Every file and every expectation of the report can be stored. -/
structure Report.Storable (vocabulary : Vocabulary) (report : Report) : Prop where
  files : ∀ outcome ∈ report.outcomes, outcome.assertion.file.Storable
  expectations : ∀ outcome ∈ report.outcomes, ∀ expectation,
    outcome.assertion = .expected expectation → expectation.Storable vocabulary

/-- The outcome as far as it is stored. -/
def Outcome.withoutLeftovers (outcome : Outcome) : Outcome :=
  { outcome with leftovers := [] }

/-- The report as far as it is stored. -/
def Report.withoutLeftovers (report : Report) : Report where
  outcomes := report.outcomes.map Outcome.withoutLeftovers
  ascends := report.ascends.map _ fun _ _ h => h

theorem Report.heading_congr {a b : Report} (hpasses : a.passes = b.passes)
    (htotal : a.total = b.total) : a.heading = b.heading := by
  rw [heading, heading, fails, fails, score?, score?, hpasses, htotal]

/-- The text without details is that of what is stored. -/
theorem Report.render_withoutLeftovers (report : Report) :
    report.withoutLeftovers.render false = report.render false := by
  have hpasses : report.withoutLeftovers.passes = report.passes := by
    rw [passes, withoutLeftovers, List.countP_map]
    rfl
  have htotal : report.withoutLeftovers.total = report.total := by
    rw [total, withoutLeftovers, List.length_map]
    rfl
  have hlines : report.withoutLeftovers.outcomes.flatMap (·.renderLines false) =
      report.outcomes.flatMap (·.renderLines false) := by
    rw [withoutLeftovers, List.flatMap_map]
    rfl
  rw [render, render, heading_congr hpasses htotal, hlines]

/-! ### Storable parts -/

theorem Expectation.Storable.readBack?_eq {vocabulary : Vocabulary} {expectation : Expectation}
    (h : expectation.Storable vocabulary) :
    expectation.readBack? vocabulary = some expectation := by
  rw [readBack?, dropReturn_of_getLast?_ne h.no_return, String.ofList_toList, h.reads]
  rfl

theorem Report.Storable.readBack?_eq {vocabulary : Vocabulary} {report : Report}
    (h : report.Storable vocabulary) {outcome : Outcome} (houtcome : outcome ∈ report.outcomes) :
    outcome.readBack? vocabulary = some outcome.withoutLeftovers := by
  obtain ⟨assertion, passed, leftovers⟩ := outcome
  cases assertion with
  | expected expectation =>
    have hexpectation := (h.expectations _ houtcome expectation rfl).readBack?_eq
    rw [Outcome.readBack?, Assertion.readBack?, hexpectation]
    rfl
  | noUnexpected file => rfl

theorem Path.feed_not_mem_display {file : Path} (h : '\n' ∉ file.text.toList) :
    '\n' ∉ file.display.toList := by
  intro hfeed
  rw [display, String.toList_map] at hfeed
  obtain ⟨c, hc, hshown⟩ := List.mem_map.mp hfeed
  split at hshown
  · cases hshown
  · exact h (hshown ▸ hc)

theorem feed_not_mem_placed {file : Path} {line : UInt32} {text : String}
    (hfile : '\n' ∉ file.text.toList) (htext : '\n' ∉ text.toList) :
    '\n' ∉ (Assertion.placed file line text).toList := by
  have hline : '\n' ∉ (toString line).toList := fun h =>
    absurd ((isDigits_iff.mp (isDigits_toString line)).2 _ h) (by decide)
  rw [Assertion.toList_placed]
  simp [Path.feed_not_mem_display hfile, hline, htext]

theorem feed_not_mem_render {assertion : Assertion} (hfile : '\n' ∉ assertion.file.text.toList)
    (hexpectation : ∀ expectation, assertion = .expected expectation →
      '\n' ∉ expectation.text.toList) : '\n' ∉ assertion.render.toList := by
  cases assertion with
  | expected expectation => exact feed_not_mem_placed hfile (hexpectation expectation rfl)
  | noUnexpected file =>
    have hfile : '\n' ∉ file.text.toList := hfile
    rw [Assertion.toList_render_noUnexpected]
    simp [Path.feed_not_mem_display hfile, noUnexpectedText]

/-- Every line that is written on an outcome is one line if its texts are. -/
theorem feed_not_mem_renderLines {outcome : Outcome} {details : Bool}
    (hfile : '\n' ∉ outcome.assertion.file.text.toList)
    (hexpectation : ∀ expectation, outcome.assertion = .expected expectation →
      '\n' ∉ expectation.text.toList)
    (hleftovers : details = true → ∀ leftover ∈ outcome.leftovers, '\n' ∉ leftover.text.toList) :
    ∀ line ∈ outcome.renderLines details, '\n' ∉ line.toList := by
  refine List.forall_mem_cons.mpr ⟨?_, fun line hline => ?_⟩
  · have hrender := feed_not_mem_render hfile hexpectation
    rw [Outcome.toList_render]
    cases outcome.passed <;> simp [statusMark, hrender]
  · cases details with
    | false => cases hline
    | true =>
      obtain ⟨leftover, hleftover, rfl⟩ := List.mem_map.mp hline
      have hplaced : '\n' ∉ (Assertion.placed outcome.assertion.file leftover.line
          leftover.text).toList := feed_not_mem_placed hfile (hleftovers rfl leftover hleftover)
      rw [Leftover.render, String.toList_append]
      split <;> simp [hplaced]

/-- A storable report comes back without its leftovers if no leftover that is printed breaks
its line. -/
theorem Report.Storable.parse_eq {vocabulary : Vocabulary} {report : Report} {details : Bool}
    (h : report.Storable vocabulary)
    (hleftovers : details = true → ∀ outcome ∈ report.outcomes, ∀ leftover ∈ outcome.leftovers,
      '\n' ∉ leftover.text.toList) :
    parse vocabulary (report.render details) = .ok report.withoutLeftovers := by
  have hfeed : ∀ outcome ∈ report.outcomes, ∀ line ∈ outcome.renderLines details,
      '\n' ∉ line.toList := fun outcome houtcome =>
    feed_not_mem_renderLines (h.files outcome houtcome).no_feed
      (fun expectation hexpectation => (h.expectations outcome houtcome expectation
        hexpectation).no_feed)
      fun hdetails => hleftovers hdetails outcome houtcome
  refine (parse_render_iff h.files hfeed).mpr
    ⟨report.withoutLeftovers.outcomes, ?_, report.withoutLeftovers.ofOutcomes_outcomes.symm⟩
  rw [withoutLeftovers, List.map_map]
  exact List.map_congr_left fun outcome houtcome => h.readBack?_eq houtcome

theorem Report.Storable.parse_plain_eq {vocabulary : Vocabulary} {report : Report}
    (h : report.Storable vocabulary) :
    parse vocabulary (report.render false) = .ok report.withoutLeftovers := by
  refine h.parse_eq ?_
  intro hdetails
  cases hdetails

/-- A storable report comes back without its leftovers, from its text and also from its text
with details if no leftover breaks its line. -/
theorem Report.parse_render {vocabulary : Vocabulary} {report : Report}
    (h : report.Storable vocabulary) :
    parse vocabulary (report.render false) = .ok report.withoutLeftovers ∧
      ((∀ outcome ∈ report.outcomes, ∀ leftover ∈ outcome.leftovers,
          '\n' ∉ leftover.text.toList) →
        parse vocabulary (report.render true) = .ok report.withoutLeftovers) := by
  refine ⟨h.parse_plain_eq, ?_⟩
  intro hleftovers
  exact h.parse_eq fun _ => hleftovers

/-- A file whose name holds colons, digits and a space, and no place. -/
def puzzlingFile : Path :=
  ⟨"b:7/x 1:y"⟩

/-- An expectation whose text ends as the assertion on a whole file does. -/
def puzzlingExpectation : Expectation where
  file := puzzlingFile
  line := 3
  text := "test:irrelevant-annotation:a:1 b: no unexpected facts"
  fact := .annotationIrrelevant "a:1 b: no unexpected facts"

/-- A report in which an expectation stands twice, with different outcomes. -/
def puzzlingReport : Report where
  outcomes := [.ofExpectation puzzlingExpectation true, .ofExpectation puzzlingExpectation false,
    .ofLeftovers puzzlingFile [⟨4, true, "test:sink-type:x:y"⟩]]
  ascends := by decide

theorem puzzlingFile_storable : puzzlingFile.Storable where
  ne_empty := by decide
  no_backslash := by decide
  no_feed := by decide
  no_place := splitLocation?_eq_none_iff.mp (by decide)

/-- Every report with these assertions can be stored. -/
theorem storable_of_puzzling {report : Report}
    (h : ∀ outcome ∈ report.outcomes, outcome.assertion = .expected puzzlingExpectation ∨
      outcome.assertion = .noUnexpected puzzlingFile) : report.Storable .standard := by
  have hexpectation : puzzlingExpectation.Storable .standard :=
    ⟨by decide, by decide, by decide +kernel⟩
  constructor
  · intro outcome houtcome
    rcases h outcome houtcome with hassertion | hassertion
    · rw [hassertion]
      exact puzzlingFile_storable
    · rw [hassertion]
      exact puzzlingFile_storable
  · intro outcome houtcome expectation hstated
    rcases h outcome houtcome with hassertion | hassertion
    · rw [hassertion] at hstated
      exact Assertion.expected.inj hstated ▸ hexpectation
    · rw [hassertion] at hstated
      cases hstated

theorem parse_render_puzzlingReport :
    Report.parse .standard (puzzlingReport.render false) = .ok puzzlingReport.withoutLeftovers ∧
      Report.parse .standard (puzzlingReport.render true) =
        .ok puzzlingReport.withoutLeftovers := by
  have hstorable : puzzlingReport.Storable .standard :=
    storable_of_puzzling (by simp [puzzlingReport, Outcome.ofExpectation, Outcome.ofLeftovers])
  obtain ⟨hplain, hdetails⟩ := Report.parse_render hstorable
  refine ⟨hplain, hdetails ?_⟩
  decide

end FindingCheck
