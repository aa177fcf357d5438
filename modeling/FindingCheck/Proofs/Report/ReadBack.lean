import FindingCheck.Proofs.Report.Place
import FindingCheck.Proofs.Report.Statements
import FindingCheck.Proofs.WrittenLines
import Mathlib.Data.List.Basic

/-!
# What comes back of a report that was written

Every line of a written report is read again by itself. The heading and the leftovers are skipped,
and an outcome comes back with its text as far as the text survives the end of its line.

## Main definitions

* `Path.Storable` — files that can be told from what is printed behind them
* `Expectation.readBack?`, `Assertion.readBack?`, `Outcome.readBack?` — what comes back

## Main statements

* `Report.statements_render` — the lines of a written report that are not skipped
* `Report.parse_render_iff` — whether a written report can be read, and what comes back
-/

namespace FindingCheck

/-- A file without a backslash is printed as it is spelled. -/
theorem Path.display_eq {file : Path} (h : '\\' ∉ file.text.toList) : file.display = file.text := by
  have hsame : ∀ c ∈ file.text.toList, (if c = '\\' then '/' else c) = c := by
    intro c hc
    refine if_neg ?_
    rintro rfl
    exact h hc
  rw [Path.display, ← String.toList_inj, String.toList_map, List.map_congr_left hsame, List.map_id']

/-! ### The lines of a report -/

theorem feed_not_mem_toDigits (n : Nat) : '\n' ∉ Nat.toDigits 10 n := by
  intro h
  exact absurd (Nat.isDigit_of_mem_toDigits (by omega) (by omega) h) (by decide)

theorem feed_not_mem_tenthsText (x : Float) : '\n' ∉ (tenthsText x).toList := by
  unfold tenthsText
  generalize fractionOf x = fraction
  obtain ⟨numerator, denominator⟩ := fraction
  simp [feed_not_mem_toDigits]

theorem Report.feed_not_mem_heading (report : Report) : '\n' ∉ report.heading.toList := by
  simp [heading, feed_not_mem_toDigits, feed_not_mem_tenthsText]

theorem Report.isSkipped_heading (report : Report) :
    isSkipped (dropReturn report.heading.toList) = true := by
  have hheading : ∃ rest, report.heading.toList = ['#', ' '] ++ rest := by
    simp [heading]
  obtain ⟨rest, hrest⟩ := hheading
  rw [hrest]
  by_cases hnil : rest = []
  · subst hnil
    decide
  · rw [dropReturn_append _ hnil]
    simp [isSkipped]

/-- What a line with an outcome starts with. -/
def statusMark (passed : Bool) : List Char :=
  if passed then "PASS: ".toList else "FAIL: ".toList

theorem Report.splitStatus?_mark (passed : Bool) (body : List Char) :
    splitStatus? (statusMark passed ++ body) = some (passed, body) := by
  cases passed <;> rfl

theorem Report.isSkipped_mark (passed : Bool) (body : List Char) :
    isSkipped (statusMark passed ++ body) = false := by
  cases passed <;> rfl

theorem Outcome.toList_render (outcome : Outcome) :
    outcome.render.toList = statusMark outcome.passed ++ outcome.assertion.render.toList := by
  cases h : outcome.passed <;> simp [render, status, statusMark, h]

theorem Assertion.toList_placed (file : Path) (line : UInt32) (text : String) :
    (placed file line text).toList =
      file.display.toList ++ ':' :: ((toString line).toList ++ ' ' :: text.toList) := by
  simp [placed]

theorem Assertion.toList_render_noUnexpected (file : Path) :
    (noUnexpected file).render.toList =
      file.display.toList ++ ':' :: ' ' :: noUnexpectedText.toList := by
  simp [render]

theorem Assertion.toList_render_ne_nil (assertion : Assertion) : assertion.render.toList ≠ [] := by
  cases assertion with
  | expected expectation => simp [render, toList_placed]
  | noUnexpected file => simp [toList_render_noUnexpected]

theorem Leftover.isSkipped_render (leftover : Leftover) (file : Path) :
    Report.isSkipped (dropReturn (leftover.render file).toList) = true := by
  have hplaced : (Assertion.placed file leftover.line leftover.text).toList ≠ [] := by
    simp [Assertion.toList_placed]
  rw [render, String.toList_append, dropReturn_append _ hplaced]
  split <;> simp [Report.isSkipped]

/-- The lines of a written report that are not skipped are those of its outcomes, as they come
back. -/
theorem Report.statements_render {report : Report} {details : Bool}
    (h : ∀ outcome ∈ report.outcomes, ∀ line ∈ outcome.renderLines details, '\n' ∉ line.toList) :
    statements (report.render details) =
      report.outcomes.map fun outcome => String.ofList (dropReturn outcome.render.toList) := by
  have hfeed : ∀ line ∈ report.heading :: report.outcomes.flatMap (·.renderLines details),
      '\n' ∉ line.toList := by
    refine List.forall_mem_cons.mpr ⟨report.feed_not_mem_heading, fun line hline => ?_⟩
    obtain ⟨outcome, houtcome, hline⟩ := List.mem_flatMap.mp hline
    exact h outcome houtcome line hline
  -- Of the lines of one outcome the first is kept; the leftovers behind it are skipped.
  have hkept : ∀ outcome : Outcome,
      ((outcome.renderLines details).map fun line =>
        String.ofList (dropReturn line.toList)).filter (fun line => !isSkipped line.toList) =
      [String.ofList (dropReturn outcome.render.toList)] := by
    intro outcome
    have hstated : isSkipped (dropReturn outcome.render.toList) = false := by
      rw [Outcome.toList_render, dropReturn_append _ outcome.assertion.toList_render_ne_nil,
        isSkipped_mark]
    rw [Outcome.renderLines, List.map_cons, List.filter_cons_of_pos (by simpa using hstated),
      List.cons_inj_right, List.filter_eq_nil_iff]
    intro line hline
    cases details with
    | false => simp at hline
    | true =>
      obtain ⟨written, hwritten, rfl⟩ := List.mem_map.mp hline
      obtain ⟨leftover, -, rfl⟩ := List.mem_map.mp hwritten
      simp [Leftover.isSkipped_render]
  rw [statements, render, lines_join_lineOf hfeed, List.map_cons,
    List.filter_cons_of_neg (by simp [isSkipped_heading]), List.map_flatMap, List.filter_flatMap]
  simp only [hkept]
  exact List.map_eq_flatMap.symm

/-! ### What an outcome comes back as -/

/-- The file can be told from what is printed behind it: it is spelled with no backslash and no
line feed, and no place ends inside of it. -/
structure Path.Storable (file : Path) : Prop where
  ne_empty : file.text ≠ ""
  no_backslash : '\\' ∉ file.text.toList
  no_feed : '\n' ∉ file.text.toList
  no_place : ∀ front line after, ¬IsPlaced file.text.toList front line after

/-- The expectation that comes back: its text as its line keeps it, with the fact that the
vocabulary reads in it. -/
def Expectation.readBack? (vocabulary : Vocabulary) (expectation : Expectation) :
    Option Expectation :=
  let text := String.ofList (dropReturn expectation.text.toList)
  (vocabulary.read? text).map fun fact => { expectation with text, fact }

/-- The assertion that comes back. -/
def Assertion.readBack? (vocabulary : Vocabulary) : Assertion → Option Assertion
  | expected expectation => (expectation.readBack? vocabulary).map expected
  | noUnexpected file => some (noUnexpected file)

/-- The outcome that comes back, without leftovers. -/
def Outcome.readBack? (vocabulary : Vocabulary) (outcome : Outcome) : Option Outcome :=
  (outcome.assertion.readBack? vocabulary).map fun assertion =>
    { assertion, passed := outcome.passed }

theorem dropReturn_cons {c : Char} (hc : c ≠ '\r') (line : List Char) :
    dropReturn (c :: line) = c :: dropReturn line := by
  by_cases hline : line = []
  · subst hline
    simp [dropReturn, hc]
  · exact dropReturn_append [c] hline

/-- The body of a line on a whole file is told from an expectation if no place ends inside of the
file. -/
theorem Report.statedAssertion?_noUnexpected {vocabulary : Vocabulary} {file : Path}
    (hbackslash : '\\' ∉ file.text.toList)
    (hplace : ∀ front line after, ¬IsPlaced file.text.toList front line after) :
    statedAssertion? vocabulary (dropReturn (Assertion.noUnexpected file).render.toList) =
      some (.noUnexpected file) := by
  have hlast : (Assertion.noUnexpected file).render.toList.getLast? ≠ some '\r' := by
    rw [Assertion.toList_render_noUnexpected]
    simp [noUnexpectedText]
  have hsuffix : (": " ++ noUnexpectedText).toList.isSuffixOf?
      (file.text.toList ++ ':' :: ' ' :: noUnexpectedText.toList) = some file.text.toList :=
    List.isSuffixOf?_eq_some_iff_append_eq.mpr (by simp)
  rw [dropReturn_of_getLast?_ne hlast, Assertion.toList_render_noUnexpected,
    Path.display_eq hbackslash, statedAssertion?, splitLocation?_blank hplace (by decide)]
  simp only [hsuffix, Option.map_some, String.ofList_toList]

/-- The body of a line states the assertion that comes back. -/
theorem Report.statedAssertion?_render {vocabulary : Vocabulary} {assertion : Assertion}
    (h : assertion.file.Storable) :
    statedAssertion? vocabulary (dropReturn assertion.render.toList) =
      assertion.readBack? vocabulary := by
  cases assertion with
  | expected expectation =>
    obtain ⟨file, line, text, fact⟩ := expectation
    have hfile : file.Storable := h
    have hne : file.text.toList ≠ [] := by
      simpa using hfile.ne_empty
    have hbody : dropReturn (Assertion.placed file line text).toList =
        file.text.toList ++ ':' :: ((toString line).toList ++ ' ' :: dropReturn text.toList) := by
      rw [Assertion.toList_placed, Path.display_eq hfile.no_backslash,
        dropReturn_append _ (by simp), dropReturn_cons (by decide), dropReturn_append _ (by simp),
        dropReturn_cons (by decide)]
    rw [Assertion.render, hbody, statedAssertion?, splitLocation?_placed hne hfile.no_place]
    simp only [Assertion.readBack?, Expectation.readBack?, Option.map_map, String.ofList_toList]
    rfl
  | noUnexpected file =>
    have hfile : file.Storable := h
    exact statedAssertion?_noUnexpected hfile.no_backslash hfile.no_place

/-- The line of an outcome states what its body states. -/
theorem Report.statedOutcome?_dropReturn_render (vocabulary : Vocabulary) (outcome : Outcome) :
    statedOutcome? vocabulary (String.ofList (dropReturn outcome.render.toList)) =
      (statedAssertion? vocabulary (dropReturn outcome.assertion.render.toList)).map
        fun assertion => { assertion, passed := outcome.passed } := by
  rw [statedOutcome?, String.toList_ofList, Outcome.toList_render,
    dropReturn_append _ outcome.assertion.toList_render_ne_nil, splitStatus?_mark,
    Option.bind_some]

theorem Report.statedOutcome?_render {vocabulary : Vocabulary} {outcome : Outcome}
    (h : outcome.assertion.file.Storable) :
    statedOutcome? vocabulary (String.ofList (dropReturn outcome.render.toList)) =
      outcome.readBack? vocabulary := by
  rw [statedOutcome?_dropReturn_render, statedAssertion?_render h]
  rfl

/-- A written report can be read exactly if every outcome comes back, and it is read as the
report of what comes back. -/
theorem Report.parse_render_iff {vocabulary : Vocabulary} {report : Report} {details : Bool}
    (hfiles : ∀ outcome ∈ report.outcomes, outcome.assertion.file.Storable)
    (hfeed : ∀ outcome ∈ report.outcomes, ∀ line ∈ outcome.renderLines details,
      '\n' ∉ line.toList) {found : Report} :
    parse vocabulary (report.render details) = .ok found ↔
      ∃ outcomes, report.outcomes.map (Outcome.readBack? vocabulary) = outcomes.map some ∧
        found = ofOutcomes outcomes := by
  have hstated : (statements (report.render details)).map (statedOutcome? vocabulary) =
      report.outcomes.map (Outcome.readBack? vocabulary) := by
    rw [statements_render hfeed, List.map_map]
    refine List.map_congr_left fun outcome houtcome => ?_
    rw [Function.comp_apply, statedOutcome?_render (hfiles outcome houtcome)]
  rw [parse_eq_ok_iff, hstated]

end FindingCheck
