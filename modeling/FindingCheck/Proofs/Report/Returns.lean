import FindingCheck.Proofs.Report.RoundTrip

/-!
# Carriage returns at the end of a line

A report is written with a line feed behind each line, and it is read as if a carriage return in
front of a line feed belonged to the line ending. So an expectation whose text ends in a carriage
return comes back without it, if it comes back at all.

## Main statements

* `Report.exists_same_render_iff` — a report is read and written the same again exactly if no
  expectation ends in a carriage return
-/

namespace FindingCheck

/-- The line of an outcome, with its end. -/
def Outcome.written (outcome : Outcome) : List Char :=
  outcome.render.toList ++ ['\n']

theorem Outcome.passed_of_readBack? {vocabulary : Vocabulary} {outcome found : Outcome}
    (h : outcome.readBack? vocabulary = some found) : found.passed = outcome.passed := by
  obtain ⟨assertion, -, rfl⟩ := Option.map_eq_some_iff.mp h
  rfl

/-- The line of what comes back is shorter by what is lost at the end of the text. -/
theorem Outcome.length_written_of_readBack? {vocabulary : Vocabulary} {outcome found : Outcome}
    {expectation : Expectation} (h : outcome.readBack? vocabulary = some found)
    (hexpectation : outcome.assertion = .expected expectation) :
    found.written.length + expectation.text.toList.length =
      outcome.written.length + (dropReturn expectation.text.toList).length := by
  obtain ⟨assertion, passed, leftovers⟩ := outcome
  subst hexpectation
  obtain ⟨_, hassertion, rfl⟩ := Option.map_eq_some_iff.mp h
  obtain ⟨_, hback, rfl⟩ := Option.map_eq_some_iff.mp hassertion
  obtain ⟨fact, -, rfl⟩ := Option.map_eq_some_iff.mp hback
  simp only [written, toList_render, Assertion.render, Assertion.toList_placed, List.length_append,
    List.length_cons, String.toList_ofList]
  omega

theorem Outcome.length_written_le_of_readBack? {vocabulary : Vocabulary} {outcome found : Outcome}
    (h : outcome.readBack? vocabulary = some found) :
    found.written.length ≤ outcome.written.length := by
  cases hassertion : outcome.assertion with
  | expected expectation =>
    have hwritten := length_written_of_readBack? h hassertion
    have hlength := length_dropReturn_le expectation.text.toList
    omega
  | noUnexpected file =>
    obtain ⟨assertion, passed, leftovers⟩ := outcome
    subst hassertion
    obtain ⟨_, hback, rfl⟩ := Option.map_eq_some_iff.mp h
    obtain rfl := Option.some.inj hback
    exact Nat.le_refl _

/-- What comes back of an outcome that ends in a carriage return is shorter. -/
theorem Outcome.length_written_lt_of_readBack? {vocabulary : Vocabulary} {outcome found : Outcome}
    {expectation : Expectation} (h : outcome.readBack? vocabulary = some found)
    (hexpectation : outcome.assertion = .expected expectation)
    (hreturn : expectation.text.toList.getLast? = some '\r') :
    found.written.length < outcome.written.length := by
  have hwritten := length_written_of_readBack? h hexpectation
  have hlength := length_dropReturn_lt hreturn
  omega

/-! ### The text of a report that has come back -/

/-- Outcomes and what comes back of each. -/
def ComesBack (vocabulary : Vocabulary) (outcomes found : List Outcome) : Prop :=
  List.Forall₂ (fun outcome back => outcome.readBack? vocabulary = some back) outcomes found

namespace ComesBack

variable {vocabulary : Vocabulary} {outcomes found : List Outcome}

theorem countP_passed (h : ComesBack vocabulary outcomes found) :
    found.countP (·.passed) = outcomes.countP (·.passed) := by
  induction h with
  | nil => rfl
  | cons hback _ ih =>
    rw [List.countP_cons, List.countP_cons, ih, Outcome.passed_of_readBack? hback]

theorem length_flatMap_written_le (h : ComesBack vocabulary outcomes found) :
    (found.flatMap Outcome.written).length ≤ (outcomes.flatMap Outcome.written).length := by
  induction h with
  | nil => exact Nat.le_refl _
  | cons hback _ ih =>
    have hwritten := Outcome.length_written_le_of_readBack? hback
    rw [List.flatMap_cons, List.flatMap_cons, List.length_append, List.length_append]
    omega

/-- One text that loses its end makes the whole shorter. -/
theorem length_flatMap_written_lt (h : ComesBack vocabulary outcomes found) {outcome : Outcome}
    (houtcome : outcome ∈ outcomes) {expectation : Expectation}
    (hexpectation : outcome.assertion = .expected expectation)
    (hreturn : expectation.text.toList.getLast? = some '\r') :
    (found.flatMap Outcome.written).length < (outcomes.flatMap Outcome.written).length := by
  induction h with
  | nil => cases houtcome
  | cons hback hrest ih =>
    rw [List.flatMap_cons, List.flatMap_cons, List.length_append, List.length_append]
    -- the outcome that gets shorter is the first, or it is one of the rest
    rcases List.mem_cons.mp houtcome with rfl | houtcome
    · have hfirst := Outcome.length_written_lt_of_readBack? hback hexpectation hreturn
      have hothers := length_flatMap_written_le hrest
      omega
    · have hfirst := Outcome.length_written_le_of_readBack? hback
      have hothers := ih houtcome
      omega

end ComesBack

namespace Report

theorem toList_render (report : Report) :
    (report.render false).toList =
      report.heading.toList ++ '\n' :: report.outcomes.flatMap Outcome.written := by
  have hlines : report.outcomes.flatMap (·.renderLines false) =
      report.outcomes.map Outcome.render := List.map_eq_flatMap.symm
  rw [render, toList_join_lineOf, hlines, List.flatMap_cons, List.flatMap_map, List.append_assoc]
  rfl

theorem heading_ofOutcomes {vocabulary : Vocabulary} {report : Report} {found : List Outcome}
    (h : ComesBack vocabulary report.outcomes found) :
    (ofOutcomes found).heading = report.heading := by
  apply heading_congr
  · calc (ofOutcomes found).passes
        = found.countP (·.passed) := (perm_sortOn _ found).countP_eq _
      _ = report.passes := h.countP_passed
  · calc (ofOutcomes found).total
        = found.length := (perm_sortOn _ found).length_eq
      _ = report.total := h.length_eq.symm

/-- A report that loses a carriage return is not written the same again. -/
theorem render_ofOutcomes_ne {vocabulary : Vocabulary} {report : Report} {found : List Outcome}
    (h : ComesBack vocabulary report.outcomes found) {outcome : Outcome}
    (houtcome : outcome ∈ report.outcomes) {expectation : Expectation}
    (hexpectation : outcome.assertion = .expected expectation)
    (hreturn : expectation.text.toList.getLast? = some '\r') :
    (ofOutcomes found).render false ≠ report.render false := by
  intro heq
  have htext := congrArg String.toList heq
  rw [toList_render, toList_render, heading_ofOutcomes h] at htext
  have hlines : (ofOutcomes found).outcomes.flatMap Outcome.written =
      report.outcomes.flatMap Outcome.written := (List.cons.inj (List.append_cancel_left htext)).2
  have hperm : ((ofOutcomes found).outcomes.flatMap Outcome.written).Perm
      (found.flatMap Outcome.written) := (perm_sortOn _ found).flatMap_right _
  have hlt := h.length_flatMap_written_lt houtcome hexpectation hreturn
  have hlength := hperm.length_eq
  rw [hlines] at hlength
  omega

/-- A report on storable files whose texts are read as their facts is read, and then written the
same again, exactly if no text ends in a carriage return. -/
theorem exists_same_render_iff {vocabulary : Vocabulary} {report : Report}
    (hfiles : ∀ outcome ∈ report.outcomes, outcome.assertion.file.Storable)
    (hexpectations : ∀ outcome ∈ report.outcomes, ∀ expectation,
      outcome.assertion = .expected expectation →
        '\n' ∉ expectation.text.toList ∧
          vocabulary.read? expectation.text = some expectation.fact) :
    (∃ found, parse vocabulary (report.render false) = .ok found ∧
        found.render false = report.render false) ↔
      ∀ outcome ∈ report.outcomes, ∀ expectation, outcome.assertion = .expected expectation →
        expectation.text.toList.getLast? ≠ some '\r' := by
  constructor
  · rintro ⟨found, hparse, hsame⟩ outcome houtcome expectation hexpectation hreturn
    have hfeed : ∀ outcome ∈ report.outcomes, ∀ line ∈ outcome.renderLines false,
        '\n' ∉ line.toList := by
      intro outcome houtcome
      refine feed_not_mem_renderLines (hfiles outcome houtcome).no_feed ?_ ?_
      · exact fun expectation h => (hexpectations outcome houtcome expectation h).1
      · intro hdetails
        cases hdetails
    obtain ⟨outcomes, houtcomes, rfl⟩ := (parse_render_iff hfiles hfeed).mp hparse
    have hback : ComesBack vocabulary report.outcomes outcomes := by
      rwa [← List.forall₂_eq_eq_eq, List.forall₂_map_left_iff, List.forall₂_map_right_iff]
        at houtcomes
    exact render_ofOutcomes_ne hback houtcome hexpectation hreturn hsame
  · intro hreturn
    have hstorable : report.Storable vocabulary := by
      refine ⟨hfiles, fun outcome houtcome expectation hexpectation => ?_⟩
      obtain ⟨hfeed, hread⟩ := hexpectations outcome houtcome expectation hexpectation
      exact ⟨hfeed, hreturn outcome houtcome expectation hexpectation, hread⟩
    exact ⟨_, hstorable.parse_plain_eq, report.render_withoutLeftovers⟩

end Report

end FindingCheck
