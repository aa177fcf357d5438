import FindingCheck.Proofs.Report.ReadBack
import FindingCheck.Proofs.Report.Statements
import Mathlib.Data.List.Forall2

/-!
# The kinds of lines in a report

A line of a report says nothing about an outcome, or it states the outcome of an expectation, or
that of a whole file. A text is a report exactly if each of its lines is of one of these kinds. If
it is none, the first line of no kind is reported.

## Main definitions

* `Report.SaysNothing`, `Report.States` — the kinds of lines
* `Report.IsLine` — a line of one of the kinds
* `Report.Rejects` — a line with the place of an expectation that cannot be read

## Main statements

* `Report.states_iff` — what a line states is what reading it finds
* `Report.parse_lines` — which texts are reports, which report a text is, and what is wrong with a
  text that is none
-/

namespace FindingCheck

namespace Report

/-- The line says nothing about an outcome: it is blank, a comment, or a detail. -/
def SaysNothing (line : String) : Prop :=
  (∀ c ∈ line.toList, isBlank c) ∨ ∃ start ∈ ["#", "OOPS: ", "INFO: "], start.toList <+: line.toList

/-- The line states the outcome, of an expectation in its place or of a whole file. -/
inductive States (vocabulary : Vocabulary) : String → Outcome → Prop
  | expectation {line : String} {passed : Bool} {body file text : List Char} {number : UInt32}
      {fact : Fact} (hstatus : line.toList = statusMark passed ++ body)
      (hplace : splitLocation? body = some (file, number, text))
      (hread : vocabulary.read? (String.ofList text) = some fact) :
      States vocabulary line
        { assertion := .expected ⟨⟨String.ofList file⟩, number, String.ofList text, fact⟩, passed }
  | wholeFile {line : String} {passed : Bool} {body file : List Char}
      (hstatus : line.toList = statusMark passed ++ body) (hplace : splitLocation? body = none)
      (hbody : body = file ++ (": " ++ noUnexpectedText).toList) :
      States vocabulary line { assertion := .noUnexpected ⟨String.ofList file⟩, passed }

/-- The line is of one of the kinds. -/
def IsLine (vocabulary : Vocabulary) (line : String) : Prop :=
  SaysNothing line ∨ ∃ outcome, States vocabulary line outcome

/-- The line has a status and the place of an expectation, but the text of the expectation cannot
be read. -/
def Rejects (vocabulary : Vocabulary) (line text : String) : Prop :=
  ∃ passed body file number, line.toList = statusMark passed ++ body ∧
    splitLocation? body = some (file, number, text.toList) ∧ vocabulary.read? text = none

variable {vocabulary : Vocabulary} {line text : String} {outcome : Outcome}

theorem isSkipped_iff : isSkipped line.toList = true ↔ SaysNothing line := by
  simp [isSkipped, SaysNothing, or_assoc]

instance : DecidablePred SaysNothing := fun _ => decidable_of_iff _ isSkipped_iff

theorem splitStatus?_eq_some_iff {line body : List Char} {passed : Bool} :
    splitStatus? line = some (passed, body) ↔ line = statusMark passed ++ body := by
  constructor
  · intro h
    unfold splitStatus? at h
    split at h
    · next rest hrest =>
      cases h
      exact (List.isPrefixOf?_eq_some_iff_append_eq.mp hrest).symm
    · obtain ⟨rest, hrest, hbody⟩ := Option.map_eq_some_iff.mp h
      cases hbody
      exact (List.isPrefixOf?_eq_some_iff_append_eq.mp hrest).symm
  · rintro rfl
    exact splitStatus?_mark passed body

/-- What a line states is what reading it finds. -/
theorem states_iff :
    States vocabulary line outcome ↔ statedOutcome? vocabulary line = some outcome := by
  constructor
  · intro h
    cases h with
    | expectation hstatus hplace hread =>
      simp [statedOutcome?, splitStatus?_eq_some_iff.mpr hstatus, statedAssertion?, hplace, hread]
    | wholeFile hstatus hplace hbody =>
      have hsuffix := List.isSuffixOf?_eq_some_iff_append_eq.mpr hbody.symm
      simp only [statedOutcome?, splitStatus?_eq_some_iff.mpr hstatus, statedAssertion?, hplace,
        hsuffix, Option.bind_some, Option.map_some]
  · intro h
    obtain ⟨⟨passed, body⟩, hstatus, h⟩ := Option.bind_eq_some_iff.mp h
    obtain ⟨assertion, hassertion, rfl⟩ := Option.map_eq_some_iff.mp h
    have hline := splitStatus?_eq_some_iff.mp hstatus
    unfold statedAssertion? at hassertion
    split at hassertion
    · next file number fact hplace =>
      obtain ⟨fact, hread, rfl⟩ := Option.map_eq_some_iff.mp hassertion
      exact .expectation hline hplace hread
    · next hplace =>
      obtain ⟨file, hfile, rfl⟩ := Option.map_eq_some_iff.mp hassertion
      exact .wholeFile hline hplace (List.isSuffixOf?_eq_some_iff_append_eq.mp hfile).symm

/-- A line is of one kind only. -/
theorem States.not_saysNothing (h : States vocabulary line outcome) : ¬SaysNothing line := by
  rw [← isSkipped_iff]
  cases h with
  | expectation hstatus => simp [hstatus, isSkipped_mark]
  | wholeFile hstatus => simp [hstatus, isSkipped_mark]

theorem States.unique {other : Outcome} (h : States vocabulary line outcome)
    (h' : States vocabulary line other) : other = outcome :=
  Option.some.inj ((states_iff.mp h').symm.trans (states_iff.mp h))

/-- The lines that are read without failure are those of the kinds. -/
theorem exists_parseLine_iff {number : Nat} :
    (∃ found, parseLine vocabulary line number = .ok found) ↔ IsLine vocabulary line := by
  by_cases hnothing : SaysNothing line
  · have hread := @parseLine_of_isSkipped vocabulary line number (isSkipped_iff.mpr hnothing)
    exact ⟨fun _ => .inl hnothing, fun _ => ⟨none, hread⟩⟩
  · have hskip : isSkipped line.toList = false := by
      rwa [← Bool.not_eq_true, isSkipped_iff]
    simp only [parseLine_eq_ok_iff hskip, ← states_iff, IsLine, hnothing, false_or]
    constructor
    · rintro ⟨found, outcome, hstated, -⟩
      exact ⟨outcome, hstated⟩
    · rintro ⟨outcome, hstated⟩
      exact ⟨_, outcome, hstated, rfl⟩

theorem malformation_of_parseBody {passed : Bool} {body : List Char} {number : Nat}
    {malformation : Malformation} (hline : line.toList = statusMark passed ++ body)
    (h : parseBody vocabulary number line body = .error malformation) :
    (∃ text, Rejects vocabulary line text ∧ malformation = .unknownExpectation number text) ∨
      (∀ text, ¬Rejects vocabulary line text) ∧
        malformation = .unrecognizedLine number line := by
  unfold parseBody at h
  split at h
  · next file place text hplace =>
    split at h
    · cases h
    · next hread =>
      refine .inl ⟨String.ofList text, ⟨passed, body, file, place, hline, ?_, hread⟩,
        (Except.error.inj h).symm⟩
      rwa [String.toList_ofList]
  · next hplace =>
    split at h
    · cases h
    · refine .inr ⟨?_, (Except.error.inj h).symm⟩
      rintro text ⟨passed', body', file, place, hline', hplace', -⟩
      have hsame : some (passed, body) = some (passed', body') :=
        (splitStatus?_eq_some_iff.mpr hline).symm.trans (splitStatus?_eq_some_iff.mpr hline')
      cases hsame
      cases hplace.symm.trans hplace'

/-- What is reported of a line: the text of its expectation if that is rejected, and else the
whole line. -/
theorem malformation_of_parseLine {number : Nat} {malformation : Malformation}
    (h : parseLine vocabulary line number = .error malformation) :
    (∃ text, Rejects vocabulary line text ∧ malformation = .unknownExpectation number text) ∨
      (∀ text, ¬Rejects vocabulary line text) ∧
        malformation = .unrecognizedLine number line := by
  unfold parseLine at h
  split at h
  · cases h
  · split at h
    · next hstatus =>
      refine .inr ⟨?_, (Except.error.inj h).symm⟩
      rintro text ⟨passed, body, file, place, hline, -⟩
      cases hstatus.symm.trans (splitStatus?_eq_some_iff.mpr hline)
    · next passed body hstatus =>
      have hline := splitStatus?_eq_some_iff.mp hstatus
      cases hbody : parseBody vocabulary number line body with
      | ok assertion =>
        rw [hbody] at h
        cases h
      | error found =>
        rw [hbody] at h
        obtain rfl := Except.error.inj h
        exact malformation_of_parseBody hline hbody

theorem parse_eq_bind (vocabulary : Vocabulary) (text : String) :
    parse vocabulary text =
      (((lines text).zipIdx 1).mapM fun line => parseLine vocabulary line.1 line.2).bind
        fun found => .ok (ofOutcomes (found.filterMap id)) :=
  rfl

theorem forall_mem_zipIdx_iff {P : String → Prop} (written : List String) (number : Nat) :
    (∀ numbered ∈ written.zipIdx number, P numbered.1) ↔ ∀ line ∈ written, P line := by
  rw [← @List.forall_mem_map _ _ Prod.fst _ P, List.zipIdx_map_fst]

theorem exists_parse_iff :
    (∃ report, parse vocabulary text = .ok report) ↔
      ∀ line ∈ lines text, IsLine vocabulary line := by
  calc (∃ report, parse vocabulary text = .ok report)
      ↔ ∃ found, ((lines text).zipIdx 1).mapM
          (fun line => parseLine vocabulary line.1 line.2) = .ok found := by
        simp only [parse_eq_bind, bind_eq_ok_iff]
        constructor
        · rintro ⟨report, found, hfound, -⟩
          exact ⟨found, hfound⟩
        · rintro ⟨found, hfound⟩
          exact ⟨_, found, hfound, rfl⟩
    _ ↔ ∀ numbered ∈ (lines text).zipIdx 1, IsLine vocabulary numbered.1 := by
        simp only [exists_mapM_eq_ok_iff, exists_parseLine_iff]
    _ ↔ ∀ line ∈ lines text, IsLine vocabulary line := forall_mem_zipIdx_iff _ _

/-- A text that is no report is rejected for its first line of no kind. -/
theorem exists_line_of_parse_eq_error {malformation : Malformation}
    (h : parse vocabulary text = .error malformation) :
    ∃ front line rest, lines text = front ++ line :: rest ∧
      (∀ earlier ∈ front, IsLine vocabulary earlier) ∧
      parseLine vocabulary line (front.length + 1) = .error malformation := by
  have hread : ((lines text).zipIdx 1).mapM (fun line => parseLine vocabulary line.1 line.2) =
      .error malformation := by
    rw [parse_eq_bind] at h
    cases hfound : ((lines text).zipIdx 1).mapM fun line => parseLine vocabulary line.1 line.2 with
    | error found =>
      rw [hfound] at h
      exact congrArg _ (Except.error.inj h)
    | ok found =>
      rw [hfound] at h
      cases h
  obtain ⟨front, ⟨line, number⟩, rest, hnumbered, hfront, hline⟩ := mapM_eq_error_iff.mp hread
  obtain ⟨earlier, later, htext, rfl, hlater⟩ := List.zipIdx_eq_append_iff.mp hnumbered
  obtain ⟨_, behind, rfl, hfirst, -⟩ := List.zipIdx_eq_cons_iff.mp hlater.symm
  obtain ⟨rfl, rfl⟩ := Prod.mk.inj hfirst
  refine ⟨earlier, line, behind, htext, (forall_mem_zipIdx_iff earlier 1).mp ?_, ?_⟩
  · exact fun numbered hnumbered => exists_parseLine_iff.mp (hfront numbered hnumbered)
  · rw [Nat.add_comm]
    exact hline

/-- Which texts are reports, and which report a text is. No line is of two kinds. A text is a
report if all of its lines are of the kinds, and it holds the outcomes that its lines state, one for
each line that says something. Of any other text the first line of no kind is reported, by the text
of its expectation if that is rejected and else as a whole. -/
theorem parse_lines (vocabulary : Vocabulary) (text : String) :
    (∀ line outcome, States vocabulary line outcome →
      ¬SaysNothing line ∧ ∀ other, States vocabulary line other → other = outcome) ∧
    ((∃ report, parse vocabulary text = .ok report) ↔
      ∀ line ∈ lines text, IsLine vocabulary line) ∧
    (∀ report, parse vocabulary text = .ok report →
      ∃ outcomes, List.Forall₂ (States vocabulary)
          ((lines text).filter fun line => ¬SaysNothing line) outcomes ∧
        report = ofOutcomes outcomes ∧ report.outcomes.Perm outcomes) ∧
    ∀ malformation, parse vocabulary text = .error malformation →
      ∃ front line rest, lines text = front ++ line :: rest ∧
        (∀ earlier ∈ front, IsLine vocabulary earlier) ∧ ¬IsLine vocabulary line ∧
        ((∃ stated, Rejects vocabulary line stated ∧
            malformation = .unknownExpectation (front.length + 1) stated) ∨
          (∀ stated, ¬Rejects vocabulary line stated) ∧
            malformation = .unrecognizedLine (front.length + 1) line) := by
  refine ⟨fun line outcome h => ⟨h.not_saysNothing, fun other h' => h.unique h'⟩, ?_,
    fun report hparse => ?_, fun malformation hparse => ?_⟩
  · exact exists_parse_iff
  · obtain ⟨outcomes, hstated, rfl⟩ := parse_eq_ok_iff.mp hparse
    have hkept : (lines text).filter (fun line => ¬SaysNothing line) = statements text :=
      List.filter_congr fun line _ => by
        simp [← isSkipped_iff]
    rw [← List.forall₂_eq_eq_eq, List.forall₂_map_left_iff, List.forall₂_map_right_iff] at hstated
    refine ⟨outcomes, ?_, rfl, perm_sortOn _ _⟩
    rw [hkept]
    exact hstated.imp fun line outcome h => states_iff.mpr h
  · obtain ⟨front, line, rest, htext, hfront, hline⟩ := exists_line_of_parse_eq_error hparse
    refine ⟨front, line, rest, htext, hfront, fun hkind => ?_, malformation_of_parseLine hline⟩
    obtain ⟨found, hfound⟩ := exists_parseLine_iff.mpr hkind
    cases hline.symm.trans hfound

end Report

/-- A text whose last line has the place of an expectation and a text that no form reads. -/
def nonsenseReport : String :=
  "# 1 pass\nPASS: A.java: no unexpected facts\nFAIL: A.java:3 nonsense\n"

theorem parse_lines_nonsenseReport :
    ∃ malformation, Report.parse .standard nonsenseReport = .error malformation ∧
      ∃ front line rest, lines nonsenseReport = front ++ line :: rest ∧
        (∀ earlier ∈ front, Report.IsLine .standard earlier) ∧ ¬Report.IsLine .standard line := by
  obtain ⟨malformation, hparse⟩ : ∃ malformation,
      Report.parse .standard nonsenseReport = .error malformation :=
    exists_eq_error_iff.mpr (by decide +kernel)
  obtain ⟨front, line, rest, htext, hfront, hline, -⟩ :=
    (Report.parse_lines .standard nonsenseReport).2.2.2 malformation hparse
  exact ⟨malformation, hparse, front, line, rest, htext, hfront, hline⟩

end FindingCheck
