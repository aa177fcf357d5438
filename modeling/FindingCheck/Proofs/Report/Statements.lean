import FindingCheck.Proofs.Traversal
import FindingCheck.Report.Parse

/-!
# What the lines of a report state

Reading numbers the lines and stops at the first that is wrong, but what a line states does not
depend on its number. A text is a report exactly if every line that is not skipped states an
outcome, and then the report holds these outcomes and no others.

## Main definitions

* `Report.statedAssertion?`, `Report.statedOutcome?` — what a body and a line state
* `Report.statements` — the lines that are not skipped

## Main statements

* `Report.parse_eq_ok_iff`, `Report.parse_eq_ok_iff_filterMap` — which texts are reports, and which
  report a text is
-/

namespace FindingCheck

namespace Report

/-- The assertion that a body states, if it states one. -/
def statedAssertion? (vocabulary : Vocabulary) (body : List Char) : Option Assertion :=
  match splitLocation? body with
  | some (file, line, text) =>
    (vocabulary.read? (String.ofList text)).map fun fact =>
      .expected ⟨⟨String.ofList file⟩, line, String.ofList text, fact⟩
  | none =>
    ((": " ++ noUnexpectedText).toList.isSuffixOf? body).map fun file =>
      .noUnexpected ⟨String.ofList file⟩

/-- The outcome that a line states, if it states one. -/
def statedOutcome? (vocabulary : Vocabulary) (line : String) : Option Outcome :=
  (splitStatus? line.toList).bind fun status =>
    (statedAssertion? vocabulary status.2).map fun assertion => { assertion, passed := status.1 }

/-- The lines of a text that are not skipped. -/
def statements (text : String) : List String :=
  (lines text).filter fun line => !isSkipped line.toList

theorem parseBody_eq_ok_iff {vocabulary : Vocabulary} {number : Nat} {line : String}
    {body : List Char} {assertion : Assertion} :
    parseBody vocabulary number line body = .ok assertion ↔
      statedAssertion? vocabulary body = some assertion := by
  unfold parseBody statedAssertion?
  cases splitLocation? body with
  | some place =>
    obtain ⟨file, lineNumber, text⟩ := place
    dsimp only
    cases vocabulary.read? (String.ofList text) <;> simp
  | none =>
    dsimp only
    cases (": " ++ noUnexpectedText).toList.isSuffixOf? body <;> simp

theorem parseLine_of_isSkipped {vocabulary : Vocabulary} {line : String} {number : Nat}
    (h : isSkipped line.toList = true) : parseLine vocabulary line number = .ok none :=
  if_pos h

/-- A line that is not skipped has to state an outcome. -/
theorem parseLine_eq_ok_iff {vocabulary : Vocabulary} {line : String} {number : Nat}
    {found : Option Outcome} (h : isSkipped line.toList = false) :
    parseLine vocabulary line number = .ok found ↔
      ∃ outcome, statedOutcome? vocabulary line = some outcome ∧ found = some outcome := by
  unfold parseLine statedOutcome?
  rw [if_neg (by simp [h])]
  cases splitStatus? line.toList with
  | none => simp
  | some status =>
    obtain ⟨passed, body⟩ := status
    dsimp only [Option.bind_some]
    cases hbody : parseBody vocabulary number line body with
    | error malformation =>
      have hnone : statedAssertion? vocabulary body = none := by
        refine Option.eq_none_iff_forall_ne_some.mpr fun assertion hassertion => ?_
        have := hbody.symm.trans (parseBody_eq_ok_iff.mpr hassertion)
        cases this
      simp [hnone, Except.map]
    | ok assertion =>
      have hsome := parseBody_eq_ok_iff.mp hbody
      simp [hsome, Except.map, eq_comm]

/-- Reading numbered lines succeeds exactly if those that are not skipped state outcomes. -/
theorem mapM_parseLine_iff {vocabulary : Vocabulary} {numbered : List (String × Nat)}
    {outcomes : List Outcome} :
    (∃ found, numbered.mapM (fun line => parseLine vocabulary line.1 line.2) = .ok found ∧
        found.filterMap id = outcomes) ↔
      ((numbered.map Prod.fst).filter fun line => !isSkipped line.toList).map
        (statedOutcome? vocabulary) = outcomes.map some := by
  simp only [mapM_eq_ok_iff]
  induction numbered generalizing outcomes with
  | nil => cases outcomes <;> simp
  | cons line numbered ih =>
    rw [List.map_cons, List.map_cons, List.filter_cons]
    cases hskip : isSkipped line.1.toList with
    | true =>
      -- a skipped line states nothing, and both sides go on behind it
      rw [parseLine_of_isSkipped hskip]
      simp only [Bool.not_true, Bool.false_eq_true, if_false, ← ih]
      constructor
      · rintro ⟨_ | ⟨first, found⟩, hfound, rfl⟩
        · cases hfound
        · obtain ⟨hfirst, hrest⟩ := List.cons.inj hfound
          obtain rfl := Except.ok.inj hfirst
          exact ⟨found, hrest, rfl⟩
      · rintro ⟨found, hfound, rfl⟩
        exact ⟨none :: found, by rw [hfound, List.map_cons], rfl⟩
    | false =>
      -- what the line states is the first of the outcomes
      simp only [Bool.not_false, if_true, List.map_cons]
      constructor
      · rintro ⟨_ | ⟨first, found⟩, hfound, rfl⟩
        · cases hfound
        · obtain ⟨hfirst, hrest⟩ := List.cons.inj hfound
          obtain ⟨outcome, hstated, rfl⟩ := (parseLine_eq_ok_iff hskip).mp hfirst
          rw [hstated, ih.mp ⟨found, hrest, rfl⟩]
          rfl
      · intro h
        cases outcomes with
        | nil => cases h
        | cons outcome outcomes =>
          obtain ⟨hstated, hrest⟩ := List.cons.inj h
          obtain ⟨found, hfound, rfl⟩ := ih.mpr hrest
          refine ⟨some outcome :: found, ?_, rfl⟩
          rw [(parseLine_eq_ok_iff hskip).mpr ⟨outcome, hstated, rfl⟩, hfound, List.map_cons]

/-- A text is a report exactly if its lines that are not skipped state outcomes, and it is the
report of these. -/
theorem parse_eq_ok_iff {vocabulary : Vocabulary} {text : String} {report : Report} :
    parse vocabulary text = .ok report ↔
      ∃ outcomes, (statements text).map (statedOutcome? vocabulary) = outcomes.map some ∧
        report = ofOutcomes outcomes := by
  have hnumbered : ((lines text).zipIdx 1).map Prod.fst = lines text := List.zipIdx_map_fst 1 _
  have hread (outcomes : List Outcome) :=
    @mapM_parseLine_iff vocabulary ((lines text).zipIdx 1) outcomes
  rw [hnumbered] at hread
  show (((lines text).zipIdx 1).mapM (fun line => parseLine vocabulary line.1 line.2)).bind
    (fun found => .ok (ofOutcomes (found.filterMap id))) = .ok report ↔ _
  constructor
  · intro h
    obtain ⟨found, hfound, hreport⟩ := bind_eq_ok_iff.mp h
    exact ⟨_, (hread _).mp ⟨found, hfound, rfl⟩, (Except.ok.inj hreport).symm⟩
  · rintro ⟨outcomes, hstated, rfl⟩
    obtain ⟨found, hfound, rfl⟩ := (hread outcomes).mpr hstated
    exact bind_eq_ok_iff.mpr ⟨found, hfound, rfl⟩

theorem map_eq_map_some_iff {α β : Type} {f : α → Option β} {xs : List α} {ys : List β} :
    xs.map f = ys.map some ↔ (∀ x ∈ xs, f x ≠ none) ∧ ys = xs.filterMap f := by
  induction xs generalizing ys with
  | nil => cases ys <;> simp
  | cons x xs ih =>
    rw [List.map_cons, List.forall_mem_cons, List.filterMap_cons]
    cases hx : f x with
    | none => cases ys <;> simp
    | some y =>
      cases ys with
      | nil => simp
      | cons z ys =>
        rw [List.map_cons, List.cons.injEq, ih]
        simp only [Option.some.injEq, ne_eq, reduceCtorEq, not_false_eq_true, true_and,
          List.cons.injEq]
        tauto

/-- A text is the report of the outcomes that its statements state, and each has to state one. -/
theorem parse_eq_ok_iff_filterMap {vocabulary : Vocabulary} {text : String} {report : Report} :
    parse vocabulary text = .ok report ↔
      (∀ line ∈ statements text, statedOutcome? vocabulary line ≠ none) ∧
        report = ofOutcomes ((statements text).filterMap (statedOutcome? vocabulary)) := by
  simp only [parse_eq_ok_iff, map_eq_map_some_iff, and_assoc, exists_and_left, exists_eq_left]

end Report

end FindingCheck
