import FindingCheck.Diagnostic
import FindingCheck.Proofs.Matching.Outcomes
import FindingCheck.Proofs.Reading.Renumbering
import Mathlib.Data.List.Find

/-!
# Matching on renumbered lines

An expectation takes findings on its line, and reports are sorted by line. So if new numbers keep
the order of the lines that matter, every expectation takes what it took before, and the report is
the same with the new numbers in it.

## Main definitions

* `KeepsOrder` — new numbers that keep the order of certain lines
* `Finding.Renumbers` — findings with new numbers
* `Outcome.renumber` — what became of an assertion, with new numbers

## Main statements

* `Matching.settle_renumber` — expectations take the same
* `outcomes_matchFile_renumber` — the report is the same
-/

namespace FindingCheck

/-- The new numbers of the lines in question come in the same order as the old ones. -/
def KeepsOrder (number : UInt32 → UInt32) (among : UInt32 → Prop) : Prop :=
  ∀ a b, among a → among b → compare (number a) (number b) = compare a b

theorem KeepsOrder.beq_eq {number : UInt32 → UInt32} {among : UInt32 → Prop}
    (h : KeepsOrder number among) {a b : UInt32} (ha : among a) (hb : among b) :
    (number a == number b) = (a == b) := by
  rw [Bool.eq_iff_iff, beq_iff_eq, beq_iff_eq, ← Std.LawfulEqOrd.compare_eq_iff_eq, h a b ha hb,
    Std.LawfulEqOrd.compare_eq_iff_eq]

variable {α β : Type} [Finding α] [Finding β]

/-- A finding that was moved says the same as before, on the line with the new number. -/
structure Finding.Renumbers (number : UInt32 → UInt32) (move : α → β) : Prop where
  file : ∀ finding, Finding.file (move finding) = Finding.file finding
  line : ∀ finding, Finding.line (move finding) = number (Finding.line finding)
  mustBeExpected : ∀ finding,
    Finding.mustBeExpected (move finding) = Finding.mustBeExpected finding
  text : ∀ finding, Finding.text (move finding) = Finding.text finding
  satisfies : ∀ finding fact, Finding.satisfies (move finding) fact = Finding.satisfies finding fact

/-- A diagnostic on the line with the new number. -/
def Diagnostic.renumber (number : UInt32 → UInt32) (diagnostic : Diagnostic) : Diagnostic :=
  { diagnostic with line := number diagnostic.line }

theorem Diagnostic.renumbers (number : UInt32 → UInt32) :
    Finding.Renumbers number (Diagnostic.renumber number) where
  file _ := rfl
  line _ := rfl
  mustBeExpected _ := rfl
  text _ := rfl
  satisfies _ fact := by cases fact <;> rfl

variable (number : UInt32 → UInt32)

def Leftover.renumber (leftover : Leftover) : Leftover :=
  { leftover with line := number leftover.line }

def Assertion.renumber : Assertion → Assertion
  | expected expectation => expected (expectation.renumber number)
  | noUnexpected file => noUnexpected file

/-- What became of an assertion, with the new numbers in it and in its leftovers. -/
def Outcome.renumber (outcome : Outcome) : Outcome where
  assertion := outcome.assertion.renumber number
  passed := outcome.passed
  leftovers := outcome.leftovers.map (Leftover.renumber number)

variable {number} {among : UInt32 → Prop} {move : α → β}

theorem Leftover.ofFinding_move (hmove : Finding.Renumbers number move) (finding : α) :
    ofFinding (move finding) = (ofFinding finding).renumber number := by
  simp [ofFinding, renumber, hmove.line, hmove.mustBeExpected, hmove.text]

/-! ### Taking findings -/

theorem Expectation.accepts_renumber (hnumber : KeepsOrder number among)
    (hmove : Finding.Renumbers number move) {expectation : Expectation} {finding : α}
    (hexpectation : among expectation.line) (hfinding : among (Finding.line finding)) :
    (expectation.renumber number).accepts (move finding) = expectation.accepts finding := by
  rw [accepts, accepts, hmove.line, hmove.satisfies, renumber,
    hnumber.beq_eq hfinding hexpectation]

theorem eraseP_congr {γ : Type} {p q : γ → Bool} {xs : List γ} (h : ∀ x ∈ xs, p x = q x) :
    xs.eraseP p = xs.eraseP q := by
  induction xs with
  | nil => rfl
  | cons x xs ih =>
    obtain ⟨hx, hxs⟩ := List.forall_mem_cons.mp h
    rw [List.eraseP_cons, List.eraseP_cons, hx, ih hxs]

namespace Matching

/-- A matching on the lines with the new numbers. -/
def renumber (number : UInt32 → UInt32) (move : α → β) (matching : Matching α) : Matching β where
  claims := matching.claims.map fun claim => (claim.1.renumber number, claim.2.map move)
  unclaimed := matching.unclaimed.map move

/-- Expectations take the same findings when both are moved to new lines. -/
theorem settle_renumber (hnumber : KeepsOrder number among) (hmove : Finding.Renumbers number move)
    {expectations : List Expectation} {findings : List α}
    (hexpectations : ∀ expectation ∈ expectations, among expectation.line)
    (hfindings : ∀ finding ∈ findings, among (Finding.line finding)) :
    settle (expectations.map (Expectation.renumber number)) (findings.map move) =
      (settle expectations findings).renumber number move := by
  induction expectations generalizing findings with
  | nil => rfl
  | cons expectation more ih =>
    obtain ⟨hexpectation, hmore⟩ := List.forall_mem_cons.mp hexpectations
    have haccepts : ∀ finding ∈ findings,
        ((expectation.renumber number).accepts ∘ move) finding = expectation.accepts finding :=
      fun finding hfinding =>
        Expectation.accepts_renumber hnumber hmove hexpectation (hfindings finding hfinding)
    have hlater := ih hmore fun finding hfinding =>
      hfindings finding (List.mem_of_mem_eraseP (p := expectation.accepts) hfinding)
    rw [List.map_cons, settle, settle, List.find?_map, List.eraseP_map, eraseP_congr haccepts,
      hlater, List.find?_congr haccepts]
    rfl

theorem leftovers_renumber (hnumber : KeepsOrder number among)
    (hmove : Finding.Renumbers number move) {matching : Matching α}
    (hunclaimed : ∀ finding ∈ matching.unclaimed, among (Finding.line finding)) :
    (matching.renumber number move).leftovers =
      matching.leftovers.map (Leftover.renumber number) := by
  have hsorted : sortOn Finding.line (matching.unclaimed.map move) =
      (sortOn Finding.line matching.unclaimed).map move := by
    refine sortOn_map fun a ha b hb => ?_
    rw [hmove.line, hmove.line]
    exact hnumber _ _ (hunclaimed a ha) (hunclaimed b hb)
  show (sortOn Finding.line (matching.unclaimed.map move)).map Leftover.ofFinding = _
  rw [hsorted, leftovers, List.map_map, List.map_map]
  exact List.map_congr_left fun finding _ => Leftover.ofFinding_move hmove finding

theorem outcomes_renumber (hnumber : KeepsOrder number among)
    (hmove : Finding.Renumbers number move) {matching : Matching α}
    (hunclaimed : ∀ finding ∈ matching.unclaimed, among (Finding.line finding)) (file : Path) :
    (matching.renumber number move).outcomes file =
      (matching.outcomes file).map (Outcome.renumber number) := by
  have hclaims : ((matching.renumber number move).claims.map fun claim =>
        Outcome.ofExpectation claim.1 claim.2.isSome) =
      (matching.claims.map fun claim =>
        Outcome.ofExpectation claim.1 claim.2.isSome).map (Outcome.renumber number) := by
    rw [renumber, List.map_map, List.map_map]
    refine List.map_congr_left fun claim _ => ?_
    simp [Outcome.ofExpectation, Outcome.renumber, Assertion.renumber]
  have hwhole (leftovers : List Leftover) :
      Outcome.ofLeftovers file (leftovers.map (Leftover.renumber number)) =
        (Outcome.ofLeftovers file leftovers).renumber number := by
    simp [Outcome.ofLeftovers, Outcome.renumber, Assertion.renumber, Leftover.renumber,
      Function.comp_def]
  rw [outcomes, outcomes, hclaims, leftovers_renumber hnumber hmove hunclaimed, hwhole,
    List.map_append, List.map_singleton]

end Matching

/-! ### The report -/

/-- New numbers that keep the order of lines keep the order of assertions on them. -/
theorem Assertion.compare_renumber (hnumber : KeepsOrder number among) {a b : Assertion}
    (ha : ∀ expectation, a = .expected expectation → among expectation.line)
    (hb : ∀ expectation, b = .expected expectation → among expectation.line) :
    compare (a.renumber number) (b.renumber number) = compare a b := by
  cases a with
  | noUnexpected a => cases b <;> rfl
  | expected a =>
    cases b with
    | noUnexpected b => rfl
    | expected b =>
      have hline : compare (number a.line) (number b.line) = compare a.line b.line :=
        hnumber _ _ (ha a rfl) (hb b rfl)
      show (compare a.file b.file).then ((compare false false).then ((compare a.file b.file).then
        ((compare (number a.line) (number b.line)).then _))) = _
      rw [hline]
      rfl

/-- The report on a file with new numbers of its lines, where these keep the order of the lines
of expectations and findings: the same outcomes in the same order, with the new numbers. -/
theorem outcomes_matchFile_renumber (hnumber : KeepsOrder number among)
    (hmove : Finding.Renumbers number move) {file : Path} {expectations : List Expectation}
    {findings : List α} (hexpectations : ∀ expectation ∈ expectations, among expectation.line)
    (hfindings : ∀ finding ∈ findings, (Finding.file finding == file) = true →
      among (Finding.line finding)) :
    (matchFile file (expectations.map (Expectation.renumber number)) (findings.map move)).outcomes =
      (matchFile file expectations findings).outcomes.map (Outcome.renumber number) := by
  have hexpected : (expectations.map (Expectation.renumber number)).filter (·.file == file) =
      (expectations.filter (·.file == file)).map (Expectation.renumber number) := by
    rw [List.filter_map]
    rfl
  have hfound : (findings.map move).filter (Finding.file · == file) =
      (findings.filter (Finding.file · == file)).map move := by
    rw [List.filter_map]
    refine congrArg _ (List.filter_congr fun finding _ => ?_)
    rw [Function.comp_apply, hmove.file]
  have hlines : ∀ finding ∈ findings.filter (Finding.file · == file),
      among (Finding.line finding) := fun finding hfinding =>
    hfindings finding (List.mem_filter.mp hfinding).1 (List.mem_filter.mp hfinding).2
  have hmatching : Matching.ofFile file (expectations.map (Expectation.renumber number))
      (findings.map move) = (Matching.ofFile file expectations findings).renumber number move := by
    rw [Matching.ofFile, Matching.ofFile, hexpected, hfound]
    exact Matching.settle_renumber hnumber hmove
      (fun expectation h => hexpectations expectation (List.mem_filter.mp h).1) hlines
  have hunclaimed : ∀ finding ∈ (Matching.ofFile file expectations findings).unclaimed,
      among (Finding.line finding) := fun finding hfinding =>
    hlines finding ((Matching.perm_settle _ _).mem_iff.mpr (List.mem_append_right _ hfinding))
  have hasserted : ∀ outcome ∈ (Matching.ofFile file expectations findings).outcomes file,
      ∀ expectation, outcome.assertion = .expected expectation → among expectation.line := by
    intro outcome houtcome expectation hassertion
    have hmem := List.mem_map_of_mem (f := Outcome.assertion) houtcome
    rw [Matching.map_assertion_outcomes, hassertion] at hmem
    have hdeclared : expectation ∈ expectations ∧ (expectation.file == file) = true := by
      simpa using hmem
    exact hexpectations expectation hdeclared.1
  show sortOn Outcome.assertion (Matching.outcomes _ file) = _
  rw [hmatching, Matching.outcomes_renumber hnumber hmove hunclaimed]
  exact sortOn_map fun a ha b hb =>
    Assertion.compare_renumber hnumber (hasserted a ha) (hasserted b hb)

end FindingCheck
