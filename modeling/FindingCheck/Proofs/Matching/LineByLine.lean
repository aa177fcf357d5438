import FindingCheck.Proofs.Matching.Pairing

/-!
# Matching line by line

An expectation takes a finding from its own line, and so the lines of a file have nothing to do with
each other. How the expectations and the findings of different lines are mixed has no influence on
the report.

## Main definitions

* `Expectation.onLine`, `Finding.onLine`, `Matching.onLine` — what belongs to one line

## Main statements

* `Finding.onLine_eraseP` — what an expectation leaves on a line
* `Matching.onLine_settle` — the matching on a line is that of what belongs to the line
* `matchFile_eq_of_onLine_eq` — the report on a file is known from its lines
-/

namespace FindingCheck

variable {α : Type} [Finding α]

/-- The expectations on a line. -/
def Expectation.onLine (line : UInt32) (expectations : List Expectation) : List Expectation :=
  expectations.filter (·.line == line)

/-- The findings on a line. -/
def Finding.onLine (line : UInt32) (findings : List α) : List α :=
  findings.filter (Finding.line · == line)

theorem Expectation.onLine_cons (line : UInt32) (expectation : Expectation)
    (more : List Expectation) :
    onLine line (expectation :: more) =
      if expectation.line == line then expectation :: onLine line more else onLine line more :=
  List.filter_cons

theorem Expectation.line_of_accepts {expectation : Expectation} {finding : α}
    (h : expectation.accepts finding = true) : Finding.line finding = expectation.line :=
  beq_iff_eq.mp (Bool.and_eq_true_iff.mp h).1

namespace Finding

/-- An expectation finds the same on its line alone. -/
theorem find?_onLine (expectation : Expectation) (findings : List α) :
    (onLine expectation.line findings).find? expectation.accepts =
      findings.find? expectation.accepts := by
  rw [onLine, List.find?_filter]
  refine List.find?_congr fun finding _ => ?_
  rw [Bool.eq_iff_iff, decide_eq_true_iff]
  refine ⟨fun h => h.2, fun h => ⟨?_, h⟩⟩
  exact beq_iff_eq.mpr (Expectation.line_of_accepts h)

/-- An expectation takes what it takes from its line, and leaves the other lines as they are. -/
theorem onLine_eraseP (line : UInt32) (expectation : Expectation) (findings : List α) :
    onLine line (findings.eraseP expectation.accepts) =
      if expectation.line == line then (onLine line findings).eraseP expectation.accepts
      else onLine line findings := by
  by_cases hline : (expectation.line == line) = true
  · rw [if_pos hline, onLine, onLine, List.eraseP_filter]
    refine congrArg _ (eraseP_congr fun finding _ => ?_)
    rw [Bool.eq_iff_iff, Bool.and_eq_true_iff]
    refine ⟨fun h => ⟨h, ?_⟩, fun h => h.1⟩
    rw [Expectation.line_of_accepts h]
    exact hline
  · rw [if_neg hline]
    rcases List.eraseP_eq_iff.mp (rfl : findings.eraseP expectation.accepts = _) with
      ⟨-, hsame⟩ | ⟨finding, front, back, -, haccepts, hfindings, herase⟩
    · rw [← hsame]
    · -- what was taken is on another line
      have hother : ¬(Finding.line finding == line) = true := by
        rw [Expectation.line_of_accepts haccepts]
        exact hline
      rw [herase, hfindings, onLine, onLine, List.filter_append, List.filter_append,
        List.filter_cons, if_neg hother]

end Finding

namespace Matching

/-- What a matching says of one line. -/
def onLine (line : UInt32) (matching : Matching α) : Matching α where
  claims := matching.claims.filter (·.1.line == line)
  unclaimed := Finding.onLine line matching.unclaimed

/-- On each line, the expectations take findings as if there were no other line. -/
theorem onLine_settle (line : UInt32) (expectations : List Expectation) (findings : List α) :
    (settle expectations findings).onLine line =
      settle (Expectation.onLine line expectations) (Finding.onLine line findings) := by
  induction expectations generalizing findings with
  | nil => rfl
  | cons expectation more ih =>
    have hlater := ih (findings.eraseP expectation.accepts)
    rw [Finding.onLine_eraseP] at hlater
    rw [Expectation.onLine_cons, settle]
    by_cases hline : (expectation.line == line) = true
    · rw [if_pos hline] at hlater
      rw [if_pos hline, settle, ← hlater, ← beq_iff_eq.mp hline, Finding.find?_onLine]
      simp [onLine]
    · rw [if_neg hline] at hlater
      rw [if_neg hline, ← hlater]
      simp [onLine, hline]

end Matching

/-! ### The report -/

variable {line : UInt32}

/-- What is level with a key is in every part that holds all that is level with it. -/
theorem tie_filter {γ β : Type} [Ord β] {key : γ → β} {k : β} {p : γ → Bool} {xs : List γ}
    (h : ∀ x ∈ xs, compare (key x) k = .eq → p x = true) :
    tie key k (xs.filter p) = tie key k xs := by
  rw [tie, tie, List.filter_filter]
  refine List.filter_congr fun x hx => ?_
  rw [Bool.eq_iff_iff, Bool.and_eq_true_iff, beq_iff_eq]
  exact ⟨fun hlevel => hlevel.1, fun hlevel => ⟨hlevel, h x hx hlevel⟩⟩

namespace Matching

theorem claimOutcomes_onLine (line : UInt32) (matching : Matching α) :
    (matching.onLine line).claimOutcomes =
      matching.claimOutcomes.filter fun outcome => outcome.assertion.line? == some line := by
  rw [claimOutcomes, claimOutcomes, List.filter_map]
  rfl

/-- The outcomes of expectations are sorted to the same list if they agree line by line. -/
theorem sortOn_claimOutcomes_eq {matching other : Matching α}
    (h : ∀ line, matching.onLine line = other.onLine line) :
    sortOn Outcome.assertion matching.claimOutcomes =
      sortOn Outcome.assertion other.claimOutcomes := by
  refine sortOn_eq_sortOn_iff.mpr fun k => ?_
  -- what is level with an expectation is on its line; nothing is level with a whole file
  cases k with
  | expected expectation =>
    have hline (m : Matching α) : ∀ outcome ∈ m.claimOutcomes,
        compare outcome.assertion (.expected expectation) = .eq →
          (outcome.assertion.line? == some expectation.line) = true := by
      intro outcome houtcome hlevel
      obtain ⟨claim, -, rfl⟩ := List.mem_map.mp houtcome
      obtain ⟨-, hsame, -⟩ := Expectation.beq_iff.mp (Assertion.compare_eq_iff.mp hlevel)
      exact beq_iff_eq.mpr (congrArg some hsame)
    rw [← tie_filter (hline matching), ← claimOutcomes_onLine, h, claimOutcomes_onLine,
      tie_filter (hline other)]
  | noUnexpected file =>
    have hnil (m : Matching α) : tie Outcome.assertion (.noUnexpected file) m.claimOutcomes = [] := by
      refine List.eq_nil_iff_forall_not_mem.mpr fun outcome houtcome => ?_
      obtain ⟨hmem, hlevel⟩ := mem_tie.mp houtcome
      obtain ⟨claim, -, rfl⟩ := List.mem_map.mp hmem
      cases Assertion.compare_eq_iff.mp hlevel
    rw [hnil, hnil]

theorem leftovers_eq_of_onLine_eq {matching other : Matching α}
    (h : ∀ line, matching.onLine line = other.onLine line) :
    matching.leftovers = other.leftovers := by
  have hsorted : sortOn Finding.line matching.unclaimed = sortOn Finding.line other.unclaimed := by
    refine sortOn_eq_sortOn_iff.mpr fun line => ?_
    have htie (m : Matching α) : tie Finding.line line m.unclaimed = (m.onLine line).unclaimed := by
      refine List.filter_congr fun finding _ => ?_
      rw [Bool.eq_iff_iff, beq_iff_eq, beq_iff_eq]
      exact Std.LawfulEqOrd.compare_eq_iff_eq
    rw [htie, htie, h]
  rw [leftovers, leftovers, hsorted]

end Matching

/-- The lines of a file are independent of each other. Let the expectations for a file on each
line be the same, in the same order, and so let the findings in the file be. Then the reports on the
file are equal, however the lines are mixed, and whatever belongs to other files. -/
theorem matchFile_eq_of_onLine_eq {file : Path} {expectations others : List Expectation}
    {findings reported : List α}
    (hexpectations : ∀ line, Expectation.onLine line (Expectation.inFile file expectations) =
      Expectation.onLine line (Expectation.inFile file others))
    (hfindings : ∀ line, Finding.onLine line (Finding.inFile file findings) =
      Finding.onLine line (Finding.inFile file reported)) :
    matchFile file expectations findings = matchFile file others reported := by
  have honLine : ∀ line, (Matching.ofFile file expectations findings).onLine line =
      (Matching.ofFile file others reported).onLine line := by
    intro line
    rw [Matching.ofFile, Matching.onLine_settle, Matching.ofFile, Matching.onLine_settle]
    exact congrArg₂ Matching.settle (hexpectations line) (hfindings line)
  refine Report.eq_of_outcomes_eq ?_
  rw [outcomes_matchFile, outcomes_matchFile, Matching.sortOn_claimOutcomes_eq honLine,
    Matching.leftovers_eq_of_onLine_eq honLine]

/-- A mismatch expected on a line. -/
def mismatchOn (line : UInt32) : Expectation :=
  ⟨⟨"A.java"⟩, line, "jspecify_nullness_mismatch", .nullnessMismatch⟩

/-- A mismatch found on a line of a file. -/
def argumentIn (file : Path) (line : UInt32) : Diagnostic :=
  { file, line, key := "argument", severity := .error }

theorem matchFile_eq_of_onLine_eq_mixed :
    matchFile ⟨"A.java"⟩ [mismatchOn 2, mismatchOn 5, mismatchOn 2]
        [argumentIn ⟨"A.java"⟩ 7, argumentIn ⟨"A.java"⟩ 2] =
      matchFile ⟨"A.java"⟩ [mismatchOn 5, mismatchOn 2, mismatchOn 2]
        [argumentIn ⟨"B.java"⟩ 5, argumentIn ⟨"A.java"⟩ 2, argumentIn ⟨"A.java"⟩ 7] := by
  have hforeign : ((⟨"B.java"⟩ : Path) == ⟨"A.java"⟩) = false := by decide +kernel
  apply matchFile_eq_of_onLine_eq
  · intro line
    by_cases htwo : 2 = line
    · subst htwo
      simp [Expectation.inFile, Expectation.onLine, mismatchOn]
    · simp [Expectation.inFile, Expectation.onLine, mismatchOn, List.filter_cons, htwo]
  · intro line
    by_cases htwo : 2 = line
    · subst htwo
      simp [Finding.inFile, Finding.onLine, argumentIn, Finding.file, Finding.line, hforeign]
    · simp [Finding.inFile, Finding.onLine, argumentIn, Finding.file, Finding.line,
        List.filter_cons, hforeign, htwo]

end FindingCheck
