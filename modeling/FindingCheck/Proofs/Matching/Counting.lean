import FindingCheck.Proofs.Matching.Pairing
import FindingCheck.Proofs.Matching.Reordering
import Mathlib.Algebra.Order.BigOperators.Group.Finset

/-!
# Matching diagnostics by counting

What an expectation accepts of diagnostics is known from a line and a content, and each diagnostic
offers one content on one line. So the expectations that want the same take turns at the diagnostics
that offer it, and nobody else takes those: an expectation passes if fewer expectations in front of
it want the same than there are diagnostics that offer it. No other way to pair expectations with
diagnostics lets more of them pass.

## Main definitions

* `Expectation.want`, `Diagnostic.offer` — the classes of expectations and of diagnostics
* `Report.passesOn` — how many expectations on a line pass

## Main statements

* `Matching.claimOutcomes_eq_mapIdx` — what becomes of each expectation
* `Matching.countP_claims_want` — how many expectations of one class pass
* `Pairing.pairsOn_le` — no pairing serves more expectations of a line
* `matchFile_counts` — all of this for the report on a file
-/

namespace FindingCheck

/-- What an expectation wants: a content on its line. Expectations of mismatches, and of
conversions that cannot be, want the same content; others want what has their kind and fields. -/
def Expectation.want (expectation : Expectation) : UInt32 × Option (String × List String) :=
  (expectation.line, expectation.fact.content)

/-- What a diagnostic offers. -/
def Diagnostic.offer (diagnostic : Diagnostic) : UInt32 × Option (String × List String) :=
  (diagnostic.line, diagnostic.content)

theorem Expectation.accepts_iff_offer {expectation : Expectation} {diagnostic : Diagnostic} :
    expectation.accepts diagnostic = true ↔ diagnostic.offer = expectation.want := by
  rw [Diagnostic.accepts_iff, Diagnostic.offer, want, Prod.mk.injEq]

/-- Two facts want the same content only if both ask for a mismatch or they are equal. -/
theorem Fact.content_eq_iff {a b : Fact} :
    a.content = b.content ↔ a.content = none ∧ b.content = none ∨ a = b := by
  cases a <;> cases b <;> simp [content]

variable {expectations : List Expectation} {diagnostics : List Diagnostic}

theorem isSome_find?_accepts (expectation : Expectation) (diagnostics : List Diagnostic) :
    (diagnostics.find? expectation.accepts).isSome =
      decide (0 < diagnostics.countP (·.offer == expectation.want)) := by
  rw [Bool.eq_iff_iff, List.find?_isSome, decide_eq_true_iff, List.countP_pos_iff]
  simp only [Expectation.accepts_iff_offer, beq_iff_eq]

/-- An expectation takes a diagnostic from its own class and leaves the other classes alone. -/
theorem countP_offer_eraseP (expectation : Expectation) (diagnostics : List Diagnostic)
    (k : UInt32 × Option (String × List String)) :
    (diagnostics.eraseP expectation.accepts).countP (·.offer == k) =
      diagnostics.countP (·.offer == k) - if expectation.want = k then 1 else 0 := by
  have hcount := (perm_find?_eraseP expectation.accepts diagnostics).countP_eq (·.offer == k)
  rw [List.countP_append] at hcount
  cases hfound : diagnostics.find? expectation.accepts with
  | none =>
    rw [hfound] at hcount
    have hzero : expectation.want = k → diagnostics.countP (·.offer == k) = 0 := by
      rintro rfl
      have hnone := isSome_find?_accepts expectation diagnostics
      rw [hfound] at hnone
      simpa using hnone
    rw [Option.toList_none, List.countP_nil, Nat.zero_add] at hcount
    rw [← hcount]
    by_cases hk : expectation.want = k
    · rw [hzero hk, Nat.zero_sub]
    · rw [if_neg hk, Nat.sub_zero]
  | some diagnostic =>
    have hoffer : diagnostic.offer = expectation.want :=
      Expectation.accepts_iff_offer.mp (List.find?_some hfound)
    rw [hfound, Option.toList_some, List.countP_singleton, hoffer] at hcount
    by_cases hk : expectation.want = k
    · simp only [hk, beq_self_eq_true, if_true] at hcount ⊢
      omega
    · simp only [beq_eq_false_iff_ne.mpr hk, Bool.false_eq_true, if_false, hk] at hcount ⊢
      omega

namespace Matching

/-- What becomes of each expectation: it passes if fewer in front of it want the same than there
are diagnostics that offer it. -/
theorem claimOutcomes_eq_mapIdx (expectations : List Expectation) (diagnostics : List Diagnostic) :
    (settle expectations diagnostics).claimOutcomes =
      expectations.mapIdx fun i expectation => .ofExpectation expectation
        (decide ((expectations.take i).countP (·.want == expectation.want) <
          diagnostics.countP (·.offer == expectation.want))) := by
  induction expectations generalizing diagnostics with
  | nil => rfl
  | cons expectation more ih =>
    rw [List.mapIdx_cons]
    show Outcome.ofExpectation expectation (diagnostics.find? expectation.accepts).isSome ::
      (settle more (diagnostics.eraseP expectation.accepts)).claimOutcomes = _
    rw [ih, isSome_find?_accepts]
    congr 1
    apply List.mapIdx_eq_mapIdx_iff.mpr
    intro i hi
    rw [List.take_succ_cons, List.countP_cons, countP_offer_eraseP]
    congr 1
    rw [decide_eq_decide]
    by_cases hwant : expectation.want = more[i].want
    · simp only [hwant, beq_self_eq_true, if_true]
      omega
    · simp only [beq_eq_false_iff_ne.mpr hwant, Bool.false_eq_true, if_false, hwant]
      omega

/-- Of the expectations that want the same, as many pass as find something to take. -/
theorem countP_claims_want (expectations : List Expectation) (diagnostics : List Diagnostic)
    (k : UInt32 × Option (String × List String)) :
    (settle expectations diagnostics).claims.countP
        (fun claim => claim.2.isSome && claim.1.want == k) =
      min (expectations.countP (·.want == k)) (diagnostics.countP (·.offer == k)) := by
  induction expectations generalizing diagnostics with
  | nil => simp [settle]
  | cons expectation more ih =>
    rw [settle, List.countP_cons, ih, countP_offer_eraseP, isSome_find?_accepts, List.countP_cons]
    by_cases hwant : expectation.want = k
    · by_cases hpos : 0 < diagnostics.countP (·.offer == k)
      · simp only [hwant, hpos, decide_true, beq_self_eq_true, Bool.and_self, if_true]
        omega
      · simp only [hwant, hpos, decide_false, beq_self_eq_true, Bool.false_and, Bool.false_eq_true,
          if_true, if_false]
        omega
    · simp [hwant]

end Matching

/-! ### Counting line by line -/

/-- A count is made up of counts class by class. -/
theorem countP_eq_sum {γ δ : Type} [BEq δ] [LawfulBEq δ] (p : γ → Bool) (f : γ → δ) {xs : List γ}
    {classes : Finset δ} (h : ∀ x ∈ xs, f x ∈ classes) :
    xs.countP p = ∑ c ∈ classes, xs.countP fun x => p x && f x == c := by
  induction xs with
  | nil => simp
  | cons x xs ih =>
    obtain ⟨hx, hxs⟩ := List.forall_mem_cons.mp h
    have hone : ∑ c ∈ classes, (if (p x && f x == c) = true then 1 else 0) =
        if p x = true then 1 else 0 := by
      by_cases hp : p x = true
      · rw [Finset.sum_eq_single_of_mem (f x) hx fun c _ hc => by simp [hc.symm]]
        simp
      · simp [hp]
    simp only [List.countP_cons]
    rw [Finset.sum_add_distrib, hone, ih hxs]

/-- How many expectations on a line pass. -/
def Report.passesOn (report : Report) (line : UInt32) : Nat :=
  report.outcomes.countP fun outcome => outcome.passed && outcome.assertion.line? == some line

/-- The contents that expectations want. -/
def Expectation.contents (expectations : List Expectation) :
    Finset (Option (String × List String)) :=
  (expectations.map (·.fact.content)).toFinset

theorem Expectation.content_mem_contents {expectation : Expectation}
    (h : expectation ∈ expectations) : expectation.fact.content ∈ contents expectations :=
  List.mem_toFinset.mpr (List.mem_map_of_mem h)

theorem Expectation.line_and_content_eq (expectation : Expectation) (line : UInt32)
    (content : Option (String × List String)) :
    (expectation.line == line && expectation.fact.content == content) =
      (expectation.want == (line, content)) := by
  rw [want, Bool.eq_iff_iff, Bool.and_eq_true, beq_iff_eq, beq_iff_eq, beq_iff_eq, Prod.mk.injEq]

theorem Matching.countP_claims_line (expectations : List Expectation)
    (diagnostics : List Diagnostic) (line : UInt32) :
    (settle expectations diagnostics).claims.countP
        (fun claim => claim.2.isSome && claim.1.line == line) =
      ∑ content ∈ Expectation.contents expectations,
        min (expectations.countP (·.want == (line, content)))
          (diagnostics.countP (·.offer == (line, content))) := by
  have hclasses : ∀ claim ∈ (settle expectations diagnostics).claims,
      claim.1.fact.content ∈ Expectation.contents expectations := by
    intro claim hclaim
    apply Expectation.content_mem_contents
    have hfst := List.mem_map_of_mem (f := Prod.fst) hclaim
    rwa [map_fst_claims_settle] at hfst
  rw [countP_eq_sum _ (fun claim => claim.1.fact.content) hclasses]
  apply Finset.sum_congr rfl
  intro content _
  rw [← countP_claims_want]
  simp only [Bool.and_assoc, Expectation.line_and_content_eq]

theorem passesOn_matchFile (file : Path) (expectations : List Expectation)
    (diagnostics : List Diagnostic) (line : UInt32) :
    (matchFile file expectations diagnostics).passesOn line =
      ∑ content ∈ Expectation.contents (Expectation.inFile file expectations),
        min ((Expectation.inFile file expectations).countP (·.want == (line, content)))
          ((Finding.inFile file diagnostics).countP (·.offer == (line, content))) := by
  have hwhole (leftovers : List Leftover) : [Outcome.ofLeftovers file leftovers].countP
      (fun outcome => outcome.passed && outcome.assertion.line? == some line) = 0 := by
    simp [Outcome.ofLeftovers, Assertion.line?, Assertion.expectation?]
  rw [← Matching.countP_claims_line, Report.passesOn, outcomes_matchFile, List.countP_append, hwhole,
    Nat.add_zero, (perm_sortOn _ _).countP_eq, Matching.claimOutcomes, List.countP_map]
  apply List.countP_congr
  intro claim _
  simp [Outcome.ofExpectation, Assertion.line?, Assertion.expectation?]

/-! ### What any pairing can reach -/

namespace Pairing

variable (pairing : Pairing expectations diagnostics)

/-- The expectations of a class that have a diagnostic. -/
def served (k : UInt32 × Option (String × List String)) : List (Fin expectations.length) :=
  (List.finRange expectations.length).filter fun i =>
    (pairing.finding? i).isSome && (expectations.get i).want == k

theorem length_served_le_expectations (k : UInt32 × Option (String × List String)) :
    (pairing.served k).length ≤ expectations.countP (·.want == k) := by
  have hall : expectations.countP (·.want == k) =
      (List.finRange expectations.length).countP fun i => expectations[i].want == k := by
    conv_lhs => rw [← List.map_getElem_finRange expectations, List.countP_map]
    rfl
  rw [hall, served, ← List.countP_eq_length_filter]
  apply List.countP_mono_left
  intro i _ hi
  exact (Bool.and_eq_true_iff.mp hi).2

/-- What a class gets are different diagnostics, all of which offer what the class wants. -/
theorem length_served_le_diagnostics (k : UInt32 × Option (String × List String)) :
    (pairing.served k).length ≤ diagnostics.countP (·.offer == k) := by
  have hall : diagnostics.countP (·.offer == k) =
      ((List.finRange diagnostics.length).filter fun j => diagnostics[j].offer == k).length := by
    conv_lhs => rw [← List.map_getElem_finRange diagnostics, List.countP_map]
    rw [← List.countP_eq_length_filter]
    rfl
  have hlength : ((pairing.served k).filterMap pairing.finding?).length =
      (pairing.served k).length := by
    rw [List.length_filterMap_eq_countP, List.countP_eq_length]
    intro i hi
    exact (Bool.and_eq_true_iff.mp (List.mem_filter.mp hi).2).1
  have hnodup : ((pairing.served k).filterMap pairing.finding?).Nodup := by
    apply List.Nodup.filterMap
    · intro i j l hi hj
      exact pairing.injective i j l hi hj
    · exact (List.nodup_finRange _).filter _
  rw [hall, ← hlength]
  apply (List.subperm_of_subset hnodup _).length_le
  intro j hj
  obtain ⟨i, hi, hij⟩ := List.mem_filterMap.mp hj
  have hwant : expectations[i].want = k :=
    beq_iff_eq.mp (Bool.and_eq_true_iff.mp (List.mem_filter.mp hi).2).2
  have hoffer := Expectation.accepts_iff_offer.mp (pairing.accepts i j hij)
  rw [hwant] at hoffer
  exact List.mem_filter.mpr ⟨List.mem_finRange j, beq_iff_eq.mpr hoffer⟩

/-- A pairing serves on a line no more of a class than there are, nor than find something. -/
theorem pairsOn_le (line : UInt32) :
    pairing.pairsOn line ≤ ∑ content ∈ Expectation.contents expectations,
      min (expectations.countP (·.want == (line, content)))
        (diagnostics.countP (·.offer == (line, content))) := by
  rw [pairsOn, countP_eq_sum _ (fun i => expectations[i].fact.content)
    (fun i _ => Expectation.content_mem_contents (List.getElem_mem i.isLt))]
  apply Finset.sum_le_sum
  intro content _
  have hserved : ((List.finRange expectations.length).countP fun i =>
      (pairing.finding? i).isSome && expectations[i].line == line &&
        expectations[i].fact.content == content) = (pairing.served (line, content)).length := by
    rw [served, ← List.countP_eq_length_filter]
    simp only [Bool.and_assoc, Expectation.line_and_content_eq]
    rfl
  rw [hserved]
  exact le_min (pairing.length_served_le_expectations _) (pairing.length_served_le_diagnostics _)

end Pairing

/-- Expectations in another order have the same contents. -/
theorem Expectation.contents_perm {others : List Expectation} (h : others.Perm expectations) :
    contents others = contents expectations :=
  List.toFinset_eq_of_perm _ _ (h.map _)

/-- Diagnostics go to expectations by count. An expectation passes exactly if fewer expectations
in front of it want the same than diagnostics of the file offer it. So on each line as many pass as
there are expectations or diagnostics of each class, whichever are fewer; no pairing reaches more,
and neither the order of the expectations nor that of the diagnostics has an influence on it. -/
theorem matchFile_counts (file : Path) (expectations : List Expectation)
    (diagnostics : List Diagnostic) :
    (matchFile file expectations diagnostics).outcomes.filter (!·.assertion.isWholeFile) =
      sortOn Outcome.assertion
        ((Expectation.inFile file expectations).mapIdx fun i expectation =>
          .ofExpectation expectation (decide
            (((Expectation.inFile file expectations).take i).countP (·.want == expectation.want) <
              (Finding.inFile file diagnostics).countP (·.offer == expectation.want)))) ∧
    (∀ line, (matchFile file expectations diagnostics).passesOn line =
      ∑ content ∈ Expectation.contents (Expectation.inFile file expectations),
        min ((Expectation.inFile file expectations).countP (·.want == (line, content)))
          ((Finding.inFile file diagnostics).countP (·.offer == (line, content)))) ∧
    (∀ pairing : Pairing (Expectation.inFile file expectations) (Finding.inFile file diagnostics),
      ∀ line, pairing.pairsOn line ≤ (matchFile file expectations diagnostics).passesOn line) ∧
    ∀ others reordered, others.Perm expectations → reordered.Perm diagnostics → ∀ line,
      (matchFile file others reordered).passesOn line =
        (matchFile file expectations diagnostics).passesOn line := by
  refine ⟨?_, passesOn_matchFile file expectations diagnostics, ?_, ?_⟩
  · rw [filter_outcomes_matchFile, Matching.ofFile, Matching.claimOutcomes_eq_mapIdx]
    rfl
  · intro pairing line
    rw [passesOn_matchFile]
    exact pairing.pairsOn_le line
  · intro others reordered hothers hreordered line
    have hexpected : (Expectation.inFile file others).Perm (Expectation.inFile file expectations) :=
      hothers.filter _
    have hfound : (Finding.inFile file reordered).Perm (Finding.inFile file diagnostics) :=
      hreordered.filter _
    rw [passesOn_matchFile, passesOn_matchFile, Expectation.contents_perm hexpected]
    apply Finset.sum_congr rfl
    intro content _
    rw [hexpected.countP_eq, hfound.countP_eq]

/-- Two expectations on one line that a mismatch meets, and a third that it does not. -/
def rivalExpectations : List Expectation := [
  ⟨⟨"One.java"⟩, 2, "test:cannot-convert:A to B", .cannotConvert "A" "B"⟩,
  ⟨⟨"One.java"⟩, 2, "jspecify_nullness_mismatch", .nullnessMismatch⟩,
  ⟨⟨"One.java"⟩, 2, "test:sink-type:A:b", .sinkType "A" "b"⟩]

/-- One mismatch, and a type of a place that takes values. -/
def scarceDiagnostics : List Diagnostic := [
  { file := ⟨"One.java"⟩, line := 2, key := "argument", severity := .error },
  { file := ⟨"One.java"⟩, line := 2, key := "sink.type", severity := .note, arguments := ["A", "b"] }]

theorem matchFile_counts_scarceDiagnostics :
    (matchFile ⟨"One.java"⟩ rivalExpectations scarceDiagnostics).passesOn 2 = 2 ∧
      (matchFile ⟨"One.java"⟩ rivalExpectations.reverse scarceDiagnostics.reverse).passesOn 2 = 2 := by
  obtain ⟨-, hcount, -, hperm⟩ :=
    matchFile_counts ⟨"One.java"⟩ rivalExpectations scarceDiagnostics
  have htwo : (matchFile ⟨"One.java"⟩ rivalExpectations scarceDiagnostics).passesOn 2 = 2 := by
    rw [hcount]
    decide +kernel
  refine ⟨htwo, ?_⟩
  rw [hperm _ _ (List.reverse_perm _) (List.reverse_perm _)]
  exact htwo

end FindingCheck
