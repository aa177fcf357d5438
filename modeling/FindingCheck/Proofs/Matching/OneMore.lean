import FindingCheck.Proofs.Matching.Pairing

/-!
# One more finding, one more expectation

Let there be one finding more. An expectation that takes it leaves what it took before to the later
ones, and one of these may take that and leave something else. At every step of this the findings
that remain are the ones that remained before and one more, so in the end either one more
expectation passes or one more finding is left over, and nothing else changes.

One more expectation takes one finding away, which is the same seen from the other side.

## Main definitions

* `OneMore` — a list with one more thing at some place
* `TurnsAt`, `OneTurns` — where an expectation fails before and passes after
* `Matching.Gains` — what comes of one more finding
* `Matching.Costs` — what comes of one more expectation
* `Report.Shows` — what a report on a file shows of each expectation, and of the file

## Main statements

* `OneMore.take` — what an expectation takes if there is one finding more
* `OneMore.settle` — what the expectations take, one after the other
* `Matching.settle_insert` — what they take if there is one expectation more
* `Report.Shows.unique` — a report shows one thing only
* `matchFile_insert_finding` — the report with one more finding
* `matchFile_insert_expectation` — the report with one more expectation
-/

namespace FindingCheck

/-- One list is the other with one more thing at some place. -/
def OneMore {γ : Type} (xs ys : List γ) : Prop :=
  ∃ front x back, xs = front ++ back ∧ ys = front ++ x :: back

namespace OneMore

variable {γ δ : Type} {xs ys : List γ}

theorem map (f : γ → δ) (h : OneMore xs ys) : OneMore (xs.map f) (ys.map f) := by
  obtain ⟨front, x, back, rfl, rfl⟩ := h
  exact ⟨front.map f, f x, back.map f, List.map_append, by rw [List.map_append, List.map_cons]⟩

/-- Sorting finds a place for one more thing and moves nothing else. -/
theorem sortOn [Ord δ] [Std.TransOrd δ] (key : γ → δ) (h : OneMore xs ys) :
    OneMore (sortOn key xs) (sortOn key ys) := by
  obtain ⟨front, x, back, rfl, rfl⟩ := h
  induction front with
  | nil =>
    obtain ⟨before, after, hmore, hless, -⟩ :=
      List.mergeSort_cons (notBehind_trans key) (notBehind_total key) x back
    exact ⟨before, x, after, hless, hmore⟩
  | cons y front ih =>
    -- the other things are divided at `y` as before, and the one more goes to one of the sides
    obtain ⟨before, z, after, hless, hmore⟩ := ih
    rw [List.cons_append, List.cons_append, sortOn_cons, sortOn_cons, hless, hmore,
      List.filter_append, List.filter_append, List.filter_append, List.filter_append]
    by_cases hz : notBehind key y z = true
    · refine ⟨before.filter (!notBehind key y ·) ++ after.filter (!notBehind key y ·) ++
        y :: before.filter (notBehind key y), z, after.filter (notBehind key y), ?_, ?_⟩
      · simp
      · simp [hz]
    · refine ⟨before.filter (!notBehind key y ·), z, after.filter (!notBehind key y ·) ++
        y :: (before.filter (notBehind key y) ++ after.filter (notBehind key y)), ?_, ?_⟩
      · simp
      · simp [hz]

/-- Taking something leaves one thing less. -/
theorem eraseP {p : γ → Bool} (h : (xs.find? p).isSome = true) : OneMore (xs.eraseP p) xs := by
  obtain ⟨x, hx, hp⟩ := List.find?_isSome.mp h
  obtain ⟨y, front, back, -, -, hxs, herase⟩ := List.exists_of_eraseP hx hp
  exact ⟨front, y, back, herase, hxs⟩

/-- Let there be one more thing. Who takes the first thing that will do then leaves one more, or
has found nothing before and finds something now. -/
theorem take (h : OneMore xs ys) (p : γ → Bool) :
    (xs.find? p).isSome = (ys.find? p).isSome ∧ OneMore (xs.eraseP p) (ys.eraseP p) ∨
      (xs.find? p).isSome = false ∧ (ys.find? p).isSome = true ∧ xs.eraseP p = ys.eraseP p := by
  obtain ⟨front, x, back, rfl, rfl⟩ := h
  by_cases hfront : ∃ y ∈ front, p y = true
  · -- it is found in front of the one more thing
    obtain ⟨y, hy, hp⟩ := hfront
    have hfound : (front.find? p).isSome = true := List.find?_isSome.mpr ⟨y, hy, hp⟩
    rw [List.find?_append, List.find?_append, Option.isSome_or, Option.isSome_or, hfound,
      List.eraseP_append_left hp _ hy, List.eraseP_append_left hp _ hy]
    exact .inl ⟨rfl, front.eraseP p, x, back, rfl, rfl⟩
  · have hnone : ∀ y ∈ front, ¬p y = true := fun y hy hp => hfront ⟨y, hy, hp⟩
    have hskip (zs : List γ) : (front ++ zs).find? p = zs.find? p := by
      rw [List.find?_append, List.find?_eq_none.mpr hnone, Option.none_or]
    by_cases hx : p x = true
    · -- the one more thing is taken, and whatever was taken before remains in its place
      have herase : (front ++ x :: back).eraseP p = front ++ back := by
        rw [List.eraseP_append_right _ hnone, List.eraseP_cons_of_pos hx]
      have hfound : ((front ++ x :: back).find? p).isSome = true := by
        rw [hskip, List.find?_cons_of_pos hx, Option.isSome_some]
      rw [herase, hfound]
      cases hbefore : (front ++ back).find? p with
      | some y => exact .inl ⟨rfl, eraseP (by rw [hbefore, Option.isSome_some])⟩
      | none => exact .inr ⟨rfl, rfl, List.eraseP_of_forall_not (List.find?_eq_none.mp hbefore)⟩
    · rw [hskip, hskip, List.find?_cons_of_neg hx, List.eraseP_append_right _ hnone,
        List.eraseP_append_right _ hnone, List.eraseP_cons_of_neg hx]
      exact .inl ⟨rfl, front, x, back.eraseP p, rfl, rfl⟩

end OneMore

/-! ### Where something turns -/

/-- What stands at a position fails before and passes after. -/
def TurnsAt (before after : List Bool) (i : Nat) : Prop :=
  before[i]? = some false ∧ after[i]? = some true

/-- Something fails before and passes after, and nothing else changes. -/
def OneTurns (before after : List Bool) : Prop :=
  ∃ front back, before = front ++ false :: back ∧ after = front ++ true :: back

namespace OneTurns

variable {before after : List Bool}

theorem append_left (front : List Bool) (h : OneTurns before after) :
    OneTurns (front ++ before) (front ++ after) := by
  obtain ⟨middle, back, rfl, rfl⟩ := h
  exact ⟨front ++ middle, back, (List.append_assoc ..).symm, (List.append_assoc ..).symm⟩

theorem cons (passes : Bool) (h : OneTurns before after) :
    OneTurns (passes :: before) (passes :: after) :=
  h.append_left [passes]

/-- There is one position at which something turns, and at all others nothing changes. -/
theorem exists_turnsAt (h : OneTurns before after) :
    ∃ i, TurnsAt before after i ∧ ∀ j, j ≠ i → before[j]? = after[j]? := by
  obtain ⟨front, back, rfl, rfl⟩ := h
  refine ⟨front.length, ⟨by simp, by simp⟩, fun j hj => ?_⟩
  rw [List.getElem?_append, List.getElem?_append]
  split
  · rfl
  · obtain ⟨k, hk⟩ : ∃ k, j - front.length = k + 1 := ⟨j - front.length - 1, by omega⟩
    rw [hk, List.getElem?_cons_succ, List.getElem?_cons_succ]

theorem eq_of_turnsAt (h : OneTurns before after) {i j : Nat} (hi : TurnsAt before after i)
    (hj : TurnsAt before after j) : i = j := by
  obtain ⟨k, -, hsame⟩ := h.exists_turnsAt
  have heq {l : Nat} (hl : TurnsAt before after l) : l = k := by
    by_contra hne
    have := hl.1.symm.trans ((hsame l hne).trans hl.2)
    simp at this
  rw [heq hi, heq hj]

/-- What passes before passes after. -/
theorem passes (h : OneTurns before after) {i : Nat} (hi : before[i]? = some true) :
    after[i]? = some true := by
  obtain ⟨k, hk, hsame⟩ := h.exists_turnsAt
  by_cases hik : i = k
  · rw [hik]
    exact hk.2
  · rw [← hsame i hik]
    exact hi

/-- Nothing turns back. -/
theorem not_turnsAt (h : OneTurns before after) (i : Nat) : ¬TurnsAt after before i := by
  rintro ⟨hfails, hpasses⟩
  rw [h.passes hpasses] at hfails
  cases hfails

end OneTurns

theorem not_turnsAt_self (passed : List Bool) (i : Nat) : ¬TurnsAt passed passed i := by
  rintro ⟨hfails, hpasses⟩
  rw [hfails] at hpasses
  cases hpasses

/-! ### One more finding -/

variable {α : Type} [Finding α]

namespace Matching

/-- Whether each expectation took something, in the order of the expectations. -/
def passed (matching : Matching α) : List Bool :=
  matching.claims.map (·.2.isSome)

theorem passed_settle_cons (expectation : Expectation) (more : List Expectation)
    (findings : List α) :
    (settle (expectation :: more) findings).passed =
      (findings.find? expectation.accepts).isSome ::
        (settle more (findings.eraseP expectation.accepts)).passed :=
  rfl

theorem unclaimed_settle_cons (expectation : Expectation) (more : List Expectation)
    (findings : List α) :
    (settle (expectation :: more) findings).unclaimed =
      (settle more (findings.eraseP expectation.accepts)).unclaimed :=
  rfl

/-- The first expectations take what they take, and the others what is left of that. -/
theorem settle_append (front back : List Expectation) (findings : List α) :
    (settle (front ++ back) findings).passed =
        (settle front findings).passed ++
          (settle back (settle front findings).unclaimed).passed ∧
      (settle (front ++ back) findings).unclaimed =
        (settle back (settle front findings).unclaimed).unclaimed := by
  induction front generalizing findings with
  | nil => exact ⟨rfl, rfl⟩
  | cons expectation front ih =>
    obtain ⟨hpassed, hunclaimed⟩ := ih (findings.eraseP expectation.accepts)
    rw [List.cons_append, passed_settle_cons, passed_settle_cons, unclaimed_settle_cons,
      unclaimed_settle_cons, hpassed, hunclaimed]
    exact ⟨rfl, rfl⟩

/-- What comes of one more finding. -/
inductive Gains (before after : Matching α) : Prop where
  /-- It is left over, or another one is in its place. -/
  | spared (hpassed : after.passed = before.passed)
      (hunclaimed : OneMore before.unclaimed after.unclaimed)
  /-- One more expectation passes. -/
  | served (hpassed : OneTurns before.passed after.passed)
      (hunclaimed : after.unclaimed = before.unclaimed)

end Matching

/-- The expectations let one more finding through to what is left over, or one more of them
passes. -/
theorem OneMore.settle {findings more : List α} (h : OneMore findings more)
    (expectations : List Expectation) :
    (Matching.settle expectations findings).Gains (Matching.settle expectations more) := by
  induction expectations generalizing findings more with
  | nil => exact .spared rfl h
  | cons expectation rest ih =>
    rcases h.take expectation.accepts with ⟨hsame, hleft⟩ | ⟨hmissed, hfound, hleft⟩
    · cases ih hleft with
      | spared hpassed hunclaimed =>
        refine .spared ?_ hunclaimed
        rw [Matching.passed_settle_cons, Matching.passed_settle_cons, hsame, hpassed]
      | served hpassed hunclaimed =>
        refine .served ?_ hunclaimed
        rw [Matching.passed_settle_cons, Matching.passed_settle_cons, hsame]
        exact hpassed.cons _
    · -- from here on the same findings remain
      refine .served ⟨[], (Matching.settle rest (findings.eraseP expectation.accepts)).passed,
        ?_, ?_⟩ ?_
      · rw [Matching.passed_settle_cons, hmissed, List.nil_append]
      · rw [Matching.passed_settle_cons, hfound, ← hleft, List.nil_append]
      · rw [Matching.unclaimed_settle_cons, Matching.unclaimed_settle_cons, hleft]

theorem Matching.leftovers_congr {a b : Matching α} (h : a.unclaimed = b.unclaimed) :
    a.leftovers = b.leftovers := by
  rw [leftovers, leftovers, h]

theorem OneMore.leftovers {before after : Matching α} (h : OneMore before.unclaimed after.unclaimed) :
    OneMore before.leftovers after.leftovers :=
  (h.sortOn Finding.line).map Leftover.ofFinding

/-! ### What a report shows -/

/-- A report on a file shows of each expectation for the file, in the order of the expectations,
whether it passes, and of the file what is left over. -/
def Report.Shows (report : Report) (file : Path) (expectations : List Expectation)
    (passed : List Bool) (leftovers : List Leftover) : Prop :=
  passed.length = (Expectation.inFile file expectations).length ∧
    report.outcomes = sortOn Outcome.assertion
        (List.zipWith Outcome.ofExpectation (Expectation.inFile file expectations) passed) ++
      [.ofLeftovers file leftovers]

theorem shows_matchFile (file : Path) (expectations : List Expectation) (findings : List α) :
    (matchFile file expectations findings).Shows file expectations
      (Matching.ofFile file expectations findings).passed
      (Matching.ofFile file expectations findings).leftovers := by
  have hfst : (Matching.ofFile file expectations findings).claims.map Prod.fst =
      Expectation.inFile file expectations :=
    Matching.map_fst_claims_settle _ _
  refine ⟨?_, ?_⟩
  · rw [← hfst, Matching.passed, List.length_map, List.length_map]
  · rw [outcomes_matchFile, ← hfst, Matching.passed, Matching.claimOutcomes, List.zipWith_map,
      List.zipWith_self]

/-- Of expectations in one order, the ties show which pass. -/
theorem eq_of_tie_zipWith_eq {expectations : List Expectation} {passed others : List Bool}
    (hpassed : passed.length = expectations.length) (hothers : others.length = expectations.length)
    (h : ∀ k, tie Outcome.assertion k (List.zipWith Outcome.ofExpectation expectations passed) =
      tie Outcome.assertion k (List.zipWith Outcome.ofExpectation expectations others)) :
    passed = others := by
  induction expectations generalizing passed others with
  | nil => rw [List.length_eq_zero_iff.mp hpassed, List.length_eq_zero_iff.mp hothers]
  | cons expectation rest ih =>
    obtain ⟨a, passed, rfl⟩ := List.exists_cons_of_length_eq_add_one hpassed
    obtain ⟨b, others, rfl⟩ := List.exists_cons_of_length_eq_add_one hothers
    have hhead : a = b := by
      have hk := h (.expected expectation)
      rw [List.zipWith_cons_cons, List.zipWith_cons_cons, tie_cons, tie_cons] at hk
      simp only [Outcome.ofExpectation, Std.ReflOrd.compare_self, if_true] at hk
      exact congrArg Outcome.passed (List.cons.inj hk).1
    have htail : passed = others := by
      refine ih (Nat.succ.inj hpassed) (Nat.succ.inj hothers) fun k => ?_
      have hk := h k
      rw [List.zipWith_cons_cons, List.zipWith_cons_cons, tie_cons, tie_cons, hhead] at hk
      split at hk
      · exact (List.cons.inj hk).2
      · exact hk
    rw [hhead, htail]

/-- A report shows one thing only. -/
theorem Report.Shows.unique {report : Report} {file : Path} {expectations : List Expectation}
    {passed others : List Bool} {leftovers rest : List Leftover}
    (h : report.Shows file expectations passed leftovers)
    (hother : report.Shows file expectations others rest) :
    passed = others ∧ leftovers = rest := by
  obtain ⟨hsorted, hwhole⟩ := List.append_inj' (h.2.symm.trans hother.2) rfl
  refine ⟨eq_of_tie_zipWith_eq h.1 hother.1 (sortOn_eq_sortOn_iff.mp hsorted), ?_⟩
  exact congrArg Outcome.leftovers (List.cons.inj hwhole).1

/-- One more finding in the file. Every expectation that passed still passes, and at most one
that failed now passes. If one does, the same is left over; if none does, one more finding is left
over. -/
theorem matchFile_insert_finding {file : Path} (expectations : List Expectation)
    (front back : List α) {finding : α} (hfile : (Finding.file finding == file) = true) :
    ∃ (before after : List Bool) (left leftAfter : List Leftover),
      (matchFile file expectations (front ++ back)).Shows file expectations before left ∧
      (matchFile file expectations (front ++ finding :: back)).Shows file expectations after
        leftAfter ∧
      (∀ i : Nat, before[i]? = some true → after[i]? = some true) ∧
      (∀ i j, TurnsAt before after i → TurnsAt before after j → i = j) ∧
      ((∃ i, TurnsAt before after i) → leftAfter = left) ∧
      ((¬∃ i, TurnsAt before after i) → OneMore left leftAfter) := by
  have hmore : OneMore (Finding.inFile file (front ++ back))
      (Finding.inFile file (front ++ finding :: back)) := by
    refine ⟨Finding.inFile file front, finding, Finding.inFile file back, List.filter_append .., ?_⟩
    rw [Finding.inFile, List.filter_append, List.filter_cons, if_pos hfile]
    rfl
  refine ⟨_, _, _, _, shows_matchFile file expectations (front ++ back),
    shows_matchFile file expectations (front ++ finding :: back), ?_⟩
  have hgains : (Matching.ofFile file expectations (front ++ back)).Gains
      (Matching.ofFile file expectations (front ++ finding :: back)) :=
    hmore.settle (Expectation.inFile file expectations)
  cases hgains with
  | spared hpassed hunclaimed =>
    rw [hpassed]
    refine ⟨fun i hi => hi, fun i j hi => absurd hi (not_turnsAt_self _ i), ?_, ?_⟩
    · rintro ⟨i, hi⟩
      exact absurd hi (not_turnsAt_self _ i)
    · exact fun _ => hunclaimed.leftovers
  | served hpassed hunclaimed =>
    refine ⟨fun i => hpassed.passes, fun i j => hpassed.eq_of_turnsAt, ?_, ?_⟩
    · exact fun _ => Matching.leftovers_congr hunclaimed
    · intro hnone
      obtain ⟨i, hi, -⟩ := hpassed.exists_turnsAt
      exact absurd ⟨i, hi⟩ hnone

/-- An expectation that any mismatch meets. -/
def conversionExpectation : Expectation :=
  ⟨⟨"One.java"⟩, 2, "test:cannot-convert:A to B", .cannotConvert "A" "B"⟩

/-- Another one on the same line. -/
def mismatchExpectation : Expectation :=
  ⟨⟨"One.java"⟩, 2, "jspecify_nullness_mismatch", .nullnessMismatch⟩

/-- A mismatch on their line, with the key that is given. -/
def mismatchOfKey (key : String) : Diagnostic :=
  { file := ⟨"One.java"⟩, line := 2, key, severity := .error }

/-- The first expectation takes the new mismatch, and the second what the first one had. -/
theorem matchFile_insert_finding_displaced :
    ∃ left leftAfter,
      (matchFile ⟨"One.java"⟩ [conversionExpectation, mismatchExpectation]
        [mismatchOfKey "return"]).Shows ⟨"One.java"⟩
          [conversionExpectation, mismatchExpectation] [true, false] left ∧
      (matchFile ⟨"One.java"⟩ [conversionExpectation, mismatchExpectation]
        [mismatchOfKey "argument", mismatchOfKey "return"]).Shows ⟨"One.java"⟩
          [conversionExpectation, mismatchExpectation] [true, true] leftAfter ∧
      leftAfter = left := by
  obtain ⟨before, after, left, leftAfter, hbefore, hafter, -, -, hsame, -⟩ :=
    @matchFile_insert_finding _ _ ⟨"One.java"⟩ [conversionExpectation, mismatchExpectation] []
      [mismatchOfKey "return"] (mismatchOfKey "argument") (by decide +kernel)
  obtain rfl : before = [true, false] :=
    (hbefore.unique (shows_matchFile _ _ _)).1.trans (by decide +kernel)
  obtain rfl : after = [true, true] :=
    (hafter.unique (shows_matchFile _ _ _)).1.trans (by decide +kernel)
  exact ⟨left, leftAfter, hbefore, hafter, hsame ⟨1, rfl, rfl⟩⟩

/-! ### One more expectation -/

theorem Expectation.inFile_insert {file : Path} {expectation : Expectation}
    (hfile : (expectation.file == file) = true) (front back : List Expectation) :
    inFile file (front ++ expectation :: back) =
      inFile file front ++ expectation :: inFile file back := by
  rw [inFile, List.filter_append, List.filter_cons, if_pos hfile]
  rfl

theorem insertIdx_length_append {γ : Type} (front back : List γ) (x : γ) :
    (front ++ back).insertIdx front.length x = front ++ x :: back := by
  induction front with
  | nil => rfl
  | cons y front ih =>
    rw [List.cons_append, List.length_cons, List.insertIdx_succ_cons, ih, List.cons_append]

namespace Matching

/-- What comes of one more expectation, which fails or passes, for all the others. -/
inductive Costs (before after : Matching α) (others : List Bool) : (passes : Bool) → Prop where
  /-- It fails, and nothing else changes. -/
  | nothing (hothers : others = before.passed)
      (hunclaimed : after.unclaimed = before.unclaimed) : Costs before after others false
  /-- It takes something away from what is left over. -/
  | finding (hothers : others = before.passed)
      (hunclaimed : OneMore after.unclaimed before.unclaimed) : Costs before after others true
  /-- It takes something away from another one, which fails now. -/
  | expectation (hothers : OneTurns others before.passed)
      (hunclaimed : after.unclaimed = before.unclaimed) : Costs before after others true

/-- One more expectation takes nothing, or the later ones are without the finding it takes. -/
theorem settle_insert (front back : List Expectation) (expectation : Expectation)
    (findings : List α) :
    ∃ others passes,
      (settle (front ++ expectation :: back) findings).passed =
        others.insertIdx front.length passes ∧
      (settle (front ++ back) findings).Costs (settle (front ++ expectation :: back) findings)
        others passes := by
  let remaining := (settle front findings).unclaimed
  have hlength : (settle front findings).passed.length = front.length := by
    rw [passed, List.length_map]
    exact length_claims_settle _ _
  obtain ⟨hpassed, hunclaimed⟩ := settle_append front back findings
  obtain ⟨hinserted, hleft⟩ := settle_append front (expectation :: back) findings
  rw [passed_settle_cons, ← insertIdx_length_append (settle front findings).passed, hlength]
    at hinserted
  rw [unclaimed_settle_cons] at hleft
  refine ⟨_, _, hinserted, ?_⟩
  cases hfound : remaining.find? expectation.accepts with
  | none =>
    rw [List.eraseP_of_forall_not (List.find?_eq_none.mp hfound)] at hleft ⊢
    exact .nothing hpassed.symm (hleft.trans hunclaimed.symm)
  | some finding =>
    have hmore : OneMore (remaining.eraseP expectation.accepts) remaining :=
      .eraseP (by rw [hfound, Option.isSome_some])
    cases hmore.settle back with
    | spared hsame hmore =>
      refine .finding ?_ ?_
      · rw [hpassed, hsame]
      · rw [hunclaimed, hleft]
        exact hmore
    | served hturns hsame =>
      refine .expectation ?_ ?_
      · rw [hpassed]
        exact hturns.append_left _
      · rw [hunclaimed, hleft, hsame]

end Matching

/-- One more expectation for the file. No other expectation passes that failed, and at most one
fails that passed. If the new one fails, nothing else changes. If it passes, one other expectation
fails that passed and the same is left over, or all others come out as before and one finding less
is left over. -/
theorem matchFile_insert_expectation {file : Path} (front back : List Expectation)
    {expectation : Expectation} (findings : List α) (hfile : (expectation.file == file) = true) :
    ∃ (before others : List Bool) (passes : Bool) (left leftAfter : List Leftover),
      (matchFile file (front ++ back) findings).Shows file (front ++ back) before left ∧
      (matchFile file (front ++ expectation :: back) findings).Shows file
        (front ++ expectation :: back)
        (others.insertIdx (Expectation.inFile file front).length passes) leftAfter ∧
      (∀ i, ¬TurnsAt before others i) ∧
      (∀ i j, TurnsAt others before i → TurnsAt others before j → i = j) ∧
      (passes = false → others = before ∧ leftAfter = left) ∧
      (passes = true →
        (∃ i, TurnsAt others before i ∧ ∀ j, j ≠ i → others[j]? = before[j]?) ∧ leftAfter = left ∨
          others = before ∧ OneMore leftAfter left) := by
  obtain ⟨others, passes, hpassed, hcosts⟩ := Matching.settle_insert (Expectation.inFile file front)
    (Expectation.inFile file back) expectation (Finding.inFile file findings)
  rw [← Expectation.inFile_insert hfile] at hpassed hcosts
  rw [Expectation.inFile, Expectation.inFile, ← List.filter_append] at hcosts
  have hinserted := shows_matchFile file (front ++ expectation :: back) findings
  rw [Matching.ofFile, ← Expectation.inFile, ← Finding.inFile, hpassed] at hinserted
  refine ⟨_, others, passes, _, _, shows_matchFile file (front ++ back) findings, hinserted, ?_⟩
  cases hcosts with
  | nothing hothers hunclaimed =>
    rw [hothers]
    refine ⟨not_turnsAt_self _, fun i j hi => absurd hi (not_turnsAt_self _ i),
      fun _ => ⟨rfl, Matching.leftovers_congr hunclaimed⟩, ?_⟩
    intro h
    cases h
  | finding hothers hunclaimed =>
    rw [hothers]
    refine ⟨not_turnsAt_self _, fun i j hi => absurd hi (not_turnsAt_self _ i), ?_,
      fun _ => .inr ⟨rfl, hunclaimed.leftovers⟩⟩
    intro h
    cases h
  | expectation hothers hunclaimed =>
    refine ⟨hothers.not_turnsAt, fun i j => hothers.eq_of_turnsAt, ?_,
      fun _ => .inl ⟨hothers.exists_turnsAt, Matching.leftovers_congr hunclaimed⟩⟩
    intro h
    cases h

/-- The new expectation takes the mismatch that the other one had. -/
theorem matchFile_insert_expectation_displaced :
    ∃ left leftAfter,
      (matchFile ⟨"One.java"⟩ [mismatchExpectation] [mismatchOfKey "argument"]).Shows ⟨"One.java"⟩
        [mismatchExpectation] [true] left ∧
      (matchFile ⟨"One.java"⟩ [conversionExpectation, mismatchExpectation]
        [mismatchOfKey "argument"]).Shows ⟨"One.java"⟩
          [conversionExpectation, mismatchExpectation] [true, false] leftAfter ∧
      leftAfter = left := by
  obtain ⟨before, others, passes, left, leftAfter, hbefore, hafter, -, -, -, hpasses⟩ :=
    @matchFile_insert_expectation _ _ ⟨"One.java"⟩ [] [mismatchExpectation] conversionExpectation
      [mismatchOfKey "argument"] (by decide +kernel)
  obtain rfl : before = [true] :=
    (hbefore.unique (shows_matchFile _ _ _)).1.trans (by decide +kernel)
  have hpassed : passes :: others = [true, false] :=
    (hafter.unique (shows_matchFile _ _ _)).1.trans (by decide +kernel)
  obtain ⟨rfl, rfl⟩ := List.cons.inj hpassed
  refine ⟨left, leftAfter, hbefore, hafter, ?_⟩
  rcases hpasses rfl with ⟨-, hsame⟩ | ⟨hothers, -⟩
  · exact hsame
  · cases hothers

end FindingCheck
