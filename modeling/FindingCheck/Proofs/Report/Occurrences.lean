import FindingCheck.Proofs.Report.Combining

/-!
# Equal assertions of a report

A report can hold an assertion several times, because a directive may be written twice above a line.
Its occurrences are told apart only by their order, so what counts is the list of their outcomes.

## Main definitions

* `Report.passesOf` — how the assertions that are equal to a given one came out
* `PassesFirst` — none passes behind one that fails

## Main statements

* `Report.passesOf_combineAll` — the occurrences in reports that are put together
* `Report.passesFirst_combineAll` — reports that are apart keep what passes in front
-/

namespace FindingCheck

/-- How the assertions that are equal to a given one came out, in the order of the report. -/
def Report.passesOf (report : Report) (assertion : Assertion) : List Bool :=
  (report.outcomes.filter (·.assertion == assertion)).map (·.passed)

theorem filter_assertion_eq_tie (assertion : Assertion) (outcomes : List Outcome) :
    outcomes.filter (·.assertion == assertion) = tie Outcome.assertion assertion outcomes := by
  refine List.filter_congr fun outcome _ => ?_
  rw [Bool.eq_iff_iff, ← Assertion.compare_eq_iff]
  exact beq_iff_eq.symm

/-- The occurrences of an assertion stand in the order of the reports that are put together. -/
theorem Report.passesOf_combineAll (reports : List Report) (assertion : Assertion) :
    (combineAll reports).passesOf assertion = reports.flatMap (·.passesOf assertion) := by
  have htie : (combineAll reports).outcomes.filter (·.assertion == assertion) =
      (reports.flatMap outcomes).filter (·.assertion == assertion) := by
    rw [filter_assertion_eq_tie, filter_assertion_eq_tie]
    exact tie_sortOn _ _ _
  rw [passesOf, htie, List.filter_flatMap, List.map_flatMap]
  rfl

theorem Report.Apart.passesOf_eq_nil {a b : Report} (h : a.Apart b) (assertion : Assertion) :
    a.passesOf assertion = [] ∨ b.passesOf assertion = [] := by
  rw [passesOf, passesOf, filter_assertion_eq_tie, filter_assertion_eq_tie]
  refine (h.tie_eq_nil assertion).imp ?_ ?_ <;> intro hnil <;> rw [hnil, List.map_nil]

/-! ### What passes and what fails -/

/-- Some pass, and then the others fail. -/
def PassesFirst (passed : List Bool) : Prop :=
  ∃ passes fails, passed = List.replicate passes true ++ List.replicate fails false

namespace PassesFirst

theorem cons_true {passed : List Bool} (h : PassesFirst passed) : PassesFirst (true :: passed) := by
  obtain ⟨passes, fails, rfl⟩ := h
  exact ⟨passes + 1, fails, rfl⟩

theorem of_forall_false {passed : List Bool} (h : ∀ b ∈ passed, b = false) :
    PassesFirst passed :=
  ⟨0, passed.length, List.eq_replicate_of_mem h⟩

theorem of_length_le_one {passed : List Bool} (h : passed.length ≤ 1) : PassesFirst passed := by
  match passed, h with
  | [], _ => exact ⟨0, 0, rfl⟩
  | [true], _ => exact ⟨1, 0, rfl⟩
  | [false], _ => exact ⟨0, 1, rfl⟩

/-- What passes stands in front of what fails. -/
theorem lt_of_getElem? {passed : List Bool} (h : PassesFirst passed) {i j : Nat}
    (hi : passed[i]? = some true) (hj : passed[j]? = some false) : i < j := by
  obtain ⟨passes, fails, rfl⟩ := h
  simp only [List.getElem?_append, List.getElem?_replicate, List.length_replicate] at hi hj
  have hip : i < passes := by
    by_contra hle
    rw [if_neg hle] at hi
    split at hi <;> cases hi
  have hjp : ¬j < passes := by
    intro hlt
    rw [if_pos hlt, if_pos hlt] at hj
    cases hj
  omega

end PassesFirst

/-- Where no two reports share an assertion, all its occurrences stand in one of them. -/
theorem Report.passesFirst_combineAll {reports : List Report} (hapart : reports.Pairwise Apart)
    {assertion : Assertion} (h : ∀ report ∈ reports, PassesFirst (report.passesOf assertion)) :
    PassesFirst ((combineAll reports).passesOf assertion) := by
  rw [passesOf_combineAll]
  induction reports with
  | nil => exact .of_forall_false (by simp)
  | cons report reports ih =>
    obtain ⟨hhead, htail⟩ := List.pairwise_cons.mp hapart
    obtain ⟨hreport, hreports⟩ := List.forall_mem_cons.mp h
    rw [List.flatMap_cons]
    by_cases hnil : report.passesOf assertion = []
    · rw [hnil, List.nil_append]
      exact ih htail hreports
    · have hothers : reports.flatMap (·.passesOf assertion) = [] :=
        List.flatMap_eq_nil_iff.mpr fun other hother =>
          ((hhead other hother).passesOf_eq_nil assertion).resolve_left hnil
      rw [hothers, List.append_nil]
      exact hreport

end FindingCheck
