import FindingCheck.Matching

/-!
# The assertions of a matched file

What a report on a file asserts does not depend on what was found in the file: it asserts every
expectation for the file, and that nothing else was found.

## Main statements

* `matchFile_congr` — findings in other files have no influence
* `perm_assertions_matchFile` — the assertions of the report on a file
* `file_beq_of_mem_matchFile` — they are all about the file
-/

namespace FindingCheck

variable {α : Type} [Finding α]

namespace Matching

theorem map_fst_claims_settle (expectations : List Expectation) (findings : List α) :
    (settle expectations findings).claims.map Prod.fst = expectations := by
  induction expectations generalizing findings with
  | nil => rfl
  | cons expectation more ih => rw [settle, List.map_cons, ih]

theorem map_assertion_outcomes (file : Path) (expectations : List Expectation)
    (findings : List α) :
    ((ofFile file expectations findings).outcomes file).map Outcome.assertion =
      (expectations.filter (·.file == file)).map .expected ++ [.noUnexpected file] := by
  have hclaims := map_fst_claims_settle (expectations.filter (·.file == file))
    (findings.filter (Finding.file · == file))
  rw [outcomes, List.map_append, List.map_map]
  refine congrArg (· ++ [Assertion.noUnexpected file]) ?_
  calc (ofFile file expectations findings).claims.map (fun claim => Assertion.expected claim.1)
      = ((ofFile file expectations findings).claims.map Prod.fst).map .expected := by
        rw [List.map_map]
        rfl
    _ = (expectations.filter (·.file == file)).map .expected := congrArg (List.map _) hclaims

end Matching

/-- A report on a file depends on the findings in the file only. -/
theorem matchFile_congr {file : Path} {findings others : List α} (expectations : List Expectation)
    (h : findings.filter (Finding.file · == file) = others.filter (Finding.file · == file)) :
    matchFile file expectations findings = matchFile file expectations others := by
  rw [matchFile, matchFile, Matching.ofFile, Matching.ofFile, h]

/-- A report on a file asserts every expectation for the file, and the whole file. -/
theorem perm_assertions_matchFile (file : Path) (expectations : List Expectation)
    (findings : List α) :
    ((matchFile file expectations findings).outcomes.map Outcome.assertion).Perm
      ((expectations.filter (·.file == file)).map .expected ++ [.noUnexpected file]) := by
  rw [← Matching.map_assertion_outcomes file expectations findings]
  exact (perm_sortOn _ _).map _

/-- The assertions of a report on a file are about the file. -/
theorem file_beq_of_mem_matchFile {file : Path} {expectations : List Expectation}
    {findings : List α} {outcome : Outcome}
    (h : outcome ∈ (matchFile file expectations findings).outcomes) :
    (outcome.assertion.file == file) = true := by
  have hassertion := (perm_assertions_matchFile file expectations findings).mem_iff.mp
    (List.mem_map_of_mem h)
  rcases List.mem_append.mp hassertion with hexpected | hwhole
  · obtain ⟨expectation, hexpectation, heq⟩ := List.mem_map.mp hexpected
    rw [← heq]
    exact (List.mem_filter.mp hexpectation).2
  · rw [List.mem_singleton.mp hwhole]
    exact Path.beq_iff.mpr rfl

end FindingCheck
