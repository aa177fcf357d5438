import FindingCheck.Diagnostic
import FindingCheck.Proofs.Matching
import FindingCheck.Proofs.Reading.Expectations
import FindingCheck.Proofs.Report.Returns

/-!
# The report on a source that was read

What a source declares is written in a report and read there again. Both are read line by line, but
a line of the source may end in a carriage return that is no part of its ending, and in the report
this one stands directly in front of a line feed.

## Main definitions

* `Path.IsPlain` — files that are spelled with nothing but letters, digits, `_`, `/` and `.`

## Main statements

* `exists_same_render_matchFile_iff` — the report on a source is read and written the same again
  exactly if no expectation of the source ends in a carriage return
-/

namespace FindingCheck

/-- The file is spelled with ASCII letters, digits, `_`, `/` and `.` only. -/
def Path.IsPlain (file : Path) : Prop :=
  file.text ≠ "" ∧ ∀ c ∈ file.text.toList, c.isAlphanum = true ∨ c = '_' ∨ c = '/' ∨ c = '.'

theorem Path.IsPlain.storable {file : Path} (h : file.IsPlain) : file.Storable := by
  obtain ⟨hne, hplain⟩ := h
  have habsent : ∀ c, ¬(c.isAlphanum = true ∨ c = '_' ∨ c = '/' ∨ c = '.') →
      c ∉ file.text.toList := fun c hc hmem => hc (hplain c hmem)
  have hcolon : ':' ∉ file.text.toList := habsent ':' (by decide)
  refine ⟨hne, habsent '\\' (by decide), habsent '\n' (by decide), ?_⟩
  rintro front line after ⟨-, digits, -, -, hbody⟩
  rw [hbody] at hcolon
  simp at hcolon

variable {α : Type} [Finding α]

/-- The report on a source asserts the expectations of the source, and the whole file. -/
theorem mem_matchFile_iff {vocabulary : Vocabulary} {file : Path} {text : String}
    {annotations : Annotations} {findings : List α}
    (hread : readAnnotations vocabulary file text = .ok annotations) {assertion : Assertion} :
    (∃ outcome ∈ (matchFile file annotations.expectations findings).outcomes,
        outcome.assertion = assertion) ↔
      (∃ expectation ∈ annotations.expectations, assertion = .expected expectation) ∨
        assertion = .noUnexpected file := by
  have hperm := perm_assertions_matchFile file annotations.expectations findings
  rw [← List.mem_map, hperm.mem_iff, filter_file_of_readAnnotations hread, List.mem_append,
    List.mem_map, List.mem_singleton]
  simp only [eq_comm]

/-- The report on a source with a plain name can be stored and read, and what was read is
written the same again, exactly if no expectation of the source ends in a carriage return. -/
theorem exists_same_render_matchFile_iff {vocabulary : Vocabulary} {file : Path} {text : String}
    {annotations : Annotations} (hfile : file.IsPlain)
    (hread : readAnnotations vocabulary file text = .ok annotations) (findings : List α) :
    (∃ found,
        Report.parse vocabulary
          ((matchFile file annotations.expectations findings).render false) = .ok found ∧
        found.render false = (matchFile file annotations.expectations findings).render false) ↔
      ∀ expectation ∈ annotations.expectations,
        expectation.text.toList.getLast? ≠ some '\r' := by
  have hassertion : ∀ outcome ∈ (matchFile file annotations.expectations findings).outcomes,
      (∃ expectation ∈ annotations.expectations, outcome.assertion = .expected expectation) ∨
        outcome.assertion = .noUnexpected file := fun outcome houtcome =>
    (mem_matchFile_iff hread).mp ⟨outcome, houtcome, rfl⟩
  rw [Report.exists_same_render_iff]
  · constructor
    · intro h expectation hexpectation
      obtain ⟨outcome, houtcome, hstated⟩ := (@mem_matchFile_iff α _ _ _ _ _ findings hread
        (.expected expectation)).mpr (.inl ⟨expectation, hexpectation, rfl⟩)
      exact h outcome houtcome expectation hstated
    · intro h outcome houtcome expectation hstated
      rcases hassertion outcome houtcome with ⟨declared, hdeclared, heq⟩ | heq
      · rw [hstated] at heq
        exact Assertion.expected.inj heq ▸ h declared hdeclared
      · rw [hstated] at heq
        cases heq
  · intro outcome houtcome
    rcases hassertion outcome houtcome with ⟨declared, hdeclared, heq⟩ | heq
    · rw [heq]
      show declared.file.Storable
      rw [(expectation_of_mem_readAnnotations hread hdeclared).1]
      exact hfile.storable
    · rw [heq]
      exact hfile.storable
  · intro outcome houtcome expectation hstated
    rcases hassertion outcome houtcome with ⟨declared, hdeclared, heq⟩ | heq
    · rw [hstated] at heq
      obtain rfl := Assertion.expected.inj heq
      exact (expectation_of_mem_readAnnotations hread hdeclared).2
    · rw [hstated] at heq
      cases heq

/-- A source in which the line of a directive ends in one carriage return more than its ending. -/
def doubledReturn : String :=
  "// test:irrelevant-annotation:\r\r\nfoo();\n"

/-- The finding that meets the expectation of `doubledReturn`. -/
def recordedReturn : Diagnostic where
  file := ⟨"A.java"⟩
  line := 2
  key := "irrelevant.annotation"
  severity := .note
  arguments := ["\r"]

theorem not_exists_same_render_doubledReturn :
    ∃ annotations, readAnnotations .standard ⟨"A.java"⟩ doubledReturn = .ok annotations ∧
      ¬∃ found,
        Report.parse .standard
          ((matchFile ⟨"A.java"⟩ annotations.expectations [recordedReturn]).render false) =
            .ok found ∧
        found.render false =
          (matchFile ⟨"A.java"⟩ annotations.expectations [recordedReturn]).render false := by
  have hfile : Path.IsPlain ⟨"A.java"⟩ := by
    refine ⟨by decide, ?_⟩
    simp
  have hdeclared : (readAnnotations .standard ⟨"A.java"⟩ doubledReturn).toOption.map
      (fun annotations => annotations.expectations.map (·.text.toList.getLast?)) =
        some [some '\r'] := by
    decide +kernel
  cases hread : readAnnotations .standard ⟨"A.java"⟩ doubledReturn with
  | error defects =>
    rw [hread] at hdeclared
    cases hdeclared
  | ok annotations =>
    rw [hread] at hdeclared
    have hlast : annotations.expectations.map (·.text.toList.getLast?) = [some '\r'] :=
      Option.some.inj hdeclared
    refine ⟨annotations, rfl, fun hsame => ?_⟩
    have hends := (exists_same_render_matchFile_iff hfile hread [recordedReturn]).mp hsame
    obtain ⟨expectation, hexpectation, hreturn⟩ :
        ∃ expectation ∈ annotations.expectations,
          expectation.text.toList.getLast? = some '\r' := by
      refine List.mem_map.mp ?_
      rw [hlast]
      exact List.mem_singleton_self _
    exact hends expectation hexpectation hreturn

end FindingCheck
