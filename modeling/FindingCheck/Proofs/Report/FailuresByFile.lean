import FindingCheck.Proofs.AssertionOrder
import FindingCheck.Proofs.Repetitions
import FindingCheck.Report.Render
import Mathlib.Data.List.Basic

/-!
# Failures file by file

The failures of a report are listed in one pass that remembers only the file of the failure before.
Because a report ascends, this is enough: the failures of a file stand together, those of its
expectations in front, and the files come one after the other.

## Main definitions

* `Report.failedFiles`, `Report.failuresOn` — the files with a failure, and the failures on a file
* `Report.missingLines`, `Report.unexpectedLines`, `Report.failureBlock` — what is said of a file

## Main statements

* `Report.failures_eq` — the listing is that of the files, one block for each
* `Report.pairwise_failedFiles`, `Report.exists_mem_failedFiles_iff` — the files ascend, and they
  are those with a failure
-/

namespace FindingCheck

/-! ### Lists in order -/

/-- Where nothing in a class stands behind something outside, the list is the class and then the
rest. -/
theorem filter_append_filter_not {α : Type} {p : α → Bool} {items : List α}
    (h : items.Pairwise fun a b => p b = true → p a = true) :
    items.filter p ++ items.filter (!p ·) = items := by
  induction items with
  | nil => rfl
  | cons item items ih =>
    obtain ⟨hhead, htail⟩ := List.pairwise_cons.mp h
    by_cases hitem : p item = true
    · simp [hitem, ih htail]
    · have hnone : ∀ other ∈ items, ¬p other = true := fun other hother hclass =>
        hitem (hhead other hother hclass)
      have hrest : items.filter (!p ·) = items :=
        List.filter_eq_self.mpr fun other hother => by simpa using hnone other hother
      simp [hitem, hrest, List.filter_eq_nil_iff.mpr hnone]

theorem Path.compare_eq_lt {a b : Path} (hle : (compare a b).isLE = true)
    (hdiffers : ¬(b == a) = true) : compare a b = .lt := by
  rcases Ordering.isLE_iff_eq_lt_or_eq_eq.mp hle with hlt | hlevel
  · exact hlt
  · exact absurd (BEq.symm (Path.compare_eq_iff.mp hlevel)) hdiffers

/-- Paths that ascend ascend strictly once repetitions are left out. -/
theorem pairwise_eraseDups {files : List Path}
    (h : files.Pairwise fun a b => (compare a b).isLE = true) :
    files.eraseDups.Pairwise fun a b => compare a b = .lt := by
  induction files using induction_sameAs (fun a b : Path => a == b) with
  | nil => exact .nil
  | cons head files ih =>
    obtain ⟨hhead, htail⟩ := List.pairwise_cons.mp h
    rw [List.eraseDups_cons]
    refine List.pairwise_cons.mpr ⟨fun kept hkept => ?_, ih (htail.filter _)⟩
    obtain ⟨hmem, hdiffers⟩ := List.mem_filter.mp ((eraseDups_sublist _).mem hkept)
    exact Path.compare_eq_lt (hhead kept hmem) (by simpa using hdiffers)

/-! ### The listing -/

/-- Outcomes whose files ascend. -/
def FilesAscend (outcomes : List Outcome) : Prop :=
  outcomes.Pairwise fun a b => (compare a.assertion.file b.assertion.file).isLE = true

/-- The files of outcomes, each as the first outcome on it spells it. -/
def filesOf (outcomes : List Outcome) : List Path :=
  (outcomes.map (·.assertion.file)).eraseDups

/-- An outcome, and others on its file, are not on another file. -/
theorem filter_file_cons_of_differs {outcome : Outcome} {more : List Outcome} {file : Path}
    (h : (file == outcome.assertion.file) = false) :
    (outcome :: more).filter (·.assertion.file == file) =
      (more.filter (!·.assertion.file == outcome.assertion.file)).filter
        (·.assertion.file == file) := by
  have houtcome : (outcome.assertion.file == file) = false := BEq.comm.trans h
  rw [List.filter_cons_of_neg (by simpa using houtcome), List.filter_filter]
  refine List.filter_congr fun other _ => ?_
  by_cases hother : (other.assertion.file == file) = true
  · have hkept : (other.assertion.file == outcome.assertion.file) = false :=
      (BEq.congr_left hother).trans h
    simp [hother, hkept]
  · simp [hother]

theorem filesOf_cons (outcome : Outcome) (more : List Outcome) :
    filesOf (outcome :: more) = outcome.assertion.file ::
      filesOf (more.filter (!·.assertion.file == outcome.assertion.file)) := by
  rw [filesOf, List.map_cons, List.eraseDups_cons, List.filter_map]
  rfl

/-- Among the outcomes without those on one file, no file is the one left out. -/
theorem differs_of_mem_filesOf {outcomes : List Outcome} {file left : Path}
    (h : file ∈ filesOf (outcomes.filter (!·.assertion.file == left))) : (file == left) = false := by
  obtain ⟨outcome, houtcome, rfl⟩ := List.mem_map.mp ((eraseDups_sublist _).mem h)
  simpa using (List.mem_filter.mp houtcome).2

/-- A file is spelled as in the first outcome on it. -/
theorem head?_filter_file {outcomes : List Outcome} {file : Path} (h : file ∈ filesOf outcomes) :
    (outcomes.filter (·.assertion.file == file)).head?.map (·.assertion.file) = some file := by
  induction outcomes using
    induction_sameAs fun a b : Outcome => a.assertion.file == b.assertion.file with
  | nil => cases h
  | cons outcome more ih =>
    rw [filesOf_cons] at h
    rcases List.mem_cons.mp h with rfl | h
    · simp
    · rw [filter_file_cons_of_differs (differs_of_mem_filesOf h)]
      exact ih h

namespace Report

theorem failureListing_cons (outcome : Outcome) (more : List Outcome) :
    failureListing none (outcome :: more) =
      (outcome.assertion.file.display ++ ":") :: failureLines outcome ++
        failureListing (some outcome.assertion.file) more :=
  rfl

/-- Behind a failure on a file, the other failures on it are listed without its name, and then
those on other files. -/
theorem failureListing_some {outcomes : List Outcome} {previous : Path}
    (h : FilesAscend outcomes)
    (hprevious : ∀ outcome ∈ outcomes, (compare previous outcome.assertion.file).isLE = true) :
    failureListing (some previous) outcomes =
      (outcomes.filter (·.assertion.file == previous)).flatMap failureLines ++
        failureListing none (outcomes.filter (!·.assertion.file == previous)) := by
  induction outcomes generalizing previous with
  | nil => rfl
  | cons outcome more ih =>
    obtain ⟨hhead, hmore⟩ := List.pairwise_cons.mp h
    by_cases hsame : (outcome.assertion.file == previous) = true
    · have hlisted : failureListing (some previous) (outcome :: more) =
          failureLines outcome ++ failureListing (some outcome.assertion.file) more := by
        simp [failureListing, BEq.symm hsame]
      have hclass : ∀ other : Outcome, (other.assertion.file == outcome.assertion.file) =
          (other.assertion.file == previous) := fun other => BEq.congr_right hsame
      rw [hlisted, ih hmore hhead]
      simp [hsame, hclass]
    · -- the outcome is behind the file, and so is everything behind the outcome
      have hbehind : compare previous outcome.assertion.file = .lt :=
        Path.compare_eq_lt (hprevious outcome List.mem_cons_self) hsame
      have hother : ∀ other ∈ outcome :: more, ¬(other.assertion.file == previous) = true := by
        intro other hmem hequal
        have hle : (compare outcome.assertion.file other.assertion.file).isLE = true := by
          rcases List.mem_cons.mp hmem with rfl | hmem
          · exact Std.ReflOrd.isLE_rfl
          · exact hhead other hmem
        have hlt := Std.TransCmp.lt_of_lt_of_isLE hbehind hle
        rw [Path.compare_eq_iff.mpr (BEq.symm hequal)] at hlt
        cases hlt
      have hnone : (outcome :: more).filter (·.assertion.file == previous) = [] :=
        List.filter_eq_nil_iff.mpr hother
      have hall : (outcome :: more).filter (!·.assertion.file == previous) = outcome :: more :=
        List.filter_eq_self.mpr fun other hmem => by simpa using hother other hmem
      have hnamed : (previous == outcome.assertion.file) = false := by
        rw [← Bool.not_eq_true]
        exact fun hequal => hsame (BEq.symm hequal)
      rw [hnone, hall, failureListing_cons]
      simp [failureListing, hnamed]

/-- The name of a file and the failures on it. -/
def fileListing (outcomes : List Outcome) (file : Path) : List String :=
  (file.display ++ ":") :: (outcomes.filter (·.assertion.file == file)).flatMap failureLines

/-- The listing goes file by file: it names each file once, in front of all failures on it. -/
theorem failureListing_none {outcomes : List Outcome} (h : FilesAscend outcomes) :
    failureListing none outcomes = (filesOf outcomes).flatMap (fileListing outcomes) := by
  induction outcomes using
    induction_sameAs fun a b : Outcome => a.assertion.file == b.assertion.file with
  | nil => rfl
  | cons outcome more ih =>
    obtain ⟨hhead, hmore⟩ := List.pairwise_cons.mp h
    have hfirst : fileListing (outcome :: more) outcome.assertion.file =
        (outcome.assertion.file.display ++ ":") :: failureLines outcome ++
          (more.filter (·.assertion.file == outcome.assertion.file)).flatMap failureLines := by
      simp [fileListing]
    have hlater : ∀ file ∈ filesOf (more.filter (!·.assertion.file == outcome.assertion.file)),
        fileListing (more.filter (!·.assertion.file == outcome.assertion.file)) file =
          fileListing (outcome :: more) file := fun file hfile => by
      rw [fileListing, fileListing, filter_file_cons_of_differs (differs_of_mem_filesOf hfile)]
    rw [failureListing_cons, failureListing_some hmore hhead, ih (hmore.filter _), filesOf_cons,
      List.flatMap_cons, List.flatMap_congr hlater, hfirst, List.append_assoc]

/-! ### What is said of a file -/

variable (report : Report)

/-- The outcomes that failed. -/
def failed : List Outcome :=
  report.outcomes.filter (!·.passed)

/-- The files on which something failed, each once and as the first failure on it spells it. -/
def failedFiles : List Path :=
  filesOf report.failed

/-- What failed on a file. -/
def failuresOn (file : Path) : List Outcome :=
  report.failed.filter (·.assertion.file == file)

/-- A line for each expectation for a file that failed. -/
def missingLines (file : Path) : List String :=
  ((report.failuresOn file).filter (!·.assertion.isWholeFile)).map fun outcome =>
    "  missing expected fact: " ++ outcome.assertion.render

/-- A line for each leftover that fails a file. -/
def unexpectedLines (file : Path) : List String :=
  ((report.failuresOn file).filter (·.assertion.isWholeFile)).flatMap fun outcome =>
    (outcome.leftovers.filter (·.mustBeExpected)).map fun leftover =>
      "  unexpected fact: " ++ Assertion.placed outcome.assertion.file leftover.line leftover.text

/-- What is said of a file: its name, the expectations that failed, and what was left over. -/
def failureBlock (file : Path) : List String :=
  (file.display ++ ":") :: (report.missingLines file ++ report.unexpectedLines file)

theorem filesAscend_failed : FilesAscend report.failed :=
  (report.ascends.filter _).imp fun hle => Ordering.isLE_left_of_isLE_then hle

/-- The failures on a file are listed expectations first. -/
theorem flatMap_failureLines (file : Path) :
    (report.failuresOn file).flatMap failureLines =
      report.missingLines file ++ report.unexpectedLines file := by
  have hparts : (report.failuresOn file).Pairwise fun a b =>
      (!b.assertion.isWholeFile) = true → (!a.assertion.isWholeFile) = true := by
    refine ((report.ascends.filter _).filter _).imp_of_mem fun {a b} ha hb hle => ?_
    have hfile : (a.assertion.file == b.assertion.file) = true :=
      BEq.trans (List.mem_filter.mp ha).2 (BEq.symm (List.mem_filter.mp hb).2)
    have hkind := Assertion.isWholeFile_of_isLE hfile hle
    simpa using mt hkind
  have hmissing : ∀ outcome ∈ (report.failuresOn file).filter (!·.assertion.isWholeFile),
      failureLines outcome = ["  missing expected fact: " ++ outcome.assertion.render] := by
    intro outcome houtcome
    have hkind := (List.mem_filter.mp houtcome).2
    cases hassertion : outcome.assertion with
    | expected expectation => simp [failureLines, hassertion]
    | noUnexpected whole => simp [hassertion, Assertion.isWholeFile] at hkind
  have hunexpected : ∀ outcome ∈ (report.failuresOn file).filter (·.assertion.isWholeFile),
      failureLines outcome = (outcome.leftovers.filter (·.mustBeExpected)).map fun leftover =>
        "  unexpected fact: " ++
          Assertion.placed outcome.assertion.file leftover.line leftover.text := by
    intro outcome houtcome
    have hkind := (List.mem_filter.mp houtcome).2
    cases hassertion : outcome.assertion with
    | expected expectation => simp [hassertion, Assertion.isWholeFile] at hkind
    | noUnexpected whole => simp [failureLines, hassertion, Assertion.file]
  have hwhole := filter_append_filter_not hparts
  simp only [Bool.not_not] at hwhole
  rw [← hwhole, List.flatMap_append, List.flatMap_congr hmissing, List.flatMap_congr hunexpected,
    ← List.map_eq_flatMap]
  rfl

/-- The failures of a report are those of its files, one block after the other. -/
theorem failures_eq :
    report.failures =
      String.join ((report.failedFiles.flatMap report.failureBlock).map lineOf) := by
  have hblock : ∀ file, fileListing report.failed file = report.failureBlock file := fun file =>
    congrArg (_ :: ·) (report.flatMap_failureLines file)
  have hlisting := failureListing_none report.filesAscend_failed
  rw [List.flatMap_congr fun file _ => hblock file] at hlisting
  exact congrArg (fun listing => String.join (List.map lineOf listing)) hlisting

/-- The files with a failure ascend strictly, so none is named twice. -/
theorem pairwise_failedFiles : report.failedFiles.Pairwise fun a b => compare a b = .lt :=
  pairwise_eraseDups (List.pairwise_map.mpr report.filesAscend_failed)

/-- A file is named as the first failure on it spells it. -/
theorem head?_failuresOn {file : Path} (h : file ∈ report.failedFiles) :
    (report.failuresOn file).head?.map (·.assertion.file) = some file :=
  head?_filter_file h

theorem exists_mem_failedFiles_iff {file : Path} :
    (∃ named ∈ report.failedFiles, (named == file) = true) ↔
      ∃ outcome ∈ report.outcomes, outcome.passed = false ∧
        (outcome.assertion.file == file) = true := by
  constructor
  · rintro ⟨named, hnamed, hfile⟩
    obtain ⟨outcome, houtcome, rfl⟩ := List.mem_map.mp ((eraseDups_sublist _).mem hnamed)
    obtain ⟨hmem, hfailed⟩ := List.mem_filter.mp houtcome
    exact ⟨outcome, hmem, by simpa using hfailed, hfile⟩
  · rintro ⟨outcome, hmem, hfailed, hfile⟩
    have houtcome : outcome ∈ report.failed := List.mem_filter.mpr ⟨hmem, by simpa using hfailed⟩
    obtain ⟨named, hnamed, hsame⟩ := exists_mem_eraseDups_beq
      (List.mem_map_of_mem (f := (·.assertion.file)) houtcome)
    exact ⟨named, hnamed, BEq.trans hsame hfile⟩

end Report

end FindingCheck
