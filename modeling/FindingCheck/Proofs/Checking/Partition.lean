import FindingCheck.Proofs.Checking.Recorded

/-!
# Files in groups

The diagnostics are picked out for each group and then again for each file, and the outcomes are
sorted for each file, for each group and once more for the corpus. None of this can be seen in the
report: how files are divided into groups has no influence.

## Main definitions

* `DifferentFiles` — files of which no two are equal
* `Report.IsOn` — reports on one file

## Main statements

* `FileTree.checkRecorded_of_declares` — the report on files, whatever their groups
* `FileTree.exists_checkRecorded_eq_error_iff` — a check fails if a file is at fault
* `checkRecorded_partition` — two ways to divide files into groups have the same report or both fail
-/

namespace FindingCheck

/-- No two of the files are equal. -/
def DifferentFiles (files : List Path) : Prop :=
  files.Pairwise fun a b => (a == b) = false

theorem DifferentFiles.perm {files others : List Path} (h : DifferentFiles files)
    (hperm : files.Perm others) : DifferentFiles others :=
  List.Pairwise.perm h hperm fun hab => BEq.comm.trans hab

/-- Every assertion of the report is about the file. -/
def Report.IsOn (report : Report) (file : Path) : Prop :=
  ∀ outcome ∈ report.outcomes, (outcome.assertion.file == file) = true

theorem isOn_matchFile {α : Type} [Finding α] (file : Path) (expectations : List Expectation)
    (findings : List α) : (matchFile file expectations findings).IsOn file :=
  fun _ h => file_beq_of_mem_matchFile h

theorem Report.IsOn.apart {x y : Report} {a b : Path} (hx : x.IsOn a) (hy : y.IsOn b)
    (h : (a == b) = false) : x.Apart y := by
  intro outcome houtcome other hother
  rw [← Bool.not_eq_true] at h ⊢
  intro heq
  exact h (BEq.trans (BEq.symm (hx outcome houtcome))
    (BEq.trans (Assertion.file_beq_of_beq heq) (hy other hother)))

theorem DifferentFiles.pairwise_apart {files : List Path} (h : DifferentFiles files)
    {report : Path → Report} (hreport : ∀ file, (report file).IsOn file) :
    (files.map report).Pairwise Report.Apart :=
  List.Pairwise.map report (fun a b hab => (hreport a).apart (hreport b) hab) h

/-! ### The report on files in groups -/

namespace FileTree

variable {vocabulary : Vocabulary} {root : Path} {tree : FileTree} {files : List Path}
  {groups : List Group}

/-- The report on files that can be used: the outcomes of all of them, whatever their groups. -/
theorem checkRecorded_of_declares (hfiles : DifferentFiles files)
    (hgroups : (groups.flatMap Group.files).Perm files) {annotations : Path → Annotations}
    (hdeclares : ∀ file ∈ files, tree.Declares vocabulary root file (annotations file))
    (diagnostics : List Diagnostic) :
    tree.checkRecorded vocabulary root diagnostics groups =
      (.ok (.ofOutcomes (files.flatMap fun file =>
        (matchFile file (annotations file).expectations diagnostics).outcomes)), tree) := by
  let report : Path → Report := fun file =>
    matchFile file (annotations file).expectations diagnostics
  have hreports : (groups.flatMap Group.files).mapM (fun file =>
      (tree.source root file).report vocabulary diagnostics) =
        .ok ((groups.flatMap Group.files).map report) := by
    rw [mapM_eq_ok_iff, List.map_map]
    refine List.map_congr_left fun file hfile => ?_
    exact (hdeclares file (hgroups.mem_iff.mp hfile)).report_eq diagnostics
  have hapart : (files.map report).Pairwise Report.Apart :=
    hfiles.pairwise_apart fun file => isOn_matchFile file _ _
  have hmoved : Report.combineAll ((groups.flatMap Group.files).map report) =
      Report.combineAll (files.map report) :=
    (Report.combineAll_perm (hgroups.symm.map report) hapart).symm
  rw [checkRecorded_eq, hreports]
  show (Except.ok (Report.combineAll _), tree) = _
  rw [hmoved, Report.combineAll, List.flatMap_map]

theorem checkRecorded_of_faulty {file : Path} (hgroups : file ∈ groups.flatMap Group.files)
    (hfaulty : tree.Faulty vocabulary root file) (diagnostics : List Diagnostic) :
    ∃ failure, tree.checkRecorded vocabulary root diagnostics groups = (.error failure, tree) := by
  rw [checkRecorded_eq]
  cases hreports : (groups.flatMap Group.files).mapM fun file =>
      (tree.source root file).report vocabulary diagnostics with
  | error failure => exact ⟨failure, rfl⟩
  | ok reports =>
    obtain ⟨failure, hfailure⟩ := hfaulty.exists_report_eq diagnostics
    obtain ⟨report, hreport⟩ := exists_mapM_eq_ok_iff.mp ⟨reports, hreports⟩ file hgroups
    rw [hfailure] at hreport
    cases hreport

theorem exists_declares (h : ∀ file ∈ files, ¬tree.Faulty vocabulary root file) :
    ∃ annotations : Path → Annotations,
      ∀ file ∈ files, tree.Declares vocabulary root file (annotations file) := by
  have hnonempty : Nonempty Annotations := ⟨{}⟩
  have hdeclares : ∀ file ∈ files, ∃ annotations,
      tree.Declares vocabulary root file annotations := fun file hfile =>
    (tree.faulty_or_declares vocabulary root file).resolve_left (h file hfile)
  choose! annotations hannotations using hdeclares
  exact ⟨annotations, hannotations⟩

/-- A check fails exactly if some file is at fault. -/
theorem exists_checkRecorded_eq_error_iff (hfiles : DifferentFiles files)
    (hgroups : (groups.flatMap Group.files).Perm files) (diagnostics : List Diagnostic) :
    (∃ failure, tree.checkRecorded vocabulary root diagnostics groups = (.error failure, tree)) ↔
      ∃ file ∈ files, tree.Faulty vocabulary root file := by
  constructor
  · rintro ⟨failure, hfailure⟩
    by_contra hsound
    push Not at hsound
    obtain ⟨annotations, hdeclares⟩ := exists_declares hsound
    rw [checkRecorded_of_declares hfiles hgroups hdeclares] at hfailure
    cases hfailure
  · rintro ⟨file, hfile, hfaulty⟩
    exact checkRecorded_of_faulty (hgroups.mem_iff.mpr hfile) hfaulty diagnostics

end FileTree

/-- How different files are divided into groups has no influence on the check with recorded
diagnostics. It fails for both divisions, which is exactly if some file cannot be read as a text or
its directives have defects, or it gives both the same report: that of the outcomes of all files,
each matched with all diagnostics. -/
theorem checkRecorded_partition (vocabulary : Vocabulary) (diagnostics : List Diagnostic)
    (root : Path) (tree : FileTree) {files : List Path} (hfiles : DifferentFiles files)
    {groups others : List Group} (hgroups : (groups.flatMap Group.files).Perm files)
    (hothers : (others.flatMap Group.files).Perm files) :
    ((∃ failure, tree.checkRecorded vocabulary root diagnostics groups = (.error failure, tree)) ↔
      ∃ file ∈ files, tree.Faulty vocabulary root file) ∧
    ((∃ failure, tree.checkRecorded vocabulary root diagnostics others = (.error failure, tree)) ↔
      ∃ file ∈ files, tree.Faulty vocabulary root file) ∧
    ((∃ file ∈ files, tree.Faulty vocabulary root file) ∨
      ∃ annotations : Path → Annotations, ∃ report : Report,
        (∀ file ∈ files, tree.Declares vocabulary root file (annotations file)) ∧
        report = .ofOutcomes (files.flatMap fun file =>
          (matchFile file (annotations file).expectations diagnostics).outcomes) ∧
        tree.checkRecorded vocabulary root diagnostics groups = (.ok report, tree) ∧
        tree.checkRecorded vocabulary root diagnostics others = (.ok report, tree)) := by
  refine ⟨FileTree.exists_checkRecorded_eq_error_iff hfiles hgroups diagnostics,
    FileTree.exists_checkRecorded_eq_error_iff hfiles hothers diagnostics, ?_⟩
  by_cases hfaulty : ∃ file ∈ files, tree.Faulty vocabulary root file
  · exact .inl hfaulty
  · push Not at hfaulty
    obtain ⟨annotations, hdeclares⟩ := FileTree.exists_declares hfaulty
    exact .inr ⟨annotations, _, hdeclares, rfl,
      FileTree.checkRecorded_of_declares hfiles hgroups hdeclares diagnostics,
      FileTree.checkRecorded_of_declares hfiles hothers hdeclares diagnostics⟩

theorem FileTree.not_faulty {tree : FileTree} {vocabulary : Vocabulary} {root file : Path}
    {text : String} (hbytes : tree.readBytes (root.join file) = .ok text.toUTF8)
    (hread : (readAnnotations vocabulary file text).isOk = true) :
    ¬tree.Faulty vocabulary root file := by
  have htext := readText_of_readBytes hbytes
  rintro (⟨problem, hproblem⟩ | ⟨other, defects, hother, hdefects⟩)
  · rw [htext] at hproblem
    cases hproblem
  · rw [htext] at hother
    obtain rfl := Except.ok.inj hother
    rw [hdefects] at hread
    cases hread

/-- A text that expects a mismatch in its second line. -/
def mismatchText : String :=
  "// jspecify_nullness_mismatch\nuse(x);\n"

def plainText : String :=
  "int z;\n"

/-- A tree with a file that expects a mismatch and a file that expects nothing. -/
def sampleTree : FileTree :=
  FileTree.put (FileTree.put default [] "One.java" (.file mismatchText.toUTF8)) [] "Two.java"
    (.file plainText.toUTF8)

def sampleFiles : List Path :=
  [⟨"One.java"⟩, ⟨"Two.java"⟩]

theorem readBytes_sampleTree :
    sampleTree.readBytes ⟨"./One.java"⟩ = .ok mismatchText.toUTF8 ∧
      sampleTree.readBytes ⟨"./Two.java"⟩ = .ok plainText.toUTF8 := by
  have hspelling : isSpelling "./One.java" = true ∧ isSpelling "./Two.java" = true := by
    simp [isSpelling, String.contains_char_eq]
  have hproblem : spellingProblem? "./One.java" = none ∧ spellingProblem? "./Two.java" = none := by
    decide +kernel
  have hnames : pathNames ⟨"./One.java"⟩ = [".", "One.java"] ∧
      pathNames ⟨"./Two.java"⟩ = [".", "Two.java"] := by
    decide +kernel
  constructor
  · rw [FileTree.readBytes, FileTree.resolve, hspelling.1, hproblem.1, hnames.1]
    rfl
  · rw [FileTree.readBytes, FileTree.resolve, hspelling.2, hproblem.2, hnames.2]
    rfl

theorem sound_sampleTree :
    ∀ file ∈ sampleFiles, ¬sampleTree.Faulty .standard ⟨"."⟩ file := by
  have hread : (readAnnotations .standard ⟨"One.java"⟩ mismatchText).isOk = true ∧
      (readAnnotations .standard ⟨"Two.java"⟩ plainText).isOk = true := by
    decide +kernel
  intro file hfile
  rcases List.mem_pair.mp hfile with rfl | rfl
  · exact FileTree.not_faulty readBytes_sampleTree.1 hread.1
  · exact FileTree.not_faulty readBytes_sampleTree.2 hread.2

theorem differentFiles_sampleFiles : DifferentFiles sampleFiles := by
  unfold DifferentFiles
  decide

/-- The files of the sample in one group, and each in a group of its own. -/
def jointGroups : List Group :=
  [⟨sampleFiles, by decide⟩]

def singleGroups : List Group :=
  [⟨[⟨"Two.java"⟩], by decide⟩, ⟨[⟨"One.java"⟩], by decide⟩]

theorem perm_jointGroups : (jointGroups.flatMap Group.files).Perm sampleFiles :=
  .refl _

theorem perm_singleGroups : (singleGroups.flatMap Group.files).Perm sampleFiles :=
  .swap ..

/-- The check of the sample succeeds, whatever was recorded. -/
theorem exists_checkRecorded_sampleTree {groups : List Group}
    (hgroups : (groups.flatMap Group.files).Perm sampleFiles) (diagnostics : List Diagnostic) :
    ∃ report,
      sampleTree.checkRecorded .standard ⟨"."⟩ diagnostics groups = (.ok report, sampleTree) := by
  obtain ⟨annotations, hdeclares⟩ := FileTree.exists_declares sound_sampleTree
  exact ⟨_, FileTree.checkRecorded_of_declares differentFiles_sampleFiles hgroups hdeclares
    diagnostics⟩

/-- Two mismatches that the one expectation can take, and something in no file of the sample. -/
def sampleDiagnostics : List Diagnostic := [
  { file := ⟨"One.java"⟩, line := 2, key := "argument", severity := .error, message := "x" },
  { file := ⟨"Other.java"⟩, line := 1, key := "argument", severity := .error },
  { file := ⟨"One.java"⟩, line := 2, key := "return", severity := .error, message := "y" }]

theorem checkRecorded_partition_sampleTree :
    ∃ report,
      sampleTree.checkRecorded .standard ⟨"."⟩ sampleDiagnostics jointGroups =
        (.ok report, sampleTree) ∧
      sampleTree.checkRecorded .standard ⟨"."⟩ sampleDiagnostics singleGroups =
        (.ok report, sampleTree) := by
  obtain ⟨-, -, hfaulty | ⟨annotations, report, -, -, hjoint, hsingle⟩⟩ :=
    checkRecorded_partition .standard sampleDiagnostics ⟨"."⟩ sampleTree
      differentFiles_sampleFiles perm_jointGroups perm_singleGroups
  · obtain ⟨file, hfile, hfaulty⟩ := hfaulty
    exact absurd hfaulty (sound_sampleTree file hfile)
  · exact ⟨report, hjoint, hsingle⟩

end FindingCheck
