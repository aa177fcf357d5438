import FindingCheck.Check
import FindingCheck.Proofs.Matching
import FindingCheck.Proofs.Report.Combining

/-!
# The report of a corpus

The groups of a corpus are checked each by itself, and their reports are put together. The check
succeeds if every group does, and in whatever pairs the reports are put together, the one report of
the corpus comes out.

## Main definitions

* `FilesApart` — groups without a common file

## Main statements

* `checkGroup_result` — the report on a group, without the events
* `checkCorpus_eq_ok_iff` — when the check of a corpus succeeds, and with which report
* `exists_matchFile_of_mem_checkCorpus` — its outcomes are those of its files
* `checkCorpus_independent` — the report depends neither on how reports are put together nor on the
  order of groups that share no assertion
-/

namespace FindingCheck

theorem readSource_result (vocabulary : Vocabulary) (source : Source) :
    (readSource vocabulary source).result =
      source.text.bind fun text =>
        (Except.mapError (.malformedSource source.path)
          (readAnnotations vocabulary source.path text)).bind fun annotations =>
            .ok (source.path, annotations) := by
  rw [readSource, Logged.result_bind, Logged.result_ofExcept]
  refine congrArg (Except.bind source.text) (funext fun text => ?_)
  rw [Logged.result_bind, Logged.result_tell, Except.bind, Logged.result_bind,
    Logged.result_ofExcept, readAnnotations]
  rfl

/-- What a source declares stands under the file of the source. -/
theorem path_of_readSource {vocabulary : Vocabulary} {source : Source} {file : Path × Annotations}
    (h : (readSource vocabulary source).result = .ok file) : file.1 = source.path := by
  rw [readSource_result, bind_eq_ok_iff] at h
  obtain ⟨text, -, h⟩ := h
  obtain ⟨annotations, -, h⟩ := bind_eq_ok_iff.mp h
  obtain rfl := Except.ok.inj h
  rfl

variable {α : Type} [Finding α]

theorem checkFile_result (findings : List α) (file : Path × Annotations) :
    (checkFile findings file).result = .ok (matchFile file.1 file.2.expectations findings) :=
  rfl

theorem checkGroup_result (vocabulary : Vocabulary) (analyzer : Analyzer α) (root : Path)
    (sources : List Source) :
    (checkGroup vocabulary analyzer root sources).result =
      (sources.mapM fun source => (readSource vocabulary source).result).bind fun annotated =>
        (Except.mapError (.analyzerFailed (sources.map (·.path)))
          (analyzer.analyze root (sources.map (·.path)))).bind fun findings =>
            .ok (.combineAll (annotated.map fun file =>
              matchFile file.1 file.2.expectations findings)) := by
  rw [checkGroup, Logged.result_bind, Logged.result_mapM]
  congr
  funext annotated
  rw [Logged.result_bind]
  show Except.bind (Except.mapError _ _) _ = _
  congr
  funext findings
  have hfiles : annotated.mapM (fun file => (checkFile findings file).result) =
      .ok (annotated.map fun file => matchFile file.1 file.2.expectations findings) := by
    simp only [checkFile_result]
    rw [mapM_eq_ok_iff, List.map_map]
    rfl
  rw [Logged.result_bind, Logged.result_mapM, hfiles]
  rfl

/-- A group has a report if every source is well formed and the analyzer succeeds. -/
theorem exists_checkGroup_iff {vocabulary : Vocabulary} {analyzer : Analyzer α} {root : Path}
    {sources : List Source} :
    (∃ report, (checkGroup vocabulary analyzer root sources).result = .ok report) ↔
      (∀ source ∈ sources, ∃ file, (readSource vocabulary source).result = .ok file) ∧
        ∃ findings, analyzer.analyze root (sources.map (·.path)) = .ok findings := by
  rw [checkGroup_result, ← exists_mapM_eq_ok_iff]
  simp only [bind_eq_ok_iff, mapError_eq_ok_iff]
  constructor
  · rintro ⟨_, annotated, hannotated, findings, hfindings, -⟩
    exact ⟨⟨annotated, hannotated⟩, findings, hfindings⟩
  · rintro ⟨⟨annotated, hannotated⟩, findings, hfindings⟩
    exact ⟨_, annotated, hannotated, findings, hfindings, rfl⟩

/-- The check succeeds if every group does, with the report on all groups. -/
theorem checkCorpus_eq_ok_iff {vocabulary : Vocabulary} {analyzer : Analyzer α} {root : Path}
    {groups : List (List Source)} {found : Report} :
    checkCorpus vocabulary analyzer root groups = .ok found ↔
      ∃ reports, groups.map (fun group => (checkGroup vocabulary analyzer root group).result) =
        reports.map .ok ∧ found = .combineAll reports := by
  show Except.bind (groups.mapM _) _ = .ok found ↔ _
  rw [bind_eq_ok_iff]
  constructor
  · rintro ⟨reports, hreports, hfound⟩
    exact ⟨reports, mapM_eq_ok_iff.mp hreports, (Except.ok.inj hfound).symm⟩
  · rintro ⟨reports, hreports, rfl⟩
    exact ⟨reports, mapM_eq_ok_iff.mpr hreports, rfl⟩

/-- An outcome on a group is an outcome of one of its files. -/
theorem exists_matchFile_of_mem_checkGroup {vocabulary : Vocabulary} {analyzer : Analyzer α}
    {root : Path} {sources : List Source} {report : Report}
    (h : (checkGroup vocabulary analyzer root sources).result = .ok report) {outcome : Outcome}
    (houtcome : outcome ∈ report.outcomes) :
    ∃ source ∈ sources, ∃ (expectations : List Expectation) (findings : List α),
      outcome ∈ (matchFile source.path expectations findings).outcomes := by
  rw [checkGroup_result, bind_eq_ok_iff] at h
  obtain ⟨annotated, hannotated, h⟩ := h
  obtain ⟨findings, -, h⟩ := bind_eq_ok_iff.mp h
  obtain rfl := Except.ok.inj h
  -- the outcome is one of a file, and the file is that of a source
  have hmem : outcome ∈ (annotated.map fun file =>
      matchFile file.1 file.2.expectations findings).flatMap Report.outcomes :=
    (perm_sortOn _ _).mem_iff.mp houtcome
  obtain ⟨matched, hmatched, hmem⟩ := List.mem_flatMap.mp hmem
  obtain ⟨file, hfile, rfl⟩ := List.mem_map.mp hmatched
  obtain ⟨source, hsource, hread⟩ := exists_of_mem_results (mapM_eq_ok_iff.mp hannotated) hfile
  rw [path_of_readSource hread] at hmem
  exact ⟨source, hsource, _, findings, hmem⟩

/-- An outcome on a corpus is an outcome of one of its files. -/
theorem exists_matchFile_of_mem_checkCorpus {vocabulary : Vocabulary} {analyzer : Analyzer α}
    {root : Path} {groups : List (List Source)} {report : Report}
    (h : checkCorpus vocabulary analyzer root groups = .ok report) {outcome : Outcome}
    (houtcome : outcome ∈ report.outcomes) :
    ∃ group ∈ groups, ∃ source ∈ group, ∃ (expectations : List Expectation) (findings : List α),
      outcome ∈ (matchFile source.path expectations findings).outcomes := by
  obtain ⟨reports, hreports, rfl⟩ := checkCorpus_eq_ok_iff.mp h
  have hmem : outcome ∈ reports.flatMap Report.outcomes := (perm_sortOn _ _).mem_iff.mp houtcome
  obtain ⟨part, hpart, hmem⟩ := List.mem_flatMap.mp hmem
  obtain ⟨group, hgroup, hresult⟩ := exists_of_mem_results hreports hpart
  exact ⟨group, hgroup, exists_matchFile_of_mem_checkGroup hresult hmem⟩

/-- The assertions on a group are about its files. -/
theorem file_beq_of_mem_checkGroup {vocabulary : Vocabulary} {analyzer : Analyzer α} {root : Path}
    {sources : List Source} {report : Report}
    (h : (checkGroup vocabulary analyzer root sources).result = .ok report) {outcome : Outcome}
    (houtcome : outcome ∈ report.outcomes) :
    ∃ source ∈ sources, (outcome.assertion.file == source.path) = true := by
  obtain ⟨source, hsource, expectations, findings, hmem⟩ :=
    exists_matchFile_of_mem_checkGroup h houtcome
  exact ⟨source, hsource, file_beq_of_mem_matchFile hmem⟩

/-- No file of one group is equal to a file of the other. -/
def FilesApart (a b : List Source) : Prop :=
  ∀ x ∈ a, ∀ y ∈ b, (x.path == y.path) = false

theorem FilesApart.apart {vocabulary : Vocabulary} {analyzer : Analyzer α} {root : Path}
    {a b : List Source} (h : FilesApart a b) {reportA reportB : Report}
    (ha : (checkGroup vocabulary analyzer root a).result = .ok reportA)
    (hb : (checkGroup vocabulary analyzer root b).result = .ok reportB) :
    reportA.Apart reportB := by
  intro x hx y hy
  obtain ⟨source, hsource, hfile⟩ := file_beq_of_mem_checkGroup ha hx
  obtain ⟨other, hother, hfile'⟩ := file_beq_of_mem_checkGroup hb hy
  have hne := h source hsource other hother
  rw [← Bool.not_eq_true] at hne ⊢
  intro heq
  refine hne (Path.beq_iff.mpr ?_)
  calc source.path.components
      = x.assertion.file.components := (Path.beq_iff.mp hfile).symm
    _ = y.assertion.file.components := Path.beq_iff.mp (Assertion.file_beq_of_beq heq)
    _ = other.path.components := Path.beq_iff.mp hfile'

theorem pairwise_apart {vocabulary : Vocabulary} {analyzer : Analyzer α} {root : Path}
    {groups : List (List Source)} {reports : List Report}
    (hreports : groups.map (fun group => (checkGroup vocabulary analyzer root group).result) =
      reports.map .ok) (h : groups.Pairwise FilesApart) : reports.Pairwise Report.Apart := by
  induction groups generalizing reports with
  | nil =>
    rw [List.map_eq_nil_iff.mp hreports.symm]
    exact .nil
  | cons group groups ih =>
    cases reports with
    | nil => cases hreports
    | cons report reports =>
      obtain ⟨hgroup, hgroups⟩ := List.cons.inj hreports
      obtain ⟨happart, hrest⟩ := List.pairwise_cons.mp h
      refine List.pairwise_cons.mpr ⟨fun other hother => ?_, ih hgroups hrest⟩
      obtain ⟨otherGroup, hotherGroup, hresult⟩ := exists_of_mem_results hgroups hother
      exact (happart otherGroup hotherGroup).apart hgroup hresult

/-- The report of a corpus exists if every group has one. It is the report with all outcomes of
the groups, in whatever pairs their reports are put together; and if no two groups share an
assertion, as where no two have a common file, the order of the groups has no influence. -/
theorem checkCorpus_independent (vocabulary : Vocabulary) (analyzer : Analyzer α) (root : Path)
    (groups : List (List Source)) :
    ((∃ report, checkCorpus vocabulary analyzer root groups = .ok report) ↔
      ∀ group ∈ groups, ∃ report,
        (checkGroup vocabulary analyzer root group).result = .ok report) ∧
    (∀ tree : FoldTree (List Source), tree.parts = groups → ∀ report,
      tree.fold (fun group => (checkGroup vocabulary analyzer root group).result) = .ok report ↔
        checkCorpus vocabulary analyzer root groups = .ok report) ∧
    ∀ reports : List Report,
      groups.map (fun group => (checkGroup vocabulary analyzer root group).result) =
        reports.map .ok →
      checkCorpus vocabulary analyzer root groups =
        .ok (.ofOutcomes (reports.flatMap Report.outcomes)) ∧
      (reports.Pairwise Report.Apart ∨ groups.Pairwise FilesApart →
        ∀ tree : FoldTree (List Source), tree.parts.Perm groups →
          tree.fold (fun group => (checkGroup vocabulary analyzer root group).result) =
              .ok (.ofOutcomes (reports.flatMap Report.outcomes)) ∧
            checkCorpus vocabulary analyzer root tree.parts =
              .ok (.ofOutcomes (reports.flatMap Report.outcomes))) := by
  refine ⟨?_, ?_, fun reports hreports => ⟨?_, fun hapart tree hperm => ?_⟩⟩
  · rw [← exists_mapM_eq_ok_iff]
    simp only [checkCorpus_eq_ok_iff, mapM_eq_ok_iff]
    constructor
    · rintro ⟨_, reports, hreports, -⟩
      exact ⟨reports, hreports⟩
    · rintro ⟨reports, hreports⟩
      exact ⟨_, reports, hreports, rfl⟩
  · rintro tree rfl report
    rw [FoldTree.fold_eq_ok_iff, checkCorpus_eq_ok_iff]
  · exact checkCorpus_eq_ok_iff.mpr ⟨reports, hreports, rfl⟩
  · have hpairwise : reports.Pairwise Report.Apart :=
      hapart.elim id fun hfiles => pairwise_apart hreports hfiles
    obtain ⟨moved, hmoved, hresults⟩ := exists_perm_results hperm hreports
    have hsame := Report.combineAll_perm hresults hpairwise
    exact ⟨FoldTree.fold_eq_ok_iff.mpr ⟨moved, hmoved, hsame⟩,
      checkCorpus_eq_ok_iff.mpr ⟨moved, hmoved, hsame⟩⟩

def annotatedSource : Source where
  path := ⟨"a/One.java"⟩
  text := .ok "// test:irrelevant-annotation:Nullable\nvoid one() \x7b\x7d\n"

def plainSource : Source where
  path := ⟨"b/Two.java"⟩
  text := .ok "void two() \x7b\x7d\n"

/-- A mismatch that was recorded in the source without expectations. -/
def recordedMismatch : Diagnostic where
  file := ⟨"b/Two.java"⟩
  line := 1
  key := "return.type.incompatible"
  severity := .error

theorem checkCorpus_independent_recorded :
    ∃ report,
      checkCorpus .standard (.replay [recordedMismatch]) ⟨"corpus"⟩
          [[annotatedSource], [plainSource]] = .ok report ∧
        (FoldTree.both (.one [plainSource]) (.both .nothing (.one [annotatedSource]))).fold
          (fun group => (checkGroup .standard (.replay [recordedMismatch]) ⟨"corpus"⟩ group).result)
            = .ok report := by
  have hread : ∀ source ∈ [annotatedSource, plainSource], ∃ file,
      (readSource .standard source).result = .ok file := by
    have hok : ∀ source ∈ [annotatedSource, plainSource],
        (readSource .standard source).result.isOk = true := by
      decide +kernel
    intro source hsource
    have hsome := hok source hsource
    cases hresult : (readSource .standard source).result with
    | ok file => exact ⟨file, rfl⟩
    | error failure =>
      rw [hresult] at hsome
      cases hsome
  have hgroups : ∀ group ∈ [[annotatedSource], [plainSource]], ∃ report,
      (checkGroup .standard (.replay [recordedMismatch]) ⟨"corpus"⟩ group).result =
        .ok report := by
    intro group hgroup
    refine exists_checkGroup_iff.mpr ⟨fun source hsource => hread source ?_, _, rfl⟩
    rcases List.mem_pair.mp hgroup with rfl | rfl
    · exact List.mem_cons.mpr (.inl (List.mem_singleton.mp hsource))
    · exact List.mem_cons_of_mem _ hsource
  obtain ⟨reports, hreports⟩ := exists_mapM_eq_ok_iff.mpr hgroups
  have hapart : List.Pairwise FilesApart [[annotatedSource], [plainSource]] := by
    refine List.pairwise_pair.mpr ?_
    unfold FilesApart
    decide
  obtain ⟨-, -, hall⟩ := checkCorpus_independent .standard (.replay [recordedMismatch])
    ⟨"corpus"⟩ [[annotatedSource], [plainSource]]
  obtain ⟨hcorpus, hmoved⟩ := hall reports (mapM_eq_ok_iff.mp hreports)
  exact ⟨_, hcorpus, (hmoved (.inr hapart)
    (.both (.one [plainSource]) (.both .nothing (.one [annotatedSource]))) (.swap ..)).1⟩

end FindingCheck
