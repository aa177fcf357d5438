import FindingCheck.Proofs.Checking

/-!
# A check with recorded diagnostics

With recorded diagnostics, what the report says of a file depends on the file and on the diagnostics
alone. The analyzer picks out the diagnostics of each group, but it takes none away from a file of
the group, so the check of a corpus is that of its sources, one after the other.

## Main definitions

* `Source.report` — the report on one source

## Main statements

* `matchFile_filter_contains`, `Source.report_filter_contains` — the analyzer takes no diagnostic
  away from a file
* `checkCorpus_replay` — the check of a corpus is that of its sources
-/

namespace FindingCheck

/-- The report on one source. -/
def Source.report {α : Type} [Finding α] (vocabulary : Vocabulary) (findings : List α)
    (source : Source) : Except Failure Report :=
  (readSource vocabulary source).result.map fun file =>
    matchFile file.1 file.2.expectations findings

/-- Picking out the diagnostics of a group takes none away from its files. -/
theorem matchFile_filter_contains {files : List Path} {file : Path} (hfile : file ∈ files)
    (expectations : List Expectation) (diagnostics : List Diagnostic) :
    matchFile file expectations
        (diagnostics.filter fun diagnostic => files.contains diagnostic.file) =
      matchFile file expectations diagnostics := by
  refine matchFile_congr expectations ?_
  rw [List.filter_filter]
  refine List.filter_congr fun diagnostic _ => ?_
  show (diagnostic.file == file && files.contains diagnostic.file) = (diagnostic.file == file)
  cases h : diagnostic.file == file with
  | false => rfl
  | true => exact List.contains_iff_exists_mem_beq.mpr ⟨file, hfile, h⟩

theorem Source.report_filter_contains {vocabulary : Vocabulary} {files : List Path} {source : Source}
    (hsource : source.path ∈ files) (diagnostics : List Diagnostic) :
    source.report vocabulary (diagnostics.filter fun diagnostic => files.contains diagnostic.file) =
      source.report vocabulary diagnostics := by
  rw [report, report]
  cases hread : (readSource vocabulary source).result with
  | error failure => rfl
  | ok file =>
    rw [← path_of_readSource hread] at hsource
    exact congrArg Except.ok (matchFile_filter_contains hsource _ _)

theorem checkGroup_replay (vocabulary : Vocabulary) (diagnostics : List Diagnostic) (root : Path)
    (sources : List Source) :
    (checkGroup vocabulary (.replay diagnostics) root sources).result =
      (sources.mapM (Source.report vocabulary diagnostics)).map Report.combineAll := by
  have hreports : sources.mapM (Source.report vocabulary diagnostics) =
      sources.mapM (Source.report vocabulary (diagnostics.filter fun diagnostic =>
        (sources.map (·.path)).contains diagnostic.file)) :=
    mapM_congr_left fun _ hsource =>
      (Source.report_filter_contains (List.mem_map_of_mem hsource) diagnostics).symm
  rw [checkGroup_result, hreports]
  unfold Source.report
  rw [mapM_map]
  cases sources.mapM fun source => (readSource vocabulary source).result with
  | error failure => rfl
  | ok annotated => rfl

/-- The check of a corpus is that of its files, one after the other. -/
theorem checkCorpus_replay (vocabulary : Vocabulary) (diagnostics : List Diagnostic) (root : Path)
    (groups : List (List Source)) :
    checkCorpus vocabulary (.replay diagnostics) root groups =
      (groups.flatten.mapM (Source.report vocabulary diagnostics)).map Report.combineAll := by
  show Except.bind (groups.mapM _) _ = _
  simp only [checkGroup_replay]
  rw [mapM_map, mapM_flatten]
  cases groups.mapM (List.mapM (Source.report vocabulary diagnostics)) with
  | error failure => rfl
  | ok parts => exact congrArg Except.ok (Report.combineAll_map_combineAll parts)

end FindingCheck
