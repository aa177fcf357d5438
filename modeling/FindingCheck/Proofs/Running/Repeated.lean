import FindingCheck.Proofs.Discovery
import FindingCheck.Proofs.Files.LongPaths
import FindingCheck.Proofs.Running.Changes

/-!
# Running again after a report was written

Where the report lies outside of the corpus and is not the dump, storing it changes nothing that a
run looks at before it has its report. So the next run comes to the same report: it matches what is
stored, and writing it again changes nothing.

## Main statements

* `FileTree.Keeps.checked_eq` — a run comes to the same report
* `FileTree.execute_repeated` — the runs after one that has written its report
-/

namespace FindingCheck

namespace FileTree

variable {tree after : FileTree} {place location : Location} {options : Options} {report : Report}

theorem checked_eq_ok_iff :
    tree.checked options = .ok report ↔
      ∃ diagnostics groups, tree.dump options.facts = .ok diagnostics ∧
        tree.discovered options.root options.extension = .ok groups ∧
        checkCorpus .standard (.replay diagnostics) options.root
          (groups.map fun group => group.files.map (tree.source options.root)) = .ok report := by
  show Except.bind _ _ = .ok report ↔ _
  rw [bind_eq_ok_iff]
  constructor
  · rintro ⟨diagnostics, hdump, hrest⟩
    obtain ⟨groups, hgroups, hcheck⟩ := bind_eq_ok_iff.mp hrest
    exact ⟨diagnostics, groups, hdump, hgroups, hcheck⟩
  · rintro ⟨diagnostics, groups, hdump, hgroups, hcheck⟩
    exact ⟨diagnostics, hdump, bind_eq_ok_iff.mpr ⟨groups, hgroups, hcheck⟩⟩

theorem dump_eq_ok_iff {path : Path} {diagnostics : List Diagnostic} :
    tree.dump path = .ok diagnostics ↔
      ∃ text, tree.readText path = .ok text ∧ Diagnostic.parseDump text = .ok diagnostics := by
  show Except.bind _ _ = .ok diagnostics ↔ _
  rw [bind_eq_ok_iff]
  simp only [mapError_eq_ok_iff]

/-- In a check that succeeds every source has been read. -/
theorem exists_readText_of_check {diagnostics : List Diagnostic} {root : Path} {groups : List Group}
    (hcheck : checkCorpus .standard (.replay diagnostics) root
      (groups.map fun group => group.files.map (tree.source root)) = .ok report)
    {group : Group} (hgroup : group ∈ groups) {file : Path} (hfile : file ∈ group.files) :
    ∃ text, tree.readText (root.join file) = .ok text := by
  rw [checkCorpus_replay] at hcheck
  obtain ⟨reports, hmapM, -⟩ := map_eq_ok_iff.mp hcheck
  have hsource : tree.source root file ∈
      (groups.map fun group => group.files.map (tree.source root)).flatten :=
    List.mem_flatten.mpr ⟨_, List.mem_map_of_mem hgroup, List.mem_map_of_mem hfile⟩
  obtain ⟨found, hfound⟩ := exists_mapM_eq_ok_iff.mp ⟨reports, hmapM⟩ _ hsource
  cases htext : tree.readText (root.join file) with
  | ok text => exact ⟨text, rfl⟩
  | error problem =>
    rw [Source.report, readSource_result, source, htext] at hfound
    cases hfound

theorem readBytes_eq_ok_iff {path : Path} {content : ByteArray} :
    tree.readBytes path = .ok content ↔
      ∃ directory name, tree.resolve .reading path = .ok (.file directory name content) := by
  constructor
  · intro h
    unfold readBytes at h
    cases hresolve : tree.resolve .reading path with
    | error problem =>
      rw [hresolve] at h
      cases h
    | ok found =>
      rw [hresolve] at h
      cases found with
      | file directory name old =>
        obtain rfl : old = content := Except.ok.inj h
        exact ⟨directory, name, rfl⟩
      | directory entries => cases h
      | link above name => cases h
      | missing above name => cases h
  · rintro ⟨directory, name, hresolve⟩
    exact readBytes_of_resolve hresolve

/-! ### What a run looks at -/

/-- A tree that has grown shows what was seen, but in one place, and nothing new but
directories. -/
structure Keeps (tree : FileTree) (place : Location) (after : FileTree) : Prop where
  plain : tree.Plain
  afterPlain : after.Plain
  grows : tree.Grows after
  seen? : ∀ location, location ≠ place → after.seen? location = tree.seen? location ∨
    tree.seen? location = none ∧ after.seen? location = some (.directory [])

namespace Keeps

variable (h : tree.Keeps place after)
include h

/-- A file that is not in that place is read as before. -/
theorem readBytes_eq {path : Path} (hpath : tree.location path ≠ place) {content : ByteArray}
    (hread : tree.readBytes path = .ok content) : after.readBytes path = .ok content := by
  obtain ⟨directory, name, hresolve⟩ := readBytes_eq_ok_iff.mp hread
  obtain ⟨inner, hdirectory, hname⟩ := resolve_stands hresolve
  have hlocation : tree.location path = directory ++ [name] := resolve_isAt h.plain hresolve
  have hhere : tree.seen? (directory ++ [name]) = some (.file content) := by
    apply seen?_eq_file_iff.mpr
    exact (Contents.get?_append_singleton hdirectory name).trans hname
  have hne : directory ++ [name] ≠ place := by
    rintro rfl
    exact hpath hlocation
  have hkept : after.seen? (directory ++ [name]) = some (.file content) := by
    rcases h.seen? _ hne with hsame | ⟨hnone, -⟩
    · rw [hsame, hhere]
    · rw [hhere] at hnone
      cases hnone
  obtain ⟨became, hbecame, hbecomes⟩ := resolve_grows h.grows hresolve
  cases hbecomes with
  | @file _ _ _ new hnew =>
    cases hnew.symm.trans (seen?_eq_file_iff.mp hkept)
    exact readBytes_of_resolve hbecame

theorem readText_eq {path : Path} (hpath : tree.location path ≠ place) {text : String}
    (htext : tree.readText path = .ok text) : after.readText path = .ok text := by
  cases hread : tree.readBytes path with
  | error problem =>
    rw [readText, hread] at htext
    cases htext
  | ok content =>
    rw [readText, hread] at htext
    rw [readText, h.readBytes_eq hpath hread]
    exact htext

theorem shows {root : Path} (houtside : ¬location <+: place)
    (hopen : ∀ names, tree.seen? (location ++ names) = none →
      after.seen? (location ++ names) = some (.directory []) →
        spellingProblem? (root.joined names).text = none) :
    tree.Shows root location after where
  grows := h.grows.entries
  files names content hcontent hnone := by
    have hne : location ++ names ≠ place := fun heq => houtside ⟨names, heq⟩
    have hfile := seen?_eq_file_iff.mpr hcontent
    rcases h.seen? _ hne with hsame | ⟨-, hdirectory⟩
    · rw [hsame, seen?_eq_none_iff.mpr hnone] at hfile
      cases hfile
    · rw [hdirectory] at hfile
      cases hfile
  opened names inner hnone hinner :=
    hopen names (seen?_eq_none_iff.mpr hnone) (seen?_eq_directory_iff.mpr ⟨inner, hinner⟩)

/-- A run comes to the same report where that place is neither beneath the root nor the dump. -/
theorem checked_eq (houtside : ¬tree.location options.root <+: place)
    (hfacts : tree.location options.facts ≠ place)
    (hopen : ∀ names, tree.seen? (tree.location options.root ++ names) = none →
      after.seen? (tree.location options.root ++ names) = some (.directory []) →
        spellingProblem? (options.root.joined names).text = none)
    (hchecked : tree.checked options = .ok report) : after.checked options = .ok report := by
  obtain ⟨diagnostics, groups, hdump, hgroups, hcheck⟩ := checked_eq_ok_iff.mp hchecked
  obtain ⟨text, htext, hparse⟩ := dump_eq_ok_iff.mp hdump
  obtain ⟨entries, hrootAt⟩ := exists_rootAt h.plain hgroups
  obtain ⟨others, hrootAfter⟩ := hrootAt.grows h.grows h.afterPlain
  have hshows := h.shows houtside hopen
  -- every source lies beneath the root and was read, so it is read as it was
  have hsources : groups.map (fun group => group.files.map (after.source options.root)) =
      groups.map fun group => group.files.map (tree.source options.root) := by
    apply List.map_congr_left
    intro group hgroup
    apply List.map_congr_left
    intro file hfile
    obtain ⟨text, htext⟩ := exists_readText_of_check hcheck hgroup hfile
    have hpath : tree.location (options.root.join file) ≠ place := by
      obtain ⟨names, hne, hnames, rfl⟩ :=
        hrootAt.ofNames_of_discovered hgroups group hgroup file hfile
      rw [tree.location_join (isEmpty_of_resolve hrootAt.resolve) hne hnames]
      intro heq
      exact houtside ⟨names, heq⟩
    rw [source, source, htext, h.readText_eq hpath htext]
  refine checked_eq_ok_iff.mpr ⟨diagnostics, groups, ?_, ?_, ?_⟩
  · exact dump_eq_ok_iff.mpr ⟨text, h.readText_eq hfacts htext, hparse⟩
  · exact hshows.discovered_eq hrootAt hrootAfter hgroups
  · rw [hsources]
    exact hcheck

end Keeps

/-! ### Running again -/

section

variable {furnished : FileTree} {path : Path} {directory : Location} {name : String}
  {made : List Location} {content : ByteArray}

/-- Storing a file keeps everything else. -/
theorem Furnishes.keeps (h : tree.Furnishes path made furnished) (hplain : tree.Plain)
    (hplace : furnished.Writable path directory name) (content : ByteArray) :
    tree.Keeps (directory ++ [name]) (furnished.put directory name (.file content)) where
  plain := hplain
  afterPlain := hplace.plain (h.makes.plain hplain) content
  grows := h.makes.grows.trans (hplace.grows_put content)
  seen? location hne := by
    rw [hplace.seen?_put, if_neg hne, h.seen?]
    by_cases hmade : location ∈ made
    · rw [if_pos hmade]
      exact .inr ⟨h.missing location hmade, rfl⟩
    · rw [if_neg hmade]
      exact .inl rfl

/-- A file that was written is written again without a change. -/
theorem Writable.writeBytes_put (h : furnished.Writable path directory name)
    (hnone : furnished.interruption? content = none) :
    (furnished.put directory name (.file content)).writeBytes path content =
      (.ok (), furnished.put directory name (.file content)) := by
  have hplace : (furnished.put directory name (.file content)).Writable path directory name :=
    .inr ⟨content, h.resolve_put content⟩
  have hwritten : (furnished.put directory name (.file content)).written content =
      (.ok (), content) := written_of_none hnone
  rw [writeBytes_of_writable hplace, hwritten]
  exact congrArg (Prod.mk (Except.ok ())) (put_put ..)

end

end FileTree

/-- Where the directory of a report is ensured, and writing it changes nothing, storing it changes
nothing. -/
theorem run_writeReport_of_ensured {tree : FileTree} {report : Report} {path : Path}
    (hensured : ∀ directory, directoryFor? path = some directory → tree.Ensured directory)
    (hwrite : tree.writeBytes path (report.render false).toUTF8 = (.ok (), tree)) :
    (writeReport report path : ExceptT Failure (StateM FileTree) Verdict).run.run tree =
      (.ok (.ofWritten path), tree) := by
  cases hdirectory : directoryFor? path with
  | none =>
    rw [run_writeReport_of_none hdirectory, hwrite]
    rfl
  | some directory =>
    have hmade : (makeDirectories directory : StateM FileTree (Except FileProblem Unit)).run tree =
        (.ok (), tree) :=
      run_makeChain_of_ensured (hensured directory hdirectory)
    rw [run_writeReport_of_made hdirectory hmade, hwrite]
    rfl

namespace FileTree

variable {tree after : FileTree} {options : Options} {output : Output}
  {arguments : List String} {modeName? : Option String}

/-- The runs after one that has written its report, where the report lies outside of the root
and is not the dump, and where the directories that have been made beneath the root can be opened
from there. The stored report matches, and it is written again without a change. -/
theorem execute_repeated (hplain : tree.Plain) (hoptions : Options.parse? arguments = some options)
    (hmode : Program.mode options modeName? = .ok .write)
    (houtside : ¬tree.location options.root <+: tree.location options.report)
    (hfacts : tree.location options.facts ≠ tree.location options.report)
    (hrun : tree.execute arguments modeName? = (output, after)) (hexit : output.exit = 0)
    (hopen : ∀ names, tree.seen? (tree.location options.root ++ names) = none →
      after.seen? (tree.location options.root ++ names) = some (.directory []) →
        spellingProblem? (options.root.joined names).text = none) :
    (∀ again variableValue? mode?, Options.parse? again = some { options with mode? } →
      Program.mode { options with mode? } variableValue? = .ok .compare →
        after.execute again variableValue? =
          ({ exit := 0,
             stdout := "Report matches " ++ options.report.text ++ "\n" ++
               Output.lastLine "PASSED" .compare }, after)) ∧
      after.execute arguments modeName? = (output, after) := by
  cases hchecked : tree.checked options with
  | error failure =>
    rw [execute_of_not_checked hoptions hmode hchecked] at hrun
    obtain ⟨rfl, -⟩ := Prod.mk.inj hrun
    cases hexit
  | ok report =>
    obtain ⟨result, hwrites, ⟨failure, -, rfl⟩ | ⟨rfl, rfl⟩⟩ :=
      execute_write hoptions hmode hchecked hrun
    · cases hexit
    cases hwrites with
    | @writes made furnished directory name hmade hensured hplace hnone =>
      have hhere := hplace.location_eq (hmade.makes.plain hplain)
      rw [hmade.makes.grows.location_eq] at hhere
      rw [hhere] at houtside hfacts
      -- what a run looks at is as it was, so it comes to the same report
      have hkeeps := hmade.keeps hplain hplace (report.render false).toUTF8
      have hsame := hkeeps.checked_eq houtside hfacts hopen hchecked
      constructor
      · intro again variableValue? mode? hagain hcompare
        -- the text that was written is what is read, so the reports are not compared at all
        have hread := readText_of_readBytes (readBytes_of_resolve
          (resolve_reading (.inl rfl) (hplace.resolve_put (report.render false).toUTF8)))
        have hcompared := run_compareStored .standard report options.report
          (furnished.put directory name (.file (report.render false).toUTF8))
        have hmatches : Verdict.ofStored .standard report options.report (report.render false) =
            .ok { passed := true, message := "Report matches " ++ options.report.text } :=
          if_pos rfl
        rw [hread] at hcompared
        have hverdict := hcompared.trans (congrArg (·, _) hmatches)
        exact execute_of_checked hagain hcompare hsame hverdict
      · -- the directory is there, and the file is put where it was put
        have hagain := run_writeReport_of_ensured
          (fun found hfound => (hensured found hfound).grows (hplace.grows_put _))
          (hplace.writeBytes_put (hmade.makes.interruption?_eq ▸ hnone))
        exact execute_of_checked hoptions hmode hsame hagain

theorem plain_empty (home : Location) : ({ home } : FileTree).Plain :=
  Contents.plain_nil

end FileTree

theorem plain_bareTree : bareTree.Plain := by
  let first : FileTree := { home := ["work"] }
  let second := first.put [] "work" (.directory [])
  let third := second.put ["work"] "facts.json" (.file "[]".toUTF8)
  have hspells : Path.Spells ⟨"/work"⟩ ["work"] := by decide
  have hwork : first.resolve .entry ⟨"/work"⟩ = .ok (.missing [] "work") := by
    rw [FileTree.resolve_of_spells .entry hspells rfl]
    rfl
  have hspells : Path.Spells ⟨"facts.json"⟩ ["facts.json"] := by decide
  have hfacts : second.resolve .writing ⟨"facts.json"⟩ = .ok (.missing ["work"] "facts.json") := by
    rw [FileTree.resolve_of_spells .writing hspells rfl]
    rfl
  have hspells : Path.Spells ⟨"samples"⟩ ["samples"] := by decide
  have hsamples : third.resolve .entry ⟨"samples"⟩ = .ok (.missing ["work"] "samples") := by
    rw [FileTree.resolve_of_spells .entry hspells rfl]
    rfl
  have hsecond : second.Plain := (FileTree.plain_empty ["work"]).put_directory hwork rfl
  have hthird : third.Plain := FileTree.Writable.plain (.inl hfacts) hsecond _
  exact hthird.put_directory hsamples rfl

theorem seen?_written_bareTree (content : ByteArray) (location : Location) :
    ((bareTree.put [] "new" (.directory [])).put ["new"] "report.txt"
        (.file content)).seen? location =
      if location = ["new", "report.txt"] then some (.file content)
      else if location = ["new"] then some (.directory []) else bareTree.seen? location := by
  let furnished := bareTree.put [] "new" (.directory [])
  have hnew : furnished.get? ["new"] = some (.directory []) := rfl
  have hroot : bareTree.get? [] = some (.directory bareTree.entries) := rfl
  have hmissing : bareTree.entries.lookup "new" = none := rfl
  have hmade : furnished.seen? location =
      if location = ["new"] then some (.directory []) else bareTree.seen? location :=
    FileTree.seen?_put hroot (by simp [hmissing]) rfl _ location
  rw [← hmade]
  exact FileTree.seen?_put hnew (by simp) rfl _ location

/-- The root is an absolute path, and the report leads above the working directory. -/
theorem execute_repeated_bareTree :
    ∃ output after, bareTree.execute
        ["--root", "/work/samples", "--report", "../new/report.txt", "--mode", "write"] none =
          (output, after) ∧
      output.exit = 0 ∧
      after.execute ["--root", "/work/samples", "--report", "../new/report.txt"] none =
        ({ exit := 0,
           stdout := "Report matches ../new/report.txt\n" ++ Output.lastLine "PASSED" .compare },
          after) ∧
      after.execute
        ["--root", "/work/samples", "--report", "../new/report.txt", "--mode", "write"] none =
          (output, after) := by
  have hagain : Options.parse? ["--root", "/work/samples", "--report", "../new/report.txt"] =
      some { root := ⟨"/work/samples"⟩, report := ⟨"../new/report.txt"⟩ } := by decide
  have hroot : bareTree.location ⟨"/work/samples"⟩ = ["work", "samples"] := by decide
  have hreport : bareTree.location ⟨"../new/report.txt"⟩ = ["new", "report.txt"] := by decide
  have hfacts : bareTree.location ⟨"facts.json"⟩ = ["work", "facts.json"] := by decide
  obtain ⟨report, hrun⟩ := execute_bareTree
  have houtside : ¬bareTree.location ⟨"/work/samples"⟩ <+:
      bareTree.location ⟨"../new/report.txt"⟩ := by
    rw [hroot, hreport]
    decide
  have hopen : ∀ names, bareTree.seen? (bareTree.location ⟨"/work/samples"⟩ ++ names) = none →
      ((bareTree.put [] "new" (.directory [])).put ["new"] "report.txt"
        (.file (report.render false).toUTF8)).seen?
          (bareTree.location ⟨"/work/samples"⟩ ++ names) = some (.directory []) →
      spellingProblem? (Path.joined ⟨"/work/samples"⟩ names).text = none := by
    intro names hnone hdirectory
    rw [hroot] at hnone hdirectory
    rw [seen?_written_bareTree, if_neg (by simp), if_neg (by simp), hnone] at hdirectory
    cases hdirectory
  obtain ⟨hcompare, hwrite⟩ := FileTree.execute_repeated plain_bareTree parse?_newReport rfl
    houtside (by simp [hfacts, hreport]) hrun rfl hopen
  exact ⟨_, _, hrun, rfl, hcompare _ none none hagain rfl, hwrite⟩

/-! ### A directory that cannot be opened

The path of a report may lead through the corpus. Where a new directory has to be made there, the
next run opens it by the path of the root and the names in it, and that path may be too long. -/

/-- `bareTree` with a directory in the root of the corpus. -/
def nestedTree : FileTree :=
  bareTree.put ["work", "samples"] "d" (.directory [])

/-- A report outside of the corpus, by a path that leads through it. -/
def nestedReport : Path :=
  ⟨"samples/d/New/../../../report.txt"⟩

/-- `nestedTree` with the directories that lead to the report. -/
def furnishedTree : FileTree :=
  nestedTree.put ["work", "samples", "d"] "New" (.directory [])

/-- `nestedTree` with a report. -/
def writtenTree (content : ByteArray) : FileTree :=
  furnishedTree.put ["work"] "report.txt" (.file content)

theorem isValue_longRoot : Options.isValue longRoot.text = true := by
  rw [longRoot, Options.isValue, toList_dotted_succ]
  rfl

theorem parse?_longRoot {name : String} {mode : Mode} (hname : Options.isValue name = true)
    (hmode : Mode.ofText? name = some mode) :
    Options.parse? ["--root", longRoot.text, "--report", nestedReport.text, "--mode", name] =
      some { root := longRoot, report := nestedReport, mode? := some mode } :=
  Options.parse?_root_report_mode isValue_longRoot (isEmpty_dotted isEntryName_samples 2042)
    (by decide) (by decide) hname hmode

theorem rootAt_longRoot {tree : FileTree} {entries : Contents} (hplain : tree.Plain)
    (hentries : tree.get? (tree.home ++ ["samples"]) = some (.directory entries)) :
    tree.RootAt longRoot (tree.home ++ ["samples"]) entries where
  plain := hplain
  resolve := resolve_longRoot hentries
  location_eq := tree.location_longRoot

theorem plain_nestedTree : nestedTree.Plain := by
  have hspells : Path.Spells ⟨"samples/d"⟩ ["samples", "d"] := by decide
  have hmissing : bareTree.resolve .entry ⟨"samples/d"⟩ =
      .ok (.missing ["work", "samples"] "d") := by
    rw [FileTree.resolve_of_spells .entry hspells rfl]
    rfl
  exact plain_bareTree.put_directory hmissing rfl

theorem discovered_nestedTree : nestedTree.discovered longRoot "java" = .ok [] := by
  have hroot : nestedTree.RootAt longRoot ["work", "samples"] [("d", .directory [])] :=
    rootAt_longRoot plain_nestedTree rfl
  have hdirectory : nestedTree.resolve .reading (longRoot.join ⟨"d"⟩) = .ok (.directory []) :=
    FileTree.resolve_join_directory hroot.resolve isEntryName_d rfl spellingProblem?_join_longRoot
  have hgroup : nestedTree.groupOf? longRoot "java" "d" = .ok none := by
    rw [FileTree.groupOf?_of_directory hdirectory, Contents.unopened?, Contents.files]
    rfl
  have hsort : Group.sort [] = [] := by simp [Group.sort, sortOn]
  rw [FileTree.discovered_of_resolve hroot.resolve]
  show Except.map _ (List.mapM _ ["d"]) = _
  rw [List.mapM_cons, hgroup, ← hsort]
  rfl

theorem resolve_new_nestedTree : nestedTree.resolve .entry ⟨"samples/d/New"⟩ =
    .ok (.missing ["work", "samples", "d"] "New") := by
  have hspells : Path.Spells ⟨"samples/d/New"⟩ ["samples", "d", "New"] := by decide
  rw [FileTree.resolve_of_spells .entry hspells rfl]
  rfl

theorem resolve_furnishedTree :
    furnishedTree.resolve .writing nestedReport = .ok (.missing ["work"] "report.txt") := by
  have hspells : nestedReport.Spells
      ["samples", "d", "New", "..", "..", "..", "report.txt"] := by decide
  rw [FileTree.resolve_of_spells .writing hspells rfl]
  rfl

theorem run_makeDirectories_nestedTree :
    (makeDirectories ⟨"samples/d/New/../../.."⟩ : StateM FileTree (Except FileProblem Unit)).run
        nestedTree = (.ok (), furnishedTree) := by
  have hancestors : Path.ancestors ⟨"samples/d/New/../../.."⟩
      (Path.components ⟨"samples/d/New/../../.."⟩).length.succ =
        [⟨"samples/d/New/../../.."⟩, ⟨"samples/d/New/../.."⟩, ⟨"samples/d/New/.."⟩,
          ⟨"samples/d/New"⟩, ⟨"samples/d"⟩, ⟨"samples"⟩, ⟨""⟩] := by decide
  have hnew : (makeChain [⟨"samples/d/New"⟩, ⟨"samples/d"⟩, ⟨"samples"⟩, ⟨""⟩] :
      StateM FileTree (Except FileProblem Unit)).run nestedTree = (.ok (), furnishedTree) := by
    apply run_makeChain_of_ne_notFound (by decide)
    · exact run_ensureDirectory_of_ok (FileTree.makeDirectory_of_missing resolve_new_nestedTree)
    · simp
  -- the paths behind it lead up again, and they can be walked now
  have hspells : Path.Spells ⟨"samples/d/New/.."⟩ ["samples", "d", "New", ".."] := by
    decide
  have hone := run_makeChain_of_found hspells rfl rfl rfl (fun aim => by cases aim <;> rfl) hnew
  have hspells : Path.Spells ⟨"samples/d/New/../.."⟩ ["samples", "d", "New", "..", ".."] := by
    decide
  have htwo := run_makeChain_of_found hspells rfl rfl rfl (fun aim => by cases aim <;> rfl) hone
  have hspells : Path.Spells ⟨"samples/d/New/../../.."⟩
      ["samples", "d", "New", "..", "..", ".."] := by decide
  rw [makeDirectories, hancestors]
  exact run_makeChain_of_found hspells rfl rfl rfl (fun aim => by cases aim <;> rfl) htwo

theorem execute_nestedTree :
    ∃ report : Report, nestedTree.execute
        ["--root", longRoot.text, "--report", nestedReport.text, "--mode", "write"] none =
      (.ofVerdict .write "" (.ofWritten nestedReport),
        writtenTree (report.render false).toUTF8) := by
  have hoptions : Options.parse?
      ["--root", longRoot.text, "--report", nestedReport.text, "--mode", "write"] =
        some { root := longRoot, report := nestedReport, mode? := some .write } :=
    parse?_longRoot (by decide) (by decide)
  have hdump : nestedTree.dump ⟨"facts.json"⟩ = .ok [] := dump_facts rfl rfl
  have hchecked : ∃ report, nestedTree.checked
      { root := longRoot, report := nestedReport, mode? := some .write } = .ok report := by
    rw [FileTree.checked, hdump, discovered_nestedTree]
    exact ⟨_, rfl⟩
  obtain ⟨report, hchecked⟩ := hchecked
  have hdirectory : directoryFor? nestedReport = some ⟨"samples/d/New/../../.."⟩ := by
    decide
  have hwrite : furnishedTree.writeBytes nestedReport (report.render false).toUTF8 =
      (.ok (), writtenTree (report.render false).toUTF8) :=
    FileTree.writeBytes_of_writable (.inl resolve_furnishedTree) _
  have hrun : (writeReport report nestedReport :
      ExceptT Failure (StateM FileTree) Verdict).run.run nestedTree = _ :=
    run_writeReport_of_made hdirectory run_makeDirectories_nestedTree
  rw [hwrite] at hrun
  exact ⟨report, FileTree.execute_of_checked hoptions rfl hchecked hrun⟩

theorem discovered_writtenTree (content : ByteArray) :
    (writtenTree content).discovered longRoot "java" =
      .error (.unlistable (longRoot.join ⟨"d"⟩)
        ⟨(longRoot.join ⟨"d"⟩).join ⟨"New"⟩, .tooLong⟩) := by
  have hfurnished : furnishedTree.Plain :=
    plain_nestedTree.put_directory resolve_new_nestedTree rfl
  have hplain : (writtenTree content).Plain :=
    FileTree.Writable.plain (.inl resolve_furnishedTree) hfurnished content
  have hroot : (writtenTree content).RootAt longRoot ["work", "samples"]
      [("d", .directory [("New", .directory [])])] :=
    rootAt_longRoot hplain rfl
  exact FileTree.discovered_longRoot hroot.resolve "java"

/-- After a report has been written, the next run may fail to list the corpus. -/
theorem execute_fails_writtenTree :
    nestedTree.Plain ∧ nestedTree.location longRoot = ["work", "samples"] ∧
      nestedTree.location nestedReport = ["work", "report.txt"] ∧
      nestedTree.location ⟨"facts.json"⟩ = ["work", "facts.json"] ∧
      ∃ output after failed,
        nestedTree.execute
            ["--root", longRoot.text, "--report", nestedReport.text, "--mode", "write"] none =
          (output, after) ∧
        output.exit = 0 ∧
        after.execute
            ["--root", longRoot.text, "--report", nestedReport.text, "--mode", "compare"] none =
          (failed, after) ∧
        failed.exit = 1 := by
  obtain ⟨report, hrun⟩ := execute_nestedTree
  have hoptions : Options.parse?
      ["--root", longRoot.text, "--report", nestedReport.text, "--mode", "compare"] =
        some { root := longRoot, report := nestedReport, mode? := some .compare } :=
    parse?_longRoot (by decide) (by decide)
  have hdump : (writtenTree (report.render false).toUTF8).dump ⟨"facts.json"⟩ = .ok [] :=
    dump_facts rfl rfl
  have hchecked : (writtenTree (report.render false).toUTF8).checked
      { root := longRoot, report := nestedReport, mode? := some .compare } =
        .error (.unlistable (longRoot.join ⟨"d"⟩)
          ⟨(longRoot.join ⟨"d"⟩).join ⟨"New"⟩, .tooLong⟩) := by
    rw [FileTree.checked, hdump, discovered_writtenTree]
    rfl
  exact ⟨plain_nestedTree, nestedTree.location_longRoot, by decide, by decide, _, _, _, hrun,
    rfl, FileTree.execute_of_not_checked hoptions rfl hchecked, rfl⟩

end FindingCheck
