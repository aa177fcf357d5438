import FindingCheck.Proofs.Files.Making
import FindingCheck.Proofs.Running

/-!
# What a run changes

Only a run that writes its report changes something, and only after it has come to its report.

## Main definitions

* `FileTree.Stores` — a tree comes from another one by storing a file

## Main statements

* `run_writeReport` — directories are made, and then the report is written
* `FileTree.execute_changes` — what each run leaves as it was
* `execute_leaves_behind` — runs that fail and leave a directory or a part of a report
-/

namespace FindingCheck

/-- The directories that may have to be made before a file can be written, the nearest first. -/
def directoriesFor (path : Path) : List Path :=
  (directoryFor? path).elim [] fun directory =>
    directory.ancestors (directory.components.length + 1)

section

variable {tree after : FileTree} {report : Report} {path : Path}

theorem isEmpty_of_directoryFor? {directory : Path} (h : directoryFor? path = some directory) :
    directory.text.isEmpty = false := by
  obtain ⟨-, hempty⟩ := Option.filter_eq_some_iff.mp h
  simpa using hempty

theorem directoriesFor_eq {directory : Path} (h : directoryFor? path = some directory) :
    ∃ above, directoriesFor path = directory :: above := by
  rw [directoriesFor, h]
  exact ⟨_, rfl⟩

/-- What comes of writing a report whose directory is there. -/
def Verdict.ofWriting (path : Path) (result : Except FileProblem Unit) : Except Failure Verdict :=
  (Except.mapError (.unwritableReport path) result).map fun _ => .ofWritten path

theorem run_writeText_report (tree : FileTree) (report : Report) (path : Path) :
    ((do
        accessing (.unwritableReport path) (MonadFiles.writeText path (report.render false))
        return .ofWritten path : ExceptT Failure (StateM FileTree) Verdict)).run.run tree =
      (Verdict.ofWriting path (tree.writeBytes path (report.render false).toUTF8).1,
        (tree.writeBytes path (report.render false).toUTF8).2) := by
  have hwrite := FileTree.run_writeText tree path (report.render false)
  rw [ExceptT.run_bind, StateT.run_bind]
  show StateT.run (Except.mapError _ <$> MonadFiles.writeText path _) tree >>= _ = _
  rw [StateT.run_map, hwrite]
  obtain ⟨result, after⟩ := tree.writeBytes path (report.render false).toUTF8
  cases result <;> rfl

theorem run_writeReport_of_none (h : directoryFor? path = none) :
    (writeReport report path : ExceptT Failure (StateM FileTree) Verdict).run.run tree =
      (Verdict.ofWriting path (tree.writeBytes path (report.render false).toUTF8).1,
        (tree.writeBytes path (report.render false).toUTF8).2) := by
  rw [writeReport, h]
  exact run_writeText_report tree report path

theorem run_writeReport_of_made {directory : Path} {furnished : FileTree}
    (h : directoryFor? path = some directory)
    (hmade : (makeDirectories directory : StateM FileTree (Except FileProblem Unit)).run tree =
      (.ok (), furnished)) :
    (writeReport report path : ExceptT Failure (StateM FileTree) Verdict).run.run tree =
      (Verdict.ofWriting path (furnished.writeBytes path (report.render false).toUTF8).1,
        (furnished.writeBytes path (report.render false).toUTF8).2) := by
  rw [writeReport, h]
  show StateT.run (ExceptT.run (accessing _ (makeDirectories directory) >>= _)) tree = _
  rw [ExceptT.run_bind, StateT.run_bind]
  show StateT.run (Except.mapError _ <$> makeDirectories directory) tree >>= _ = _
  rw [StateT.run_map, hmade]
  exact run_writeText_report furnished report path

theorem run_writeReport_of_not_made {directory : Path} {furnished : FileTree}
    {problem : FileProblem} (h : directoryFor? path = some directory)
    (hmade : (makeDirectories directory : StateM FileTree (Except FileProblem Unit)).run tree =
      (.error problem, furnished)) :
    (writeReport report path : ExceptT Failure (StateM FileTree) Verdict).run.run tree =
      (.error (.noReportDirectory directory problem), furnished) := by
  rw [writeReport, h]
  show StateT.run (ExceptT.run (accessing _ (makeDirectories directory) >>= _)) tree = _
  rw [ExceptT.run_bind, StateT.run_bind]
  show StateT.run (Except.mapError _ <$> makeDirectories directory) tree >>= _ = _
  rw [StateT.run_map, hmade]
  rfl

end

/-! ### Storing a report -/

namespace FileTree

/-- Directories above a path have been made where nothing was, and nothing else has changed. -/
structure Furnishes (tree : FileTree) (path : Path) (made : List Location) (after : FileTree) :
    Prop where
  makes : tree.Makes (directoriesFor path) made after
  missing : ∀ location ∈ made, tree.seen? location = none
  seen? : ∀ location, after.seen? location =
    if location ∈ made then some (.directory []) else tree.seen? location

/-- Directories above a path have been made, and a file has been written where the path led then.
Nothing else has changed. -/
structure Stores (tree : FileTree) (path : Path) (content : ByteArray) (made : List Location)
    (directory : Location) (name : String) (after : FileTree) : Prop where
  furnishes : ∃ furnished, tree.Furnishes path made furnished ∧
    furnished.Writable path directory name
  resolve : after.resolve .reading path = .ok (.file directory name content)
  seen? : ∀ location, after.seen? location =
    if location = directory ++ [name] then some (.file content)
    else if location ∈ made then some (.directory []) else tree.seen? location

variable {tree furnished after : FileTree} {path : Path} {made : List Location}
  {content : ByteArray}

theorem Makes.furnishes (h : tree.Makes (directoriesFor path) made after) :
    tree.Furnishes path made after :=
  ⟨h, fun _ => h.seen?_eq_none, h.seen?_eq⟩

theorem Furnishes.stores (h : tree.Furnishes path made furnished) {directory : Location}
    {name : String} (hplace : furnished.Writable path directory name) (content : ByteArray) :
    tree.Stores path content made directory name
      (furnished.put directory name (.file content)) where
  furnishes := ⟨furnished, h, hplace⟩
  resolve := resolve_reading (.inl rfl) (hplace.resolve_put content)
  seen? location := by rw [hplace.seen?_put, h.seen?]

end FileTree

/-- How the storing of a report ends. -/
inductive WritesReport (tree : FileTree) (report : Report) (path : Path) :
    Except Failure Verdict → FileTree → Prop
  /-- Directories may have been made, and then something failed before the report was open. -/
  | fails {failure : Failure} {made : List Location} {after : FileTree}
      (h : tree.Furnishes path made after) : WritesReport tree report path (.error failure) after
  /-- The report has been opened, and writing it has broken off. -/
  | breaksOff {failure : Failure} {made : List Location} {furnished : FileTree}
      {directory : Location} {name : String} {interruption : Interruption}
      (h : tree.Furnishes path made furnished)
      (hplace : furnished.Writable path directory name)
      (hinterruption : tree.interruption? (report.render false).toUTF8 = some interruption) :
      WritesReport tree report path (.error failure) (furnished.put directory name
        (.file ((report.render false).toUTF8.extract 0 interruption.written)))
  /-- The directory of the report is ensured, and the report has been written. -/
  | writes {made : List Location} {furnished : FileTree} {directory : Location} {name : String}
      (h : tree.Furnishes path made furnished)
      (hensured : ∀ directory, directoryFor? path = some directory → furnished.Ensured directory)
      (hplace : furnished.Writable path directory name)
      (hnone : tree.interruption? (report.render false).toUTF8 = none) :
      WritesReport tree report path (.ok (.ofWritten path))
        (furnished.put directory name (.file (report.render false).toUTF8))

section

variable {tree furnished after : FileTree} {report : Report} {path : Path} {made : List Location}
  {result : Except Failure Verdict}

theorem WritesReport.of_furnishes (hmade : tree.Furnishes path made furnished)
    (hensured : ∀ directory, directoryFor? path = some directory → furnished.Ensured directory) :
    WritesReport tree report path
      (Verdict.ofWriting path (furnished.writeBytes path (report.render false).toUTF8).1)
      (furnished.writeBytes path (report.render false).toUTF8).2 := by
  have hsame := hmade.makes.interruption?_eq
  have hwrites := furnished.writes_writeBytes path (report.render false).toUTF8
  generalize (furnished.writeBytes path (report.render false).toUTF8).1 = result at hwrites ⊢
  generalize (furnished.writeBytes path (report.render false).toUTF8).2 = after at hwrites ⊢
  cases hwrites with
  | unopened problem => exact .fails hmade
  | brokenOff hplace hinterruption =>
    rw [hsame] at hinterruption
    exact .breaksOff hmade hplace hinterruption
  | complete hplace hnone =>
    rw [hsame] at hnone
    exact .writes hmade hensured hplace hnone

/-- Directories are made, and then the report is written. -/
theorem run_writeReport
    (h : (writeReport report path : ExceptT Failure (StateM FileTree) Verdict).run.run tree =
      (result, after)) : WritesReport tree report path result after := by
  cases hdirectory : directoryFor? path with
  | none =>
    rw [run_writeReport_of_none hdirectory] at h
    obtain ⟨rfl, rfl⟩ := Prod.mk.inj h
    exact .of_furnishes (FileTree.Makes.furnishes (.done tree)) (by simp [hdirectory])
  | some directory =>
    obtain ⟨above, habove⟩ := directoriesFor_eq hdirectory
    rcases hrun :
      (makeDirectories directory : StateM FileTree (Except FileProblem Unit)).run tree with
      ⟨found, furnished⟩
    obtain ⟨⟨made, hmakes⟩, hensured⟩ := run_makeChain hrun
    have hchain : directory.ancestors (directory.components.length + 1) = directoriesFor path := by
      rw [directoriesFor, hdirectory]
      rfl
    rw [hchain] at hmakes hensured
    cases found with
    | error problem =>
      rw [run_writeReport_of_not_made hdirectory hrun] at h
      obtain ⟨rfl, rfl⟩ := Prod.mk.inj h
      exact .fails hmakes.furnishes
    | ok _ =>
      rw [run_writeReport_of_made hdirectory hrun] at h
      obtain ⟨rfl, rfl⟩ := Prod.mk.inj h
      have hhere : furnished.Ensured directory := by
        apply hensured rfl directory
        · rw [habove]
          rfl
        · exact isEmpty_of_directoryFor? hdirectory
      exact .of_furnishes hmakes.furnishes (by simpa [hdirectory] using hhere)

end

/-! ### What a run changes -/

namespace FileTree

variable {tree after : FileTree} {arguments : List String} {modeName? : Option String}
  {options : Options} {mode : Mode} {output : Output}

/-- A run that does not write leaves the tree as it is. -/
theorem execute_of_ne_write (h : Options.parse? arguments = some options)
    (hmode : Program.mode options modeName? = .ok mode) (hne : mode ≠ .write) :
    (tree.execute arguments modeName?).2 = tree := by
  cases hchecked : tree.checked options with
  | error failure => rw [execute_of_not_checked h hmode hchecked]
  | ok report =>
    cases mode with
    | write => exact absurd rfl hne
    | details =>
      rw [execute_of_checked h hmode hchecked rfl]
    | compare =>
      have hrun := run_compareStored .standard report options.report tree
      rcases hresult : (Except.mapError (.unreadableReport options.report)
        (tree.readText options.report)).bind
          (Verdict.ofStored .standard report options.report) with failure | verdict
      · rw [hresult] at hrun
        rw [execute_of_not_applied h hmode hchecked hrun]
      · rw [hresult] at hrun
        rw [execute_of_checked h hmode hchecked hrun]

/-- A run that writes and has a report stores it or fails. -/
theorem execute_write (h : Options.parse? arguments = some options)
    (hmode : Program.mode options modeName? = .ok .write) {report : Report}
    (hchecked : tree.checked options = .ok report)
    (hrun : tree.execute arguments modeName? = (output, after)) :
    ∃ result, WritesReport tree report options.report result after ∧
      ((∃ failure, result = .error failure ∧ output = .ofFailure failure) ∨
        (result = .ok (.ofWritten options.report) ∧
          output = .ofVerdict .write "" (.ofWritten options.report))) := by
  rcases hwrite : (writeReport report options.report :
    ExceptT Failure (StateM FileTree) Verdict).run.run tree with ⟨result, next⟩
  have hstored := run_writeReport hwrite
  cases result with
  | error failure =>
    rw [execute_of_not_applied h hmode hchecked hwrite] at hrun
    obtain ⟨rfl, rfl⟩ := Prod.mk.inj hrun
    exact ⟨_, hstored, .inl ⟨failure, rfl, rfl⟩⟩
  | ok verdict =>
    have hverdict : verdict = .ofWritten options.report := by
      cases hstored
      rfl
    subst hverdict
    rw [execute_of_checked h hmode hchecked hwrite] at hrun
    obtain ⟨rfl, rfl⟩ := Prod.mk.inj hrun
    exact ⟨_, hstored, .inr ⟨rfl, rfl⟩⟩

/-- What each run leaves as it was. A run that does not write leaves the tree as it is, and so does
one that comes to no report. A run that fails later has made directories above the report, if
anything; it has touched the file only if writing broke off after the file was open, and then the
file holds a part of the report. A run that succeeds in writing has stored the complete report. In
no case has anything else changed. -/
theorem execute_changes (h : tree.execute arguments modeName? = (output, after)) :
    (Options.parse? arguments = none → after = tree) ∧
      ∀ options, Options.parse? arguments = some options →
        (∀ failure, Program.mode options modeName? = .error failure →
          output.exit = 1 ∧ after = tree) ∧
        (∀ mode, Program.mode options modeName? = .ok mode → mode ≠ .write → after = tree) ∧
        (Program.mode options modeName? = .ok .write →
          (∀ failure, tree.checked options = .error failure → output.exit = 1 ∧ after = tree) ∧
          (output.exit ≠ 0 → (∃ made, tree.Furnishes options.report made after) ∨
            ∃ report interruption made directory name, tree.checked options = .ok report ∧
              tree.interruption? (report.render false).toUTF8 = some interruption ∧
              tree.Stores options.report
                ((report.render false).toUTF8.extract 0 interruption.written) made directory name
                after) ∧
          (output.exit = 0 → ∃ report made directory name, tree.checked options = .ok report ∧
            tree.Stores options.report (report.render false).toUTF8 made directory name
              after)) := by
  refine ⟨fun husage => ?_, fun options hoptions => ⟨?_, ?_, fun hmode => ⟨?_, ?_, ?_⟩⟩⟩
  · rw [execute_of_usage husage] at h
    exact (Prod.mk.inj h).2.symm
  · intro failure hmode
    rw [execute_of_mode_error hoptions hmode] at h
    obtain ⟨rfl, rfl⟩ := Prod.mk.inj h
    exact ⟨rfl, rfl⟩
  · intro mode hmode hne
    have hsame : (tree.execute arguments modeName?).2 = tree :=
      execute_of_ne_write hoptions hmode hne
    rw [h] at hsame
    exact hsame
  · intro failure hchecked
    rw [execute_of_not_checked hoptions hmode hchecked] at h
    obtain ⟨rfl, rfl⟩ := Prod.mk.inj h
    exact ⟨rfl, rfl⟩
  · intro hexit
    cases hchecked : tree.checked options with
    | error failure =>
      rw [execute_of_not_checked hoptions hmode hchecked] at h
      obtain ⟨-, rfl⟩ := Prod.mk.inj h
      exact .inl ⟨[], Makes.furnishes (.done _)⟩
    | ok report =>
      obtain ⟨result, hwrites, ⟨failure, rfl, -⟩ | ⟨-, rfl⟩⟩ :=
        execute_write hoptions hmode hchecked h
      · cases hwrites with
        | fails hmade => exact .inl ⟨_, hmade⟩
        | breaksOff hmade hplace hinterruption =>
          exact .inr ⟨report, _, _, _, _, rfl, hinterruption, hmade.stores hplace _⟩
      · exact absurd rfl hexit
  · intro hexit
    cases hchecked : tree.checked options with
    | error failure =>
      rw [execute_of_not_checked hoptions hmode hchecked] at h
      obtain ⟨rfl, -⟩ := Prod.mk.inj h
      cases hexit
    | ok report =>
      obtain ⟨result, hwrites, ⟨failure, -, rfl⟩ | ⟨rfl, -⟩⟩ :=
        execute_write hoptions hmode hchecked h
      · cases hexit
      · cases hwrites with
        | writes hmade _ hplace => exact ⟨report, _, _, _, rfl, hmade.stores hplace _⟩

end FileTree

/-- A tree with a dump that records nothing and a corpus without sources, both in the working
directory. -/
def bareTree : FileTree :=
  ((({ home := ["work"] } : FileTree).put [] "work" (.directory [])).put ["work"] "facts.json"
    (.file "[]".toUTF8)).put ["work"] "samples" (.directory [])

/-- The dump of such a tree records nothing. -/
theorem dump_facts {tree : FileTree} {inner : Contents}
    (hhome : tree.get? tree.home = some (.directory inner))
    (hfacts : inner.lookup "facts.json" = some (.file "[]".toUTF8)) :
    tree.dump ⟨"facts.json"⟩ = .ok [] := by
  obtain ⟨here, hstart, rfl⟩ : ∃ here, tree.start? ⟨"facts.json"⟩ = some here ∧
      here.entries = inner :=
    FileTree.exists_start? hhome
  have hspells : Path.Spells ⟨"facts.json"⟩ ["facts.json"] := by decide
  have hname : IsEntryName "facts.json" := by decide
  have hresolve : tree.resolve .reading ⟨"facts.json"⟩ =
      .ok (.file here.location "facts.json" "[]".toUTF8) := by
    rw [FileTree.resolve_of_spells .reading hspells hstart, walk_eq_ok_iff]
    exact .file hname.takes hfacts rfl
  rw [FileTree.dump, FileTree.readText_of_readBytes (FileTree.readBytes_of_resolve hresolve)]
  rfl

/-- There is nothing to check where the dump records nothing and the corpus is empty. -/
theorem exists_checked_of_dump {tree : FileTree} (options : Options)
    (hdump : tree.dump options.facts = .ok [])
    (hroot : tree.resolve .reading options.root = .ok (.directory [])) :
    ∃ report, tree.checked options = .ok report := by
  have hgroups : tree.discovered options.root options.extension = .ok [] := by
    have hdirectory : tree.isDirectory options.root = true :=
      FileTree.isDirectory_iff.mpr ⟨_, hroot, True.intro⟩
    have hsort : Group.sort [] = [] := by simp [Group.sort, sortOn]
    rw [FileTree.discovered, hdirectory, FileTree.names, FileTree.contentsAt, hroot, ← hsort]
    rfl
  rw [FileTree.checked, hdump, hgroups]
  exact ⟨_, rfl⟩

theorem parse?_newReport :
    Options.parse? ["--root", "/work/samples", "--report", "../new/report.txt", "--mode", "write"] =
      some { root := ⟨"/work/samples"⟩, report := ⟨"../new/report.txt"⟩, mode? := some .write } :=
  Options.parse?_root_report_mode (by decide) (by decide) (by decide) (by decide) (by decide)
    (by decide)

theorem execute_bareTree :
    ∃ report : Report, bareTree.execute
        ["--root", "/work/samples", "--report", "../new/report.txt", "--mode", "write"] none =
      (.ofVerdict .write "" (.ofWritten ⟨"../new/report.txt"⟩),
        (bareTree.put [] "new" (.directory [])).put ["new"] "report.txt"
          (.file (report.render false).toUTF8)) := by
  let furnished := bareTree.put [] "new" (.directory [])
  have hsamples : Path.Spells ⟨"/work/samples"⟩ ["work", "samples"] := by decide
  have hroot : bareTree.resolve .reading ⟨"/work/samples"⟩ = .ok (.directory []) := by
    rw [FileTree.resolve_of_spells .reading hsamples rfl]
    rfl
  let options : Options :=
    { root := ⟨"/work/samples"⟩, report := ⟨"../new/report.txt"⟩, mode? := some .write }
  obtain ⟨report, hchecked⟩ := exists_checked_of_dump options (dump_facts rfl rfl) hroot
  -- the directory is made, and a name in it is missing
  have hnew : Path.Spells ⟨"../new"⟩ ["..", "new"] := by decide
  have hmissing : bareTree.resolve .entry ⟨"../new"⟩ = .ok (.missing [] "new") := by
    rw [FileTree.resolve_of_spells .entry hnew rfl]
    rfl
  have hreport : Path.Spells ⟨"../new/report.txt"⟩ ["..", "new", "report.txt"] := by decide
  have hplace : furnished.Writable ⟨"../new/report.txt"⟩ ["new"] "report.txt" := by
    left
    rw [FileTree.resolve_of_spells .writing hreport rfl]
    rfl
  have hmade : (makeDirectories ⟨"../new"⟩ : StateM FileTree (Except FileProblem Unit)).run
      bareTree = (.ok (), furnished) := by
    apply run_makeChain_of_ne_notFound (by decide)
    · exact run_ensureDirectory_of_ok (FileTree.makeDirectory_of_missing hmissing)
    · simp
  have hdirectory : directoryFor? ⟨"../new/report.txt"⟩ = some ⟨"../new"⟩ := by decide
  have hrun : (writeReport report ⟨"../new/report.txt"⟩ :
      ExceptT Failure (StateM FileTree) Verdict).run.run bareTree = _ :=
    run_writeReport_of_made hdirectory hmade
  rw [FileTree.writeBytes_of_writable hplace] at hrun
  exact ⟨report, FileTree.execute_of_checked parse?_newReport rfl hchecked hrun⟩

theorem execute_changes_newDirectory :
    ∃ output after report made directory name, bareTree.execute
        ["--root", "/work/samples", "--report", "../new/report.txt", "--mode", "write"] none =
          (output, after) ∧
      output.exit = 0 ∧
      bareTree.checked
        { root := ⟨"/work/samples"⟩, report := ⟨"../new/report.txt"⟩, mode? := some .write } =
          .ok report ∧
      bareTree.Stores ⟨"../new/report.txt"⟩ (report.render false).toUTF8 made directory name
        after := by
  obtain ⟨_, hrun⟩ := execute_bareTree
  obtain ⟨-, -, hwrites⟩ := (FileTree.execute_changes hrun).2 _ parse?_newReport
  obtain ⟨report, made, directory, name, hchecked, hstores⟩ := (hwrites rfl).2.2 rfl
  exact ⟨_, _, report, made, directory, name, hrun, rfl, hchecked, hstores⟩

/-! ### Runs that fail and leave something behind -/

theorem run_makeDirectories_bareTree :
    (makeDirectories ⟨"new/../facts.json"⟩ : StateM FileTree (Except FileProblem Unit)).run
        bareTree =
      (.error .alreadyExists, bareTree.put ["work"] "new" (.directory [])) := by
  let furnished := bareTree.put ["work"] "new" (.directory [])
  have hspells : Path.Spells ⟨"new/../facts.json"⟩ ["new", "..", "facts.json"] := by decide
  have hspellsUp : Path.Spells ⟨"new/.."⟩ ["new", ".."] := by decide
  have hspellsNew : Path.Spells ⟨"new"⟩ ["new"] := by decide
  -- nothing can be made before `new` is there
  have hfails : bareTree.resolve .entry ⟨"new/../facts.json"⟩ = .error .notFound := by
    rw [FileTree.resolve_of_spells .entry hspells rfl]
    rfl
  have hmissing : bareTree.resolve .entry ⟨"new"⟩ = .ok (.missing ["work"] "new") := by
    rw [FileTree.resolve_of_spells .entry hspellsNew rfl]
    rfl
  -- then `new/..` is there as well, but what is to be made is a file
  have htaken : ∀ aim, furnished.resolve aim ⟨"new/../facts.json"⟩ =
      .ok (.file ["work"] "facts.json" "[]".toUTF8) := by
    intro aim
    rw [FileTree.resolve_of_spells aim hspells rfl]
    cases aim <;> rfl
  have hfile : furnished.isDirectory ⟨"new/../facts.json"⟩ = false := by
    rw [FileTree.isDirectory, FileTree.contentsAt, htaken]
    rfl
  have hancestors : Path.ancestors ⟨"new/../facts.json"⟩
      (Path.components ⟨"new/../facts.json"⟩).length.succ =
        [⟨"new/../facts.json"⟩, ⟨"new/.."⟩, ⟨"new"⟩, ⟨""⟩] := by decide
  have hnew : (makeChain [⟨"new"⟩, ⟨""⟩] : StateM FileTree (Except FileProblem Unit)).run bareTree =
      (.ok (), furnished) := by
    apply run_makeChain_of_ne_notFound (by decide)
    · exact run_ensureDirectory_of_ok (FileTree.makeDirectory_of_missing hmissing)
    · simp
  have hup : (makeChain [⟨"new/.."⟩, ⟨"new"⟩, ⟨""⟩] :
      StateM FileTree (Except FileProblem Unit)).run bareTree = (.ok (), furnished) :=
    run_makeChain_of_found hspellsUp rfl rfl rfl (fun aim => by cases aim <;> rfl) hnew
  rw [makeDirectories, hancestors]
  rw [run_makeChain_of_made (by decide) (run_ensureDirectory_of_error
    (FileTree.makeDirectory_of_error hfails) (by simp)) hup,
    run_ensureDirectory_of_taken (FileTree.makeDirectory_of_taken (htaken .entry) (by simp)), hfile]
  rfl

theorem execute_bareTree_not_made :
    bareTree.execute ["--report", "new/../facts.json/report.txt", "--mode", "write"] none =
      (.ofFailure (.noReportDirectory ⟨"new/../facts.json"⟩ .alreadyExists),
        bareTree.put ["work"] "new" (.directory [])) := by
  have hsamples : Path.Spells ⟨"samples"⟩ ["samples"] := by decide
  have hroot : bareTree.resolve .reading ⟨"samples"⟩ = .ok (.directory []) := by
    rw [FileTree.resolve_of_spells .reading hsamples rfl]
    rfl
  let options : Options := { report := ⟨"new/../facts.json/report.txt"⟩, mode? := some .write }
  obtain ⟨report, hchecked⟩ := exists_checked_of_dump options (dump_facts rfl rfl) hroot
  have hoptions : Options.parse?
      ["--report", "new/../facts.json/report.txt", "--mode", "write"] = some options :=
    Options.parse?_report_mode (by decide) (by decide) (by decide) (by decide)
  have hdirectory : directoryFor? ⟨"new/../facts.json/report.txt"⟩ =
      some ⟨"new/../facts.json"⟩ := by decide
  exact FileTree.execute_of_not_applied hoptions rfl hchecked
    (run_writeReport_of_not_made hdirectory run_makeDirectories_bareTree)

/-- `bareTree` with a stored report, on a disk that is full. -/
def fullTree : FileTree :=
  { bareTree.put ["work"] "report.txt" (.file "# 0 pass".toUTF8) with
    interruption? := fun _ => some ⟨0, .other "No space left on device (os error 28)"⟩ }

theorem writable_fullTree : fullTree.Writable ⟨"report.txt"⟩ ["work"] "report.txt" := by
  right
  refine ⟨"# 0 pass".toUTF8, ?_⟩
  have hspells : Path.Spells ⟨"report.txt"⟩ ["report.txt"] := by decide
  rw [FileTree.resolve_of_spells .writing hspells rfl]
  rfl

theorem execute_fullTree :
    fullTree.execute ["--report", "report.txt", "--mode", "write"] none =
      (.ofFailure (.unwritableReport ⟨"report.txt"⟩
        (.other "No space left on device (os error 28)")),
        fullTree.put ["work"] "report.txt" (.file .empty)) := by
  have hsamples : Path.Spells ⟨"samples"⟩ ["samples"] := by decide
  have hroot : fullTree.resolve .reading ⟨"samples"⟩ = .ok (.directory []) := by
    rw [FileTree.resolve_of_spells .reading hsamples rfl]
    rfl
  let options : Options := { report := ⟨"report.txt"⟩, mode? := some .write }
  obtain ⟨report, hchecked⟩ := exists_checked_of_dump options (dump_facts rfl rfl) hroot
  have hoptions : Options.parse? ["--report", "report.txt", "--mode", "write"] = some options :=
    Options.parse?_report_mode (by decide) (by decide) (by decide) (by decide)
  have hdirectory : directoryFor? ⟨"report.txt"⟩ = none := by decide
  -- nothing is written, whatever the report is
  have hwritten : fullTree.written (report.render false).toUTF8 =
      (.error (.other "No space left on device (os error 28)"), .empty) := by
    have hempty : (report.render false).toUTF8.extract 0 0 = .empty := by simp
    exact congrArg (Prod.mk _) hempty
  have hrun : (writeReport report ⟨"report.txt"⟩ :
      ExceptT Failure (StateM FileTree) Verdict).run.run fullTree = _ :=
    run_writeReport_of_none hdirectory
  rw [FileTree.writeBytes_of_writable writable_fullTree, hwritten] at hrun
  exact FileTree.execute_of_not_applied hoptions rfl hchecked hrun

/-- A run that fails may leave a directory behind. Where writing breaks off, it leaves a report that
is not complete, and the one that was stored is lost. -/
theorem execute_leaves_behind :
    (∃ failed after,
      bareTree.execute ["--report", "new/../facts.json/report.txt", "--mode", "write"] none =
        (failed, after) ∧
      failed.exit = 1 ∧ bareTree.seen? ["work", "new"] = none ∧
      after.seen? ["work", "new"] = some (.directory [])) ∧
    ∃ failed after,
      fullTree.execute ["--report", "report.txt", "--mode", "write"] none = (failed, after) ∧
      failed.exit = 1 ∧
      fullTree.seen? ["work", "report.txt"] = some (.file "# 0 pass".toUTF8) ∧
      after.seen? ["work", "report.txt"] = some (.file .empty) :=
  ⟨⟨_, _, execute_bareTree_not_made, rfl, rfl, rfl⟩, _, _, execute_fullTree, rfl, rfl, rfl⟩

end FindingCheck
