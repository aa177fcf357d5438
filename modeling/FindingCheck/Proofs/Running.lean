import FindingCheck.Program
import FindingCheck.Proofs.Checking.Recorded
import FindingCheck.Proofs.StoredReport
import Mathlib.Data.Option.Basic

/-!
# Runs on a tree of files

Up to its report a run only looks at the tree, so what it finds there is a function of the tree.
What the mode does with the report is the one part of a run that can change something.

## Main definitions

* `OnlyLooks` — a part of a run looks at the tree and leaves it as it is
* `FileTree.dump`, `FileTree.discovered`, `FileTree.checked` — what a run finds in a tree
* `FileTree.execute` — a run on a tree, with the tree that it leaves behind

## Main statements

* `onlyLooks_check` — a run leaves the tree as it is up to its report
* `FileTree.execute_of_checked` — a run that has a report does with it what the mode says
-/

namespace FindingCheck

variable {α β : Type}

/-- A part of a run leaves the tree as it is, and what it finds there is a function of the tree.
-/
def OnlyLooks (part : ExceptT Failure (StateM FileTree) α) (found : FileTree → Except Failure α) :
    Prop :=
  ∀ tree, part.run.run tree = (found tree, tree)

namespace OnlyLooks

variable {part : ExceptT Failure (StateM FileTree) α} {found : FileTree → Except Failure α}

theorem mk_pure (value : Except Failure α) :
    OnlyLooks (ExceptT.mk (pure value)) fun _ => value :=
  fun _ => rfl

theorem pure (value : α) :
    OnlyLooks (Pure.pure value : ExceptT Failure (StateM FileTree) α) fun _ => .ok value :=
  fun _ => rfl

theorem bind (h : OnlyLooks part found) {next : α → ExceptT Failure (StateM FileTree) β}
    {foundNext : α → FileTree → Except Failure β}
    (hnext : ∀ value, OnlyLooks (next value) (foundNext value)) :
    OnlyLooks (part >>= next) fun tree => (found tree).bind (foundNext · tree) := by
  intro tree
  rw [ExceptT.run_bind, StateT.run_bind, h tree]
  beta_reduce
  cases found tree with
  | error failure => rfl
  | ok value => exact hnext value tree

theorem lift {access : StateM FileTree α} {look : FileTree → α}
    (h : ∀ tree, access.run tree = (look tree, tree)) :
    OnlyLooks (liftM access : ExceptT Failure (StateM FileTree) α) fun tree => .ok (look tree) := by
  intro tree
  show (Except.ok <$> access).run tree = _
  rw [StateT.run_map, h tree]
  rfl

theorem ite {other : ExceptT Failure (StateM FileTree) α}
    {foundOther : FileTree → Except Failure α} (h : OnlyLooks part found)
    (hother : OnlyLooks other foundOther) (condition : Bool) :
    OnlyLooks (if condition then part else other) fun tree =>
      if condition then found tree else foundOther tree := by
  cases condition with
  | true => exact h
  | false => exact hother

theorem accessing {ε : Type} (failure : ε → Failure) {access : StateM FileTree (Except ε α)}
    {look : FileTree → Except ε α} (h : ∀ tree, access.run tree = (look tree, tree)) :
    OnlyLooks (accessing failure access) fun tree => Except.mapError failure (look tree) := by
  intro tree
  show (Except.mapError failure <$> access).run tree = _
  rw [StateT.run_map, h tree]
  rfl

theorem mapM {f : α → ExceptT Failure (StateM FileTree) β}
    {foundAt : FileTree → α → Except Failure β}
    (h : ∀ x, OnlyLooks (f x) (foundAt · x)) (xs : List α) :
    OnlyLooks (xs.mapM f) fun tree => xs.mapM (foundAt tree) := by
  induction xs with
  | nil => exact pure []
  | cons x xs ih =>
    rw [List.mapM_cons]
    simp only [List.mapM_cons]
    exact (h x).bind fun y => ih.bind fun ys => pure (y :: ys)

end OnlyLooks

namespace OnlyLooks

variable {part : ExceptT Failure (StateM FileTree) α} {found : FileTree → Except Failure α}
  {next : α → ExceptT Failure (StateM FileTree) β} {tree : FileTree}

theorem run_bind_of_ok (h : OnlyLooks part found) {value : α} (hfound : found tree = .ok value) :
    (part >>= next).run.run tree = (next value).run.run tree := by
  rw [ExceptT.run_bind, StateT.run_bind, h tree, hfound]
  rfl

theorem run_bind_of_error (h : OnlyLooks part found) {failure : Failure}
    (hfound : found tree = .error failure) :
    (part >>= next).run.run tree = (.error failure, tree) := by
  rw [ExceptT.run_bind, StateT.run_bind, h tree, hfound]
  rfl

end OnlyLooks

/-! ### What a run finds in a tree -/

namespace FileTree

/-- The diagnostics of a dump in a tree. -/
def dump (tree : FileTree) (path : Path) : Except Failure (List Diagnostic) := do
  let text ← Except.mapError (.unreadable path) (tree.readText path)
  Except.mapError (.badDump path) (Diagnostic.parseDump text)

/-- The group that a name in a root stands for, in a tree. -/
def groupOf? (tree : FileTree) (root : Path) (extension name : String) :
    Except Failure (Option Group) :=
  let path := root.join ⟨name⟩
  if tree.isDirectory path then
    (Except.mapError (.unlistable path) (tree.filesBelow path)).map
      (Group.ofDirectory? extension name)
  else .ok (Group.ofName? extension name)

/-- The groups beneath a root in a tree. -/
def discovered (tree : FileTree) (root : Path) (extension : String) :
    Except Failure (List Group) :=
  if tree.isDirectory root then do
    let names ← Except.mapError (.unreadable root) (tree.names root)
    let groups ← names.mapM (tree.groupOf? root extension)
    return Group.sort (groups.filterMap id)
  else .error (.noRoot root)

/-- The report on the corpus in a tree. -/
def checked (tree : FileTree) (options : Options) : Except Failure Report := do
  let diagnostics ← tree.dump options.facts
  let groups ← tree.discovered options.root options.extension
  checkCorpus .standard (.replay diagnostics) options.root
    (groups.map fun group => group.files.map (tree.source options.root))

end FileTree

theorem onlyLooks_loadDump (path : Path) :
    OnlyLooks (Program.loadDump path) (FileTree.dump · path) :=
  (OnlyLooks.accessing _ fun _ => rfl).bind fun _ => .mk_pure _

theorem onlyLooks_groupOf? (root : Path) (extension name : String) :
    OnlyLooks (Corpus.groupOf? root extension name) (FileTree.groupOf? · root extension name) := by
  let path := root.join ⟨name⟩
  have hbelow : OnlyLooks (accessing (.unlistable path) (MonadFiles.filesBelow path)) _ :=
    .accessing _ fun _ => rfl
  have hdirectory : OnlyLooks (liftM (MonadFiles.isDirectory path : StateM FileTree Bool)) _ :=
    .lift fun _ => rfl
  have hlisted := hbelow.bind fun below => .pure (Group.ofDirectory? extension name below)
  exact hdirectory.bind fun directory =>
    hlisted.ite (.pure (Group.ofName? extension name)) directory

theorem onlyLooks_discover (root : Path) (extension : String) :
    OnlyLooks (Corpus.discover root extension) (FileTree.discovered · root extension) := by
  have hdirectory : OnlyLooks (liftM (MonadFiles.isDirectory root : StateM FileTree Bool)) _ :=
    .lift fun _ => rfl
  have hnames : OnlyLooks (accessing (.unreadable root) (MonadFiles.names root)) _ :=
    .accessing _ fun _ => rfl
  have hgroups := hnames.bind fun names =>
    (OnlyLooks.mapM (onlyLooks_groupOf? root extension) names).bind fun groups =>
      .pure (Group.sort (groups.filterMap id))
  exact hdirectory.bind fun directory => hgroups.ite (.mk_pure (.error (.noRoot root))) directory

theorem onlyLooks_check (options : Options) :
    OnlyLooks (Program.check options) (FileTree.checked · options) :=
  (onlyLooks_loadDump options.facts).bind fun diagnostics =>
    (onlyLooks_discover options.root options.extension).bind fun groups =>
      run_checkGroups .standard (.replay diagnostics) options.root groups

/-! ### Options -/

namespace Options

variable {given : Given} {argument name value root report modeName : String} {rest : List String}
  {mode : Mode}

theorem take?_cons_cons (hends : argument ≠ "--") (hsplit : split? argument = some (name, none))
    (hvalue : isValue value = true) :
    take? given (argument :: value :: rest) = (set? given name value).bind (take? · rest) := by
  rw [take?.eq_def]
  simp only [if_neg hends, hsplit, if_pos hvalue]

theorem take?_report_mode (hreport : isValue report = true) (hempty : report.isEmpty = false)
    (hvalue : isValue modeName = true) (hmode : Mode.ofText? modeName = some mode)
    (hnewReport : "report" ∉ given.names) (hnewMode : "mode" ∉ given.names) :
    take? given ["--report", report, "--mode", modeName] =
      some ⟨{ given.options with report := ⟨report⟩, mode? := some mode },
        "mode" :: "report" :: given.names⟩ := by
  have hsplitReport : split? "--report" = some ("report", none) := by decide
  have hsplitMode : split? "--mode" = some ("mode", none) := by decide
  simp [take?_cons_cons _ hsplitReport hreport, take?_cons_cons _ hsplitMode hvalue, set?, path?,
    hempty, hmode, hnewReport, hnewMode, take?]

/-- A report and a mode are taken as they are given. -/
theorem parse?_report_mode (hreport : isValue report = true) (hempty : report.isEmpty = false)
    (hvalue : isValue modeName = true) (hmode : Mode.ofText? modeName = some mode) :
    parse? ["--report", report, "--mode", modeName] =
      some { report := ⟨report⟩, mode? := some mode } := by
  rw [parse?, take?_report_mode hreport hempty hvalue hmode (by simp) (by simp)]
  rfl

theorem parse?_root_report_mode (hroot : isValue root = true) (hemptyRoot : root.isEmpty = false)
    (hreport : isValue report = true) (hempty : report.isEmpty = false)
    (hvalue : isValue modeName = true) (hmode : Mode.ofText? modeName = some mode) :
    parse? ["--root", root, "--report", report, "--mode", modeName] =
      some { root := ⟨root⟩, report := ⟨report⟩, mode? := some mode } := by
  have hsplit : split? "--root" = some ("root", none) := by decide
  have hset : set? {} "root" root = some ⟨{ root := ⟨root⟩ }, ["root"]⟩ := by
    simp [set?, path?, hemptyRoot]
  rw [parse?, take?_cons_cons (by simp) hsplit hroot, hset, Option.bind_some,
    take?_report_mode hreport hempty hvalue hmode (by simp) (by simp)]
  rfl

end Options

/-! ### Runs -/

/-- The mode of a run. -/
def Program.mode (options : Options) (modeName? : Option String) : Except Failure Mode :=
  options.mode?.elim (Mode.ofEnvironment modeName?) .ok

namespace FileTree

/-- A run on a tree, and the tree after it. -/
def execute (tree : FileTree) (arguments : List String) (modeName? : Option String) :
    Output × FileTree :=
  (Program.run arguments modeName? : StateM FileTree Output).run tree

variable {tree after : FileTree} {arguments : List String} {modeName? : Option String}
  {options : Options} {mode : Mode} {report : Report} {failure : Failure} {output : Output}
  {verdict : Verdict}

theorem execute_of_usage (h : Options.parse? arguments = none) :
    tree.execute arguments modeName? = (.usage, tree) := by
  rw [execute, Program.run, h]
  rfl

theorem execute_of_run_ok (h : Options.parse? arguments = some options)
    (hrun : (Program.runOptions options modeName? :
      ExceptT Failure (StateM FileTree) Output).run.run tree = (.ok output, after)) :
    tree.execute arguments modeName? = (output, after) := by
  rw [execute, Program.run, h]
  show StateT.run (ExceptT.run (Program.runOptions options modeName?) >>= _) tree = _
  rw [StateT.run_bind, hrun]
  rfl

theorem execute_of_run_error (h : Options.parse? arguments = some options)
    (hrun : (Program.runOptions options modeName? :
      ExceptT Failure (StateM FileTree) Output).run.run tree = (.error failure, after)) :
    tree.execute arguments modeName? = (.ofFailure failure, after) := by
  rw [execute, Program.run, h]
  show StateT.run (ExceptT.run (Program.runOptions options modeName?) >>= _) tree = _
  rw [StateT.run_bind, hrun]
  rfl

/-- A run whose mode is unknown fails before it looks at the tree. -/
theorem execute_of_mode_error (h : Options.parse? arguments = some options)
    (hmode : Program.mode options modeName? = .error failure) :
    tree.execute arguments modeName? = (.ofFailure failure, tree) :=
  execute_of_run_error h ((OnlyLooks.mk_pure _).run_bind_of_error hmode)

/-- A run that comes to no report leaves the tree as it is. -/
theorem execute_of_not_checked (h : Options.parse? arguments = some options)
    (hmode : Program.mode options modeName? = .ok mode)
    (hchecked : tree.checked options = .error failure) :
    tree.execute arguments modeName? = (.ofFailure failure, tree) := by
  apply execute_of_run_error h
  exact ((OnlyLooks.mk_pure _).run_bind_of_ok hmode).trans
    ((onlyLooks_check options).run_bind_of_error hchecked)

/-- A run that has a report does with it what the mode says. -/
theorem execute_of_checked (h : Options.parse? arguments = some options)
    (hmode : Program.mode options modeName? = .ok mode)
    (hchecked : tree.checked options = .ok report)
    (hverdict : (mode.apply .standard report options.report :
      ExceptT Failure (StateM FileTree) Verdict).run.run tree = (.ok verdict, after)) :
    tree.execute arguments modeName? =
      (.ofVerdict mode (Program.listing mode report) verdict, after) := by
  apply execute_of_run_ok h
  refine ((OnlyLooks.mk_pure _).run_bind_of_ok hmode).trans
    (((onlyLooks_check options).run_bind_of_ok hchecked).trans ?_)
  rw [ExceptT.run_bind, StateT.run_bind, hverdict]
  rfl

theorem execute_of_not_applied (h : Options.parse? arguments = some options)
    (hmode : Program.mode options modeName? = .ok mode)
    (hchecked : tree.checked options = .ok report)
    (hfailure : (mode.apply .standard report options.report :
      ExceptT Failure (StateM FileTree) Verdict).run.run tree = (.error failure, after)) :
    tree.execute arguments modeName? = (.ofFailure failure, after) := by
  apply execute_of_run_error h
  refine ((OnlyLooks.mk_pure _).run_bind_of_ok hmode).trans
    (((onlyLooks_check options).run_bind_of_ok hchecked).trans ?_)
  rw [ExceptT.run_bind, StateT.run_bind, hfailure]
  rfl

end FileTree

end FindingCheck
