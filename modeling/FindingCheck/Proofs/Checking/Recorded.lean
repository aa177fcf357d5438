import FindingCheck.Files.Tree.Access
import FindingCheck.Proofs.Checking.Replay

/-!
# A check of files in a tree

A check reads its sources from a tree of files and leaves the tree as it is. A file that cannot be
read as a text is at fault, and so is one whose directives have defects; every other file declares
its annotations.

## Main definitions

* `FileTree.checkRecorded` — a check of files in a tree with recorded diagnostics
* `FileTree.Declares`, `FileTree.Faulty` — what a file declares, or that it is at fault

## Main statements

* `run_checkGroups` — a check of groups in a tree is that of the sources that are read there
* `FileTree.checkRecorded_eq` — with recorded diagnostics, it goes file by file
-/

namespace FindingCheck

namespace FileTree

/-- A file beneath a root, as it is read. -/
def source (tree : FileTree) (root file : Path) : Source where
  path := file
  text := Except.mapError (.unreadable (root.join file)) (tree.readText (root.join file))

theorem run_load (tree : FileTree) (root file : Path) :
    (Source.load root file : StateM FileTree Source).run tree = (tree.source root file, tree) :=
  rfl

theorem run_mapM {α β : Type} {tree : FileTree} {f : α → StateM FileTree β} {g : α → β}
    (h : ∀ x, (f x).run tree = (g x, tree)) (xs : List α) :
    (xs.mapM f).run tree = (xs.map g, tree) := by
  induction xs with
  | nil => rfl
  | cons x xs ih =>
    rw [List.mapM_cons, StateT.run_bind, h]
    show StateT.run (xs.mapM f >>= _) tree = _
    rw [StateT.run_bind, ih]
    rfl

end FileTree

/-- A check leaves the tree as it is. -/
theorem run_checkGroups {α : Type} [Finding α] (vocabulary : Vocabulary) (analyzer : Analyzer α)
    (root : Path) (groups : List Group) (tree : FileTree) :
    (checkGroups vocabulary analyzer root groups :
        ExceptT Failure (StateM FileTree) Report).run.run tree =
      (checkCorpus vocabulary analyzer root
        (groups.map fun group => group.files.map (tree.source root)), tree) := by
  let load : StateM FileTree (List (List Source)) := loadGroups root groups
  have hload : load.run tree = (groups.map fun group => group.files.map (tree.source root), tree) :=
    FileTree.run_mapM (f := loadGroup root)
      (fun group => FileTree.run_mapM (tree.run_load root) group.files) groups
  show (checkCorpus vocabulary analyzer root (load.run tree).1, (load.run tree).2) = _
  rw [hload]

/-- A check of groups in a tree with recorded diagnostics: its result, and the tree after it. -/
def FileTree.checkRecorded (tree : FileTree) (vocabulary : Vocabulary) (root : Path)
    (diagnostics : List Diagnostic) (groups : List Group) : Except Failure Report × FileTree :=
  (checkGroups vocabulary (.replay diagnostics) root groups :
    ExceptT Failure (StateM FileTree) Report).run.run tree

theorem FileTree.checkRecorded_eq (tree : FileTree) (vocabulary : Vocabulary) (root : Path)
    (diagnostics : List Diagnostic) (groups : List Group) :
    tree.checkRecorded vocabulary root diagnostics groups =
      (((groups.flatMap Group.files).mapM fun file =>
        (tree.source root file).report vocabulary diagnostics).map Report.combineAll, tree) := by
  have hsources : (groups.map fun group => group.files.map (tree.source root)).flatten =
      (groups.flatMap Group.files).map (tree.source root) := by
    rw [List.map_flatMap, List.flatMap_def]
  rw [checkRecorded, run_checkGroups, checkCorpus_replay, hsources, List.mapM_map]
  rfl

/-! ### What a file in a tree declares -/

namespace FileTree

/-- A file beneath a root can be read, and it declares the annotations. -/
def Declares (tree : FileTree) (vocabulary : Vocabulary) (root file : Path)
    (annotations : Annotations) : Prop :=
  ∃ text, tree.readText (root.join file) = .ok text ∧
    readAnnotations vocabulary file text = .ok annotations

/-- A file beneath a root cannot be read as a text, or its directives have defects. -/
def Faulty (tree : FileTree) (vocabulary : Vocabulary) (root file : Path) : Prop :=
  (∃ problem, tree.readText (root.join file) = .error problem) ∨
    ∃ text defects, tree.readText (root.join file) = .ok text ∧
      readAnnotations vocabulary file text = .error defects

variable {tree : FileTree} {vocabulary : Vocabulary} {root file : Path}

theorem faulty_or_declares (tree : FileTree) (vocabulary : Vocabulary) (root file : Path) :
    tree.Faulty vocabulary root file ∨
      ∃ annotations, tree.Declares vocabulary root file annotations := by
  cases htext : tree.readText (root.join file) with
  | error problem => exact .inl (.inl ⟨problem, htext⟩)
  | ok text =>
    cases hread : readAnnotations vocabulary file text with
    | error defects => exact .inl (.inr ⟨text, defects, htext, hread⟩)
    | ok annotations => exact .inr ⟨annotations, text, htext, hread⟩

/-- What a file declares is known from its text. -/
theorem Declares.unique {other : FileTree} {otherRoot : Path} {annotations others : Annotations}
    (h : tree.Declares vocabulary root file annotations)
    (hother : other.Declares vocabulary otherRoot file others)
    (htext : tree.readText (root.join file) = other.readText (otherRoot.join file)) :
    annotations = others := by
  obtain ⟨text, hread, hannotations⟩ := h
  obtain ⟨text', hread', hothers⟩ := hother
  rw [hread, hread'] at htext
  cases htext
  rw [hannotations] at hothers
  exact Except.ok.inj hothers

theorem Declares.report_eq {α : Type} [Finding α] {annotations : Annotations}
    (h : tree.Declares vocabulary root file annotations) (findings : List α) :
    (tree.source root file).report vocabulary findings =
      .ok (matchFile file annotations.expectations findings) := by
  obtain ⟨text, htext, hread⟩ := h
  rw [Source.report, readSource_result, source, htext]
  dsimp only [Except.mapError, Except.bind]
  rw [hread]
  rfl

theorem Faulty.exists_report_eq {α : Type} [Finding α] (h : tree.Faulty vocabulary root file)
    (findings : List α) :
    ∃ failure, (tree.source root file).report vocabulary findings = .error failure := by
  rw [Source.report, readSource_result, source]
  rcases h with ⟨problem, htext⟩ | ⟨text, defects, htext, hread⟩
  · rw [htext]
    exact ⟨_, rfl⟩
  · rw [htext]
    dsimp only [Except.mapError, Except.bind]
    rw [hread]
    exact ⟨_, rfl⟩

end FileTree

end FindingCheck
