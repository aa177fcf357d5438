import FindingCheck.Files.Tree.Walk

/-!
# The accesses to a tree of files

What the program does with files, done to a tree that is a value. The accesses fail as those of a
machine do.

## Main definitions

* `FileTree.readText`, `FileTree.names`, `FileTree.filesBelow` — the accesses that read
* `Contents.unopened?` — the directory at which a listing fails
* `FileTree.writeBytes`, `FileTree.makeDirectory` — the accesses that change the tree
-/

namespace FindingCheck

/-- The first directory beneath a directory that cannot be opened, where `path` leads to that one:
the path to it is no spelling any more. -/
def Contents.unopened? (path : Path) : Contents → Option ListingProblem
  | [] => none
  | (_, .file _) :: rest | (_, .link _) :: rest => unopened? path rest
  | (name, .directory below) :: rest =>
    let inner := path.join ⟨name⟩
    match spellingProblem? inner.text with
    | some reason => some ⟨inner, reason⟩
    | none => (unopened? inner below).or (unopened? path rest)

namespace FileTree

/-- The content of a file. -/
def readBytes (tree : FileTree) (path : Path) : Except FileProblem ByteArray := do
  match ← tree.resolve .reading path with
  | .file _ _ content => .ok content
  | .directory _ => .error .isDirectory
  | .link _ _ | .missing _ _ => .error .notFound

/-- The text of a file. -/
def readText (tree : FileTree) (path : Path) : Except FileProblem String := do
  let content ← tree.readBytes path
  match String.fromUTF8? content with
  | some text => .ok text
  | none => .error .notText

theorem readText_of_readBytes {tree : FileTree} {path : Path} {text : String}
    (h : tree.readBytes path = .ok text.toUTF8) : tree.readText path = .ok text := by
  have hvalid : String.fromUTF8? text.toUTF8 = some text :=
    dif_pos text.isValidUTF8
  rw [readText, h]
  dsimp only [bind, Except.bind]
  rw [hvalid]

/-- What lies in the directory that a path leads to. -/
def contentsAt (tree : FileTree) (path : Path) : Except FileProblem Contents := do
  match ← tree.resolve .reading path with
  | .directory entries => .ok entries
  | .file _ _ _ => .error .notDirectory
  | .link _ _ | .missing _ _ => .error .notFound

/-- Whether a path leads to a directory. -/
def isDirectory (tree : FileTree) (path : Path) : Bool :=
  (tree.contentsAt path).isOk

/-- The names in a directory. -/
def names (tree : FileTree) (path : Path) : Except FileProblem (List String) :=
  (tree.contentsAt path).map fun entries => entries.map Prod.fst

/-- The files beneath a directory, by the names that lead to them from there. Every directory
beneath is opened by the path that leads to it from where the tree is entered. -/
def filesBelow (tree : FileTree) (path : Path) : Except ListingProblem (List (List String)) := do
  let entries ← (tree.contentsAt path).mapError (⟨path, ·⟩)
  match entries.unopened? path with
  | some problem => .error problem
  | none => .ok entries.files

/-- What has come of writing a content to a file that is open, and what the file holds then. -/
def written (tree : FileTree) (content : ByteArray) : Except FileProblem Unit × ByteArray :=
  match tree.interruption? content with
  | none => (.ok (), content)
  | some interruption =>
    (.error interruption.reason, content.extract 0 interruption.written)

/-- Gives a file its content, and makes the file if need be. What was in the file is lost when it is
opened, and so it is lost as well where the writing breaks off. -/
def writeBytes (tree : FileTree) (path : Path) (content : ByteArray) :
    Except FileProblem Unit × FileTree :=
  match tree.resolve .writing path with
  | .ok (.file directory name _) | .ok (.missing directory name) =>
    ((tree.written content).1, tree.put directory name (.file (tree.written content).2))
  | .ok (.directory _) => (.error .isDirectory, tree)
  | .ok (.link _ _) => (.error .notFound, tree)
  | .error problem => (.error problem, tree)

/-- Makes a directory where nothing is. -/
def makeDirectory (tree : FileTree) (path : Path) : Except FileProblem FileTree := do
  match ← tree.resolve .entry path with
  | .missing directory name => .ok (tree.put directory name (.directory []))
  | .directory _ | .file _ _ _ | .link _ _ => .error .alreadyExists

/-- Looks something up in the tree. -/
def look {α : Type} (f : FileTree → α) : StateM FileTree α :=
  return f (← get)

/-- Changes the tree, unless that fails. -/
def change (f : FileTree → Except FileProblem FileTree) :
    StateM FileTree (Except FileProblem Unit) := do
  match f (← get) with
  | .ok tree =>
    set tree
    return .ok ()
  | .error problem => return .error problem

instance : MonadFiles (StateM FileTree) where
  readText path := look (·.readText path)
  isDirectory path := look (·.isDirectory path)
  names path := look (·.names path)
  filesBelow path := look (·.filesBelow path)
  makeDirectory path := change (·.makeDirectory path)
  writeText path text := modifyGet (·.writeBytes path text.toUTF8)

end FileTree

end FindingCheck
