import FindingCheck.Failure
import FindingCheck.Sorting

/-!
# The corpus

A corpus is a directory of source files. Each file directly in it is analyzed alone; the files
beneath each of its directories are analyzed together, because they may refer to each other.

## Main definitions

* `Group` — files that are analyzed together
* `Corpus.discover` — the groups beneath a root
* `Source`, `Source.load` — a file with its text
-/

namespace FindingCheck

/-- Files that are analyzed together. -/
structure Group where
  /-- The files, relative to the root. -/
  files : List Path
  /-- They ascend. -/
  ascends : files.Pairwise fun a b => notBehind id a b = true

namespace Group

/-- The group of files that come in any order. -/
def ofFiles (files : List Path) : Group :=
  ⟨sortOn id files, pairwise_sortOn _ _⟩

/-- Groups in the order of their files. -/
def sort (groups : List Group) : List Group :=
  sortOn files groups

/-- The path of names taken from the root. -/
def relativePath (names : List String) : Path :=
  ⟨String.intercalate "/" names⟩

/-- Whether the last name on a path ends as source files do. -/
def isSource (extension : String) (path : Path) : Bool :=
  path.extension? == some extension

/-- The group of a directory, given the files beneath it; without sources it has none. -/
def ofDirectory? (extension name : String) (below : List (List String)) : Option Group :=
  let sources := (below.map fun names => relativePath (name :: names)).filter (isSource extension)
  if sources.isEmpty then none else some (ofFiles sources)

/-- The group of a name that is no directory. -/
def ofName? (extension name : String) : Option Group :=
  if isSource extension ⟨name⟩ then some (ofFiles [⟨name⟩]) else none

end Group

/-- Runs an access to files as a step of a program that can fail. -/
def accessing {m : Type → Type} [Monad m] {ε α : Type} (failure : ε → Failure)
    (access : m (Except ε α)) : ExceptT Failure m α :=
  ExceptT.mk (Except.mapError failure <$> access)

namespace Corpus

variable {m : Type → Type} [Monad m] [MonadFiles m]

/-- The group that a name in the root stands for. -/
def groupOf? (root : Path) (extension name : String) : ExceptT Failure m (Option Group) := do
  let path := root.join ⟨name⟩
  if ← (MonadFiles.isDirectory path : m Bool) then
    let below ← accessing (.unlistable path) (MonadFiles.filesBelow path)
    return Group.ofDirectory? extension name below
  else
    return Group.ofName? extension name

/-- The groups beneath a root, in order. -/
def discover (root : Path) (extension : String) : ExceptT Failure m (List Group) := do
  unless ← (MonadFiles.isDirectory root : m Bool) do throw (.noRoot root)
  let names ← accessing (.unreadable root) (MonadFiles.names root)
  let groups ← names.mapM (groupOf? root extension)
  return Group.sort (groups.filterMap id)

end Corpus

/-- A file of the corpus with its text, or why it has none. -/
structure Source where
  /-- The file, relative to the root. -/
  path : Path
  /-- The text. -/
  text : Except Failure String

namespace Source

variable {m : Type → Type} [Monad m] [MonadFiles m]

/-- Reads a file beneath a root. -/
def load (root path : Path) : m Source := do
  let location := root.join path
  return { path, text := Except.mapError (.unreadable location) (← MonadFiles.readText location) }

end Source

end FindingCheck
