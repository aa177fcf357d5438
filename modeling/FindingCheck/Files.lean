import FindingCheck.Path

/-!
# Access to files

The program reads sources, lists directories and writes one report. What it needs of files is a
class, so that one and the same program runs on the files of a machine and on a tree of files that
is a value.

## Main definitions

* `FileProblem` — why an access to a file fails
* `ListingProblem` — why the files beneath a directory cannot be listed
* `MonadFiles` — the accesses
* `makeDirectories` — a directory and the directories that it lies in
-/

namespace FindingCheck

/-- Why an access to a file fails. -/
inductive FileProblem where
  /-- A name on the path does not exist. -/
  | notFound
  /-- The name is taken. -/
  | alreadyExists
  /-- Something is used as a directory and is none. -/
  | notDirectory
  /-- A directory is used as a file. -/
  | isDirectory
  /-- Links lead on and on. -/
  | tooManyLinks
  /-- A name, or a path as a whole, is longer than a machine takes. -/
  | tooLong
  /-- A path holds the character that ends texts inside a machine. -/
  | zeroCharacter
  /-- The content is not a text. -/
  | notText
  /-- Something else, in the words of the machine. -/
  | other (text : String)
deriving DecidableEq, Repr

namespace FileProblem

/-- The problem in words, with its number where it has one. -/
def message : FileProblem → String
  | notFound => "No such file or directory (os error 2)"
  | alreadyExists => "File exists (os error 17)"
  | notDirectory => "Not a directory (os error 20)"
  | isDirectory => "Is a directory (os error 21)"
  | tooManyLinks => "Too many levels of symbolic links (os error 40)"
  | tooLong => "File name too long (os error 36)"
  | zeroCharacter => "file name contained an unexpected NUL byte"
  | notText => "stream did not contain valid UTF-8"
  | other text => text

end FileProblem

/-- Why the files beneath a directory cannot be listed. -/
structure ListingProblem where
  /-- The directory that cannot be opened: the one that was asked for, or one beneath it. -/
  directory : Path
  /-- Why it cannot. -/
  reason : FileProblem
deriving BEq, Repr

namespace ListingProblem

/-- The problem as a chain of texts: where it arose, and then the reason by itself. -/
def chain (problem : ListingProblem) : List String :=
  let reason := problem.reason.message
  ["IO error for operation on " ++ problem.directory.text ++ ": " ++ reason, reason]

end ListingProblem

/-- What the program does with files. -/
class MonadFiles (m : Type → Type) where
  /-- The text of a file. -/
  readText : Path → m (Except FileProblem String)
  /-- Whether a path leads to a directory. -/
  isDirectory : Path → m Bool
  /-- The names in a directory, in any order. -/
  names : Path → m (Except FileProblem (List String))
  /-- The files in a directory and in the directories beneath it, in any order, each as the names
  that lead to it from there. Links beneath the directory are not followed. -/
  filesBelow : Path → m (Except ListingProblem (List (List String)))
  /-- Makes one directory. -/
  makeDirectory : Path → m (Except FileProblem Unit)
  /-- Gives a file its text, and makes the file if need be. Where that fails, the file may hold a
  part of the text. -/
  writeText : Path → String → m (Except FileProblem Unit)

/-- The path and the directories that it lies in, up to `count` of them, the nearest first. -/
def Path.ancestors (path : Path) : Nat → List Path
  | 0 => []
  | count + 1 => path :: (path.parent?.elim [] fun parent => parent.ancestors count)

section

variable {m : Type → Type} [Monad m] [MonadFiles m]

/-- Makes a directory, which may be there already. -/
def ensureDirectory (path : Path) : m (Except FileProblem Unit) := do
  match ← MonadFiles.makeDirectory path with
  | .error .alreadyExists =>
    return if ← MonadFiles.isDirectory path then .ok () else .error .alreadyExists
  | result => return result

/-- Makes the first of the directories, after those behind it where they are missing. -/
def makeChain : List Path → m (Except FileProblem Unit)
  | [] => return .ok ()
  | path :: above => do
    if path.text.isEmpty then return .ok ()
    match ← ensureDirectory path with
    | .error .notFound =>
      match ← makeChain above with
      | .ok () => ensureDirectory path
      | .error problem => return .error problem
    | result => return result

/-- Makes a directory and the directories that it lies in. -/
def makeDirectories (path : Path) : m (Except FileProblem Unit) :=
  makeChain (path.ancestors (path.components.length + 1))

end

end FindingCheck
