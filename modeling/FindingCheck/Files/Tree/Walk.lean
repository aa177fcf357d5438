import FindingCheck.Files.Tree

/-!
# Where paths lead in a tree of files

A path that starts with a slash is taken from the root, and any other one from the working
directory. Links are followed, and `..` leads up, from the root to the root again.

## Main definitions

* `pathNames`, `spellingProblem?` — what is asked of a path's spelling
* `Aim` — what for a path is taken
* `Place` — where a path leads
* `Standpoint` — a directory on the way, and how one came there
* `FileTree.resolve` — the walk along a path

## Design notes

A walk goes down from one directory to what lies in it and keeps the directories above, for a `..`
leads back to them: so each name on a path is one step, however deep the tree is.
-/

namespace FindingCheck

/-- The names on a path. A slash at the end is a last name that is empty: it asks for a
directory. -/
def pathNames (path : Path) : List String :=
  (path.segments.filter (· ≠ [])).map String.ofList ++
    if path.text.toList.getLast? = some '/' then [""] else []

/-- Whether a machine can be asked about a text as a path at all. -/
def isSpelling (text : String) : Bool :=
  !text.contains '\x00'

/-- Why a spelling cannot lead anywhere: none at all names nothing, and there is a limit. -/
def spellingProblem? (text : String) : Option FileProblem :=
  if text.isEmpty then some .notFound
  else if text.utf8ByteSize ≥ 4096 then some .tooLong
  else none

/-- Whether a name leads nowhere: a `.`, or the empty name. -/
def isIdle (name : String) : Bool :=
  name = "." || name = ""

/-- Whether a name is longer than a directory takes. -/
def isLong (name : String) : Bool :=
  name.utf8ByteSize > 255

/-- What is to be done where a path leads. -/
inductive Aim where
  /-- An entry is made: a link at the end is the entry itself, and a slash behind the last name asks
  for nothing. -/
  | entry
  /-- Something is read; a link at the end is followed. -/
  | reading
  /-- A file is written and made if need be: a link at the end is followed, and a slash behind the
  last name is refused. -/
  | writing
deriving DecidableEq, Repr

/-- Whether the names left behind a name leave it the last one. -/
def Aim.isLast (aim : Aim) (rest : List String) : Bool :=
  rest = [] || (aim = .entry && rest = [""])

/-- Where a path leads. -/
inductive Place where
  /-- To a directory of the tree. -/
  | directory (entries : Contents)
  /-- To a file, under a name in the directory at a location. -/
  | file (directory : Location) (name : String) (content : ByteArray)
  /-- To a link, which is not followed. -/
  | link (directory : Location) (name : String)
  /-- To a name that is missing in a directory. -/
  | missing (directory : Location) (name : String)

/-- A directory on the way. -/
structure Standpoint where
  /-- What lies in it. -/
  entries : Contents
  /-- What lies in the directories above, the nearest first, each with the name that leads on
  from there. -/
  above : List (String × Contents) := []

namespace Standpoint

/-- The location of the directory. -/
def location (here : Standpoint) : Location :=
  (here.above.map Prod.fst).reverse

/-- Goes down to a directory that stands under a name. -/
def down (here : Standpoint) (name : String) (below : Contents) : Standpoint :=
  ⟨below, (name, here.entries) :: here.above⟩

/-- Goes up. The root lies in itself. -/
def up (here : Standpoint) : Standpoint :=
  match here.above with
  | [] => here
  | (_, entries) :: above => ⟨entries, above⟩

/-- Goes down to the directory at a location, if there is one. -/
def descend? (here : Standpoint) : Location → Option Standpoint
  | [] => some here
  | name :: rest =>
    match here.entries.lookup name with
    | some (.directory below) => (here.down name below).descend? rest
    | _ => none

end Standpoint

/-- Takes names one after the other from a directory. At a link, `follow` goes on with the target
and the names that are left; only the last name may stay a link, and only where entries are the
aim. -/
def walkNames (aim : Aim)
    (follow : Standpoint → String → List String → Except FileProblem Place) :
    Standpoint → List String → Except FileProblem Place
  | here, [] => .ok (.directory here.entries)
  | here, name :: rest =>
    if isIdle name then walkNames aim follow here rest
    else if name = ".." then walkNames aim follow here.up rest
    else if aim = .writing && rest = [""] then .error .isDirectory
    else if isLong name then .error .tooLong
    else
      match here.entries.lookup name with
      | none => if aim.isLast rest then .ok (.missing here.location name) else .error .notFound
      | some (.directory below) => walkNames aim follow (here.down name below) rest
      | some (.file content) =>
        if aim.isLast rest then .ok (.file here.location name content) else .error .notDirectory
      | some (.link target) =>
        if aim = .entry && aim.isLast rest then .ok (.link here.location name)
        else follow here target rest

/-- The directory from which a link leads on: the one in which it stands, or the root if its target
is an absolute path. -/
def linkBase (root : Contents) (here : Standpoint) (target : String) : Standpoint :=
  if Path.isAbsolute ⟨target⟩ then ⟨root, []⟩ else here

/-- Takes names from a directory and follows links, up to a number of them. -/
def walk (root : Contents) (aim : Aim) :
    Nat → Standpoint → List String → Except FileProblem Place
  | 0 => walkNames aim fun _ _ _ => .error .tooManyLinks
  | links + 1 => walkNames aim fun here target rest =>
    walk root aim links (linkBase root here target) (pathNames ⟨target⟩ ++ rest)

/-- The number of links that one path may lead over. -/
def linkLimit : Nat := 40

namespace FileTree

/-- The location of the directory from which a path is taken. -/
def base (tree : FileTree) (path : Path) : Location :=
  if path.isAbsolute then [] else tree.home

/-- The directory from which a path is taken, if it is there. -/
def start? (tree : FileTree) (path : Path) : Option Standpoint :=
  Standpoint.descend? ⟨tree.entries, []⟩ (tree.base path)

/-- Where a path leads. -/
def resolve (tree : FileTree) (aim : Aim) (path : Path) : Except FileProblem Place :=
  if !isSpelling path.text then .error .zeroCharacter
  else match spellingProblem? path.text with
    | some problem => .error problem
    | none =>
      match tree.start? path with
      | none => .error .notFound
      | some here => walk tree.entries aim linkLimit here (pathNames path)

end FileTree

end FindingCheck
