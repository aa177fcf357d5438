import FindingCheck.Program

/-!
# The executable

The accesses to the files of a machine, and the run of the program on them.

## Main definitions

* `fileProblem` — the problem that an error of the machine is
* `main` — the program
-/

namespace FindingCheck

/-- The number of an error. Some accesses report it negated. -/
def errorNumber (code : UInt32) : UInt32 :=
  if code < 0x80000000 then code else 0 - code

/-- The problem with a number, in the words of the machine unless it is one of those that are told
apart. -/
def numbered (code : UInt32) (text : String) : FileProblem :=
  let number := errorNumber code
  if number = 2 then .notFound
  else if number = 17 then .alreadyExists
  else if number = 20 then .notDirectory
  else if number = 21 then .isDirectory
  else if number = 40 then .tooManyLinks
  else if number = 36 then .tooLong
  else .other (text.capitalize ++ " (os error " ++ toString number ++ ")")

/-- The problem that an error of the machine is. -/
def fileProblem : IO.Error → FileProblem
  | .noFileOrDirectory _ code text => numbered code text
  | .alreadyExists _ code text => numbered code text
  | .inappropriateType _ code text => numbered code text
  | .invalidArgument _ code text => numbered code text
  | .permissionDenied _ code text => numbered code text
  | .resourceExhausted _ code text => numbered code text
  | .otherError code text => numbered code text
  | problem => .other (toString problem)

/-- Runs an access and keeps what goes wrong as a value. -/
def attempt {α : Type} (access : IO α) : IO (Except FileProblem α) := do
  try
    return .ok (← access)
  catch problem =>
    return .error (fileProblem problem)

/-- Runs an access that is part of a listing. -/
def listing {α : Type} (path : Path) (access : IO α) : ExceptT ListingProblem IO α :=
  ExceptT.mk (Except.mapError (⟨path, ·⟩) <$> attempt access)

/-- The files beneath a directory, by the names that lead to them; `above` leads to the directory,
the last name first. -/
partial def listBelow (directory : Path) (above : List String) :
    ExceptT ListingProblem IO (List (List String)) := do
  let mut found := []
  for item in ← listing directory (System.mkFilePath [directory.text]).readDir do
    let path := directory.join ⟨item.fileName⟩
    let names := item.fileName :: above
    match (← listing path (System.mkFilePath [path.text]).symlinkMetadata).type with
    | .file => found := names.reverse :: found
    | .dir => found := (← listBelow path names) ++ found
    | _ => pure ()
  return found

instance : MonadFiles IO where
  readText path := do
    return match ← attempt (IO.FS.readBinFile (System.mkFilePath [path.text])) with
      | .ok content => (String.fromUTF8? content).elim (.error .notText) .ok
      | .error problem => .error problem
  isDirectory path := (System.mkFilePath [path.text]).isDir
  names path := attempt do
    return (← (System.mkFilePath [path.text]).readDir).toList.map (·.fileName)
  filesBelow path := (listBelow path []).run
  makeDirectory path := attempt (IO.FS.createDir (System.mkFilePath [path.text]))
  writeText path text :=
    attempt (IO.FS.writeBinFile (System.mkFilePath [path.text]) text.toUTF8)

end FindingCheck

/-- Runs the program with the arguments of the command line. -/
def main (arguments : List String) : IO UInt32 := do
  let modeName? ← IO.getEnv FindingCheck.Mode.variableName
  let output ← (FindingCheck.Program.run arguments modeName? : IO FindingCheck.Output)
  IO.print output.stdout
  IO.eprint output.stderr
  return UInt32.ofNat output.exit
