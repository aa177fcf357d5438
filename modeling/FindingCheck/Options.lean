import FindingCheck.Mode

/-!
# The command line

The program takes options only. Each has a name and a value, in two arguments or in one with an
equals sign between them, and each may be given once.

## Main definitions

* `Options` — what a run is to do
* `Options.parse?` — the options that arguments give
-/

namespace FindingCheck

/-- What a run is to do. -/
structure Options where
  /-- The root of the corpus. -/
  root : Path := ⟨"samples"⟩
  /-- The dump of the analyzer's findings. -/
  facts : Path := ⟨"facts.json"⟩
  /-- The stored report. -/
  report : Path := ⟨"tests/ConformanceTestsResults.txt"⟩
  /-- What the names of source files end in, behind a dot. -/
  extension : String := "java"
  /-- The mode, unless the environment is to name it. -/
  mode? : Option Mode := none
deriving DecidableEq, Repr

namespace Options

/-- The options that have been given, by their names. -/
structure Given where
  /-- What they make of the defaults. -/
  options : Options := {}
  /-- The names of the options that have been given. -/
  names : List String := []
deriving DecidableEq, Repr

/-- A path, which must not be empty. -/
def path? (value : String) : Option Path :=
  if value.isEmpty then none else some ⟨value⟩

/-- Sets an option. A name that is not known, a value that cannot be used and a repetition are
refused. -/
def set? (given : Given) (name value : String) : Option Given := do
  guard (!given.names.contains name)
  let options ←
    if name = "root" then (path? value).map fun path => { given.options with root := path }
    else if name = "facts" then (path? value).map fun path => { given.options with facts := path }
    else if name = "report" then (path? value).map fun path => { given.options with report := path }
    else if name = "extension" then some { given.options with extension := value }
    else if name = "mode" then
      (Mode.ofText? value).map fun mode => { given.options with mode? := some mode }
    else none
  return { options, names := name :: given.names }

/-- Whether an argument of its own can be the value of an option: it does not start with a dash,
or is nothing but one. -/
def isValue (argument : String) : Bool :=
  argument.toList.head? ≠ some '-' || argument = "-"

/-- The name of the option that an argument gives, and the value if it holds one. -/
def split? (argument : String) : Option (String × Option String) :=
  match argument.toList with
  | '-' :: '-' :: body =>
    let name := String.ofList (body.takeWhile (· ≠ '='))
    match body.dropWhile (· ≠ '=') with
    | [] => some (name, none)
    | _ :: value => some (name, some (String.ofList value))
  | _ => none

/-- Takes arguments one after the other. Two dashes end the options, and nothing may follow. -/
def take? (given : Given) : List String → Option Given
  | [] => some given
  | argument :: rest =>
    if argument = "--" then (if rest.isEmpty then some given else none)
    else
      match split? argument, rest with
      | some (name, some value), rest => (set? given name value).bind (take? · rest)
      | some (name, none), value :: rest =>
        if isValue value then (set? given name value).bind (take? · rest) else none
      | _, _ => none

/-- The options that arguments give, unless they cannot be used. -/
def parse? (arguments : List String) : Option Options :=
  (take? {} arguments).map (·.options)

end Options

end FindingCheck
