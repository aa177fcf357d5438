import FindingCheck.Corpus
import FindingCheck.Matching
import FindingCheck.Reading

/-!
# Checking a corpus

The sources of a group are read, the analyzer is asked for its findings in the group, and each file
is matched. The reports of all files make the report of the corpus.

## Main definitions

* `readSource` — the annotations of a source
* `checkGroup` — the report on a group
* `checkCorpus` — the report on all groups
* `checkGroups` — the same for groups of files that have to be read first

## Design notes

The report is a function of the sources, so the order in which they are read from a disk has no
influence. A failure of one file fails the whole check.
-/

namespace FindingCheck

/-- The annotations of a source. -/
def readSource (vocabulary : Vocabulary) (source : Source) :
    Logged Failure (Path × Annotations) := do
  let text ← Logged.ofExcept source.text
  let reading := Reading.ofText vocabulary source.path text
  Logged.tell (reading.events source.path)
  let annotations ←
    Logged.ofExcept (Except.mapError (.malformedSource source.path) reading.check)
  return (source.path, annotations)

/-- An event for each failed expectation of a named test. -/
def namedFailures (file : Path) (annotations : Annotations) (report : Report) : List Event :=
  report.outcomes.filterMap fun outcome =>
    if outcome.passed then none
    else do
      let line ← outcome.assertion.line?
      let name ← annotations.nameOf? line
      return ⟨.info, "named test failed",
        [("file", file.text), ("line", toString line), ("test", name)]⟩

section

variable {α : Type} [Finding α]

/-- The report on a file. -/
def checkFile (findings : List α) (file : Path × Annotations) : Logged Failure Report := do
  let matching := Matching.ofFile file.1 file.2.expectations findings
  let report := matching.report file.1
  Logged.tell (matching.events file.1 ++ namedFailures file.1 file.2 report)
  return report

/-- The report on a group of sources beneath a root. -/
def checkGroup (vocabulary : Vocabulary) (analyzer : Analyzer α) (root : Path)
    (sources : List Source) : Logged Failure Report := do
  let annotated ← sources.mapM (readSource vocabulary)
  let files := sources.map (·.path)
  let findings ← Logged.ofExcept
    (Except.mapError (.analyzerFailed files) (analyzer.analyze root files))
  let reports ← annotated.mapM (checkFile findings)
  return .combineAll reports

/-- The report on all groups, or the failure of the first group that fails. -/
def checkCorpus (vocabulary : Vocabulary) (analyzer : Analyzer α) (root : Path)
    (groups : List (List Source)) : Except Failure Report := do
  let reports ← groups.mapM fun sources => (checkGroup vocabulary analyzer root sources).result
  return .combineAll reports

end

section

variable {m : Type → Type} [Monad m] [MonadFiles m]

/-- Reads the sources of a group. -/
def loadGroup (root : Path) (group : Group) : m (List Source) :=
  group.files.mapM (Source.load root)

/-- Reads the sources of all groups. -/
def loadGroups (root : Path) (groups : List Group) : m (List (List Source)) :=
  groups.mapM (loadGroup root)

/-- Reads the sources of all groups and checks them. -/
def checkGroups {α : Type} [Finding α] (vocabulary : Vocabulary) (analyzer : Analyzer α)
    (root : Path) (groups : List Group) : ExceptT Failure m Report := do
  let sources ← (loadGroups root groups : m (List (List Source)))
  ExceptT.mk (pure (checkCorpus vocabulary analyzer root sources))

end

end FindingCheck
