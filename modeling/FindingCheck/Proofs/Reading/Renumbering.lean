import FindingCheck.Reading

/-!
# Renumbered lines

Reading looks at the numbers of lines only to write them down. Whatever the lines are renumbered to,
the directives say the same, and every number in what is read is renumbered along.

## Main definitions

* `Layout.renumber`, `Block.renumber`, `Reading.renumber` — everything with a number of a line,
  renumbered

## Main statements

* `Block.ofDirectives_renumber` — what directives say, with their lines renumbered
* `Reading.ofLayout_renumber` — reading a layout whose lines are renumbered
* `Reading.ofLayout_append_bare` — lines of code in front that nothing decorates say nothing
-/

namespace FindingCheck

variable (number : UInt32 → UInt32)

def Directive.renumber (directive : Directive) : Directive :=
  { directive with line := number directive.line }

def Run.renumber (run : Run) : Run :=
  ⟨number run.decorated, run.directives.map (Directive.renumber number)⟩

/-- The layout in which every line has a new number. -/
def Layout.renumber (layout : Layout) : Layout :=
  ⟨layout.runs.map (Run.renumber number), layout.trailing.map (Directive.renumber number)⟩

def Problem.renumber : Problem → Problem
  | nameNotUnique name lines => nameNotUnique name (lines.map number)
  | problem => problem

def Defect.renumber (defect : Defect) : Defect :=
  { defect with line := number defect.line, problem := defect.problem.renumber number }

def Block.renumber (block : Block) : Block where
  name := block.name.map fun entry => (entry.1, entry.2.renumber number)
  expectations := block.expectations
  faults := block.faults.map fun fault => (fault.1.renumber number, fault.2.renumber number)

def DecoratedBlock.renumber (block : DecoratedBlock) : DecoratedBlock :=
  { block.toBlock.renumber number with decorated := number block.decorated }

def NamedTest.renumber (test : NamedTest) : NamedTest :=
  ⟨test.name, number test.directive, number test.decorated⟩

def Expectation.renumber (expectation : Expectation) : Expectation :=
  { expectation with line := number expectation.line }

/-- The annotations of lines with new numbers: the same names and expectations. -/
def Annotations.renumber (annotations : Annotations) : Annotations where
  expectations := annotations.expectations.map (Expectation.renumber number)
  names := annotations.names.map fun entry => (number entry.1, entry.2)

def Reading.renumber (reading : Reading) : Reading where
  toAnnotations := reading.toAnnotations.renumber number
  defects := reading.defects.map (Defect.renumber number)
  dropped := reading.dropped

/-! ### Runs and blocks -/

namespace Block

theorem renumber_fault (block : Block) (directive : Directive) {problem : Problem}
    (h : problem.renumber number = problem) :
    (block.renumber number).fault (directive.renumber number) problem =
      (block.fault directive problem).renumber number := by
  simp [fault, renumber, h]

/-- A directive says the same wherever it stands. -/
theorem add_renumber (vocabulary : Vocabulary) (block : Block) (directive : Directive) :
    (block.renumber number).add vocabulary (directive.renumber number) =
      (block.add vocabulary directive).renumber number := by
  have hbody : (directive.renumber number).body = directive.body := rfl
  rw [add, add, hbody]
  cases vocabulary.meaning directive.body with
  | expectation fact => rfl
  | unknown => exact renumber_fault number block directive rfl
  | testName name =>
    have hexpectations : (block.renumber number).expectations = block.expectations := rfl
    have hname : (block.renumber number).name.isSome = block.name.isSome := Option.isSome_map
    dsimp only
    rw [hexpectations, hname]
    split
    · exact renumber_fault number block directive rfl
    · split
      · exact renumber_fault number block directive rfl
      · split
        · exact renumber_fault number block directive rfl
        · rfl

theorem ofDirectives_renumber (vocabulary : Vocabulary) (directives : List Directive) :
    ofDirectives vocabulary (directives.map (Directive.renumber number)) =
      (ofDirectives vocabulary directives).renumber number := by
  rw [ofDirectives, ofDirectives, List.foldl_map]
  show List.foldl _ (Block.renumber number {}) directives = _
  exact List.foldl_hom (Block.renumber number) fun block directive =>
    add_renumber number vocabulary block directive

theorem isEmpty_renumber (block : Block) : (block.renumber number).isEmpty = block.isEmpty := by
  rw [isEmpty, isEmpty, renumber, Option.isNone_map]

end Block

namespace DecoratedBlock

theorem ofRun_renumber (vocabulary : Vocabulary) (run : Run) :
    ofRun vocabulary (run.renumber number) = (ofRun vocabulary run).renumber number := by
  have hblock := Block.ofDirectives_renumber number vocabulary run.directives
  rw [ofRun, Run.renumber, hblock]
  rfl

theorem expected_renumber (block : DecoratedBlock) (file : Path) :
    (block.renumber number).expected file =
      (block.expected file).map (Expectation.renumber number) := by
  rw [expected, expected, List.map_map]
  rfl

theorem test?_renumber (block : DecoratedBlock) :
    (block.renumber number).test? = block.test?.map (NamedTest.renumber number) := by
  have hexpectations : (block.renumber number).expectations = block.expectations := rfl
  rw [test?, test?, hexpectations]
  split
  · rfl
  · show (block.name.map _).map _ = _
    rw [Option.map_map, Option.map_map]
    rfl

theorem faults_renumber (faults : List (Directive × Problem)) (file : Path) :
    (faults.map fun fault => (fault.1.renumber number, fault.2.renumber number)).map
        (Defect.ofFault file) =
      (faults.map (Defect.ofFault file)).map (Defect.renumber number) := by
  rw [List.map_map, List.map_map]
  rfl

theorem defects_renumber (block : DecoratedBlock) (file : Path) :
    (block.renumber number).defects file = (block.defects file).map (Defect.renumber number) := by
  have hfaults := faults_renumber number block.faults file
  have hexpectations : (block.renumber number).expectations = block.expectations := rfl
  have hname : (block.renumber number).name =
      block.name.map fun entry => (entry.1, entry.2.renumber number) := rfl
  rw [defects, defects, List.map_append, ← hfaults, hexpectations, hname]
  refine congrArg _ ?_
  cases block.name with
  | none => rfl
  | some entry =>
    dsimp only [Option.map_some]
    split <;> rfl

end DecoratedBlock

/-! ### Names of tests -/

namespace NamedTest

theorem map_name_renumber (tests : List NamedTest) :
    (tests.map (renumber number)).map name = tests.map name := by
  rw [List.map_map]
  rfl

theorem clash?_renumber (file : Path) (tests : List NamedTest) (name : String) :
    clash? file (tests.map (renumber number)) name =
      (clash? file tests name).map (Defect.renumber number) := by
  have hbearers : (tests.map (renumber number)).filter (·.name == name) =
      (tests.filter (·.name == name)).map (renumber number) := by
    rw [List.filter_map]
    rfl
  rw [clash?, clash?, hbearers]
  generalize tests.filter (·.name == name) = bearers
  rcases bearers with _ | ⟨first, _ | ⟨second, more⟩⟩
  · rfl
  · rfl
  · simp [Defect.renumber, Problem.renumber, renumber]

theorem clashes_renumber (file : Path) (tests : List NamedTest) :
    clashes file (tests.map (renumber number)) =
      (clashes file tests).map (Defect.renumber number) := by
  rw [clashes, clashes, distinctNames, distinctNames, map_name_renumber, List.map_filterMap]
  refine congrArg (List.filterMap · _) (funext fun name => ?_)
  exact clash?_renumber number file tests name

end NamedTest

/-! ### Layouts -/

namespace Reading

/-- Reading a layout with new numbers gives the same with new numbers. -/
theorem ofLayout_renumber (vocabulary : Vocabulary) (file : Path) (layout : Layout) :
    ofLayout vocabulary file (layout.renumber number) =
      (ofLayout vocabulary file layout).renumber number := by
  have hblocks : (layout.renumber number).runs.map (DecoratedBlock.ofRun vocabulary) =
      (layout.runs.map (DecoratedBlock.ofRun vocabulary)).map (DecoratedBlock.renumber number) := by
    rw [Layout.renumber, List.map_map, List.map_map]
    exact List.map_congr_left fun run _ => DecoratedBlock.ofRun_renumber number vocabulary run
  have hlast : Block.ofDirectives vocabulary (layout.renumber number).trailing =
      (Block.ofDirectives vocabulary layout.trailing).renumber number :=
    Block.ofDirectives_renumber number vocabulary layout.trailing
  have htests (blocks : List DecoratedBlock) :
      (blocks.map (DecoratedBlock.renumber number)).filterMap DecoratedBlock.test? =
        (blocks.filterMap DecoratedBlock.test?).map (NamedTest.renumber number) := by
    rw [List.filterMap_map, List.map_filterMap]
    exact congrArg (List.filterMap · _) (funext (DecoratedBlock.test?_renumber number))
  rw [ofLayout, ofLayout, hblocks, hlast, htests, renumber, Annotations.renumber]
  congr 1
  · congr 1
    · rw [List.flatMap_map, List.map_flatMap]
      refine congrArg (List.flatMap · _) (funext fun block => ?_)
      exact DecoratedBlock.expected_renumber number block file
    · rw [List.map_map, List.map_map]
      rfl
  · have hdefects : (fun block => (DecoratedBlock.renumber number block).defects file) =
        fun block => (block.defects file).map (Defect.renumber number) :=
      funext fun block => DecoratedBlock.defects_renumber number block file
    rw [List.map_append, List.map_append, NamedTest.clashes_renumber, List.flatMap_map,
      List.map_flatMap, hdefects, ← DecoratedBlock.faults_renumber]
    rfl
  · rw [Block.isEmpty_renumber]
    rfl

/-- Runs without directives, which are lines of code that nothing decorates, say nothing. -/
theorem ofLayout_append_bare (vocabulary : Vocabulary) (file : Path) {bare : List Run}
    (hbare : ∀ run ∈ bare, run.directives = []) (runs : List Run) (trailing : List Directive) :
    ofLayout vocabulary file ⟨bare ++ runs, trailing⟩ =
      ofLayout vocabulary file ⟨runs, trailing⟩ := by
  induction bare with
  | nil => rfl
  | cons run bare ih =>
    obtain ⟨hrun, hrest⟩ := List.forall_mem_cons.mp hbare
    obtain ⟨decorated, directives⟩ := run
    obtain rfl : directives = [] := hrun
    exact ih hrest

/-- New numbers add no defect and remove none. -/
theorem check_renumber (reading : Reading) :
    (reading.renumber number).check =
      (Except.mapError (List.map (Defect.renumber number)) reading.check).map
        (Annotations.renumber number) := by
  have hempty : (reading.renumber number).defects.isEmpty = reading.defects.isEmpty :=
    List.isEmpty_map
  rw [check, check, hempty]
  split <;> rfl

end Reading

end FindingCheck
