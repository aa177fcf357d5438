import FindingCheck.Proofs.Reading.NamedTests

/-!
# The defects of a text

Defects show at three moments: a directive is at fault where it stands, a name turns out to name no
expectation when the line of code is reached, and that several tests bear a name is known at the
end. `IsDefect` has a case for each, in terms of the lines.

## Main definitions

* `IsDefect` — what is a defect of a text
* `lineDefects` — the defects that are found before the end of the text

## Main statements

* `defects_ofText` — the defects of a text in the order in which they are reported
* `mem_defects_ofText_iff` — what is reported are the defects
-/

namespace FindingCheck

/-- What is a defect of a text. -/
inductive IsDefect (vocabulary : Vocabulary) (lines : List String) (file : Path) : Defect → Prop
  /-- A directive is at fault, behind what stands above it in its run. -/
  | fault {index : Nat} {body : String} {problem : Problem}
      (hbody : bodyAt? lines index = some body)
      (hfault : faultAt? vocabulary lines index = some problem) :
      IsDefect vocabulary lines file ⟨file, lineNumber index, body, problem⟩
  /-- A run above a line of code has a name and no expectation. -/
  | bare {code index : Nat} {name : String}
      (hcode : code ∈ codeLines lines) (habove : IsAbove lines index code)
      (hnames : NamesRun vocabulary lines index name)
      (hbare : ∀ i, IsAbove lines i code → ¬Declares vocabulary lines i) :
      IsDefect vocabulary lines file
        ⟨file, lineNumber index, testNameMark ++ name, .noExpectations⟩
  /-- Several tests bear one name. -/
  | shared {name : String} {defect : Defect}
      (hclash : NamedTest.clash? file (namedTests vocabulary lines) name = some defect) :
      IsDefect vocabulary lines file defect

variable {vocabulary : Vocabulary} {lines : List String} {file : Path} {defect : Defect}

/-- The defects that are found line by line: those of the runs, and then the faults of the
directives behind the last line of code. -/
def lineDefects (vocabulary : Vocabulary) (lines : List String) (file : Path) : List Defect :=
  ((codeLines lines).flatMap fun code => (decoratedAt vocabulary lines code).defects file) ++
    (blockAbove vocabulary lines lines.length).faults.map (Defect.ofFault file)

/-- The defects of a text in the order in which they are reported. -/
theorem defects_ofText (vocabulary : Vocabulary) (file : Path) (text : String) :
    (Reading.ofText vocabulary file text).defects =
      lineDefects vocabulary (FindingCheck.lines text) file ++
        NamedTest.clashes file (namedTests vocabulary (FindingCheck.lines text)) := by
  have htrailing : (Layout.ofText text).trailing =
      directivesAbove (FindingCheck.lines text) (FindingCheck.lines text).length := by
    rw [Layout.ofText, Layout.ofLines_eq]
  simp only [Reading.ofText, Reading.ofLayout, blocks_ofText, htrailing, List.flatMap_map,
    List.filterMap_map]
  rfl

/-- The faults of the directives above a line are defects, and so are those above the end. -/
theorem mem_map_ofFault_iff {below : Nat} :
    defect ∈ (blockAbove vocabulary lines below).faults.map (Defect.ofFault file) ↔
      ∃ i body problem, IsAbove lines i below ∧ bodyAt? lines i = some body ∧
        faultAt? vocabulary lines i = some problem ∧
        defect = ⟨file, lineNumber i, body, problem⟩ := by
  rw [List.mem_map]
  constructor
  · rintro ⟨⟨directive, problem⟩, hmem, rfl⟩
    obtain ⟨i, hi, hdirective, hfault⟩ := mem_faults_blockAbove_iff.mp hmem
    obtain ⟨hbody, hline⟩ := directiveAt?_eq_some_iff.mp hdirective
    exact ⟨i, directive.body, problem, hi, hbody, hfault, by rw [← hline]; rfl⟩
  · rintro ⟨i, body, problem, hi, hbody, hfault, rfl⟩
    exact ⟨(⟨lineNumber i, body⟩, problem), mem_faults_blockAbove_iff.mpr
      ⟨i, hi, directiveAt?_eq_some_iff.mpr ⟨hbody, rfl⟩, hfault⟩, rfl⟩

/-- The defects of a run are its faults and a name without an expectation. -/
theorem mem_defects_decoratedAt_iff {code : Nat} :
    defect ∈ (decoratedAt vocabulary lines code).defects file ↔
      defect ∈ (blockAbove vocabulary lines code).faults.map (Defect.ofFault file) ∨
        ∃ i name, IsAbove lines i code ∧ NamesRun vocabulary lines i name ∧
          (∀ j, IsAbove lines j code → ¬Declares vocabulary lines j) ∧
          defect = ⟨file, lineNumber i, testNameMark ++ name, .noExpectations⟩ := by
  rw [DecoratedBlock.defects, List.mem_append, ← expectations_blockAbove_eq_nil_iff]
  refine or_congr_right ⟨fun h => ?_, fun ⟨i, name, hi, hnames, hbare, heq⟩ => ?_⟩
  · split at h
    · next name directive hname =>
      obtain ⟨i, hi, hdirective, hnames⟩ := name_blockAbove_eq_some_iff.mp hname
      split at h
      · next hbare =>
        rw [List.mem_singleton, (directiveAt?_eq_some_iff.mp hdirective).2] at h
        exact ⟨i, name, hi, hnames, List.isEmpty_iff.mp hbare, h⟩
      · cases h
    · cases h
  · obtain ⟨directive, hdirective⟩ := isSome_bodyAt?_iff.mp hi.isSome
    have hname : (decoratedAt vocabulary lines code).name = some (name, directive) :=
      name_blockAbove_eq_some_iff.mpr ⟨i, hi, hdirective, hnames⟩
    have hbare : (decoratedAt vocabulary lines code).expectations = [] := hbare
    rw [hname, hbare, heq, ← (directiveAt?_eq_some_iff.mp hdirective).2]
    exact List.mem_singleton_self _

/-- What is found line by line are faults and names without an expectation. -/
theorem mem_lineDefects_iff :
    defect ∈ lineDefects vocabulary lines file ↔
      (∃ i body problem, bodyAt? lines i = some body ∧
        faultAt? vocabulary lines i = some problem ∧
        defect = ⟨file, lineNumber i, body, problem⟩) ∨
      ∃ code i name, code ∈ codeLines lines ∧ IsAbove lines i code ∧
        NamesRun vocabulary lines i name ∧
        (∀ j, IsAbove lines j code → ¬Declares vocabulary lines j) ∧
        defect = ⟨file, lineNumber i, testNameMark ++ name, .noExpectations⟩ := by
  rw [lineDefects, List.mem_append, List.mem_flatMap]
  constructor
  · rintro (⟨code, hcode, hdefect⟩ | hlast)
    · rcases mem_defects_decoratedAt_iff.mp hdefect with hmem | ⟨i, name, hi, hnames, hbare, rfl⟩
      · obtain ⟨i, body, problem, -, hfault⟩ := mem_map_ofFault_iff.mp hmem
        exact .inl ⟨i, body, problem, hfault⟩
      · exact .inr ⟨code, i, name, hcode, hi, hnames, hbare, rfl⟩
    · obtain ⟨i, body, problem, -, hfault⟩ := mem_map_ofFault_iff.mp hlast
      exact .inl ⟨i, body, problem, hfault⟩
  · rintro (⟨i, body, problem, hbody, hfault, rfl⟩ | ⟨code, i, name, hcode, hname⟩)
    · -- the directive stands above a line of code or above the end
      obtain ⟨stop, hstop, habove⟩ := exists_isAbove (Option.isSome_of_mem hbody)
      have hmem : _ ∈ (blockAbove vocabulary lines stop).faults.map (Defect.ofFault file) :=
        mem_map_ofFault_iff.mpr ⟨i, body, problem, habove, hbody, hfault, rfl⟩
      rcases hstop with hcode | rfl
      · exact .inl ⟨stop, hcode, mem_defects_decoratedAt_iff.mpr (.inl hmem)⟩
      · exact .inr hmem
    · exact .inl ⟨code, hcode, mem_defects_decoratedAt_iff.mpr (.inr ⟨i, name, hname⟩)⟩

/-- What is reported of a text are the defects of its lines. -/
theorem mem_defects_ofText_iff {text : String} :
    defect ∈ (Reading.ofText vocabulary file text).defects ↔
      IsDefect vocabulary (FindingCheck.lines text) file defect := by
  rw [defects_ofText, List.mem_append, mem_lineDefects_iff]
  constructor
  · rintro ((⟨i, body, problem, hbody, hfault, rfl⟩ |
      ⟨code, i, name, hcode, hi, hnames, hbare, rfl⟩) | hshared)
    · exact .fault hbody hfault
    · exact .bare hcode hi hnames hbare
    · obtain ⟨name, -, hclash⟩ := List.mem_filterMap.mp hshared
      exact .shared hclash
  · intro hdefect
    cases hdefect with
    | @fault index body problem hbody hfault =>
      exact .inl (.inl ⟨index, body, problem, hbody, hfault, rfl⟩)
    | @bare code index name hcode habove hnames hbare =>
      exact .inl (.inr ⟨code, index, name, hcode, habove, hnames, hbare, rfl⟩)
    | @shared name _ hclash =>
      exact .inr (List.mem_filterMap.mpr
        ⟨name, NamedTest.mem_distinctNames_of_clash? hclash, hclash⟩)

end FindingCheck
