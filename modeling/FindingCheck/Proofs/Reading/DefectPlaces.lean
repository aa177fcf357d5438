import FindingCheck.Proofs.Reading.TestNames

/-!
# Where defects stand

A defect is reported with a line and a text. The line is that of a directive which the problem is
about. The text is the body of this directive if the problem is found at the directive; if it is
found later, when the line of code or the end of the text is reached, the text is put together from
the mark of naming and the name, and blanks around the name are lost.

## Main definitions

* `IsAbout` — the directive that a problem is about
* `Problem.isLate` — whether a problem is found behind its directive

## Main statements

* `isAbout_of_faultAt?` — what a fault is about
* `places_of_readAnnotations` — the line and the text of every defect
-/

namespace FindingCheck

/-- The directive in a line is what a problem is about. -/
inductive IsAbout (vocabulary : Vocabulary) (lines : List String) (index : Nat) : Problem → Prop
  /-- It names no test, and nothing is read in it. -/
  | unrecognized {body : String} (hbody : bodyAt? lines index = some body)
      (hnaming : ¬IsNaming body) (hread : vocabulary.read? body = none) :
      IsAbout vocabulary lines index .unrecognized
  /-- It gives a name, and an expectation stands above it in its run. -/
  | nameAfterExpectation {name : String} {i : Nat} (hname : nameAt? lines index = some name)
      (habove : IsAbove lines i index) (hdeclares : Declares vocabulary lines i) :
      IsAbout vocabulary lines index .nameAfterExpectation
  /-- It gives a name, and its run is named above it. -/
  | nameAlreadySet {name other : String} {i : Nat} (hname : nameAt? lines index = some name)
      (habove : IsAbove lines i index) (hnames : NamesRun vocabulary lines i other) :
      IsAbout vocabulary lines index .nameAlreadySet
  /-- It gives a name that no test can have. -/
  | invalidName {name : String} (hname : nameAt? lines index = some name)
      (hinvalid : isTestName name = false) : IsAbout vocabulary lines index .invalidName
  /-- It names a run above a line of code, and nothing in the run declares an expectation. -/
  | noExpectations {name : String} {code : Nat} (hcode : code ∈ codeLines lines)
      (habove : IsAbove lines index code) (hnames : NamesRun vocabulary lines index name)
      (hbare : ∀ i, IsAbove lines i code → ¬Declares vocabulary lines i) :
      IsAbout vocabulary lines index .noExpectations
  /-- It names the first of several tests that bear the name. -/
  | nameNotUnique {name : String} {code : Nat} {decorated : List UInt32}
      (htest : NamesTest vocabulary lines code index name)
      (hfirst : decorated.head? = some (lineNumber code)) (hseveral : 2 ≤ decorated.length) :
      IsAbout vocabulary lines index (.nameNotUnique name decorated)

/-- Whether a problem is found behind its directive. -/
def Problem.isLate : Problem → Bool
  | noExpectations => true
  | nameNotUnique .. => true
  | _ => false

/-- What is reported as the text of a directive: its body or, if the problem is late, the mark and
the name. -/
def Problem.reportedText (problem : Problem) (body : String) : String :=
  if problem.isLate then testNameMark ++ givenName body else body

variable {vocabulary : Vocabulary} {lines : List String}

/-- A fault is about the directive in the line where it is found, and it is not late. -/
theorem isAbout_of_faultAt? {index : Nat} {problem : Problem}
    (h : faultAt? vocabulary lines index = some problem) :
    IsAbout vocabulary lines index problem ∧ problem.isLate = false := by
  obtain ⟨directive, hdirective, hfault⟩ := Option.bind_eq_some_iff.mp h
  have hbody := (directiveAt?_eq_some_iff.mp hdirective).1
  rcases Block.of_fault?_eq_some hfault with ⟨hnaming, hread, rfl⟩ | ⟨hnaming, hwrong⟩
  · exact ⟨.unrecognized hbody hnaming hread, rfl⟩
  · have hname : nameAt? lines index = some (givenName directive.body) :=
      nameAt?_eq_some_iff.mpr ⟨_, hbody, hnaming, rfl⟩
    rcases hwrong with ⟨hexpectations, rfl⟩ | ⟨hset, rfl⟩ | ⟨hinvalid, rfl⟩
    · obtain ⟨i, habove, hdeclares⟩ := expectations_blockAbove_ne_nil_iff.mp hexpectations
      exact ⟨.nameAfterExpectation hname habove hdeclares, rfl⟩
    · obtain ⟨⟨other, setter⟩, hother⟩ := Option.ne_none_iff_exists'.mp hset
      obtain ⟨i, habove, -, hnames⟩ := name_blockAbove_eq_some_iff.mp hother
      exact ⟨.nameAlreadySet hname habove hnames, rfl⟩
    · exact ⟨.invalidName hname hinvalid, rfl⟩

/-- Every defect stands at a directive that it is about. -/
theorem exists_isAbout_of_isDefect {file : Path} {defect : Defect}
    (h : IsDefect vocabulary lines file defect) :
    ∃ index body, bodyAt? lines index = some body ∧ defect.file = file ∧
      defect.line = lineNumber index ∧ IsAbout vocabulary lines index defect.problem ∧
      defect.text = defect.problem.reportedText body := by
  cases h with
  | @fault index body problem hbody hfault =>
    obtain ⟨habout, hlate⟩ := isAbout_of_faultAt? hfault
    refine ⟨index, body, hbody, rfl, rfl, habout, ?_⟩
    rw [Problem.reportedText, hlate]
    rfl
  | @bare code index name hcode habove hnames hbare =>
    obtain ⟨body, hbody, -, rfl, -⟩ := testNameAt?_eq_some_iff.mp hnames.gives
    exact ⟨index, body, hbody, rfl, rfl, .noExpectations hcode habove hnames hbare, rfl⟩
  | @shared name _ hclash =>
    obtain ⟨hseveral, first, hfirst, rfl⟩ := NamedTest.clash?_eq_some_iff.mp hclash
    obtain ⟨hmem, hname⟩ := List.mem_filter.mp (List.mem_of_head? hfirst)
    obtain ⟨code, index, htest, hdirective, hdecorated⟩ := mem_namedTests_iff.mp hmem
    rw [eq_of_beq hname] at htest
    obtain ⟨body, hbody, -, hgiven, -⟩ := testNameAt?_eq_some_iff.mp htest.namesRun.gives
    refine ⟨index, body, hbody, rfl, hdirective, .nameNotUnique htest ?_ ?_, ?_⟩
    · rw [List.head?_map, hfirst, Option.map_some, hdecorated]
    · rwa [List.length_map]
    · rw [Problem.reportedText, hgiven]
      rfl

theorem readAnnotations_eq_error_iff {file : Path} {text : String} {defects : List Defect} :
    readAnnotations vocabulary file text = .error defects ↔
      (Reading.ofText vocabulary file text).defects = defects ∧ defects ≠ [] := by
  rw [readAnnotations, Reading.check]
  split
  · next hempty =>
    rw [List.isEmpty_iff.mp hempty]
    exact iff_of_false (fun h => by cases h) fun h => h.2 h.1.symm
  · next hdefects =>
    rw [Except.error.injEq]
    refine (and_iff_left_of_imp ?_).symm
    rintro rfl
    exact mt List.isEmpty_iff.mpr hdefects

/-- The place of every defect that is reported. It stands in a line with a directive that the
problem is about. Its text is the body of this directive, unless the problem is late and blanks
stand around the name. -/
theorem places_of_readAnnotations {vocabulary : Vocabulary} {file : Path} {text : String}
    (hlines : (FindingCheck.lines text).length < UInt32.size) {defects : List Defect}
    (hread : readAnnotations vocabulary file text = .error defects) :
    ∀ defect ∈ defects, ∃ index body, bodyAt? (FindingCheck.lines text) index = some body ∧
      defect.file = file ∧ defect.line = UInt32.ofNat (index + 1) ∧
      IsAbout vocabulary (FindingCheck.lines text) index defect.problem ∧
      defect.text = defect.problem.reportedText body ∧
      (defect.text = body ↔
        defect.problem.isLate = true → testNameMark ++ givenName body = body) := by
  intro defect hdefect
  obtain ⟨rfl, -⟩ := readAnnotations_eq_error_iff.mp hread
  obtain ⟨index, body, hbody, hfile, hline, habout, htext⟩ :=
    exists_isAbout_of_isDefect (mem_defects_ofText_iff.mp hdefect)
  have hlength := lt_length_of_bodyAt? (Option.isSome_of_mem hbody)
  rw [lineNumber_eq_ofNat (by omega)] at hline
  refine ⟨index, body, hbody, hfile, hline, habout, htext, ?_⟩
  rw [htext, Problem.reportedText]
  cases defect.problem.isLate <;> simp

/-- A text with a name that names no expectation and has blanks around it. -/
def blankName : String :=
  "// test:name: lonely \nfoo();\n"

theorem lines_blankName : FindingCheck.lines blankName = ["// test:name: lonely ", "foo();"] := by
  rw [FindingCheck.lines, blankName, String.toList_ofList]
  rfl

/-- The text that is reported for it is not the body of the directive. -/
theorem places_of_readAnnotations_blankName :
    (FindingCheck.lines blankName).length < UInt32.size ∧
      ∃ defects, readAnnotations .standard ⟨"A.java"⟩ blankName = .error defects ∧
        ∃ defect ∈ defects, ∃ body, bodyAt? (FindingCheck.lines blankName) 0 = some body ∧
          defect.line = 1 ∧ defect.problem = .noExpectations ∧ defect.text ≠ body := by
  have hlines : (FindingCheck.lines blankName).length < UInt32.size := by
    rw [lines_blankName]
    decide
  have hdefects : (Reading.ofText .standard ⟨"A.java"⟩ blankName).defects.map Defect.problem =
      [.noExpectations] := by
    rw [Reading.ofText, Layout.ofText, lines_blankName]
    decide +kernel
  obtain ⟨defect, hsingle, hproblem⟩ := List.map_eq_singleton_iff.mp hdefects
  have hread : readAnnotations .standard ⟨"A.java"⟩ blankName = .error [defect] :=
    readAnnotations_eq_error_iff.mpr ⟨hsingle, List.cons_ne_nil _ _⟩
  obtain ⟨index, body, hbody, -, hline, -, -, htext⟩ :=
    places_of_readAnnotations hlines hread defect (List.mem_singleton_self defect)
  -- only the first line is a directive
  rw [lines_blankName] at hbody
  have hlength : index < 2 := lt_length_of_bodyAt? (Option.isSome_of_mem hbody)
  have hfirst : bodyAt? ["// test:name: lonely ", "foo();"] 0 = some "test:name: lonely " := by
    decide +kernel
  have hsecond : bodyAt? ["// test:name: lonely ", "foo();"] 1 = none := by decide +kernel
  obtain rfl : index = 0 := by
    by_contra hne
    obtain rfl : index = 1 := by omega
    rw [hsecond] at hbody
    cases hbody
  obtain rfl := Option.some.inj (hfirst.symm.trans hbody)
  refine ⟨hlines, _, hread, defect, List.mem_singleton_self defect, "test:name: lonely ",
    ?_, hline, hproblem, ?_⟩
  · rw [lines_blankName, hfirst]
  · intro heq
    have hraw := htext.mp heq (by rw [hproblem]; rfl)
    exact absurd hraw (by decide +kernel)

end FindingCheck
