import FindingCheck.Proofs.WrittenLines
import FindingCheck.Reading

/-!
# Where expectations come from

Every expectation of a text stands in a line of it that is a directive: its text is the body of the
directive, and its fact is what the vocabulary reads in the body.

## Main definitions

* `Layout.directives` — the directives of a layout in order
* `Vocabulary.declared?` — the expectation that a directive declares

## Main statements

* `Layout.map_body_directives_ofText` — the directives of a text are those of its lines
* `Block.expectations_ofDirectives` — the expectations of a run are those of its directives
* `Reading.expectation_of_mem` — what is known of an expectation of a text
* `expectation_of_mem_readAnnotations` — the same for a source that is well formed
-/

namespace FindingCheck

/-! ### The directives of a text -/

theorem directiveBody?_eq_some_iff {line body : String} :
    directiveBody? line = some body ↔
      trimStart line.toList = '/' :: '/' :: ' ' :: body.toList := by
  unfold directiveBody?
  constructor
  · intro h
    split at h
    · next chars heq =>
      obtain rfl := Option.some.inj h
      rw [heq, String.toList_ofList]
    · cases h
  · intro h
    rw [h]
    simp

theorem mem_of_mem_directiveBody? {line body : String} (h : directiveBody? line = some body)
    {c : Char} (hc : c ∈ body.toList) : c ∈ line.toList := by
  have hsuffix : trimStart line.toList <:+ line.toList := List.dropWhile_suffix _
  rw [directiveBody?_eq_some_iff.mp h] at hsuffix
  exact hsuffix.mem (by simp [hc])

namespace Layout

/-- The directives in the order of the text: run after run, and then those that decorate nothing. -/
def directives (layout : Layout) : List Directive :=
  layout.runs.flatMap (·.directives) ++ layout.trailing

/-- A line in front of a layout puts its directive, if it is one, in front of the others. -/
theorem map_body_directives_push (line : String × Nat) (layout : Layout) :
    (layout.push line).directives.map Directive.body =
      (directiveBody? line.1).toList ++ layout.directives.map Directive.body := by
  obtain ⟨runs, trailing⟩ := layout
  cases hbody : directiveBody? line.1 with
  | none =>
    -- code starts a run in which nothing stands yet
    simp [push, hbody, directives]
  | some body =>
    cases runs with
    | nil => simp [push, hbody, directives]
    | cons run more => simp [push, hbody, directives]

theorem map_body_directives_ofLines (lines : List String) (index : Nat) :
    (ofLines lines index).directives.map Directive.body = lines.filterMap directiveBody? := by
  induction lines generalizing index with
  | nil => rfl
  | cons line lines ih =>
    show ((ofLines lines (index + 1)).push (line, index)).directives.map Directive.body = _
    rw [map_body_directives_push, ih, List.filterMap_cons]
    cases directiveBody? line <;> rfl

/-- The directives of a text are the directives among its lines, in order. -/
theorem map_body_directives_ofText (text : String) :
    (ofText text).directives.map Directive.body = (lines text).filterMap directiveBody? :=
  map_body_directives_ofLines (lines text) 0

end Layout

/-! ### What directives declare -/

/-- The text and the fact of the expectation that a directive declares, if it declares one. -/
def Vocabulary.declared? (vocabulary : Vocabulary) (directive : Directive) :
    Option (String × Fact) :=
  match vocabulary.meaning directive.body with
  | .expectation fact => some (directive.body, fact)
  | _ => none

theorem Vocabulary.meaning_eq_expectation_iff {vocabulary : Vocabulary} {body : String}
    {fact : Fact} :
    vocabulary.meaning body = .expectation fact ↔
      testNameMark.toList.isPrefixOf? body.toList = none ∧ vocabulary.read? body = some fact := by
  unfold meaning
  cases testNameMark.toList.isPrefixOf? body.toList with
  | some name => simp
  | none => cases vocabulary.read? body <;> simp

theorem Vocabulary.declared?_eq_some {vocabulary : Vocabulary} {directive : Directive}
    {text : String} {fact : Fact} (h : vocabulary.declared? directive = some (text, fact)) :
    directive.body = text ∧ vocabulary.read? text = some fact := by
  cases hmeaning : vocabulary.meaning directive.body with
  | testName name => simp [declared?, hmeaning] at h
  | unknown => simp [declared?, hmeaning] at h
  | expectation declared =>
    obtain ⟨rfl, rfl⟩ : directive.body = text ∧ declared = fact := by
      simpa [declared?, hmeaning] using h
    exact ⟨rfl, (meaning_eq_expectation_iff.mp hmeaning).2⟩

namespace Block

/-- A directive adds the expectation that it declares, whatever was said before. -/
theorem expectations_add (vocabulary : Vocabulary) (block : Block) (directive : Directive) :
    (block.add vocabulary directive).expectations =
      block.expectations ++ (vocabulary.declared? directive).toList := by
  cases hmeaning : vocabulary.meaning directive.body with
  | expectation fact => simp [add, Vocabulary.declared?, hmeaning]
  | unknown => simp [add, Vocabulary.declared?, hmeaning, fault]
  | testName name =>
    -- whether the name can be given or is a fault, no expectation is added
    simp only [add, Vocabulary.declared?, hmeaning, Option.toList_none, List.append_nil]
    split
    · rfl
    · split
      · rfl
      · split <;> rfl

theorem expectations_foldl_add (vocabulary : Vocabulary) (directives : List Directive)
    (block : Block) :
    (directives.foldl (add vocabulary) block).expectations =
      block.expectations ++ directives.filterMap vocabulary.declared? := by
  induction directives generalizing block with
  | nil => simp
  | cons directive directives ih =>
    rw [List.foldl_cons, ih, expectations_add, List.append_assoc, List.filterMap_cons]
    cases vocabulary.declared? directive <;> rfl

/-- The expectations of a run are those that its directives declare, in order. -/
theorem expectations_ofDirectives (vocabulary : Vocabulary) (directives : List Directive) :
    (ofDirectives vocabulary directives).expectations =
      directives.filterMap vocabulary.declared? :=
  expectations_foldl_add vocabulary directives {}

end Block

/-! ### The expectations of a text -/

/-- An expectation of a text is one for its file. Its text is the body of a directive in a line
of the text, and the vocabulary reads its fact there. -/
theorem Reading.expectation_of_mem {vocabulary : Vocabulary} {file : Path} {text : String}
    {expectation : Expectation}
    (h : expectation ∈ (Reading.ofText vocabulary file text).expectations) :
    expectation.file = file ∧
      vocabulary.read? expectation.text = some expectation.fact ∧
      ∃ line ∈ lines text, directiveBody? line = some expectation.text := by
  obtain ⟨block, hblock, hexpected⟩ := List.mem_flatMap.mp h
  obtain ⟨run, hrun, rfl⟩ := List.mem_map.mp hblock
  obtain ⟨⟨body, fact⟩, hentry, rfl⟩ := List.mem_map.mp hexpected
  have hdeclared : (body, fact) ∈ run.directives.filterMap vocabulary.declared? := by
    rw [← Block.expectations_ofDirectives]
    exact hentry
  obtain ⟨directive, hdirective, hdeclared⟩ := List.mem_filterMap.mp hdeclared
  obtain ⟨hbody, hread⟩ := Vocabulary.declared?_eq_some hdeclared
  refine ⟨rfl, hread, ?_⟩
  have hbodies : body ∈ (Layout.ofText text).directives.map Directive.body :=
    List.mem_map.mpr ⟨directive,
      List.mem_append_left _ (List.mem_flatMap.mpr ⟨run, hrun, hdirective⟩), hbody⟩
  rw [Layout.map_body_directives_ofText] at hbodies
  exact List.mem_filterMap.mp hbodies

theorem readAnnotations_eq_ok_iff {vocabulary : Vocabulary} {file : Path} {text : String}
    {annotations : Annotations} :
    readAnnotations vocabulary file text = .ok annotations ↔
      (Reading.ofText vocabulary file text).defects = [] ∧
        (Reading.ofText vocabulary file text).toAnnotations = annotations := by
  unfold readAnnotations Reading.check
  split
  · next hempty => simp [List.isEmpty_iff.mp hempty]
  · next hdefects => simp [mt List.isEmpty_iff.mpr hdefects]

/-- What is known of the expectations of a source that is well formed. -/
theorem expectation_of_mem_readAnnotations {vocabulary : Vocabulary} {file : Path} {text : String}
    {annotations : Annotations} (hread : readAnnotations vocabulary file text = .ok annotations)
    {expectation : Expectation} (h : expectation ∈ annotations.expectations) :
    expectation.file = file ∧ '\n' ∉ expectation.text.toList ∧
      vocabulary.read? expectation.text = some expectation.fact := by
  obtain ⟨-, rfl⟩ := readAnnotations_eq_ok_iff.mp hread
  obtain ⟨hfile, hfact, line, hline, hbody⟩ := Reading.expectation_of_mem h
  refine ⟨hfile, fun hfeed => ?_, hfact⟩
  exact not_mem_of_mem_lines hline (mem_of_mem_directiveBody? hbody hfeed)

/-- Every expectation of a source is for the file of the source. -/
theorem filter_file_of_readAnnotations {vocabulary : Vocabulary} {file : Path} {text : String}
    {annotations : Annotations} (hread : readAnnotations vocabulary file text = .ok annotations) :
    annotations.expectations.filter (·.file == file) = annotations.expectations := by
  refine List.filter_eq_self.mpr fun expectation hexpectation => ?_
  rw [(expectation_of_mem_readAnnotations hread hexpectation).1]
  exact Path.beq_iff.mpr rfl

end FindingCheck
