import FindingCheck.Proofs.Reading.Expectations
import Mathlib.Data.List.Basic

/-!
# What reading asks of a vocabulary

A text is read with a vocabulary by asking it about the bodies of the directives and nothing else.
If the text is well formed, each of them says something.

## Main definitions

* `directiveBodies` — the bodies of the directives of a text

## Main statements

* `readAnnotations_congr` — vocabularies that agree on these bodies read the same
* `meaning_ne_unknown_of_readAnnotations` — in a text that is well formed each of them says something
-/

namespace FindingCheck

/-- The bodies of the directives among the lines of a text. -/
def directiveBodies (text : String) : List String :=
  (lines text).filterMap directiveBody?

theorem body_mem_directiveBodies {text : String} {directive : Directive}
    (h : directive ∈ (Layout.ofText text).directives) : directive.body ∈ directiveBodies text := by
  rw [directiveBodies, ← Layout.map_body_directives_ofText]
  exact List.mem_map_of_mem h

variable {vocabulary other : Vocabulary}

namespace Block

theorem ofDirectives_congr {directives : List Directive}
    (h : ∀ directive ∈ directives,
      vocabulary.meaning directive.body = other.meaning directive.body) :
    ofDirectives vocabulary directives = ofDirectives other directives := by
  refine List.foldl_ext _ _ _ fun block directive hdirective => ?_
  rw [add, add, h directive hdirective]

/-- A fault is never taken back. -/
theorem faults_prefix_add (vocabulary : Vocabulary) (block : Block) (directive : Directive) :
    block.faults <+: (block.add vocabulary directive).faults := by
  unfold add
  split
  · exact List.prefix_refl _
  · exact List.prefix_append _ _
  · -- a name that cannot be given is a fault, and one that can be given changes no fault
    split
    · exact List.prefix_append _ _
    · split
      · exact List.prefix_append _ _
      · split
        · exact List.prefix_append _ _
        · exact List.prefix_refl _

theorem faults_prefix_foldl_add (vocabulary : Vocabulary) (directives : List Directive)
    (block : Block) : block.faults <+: (directives.foldl (add vocabulary) block).faults := by
  induction directives generalizing block with
  | nil => exact List.prefix_refl _
  | cons directive directives ih =>
    exact (faults_prefix_add vocabulary block directive).trans (ih _)

/-- A directive that says nothing is a fault. -/
theorem mem_faults_ofDirectives {directives : List Directive} {directive : Directive}
    (hmem : directive ∈ directives) (hunknown : vocabulary.meaning directive.body = .unknown) :
    (directive, Problem.unrecognized) ∈ (ofDirectives vocabulary directives).faults := by
  obtain ⟨before, after, rfl⟩ := List.append_of_mem hmem
  rw [ofDirectives, List.foldl_append, List.foldl_cons]
  refine (faults_prefix_foldl_add vocabulary after _).subset ?_
  simp [add, hunknown, fault]

end Block

namespace Reading

theorem ofLayout_congr (file : Path) {layout : Layout}
    (h : ∀ directive ∈ layout.directives,
      vocabulary.meaning directive.body = other.meaning directive.body) :
    ofLayout vocabulary file layout = ofLayout other file layout := by
  have hruns : layout.runs.map (DecoratedBlock.ofRun vocabulary) =
      layout.runs.map (DecoratedBlock.ofRun other) := by
    refine List.map_congr_left fun run hrun => ?_
    have hblock := Block.ofDirectives_congr fun directive hdirective =>
      h directive (List.mem_append_left _ (List.mem_flatMap.mpr ⟨run, hrun, hdirective⟩))
    rw [DecoratedBlock.ofRun, DecoratedBlock.ofRun, hblock]
  have hlast := Block.ofDirectives_congr fun directive hdirective =>
    h directive (List.mem_append_right _ hdirective)
  rw [ofLayout, ofLayout, hruns, hlast]

/-- A directive that says nothing is a defect of the text, also behind the last line of code. -/
theorem mem_defects_ofLayout (file : Path) {layout : Layout} {directive : Directive}
    (hmem : directive ∈ layout.directives)
    (hunknown : vocabulary.meaning directive.body = .unknown) :
    Defect.ofFault file (directive, .unrecognized) ∈ (ofLayout vocabulary file layout).defects := by
  refine List.mem_append_left _ ?_
  rcases List.mem_append.mp hmem with hrun | htrailing
  · obtain ⟨run, hrun, hdirective⟩ := List.mem_flatMap.mp hrun
    have hfault := Block.mem_faults_ofDirectives hdirective hunknown
    refine List.mem_append_left _ (List.mem_flatMap.mpr ⟨_, List.mem_map_of_mem hrun, ?_⟩)
    exact List.mem_append_left _ (List.mem_map_of_mem hfault)
  · exact List.mem_append_right _ (List.mem_map_of_mem
      (Block.mem_faults_ofDirectives htrailing hunknown))

end Reading

/-- Two vocabularies read a text the same if they agree on the bodies of its directives. -/
theorem readAnnotations_congr (file : Path) {text : String}
    (h : ∀ body ∈ directiveBodies text, vocabulary.meaning body = other.meaning body) :
    readAnnotations vocabulary file text = readAnnotations other file text := by
  rw [readAnnotations, readAnnotations, Reading.ofText, Reading.ofText, Reading.ofLayout_congr]
  exact fun directive hdirective => h _ (body_mem_directiveBodies hdirective)

/-- Every directive of a text that is well formed says something. -/
theorem meaning_ne_unknown_of_readAnnotations {file : Path} {text : String}
    {annotations : Annotations} (hread : readAnnotations vocabulary file text = .ok annotations)
    {body : String} (hbody : body ∈ directiveBodies text) : vocabulary.meaning body ≠ .unknown := by
  intro hunknown
  rw [directiveBodies, ← Layout.map_body_directives_ofText] at hbody
  obtain ⟨directive, hdirective, rfl⟩ := List.mem_map.mp hbody
  have hdefect : Defect.ofFault file (directive, .unrecognized) ∈
      (Reading.ofText vocabulary file text).defects :=
    Reading.mem_defects_ofLayout file hdirective hunknown
  rw [(readAnnotations_eq_ok_iff.mp hread).1] at hdefect
  cases hdefect

end FindingCheck
