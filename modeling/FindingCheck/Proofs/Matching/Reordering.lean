import FindingCheck.Diagnostic
import FindingCheck.Proofs.Matching.Outcomes
import FindingCheck.Proofs.Report.RoundTrip
import Mathlib.Data.List.Perm.Basic

/-!
# Matching reordered diagnostics

An expectation takes the first diagnostic that will do, so the order of the diagnostics decides
which one it takes. But whatever an expectation accepts looks the same to every expectation: the
lines are equal, and so is what the facts compare. What remains for the later expectations is
therefore the same but for its order, and only the severities of what is left over can differ.

## Main definitions

* `Diagnostic.Alike` — diagnostics that one expectation can accept
* `Diagnostic.content`, `Fact.content` — what facts compare of a diagnostic, and what they want
* `Matching.Blurs` — a view in which the findings that an expectation accepts are equal
* `Consistent` — diagnostics of which those that are alike must all be expected or none

## Main statements

* `Diagnostic.satisfies_iff` — a fact is satisfied by the content that it wants
* `Matching.Blurs.take` — an expectation takes the same from findings that are viewed alike
* `Matching.Blurs.settle` — so do expectations one after the other
* `filter_outcomes_matchFile_perm` — the order of diagnostics has no influence on the expectations
* `map_withoutLeftovers_matchFile_perm` — nor on the whole file, if they are consistent
-/

namespace FindingCheck

/-- What a fact wants of a diagnostic: nothing beyond a mismatch, or a key and arguments. -/
def Fact.content : Fact → Option (String × List String)
  | .nullnessMismatch => none
  | .cannotConvert _ _ => none
  | .expressionType type expression => some ("expression.type", [type, expression])
  | .annotationIrrelevant name => some ("irrelevant.annotation", [name])
  | .sinkType type sink => some ("sink.type", [type, sink])

namespace Diagnostic

def informationalKeys : List String :=
  ["expression.type", "irrelevant.annotation", "sink.type"]

/-- On one line, both mismatches or with the same informational key and arguments. -/
def Alike (a b : Diagnostic) : Prop :=
  a.line = b.line ∧
    (a.isMismatch = true ∧ b.isMismatch = true ∨
      a.key ∈ informationalKeys ∧ a.key = b.key ∧ a.arguments = b.arguments)

/-- What facts compare of a diagnostic: nothing of a mismatch, else the key and the arguments. -/
def content (diagnostic : Diagnostic) : Option (String × List String) :=
  if diagnostic.isMismatch then none else some (diagnostic.key, diagnostic.arguments)

theorem content_eq_none_iff {diagnostic : Diagnostic} :
    diagnostic.content = none ↔ diagnostic.isMismatch = true := by
  rw [content]
  cases diagnostic.isMismatch <;> simp

theorem content_eq_some_iff {diagnostic : Diagnostic} {key : String} {arguments : List String}
    (hkey : mismatchKeys.contains key = false) :
    diagnostic.content = some (key, arguments) ↔
      diagnostic.key = key ∧ diagnostic.arguments = arguments := by
  rw [content]
  by_cases hmismatch : diagnostic.isMismatch = true
  · have hne : diagnostic.key ≠ key := by
      rintro rfl
      rw [isMismatch, hkey] at hmismatch
      cases hmismatch
    simp [hmismatch, hne]
  · simp [hmismatch]

theorem hasContent_iff {diagnostic : Diagnostic} {key : String} {arguments : List String}
    (hkey : mismatchKeys.contains key = false) :
    diagnostic.hasContent key arguments = true ↔ diagnostic.content = some (key, arguments) := by
  rw [content_eq_some_iff hkey, hasContent, Bool.and_eq_true, beq_iff_eq, beq_iff_eq]

/-- A diagnostic satisfies a fact exactly if it has the content that the fact wants. -/
theorem satisfies_iff {diagnostic : Diagnostic} {fact : Fact} :
    diagnostic.satisfies fact = true ↔ diagnostic.content = fact.content := by
  cases fact with
  | nullnessMismatch => exact content_eq_none_iff.symm
  | cannotConvert source sink => exact content_eq_none_iff.symm
  | expressionType type expression => exact hasContent_iff (by decide)
  | annotationIrrelevant name => exact hasContent_iff (by decide)
  | sinkType type sink => exact hasContent_iff (by decide)

theorem accepts_iff {expectation : Expectation} {diagnostic : Diagnostic} :
    expectation.accepts diagnostic = true ↔
      diagnostic.line = expectation.line ∧ diagnostic.content = expectation.fact.content := by
  rw [← satisfies_iff, Expectation.accepts, Bool.and_eq_true, beq_iff_eq]
  rfl

theorem Alike.content_eq {a b : Diagnostic} (h : a.Alike b) : a.content = b.content := by
  obtain ⟨-, ⟨ha, hb⟩ | ⟨-, hkey, harguments⟩⟩ := h
  · rw [content_eq_none_iff.mpr ha, content_eq_none_iff.mpr hb]
  · rw [content, content, isMismatch, isMismatch, hkey, harguments]

/-- The key that a fact wants is informational, and so not that of a mismatch. -/
theorem mem_informationalKeys {fact : Fact} {key : String} {arguments : List String}
    (h : fact.content = some (key, arguments)) :
    key ∈ informationalKeys ∧ mismatchKeys.contains key = false := by
  cases fact <;> cases h <;> decide

/-- What one expectation accepts is alike. -/
theorem alike_of_accepts {expectation : Expectation} {a b : Diagnostic}
    (ha : expectation.accepts a = true) (hb : expectation.accepts b = true) : a.Alike b := by
  obtain ⟨haline, hacontent⟩ := accepts_iff.mp ha
  obtain ⟨hbline, hbcontent⟩ := accepts_iff.mp hb
  refine ⟨haline.trans hbline.symm, ?_⟩
  cases hfact : expectation.fact.content with
  | none =>
    rw [hfact] at hacontent hbcontent
    exact .inl ⟨content_eq_none_iff.mp hacontent, content_eq_none_iff.mp hbcontent⟩
  | some wanted =>
    rw [hfact] at hacontent hbcontent
    obtain ⟨hinformational, hkey⟩ := mem_informationalKeys hfact
    obtain ⟨hakey, haarguments⟩ := (content_eq_some_iff hkey).mp hacontent
    obtain ⟨hbkey, hbarguments⟩ := (content_eq_some_iff hkey).mp hbcontent
    rw [← hakey] at hinformational
    exact .inr ⟨hinformational, hakey.trans hbkey.symm, haarguments.trans hbarguments.symm⟩

end Diagnostic

/-! ### Findings that are viewed alike -/

namespace Matching

variable {α β : Type} [Finding α] {view : α → β} {findings others : List α}

/-- In the view, the findings of two lists are the same but for their order, and whatever an
expectation accepts is equal. -/
structure Blurs (view : α → β) (findings others : List α) : Prop where
  perm : (findings.map view).Perm (others.map view)
  accepts : ∀ (expectation : Expectation) (a b : α), view a = view b →
    expectation.accepts a = expectation.accepts b
  view_eq : ∀ expectation : Expectation, ∀ a ∈ findings, ∀ b ∈ others,
    expectation.accepts a = true → expectation.accepts b = true → view a = view b

theorem Blurs.symm (h : Blurs view findings others) : Blurs view others findings where
  perm := h.perm.symm
  accepts := h.accepts
  view_eq expectation a ha b hb hacceptsa hacceptsb :=
    (h.view_eq expectation b hb a ha hacceptsb hacceptsa).symm

theorem Blurs.exists_accepts (h : Blurs view findings others) {expectation : Expectation}
    (hfindings : ∃ a ∈ findings, expectation.accepts a = true) :
    ∃ b ∈ others, expectation.accepts b = true := by
  obtain ⟨a, ha, haccepts⟩ := hfindings
  obtain ⟨b, hb, hview⟩ := List.mem_map.mp (h.perm.mem_iff.mp (List.mem_map_of_mem ha))
  exact ⟨b, hb, (h.accepts expectation b a hview).trans haccepts⟩

/-- An expectation takes something of both lists or of neither, and what it leaves is the same in
the view again. -/
theorem Blurs.take (h : Blurs view findings others) (expectation : Expectation) :
    (findings.find? expectation.accepts).isSome = (others.find? expectation.accepts).isSome ∧
      Blurs view (findings.eraseP expectation.accepts) (others.eraseP expectation.accepts) := by
  have hsome : (findings.find? expectation.accepts).isSome =
      (others.find? expectation.accepts).isSome := by
    rw [Bool.eq_iff_iff, List.find?_isSome, List.find?_isSome]
    exact ⟨h.exists_accepts, h.symm.exists_accepts⟩
  refine ⟨hsome, ?_, h.accepts, fun other a ha b hb =>
    h.view_eq other a (List.mem_of_mem_eraseP ha) b (List.mem_of_mem_eraseP hb)⟩
  -- what was taken and what is left make up the same list on both sides, and what was taken is equal
  have hperm := ((perm_find?_eraseP expectation.accepts findings).map view).symm.trans
    (h.perm.trans ((perm_find?_eraseP expectation.accepts others).map view))
  cases hfinding : findings.find? expectation.accepts with
  | none =>
    cases hother : others.find? expectation.accepts with
    | none =>
      rw [hfinding, hother] at hperm
      exact hperm
    | some b =>
      rw [hfinding, hother] at hsome
      cases hsome
  | some a =>
    cases hother : others.find? expectation.accepts with
    | none =>
      rw [hfinding, hother] at hsome
      cases hsome
    | some b =>
      have hview : view a = view b :=
        h.view_eq expectation a (List.mem_of_find?_eq_some hfinding) b
          (List.mem_of_find?_eq_some hother) (List.find?_some hfinding) (List.find?_some hother)
      rw [hfinding, hother] at hperm
      replace hperm : (view a :: (findings.eraseP expectation.accepts).map view).Perm
          (view b :: (others.eraseP expectation.accepts).map view) := hperm
      rw [hview] at hperm
      exact hperm.cons_inv

/-- Expectations have the same outcomes with findings that are viewed alike, and what they leave
is viewed alike. -/
theorem Blurs.settle (h : Blurs view findings others) (expectations : List Expectation) :
    (settle expectations findings).claimOutcomes = (settle expectations others).claimOutcomes ∧
      ((settle expectations findings).unclaimed.map view).Perm
        ((settle expectations others).unclaimed.map view) := by
  induction expectations generalizing findings others with
  | nil => exact ⟨rfl, h.perm⟩
  | cons expectation more ih =>
    obtain ⟨hsome, hleft⟩ := h.take expectation
    obtain ⟨houtcomes, hunclaimed⟩ := ih hleft
    refine ⟨?_, hunclaimed⟩
    show Outcome.ofExpectation expectation _ :: (Matching.settle more _).claimOutcomes =
      Outcome.ofExpectation expectation _ :: (Matching.settle more _).claimOutcomes
    rw [hsome, houtcomes]

theorem any_leftovers (matching : Matching α) :
    matching.leftovers.any (·.mustBeExpected) = matching.unclaimed.any Finding.mustBeExpected := by
  rw [leftovers, List.any_map]
  exact (perm_sortOn Finding.line matching.unclaimed).any_eq

end Matching

/-! ### Reordered diagnostics -/

/-- Of diagnostics that are alike in a file, all must be expected or none. -/
def Consistent (diagnostics : List Diagnostic) : Prop :=
  ∀ a ∈ diagnostics, ∀ b ∈ diagnostics, (a.file == b.file) = true → a.Alike b →
    Finding.mustBeExpected a = Finding.mustBeExpected b

variable {diagnostics reordered : List Diagnostic}

/-- A view that shows what facts compare, and shows what is alike in a file as equal, blurs the
order of the diagnostics. -/
theorem blurs_filter {β : Type} {view : Diagnostic → β} (h : diagnostics.Perm reordered)
    (hview : ∀ a b, view a = view b → a.line = b.line ∧ a.content = b.content)
    (halike : ∀ a ∈ diagnostics, ∀ b ∈ diagnostics, (a.file == b.file) = true → a.Alike b →
      view a = view b) (file : Path) :
    Matching.Blurs view (diagnostics.filter (Finding.file · == file))
      (reordered.filter (Finding.file · == file)) where
  perm := (h.filter _).map _
  accepts expectation a b hsame := by
    obtain ⟨hline, hcontent⟩ := hview a b hsame
    rw [Bool.eq_iff_iff, Diagnostic.accepts_iff, Diagnostic.accepts_iff, hline, hcontent]
  view_eq expectation a ha b hb hacceptsa hacceptsb := by
    obtain ⟨hamem, hafile⟩ := List.mem_filter.mp ha
    obtain ⟨hbmem, hbfile⟩ := List.mem_filter.mp hb
    exact halike a hamem b (h.mem_iff.mpr hbmem) (BEq.trans hafile (BEq.symm hbfile))
      (Diagnostic.alike_of_accepts hacceptsa hacceptsb)

theorem claimOutcomes_ofFile_perm (h : diagnostics.Perm reordered) (file : Path)
    (expectations : List Expectation) :
    (Matching.ofFile file expectations diagnostics).claimOutcomes =
      (Matching.ofFile file expectations reordered).claimOutcomes := by
  let view : Diagnostic → UInt32 × Option (String × List String) :=
    fun diagnostic => (diagnostic.line, diagnostic.content)
  have hblurs : Matching.Blurs view (diagnostics.filter (Finding.file · == file))
      (reordered.filter (Finding.file · == file)) := by
    refine blurs_filter h (fun a b hsame => Prod.mk.inj hsame) ?_ file
    intro a _ b _ _ halike
    exact Prod.ext halike.1 halike.content_eq
  exact (hblurs.settle _).1

theorem any_leftovers_ofFile_perm (h : diagnostics.Perm reordered)
    (hconsistent : Consistent diagnostics) (file : Path) (expectations : List Expectation) :
    (Matching.ofFile file expectations diagnostics).leftovers.any (·.mustBeExpected) =
      (Matching.ofFile file expectations reordered).leftovers.any (·.mustBeExpected) := by
  let view : Diagnostic → (UInt32 × Option (String × List String)) × Bool :=
    fun diagnostic => ((diagnostic.line, diagnostic.content), Finding.mustBeExpected diagnostic)
  have hblurs : Matching.Blurs view (diagnostics.filter (Finding.file · == file))
      (reordered.filter (Finding.file · == file)) := by
    refine blurs_filter h (fun a b hsame => Prod.mk.inj (Prod.mk.inj hsame).1) ?_ file
    intro a ha b hb hfile halike
    exact Prod.ext (Prod.ext halike.1 halike.content_eq) (hconsistent a ha b hb hfile halike)
  have hunclaimed := (hblurs.settle (expectations.filter (·.file == file))).2.any_eq (f := Prod.snd)
  rw [List.any_map, List.any_map] at hunclaimed
  rw [Matching.any_leftovers, Matching.any_leftovers]
  exact hunclaimed

/-- The order of the diagnostics has no influence on the outcomes of the expectations. -/
theorem filter_outcomes_matchFile_perm (h : diagnostics.Perm reordered) (file : Path)
    (expectations : List Expectation) :
    (matchFile file expectations diagnostics).outcomes.filter (!·.assertion.isWholeFile) =
      (matchFile file expectations reordered).outcomes.filter (!·.assertion.isWholeFile) := by
  rw [filter_outcomes_matchFile, filter_outcomes_matchFile, claimOutcomes_ofFile_perm h]

/-- The order of consistent diagnostics has no influence on anything but the leftovers. -/
theorem map_withoutLeftovers_matchFile_perm (h : diagnostics.Perm reordered)
    (hconsistent : Consistent diagnostics) (file : Path) (expectations : List Expectation) :
    (matchFile file expectations diagnostics).outcomes.map Outcome.withoutLeftovers =
      (matchFile file expectations reordered).outcomes.map Outcome.withoutLeftovers := by
  have hwhole : (Outcome.ofLeftovers file
      (Matching.ofFile file expectations diagnostics).leftovers).withoutLeftovers =
        (Outcome.ofLeftovers file
          (Matching.ofFile file expectations reordered).leftovers).withoutLeftovers := by
    rw [Outcome.ofLeftovers, Outcome.ofLeftovers,
      any_leftovers_ofFile_perm h hconsistent file expectations]
    rfl
  rw [outcomes_matchFile, outcomes_matchFile, List.map_append, List.map_append, List.map_singleton,
    List.map_singleton, claimOutcomes_ofFile_perm h, hwhole]

end FindingCheck
