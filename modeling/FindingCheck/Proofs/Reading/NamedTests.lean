import FindingCheck.Proofs.Reading.Attached
import FindingCheck.Proofs.Repetitions
import Mathlib.Data.List.Nodup
import Mathlib.Data.List.Pairwise

/-!
# Named tests

A run is a named test if one of its directives names it and another declares an expectation. A name
that several tests of a text bear is one defect, and it lists all of them.

## Main definitions

* `NamesTest` — a line that names the test of a line of code
* `namedTests` — the named tests of a text
* `Problem.sharedName?` — the name that several tests bear

## Main statements

* `mem_namedTests_iff` — the named tests, read off the lines
* `NamedTest.clashes_eq_nil_iff` — there is no defect exactly if the names differ
* `NamedTest.filter_clashes` — each name that several tests bear gives one defect
-/

namespace FindingCheck

/-! ### Tests by their lines -/

/-- A line names the test of a line of code: it is in the run of that line and names it, and the
run declares an expectation. -/
structure NamesTest (vocabulary : Vocabulary) (lines : List String) (code directive : Nat)
    (name : String) : Prop where
  isCode : code ∈ codeLines lines
  isAbove : IsAbove lines directive code
  namesRun : NamesRun vocabulary lines directive name
  expects : ∃ i, IsAbove lines i code ∧ Declares vocabulary lines i

/-- The named tests of a text, from the first line of code to the last. -/
def namedTests (vocabulary : Vocabulary) (lines : List String) : List NamedTest :=
  (codeLines lines).filterMap fun code => (decoratedAt vocabulary lines code).test?

variable {vocabulary : Vocabulary} {lines : List String}

theorem expectations_blockAbove_ne_nil_iff {below : Nat} :
    (blockAbove vocabulary lines below).expectations ≠ [] ↔
      ∃ i, IsAbove lines i below ∧ Declares vocabulary lines i := by
  rw [Ne, expectations_blockAbove_eq_nil_iff]
  simp only [not_forall, not_not, exists_prop]

theorem test?_decoratedAt_eq_some_iff {code : Nat} (hcode : code ∈ codeLines lines)
    {test : NamedTest} :
    (decoratedAt vocabulary lines code).test? = some test ↔
      ∃ directive, NamesTest vocabulary lines code directive test.name ∧
        test.directive = lineNumber directive ∧ test.decorated = lineNumber code := by
  have hexpects : (blockAbove vocabulary lines code).expectations ≠ [] ↔ _ :=
    expectations_blockAbove_ne_nil_iff
  show (if (blockAbove vocabulary lines code).expectations.isEmpty then none
    else (blockAbove vocabulary lines code).name.map fun name =>
      NamedTest.mk name.1 name.2.line (lineNumber code)) = some test ↔ _
  constructor
  · intro h
    split at h
    · cases h
    · next hne =>
      obtain ⟨⟨name, directive⟩, hname, rfl⟩ := Option.map_eq_some_iff.mp h
      obtain ⟨i, hi, hdirective, hnames⟩ := name_blockAbove_eq_some_iff.mp hname
      have hsome := hexpects.mp fun hnil => hne (List.isEmpty_iff.mpr hnil)
      exact ⟨i, ⟨hcode, hi, hnames, hsome⟩, (directiveAt?_eq_some_iff.mp hdirective).2, rfl⟩
  · rintro ⟨i, ⟨-, hi, hnames, hsome⟩, hline, hdecorated⟩
    obtain ⟨directive, hdirective⟩ := isSome_bodyAt?_iff.mp hi.isSome
    have hname := name_blockAbove_eq_some_iff.mpr ⟨i, hi, hdirective, hnames⟩
    rw [if_neg (mt List.isEmpty_iff.mp (hexpects.mpr hsome)), hname, Option.map_some,
      (directiveAt?_eq_some_iff.mp hdirective).2, ← hline, ← hdecorated]

theorem mem_namedTests_iff {test : NamedTest} :
    test ∈ namedTests vocabulary lines ↔
      ∃ code directive, NamesTest vocabulary lines code directive test.name ∧
        test.directive = lineNumber directive ∧ test.decorated = lineNumber code := by
  rw [namedTests, List.mem_filterMap]
  refine exists_congr fun code => ⟨fun ⟨hcode, htest⟩ => ?_, fun ⟨directive, htest⟩ => ?_⟩
  · exact (test?_decoratedAt_eq_some_iff hcode).mp htest
  · have hcode := htest.1.isCode
    exact ⟨hcode, (test?_decoratedAt_eq_some_iff hcode).mpr ⟨directive, htest⟩⟩

theorem pairwise_lt_codeLines (lines : List String) : (codeLines lines).Pairwise (· < ·) :=
  List.pairwise_lt_range.filter _

/-- The tests of a text bear different names exactly if no two lines of code have the same. -/
theorem nodup_names_iff :
    ((namedTests vocabulary lines).map NamedTest.name).Nodup ↔
      ∀ code directive code' directive' name, NamesTest vocabulary lines code directive name →
        NamesTest vocabulary lines code' directive' name → code = code' := by
  rw [List.Nodup, List.pairwise_map, namedTests, List.pairwise_filterMap]
  constructor
  · intro hpairwise code directive code' directive' name htest htest'
    by_contra hne
    have hsymm : Std.Symm fun a a' : Nat =>
        ∀ test, (decoratedAt vocabulary lines a).test? = some test →
          ∀ test', (decoratedAt vocabulary lines a').test? = some test' → test.name ≠ test'.name :=
      ⟨fun _ _ h test htest test' htest' => (h test' htest' test htest).symm⟩
    refine hpairwise.forall htest.isCode htest'.isCode hne
      ⟨name, lineNumber directive, lineNumber code⟩ ?_
      ⟨name, lineNumber directive', lineNumber code'⟩ ?_ rfl
    · exact (test?_decoratedAt_eq_some_iff htest.isCode).mpr ⟨directive, htest, rfl, rfl⟩
    · exact (test?_decoratedAt_eq_some_iff htest'.isCode).mpr ⟨directive', htest', rfl, rfl⟩
  · intro hunique
    refine (pairwise_lt_codeLines lines).imp_of_mem ?_
    intro code code' hcode hcode' hlt test htest test' htest' heq
    obtain ⟨directive, hnames, -⟩ := (test?_decoratedAt_eq_some_iff hcode).mp htest
    obtain ⟨directive', hnames', -⟩ := (test?_decoratedAt_eq_some_iff hcode').mp htest'
    rw [← heq] at hnames'
    exact Nat.ne_of_lt hlt (hunique _ _ _ _ _ hnames hnames')

/-! ### Names that several tests bear -/

/-- The name that several tests bear, if that is the problem. -/
def Problem.sharedName? : Problem → Option String
  | nameNotUnique name _ => some name
  | _ => none

namespace NamedTest

theorem clash?_eq_some_iff {file : Path} {tests : List NamedTest} {name : String}
    {defect : Defect} :
    clash? file tests name = some defect ↔
      2 ≤ (tests.filter (·.name == name)).length ∧
        ∃ first, (tests.filter (·.name == name)).head? = some first ∧
          defect = ⟨file, first.directive, testNameMark ++ name,
            .nameNotUnique name ((tests.filter (·.name == name)).map decorated)⟩ := by
  rw [clash?]
  generalize tests.filter (·.name == name) = bearers
  rcases bearers with _ | ⟨first, _ | ⟨second, more⟩⟩
  · simp
  · simp
  · simp [eq_comm]

theorem clash?_eq_none_iff {file : Path} {tests : List NamedTest} {name : String} :
    clash? file tests name = none ↔ (tests.filter (·.name == name)).length ≤ 1 := by
  rw [clash?]
  generalize tests.filter (·.name == name) = bearers
  rcases bearers with _ | ⟨first, _ | ⟨second, more⟩⟩
  · simp
  · simp
  · simp

theorem mem_distinctNames_iff {tests : List NamedTest} {name : String} :
    name ∈ distinctNames tests ↔ name ∈ tests.map NamedTest.name := by
  rw [distinctNames, List.mem_mergeSort, List.mem_eraseDups]

theorem nodup_distinctNames (tests : List NamedTest) : (distinctNames tests).Nodup :=
  (List.mergeSort_perm _ _).nodup_iff.mpr (nodup_eraseDups _)

theorem length_filter_name (tests : List NamedTest) (name : String) :
    (tests.filter (·.name == name)).length = (tests.map NamedTest.name).count name := by
  rw [List.count, List.countP_map, List.countP_eq_length_filter]
  rfl

/-- A name that no test bears is no defect. -/
theorem clash?_of_not_mem {file : Path} {tests : List NamedTest} {name : String}
    (h : name ∉ distinctNames tests) : clash? file tests name = none := by
  rw [mem_distinctNames_iff, ← List.count_eq_zero, ← length_filter_name] at h
  rw [clash?_eq_none_iff, h]
  exact Nat.zero_le 1

theorem mem_distinctNames_of_clash? {file : Path} {tests : List NamedTest} {name : String}
    {defect : Defect} (h : clash? file tests name = some defect) : name ∈ distinctNames tests := by
  by_contra hnone
  rw [clash?_of_not_mem hnone] at h
  cases h

/-- There is no defect exactly if the tests bear different names. -/
theorem clashes_eq_nil_iff {file : Path} {tests : List NamedTest} :
    clashes file tests = [] ↔ (tests.map NamedTest.name).Nodup := by
  rw [clashes, List.filterMap_eq_nil_iff, List.nodup_iff_count_le_one]
  simp only [← length_filter_name, ← @clash?_eq_none_iff file]
  refine forall_congr' fun name => ⟨fun h => ?_, fun h _ => h⟩
  by_cases hmem : name ∈ distinctNames tests
  · exact h hmem
  · exact clash?_of_not_mem hmem

theorem sharedName?_clash? {file : Path} {tests : List NamedTest} {name : String} {defect : Defect}
    (h : clash? file tests name = some defect) : defect.problem.sharedName? = some name := by
  obtain ⟨-, first, -, rfl⟩ := clash?_eq_some_iff.mp h
  rfl

/-- Each name that several tests bear gives exactly one defect, and no other name gives one. -/
theorem filter_clashes (file : Path) (tests : List NamedTest) (name : String) :
    (clashes file tests).filter (·.problem.sharedName? == some name) =
      (clash? file tests name).toList := by
  have hkey (other : String) :
      (clash? file tests other).filter (·.problem.sharedName? == some name) =
        if other = name then clash? file tests name else none := by
    cases hclash : clash? file tests other with
    | none =>
      split
      · next heq => rw [← heq, hclash, Option.filter_none]
      · exact Option.filter_none _
    | some defect =>
      rw [Option.filter_some, sharedName?_clash? hclash]
      by_cases heq : other = name
      · simp [heq, ← hclash]
      · simp [heq]
  rw [clashes, List.filter_filterMap]
  simp only [hkey]
  by_cases hmem : name ∈ distinctNames tests
  · obtain ⟨before, after, hsplit⟩ := List.append_of_mem hmem
    have hnodup := nodup_distinctNames tests
    rw [hsplit, List.nodup_middle, List.nodup_cons, List.mem_append, not_or] at hnodup
    obtain ⟨⟨hbefore, hafter⟩, -⟩ := hnodup
    have hnone {others : List String} (h : name ∉ others) :
        others.filterMap (fun other => if other = name then clash? file tests name else none) =
          [] := by
      refine List.filterMap_eq_nil_iff.mpr fun other hother => if_neg ?_
      exact fun heq => h (heq ▸ hother)
    rw [hsplit, List.filterMap_append, List.filterMap_cons, hnone hbefore, hnone hafter, if_pos rfl]
    cases clash? file tests name <;> rfl
  · rw [clash?_of_not_mem hmem]
    simp

end NamedTest

end FindingCheck
