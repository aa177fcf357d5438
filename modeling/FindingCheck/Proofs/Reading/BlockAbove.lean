import FindingCheck.Proofs.Reading.Meanings
import FindingCheck.Proofs.Reading.Runs

/-!
# What stands above a line

Reading takes the directives of a run one after the other. What it has understood in front of a line
is the block of the directives directly above that line: the next directive adds to it, and code
starts anew. So every part of a block is known from the lines above.

## Main definitions

* `blockAbove` — what the directives directly above a line say
* `Declares`, `testNameAt?` — a line that declares an expectation, the name that a line gives
* `NamesRun` — a line whose name is the name of its run
* `Block.fault?`, `faultAt?` — what is wrong with a directive behind others
* `Block.Adds` — what a directive adds to a block

## Main statements

* `blockAbove_succ_of_some`, `blockAbove_succ_of_none` — one line further down
* `Block.adds_add` — what becomes of a block when a directive is taken
* `expectations_blockAbove`, `name_blockAbove_eq_some_iff`, `mem_faults_blockAbove_iff` — the parts
  of a block, read off the lines
-/

namespace FindingCheck

variable {vocabulary : Vocabulary} {lines : List String}

/-- What the directives directly above a line say together. -/
def blockAbove (vocabulary : Vocabulary) (lines : List String) (below : Nat) : Block :=
  .ofDirectives vocabulary (directivesAbove lines below)

/-- Behind code, nothing has been said yet. -/
theorem blockAbove_succ_of_none {below : Nat} (h : directiveAt? lines below = none) :
    blockAbove vocabulary lines (below + 1) = {} := by
  rw [blockAbove, directivesAbove_succ_of_none h]
  rfl

/-- Behind a directive, it has been added. -/
theorem blockAbove_succ_of_some {below : Nat} {directive : Directive}
    (h : directiveAt? lines below = some directive) :
    blockAbove vocabulary lines (below + 1) =
      (blockAbove vocabulary lines below).add vocabulary directive := by
  rw [blockAbove, directivesAbove_succ_of_some h, Block.ofDirectives, List.foldl_concat]
  rfl

/-! ### Lines that declare or name something -/

/-- The name that a body gives, if a test can have it. -/
def testName? (body : String) : Option String :=
  if IsNaming body ∧ isTestName (givenName body) then some (givenName body) else none

/-- The name that the directive in a line gives, if a test can have it. -/
def testNameAt? (lines : List String) (index : Nat) : Option String :=
  (bodyAt? lines index).bind testName?

/-- The directive in a line declares an expectation. -/
def Declares (vocabulary : Vocabulary) (lines : List String) (index : Nat) : Prop :=
  ∃ body fact, bodyAt? lines index = some body ∧ vocabulary.expected? body = some fact

/-- The line gives its run the name: a test can have it, and above it in the run no expectation
is declared and no other such name is given. -/
structure NamesRun (vocabulary : Vocabulary) (lines : List String) (index : Nat) (name : String) :
    Prop where
  gives : testNameAt? lines index = some name
  first : ∀ i, IsAbove lines i index → ¬Declares vocabulary lines i ∧ testNameAt? lines i = none

theorem directiveAt?_eq_some_iff {index : Nat} {directive : Directive} :
    directiveAt? lines index = some directive ↔
      bodyAt? lines index = some directive.body ∧ directive.line = lineNumber index := by
  rw [directiveAt?, Option.map_eq_some_iff]
  constructor
  · rintro ⟨body, hbody, rfl⟩
    exact ⟨hbody, rfl⟩
  · rintro ⟨hbody, hline⟩
    exact ⟨directive.body, hbody, by rw [← hline]⟩

theorem testNameAt?_of_directiveAt? {index : Nat} {directive : Directive}
    (h : directiveAt? lines index = some directive) :
    testNameAt? lines index = testName? directive.body := by
  rw [testNameAt?, (directiveAt?_eq_some_iff.mp h).1]
  rfl

theorem declares_iff_of_directiveAt? {index : Nat} {directive : Directive}
    (h : directiveAt? lines index = some directive) :
    Declares vocabulary lines index ↔ (vocabulary.expected? directive.body).isSome := by
  rw [Declares, (directiveAt?_eq_some_iff.mp h).1, Option.isSome_iff_exists]
  simp

theorem testNameAt?_eq_some_iff {index : Nat} {name : String} :
    testNameAt? lines index = some name ↔
      ∃ body, bodyAt? lines index = some body ∧ IsNaming body ∧ givenName body = name ∧
        isTestName name = true := by
  rw [testNameAt?, Option.bind_eq_some_iff]
  refine exists_congr fun body => and_congr_right fun _ => ?_
  rw [testName?, Option.ite_none_right_eq_some, Option.some.injEq]
  constructor
  · rintro ⟨⟨hnaming, hvalid⟩, rfl⟩
    exact ⟨hnaming, rfl, hvalid⟩
  · rintro ⟨hnaming, rfl, hvalid⟩
    exact ⟨⟨hnaming, hvalid⟩, rfl⟩

/-! ### Expectations -/

/-- The expectations above a line are those that the lines declare, in order. -/
theorem expectations_blockAbove (vocabulary : Vocabulary) (lines : List String) (below : Nat) :
    (blockAbove vocabulary lines below).expectations =
      (linesAbove lines below).filterMap fun index =>
        (bodyAt? lines index).bind fun body => (vocabulary.expected? body).map (body, ·) := by
  rw [blockAbove, Block.expectations_ofDirectives, directivesAbove, List.filterMap_filterMap]
  refine congrArg (List.filterMap · _) (funext fun index => ?_)
  cases hbody : bodyAt? lines index with
  | none => simp [directiveAt?, hbody]
  | some body => simp [directiveAt?, hbody, Vocabulary.declared?_eq]

theorem expectations_blockAbove_eq_nil_iff {below : Nat} :
    (blockAbove vocabulary lines below).expectations = [] ↔
      ∀ i, IsAbove lines i below → ¬Declares vocabulary lines i := by
  rw [expectations_blockAbove, List.filterMap_eq_nil_iff]
  refine forall_congr' fun i => imp_congr mem_linesAbove_iff ?_
  cases hbody : bodyAt? lines i with
  | none => simp [Declares, hbody]
  | some body => simp [Declares, hbody, Option.eq_none_iff_forall_ne_some]

/-! ### One directive more -/

namespace Block

/-- What is wrong with a directive that comes after what has been said. -/
def fault? (vocabulary : Vocabulary) (block : Block) (directive : Directive) : Option Problem :=
  match vocabulary.meaning directive.body with
  | .expectation _ => none
  | .unknown => some .unrecognized
  | .testName name =>
    if !block.expectations.isEmpty then some .nameAfterExpectation
    else if block.name.isSome then some .nameAlreadySet
    else if !isTestName name then some .invalidName
    else none

/-- What becomes of a block when a directive is taken. -/
inductive Adds (vocabulary : Vocabulary) (block : Block) (directive : Directive) : Block → Prop
  /-- The directive is at fault. It declares nothing, and if nothing has been said, it gives no name
  that a test can have. -/
  | fault {problem : Problem} (hfault : block.fault? vocabulary directive = some problem)
      (hsilent : vocabulary.expected? directive.body = none)
      (hnameless : block.isEmpty = true → testName? directive.body = none) :
      Adds vocabulary block directive (block.fault directive problem)
  /-- It declares an expectation. -/
  | expectation {fact : Fact} (hfault : block.fault? vocabulary directive = none)
      (hfact : vocabulary.expected? directive.body = some fact)
      (hnameless : testName? directive.body = none) :
      Adds vocabulary block directive
        { block with expectations := block.expectations ++ [(directive.body, fact)] }
  /-- Nothing has been said, and it gives the name. -/
  | name {name : String} (hfault : block.fault? vocabulary directive = none)
      (hempty : block.isEmpty = true) (hsilent : vocabulary.expected? directive.body = none)
      (hname : testName? directive.body = some name) :
      Adds vocabulary block directive { block with name := some (name, directive) }

/-- Taking a directive does one of these. -/
theorem adds_add (vocabulary : Vocabulary) (block : Block) (directive : Directive) :
    block.Adds vocabulary directive (block.add vocabulary directive) := by
  have hadd := add.eq_def vocabulary block directive
  have hfault := fault?.eq_def vocabulary block directive
  rw [Vocabulary.meaning_eq] at hadd hfault
  by_cases hnaming : IsNaming directive.body
  · have hsilent : vocabulary.expected? directive.body = none := if_pos hnaming
    rw [if_pos hnaming] at hadd hfault
    dsimp only at hadd hfault
    split at hadd
    · next hexpectations =>
      rw [if_pos hexpectations] at hfault
      rw [hadd]
      refine .fault hfault hsilent fun hempty => ?_
      rw [isEmpty, Bool.and_eq_true] at hempty
      rw [hempty.2] at hexpectations
      cases hexpectations
    · next hexpectations =>
      rw [if_neg hexpectations] at hfault
      split at hadd
      · next hset =>
        rw [if_pos hset] at hfault
        rw [hadd]
        refine .fault hfault hsilent fun hempty => ?_
        rw [isEmpty, Bool.and_eq_true, Option.isNone_iff_eq_none] at hempty
        rw [hempty.1] at hset
        cases hset
      · next hunset =>
        rw [if_neg hunset] at hfault
        split at hadd
        · next hinvalid =>
          rw [if_pos hinvalid] at hfault
          rw [hadd]
          exact .fault hfault hsilent fun _ => if_neg fun h => by simp [h.2] at hinvalid
        · next hvalid =>
          rw [if_neg hvalid] at hfault
          rw [hadd]
          refine .name hfault ?_ hsilent (if_pos ⟨hnaming, by simpa using hvalid⟩)
          simpa [isEmpty] using And.intro hunset hexpectations
  · have hexpected : vocabulary.expected? directive.body = vocabulary.read? directive.body :=
      if_neg hnaming
    have hnameless : testName? directive.body = none := if_neg fun h => hnaming h.1
    rw [if_neg hnaming] at hadd hfault
    cases hread : vocabulary.read? directive.body with
    | none =>
      rw [hread] at hadd hfault hexpected
      rw [hadd]
      exact .fault hfault hexpected fun _ => hnameless
    | some fact =>
      rw [hread] at hadd hfault hexpected
      rw [hadd]
      exact .expectation hfault hexpected hnameless

namespace Adds

variable {block next : Block} {directive : Directive}

/-- The first that is said decides whether there is a name. -/
theorem name_eq (h : block.Adds vocabulary directive next) :
    next.name =
      if block.isEmpty then (testName? directive.body).map (·, directive) else block.name := by
  have hunset (hempty : block.isEmpty = true) : block.name = none := by
    rw [isEmpty, Bool.and_eq_true, Option.isNone_iff_eq_none] at hempty
    exact hempty.1
  cases h with
  | fault hfault hsilent hnameless =>
    split
    · next hempty => exact (hunset hempty).trans (by rw [hnameless hempty]; rfl)
    · rfl
  | expectation hfault hfact hnameless =>
    split
    · next hempty => exact (hunset hempty).trans (by rw [hnameless]; rfl)
    · rfl
  | name hfault hempty hsilent hname =>
    rw [if_pos hempty, hname]
    rfl

/-- Nothing has been said as long as no expectation is declared and no name is given. -/
theorem isEmpty_eq (h : block.Adds vocabulary directive next) :
    next.isEmpty = (block.isEmpty && (vocabulary.expected? directive.body).isNone &&
      (testName? directive.body).isNone) := by
  cases h with
  | fault hfault hsilent hnameless =>
    show block.isEmpty = _
    cases hempty : block.isEmpty with
    | false => rfl
    | true =>
      rw [hsilent, hnameless hempty]
      rfl
  | expectation hfault hfact hnameless => simp [isEmpty, hfact]
  | name hfault hempty hsilent hname => simp [isEmpty, hname]

theorem faults_eq (h : block.Adds vocabulary directive next) :
    next.faults =
      block.faults ++ ((block.fault? vocabulary directive).map (directive, ·)).toList := by
  cases h with
  | fault hfault hsilent hnameless =>
    rw [hfault]
    rfl
  | expectation hfault hfact hnameless =>
    rw [hfault]
    exact (List.append_nil _).symm
  | name hfault hempty hsilent hname =>
    rw [hfault]
    exact (List.append_nil _).symm

end Adds

end Block

/-! ### The name -/

theorem isEmpty_blockAbove_iff {below : Nat} :
    (blockAbove vocabulary lines below).isEmpty = true ↔
      ∀ i, IsAbove lines i below → ¬Declares vocabulary lines i ∧ testNameAt? lines i = none := by
  induction below with
  | zero => exact iff_of_true rfl fun i hi => absurd hi (not_isAbove_zero i)
  | succ below ih =>
    cases hlast : directiveAt? lines below with
    | none =>
      rw [blockAbove_succ_of_none hlast]
      exact iff_of_true rfl fun i hi => absurd hi (not_isAbove_succ hlast i)
    | some last =>
      rw [blockAbove_succ_of_some hlast, (Block.adds_add ..).isEmpty_eq,
        forall_isAbove_succ_iff hlast, ← ih, declares_iff_of_directiveAt? hlast,
        testNameAt?_of_directiveAt? hlast]
      simp [and_comm, and_left_comm]

/-- The name above a line is that of the line that names its run. -/
theorem name_blockAbove_eq_some_iff {below : Nat} {name : String} {directive : Directive} :
    (blockAbove vocabulary lines below).name = some (name, directive) ↔
      ∃ i, IsAbove lines i below ∧ directiveAt? lines i = some directive ∧
        NamesRun vocabulary lines i name := by
  induction below with
  | zero => exact iff_of_false nofun fun ⟨i, hi, _⟩ => not_isAbove_zero i hi
  | succ below ih =>
    cases hlast : directiveAt? lines below with
    | none =>
      rw [blockAbove_succ_of_none hlast]
      exact iff_of_false nofun fun ⟨i, hi, _⟩ => not_isAbove_succ hlast i hi
    | some last =>
      rw [blockAbove_succ_of_some hlast, (Block.adds_add ..).name_eq,
        ← testNameAt?_of_directiveAt? hlast, exists_isAbove_succ_iff hlast, ← ih]
      by_cases hempty : (blockAbove vocabulary lines below).isEmpty = true
      · -- nothing has been said above, so the name can only be given here
        have hnothing := isEmpty_blockAbove_iff.mp hempty
        have hname : (blockAbove vocabulary lines below).name ≠ some (name, directive) := by
          rw [Block.isEmpty, Bool.and_eq_true, Option.isNone_iff_eq_none] at hempty
          rw [hempty.1]
          exact nofun
        rw [if_pos hempty, or_iff_left hname, Option.map_eq_some_iff]
        constructor
        · rintro ⟨_, hgives, heq⟩
          obtain ⟨rfl, rfl⟩ := Prod.mk.inj heq
          exact ⟨hlast, hgives, hnothing⟩
        · rintro ⟨hdirective, hnames⟩
          exact ⟨name, hnames.gives, by rw [Option.some.inj (hlast.symm.trans hdirective)]⟩
      · rw [if_neg hempty]
        refine (or_iff_right fun hnames => hempty ?_).symm
        exact isEmpty_blockAbove_iff.mpr hnames.2.first

/-! ### Faults -/

theorem Block.fault?_eq_none_iff {block : Block} {directive : Directive} :
    block.fault? vocabulary directive = none ↔
      if IsNaming directive.body then
        block.isEmpty = true ∧ isTestName (givenName directive.body) = true
      else vocabulary.read? directive.body ≠ none := by
  rw [Block.fault?, Vocabulary.meaning_eq]
  by_cases hnaming : IsNaming directive.body
  · rw [if_pos hnaming, if_pos hnaming, Block.isEmpty]
    cases block.name <;> cases block.expectations <;> simp
  · rw [if_neg hnaming, if_neg hnaming]
    cases vocabulary.read? directive.body <;> simp

/-- What is wrong with a directive is one of four things. -/
theorem Block.of_fault?_eq_some {block : Block} {directive : Directive} {problem : Problem}
    (h : block.fault? vocabulary directive = some problem) :
    (¬IsNaming directive.body ∧ vocabulary.read? directive.body = none ∧
        problem = .unrecognized) ∨
      IsNaming directive.body ∧
        ((block.expectations ≠ [] ∧ problem = .nameAfterExpectation) ∨
          (block.name ≠ none ∧ problem = .nameAlreadySet) ∨
          isTestName (givenName directive.body) = false ∧ problem = .invalidName) := by
  rw [Block.fault?, Vocabulary.meaning_eq] at h
  by_cases hnaming : IsNaming directive.body
  · rw [if_pos hnaming] at h
    dsimp only at h
    refine .inr ⟨hnaming, ?_⟩
    split at h
    · next hexpectations =>
      exact .inl ⟨by simpa using hexpectations, (Option.some.inj h).symm⟩
    · split at h
      · next hset =>
        exact .inr (.inl ⟨Option.isSome_iff_ne_none.mp hset, (Option.some.inj h).symm⟩)
      · split at h
        · next hinvalid =>
          exact .inr (.inr ⟨by simpa using hinvalid, (Option.some.inj h).symm⟩)
        · cases h
  · rw [if_neg hnaming] at h
    cases hread : vocabulary.read? directive.body with
    | some fact =>
      rw [hread] at h
      cases h
    | none =>
      rw [hread] at h
      exact .inl ⟨hnaming, rfl, (Option.some.inj h).symm⟩

/-- What is wrong with the directive in a line, behind what stands above it in its run. -/
def faultAt? (vocabulary : Vocabulary) (lines : List String) (index : Nat) : Option Problem :=
  (directiveAt? lines index).bind ((blockAbove vocabulary lines index).fault? vocabulary)

/-- A directive that names a test is in order if no expectation and no name stands above it and
the test can have the name; any other directive is if it says something. -/
theorem faultAt?_eq_none_iff {index : Nat} {body : String}
    (hbody : bodyAt? lines index = some body) :
    faultAt? vocabulary lines index = none ↔
      if IsNaming body then
        (∀ i, IsAbove lines i index → ¬Declares vocabulary lines i ∧ testNameAt? lines i = none) ∧
          isTestName (givenName body) = true
      else vocabulary.read? body ≠ none := by
  have hdirective : directiveAt? lines index = some ⟨lineNumber index, body⟩ :=
    directiveAt?_eq_some_iff.mpr ⟨hbody, rfl⟩
  rw [faultAt?, hdirective, Option.bind_some, Block.fault?_eq_none_iff, ← isEmpty_blockAbove_iff]

/-- The faults above a line are those of the lines. -/
theorem mem_faults_blockAbove_iff {below : Nat} {directive : Directive} {problem : Problem} :
    (directive, problem) ∈ (blockAbove vocabulary lines below).faults ↔
      ∃ i, IsAbove lines i below ∧ directiveAt? lines i = some directive ∧
        faultAt? vocabulary lines i = some problem := by
  induction below with
  | zero => exact iff_of_false List.not_mem_nil fun ⟨i, hi, _⟩ => not_isAbove_zero i hi
  | succ below ih =>
    cases hlast : directiveAt? lines below with
    | none =>
      rw [blockAbove_succ_of_none hlast]
      exact iff_of_false List.not_mem_nil fun ⟨i, hi, _⟩ => not_isAbove_succ hlast i hi
    | some last =>
      have hfault : faultAt? vocabulary lines below =
          (blockAbove vocabulary lines below).fault? vocabulary last := by
        rw [faultAt?, hlast]
        rfl
      rw [blockAbove_succ_of_some hlast, (Block.adds_add ..).faults_eq, ← hfault, List.mem_append,
        ih, or_comm, exists_isAbove_succ_iff hlast, hlast]
      refine or_congr_left ?_
      simp [and_comm]

end FindingCheck
