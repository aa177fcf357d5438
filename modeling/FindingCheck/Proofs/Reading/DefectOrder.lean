import FindingCheck.Proofs.Reading.DefectPlaces

/-!
# The order of defects

Defects are reported in the order in which they are found, and a defect may be found far behind the
line where it stands: that a name names no expectation shows at the line of code, and that several
tests bear a name shows at the end of the text. So the lines of the defects need not ascend, and it
can be told from the text whether they do.

## Main definitions

* `NamesNothing` — a line that names a run without expectations
* `IsWrong` — a line with a defect that is found before the end of the text
* `NamesSeveral` — a line that names the first of several tests
* `InSourceOrder` — the lines of defects ascend

## Main statements

* `inSourceOrder_faults` — the faults of directives are found in the order of the lines
* `inSourceOrder_decoratedAt_iff`, `inSourceOrder_clashes_iff` — the defects of one run, and those
  that show at the end
* `inSourceOrder_readAnnotations_iff` — when the lines of all the defects ascend
-/

namespace FindingCheck

/-! ### Lines where something is wrong -/

/-- The line names the run above a line of code, and nothing in the run declares an
expectation. -/
structure NamesNothing (vocabulary : Vocabulary) (lines : List String) (code index : Nat) :
    Prop where
  isCode : code ∈ codeLines lines
  isAbove : IsAbove lines index code
  namesRun : ∃ name, NamesRun vocabulary lines index name
  bare : ∀ i, IsAbove lines i code → ¬Declares vocabulary lines i

/-- The directive in the line is at fault, or it names nothing. -/
def IsWrong (vocabulary : Vocabulary) (lines : List String) (index : Nat) : Prop :=
  faultAt? vocabulary lines index ≠ none ∨ ∃ code, NamesNothing vocabulary lines code index

/-- The line names the test of a line of code, and tests below it, but none above it, bear the
same name. -/
structure NamesSeveral (vocabulary : Vocabulary) (lines : List String) (code index : Nat)
    (name : String) : Prop where
  namesTest : NamesTest vocabulary lines code index name
  first : ∀ code' index', NamesTest vocabulary lines code' index' name → code ≤ code'
  several : ∃ code' index', NamesTest vocabulary lines code' index' name ∧ code < code'

/-- The lines of the defects ascend. -/
def InSourceOrder (defects : List Defect) : Prop :=
  defects.Pairwise fun first second => first.line ≤ second.line

variable {vocabulary : Vocabulary} {lines : List String} {file : Path}

theorem lineNumber_le_lineNumber {i j : Nat} (h : i ≤ j) : lineNumber i ≤ lineNumber j := by
  rw [UInt32.le_iff_toNat_le, toNat_lineNumber, toNat_lineNumber]
  omega

/-! ### The defects of one run -/

/-- A fault above a line is in a line above it, and there something is wrong. -/
theorem exists_line_of_mem_faults {below : Nat} {defect : Defect}
    (h : defect ∈ (blockAbove vocabulary lines below).faults.map (Defect.ofFault file)) :
    ∃ i, IsAbove lines i below ∧ IsWrong vocabulary lines i ∧ defect.line = lineNumber i := by
  obtain ⟨i, body, problem, hi, -, hproblem, rfl⟩ := mem_map_ofFault_iff.mp h
  exact ⟨i, hi, .inl (by rw [hproblem]; nofun), rfl⟩

/-- The faults of directives are found in the order of the lines. -/
theorem inSourceOrder_faults (vocabulary : Vocabulary) (lines : List String) (file : Path)
    (below : Nat) :
    InSourceOrder ((blockAbove vocabulary lines below).faults.map (Defect.ofFault file)) := by
  induction below with
  | zero => exact .nil
  | succ below ih =>
    cases hlast : directiveAt? lines below with
    | none =>
      rw [blockAbove_succ_of_none hlast]
      exact .nil
    | some last =>
      rw [blockAbove_succ_of_some hlast, (Block.adds_add ..).faults_eq, List.map_append,
        InSourceOrder, List.pairwise_append]
      refine ⟨ih, ?_, fun first hfirst second hsecond => ?_⟩
      · cases (blockAbove vocabulary lines below).fault? vocabulary last <;> simp
      · -- the new fault is in the last of the lines
        obtain ⟨i, hi, -, hline⟩ := exists_line_of_mem_faults hfirst
        obtain ⟨fault, hfault, rfl⟩ := List.mem_map.mp hsecond
        obtain ⟨problem, -, rfl⟩ := Option.map_eq_some_iff.mp (Option.mem_toList.mp hfault)
        rw [hline, Defect.ofFault, (directiveAt?_eq_some_iff.mp hlast).2]
        exact lineNumber_le_lineNumber (Nat.le_of_lt hi.1)

/-- Behind a name that names nothing, every directive of the run is at fault. -/
theorem NamesNothing.faultAt?_ne_none {code index i : Nat}
    (h : NamesNothing vocabulary lines code index) (hbehind : index < i)
    (habove : IsAbove lines i code) : faultAt? vocabulary lines i ≠ none := by
  obtain ⟨name, hnames⟩ := h.namesRun
  obtain ⟨body, hbody⟩ := Option.isSome_iff_exists.mp habove.isSome
  rw [Ne, faultAt?_eq_none_iff hbody]
  split
  · -- the run has a name already
    rintro ⟨hnothing, -⟩
    have hbetween : IsAbove lines index i :=
      ⟨hbehind, fun j hj hji => h.isAbove.2 j hj (Nat.lt_trans hji habove.1)⟩
    have hnone := (hnothing index hbetween).2
    rw [hnames.gives] at hnone
    cases hnone
  · next hnaming =>
    intro hread
    obtain ⟨fact, hfact⟩ := Option.ne_none_iff_exists'.mp hread
    exact h.bare i habove (declares_of_read? hbody hnaming hfact)

/-- A run is named by one line, so one line at most names nothing. -/
theorem NamesNothing.index_unique {code index index' : Nat}
    (h : NamesNothing vocabulary lines code index)
    (h' : NamesNothing vocabulary lines code index') : index = index' := by
  have hfirst {i j : Nat} (hi : NamesNothing vocabulary lines code i)
      (hj : NamesNothing vocabulary lines code j) : ¬i < j := by
    intro hlt
    obtain ⟨name, hnames⟩ := hi.namesRun
    obtain ⟨name', hnames'⟩ := hj.namesRun
    have hbetween : IsAbove lines i j :=
      ⟨hlt, fun k hk hkj => hi.isAbove.2 k hk (Nat.lt_trans hkj hj.isAbove.1)⟩
    have hnone := (hnames'.first i hbetween).2
    rw [hnames.gives] at hnone
    cases hnone
  exact Nat.le_antisymm (Nat.le_of_not_lt (hfirst h' h)) (Nat.le_of_not_lt (hfirst h h'))

/-- A run without a name or with an expectation has no defects but its faults. -/
theorem DecoratedBlock.defects_eq_faults {block : DecoratedBlock} (file : Path)
    (h : block.name = none ∨ block.expectations ≠ []) :
    block.defects file = block.faults.map (Defect.ofFault file) := by
  rw [defects, List.append_right_eq_self]
  rcases h with hname | hexpectations
  · rw [hname]
  · split
    · rw [if_neg (mt List.isEmpty_iff.mp hexpectations)]
    · rfl

theorem DecoratedBlock.defects_of_name {block : DecoratedBlock} {name : String}
    {directive : Directive} (file : Path) (hname : block.name = some (name, directive))
    (hbare : block.expectations = []) :
    block.defects file = block.faults.map (Defect.ofFault file) ++
      [⟨file, directive.line, testNameMark ++ name, .noExpectations⟩] := by
  rw [defects, hname, hbare]
  rfl

/-- The defects of a run are its faults and then the name, if it names nothing. -/
theorem defects_decoratedAt (vocabulary : Vocabulary) (file : Path) {code : Nat}
    (hcode : code ∈ codeLines lines) :
    (∃ index name, NamesNothing vocabulary lines code index ∧
      (decoratedAt vocabulary lines code).defects file =
        (blockAbove vocabulary lines code).faults.map (Defect.ofFault file) ++
          [⟨file, lineNumber index, testNameMark ++ name, .noExpectations⟩]) ∨
    (∀ index, ¬NamesNothing vocabulary lines code index) ∧
      (decoratedAt vocabulary lines code).defects file =
        (blockAbove vocabulary lines code).faults.map (Defect.ofFault file) := by
  by_cases hbare : (blockAbove vocabulary lines code).expectations = []
  · have hsilent := expectations_blockAbove_eq_nil_iff.mp hbare
    cases hname : (blockAbove vocabulary lines code).name with
    | none =>
      refine .inr ⟨fun index h => ?_, DecoratedBlock.defects_eq_faults file (.inl hname)⟩
      obtain ⟨name, hnames⟩ := h.namesRun
      obtain ⟨directive, hdirective⟩ := isSome_bodyAt?_iff.mp h.isAbove.isSome
      rw [name_blockAbove_eq_some_iff.mpr ⟨index, h.isAbove, hdirective, hnames⟩] at hname
      cases hname
    | some given =>
      obtain ⟨name, directive⟩ := given
      obtain ⟨index, habove, hdirective, hnames⟩ := name_blockAbove_eq_some_iff.mp hname
      refine .inl ⟨index, name, ⟨hcode, habove, ⟨name, hnames⟩, hsilent⟩, ?_⟩
      rw [← (directiveAt?_eq_some_iff.mp hdirective).2]
      exact DecoratedBlock.defects_of_name file hname hbare
  · exact .inr ⟨fun index h => hbare (expectations_blockAbove_eq_nil_iff.mpr h.bare),
      DecoratedBlock.defects_eq_faults file (.inr hbare)⟩

/-- The lines of the defects of one run ascend exactly if a name that names nothing is given in
the last line of the run. -/
theorem inSourceOrder_decoratedAt_iff {code : Nat} (hcode : code ∈ codeLines lines) :
    InSourceOrder ((decoratedAt vocabulary lines code).defects file) ↔
      ∀ index, NamesNothing vocabulary lines code index →
        lineNumber (code - 1) ≤ lineNumber index := by
  have hfaults := inSourceOrder_faults vocabulary lines file code
  rcases defects_decoratedAt vocabulary file hcode with
    ⟨index, name, hnothing, hdefects⟩ | ⟨hnone, hdefects⟩
  · have habove := hnothing.isAbove.1
    rw [hdefects, InSourceOrder, List.pairwise_append]
    constructor
    · rintro ⟨-, -, hbefore⟩ index' hnothing'
      obtain rfl := hnothing.index_unique hnothing'
      rcases Nat.eq_or_lt_of_le (Nat.le_sub_one_of_lt habove) with heq | hlt
      · exact lineNumber_le_lineNumber (Nat.le_of_eq heq.symm)
      · -- the last directive of the run is at fault
        have hlast : IsAbove lines (code - 1) code :=
          ⟨by omega, fun i hi hbelow => hnothing.isAbove.2 i (by omega) hbelow⟩
        obtain ⟨body, hbody⟩ := Option.isSome_iff_exists.mp hlast.isSome
        obtain ⟨problem, hproblem⟩ :=
          Option.ne_none_iff_exists'.mp (hnothing.faultAt?_ne_none hlt hlast)
        exact hbefore _ (mem_map_ofFault_iff.mpr ⟨_, body, problem, hlast, hbody, hproblem, rfl⟩)
          _ (List.mem_singleton_self _)
    · intro hlast
      refine ⟨hfaults, List.pairwise_singleton _ _, fun first hfirst second hsecond => ?_⟩
      obtain ⟨i, body, problem, hi, -, -, rfl⟩ := mem_map_ofFault_iff.mp hfirst
      obtain rfl := List.mem_singleton.mp hsecond
      exact UInt32.le_trans (lineNumber_le_lineNumber (Nat.le_sub_one_of_lt hi.1))
        (hlast index hnothing)
  · rw [hdefects]
    exact iff_of_true hfaults fun index hnothing => absurd hnothing (hnone index)

/-! ### The defects that are found before the end -/

/-- A defect of a run stands in a line of the run, and there something is wrong. -/
theorem exists_line_of_mem_defects {code : Nat} (hcode : code ∈ codeLines lines) {defect : Defect}
    (h : defect ∈ (decoratedAt vocabulary lines code).defects file) :
    ∃ i, IsAbove lines i code ∧ IsWrong vocabulary lines i ∧ defect.line = lineNumber i := by
  rcases mem_defects_decoratedAt_iff.mp h with hfault | ⟨i, name, hi, hnames, hbare, rfl⟩
  · exact exists_line_of_mem_faults hfault
  · exact ⟨i, hi, .inr ⟨code, hcode, hi, ⟨name, hnames⟩, hbare⟩, rfl⟩

/-- What is found line by line stands in the lines where something is wrong. -/
theorem exists_mem_lineDefects_iff {line : UInt32} :
    (∃ defect ∈ lineDefects vocabulary lines file, defect.line = line) ↔
      ∃ i, IsWrong vocabulary lines i ∧ line = lineNumber i := by
  constructor
  · rintro ⟨defect, hdefect, rfl⟩
    rcases mem_lineDefects_iff.mp hdefect with
      ⟨i, body, problem, -, hfault, rfl⟩ | ⟨code, i, name, hcode, hi, hnames, hbare, rfl⟩
    · exact ⟨i, .inl (by rw [hfault]; nofun), rfl⟩
    · exact ⟨i, .inr ⟨code, hcode, hi, ⟨name, hnames⟩, hbare⟩, rfl⟩
  · rintro ⟨i, hfault | ⟨code, hcode, hi, ⟨name, hnames⟩, hbare⟩, rfl⟩
    · obtain ⟨problem, hproblem⟩ := Option.ne_none_iff_exists'.mp hfault
      obtain ⟨directive, hdirective, -⟩ := Option.bind_eq_some_iff.mp hproblem
      have hbody := (directiveAt?_eq_some_iff.mp hdirective).1
      exact ⟨_, mem_lineDefects_iff.mpr (.inl ⟨i, _, problem, hbody, hproblem, rfl⟩), rfl⟩
    · exact ⟨_, mem_lineDefects_iff.mpr (.inr ⟨code, i, name, hcode, hi, hnames, hbare, rfl⟩), rfl⟩

/-- What stands above a line stands below all the code in front of that line. -/
theorem lt_of_isAbove_of_mem_codeLines {code below i : Nat} (hcode : code ∈ codeLines lines)
    (hlt : code < below) (habove : IsAbove lines i below) : code < i := by
  by_contra hle
  have hsome := habove.2 code (Nat.le_of_not_lt hle) hlt
  rw [(mem_codeLines_iff.mp hcode).2] at hsome
  cases hsome

theorem line_le_line_of_mem_defects {code below : Nat} (hcode : code ∈ codeLines lines)
    (hlt : code < below) {first second : Defect}
    (hfirst : first ∈ (decoratedAt vocabulary lines code).defects file)
    (hsecond : ∃ i, IsAbove lines i below ∧ IsWrong vocabulary lines i ∧
      second.line = lineNumber i) : first.line ≤ second.line := by
  obtain ⟨i, hi, -, hline⟩ := exists_line_of_mem_defects hcode hfirst
  obtain ⟨j, hj, -, hline'⟩ := hsecond
  have hij : i < j := Nat.lt_trans hi.1 (lt_of_isAbove_of_mem_codeLines hcode hlt hj)
  rw [hline, hline']
  exact lineNumber_le_lineNumber (Nat.le_of_lt hij)

/-- The lines of the defects that are found before the end ascend exactly if those of each run
do. -/
theorem inSourceOrder_lineDefects_iff :
    InSourceOrder (lineDefects vocabulary lines file) ↔
      ∀ code index, NamesNothing vocabulary lines code index →
        lineNumber (code - 1) ≤ lineNumber index := by
  rw [InSourceOrder, lineDefects, List.pairwise_append, List.pairwise_flatMap]
  constructor
  · rintro ⟨⟨hruns, -⟩, -⟩ code index hnothing
    exact (inSourceOrder_decoratedAt_iff hnothing.isCode).mp (hruns code hnothing.isCode) index
      hnothing
  · intro hlast
    refine ⟨⟨fun code hcode => ?_, ?_⟩, inSourceOrder_faults .., ?_⟩
    · exact (inSourceOrder_decoratedAt_iff hcode).mpr (hlast code)
    · refine (pairwise_lt_codeLines lines).imp_of_mem ?_
      intro code code' hcode hcode' hlt first hfirst second hsecond
      exact line_le_line_of_mem_defects hcode hlt hfirst
        (exists_line_of_mem_defects hcode' hsecond)
    · intro first hfirst second hsecond
      obtain ⟨code, hcode, hfirst⟩ := List.mem_flatMap.mp hfirst
      exact line_le_line_of_mem_defects hcode (mem_codeLines_iff.mp hcode).1 hfirst
        (exists_line_of_mem_faults hsecond)

/-! ### Names that several tests bear -/

section Ascending

variable {α : Type} {r : α → α → Prop} [Std.Asymm r] {before behind : List α} {a b : α}

/-- In a list that ascends, what is greater stands behind. -/
theorem mem_behind_of_rel (h : (before ++ a :: behind).Pairwise r)
    (hmem : b ∈ before ++ a :: behind) (hab : r a b) : b ∈ behind := by
  rcases List.mem_append.mp hmem with hbefore | hrest
  · exact absurd ((List.pairwise_append.mp h).2.2 b hbefore a List.mem_cons_self)
      (Std.Asymm.asymm a b hab)
  · rcases List.mem_cons.mp hrest with rfl | hbehind
    · exact absurd hab (Std.Asymm.asymm b b hab)
    · exact hbehind

/-- In a list that ascends, what is smaller stands in front. -/
theorem mem_before_of_rel (h : (before ++ a :: behind).Pairwise r)
    (hmem : b ∈ before ++ a :: behind) (hba : r b a) : b ∈ before := by
  rcases List.mem_append.mp hmem with hbefore | hrest
  · exact hbefore
  · rcases List.mem_cons.mp hrest with rfl | hbehind
    · exact absurd hba (Std.Asymm.asymm b b hba)
    · exact absurd ((List.pairwise_cons.mp (List.pairwise_append.mp h).2.1).1 b hbehind)
        (Std.Asymm.asymm b a hba)

end Ascending

/-- The test of a line of code, if it bears the name. -/
def bearer? (vocabulary : Vocabulary) (lines : List String) (name : String) (code : Nat) :
    Option NamedTest :=
  (decoratedAt vocabulary lines code).test?.filter (·.name == name)

theorem bearer?_eq_some_iff {code : Nat} {name : String} {test : NamedTest}
    (hcode : code ∈ codeLines lines) :
    bearer? vocabulary lines name code = some test ↔
      ∃ index, NamesTest vocabulary lines code index name ∧
        test = ⟨name, lineNumber index, lineNumber code⟩ := by
  rw [bearer?, Option.filter_eq_some_iff, test?_decoratedAt_eq_some_iff hcode]
  constructor
  · rintro ⟨⟨index, hnames, hdirective, hdecorated⟩, hname⟩
    obtain rfl := eq_of_beq hname
    exact ⟨index, hnames, by rw [← hdirective, ← hdecorated]⟩
  · rintro ⟨index, hnames, rfl⟩
    exact ⟨⟨index, hnames, rfl, rfl⟩, beq_self_eq_true name⟩

theorem filter_namedTests (vocabulary : Vocabulary) (lines : List String) (name : String) :
    (namedTests vocabulary lines).filter (·.name == name) =
      (codeLines lines).filterMap (bearer? vocabulary lines name) :=
  List.filter_filterMap

/-- A name is reported at the line that names the first of several tests. -/
theorem exists_clash?_iff {name : String} {line : UInt32} :
    (∃ defect, NamedTest.clash? file (namedTests vocabulary lines) name = some defect ∧
      defect.line = line) ↔
      ∃ code index, NamesSeveral vocabulary lines code index name ∧ line = lineNumber index := by
  have hascending := pairwise_lt_codeLines lines
  simp only [NamedTest.clash?_eq_some_iff, filter_namedTests, List.head?_filterMap]
  constructor
  · rintro ⟨defect, ⟨hseveral, first, hfirst, rfl⟩, rfl⟩
    obtain ⟨before, code, behind, hsplit, hbearer, hnone⟩ := List.findSome?_eq_some_iff.mp hfirst
    have hcode : code ∈ codeLines lines := hsplit ▸ List.mem_append_right _ List.mem_cons_self
    obtain ⟨index, hnames, rfl⟩ := (bearer?_eq_some_iff hcode).mp hbearer
    refine ⟨code, index, ⟨hnames, fun code' index' hnames' => ?_, ?_⟩, rfl⟩
    · by_contra hless
      have hbefore : code' ∈ before := mem_before_of_rel (hsplit ▸ hascending)
        (hsplit ▸ hnames'.isCode) (Nat.lt_of_not_le hless)
      have hsome := (bearer?_eq_some_iff hnames'.isCode).mpr ⟨index', hnames', rfl⟩
      rw [hnone code' hbefore] at hsome
      cases hsome
    · -- two tests bear the name, so there is one behind the first
      have hmore : behind.filterMap (bearer? vocabulary lines name) ≠ [] := by
        intro hnil
        rw [hsplit, List.filterMap_append, List.filterMap_cons, hbearer, hnil,
          List.filterMap_eq_nil_iff.mpr hnone] at hseveral
        exact Nat.not_succ_le_self 1 hseveral
      obtain ⟨other, hother⟩ := List.exists_mem_of_ne_nil _ hmore
      obtain ⟨code', hbehind, hbearer'⟩ := List.mem_filterMap.mp hother
      have hcode' : code' ∈ codeLines lines :=
        hsplit ▸ List.mem_append_right _ (List.mem_cons_of_mem _ hbehind)
      obtain ⟨index', hnames', -⟩ := (bearer?_eq_some_iff hcode').mp hbearer'
      rw [hsplit, List.pairwise_append, List.pairwise_cons] at hascending
      exact ⟨code', index', hnames', hascending.2.1.1 code' hbehind⟩
  · rintro ⟨code, index, ⟨hnames, hfirst, code', index', hnames', hlt⟩, rfl⟩
    obtain ⟨before, behind, hsplit⟩ := List.append_of_mem hnames.isCode
    have hbearer := (bearer?_eq_some_iff hnames.isCode).mpr ⟨index, hnames, rfl⟩
    have hbearer' := (bearer?_eq_some_iff hnames'.isCode).mpr ⟨index', hnames', rfl⟩
    have hnone : ∀ c ∈ before, bearer? vocabulary lines name c = none := by
      intro c hc
      refine Option.eq_none_iff_forall_ne_some.mpr fun test htest => ?_
      have hmem : c ∈ codeLines lines := hsplit ▸ List.mem_append_left _ hc
      obtain ⟨i, hearlier, -⟩ := (bearer?_eq_some_iff hmem).mp htest
      rw [hsplit, List.pairwise_append] at hascending
      exact Nat.not_lt_of_le (hfirst c i hearlier) (hascending.2.2 c hc code List.mem_cons_self)
    have hbehind : code' ∈ behind :=
      mem_behind_of_rel (hsplit ▸ hascending) (hsplit ▸ hnames'.isCode) hlt
    have hlength : 1 ≤ (behind.filterMap (bearer? vocabulary lines name)).length :=
      List.length_pos_of_mem (List.mem_filterMap.mpr ⟨code', hbehind, hbearer'⟩)
    refine ⟨_, ⟨?_, _, List.findSome?_eq_some_iff.mpr ⟨_, _, _, hsplit, hbearer, hnone⟩, rfl⟩, rfl⟩
    rw [hsplit, List.filterMap_append, List.filterMap_cons, hbearer, List.length_append,
      List.length_cons]
    omega

theorem pairwise_lt_distinctNames (tests : List NamedTest) :
    (NamedTest.distinctNames tests).Pairwise (· < ·) := by
  have hsorted : (NamedTest.distinctNames tests).Pairwise fun a b => (compare a b).isLE = true :=
    pairwise_sortOn id _
  refine (hsorted.and (NamedTest.nodup_distinctNames tests)).imp fun {a b} ⟨hle, hne⟩ => ?_
  by_contra hlt
  rw [show compare a b = compareOfLessAndEq a b from rfl, compareOfLessAndEq, if_neg hlt,
    if_neg hne] at hle
  cases hle

/-- The lines of the names that several tests bear ascend exactly if these names are first given
in their order. -/
theorem inSourceOrder_clashes_iff :
    InSourceOrder (NamedTest.clashes file (namedTests vocabulary lines)) ↔
      ∀ code index name code' index' name', NamesSeveral vocabulary lines code index name →
        NamesSeveral vocabulary lines code' index' name' → name < name' →
        lineNumber index ≤ lineNumber index' := by
  have hascending := pairwise_lt_distinctNames (namedTests vocabulary lines)
  rw [InSourceOrder, NamedTest.clashes, List.pairwise_filterMap]
  constructor
  · intro hpairwise code index name code' index' name' hseveral hseveral' hlt
    obtain ⟨defect, hclash, hline⟩ :=
      (@exists_clash?_iff vocabulary lines file _ _).mpr ⟨code, index, hseveral, rfl⟩
    obtain ⟨defect', hclash', hline'⟩ :=
      (@exists_clash?_iff vocabulary lines file _ _).mpr ⟨code', index', hseveral', rfl⟩
    have hname := NamedTest.mem_distinctNames_of_clash? hclash
    have hname' := NamedTest.mem_distinctNames_of_clash? hclash'
    obtain ⟨before, behind, hsplit⟩ := List.append_of_mem hname
    have hbehind : name' ∈ behind :=
      mem_behind_of_rel (hsplit ▸ hascending) (hsplit ▸ hname') hlt
    rw [hsplit, List.pairwise_append, List.pairwise_cons] at hpairwise
    rw [← hline, ← hline']
    exact hpairwise.2.1.1 name' hbehind defect hclash defect' hclash'
  · intro hnames
    refine hascending.imp fun {name name'} hlt defect hclash defect' hclash' => ?_
    obtain ⟨code, index, hseveral, hline⟩ := exists_clash?_iff.mp ⟨defect, hclash, rfl⟩
    obtain ⟨code', index', hseveral', hline'⟩ := exists_clash?_iff.mp ⟨defect', hclash', rfl⟩
    rw [hline, hline']
    exact hnames code index name code' index' name' hseveral hseveral' hlt

theorem exists_mem_clashes_iff {line : UInt32} :
    (∃ defect ∈ NamedTest.clashes file (namedTests vocabulary lines), defect.line = line) ↔
      ∃ code index name, NamesSeveral vocabulary lines code index name ∧
        line = lineNumber index := by
  constructor
  · rintro ⟨defect, hdefect, hline⟩
    obtain ⟨name, -, hclash⟩ := List.mem_filterMap.mp hdefect
    obtain ⟨code, index, hseveral, hline⟩ := exists_clash?_iff.mp ⟨defect, hclash, hline⟩
    exact ⟨code, index, name, hseveral, hline⟩
  · rintro ⟨code, index, name, hseveral, hline⟩
    obtain ⟨defect, hclash, hline⟩ := exists_clash?_iff.mpr ⟨code, index, hseveral, hline⟩
    have hname := NamedTest.mem_distinctNames_of_clash? hclash
    exact ⟨defect, List.mem_filterMap.mpr ⟨name, hname, hclash⟩, hline⟩

/-! ### All defects -/

/-- When the lines of the defects ascend that are reported for a text: every name that names
nothing is given in the last line of its run; where the first of several tests of one name is named,
nothing is wrong further down; and the names that several tests bear are first given in their
order. -/
theorem inSourceOrder_readAnnotations_iff {vocabulary : Vocabulary} {file : Path} {text : String}
    {defects : List Defect} (hread : readAnnotations vocabulary file text = .error defects) :
    InSourceOrder defects ↔
      (∀ code index, NamesNothing vocabulary (FindingCheck.lines text) code index →
        lineNumber (code - 1) ≤ lineNumber index) ∧
      (∀ i code index name, IsWrong vocabulary (FindingCheck.lines text) i →
        NamesSeveral vocabulary (FindingCheck.lines text) code index name →
        lineNumber i ≤ lineNumber index) ∧
      ∀ code index name code' index' name',
        NamesSeveral vocabulary (FindingCheck.lines text) code index name →
        NamesSeveral vocabulary (FindingCheck.lines text) code' index' name' → name < name' →
        lineNumber index ≤ lineNumber index' := by
  obtain ⟨rfl, -⟩ := readAnnotations_eq_error_iff.mp hread
  rw [defects_ofText, InSourceOrder, List.pairwise_append]
  refine and_congr inSourceOrder_lineDefects_iff ?_
  rw [and_comm]
  refine and_congr ⟨fun hbefore i code index name hwrong hseveral => ?_,
    fun hbefore defect hdefect clash hclash => ?_⟩ inSourceOrder_clashes_iff
  · obtain ⟨defect, hdefect, hline⟩ := exists_mem_lineDefects_iff.mpr ⟨i, hwrong, rfl⟩
    obtain ⟨clash, hclash, hline'⟩ := exists_mem_clashes_iff.mpr ⟨code, index, name, hseveral, rfl⟩
    rw [← hline, ← hline']
    exact hbefore defect hdefect clash hclash
  · obtain ⟨i, hwrong, hline⟩ := exists_mem_lineDefects_iff.mp ⟨defect, hdefect, rfl⟩
    obtain ⟨code, index, name, hseveral, hline'⟩ :=
      exists_mem_clashes_iff.mp ⟨clash, hclash, rfl⟩
    rw [hline, hline']
    exact hbefore i code index name hwrong hseveral

/-- A text with a name that names nothing, in front of a directive that cannot be understood. -/
def lonelyName : String :=
  "// test:name:lonely\n// nonsense\nfoo();\n"

/-- The lines of `lonelyName`. -/
def lonelyLines : List String :=
  ["// test:name:lonely", "// nonsense", "foo();"]

theorem lines_lonelyName : FindingCheck.lines lonelyName = lonelyLines := by
  rw [FindingCheck.lines, lonelyName, String.toList_ofList]
  rfl

theorem namesNothing_lonelyName :
    NamesNothing .standard (FindingCheck.lines lonelyName) 2 0 := by
  have hcode : 2 ∈ codeLines lonelyLines := by decide +kernel
  have habove : IsAbove lonelyLines 0 2 := by decide +kernel
  have hname : testNameAt? lonelyLines 0 = some "lonely" := by decide +kernel
  have hexpectations : (blockAbove .standard lonelyLines 2).expectations = [] := by decide +kernel
  rw [lines_lonelyName]
  exact ⟨hcode, habove, ⟨"lonely", hname, fun i hi => absurd hi (not_isAbove_zero i)⟩,
    expectations_blockAbove_eq_nil_iff.mp hexpectations⟩

/-- The defects of this text are not in the order of their lines. -/
theorem inSourceOrder_readAnnotations_lonelyName :
    ∃ defects, readAnnotations .standard ⟨"A.java"⟩ lonelyName = .error defects ∧
      ¬InSourceOrder defects := by
  have hnothing := namesNothing_lonelyName
  obtain ⟨name, hnames⟩ := hnothing.namesRun
  have hdefect := mem_defects_ofText_iff.mpr (@IsDefect.bare .standard _ ⟨"A.java"⟩ _ _ _
    hnothing.isCode hnothing.isAbove hnames hnothing.bare)
  have hread := readAnnotations_eq_error_iff.mpr ⟨rfl, List.ne_nil_of_mem hdefect⟩
  refine ⟨_, hread, fun horder => ?_⟩
  -- the directive behind the name is in the last line of the run
  have hlast := ((inSourceOrder_readAnnotations_iff hread).mp horder).1 2 0 hnothing
  exact absurd hlast (by decide)

end FindingCheck
