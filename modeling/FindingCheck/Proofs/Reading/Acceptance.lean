import FindingCheck.Proofs.Reading.Defects

/-!
# The texts that are accepted

Whether a text is accepted can be told from its runs, without taking its lines one after the other.
`IsWellFormed` lists the conditions. What is looked for behind a directive depends on what stands
above it, so one fault may hide another; but then the one is reported, and nothing is accepted by
mistake.

## Main definitions

* `nameAt?` — the name that the directive in a line gives, whether or not a test can have it
* `IsWellFormed` — the conditions on the runs of a text

## Main statements

* `forall_faultAt?_eq_none_iff` — no directive is at fault
* `exists_readAnnotations_iff` — a text is accepted exactly if it is well formed
-/

namespace FindingCheck

/-- The name that the directive in a line gives, if it names a test. -/
def nameAt? (lines : List String) (index : Nat) : Option String :=
  (bodyAt? lines index).bind fun body => if IsNaming body then some (givenName body) else none

/-- What the runs of a text must be like. A run at the end of the text, which is followed by no line
of code, need not meet the last two conditions. -/
structure IsWellFormed (vocabulary : Vocabulary) (lines : List String) : Prop where
  /-- Every directive names a test or declares a fact. -/
  understood : ∀ i body, bodyAt? lines i = some body →
    IsNaming body ∨ ∃ fact, vocabulary.read? body = some fact
  /-- Only the first line of a run names a test. -/
  namesFirst : ∀ start stop i, IsRun lines start stop → start < i → i < stop →
    nameAt? lines i = none
  /-- Every name is one that a test can have. -/
  validName : ∀ i name, nameAt? lines i = some name →
    name ≠ "" ∧ ':' ∉ name.toList ∧ ¬IsNumeral name.toList
  /-- A run that starts with a name has another line. -/
  expects : ∀ start stop, IsRun lines start stop → stop < lines.length →
    nameAt? lines start ≠ none → start + 1 < stop
  /-- No two runs start with the same name. -/
  uniqueName : ∀ start stop start' stop' name, IsRun lines start stop → IsRun lines start' stop' →
    stop < lines.length → stop' < lines.length →
    nameAt? lines start = some name → nameAt? lines start' = some name → start = start'

variable {vocabulary : Vocabulary} {lines : List String}

theorem nameAt?_eq_some_iff {index : Nat} {name : String} :
    nameAt? lines index = some name ↔
      ∃ body, bodyAt? lines index = some body ∧ IsNaming body ∧ givenName body = name := by
  simp [nameAt?, Option.bind_eq_some_iff]

theorem testNameAt?_iff_nameAt? {index : Nat} {name : String} :
    testNameAt? lines index = some name ↔
      nameAt? lines index = some name ∧ isTestName name = true := by
  rw [testNameAt?_eq_some_iff, nameAt?_eq_some_iff]
  constructor
  · rintro ⟨body, hbody, hnaming, hname, hvalid⟩
    exact ⟨⟨body, hbody, hnaming, hname⟩, hvalid⟩
  · rintro ⟨⟨body, hbody, hnaming, hname⟩, hvalid⟩
    exact ⟨body, hbody, hnaming, hname, hvalid⟩

/-- A directive that gives no name but says something declares an expectation. -/
theorem declares_of_read? {index : Nat} {body : String} {fact : Fact}
    (hbody : bodyAt? lines index = some body) (hnaming : ¬IsNaming body)
    (hfact : vocabulary.read? body = some fact) : Declares vocabulary lines index :=
  ⟨body, fact, hbody, by rw [Vocabulary.expected?, if_neg hnaming, hfact]⟩

theorem not_declares_of_nameAt? {index : Nat} {name : String}
    (h : nameAt? lines index = some name) : ¬Declares vocabulary lines index := by
  rintro ⟨body, fact, hbody, hfact⟩
  obtain ⟨body', hbody', hnaming, -⟩ := nameAt?_eq_some_iff.mp h
  obtain rfl := Option.some.inj (hbody.symm.trans hbody')
  rw [Vocabulary.expected?, if_pos hnaming] at hfact
  cases hfact

/-! ### Runs with names in front -/

theorem isAbove_trans {i j k : Nat} (hij : IsAbove lines i j) (hjk : IsAbove lines j k) :
    IsAbove lines i k := by
  refine ⟨Nat.lt_trans hij.1 hjk.1, fun l hl hk => ?_⟩
  rcases Nat.lt_or_ge l j with hlt | hge
  · exact hij.2 l hl hlt
  · exact hjk.2 l hge hk

namespace IsRun

/-- A run ends at one line. -/
theorem stop_unique {start stop stop' : Nat} (h : IsRun lines start stop)
    (h' : IsRun lines start stop') : stop = stop' := by
  by_contra hne
  rcases Nat.lt_or_gt_of_ne hne with hlt | hlt
  · have hsome := h'.isDirective stop (Nat.le_of_lt h.start_lt_stop) hlt
    rw [h.ends] at hsome
    cases hsome
  · have hsome := h.isDirective stop' (Nat.le_of_lt h'.start_lt_stop) hlt
    rw [h'.ends] at hsome
    cases hsome

/-- A run starts at one line. -/
theorem start_unique {start start' stop : Nat} (h : IsRun lines start stop)
    (h' : IsRun lines start' stop) : start = start' := by
  have hle := (isAbove_iff_of_isRun h).mp h'.isAbove
  have hge := (isAbove_iff_of_isRun h').mp h.isAbove
  omega

/-- Above the first line of a run nothing stands. -/
theorem not_isAbove_start {start stop i : Nat} (h : IsRun lines start stop) :
    ¬IsAbove lines i start := by
  intro habove
  have hle := ((isAbove_iff_of_isRun h).mp (isAbove_trans habove h.isAbove)).1
  exact Nat.not_lt_of_le hle habove.1

end IsRun

/-- Names stand in the first lines of runs only, if no directive stands above a name. -/
theorem namesFirst_iff :
    (∀ start stop i, IsRun lines start stop → start < i → i < stop → nameAt? lines i = none) ↔
      ∀ i name, nameAt? lines i = some name → ∀ j, ¬IsAbove lines j i := by
  constructor
  · intro hfirst i name hname j habove
    obtain ⟨body, hbody, -⟩ := nameAt?_eq_some_iff.mp hname
    obtain ⟨stop, hstop, hbelow⟩ := exists_isAbove (Option.isSome_of_mem hbody)
    have hends : bodyAt? lines stop = none := by
      rcases hstop with hcode | rfl
      · exact (mem_codeLines_iff.mp hcode).2
      · exact bodyAt?_eq_none_of_le (Nat.le_refl _)
    obtain ⟨start, hstart, hrun⟩ := exists_isRun (isAbove_trans habove hbelow) hends
    rw [hfirst start stop i hrun (Nat.lt_of_le_of_lt hstart habove.1) hbelow.1] at hname
    cases hname
  · intro hnothing start stop i hrun hstart hstop
    refine Option.eq_none_iff_forall_ne_some.mpr fun name hname => ?_
    refine hnothing i name hname start ⟨hstart, fun k hk hki => ?_⟩
    exact hrun.isDirective k hk (Nat.lt_trans hki hstop)

/-- No directive is at fault exactly if each says something, names stand first in their runs,
and tests can have them. -/
theorem forall_faultAt?_eq_none_iff :
    (∀ i, faultAt? vocabulary lines i = none) ↔
      (∀ i body, bodyAt? lines i = some body →
        IsNaming body ∨ ∃ fact, vocabulary.read? body = some fact) ∧
      (∀ i name, nameAt? lines i = some name → ∀ j, ¬IsAbove lines j i) ∧
      ∀ i name, nameAt? lines i = some name → isTestName name = true := by
  constructor
  · intro hfaultless
    have hmeaning : ∀ i body, bodyAt? lines i = some body →
        IsNaming body ∨ ∃ fact, vocabulary.read? body = some fact := by
      intro i body hbody
      have hfault := (faultAt?_eq_none_iff hbody).mp (hfaultless i)
      by_cases hnaming : IsNaming body
      · exact .inl hnaming
      · rw [if_neg hnaming] at hfault
        exact .inr (Option.ne_none_iff_exists'.mp hfault)
    have hnames : ∀ i name, nameAt? lines i = some name →
        (∀ j, IsAbove lines j i → ¬Declares vocabulary lines j ∧ testNameAt? lines j = none) ∧
          isTestName name = true := by
      intro i name hname
      obtain ⟨body, hbody, hnaming, rfl⟩ := nameAt?_eq_some_iff.mp hname
      have hfault := (faultAt?_eq_none_iff hbody).mp (hfaultless i)
      rwa [if_pos hnaming] at hfault
    refine ⟨hmeaning, fun i name hname j habove => ?_, fun i name hname => (hnames i name hname).2⟩
    -- a directive above would say something, and nothing may be said above a name
    obtain ⟨hsilent, hnameless⟩ := (hnames i name hname).1 j habove
    obtain ⟨body, hbody⟩ := Option.isSome_iff_exists.mp habove.isSome
    by_cases hnaming : IsNaming body
    · have hgiven : nameAt? lines j = some (givenName body) :=
        nameAt?_eq_some_iff.mpr ⟨body, hbody, hnaming, rfl⟩
      rw [testNameAt?_iff_nameAt?.mpr ⟨hgiven, (hnames j _ hgiven).2⟩] at hnameless
      cases hnameless
    · obtain ⟨fact, hfact⟩ := (hmeaning j body hbody).resolve_left hnaming
      exact hsilent (declares_of_read? hbody hnaming hfact)
  · rintro ⟨hmeaning, hnothing, hvalid⟩ i
    cases hbody : bodyAt? lines i with
    | none => rw [faultAt?, directiveAt?, hbody]; rfl
    | some body =>
      rw [faultAt?_eq_none_iff hbody]
      by_cases hnaming : IsNaming body
      · have hname : nameAt? lines i = some (givenName body) :=
          nameAt?_eq_some_iff.mpr ⟨body, hbody, hnaming, rfl⟩
        rw [if_pos hnaming]
        exact ⟨fun j habove => absurd habove (hnothing i _ hname j), hvalid i _ hname⟩
      · rw [if_neg hnaming]
        exact Option.ne_none_iff_exists'.mpr ((hmeaning i body hbody).resolve_left hnaming)

/-! ### Acceptance -/

namespace IsWellFormed

variable (h : IsWellFormed vocabulary lines)
include h

theorem isTestName {i : Nat} {name : String} (hname : nameAt? lines i = some name) :
    FindingCheck.isTestName name = true :=
  isTestName_iff.mpr (h.validName i name hname)

theorem faultAt?_eq_none (i : Nat) : faultAt? vocabulary lines i = none :=
  forall_faultAt?_eq_none_iff.mpr
    ⟨h.understood, namesFirst_iff.mp h.namesFirst, fun _ _ hname => h.isTestName hname⟩ i

/-- The line behind the first one of a run declares an expectation. -/
theorem declares_succ {start stop : Nat} (hrun : IsRun lines start stop)
    (hstop : start + 1 < stop) : Declares vocabulary lines (start + 1) := by
  obtain ⟨body, hbody⟩ := Option.isSome_iff_exists.mp
    (hrun.isDirective (start + 1) (Nat.le_succ start) hstop)
  have hnaming : ¬IsNaming body := by
    intro hnaming
    have hnone := h.namesFirst start stop (start + 1) hrun (Nat.lt_succ_self start) hstop
    rw [nameAt?_eq_some_iff.mpr ⟨body, hbody, hnaming, rfl⟩] at hnone
    cases hnone
  obtain ⟨fact, hfact⟩ := (h.understood _ body hbody).resolve_left hnaming
  exact declares_of_read? hbody hnaming hfact

/-- What names the run above a line of code is its first line. -/
theorem exists_isRun_of_namesRun {code index : Nat} {name : String} (hcode : code ∈ codeLines lines)
    (habove : IsAbove lines index code) (hnames : NamesRun vocabulary lines index name) :
    IsRun lines index code ∧ nameAt? lines index = some name := by
  have hname := (testNameAt?_iff_nameAt?.mp hnames.gives).1
  obtain ⟨start, hstart, hrun⟩ := exists_isRun habove (mem_codeLines_iff.mp hcode).2
  rcases Nat.eq_or_lt_of_le hstart with rfl | hlt
  · exact ⟨hrun, hname⟩
  · rw [h.namesFirst start code index hrun hlt habove.1] at hname
    cases hname

end IsWellFormed

/-- The first line of a run names the run if it gives a name that a test can have. -/
theorem namesRun_start {start stop : Nat} {name : String} (hrun : IsRun lines start stop)
    (hname : nameAt? lines start = some name) (hvalid : isTestName name = true) :
    NamesRun vocabulary lines start name :=
  { gives := testNameAt?_iff_nameAt?.mpr ⟨hname, hvalid⟩
    first := fun _ habove => absurd habove hrun.not_isAbove_start }

/-- A text that is well formed has no defect. -/
theorem IsWellFormed.not_isDefect (h : IsWellFormed vocabulary lines) (file : Path)
    (defect : Defect) : ¬IsDefect vocabulary lines file defect := by
  intro hdefect
  cases hdefect with
  | fault hbody hfault =>
    rw [h.faultAt?_eq_none] at hfault
    cases hfault
  | @bare code index name hcode habove hnames hbare =>
    obtain ⟨hrun, hname⟩ := h.exists_isRun_of_namesRun hcode habove hnames
    have hnext := h.expects index code hrun (mem_codeLines_iff.mp hcode).1 (by rw [hname]; nofun)
    exact hbare (index + 1) ((isAbove_iff_of_isRun hrun).mpr ⟨Nat.le_succ index, hnext⟩)
      (h.declares_succ hrun hnext)
  | @shared name _ hclash =>
    have hnodup : ((namedTests vocabulary lines).map NamedTest.name).Nodup := by
      refine nodup_names_iff.mpr fun code i code' i' name htest htest' => ?_
      obtain ⟨hrun, hname⟩ := h.exists_isRun_of_namesRun htest.isCode htest.isAbove htest.namesRun
      obtain ⟨hrun', hname'⟩ :=
        h.exists_isRun_of_namesRun htest'.isCode htest'.isAbove htest'.namesRun
      obtain rfl := h.uniqueName i code i' code' name hrun hrun'
        (mem_codeLines_iff.mp htest.isCode).1 (mem_codeLines_iff.mp htest'.isCode).1 hname hname'
      exact hrun.stop_unique hrun'
    rw [List.nodup_iff_count_le_one] at hnodup
    have hone := hnodup name
    rw [← NamedTest.length_filter_name, ← @NamedTest.clash?_eq_none_iff file, hclash] at hone
    cases hone

/-- Without defects, the name of a run above a line of code is the name of a test. -/
theorem namesTest_start {file : Path} (h : ∀ defect, ¬IsDefect vocabulary lines file defect)
    {start stop : Nat} {name : String} (hrun : IsRun lines start stop) (hstop : stop < lines.length)
    (hname : nameAt? lines start = some name) (hvalid : isTestName name = true) :
    NamesTest vocabulary lines stop start name := by
  have hcode : stop ∈ codeLines lines := mem_codeLines_iff.mpr ⟨hstop, hrun.ends⟩
  have hnames : NamesRun vocabulary lines start name := namesRun_start hrun hname hvalid
  refine ⟨hcode, hrun.isAbove, hnames, ?_⟩
  by_contra hnone
  exact h _ (.bare hcode hrun.isAbove hnames fun i hi hdeclares => hnone ⟨i, hi, hdeclares⟩)

/-- A text without defects is well formed. -/
theorem isWellFormed_of_forall_not_isDefect {file : Path}
    (h : ∀ defect, ¬IsDefect vocabulary lines file defect) : IsWellFormed vocabulary lines := by
  have hfaultless : ∀ i, faultAt? vocabulary lines i = none := by
    intro i
    refine Option.eq_none_iff_forall_ne_some.mpr fun problem hfault => ?_
    obtain ⟨directive, hdirective, -⟩ := Option.bind_eq_some_iff.mp hfault
    exact h _ (.fault (directiveAt?_eq_some_iff.mp hdirective).1 hfault)
  obtain ⟨hmeaning, hnothing, hvalid⟩ := forall_faultAt?_eq_none_iff.mp hfaultless
  have hfirst := namesFirst_iff.mpr hnothing
  refine ⟨hmeaning, hfirst, fun i name hname => isTestName_iff.mp (hvalid i name hname), ?_, ?_⟩
  · intro start stop hrun hstop hname
    obtain ⟨name, hname⟩ := Option.ne_none_iff_exists'.mp hname
    obtain ⟨i, hi, hdeclares⟩ :=
      (namesTest_start h hrun hstop hname (hvalid start name hname)).expects
    obtain ⟨hle, hlt⟩ := (isAbove_iff_of_isRun hrun).mp hi
    have hne : i ≠ start := by
      rintro rfl
      exact not_declares_of_nameAt? hname hdeclares
    omega
  · intro start stop start' stop' name hrun hrun' hstop hstop' hname hname'
    have hvalid := hvalid start name hname
    have hclashes : NamedTest.clashes file (namedTests vocabulary lines) = [] := by
      refine List.eq_nil_iff_forall_not_mem.mpr fun defect hdefect => ?_
      obtain ⟨name, -, hclash⟩ := List.mem_filterMap.mp hdefect
      exact h defect (.shared hclash)
    obtain rfl := nodup_names_iff.mp (NamedTest.clashes_eq_nil_iff.mp hclashes) _ _ _ _ _
      (namesTest_start h hrun hstop hname hvalid) (namesTest_start h hrun' hstop' hname' hvalid)
    exact hrun.start_unique hrun'

/-- A text is accepted exactly if it is well formed: each directive names a test or declares a
fact; names stand first in their runs, and tests can have them; and among the runs above lines of
code, one that starts with a name has another line, and no two start with the same name. -/
theorem exists_readAnnotations_iff (vocabulary : Vocabulary) (file : Path) (text : String) :
    (∃ annotations, readAnnotations vocabulary file text = .ok annotations) ↔
      IsWellFormed vocabulary (FindingCheck.lines text) := by
  have haccepted : (∃ annotations, readAnnotations vocabulary file text = .ok annotations) ↔
      (Reading.ofText vocabulary file text).defects = [] := by
    simp only [readAnnotations_eq_ok_iff, exists_and_left, exists_eq', and_true]
  rw [haccepted, List.eq_nil_iff_forall_not_mem]
  simp only [mem_defects_ofText_iff]
  exact ⟨isWellFormed_of_forall_not_isDefect, fun h => h.not_isDefect file⟩

end FindingCheck
