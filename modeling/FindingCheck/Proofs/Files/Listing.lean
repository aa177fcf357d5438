import FindingCheck.Files.Tree.Access
import FindingCheck.Proofs.Files.Seen
import FindingCheck.Proofs.Paths
import Mathlib.Data.List.Nodup

/-!
# Listing what lies beneath a directory

A listing goes through the entries of a directory in their order. What it finds does not depend on
the order: it finds each file once, and it fails exactly if a directory cannot be opened.

## Main statements

* `Contents.mem_files_iff`, `Contents.nodup_files` — each file is listed once, and nothing else
* `Contents.unopened?_eq_none_iff` — every directory beneath can be opened
-/

namespace FindingCheck

namespace Contents

variable {name other : String} {entry : Entry} {rest entries lower : Contents} {location : Location}

theorem get?_head (name : String) (entry : Entry) (rest : Contents) (location : Location) :
    get? ((name, entry) :: rest) (name :: location) = entry.within? location := by
  rw [get?_cons, List.lookup_cons_self]
  rfl

theorem get?_tail (hne : other ≠ name) :
    get? ((name, entry) :: rest) (other :: location) = get? rest (other :: location) := by
  have hbeq : (other == name) = false := by simpa using hne
  rw [get?_cons, get?_cons, List.lookup_cons, hbeq]

theorem lookup_eq_none (h : name ∉ entries.map Prod.fst) : entries.lookup name = none := by
  rw [List.lookup_eq_none_iff]
  intro item hitem
  have hne : name ≠ item.1 := fun heq => h (heq ▸ List.mem_map_of_mem hitem)
  simpa using hne

theorem exists_lookup_iff : (∃ entry, entries.lookup name = some entry) ↔
    name ∈ entries.map Prod.fst := by
  constructor
  · rintro ⟨entry, hentry⟩
    by_cases hname : name ∈ entries.map Prod.fst
    · exact hname
    · rw [lookup_eq_none hname] at hentry
      cases hentry
  · intro hname
    cases hlookup : entries.lookup name with
    | some entry => exact ⟨entry, rfl⟩
    | none =>
      obtain ⟨item, hitem, rfl⟩ := List.mem_map.mp hname
      have hne := List.lookup_eq_none_iff.mp hlookup item hitem
      simp at hne

theorem get?_eq_none (h : entries.lookup name = none) : entries.get? (name :: location) = none := by
  rw [get?_cons, h]
  rfl

theorem Distinct.lookup_tail (h : Distinct ((name, entry) :: rest)) : rest.lookup name = none :=
  lookup_eq_none (List.nodup_cons.mp (distinct_iff.mp h).1).1

theorem Distinct.tail (h : Distinct ((name, entry) :: rest)) : Distinct rest := by
  obtain ⟨hhere, hbelow⟩ := distinct_iff.mp h
  refine distinct_iff.mpr ⟨(List.nodup_cons.mp hhere).2, fun sought inner hsought => ?_⟩
  apply hbelow sought
  have hne : (sought == name) = false := by
    rw [beq_eq_false_iff_ne]
    rintro rfl
    rw [h.lookup_tail] at hsought
    cases hsought
  rwa [List.lookup_cons, hne]

theorem Distinct.inner (h : Distinct ((name, .directory lower) :: rest)) : Distinct lower :=
  (distinct_iff.mp h).2 name lower List.lookup_cons_self

theorem Distinct.lookup_of_mem {item : String × Entry} (h : entries.Distinct)
    (hitem : item ∈ entries) : entries.lookup item.1 = some item.2 := by
  obtain ⟨front, behind, rfl⟩ := List.append_of_mem hitem
  refine List.lookup_eq_some_iff.mpr ⟨front, behind, rfl, fun other hother => ?_⟩
  have hnodup := (distinct_iff.mp h).1
  rw [List.map_append, List.map_cons, List.nodup_append] at hnodup
  have hne := hnodup.2.2 other.1 (List.mem_map_of_mem hother) item.1 List.mem_cons_self
  simpa using Ne.symm hne

theorem Distinct.singleton {item : String × Entry} (h : entries.Distinct) (hitem : item ∈ entries) :
    Distinct [item] := by
  refine distinct_iff.mpr ⟨List.nodup_singleton item.1, fun name lower hlower => ?_⟩
  by_cases hname : name = item.1
  · subst hname
    rw [List.lookup_cons_self, ← h.lookup_of_mem hitem] at hlower
    exact (distinct_iff.mp h).2 _ lower hlower
  · have hbeq : (name == item.1) = false := by simpa using hname
    rw [List.lookup_cons, hbeq] at hlower
    cases hlower

theorem Distinct.of_get? (h : entries.Distinct)
    (hlower : entries.get? location = some (.directory lower)) : lower.Distinct := by
  intro inner below hbelow
  apply h (location ++ inner) below
  rw [get?_append, hlower]
  exact hbelow

/-! ### Files -/

/-- A listing finds the files and nothing else. -/
theorem mem_files_iff (h : entries.Distinct) :
    location ∈ entries.files ↔ ∃ content, entries.get? location = some (.file content) := by
  induction entries using Contents.files.induct generalizing location with
  | case1 =>
    cases location with
    | nil => simp [files, get?]
    | cons first others => simp [files, get?]
  | case2 name content rest ih =>
    rw [files, List.mem_cons, ih h.tail]
    cases location with
    | nil => simp [get?]
    | cons first others =>
      by_cases hfirst : first = name
      · subst hfirst
        rw [get?_eq_none h.lookup_tail, get?_head]
        cases others <;> simp [Entry.within?]
      · rw [get?_tail hfirst]
        simp [hfirst]
  | case3 name target rest ih =>
    rw [files, ih h.tail]
    cases location with
    | nil => simp [get?]
    | cons first others =>
      by_cases hfirst : first = name
      · subst hfirst
        rw [get?_eq_none h.lookup_tail, get?_head]
        cases others <;> simp [Entry.within?]
      · rw [get?_tail hfirst]
  | case4 name below rest ihBelow ihRest =>
    rw [files, List.mem_append, ihRest h.tail, List.mem_map]
    cases location with
    | nil => simp [get?]
    | cons first others =>
      by_cases hfirst : first = name
      · subst hfirst
        rw [get?_eq_none h.lookup_tail, get?_head]
        show _ ↔ ∃ content, get? below others = some (.file content)
        rw [← ihBelow h.inner]
        simp
      · rw [get?_tail hfirst]
        simp [Ne.symm hfirst]

/-- A listing finds each file once. -/
theorem nodup_files (h : entries.Distinct) : entries.files.Nodup := by
  have hnone : ∀ {name : String} {entry : Entry} {rest : Contents} {others : Location},
      Distinct ((name, entry) :: rest) → name :: others ∉ files rest := by
    intro name entry rest others h hmem
    obtain ⟨content, hcontent⟩ := (mem_files_iff h.tail).mp hmem
    rw [get?_eq_none h.lookup_tail] at hcontent
    cases hcontent
  induction entries using Contents.files.induct with
  | case1 =>
    rw [files]
    exact List.nodup_nil
  | case2 name content rest ih =>
    rw [files, List.nodup_cons]
    exact ⟨hnone h, ih h.tail⟩
  | case3 name target rest ih =>
    rw [files]
    exact ih h.tail
  | case4 name below rest ihBelow ihRest =>
    rw [files, List.nodup_append]
    refine ⟨?_, ihRest h.tail, ?_⟩
    · have hinjective : Function.Injective (List.cons name) := fun _ _ heq => (List.cons.inj heq).2
      exact List.Nodup.map hinjective (ihBelow h.inner)
    rintro _ hfirst _ hsecond rfl
    obtain ⟨others, -, rfl⟩ := List.mem_map.mp hfirst
    exact hnone h hsecond

/-- Directories that hold the same files list them in another order at most. -/
theorem files_perm {others : Contents} (h : entries.Distinct) (hothers : others.Distinct)
    (hsame : ∀ location, (∃ content, entries.get? location = some (.file content)) ↔
      ∃ content, others.get? location = some (.file content)) :
    entries.files.Perm others.files := by
  rw [List.perm_ext_iff_of_nodup (nodup_files h) (nodup_files hothers)]
  intro location
  rw [mem_files_iff h, mem_files_iff hothers, hsame]

/-! ### Directories -/

/-- Every directory beneath can be opened by the path to it. -/
def AllOpen (path : Path) (entries : Contents) : Prop :=
  ∀ location inner, location ≠ [] → entries.get? location = some (.directory inner) →
    spellingProblem? (path.joined location).text = none

theorem AllOpen.of_seen? {path : Path} {others : Contents} (h : AllOpen path entries)
    (hsame : ∀ location, others.seen? location = entries.seen? location) :
    AllOpen path others := by
  intro location inner hne hinner
  have hdirectory := seen?_eq_directory_iff.mpr ⟨inner, hinner⟩
  rw [hsame] at hdirectory
  obtain ⟨before, hbefore⟩ := seen?_eq_directory_iff.mp hdirectory
  exact h location before hne hbefore

theorem allOpen_cons_iff (h : Distinct ((name, entry) :: rest)) {path : Path} :
    AllOpen path ((name, entry) :: rest) ↔
      (∀ location inner, entry.within? location = some (.directory inner) →
        spellingProblem? (path.joined (name :: location)).text = none) ∧ AllOpen path rest := by
  constructor
  · intro hopen
    constructor
    · intro location inner hinner
      apply hopen (name :: location) inner (by simp)
      rwa [get?_head]
    · intro location inner hne hinner
      cases location with
      | nil => exact absurd rfl hne
      | cons first others =>
        apply hopen (first :: others) inner hne
        have hfirst : first ≠ name := by
          rintro rfl
          rw [get?_eq_none h.lookup_tail] at hinner
          cases hinner
        rwa [get?_tail hfirst]
  · rintro ⟨hhead, hrest⟩ location inner hne hinner
    cases location with
    | nil => exact absurd rfl hne
    | cons first others =>
      by_cases hfirst : first = name
      · subst hfirst
        rw [get?_head] at hinner
        exact hhead others inner hinner
      · rw [get?_tail hfirst] at hinner
        exact hrest (first :: others) inner hne hinner

theorem allOpen_directory_iff {path : Path} :
    (∀ location inner, (Entry.directory lower).within? location = some (.directory inner) →
        spellingProblem? (path.joined (name :: location)).text = none) ↔
      spellingProblem? (path.join ⟨name⟩).text = none ∧ AllOpen (path.join ⟨name⟩) lower := by
  constructor
  · intro hopen
    exact ⟨hopen [] lower rfl, fun location inner _ hinner => hopen location inner hinner⟩
  · rintro ⟨hhere, hlower⟩ location inner hinner
    cases location with
    | nil => exact hhere
    | cons first others => exact hlower (first :: others) inner (by simp) hinner

/-- A listing succeeds exactly if every directory beneath can be opened by the path to it. -/
theorem unopened?_eq_none_iff (h : entries.Distinct) {path : Path} :
    entries.unopened? path = none ↔ AllOpen path entries := by
  induction path, entries using Contents.unopened?.induct with
  | case1 path =>
    rw [unopened?]
    refine iff_of_true rfl fun location inner hne hinner => ?_
    cases location with
    | nil => exact absurd rfl hne
    | cons first others => simp [get?] at hinner
  | case2 path name content rest ih =>
    rw [unopened?, ih h.tail, allOpen_cons_iff h, and_iff_right]
    intro location inner hinner
    cases location <;> cases hinner
  | case3 path name target rest ih =>
    rw [unopened?, ih h.tail, allOpen_cons_iff h, and_iff_right]
    intro location inner hinner
    cases location <;> cases hinner
  | case4 path name lower rest inner reason hreason =>
    rw [unopened?, allOpen_cons_iff h, allOpen_directory_iff, hreason]
    simp
  | case5 path name lower rest inner hnone ihLower ihRest =>
    rw [unopened?, allOpen_cons_iff h, allOpen_directory_iff, hnone]
    simp only [Option.or_eq_none_iff, true_and]
    rw [ihLower h.inner, ihRest h.tail]

end Contents

end FindingCheck
