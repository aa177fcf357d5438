import FindingCheck.Proofs.AssertionOrder
import FindingCheck.Proofs.Discovery
import Mathlib.Data.List.Pairwise
import Mathlib.Data.List.Sort

/-!
# Sources and how they are grouped

The sources beneath a directory are put together if they lie under the same name in it. This and
that all is listed in order determines the groups, so they depend on what is in the directory and
on nothing else.

## Main definitions

* `Contents.SourceAt` — where sources are
* `IsGrouping` — how the sources in a directory are grouped

## Main statements

* `Contents.sourceAt_iff_exists_item` — the sources in a directory are those in its items
* `IsGrouping.mem_files_iff` — what is in the group of a source
* `IsGrouping.unique` — there is one way to group the sources
-/

namespace FindingCheck

/-! ### Sources -/

namespace Contents

variable {entries others : Contents} {extension : String} {names : Location}
  {item : String × Entry}

/-- A source is at a location: a file whose name ends as source files do. -/
def SourceAt (entries : Contents) (extension : String) (names : Location) : Prop :=
  (∃ content, entries.get? names = some (.file content)) ∧
    Group.isSource extension (Group.relativePath names) = true

theorem SourceAt.ne_nil (h : entries.SourceAt extension names) : names ≠ [] := by
  rintro rfl
  obtain ⟨⟨content, hcontent⟩, -⟩ := h
  cases hcontent

theorem SourceAt.isEntryName (h : entries.SourceAt extension names) (hplain : entries.Plain) :
    ∀ name ∈ names, IsEntryName name := by
  obtain ⟨⟨content, hcontent⟩, -⟩ := h
  exact hplain.names names (by simp [hcontent])

theorem SourceAt.ofNames (h : entries.SourceAt extension names) (hplain : entries.Plain) :
    (Group.relativePath names).OfNames :=
  ⟨names, h.ne_nil, h.isEntryName hplain, rfl⟩

/-- Sources have different paths. -/
theorem SourceAt.eq_of_relativePath_eq {more : Location} (h : entries.SourceAt extension names)
    (hmore : entries.SourceAt extension more) (hplain : entries.Plain)
    (heq : Group.relativePath names = Group.relativePath more) : names = more := by
  rw [← baseNames_relativePath h.ne_nil (h.isEntryName hplain), heq,
    baseNames_relativePath hmore.ne_nil (hmore.isEntryName hplain)]

/-- The locations in one item of a directory start with its name. -/
theorem SourceAt.head?_eq (h : SourceAt [item] extension names) : names.head? = some item.1 := by
  cases names with
  | nil => exact absurd rfl h.ne_nil
  | cons first rest =>
    obtain ⟨⟨content, hcontent⟩, -⟩ := h
    by_cases hfirst : first = item.1
    · rw [hfirst]
      rfl
    · rw [get?_tail hfirst] at hcontent
      cases hcontent

/-- The sources in a directory are those in its items. -/
theorem sourceAt_iff_exists_item (hdistinct : entries.Distinct) :
    entries.SourceAt extension names ↔ ∃ item ∈ entries, SourceAt [item] extension names := by
  have hsame : ∀ item ∈ entries, ∀ rest, entries.get? (item.1 :: rest) =
      get? [item] (item.1 :: rest) := by
    intro item hitem rest
    rw [get?_cons, hdistinct.lookup_of_mem hitem, get?_head]
    rfl
  constructor
  · intro h
    obtain ⟨first, rest, rfl⟩ := List.exists_cons_of_ne_nil h.ne_nil
    obtain ⟨⟨content, hcontent⟩, hsource⟩ := h
    cases hlookup : entries.lookup first with
    | none =>
      rw [get?_eq_none hlookup] at hcontent
      cases hcontent
    | some entry =>
      obtain ⟨front, behind, rfl, -⟩ := List.lookup_eq_some_iff.mp hlookup
      have hitem : (first, entry) ∈ front ++ (first, entry) :: behind := by simp
      exact ⟨_, hitem, ⟨content, (hsame _ hitem rest).symm.trans hcontent⟩, hsource⟩
  · rintro ⟨item, hitem, h⟩
    obtain ⟨rest, rfl⟩ := List.head?_eq_some_iff.mp h.head?_eq
    obtain ⟨⟨content, hcontent⟩, hsource⟩ := h
    exact ⟨⟨content, (hsame item hitem rest).trans hcontent⟩, hsource⟩

/-- Beneath a file there is nothing. -/
theorem SourceAt.eq_singleton {name : String} (h : entries.SourceAt extension [name])
    (hnames : entries.SourceAt extension names) (hhead : names.head? = some name) :
    names = [name] := by
  obtain ⟨rest, rfl⟩ := List.head?_eq_some_iff.mp hhead
  obtain ⟨⟨content, hcontent⟩, -⟩ := h
  obtain ⟨⟨other, hother⟩, -⟩ := hnames
  rw [get?_cons] at hcontent hother
  cases hlookup : entries.lookup name with
  | none =>
    rw [hlookup] at hcontent
    cases hcontent
  | some entry =>
    rw [hlookup] at hcontent hother
    cases entry with
    | file content =>
      cases rest with
      | nil => rfl
      | cons next rest => cases hother
    | link target => cases hcontent
    | directory lower => cases hcontent

theorem sourceAt_congr (hsame : ∀ location, others.seen? location = entries.seen? location) :
    others.SourceAt extension names ↔ entries.SourceAt extension names := by
  simp only [SourceAt, ← seen?_eq_file_iff, hsame]

end Contents

/-! ### Groups of sources -/

/-- Two groups hold no equal paths. -/
def Group.Disjoint (group other : Group) : Prop :=
  ∀ path ∈ group.files, ∀ next ∈ other.files, (path == next) = false

theorem Group.Disjoint.symm {group other : Group} (h : group.Disjoint other) :
    other.Disjoint group := by
  intro path hpath next hnext
  rw [BEq.comm]
  exact h next hnext path hpath

/-- How the sources in a directory are grouped. -/
structure IsGrouping (entries : Contents) (extension : String) (groups : List Group) : Prop where
  /-- The files in the groups are the sources, by the paths to them from the directory. -/
  sources : ∀ path, (∃ group ∈ groups, path ∈ group.files) ↔
    ∃ names, entries.SourceAt extension names ∧ path = Group.relativePath names
  /-- Two sources are in one group if they lie under the same name in the directory. -/
  together : ∀ names more, entries.SourceAt extension names → entries.SourceAt extension more →
    ((∃ group ∈ groups, Group.relativePath names ∈ group.files ∧
        Group.relativePath more ∈ group.files) ↔ names.head? = more.head?)
  /-- A source that lies in the directory itself is a group by itself. -/
  alone : ∀ name, entries.SourceAt extension [name] → ∀ group ∈ groups,
    Group.relativePath [name] ∈ group.files → group.files = [Group.relativePath [name]]
  nonempty : ∀ group ∈ groups, group.files ≠ []
  filesAscend : ∀ group ∈ groups, group.files.Pairwise fun a b => compare a b = .lt
  ascend : groups.Pairwise fun a b => compare a.files b.files = .lt
  disjoint : groups.Pairwise Group.Disjoint

/-- Lists that ascend strictly are known from their members. -/
theorem eq_of_ascend {α β : Type} [Ord β] [Std.OrientedOrd β] {key : α → β} {xs ys : List α}
    (hxs : xs.Pairwise fun a b => compare (key a) (key b) = .lt)
    (hys : ys.Pairwise fun a b => compare (key a) (key b) = .lt) (h : ∀ x, x ∈ xs ↔ x ∈ ys) :
    xs = ys := by
  have hirrefl : Std.Irrefl fun a b => compare (key a) (key b) = .lt :=
    ⟨fun a hlt => by simp [Std.ReflOrd.compare_self] at hlt⟩
  have hantisymm : Std.Antisymm fun a b => compare (key a) (key b) = .lt :=
    ⟨fun a b hlt hgt => by
      rw [Std.OrientedOrd.eq_swap, hlt] at hgt
      cases hgt⟩
  exact hxs.eq_of_mem_iff hys h

namespace IsGrouping

variable {entries others : Contents} {extension : String} {groups found : List Group}

theorem congr (h : IsGrouping entries extension groups)
    (hsame : ∀ names, others.SourceAt extension names ↔ entries.SourceAt extension names) :
    IsGrouping others extension groups where
  sources := by simpa only [hsame] using h.sources
  together := by simpa only [hsame] using h.together
  alone := by simpa only [hsame] using h.alone
  nonempty := h.nonempty
  filesAscend := h.filesAscend
  ascend := h.ascend
  disjoint := h.disjoint

/-- A path is in one group. -/
theorem eq_of_mem (h : IsGrouping entries extension groups) {group other : Group}
    (hgroup : group ∈ groups) (hother : other ∈ groups) {path : Path} (hpath : path ∈ group.files)
    (hpathOther : path ∈ other.files) : group = other := by
  have hsymm : Std.Symm Group.Disjoint := ⟨fun _ _ => Group.Disjoint.symm⟩
  by_contra hne
  have hfalse := h.disjoint.forall hgroup hother hne path hpath path hpathOther
  simp at hfalse

/-- The files in the group of a source are the sources under the same name. -/
theorem mem_files_iff (h : IsGrouping entries extension groups) {group : Group}
    (hgroup : group ∈ groups) {names : Location} (hsource : entries.SourceAt extension names)
    (hmem : Group.relativePath names ∈ group.files) {path : Path} :
    path ∈ group.files ↔ ∃ more, entries.SourceAt extension more ∧ names.head? = more.head? ∧
      path = Group.relativePath more := by
  constructor
  · intro hpath
    obtain ⟨more, hmore, rfl⟩ := (h.sources path).mp ⟨group, hgroup, hpath⟩
    exact ⟨more, hmore, (h.together names more hsource hmore).mp ⟨group, hgroup, hmem, hpath⟩, rfl⟩
  · rintro ⟨more, hmore, hhead, rfl⟩
    obtain ⟨other, hother, hmemOther, hpath⟩ := (h.together names more hsource hmore).mpr hhead
    rwa [h.eq_of_mem hgroup hother hmem hmemOther]

theorem mem_of_mem (h : IsGrouping entries extension groups)
    (hfound : IsGrouping entries extension found) {group : Group} (hgroup : group ∈ groups) :
    group ∈ found := by
  obtain ⟨path, hpath⟩ := List.exists_mem_of_ne_nil _ (h.nonempty group hgroup)
  obtain ⟨names, hsource, rfl⟩ := (h.sources path).mp ⟨group, hgroup, hpath⟩
  obtain ⟨other, hother, hpathOther⟩ := (hfound.sources _).mpr ⟨names, hsource, rfl⟩
  have hfiles : group.files = other.files := by
    apply eq_of_ascend (h.filesAscend group hgroup) (hfound.filesAscend other hother)
    intro path
    rw [h.mem_files_iff hgroup hsource hpath, hfound.mem_files_iff hother hsource hpathOther]
  rwa [Group.eq_of_files hfiles]

/-- There is one way to group the sources in a directory. -/
theorem unique (h : IsGrouping entries extension groups)
    (hfound : IsGrouping entries extension found) : groups = found :=
  eq_of_ascend h.ascend hfound.ascend fun _ => ⟨h.mem_of_mem hfound, hfound.mem_of_mem h⟩

end IsGrouping

end FindingCheck
