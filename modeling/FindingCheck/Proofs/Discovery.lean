import FindingCheck.Proofs.Files.Listing
import FindingCheck.Proofs.Files.LongPaths
import FindingCheck.Proofs.Running

/-!
# Discovery

Groups are sorted, and so are the files in a group. So the order in which a directory is enumerated
has no influence on what is discovered, and a directory that holds no files is no group.

## Main definitions

* `Group.OfNames` — the files of a group are paths of names
* `FileTree.RootAt` — a root leads to a directory of a tree without links
* `FileTree.Shows` — a tree shows the same files beneath a root, and all its directories can be
  opened

## Main statements

* `Group.sort_eq_of_perm` — groups are sorted alike in whatever order they come
* `FileTree.groupOf?_of_directory` — the group of a directory
* `FileTree.discovered_of_resolve` — what is discovered, by the names in the root
* `FileTree.Shows.discovered_eq` — the same groups are discovered where the same files are shown
-/

namespace FindingCheck

/-! ### Paths of names, compared -/

/-- A path of names that can stand in directories. -/
def Path.OfNames (path : Path) : Prop :=
  ∃ names, names ≠ [] ∧ (∀ name ∈ names, IsEntryName name) ∧ path = Group.relativePath names

/-- Paths of names are equal if they compare as equal. -/
theorem Path.OfNames.eq_of_compare {a b : Path} (ha : a.OfNames) (hb : b.OfNames)
    (h : compare a b = .eq) : a = b := by
  obtain ⟨names, hne, hnames, rfl⟩ := ha
  obtain ⟨others, hneOthers, hothers, rfl⟩ := hb
  have hcomponents := Path.beq_iff.mp (Path.compare_eq_iff.mp h)
  rw [components_relativePath hne hnames, components_relativePath hneOthers hothers]
    at hcomponents
  have hinjective : Function.Injective Component.name := fun _ _ heq => Component.name.inj heq
  rw [hinjective.list_map hcomponents]

theorem eq_of_compare_paths {xs ys : List Path} (hxs : ∀ path ∈ xs, path.OfNames)
    (hys : ∀ path ∈ ys, path.OfNames) (h : compare xs ys = .eq) : xs = ys := by
  replace h : List.compareLex compare xs ys = .eq := h
  induction xs generalizing ys with
  | nil =>
    cases ys with
    | nil => rfl
    | cons y ys => cases h
  | cons x xs ih =>
    cases ys with
    | nil => cases h
    | cons y ys =>
      obtain ⟨hx, hxs⟩ := List.forall_mem_cons.mp hxs
      obtain ⟨hy, hys⟩ := List.forall_mem_cons.mp hys
      rw [List.compareLex_cons_cons] at h
      obtain ⟨hhead, htail⟩ := Ordering.then_eq_eq.mp h
      rw [hx.eq_of_compare hy hhead, ih hxs hys htail]

theorem filterMap_perm_of_subset {α β : Type} [DecidableEq α] {xs ys : List α} {f : α → Option β}
    (hxs : xs.Nodup) (hys : ys.Nodup) (hsubset : ∀ x ∈ xs, x ∈ ys)
    (hnone : ∀ x, x ∉ xs → f x = none) : (xs.filterMap f).Perm (ys.filterMap f) := by
  have hkept : (ys.filter (· ∈ xs)).Perm xs := by
    rw [List.perm_ext_iff_of_nodup (hys.filter _) hxs]
    intro x
    simpa using hsubset x
  have hsame : (ys.filter (· ∈ xs)).filterMap f = ys.filterMap f := by
    rw [List.filterMap_filter]
    apply List.filterMap_congr
    intro x _
    by_cases hx : x ∈ xs
    · simp [hx]
    · simp [hx, hnone x hx]
  rw [← hsame]
  exact hkept.symm.filterMap f

/-! ### Groups -/

namespace Group

variable {extension name : String}

/-- The files of a group are paths of names. -/
def OfNames (group : Group) : Prop :=
  ∀ path ∈ group.files, path.OfNames

theorem eq_of_files {group other : Group} (h : group.files = other.files) : group = other := by
  obtain ⟨files, ascends⟩ := group
  obtain ⟨others, ascendsOther⟩ := other
  obtain rfl : files = others := h
  rfl

/-- Groups are sorted alike in whatever order they come. -/
theorem sort_eq_of_perm {groups others : List Group} (hperm : groups.Perm others)
    (h : ∀ group ∈ groups, group.OfNames) : sort groups = sort others := by
  apply sortOn_eq_of_perm hperm
  intro group hgroup other hother heq
  exact eq_of_files (eq_of_compare_paths (h group hgroup) (h other hother) heq)

theorem ofFiles_eq_of_perm {files others : List Path} (hperm : files.Perm others)
    (h : ∀ path ∈ files, path.OfNames) : ofFiles files = ofFiles others := by
  apply eq_of_files
  apply sortOn_eq_of_perm hperm
  intro path hpath other hother heq
  exact (h path hpath).eq_of_compare (h other hother) heq

section

variable {below others : List (List String)}

theorem ofNames_relativePath (hname : IsEntryName name)
    (h : ∀ names ∈ below, ∀ other ∈ names, IsEntryName other) :
    ∀ path ∈ (below.map fun names => relativePath (name :: names)).filter (isSource extension),
      path.OfNames := by
  intro path hpath
  obtain ⟨names, hnames, rfl⟩ := List.mem_map.mp (List.mem_filter.mp hpath).1
  refine ⟨name :: names, by simp, ?_, rfl⟩
  exact List.forall_mem_cons.mpr ⟨hname, h names hnames⟩

/-- The group of a directory does not depend on the order in which its files are listed. -/
theorem ofDirectory?_eq_of_perm (hname : IsEntryName name)
    (h : ∀ names ∈ below, ∀ other ∈ names, IsEntryName other) (hperm : below.Perm others) :
    ofDirectory? extension name below = ofDirectory? extension name others := by
  have hsources := (hperm.map fun names => relativePath (name :: names)).filter
    (isSource extension)
  rw [ofDirectory?, ofDirectory?, hsources.isEmpty_eq,
    ofFiles_eq_of_perm hsources (ofNames_relativePath hname h)]

theorem ofNames_of_ofDirectory? {group : Group} (hname : IsEntryName name)
    (h : ∀ names ∈ below, ∀ other ∈ names, IsEntryName other)
    (hgroup : ofDirectory? extension name below = some group) : group.OfNames := by
  rw [ofDirectory?] at hgroup
  split at hgroup
  · cases hgroup
  · obtain rfl := Option.some.inj hgroup
    intro path hpath
    exact ofNames_relativePath hname h path ((perm_sortOn id _).mem_iff.mp hpath)

theorem ofNames_of_ofName? {group : Group} (hname : IsEntryName name)
    (hgroup : ofName? extension name = some group) : group.OfNames := by
  rw [ofName?] at hgroup
  split at hgroup
  · obtain rfl := Option.some.inj hgroup
    intro path hpath
    rw [(perm_sortOn id _).mem_iff.mp hpath |> List.mem_singleton.mp]
    exact ⟨[name], by simp, by simpa using hname, (relativePath_singleton name).symm⟩
  · cases hgroup

end

end Group

/-! ### What a name in the root stands for -/

namespace FileTree

variable {tree after : FileTree} {root : Path} {location : Location} {entries lower : Contents}
  {extension name : String}

theorem contentsAt_of_resolve {path : Path}
    (h : tree.resolve .reading path = .ok (.directory entries)) :
    tree.contentsAt path = .ok entries := by
  rw [contentsAt, h]
  rfl

theorem isDirectory_of_resolve {path : Path}
    (h : tree.resolve .reading path = .ok (.directory entries)) : tree.isDirectory path = true :=
  isDirectory_iff.mpr ⟨_, h, True.intro⟩

theorem groupOf?_of_directory
    (h : tree.resolve .reading (root.join ⟨name⟩) = .ok (.directory lower)) :
    tree.groupOf? root extension name =
      match lower.unopened? (root.join ⟨name⟩) with
      | some problem => .error (.unlistable (root.join ⟨name⟩) problem)
      | none => .ok (Group.ofDirectory? extension name lower.files) := by
  rw [groupOf?, isDirectory_of_resolve h, if_pos rfl, filesBelow, contentsAt_of_resolve h]
  dsimp only [Except.mapError, bind, Except.bind]
  cases lower.unopened? (root.join ⟨name⟩) <;> rfl

/-- A directory is found in the root if the path to it is not too long. -/
theorem resolve_join_directory (hroot : tree.resolve .reading root = .ok (.directory entries))
    (hname : IsEntryName name) (hentry : entries.lookup name = some (.directory lower))
    (hproblem : spellingProblem? (root.join ⟨name⟩).text = none) :
    tree.resolve .reading (root.join ⟨name⟩) = .ok (.directory lower) := by
  obtain ⟨links, here, rfl, hjoin⟩ := resolve_join hroot hname hproblem
  exact hjoin _ (.down hname.takes hentry .done)

theorem groupOf?_of_not_directory (h : tree.isDirectory (root.join ⟨name⟩) = false) :
    tree.groupOf? root extension name = .ok (Group.ofName? extension name) := by
  rw [groupOf?, h, if_neg Bool.false_ne_true]

theorem isDirectory_of_spellingProblem {path : Path} {problem : FileProblem}
    (h : spellingProblem? path.text = some problem) : tree.isDirectory path = false := by
  cases hdirectory : tree.isDirectory path with
  | false => rfl
  | true =>
    obtain ⟨place, hplace, -⟩ := isDirectory_iff.mp hdirectory
    obtain ⟨-, hnone, -⟩ := resolve_eq_ok_iff.mp hplace
    rw [h] at hnone
    cases hnone

/-- The group of a file in the root is that of its name. -/
theorem groupOf?_of_file (hroot : tree.resolve .reading root = .ok (.directory entries))
    (hname : IsEntryName name) {content : ByteArray}
    (hentry : entries.lookup name = some (.file content)) :
    tree.groupOf? root extension name = .ok (Group.ofName? extension name) := by
  apply groupOf?_of_not_directory
  cases hproblem : spellingProblem? (root.join ⟨name⟩).text with
  | some problem => exact isDirectory_of_spellingProblem hproblem
  | none =>
    obtain ⟨links, here, rfl, hjoin⟩ := resolve_join hroot hname hproblem
    rw [isDirectory, contentsAt, hjoin _ (.file hname.takes hentry rfl)]
    rfl

/-- What is discovered is put together from what the names in the root stand for. -/
theorem discovered_of_resolve (hroot : tree.resolve .reading root = .ok (.directory entries)) :
    tree.discovered root extension =
      ((entries.map Prod.fst).mapM (tree.groupOf? root extension)).map fun found =>
        Group.sort (found.filterMap id) := by
  rw [discovered, isDirectory_of_resolve hroot, if_pos rfl, names, contentsAt_of_resolve hroot]
  show (Except.bind ((entries.map Prod.fst).mapM (tree.groupOf? root extension)) fun found =>
    .ok (Group.sort (found.filterMap id))) = _
  cases (entries.map Prod.fst).mapM (tree.groupOf? root extension) <;> rfl

/-- A root leads to a directory of a tree without links. -/
structure RootAt (tree : FileTree) (root : Path) (location : Location) (entries : Contents) :
    Prop where
  plain : tree.Plain
  resolve : tree.resolve .reading root = .ok (.directory entries)
  location_eq : tree.location root = location

namespace RootAt

variable (h : tree.RootAt root location entries)
include h

theorem get? : tree.get? location = some (.directory entries) := by
  have hat := resolve_isAt h.plain h.resolve
  rw [h.location_eq] at hat
  exact hat

theorem lookup (name : String) : tree.get? (location ++ [name]) = entries.lookup name :=
  Contents.get?_append_singleton h.get? name

theorem below (hentry : entries.lookup name = some (.directory lower)) (rest : Location) :
    tree.get? (location ++ name :: rest) = lower.get? rest := by
  have hhere := (h.lookup name).trans hentry
  rw [List.append_cons, FileTree.get?, Contents.get?_append, ← FileTree.get?, hhere]
  rfl

theorem distinct (hentry : entries.lookup name = some (.directory lower)) : lower.Distinct :=
  tree.distinct.of_get? ((h.lookup name).trans hentry)

theorem isEntryName {entry : Entry} (hentry : entries.lookup name = some entry) :
    IsEntryName name := by
  apply h.plain.names (location ++ [name])
  · rw [← FileTree.get?, h.lookup, hentry]
    simp
  · simp

theorem isEntryName_of_mem_files (hentry : entries.lookup name = some (.directory lower)) :
    ∀ names ∈ lower.files, ∀ other ∈ names, IsEntryName other := by
  intro names hnames other hother
  obtain ⟨content, hcontent⟩ := (Contents.mem_files_iff (h.distinct hentry)).mp hnames
  apply h.plain.names (location ++ name :: names)
  · rw [← FileTree.get?, h.below hentry, hcontent]
    simp
  · simp [hother]

/-- The groups of the names in a root are paths of names. -/
theorem ofNames_of_groupOf? {entry : Entry} (hentry : entries.lookup name = some entry)
    {group : Group} (hgroup : tree.groupOf? root extension name = .ok (some group)) :
    group.OfNames := by
  have hname := h.isEntryName hentry
  have hofName : ∀ {found : Option Group}, found = Group.ofName? extension name →
      found = some group → group.OfNames := by
    rintro _ rfl hfound
    exact Group.ofNames_of_ofName? hname hfound
  cases entry with
  | file content =>
    rw [groupOf?_of_file h.resolve hname hentry] at hgroup
    exact hofName rfl (Except.ok.inj hgroup)
  | link target => exact absurd ((h.lookup name).trans hentry) (h.plain.noLink _ target)
  | directory lower =>
    cases hproblem : spellingProblem? (root.join ⟨name⟩).text with
    | some problem =>
      rw [groupOf?_of_not_directory (isDirectory_of_spellingProblem hproblem)] at hgroup
      exact hofName rfl (Except.ok.inj hgroup)
    | none =>
      rw [groupOf?_of_directory (resolve_join_directory h.resolve hname hentry hproblem)] at hgroup
      split at hgroup
      · cases hgroup
      · exact Group.ofNames_of_ofDirectory? hname (h.isEntryName_of_mem_files hentry)
          (Except.ok.inj hgroup)

/-- What is discovered are groups of paths of names. -/
theorem ofNames_of_discovered {groups : List Group}
    (hfound : tree.discovered root extension = .ok groups) : ∀ group ∈ groups, group.OfNames := by
  rw [discovered_of_resolve h.resolve] at hfound
  obtain ⟨found, hmapM, rfl⟩ := map_eq_ok_iff.mp hfound
  intro group hgroup
  have hmem := (perm_sortOn Group.files _).mem_iff.mp hgroup
  obtain ⟨group?, hgroup?, hsome⟩ := List.mem_filterMap.mp hmem
  obtain rfl : group? = some group := hsome
  have hok : (.ok (some group) : Except Failure (Option Group)) ∈ found.map Except.ok :=
    List.mem_map_of_mem hgroup?
  rw [← mapM_eq_ok_iff.mp hmapM] at hok
  obtain ⟨name, hname, hhere⟩ := List.mem_map.mp hok
  obtain ⟨entry, hentry⟩ := Contents.exists_lookup_iff.mpr hname
  exact h.ofNames_of_groupOf? hentry hhere

end RootAt

/-- A root in which something is discovered leads to a directory. -/
theorem exists_rootAt (hplain : tree.Plain) {groups : List Group}
    (hfound : tree.discovered root extension = .ok groups) :
    ∃ entries, tree.RootAt root (tree.location root) entries := by
  cases hdirectory : tree.isDirectory root with
  | false =>
    rw [discovered, hdirectory] at hfound
    cases hfound
  | true =>
    obtain ⟨place, hplace, hisDirectory⟩ := isDirectory_iff.mp hdirectory
    cases place with
    | directory entries => exact ⟨entries, hplain, hplace, rfl⟩
    | file above name content => exact hisDirectory.elim
    | link above name => exact hisDirectory.elim
    | missing above name => exact hisDirectory.elim

theorem RootAt.grows (h : tree.RootAt root location entries)
    (hgrows : tree.Grows after) (hafter : after.Plain) :
    ∃ others, after.RootAt root location others := by
  obtain ⟨became, hbecame, hbecomes⟩ := resolve_grows hgrows h.resolve
  cases hbecomes with
  | directory _ others =>
    refine ⟨others, hafter, hbecame, ?_⟩
    rw [hgrows.location_eq, h.location_eq]

/-! ### Discovery in a tree that has grown -/

/-- A tree that has grown shows the same files beneath a root, and the directories that are new
there can be opened. -/
structure Shows (tree : FileTree) (root : Path) (location : Location) (after : FileTree) :
    Prop where
  grows : tree.entries.Grows after.entries
  files : ∀ names content, after.get? (location ++ names) = some (.file content) →
    tree.get? (location ++ names) ≠ none
  opened : ∀ names inner, tree.get? (location ++ names) = none →
    after.get? (location ++ names) = some (.directory inner) →
      spellingProblem? (root.joined names).text = none

namespace Shows

variable {others : Contents} (hshows : tree.Shows root location after)
  (h : tree.RootAt root location entries) (hafter : after.RootAt root location others)
include hshows h hafter

/-- The group of a name that was there is what it was. -/
theorem groupOf?_eq {entry : Entry} (hentry : entries.lookup name = some entry)
    {group? : Option Group} (hgroup : tree.groupOf? root extension name = .ok group?) :
    after.groupOf? root extension name = .ok group? := by
  have hhere := (h.lookup name).trans hentry
  have hname := h.isEntryName hentry
  cases entry with
  | link target => exact absurd hhere (h.plain.noLink _ target)
  | file content =>
    obtain ⟨new, hnew⟩ := hshows.grows.file hhere
    rw [groupOf?_of_file h.resolve hname hentry] at hgroup
    rw [groupOf?_of_file hafter.resolve hname ((hafter.lookup name).symm.trans hnew), hgroup]
  | directory lower =>
    obtain ⟨new, hnew⟩ := hshows.grows.directory hhere
    have hentryAfter := (hafter.lookup name).symm.trans hnew
    cases hproblem : spellingProblem? (root.join ⟨name⟩).text with
    | some problem =>
      rw [groupOf?_of_not_directory (isDirectory_of_spellingProblem hproblem)] at hgroup ⊢
      exact hgroup
    | none =>
      rw [groupOf?_of_directory (resolve_join_directory h.resolve hname hentry hproblem)] at hgroup
      rw [groupOf?_of_directory
        (resolve_join_directory hafter.resolve hname hentryAfter hproblem)]
      cases hopen : Contents.unopened? (root.join ⟨name⟩) lower with
      | some problem =>
        rw [hopen] at hgroup
        cases hgroup
      | none =>
        have hallOpen := (Contents.unopened?_eq_none_iff (h.distinct hentry)).mp hopen
        -- a directory beneath is new, or it was there and could be opened
        have hopenAfter : Contents.unopened? (root.join ⟨name⟩) new = none := by
          rw [Contents.unopened?_eq_none_iff (hafter.distinct hentryAfter)]
          intro rest inner hne hinner
          have hinner' := (hafter.below hentryAfter rest).trans hinner
          rcases hshows.grows.directory_before hinner' with hnone | ⟨old, hold⟩
          · exact hshows.opened (name :: rest) inner hnone hinner'
          · exact hallOpen rest old hne ((h.below hentry rest).symm.trans hold)
        have hfiles : (Contents.files lower).Perm (Contents.files new) := by
          apply Contents.files_perm (h.distinct hentry) (hafter.distinct hentryAfter)
          intro rest
          rw [← h.below hentry, ← hafter.below hentryAfter]
          constructor
          · rintro ⟨content, hcontent⟩
            exact hshows.grows.file hcontent
          · rintro ⟨content, hcontent⟩
            rcases hshows.grows.file_before hcontent with hnone | hold
            · exact absurd hnone (hshows.files (name :: rest) content hcontent)
            · exact hold
        rw [hopen] at hgroup
        rw [hopenAfter, ← hgroup]
        exact congrArg Except.ok (Group.ofDirectory?_eq_of_perm (h.isEntryName hentry)
          (h.isEntryName_of_mem_files hentry) hfiles).symm

/-- A name that is new stands for no group. -/
theorem groupOf?_eq_none {entry : Entry} (hnone : entries.lookup name = none)
    (hentry : others.lookup name = some entry) :
    after.groupOf? root extension name = .ok none := by
  have hbefore : ∀ rest, tree.get? (location ++ name :: rest) = none := by
    intro rest
    rw [List.append_cons, FileTree.get?, Contents.get?_append, ← FileTree.get?, h.lookup, hnone]
    rfl
  have hhere := (hafter.lookup name).trans hentry
  cases entry with
  | link target => exact absurd hhere (hafter.plain.noLink _ target)
  | file content => exact absurd (hbefore []) (hshows.files [name] content hhere)
  | directory lower =>
    have hproblem := hshows.opened [name] lower (hbefore []) hhere
    rw [groupOf?_of_directory
      (resolve_join_directory hafter.resolve (hafter.isEntryName hentry) hentry hproblem)]
    have hopen : Contents.unopened? (root.join ⟨name⟩) lower = none := by
      rw [Contents.unopened?_eq_none_iff (hafter.distinct hentry)]
      intro rest inner _ hinner
      exact hshows.opened (name :: rest) inner (hbefore rest)
        ((hafter.below hentry rest).trans hinner)
    have hfiles : Contents.files lower = [] := by
      rw [List.eq_nil_iff_forall_not_mem]
      intro rest hrest
      obtain ⟨content, hcontent⟩ := (Contents.mem_files_iff (hafter.distinct hentry)).mp hrest
      exact hshows.files (name :: rest) content ((hafter.below hentry rest).trans hcontent)
        (hbefore rest)
    rw [hopen, hfiles]
    rfl

/-- The same groups are discovered in a tree that shows the same files beneath the root. -/
theorem discovered_eq {groups : List Group} (hfound : tree.discovered root extension = .ok groups) :
    after.discovered root extension = .ok groups := by
  rw [discovered_of_resolve h.resolve] at hfound
  obtain ⟨found, hmapM, rfl⟩ := map_eq_ok_iff.mp hfound
  -- the group of a name that was there, and none for a name that is new
  let group (name : String) : Option Group :=
    if name ∈ entries.map Prod.fst then (tree.groupOf? root extension name).toOption.join else none
  have hgroup : ∀ name ∈ entries.map Prod.fst,
      tree.groupOf? root extension name = .ok (group name) := by
    intro name hname
    obtain ⟨group?, hgroup?⟩ := exists_mapM_eq_ok_iff.mp ⟨found, hmapM⟩ name hname
    have hhere : group name = group? := by
      show (if name ∈ entries.map Prod.fst then _ else none) = _
      rw [if_pos hname, hgroup?]
      rfl
    rw [hhere, hgroup?]
  have hgroupAfter : ∀ name ∈ others.map Prod.fst,
      after.groupOf? root extension name = .ok (group name) := by
    intro name hname
    obtain ⟨entry, hentry⟩ := Contents.exists_lookup_iff.mpr hname
    by_cases hbefore : name ∈ entries.map Prod.fst
    · obtain ⟨old, hold⟩ := Contents.exists_lookup_iff.mpr hbefore
      exact hshows.groupOf?_eq h hafter hold (hgroup name hbefore)
    · have hhere : group name = none := if_neg hbefore
      rw [hhere]
      exact hshows.groupOf?_eq_none h hafter (Contents.lookup_eq_none hbefore) hentry
  have hkeeps : ∀ name ∈ entries.map Prod.fst, name ∈ others.map Prod.fst := by
    intro name hname
    obtain ⟨entry, hentry⟩ := Contents.exists_lookup_iff.mpr hname
    have hkept := hshows.grows.keeps _ entry ((h.lookup name).trans hentry)
    rw [← FileTree.get?, hafter.lookup] at hkept
    obtain ⟨new, hnew, -⟩ := Option.map_eq_some_iff.mp hkept
    exact Contents.exists_lookup_iff.mp ⟨new, hnew⟩
  have hperm : ((entries.map Prod.fst).filterMap group).Perm
      ((others.map Prod.fst).filterMap group) :=
    filterMap_perm_of_subset (tree.distinct _ _ h.get?) (after.distinct _ _ hafter.get?) hkeeps
      fun name hname => if_neg hname
  have hnames : ∀ found ∈ (entries.map Prod.fst).filterMap group, found.OfNames := by
    intro found hfound
    obtain ⟨name, hname, hhere⟩ := List.mem_filterMap.mp hfound
    obtain ⟨entry, hentry⟩ := Contents.exists_lookup_iff.mpr hname
    exact h.ofNames_of_groupOf? hentry ((hgroup name hname).trans (congrArg _ hhere))
  rw [mapM_eq_ok_of_forall hgroup] at hmapM
  obtain rfl := Except.ok.inj hmapM
  rw [discovered_of_resolve hafter.resolve, mapM_eq_ok_of_forall hgroupAfter]
  have hlist : ∀ names : List String, (names.map group).filterMap id = names.filterMap group := by
    intro names
    rw [List.filterMap_map]
    rfl
  show Except.ok (Group.sort _) = Except.ok (Group.sort _)
  rw [hlist, hlist]
  exact congrArg Except.ok (Group.sort_eq_of_perm hperm hnames).symm

end Shows

end FileTree

/-! ### A directory that cannot be opened -/

/-- A directory that the path of the root is too long for makes discovery fail. -/
theorem FileTree.discovered_longRoot {tree : FileTree} {entries lower rest : Contents}
    (hroot : tree.resolve .reading longRoot =
      .ok (.directory (("d", .directory (("New", .directory lower) :: rest)) :: entries)))
    (extension : String) :
    tree.discovered longRoot extension =
      .error (.unlistable (longRoot.join ⟨"d"⟩)
        ⟨(longRoot.join ⟨"d"⟩).join ⟨"New"⟩, .tooLong⟩) := by
  have hdirectory := resolve_join_directory hroot isEntryName_d List.lookup_cons_self
    spellingProblem?_join_longRoot
  have hgroup : tree.groupOf? longRoot extension "d" =
      .error (.unlistable (longRoot.join ⟨"d"⟩)
        ⟨(longRoot.join ⟨"d"⟩).join ⟨"New"⟩, .tooLong⟩) := by
    rw [groupOf?_of_directory hdirectory, Contents.unopened?, spellingProblem?_join_join_longRoot]
  rw [discovered_of_resolve hroot, List.map_cons, List.mapM_cons, hgroup]
  rfl

end FindingCheck
