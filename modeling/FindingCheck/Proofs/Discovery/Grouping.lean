import FindingCheck.Proofs.Discovery.Sources

/-!
# What is discovered

Discovery goes through the names in the root and makes a group of the sources under each. The
groups are sorted, so it finds every source once, puts those together that lie under the same name
in the root, and lists all in order.

## Main definitions

* `Group.ofItem?`, `Group.ofItems` — the group of one item of a directory, and of all items
* `FileTree.discover` — discovery in a tree

## Main statements

* `isGrouping_ofItems` — the groups of all items are the sources, grouped
* `FileTree.discovered_eq` — what is discovered, by what lies in the root
* `FileTree.isGrouping_discover` — what is discovered are the sources, grouped
* `discover_fails_deepTree` — a directory that cannot be opened makes discovery fail
-/

namespace FindingCheck

/-! ### The group of one item -/

namespace Group

variable {entries : Contents} {extension : String} {item : String × Entry} {group : Group}
  {path : Path}

/-- The sources in one item of a directory. -/
def sourcesIn (extension : String) (item : String × Entry) : List Path :=
  ((Contents.files [item]).map relativePath).filter (isSource extension)

/-- The group of one item of a directory, unless there is no source in it. -/
def ofItem? (extension : String) (item : String × Entry) : Option Group :=
  if (sourcesIn extension item).isEmpty then none else some (ofFiles (sourcesIn extension item))

/-- The groups of the items of a directory, in order. -/
def ofItems (extension : String) (entries : Contents) : List Group :=
  sort (entries.filterMap (ofItem? extension))

theorem mem_ofItems_iff :
    group ∈ ofItems extension entries ↔ ∃ item ∈ entries, ofItem? extension item = some group :=
  (perm_sortOn files _).mem_iff.trans List.mem_filterMap

theorem ofItem?_file (extension name : String) (content : ByteArray) :
    ofItem? extension (name, .file content) = ofName? extension name := by
  rw [ofItem?, ofName?, sourcesIn, Contents.files, Contents.files, List.map_singleton,
    relativePath_singleton, List.filter_singleton]
  cases isSource extension ⟨name⟩ <;> rfl

theorem ofItem?_directory (extension name : String) (lower : Contents) :
    ofItem? extension (name, .directory lower) = ofDirectory? extension name lower.files := by
  rw [ofItem?, ofDirectory?, sourcesIn, Contents.files, Contents.files, List.append_nil,
    List.map_map]
  rfl

theorem ofItem?_eq_some_iff :
    ofItem? extension item = some group ↔
      sourcesIn extension item ≠ [] ∧ group = ofFiles (sourcesIn extension item) := by
  rw [ofItem?]
  cases sourcesIn extension item <;> simp [eq_comm]

theorem mem_sourcesIn_iff (hdistinct : Contents.Distinct [item]) :
    path ∈ sourcesIn extension item ↔
      ∃ names, Contents.SourceAt [item] extension names ∧ path = relativePath names := by
  rw [sourcesIn, List.mem_filter, List.mem_map]
  constructor
  · rintro ⟨⟨names, hnames, rfl⟩, hsource⟩
    exact ⟨names, ⟨(Contents.mem_files_iff hdistinct).mp hnames, hsource⟩, rfl⟩
  · rintro ⟨names, ⟨hfile, hsource⟩, rfl⟩
    exact ⟨⟨names, (Contents.mem_files_iff hdistinct).mpr hfile, rfl⟩, hsource⟩

/-- The files in the group of an item are the sources in it. -/
theorem mem_files_of_ofItem? (h : ofItem? extension item = some group)
    (hdistinct : Contents.Distinct [item]) :
    path ∈ group.files ↔
      ∃ names, Contents.SourceAt [item] extension names ∧ path = relativePath names := by
  obtain ⟨-, rfl⟩ := ofItem?_eq_some_iff.mp h
  rw [← mem_sourcesIn_iff hdistinct]
  exact (perm_sortOn id _).mem_iff

theorem exists_ofItem? (hdistinct : Contents.Distinct [item]) {names : Location}
    (h : Contents.SourceAt [item] extension names) :
    ∃ group, ofItem? extension item = some group ∧ relativePath names ∈ group.files := by
  have hmem := (mem_sourcesIn_iff hdistinct).mpr ⟨names, h, rfl⟩
  have hsome := ofItem?_eq_some_iff.mpr ⟨List.ne_nil_of_mem hmem, rfl⟩
  exact ⟨_, hsome, (mem_files_of_ofItem? hsome hdistinct).mpr ⟨names, h, rfl⟩⟩

theorem files_ne_nil_of_ofItem? (h : ofItem? extension item = some group) : group.files ≠ [] := by
  obtain ⟨hne, rfl⟩ := ofItem?_eq_some_iff.mp h
  intro hnil
  exact hne (List.perm_nil.mp ((perm_sortOn id _).symm.trans (.of_eq hnil)))

end Group

/-! ### The groups of all items -/

section

variable {entries : Contents} {extension : String} {item other : String × Entry}
  {group next : Group} (hdistinct : entries.Distinct)
include hdistinct

theorem Contents.SourceAt.of_item {names : Location} (hitem : item ∈ entries)
    (h : SourceAt [item] extension names) : entries.SourceAt extension names :=
  (sourceAt_iff_exists_item hdistinct).mpr ⟨item, hitem, h⟩

variable (hplain : entries.Plain)
include hplain

theorem Group.ofNames_of_ofItem? (hitem : item ∈ entries)
    (h : ofItem? extension item = some group) : group.OfNames := by
  intro path hpath
  obtain ⟨names, hsource, rfl⟩ :=
    (mem_files_of_ofItem? h (hdistinct.singleton hitem)).mp hpath
  exact (hsource.of_item hdistinct hitem).ofNames hplain

theorem Group.nodup_sourcesIn (hitem : item ∈ entries) : (sourcesIn extension item).Nodup := by
  have hsingle := hdistinct.singleton hitem
  have hsource : ∀ names ∈ (Contents.files [item]).filter (isSource extension ∘ relativePath),
      entries.SourceAt extension names := by
    intro names hnames
    obtain ⟨hmem, hsource⟩ := List.mem_filter.mp hnames
    exact .of_item hdistinct hitem ⟨(Contents.mem_files_iff hsingle).mp hmem, hsource⟩
  rw [sourcesIn, List.filter_map]
  refine ((Contents.nodup_files hsingle).filter _).map_on fun names hnames more hmore heq => ?_
  exact (hsource names hnames).eq_of_relativePath_eq (hsource more hmore) hplain heq

theorem Group.nodup_of_ofItem? (hitem : item ∈ entries)
    (h : ofItem? extension item = some group) : group.files.Nodup := by
  obtain ⟨-, rfl⟩ := ofItem?_eq_some_iff.mp h
  exact (perm_sortOn id _).nodup_iff.mpr (nodup_sourcesIn hdistinct hplain hitem)

/-- The files in the group of an item ascend strictly, for none of them is listed twice. -/
theorem Group.files_ascend_of_ofItem? (hitem : item ∈ entries)
    (h : ofItem? extension item = some group) :
    group.files.Pairwise fun a b => compare a b = .lt := by
  have hnames := ofNames_of_ofItem? hdistinct hplain hitem h
  have hnodup := nodup_of_ofItem? hdistinct hplain hitem h
  refine (group.ascends.and hnodup).imp_of_mem ?_
  rintro a b ha hb ⟨hle, hne⟩
  refine (Ordering.isLE_iff_eq_lt_or_eq_eq.mp hle).resolve_right fun hcompare => ?_
  exact hne ((hnames a ha).eq_of_compare (hnames b hb) hcompare)

/-- The groups of items with different names are disjoint. -/
theorem Group.disjoint_of_ofItem? (hitem : item ∈ entries) (hother : other ∈ entries)
    (hne : item.1 ≠ other.1) (h : ofItem? extension item = some group)
    (hnext : ofItem? extension other = some next) : group.Disjoint next := by
  intro path hpath path' hpath'
  obtain ⟨names, hsource, rfl⟩ :=
    (mem_files_of_ofItem? h (hdistinct.singleton hitem)).mp hpath
  obtain ⟨more, hmore, rfl⟩ :=
    (mem_files_of_ofItem? hnext (hdistinct.singleton hother)).mp hpath'
  rw [← Bool.not_eq_true, ← Path.compare_eq_iff]
  intro hcompare
  have hin := hsource.of_item hdistinct hitem
  have hinMore := hmore.of_item hdistinct hother
  have heq := hin.eq_of_relativePath_eq hinMore hplain
    ((hin.ofNames hplain).eq_of_compare (hinMore.ofNames hplain) hcompare)
  apply hne
  rw [← Option.some.injEq, ← hsource.head?_eq, ← hmore.head?_eq, heq]

/-- The names of the sources in the group of an item start with its name. -/
theorem Group.head?_eq_of_ofItem? {names : Location} (hitem : item ∈ entries)
    (h : ofItem? extension item = some group) (hsource : entries.SourceAt extension names)
    (hmem : relativePath names ∈ group.files) : names.head? = some item.1 := by
  obtain ⟨more, hmore, heq⟩ := (mem_files_of_ofItem? h (hdistinct.singleton hitem)).mp hmem
  rw [hsource.eq_of_relativePath_eq (hmore.of_item hdistinct hitem) hplain heq, hmore.head?_eq]

theorem Group.together_iff_ofItems {names more : Location}
    (hsource : entries.SourceAt extension names) (hmore : entries.SourceAt extension more) :
    (∃ group ∈ ofItems extension entries, relativePath names ∈ group.files ∧
      relativePath more ∈ group.files) ↔ names.head? = more.head? := by
  constructor
  · rintro ⟨group, hgroup, hnames, hmoreMem⟩
    obtain ⟨item, hitem, h⟩ := mem_ofItems_iff.mp hgroup
    rw [head?_eq_of_ofItem? hdistinct hplain hitem h hsource hnames,
      head?_eq_of_ofItem? hdistinct hplain hitem h hmore hmoreMem]
  · intro hhead
    obtain ⟨item, hitem, hnames⟩ := (Contents.sourceAt_iff_exists_item hdistinct).mp hsource
    obtain ⟨other, hother, hmoreIn⟩ := (Contents.sourceAt_iff_exists_item hdistinct).mp hmore
    rw [hnames.head?_eq, hmoreIn.head?_eq, Option.some.injEq] at hhead
    obtain rfl : item = other := by
      refine Prod.ext hhead (Option.some.inj ?_)
      rw [← hdistinct.lookup_of_mem hitem, hhead, hdistinct.lookup_of_mem hother]
    have hsingle := hdistinct.singleton hitem
    obtain ⟨group, h, hmem⟩ := exists_ofItem? hsingle hnames
    exact ⟨group, mem_ofItems_iff.mpr ⟨item, hitem, h⟩, hmem,
      (mem_files_of_ofItem? h hsingle).mpr ⟨more, hmoreIn, rfl⟩⟩

theorem Group.files_eq_singleton_of_ofItem? {name : String} (hitem : item ∈ entries)
    (h : ofItem? extension item = some group) (hsource : entries.SourceAt extension [name])
    (hmem : relativePath [name] ∈ group.files) : group.files = [relativePath [name]] := by
  have hhead := head?_eq_of_ofItem? hdistinct hplain hitem h hsource hmem
  have hall : ∀ path ∈ group.files, path = relativePath [name] := by
    intro path hpath
    obtain ⟨more, hmore, rfl⟩ := (mem_files_of_ofItem? h (hdistinct.singleton hitem)).mp hpath
    rw [hsource.eq_singleton (hmore.of_item hdistinct hitem) (hmore.head?_eq.trans hhead.symm)]
  have hreplicate := List.eq_replicate_of_mem hall
  have hnodup := nodup_of_ofItem? hdistinct hplain hitem h
  rw [hreplicate, List.nodup_replicate] at hnodup
  have hpos := List.length_pos_of_mem hmem
  have hlength : group.files.length = 1 := by omega
  rw [hreplicate, hlength]
  rfl

/-- The groups of the items of a directory, in order, are the sources, grouped. -/
theorem isGrouping_ofItems : IsGrouping entries extension (Group.ofItems extension entries) := by
  have hdisjoint : (Group.ofItems extension entries).Pairwise Group.Disjoint := by
    refine ((perm_sortOn Group.files _).pairwise_iff Group.Disjoint.symm).mpr ?_
    have hnames := List.pairwise_map.mp (Contents.distinct_iff.mp hdistinct).1
    exact List.pairwise_filterMap.mpr <| hnames.imp_of_mem fun hitem hother hne _ h _ hnext =>
      Group.disjoint_of_ofItem? hdistinct hplain hitem hother hne h hnext
  have hnonempty : ∀ group ∈ Group.ofItems extension entries, group.files ≠ [] := by
    intro group hgroup
    obtain ⟨item, -, h⟩ := Group.mem_ofItems_iff.mp hgroup
    exact Group.files_ne_nil_of_ofItem? h
  have hofNames : ∀ group ∈ Group.ofItems extension entries, group.OfNames := by
    intro group hgroup
    obtain ⟨item, hitem, h⟩ := Group.mem_ofItems_iff.mp hgroup
    exact Group.ofNames_of_ofItem? hdistinct hplain hitem h
  constructor
  case sources =>
    intro path
    constructor
    · rintro ⟨group, hgroup, hpath⟩
      obtain ⟨item, hitem, h⟩ := Group.mem_ofItems_iff.mp hgroup
      obtain ⟨names, hsource, rfl⟩ :=
        (Group.mem_files_of_ofItem? h (hdistinct.singleton hitem)).mp hpath
      exact ⟨names, hsource.of_item hdistinct hitem, rfl⟩
    · rintro ⟨names, hsource, rfl⟩
      obtain ⟨item, hitem, hin⟩ := (Contents.sourceAt_iff_exists_item hdistinct).mp hsource
      obtain ⟨group, h, hmem⟩ := Group.exists_ofItem? (hdistinct.singleton hitem) hin
      exact ⟨group, Group.mem_ofItems_iff.mpr ⟨item, hitem, h⟩, hmem⟩
  case together =>
    exact fun names more hsource hmore =>
      Group.together_iff_ofItems hdistinct hplain hsource hmore
  case alone =>
    intro name hsource group hgroup hmem
    obtain ⟨item, hitem, h⟩ := Group.mem_ofItems_iff.mp hgroup
    exact Group.files_eq_singleton_of_ofItem? hdistinct hplain hitem h hsource hmem
  case nonempty => exact hnonempty
  case filesAscend =>
    intro group hgroup
    obtain ⟨item, hitem, h⟩ := Group.mem_ofItems_iff.mp hgroup
    exact Group.files_ascend_of_ofItem? hdistinct hplain hitem h
  case ascend =>
    -- groups whose files compare as equal would share a path
    refine ((pairwise_sortOn Group.files _).and hdisjoint).imp_of_mem ?_
    rintro a b ha hb ⟨hle, hapart⟩
    refine (Ordering.isLE_iff_eq_lt_or_eq_eq.mp hle).resolve_right fun hcompare => ?_
    have hfiles := eq_of_compare_paths (hofNames a ha) (hofNames b hb) hcompare
    obtain ⟨path, hpath⟩ := List.exists_mem_of_ne_nil _ (hnonempty a ha)
    have hfalse := hapart path hpath path (hfiles ▸ hpath)
    simp at hfalse
  case disjoint => exact hdisjoint

end

/-! ### Discovery -/

namespace FileTree

/-- Discovery in a tree, and the tree after it. -/
def discover (tree : FileTree) (root : Path) (extension : String) :
    Except Failure (List Group) × FileTree :=
  (Corpus.discover root extension : ExceptT Failure (StateM FileTree) (List Group)).run.run tree

theorem discover_eq (tree : FileTree) (root : Path) (extension : String) :
    tree.discover root extension = (tree.discovered root extension, tree) :=
  onlyLooks_discover root extension tree

section

variable {tree : FileTree} {root : Path} {entries : Contents} {extension : String}
  (hroot : tree.resolve .reading root = .ok (.directory entries)) (hplain : entries.Plain)
  (hopen : Contents.AllOpen root entries)
include hroot

theorem distinct_of_resolve : entries.Distinct := by
  obtain ⟨location, hlocation⟩ := resolve_stands hroot
  exact tree.distinct.of_get? hlocation

include hplain hopen

theorem groupOf?_of_item {item : String × Entry} (hitem : item ∈ entries) :
    tree.groupOf? root extension item.1 = .ok (Group.ofItem? extension item) := by
  have hdistinct := distinct_of_resolve hroot
  have hentry := hdistinct.lookup_of_mem hitem
  have hget? : ∀ rest, entries.get? (item.1 :: rest) = item.2.within? rest := by
    intro rest
    rw [Contents.get?_cons, hentry]
    rfl
  have hname : IsEntryName item.1 := by
    refine hplain.names [item.1] ?_ item.1 List.mem_cons_self
    rw [hget?]
    cases item.2 <;> simp [Entry.within?, Contents.get?]
  obtain ⟨name, entry⟩ := item
  cases entry with
  | file content =>
    rw [Group.ofItem?_file]
    exact groupOf?_of_file hroot hname hentry
  | link target => exact absurd (hget? []) (hplain.noLink [name] target)
  | directory lower =>
    have hproblem : spellingProblem? (root.join ⟨name⟩).text = none :=
      hopen [name] lower (by simp) (hget? [])
    have hunopened : Contents.unopened? (root.join ⟨name⟩) lower = none := by
      rw [Contents.unopened?_eq_none_iff (hdistinct.of_get? (hget? []))]
      exact fun rest inner _ hinner =>
        hopen (name :: rest) inner (by simp) ((hget? rest).trans hinner)
    rw [Group.ofItem?_directory,
      groupOf?_of_directory (resolve_join_directory hroot hname hentry hproblem), hunopened]

/-- What is discovered are the groups of the items of the root. -/
theorem discovered_eq : tree.discovered root extension = .ok (Group.ofItems extension entries) := by
  have hfound : (entries.map Prod.fst).mapM (tree.groupOf? root extension) =
      .ok (entries.map (Group.ofItem? extension)) := by
    rw [mapM_eq_ok_iff, List.map_map, List.map_map]
    exact List.map_congr_left fun item hitem => groupOf?_of_item hroot hplain hopen hitem
  rw [discovered_of_resolve hroot, hfound, Group.ofItems]
  show Except.ok (Group.sort ((entries.map (Group.ofItem? extension)).filterMap id)) = _
  rw [List.filterMap_map]
  rfl

/-- Discovery finds every source beneath the root once, by its path from there, and groups the
sources by the names in the root. It finds the same groups whatever the order in which the
directories are enumerated. -/
theorem isGrouping_discover (extension : String) :
    ∃ groups, tree.discover root extension = (.ok groups, tree) ∧
      IsGrouping entries extension groups ∧
      (∀ group ∈ groups, ∀ path ∈ group.files,
        (root.join path).components = root.components ++ path.components) ∧
      ∀ (other : FileTree) (others : Contents),
        other.resolve .reading root = .ok (.directory others) →
        (∀ names, others.seen? names = entries.seen? names) →
          other.discover root extension = (.ok groups, other) := by
  have hgrouping : IsGrouping entries extension _ :=
    isGrouping_ofItems (distinct_of_resolve hroot) hplain
  refine ⟨Group.ofItems extension entries, ?_, hgrouping, ?_, ?_⟩
  · rw [discover_eq, discovered_eq hroot hplain hopen]
  · intro group hgroup path hpath
    obtain ⟨names, hsource, rfl⟩ := (hgrouping.sources path).mp ⟨group, hgroup, hpath⟩
    exact components_join_relativePath (isEmpty_of_resolve hroot) hsource.ne_nil
      (hsource.isEntryName hplain)
  · intro other others hother hsame
    have hplainOther := hplain.of_seen? hsame
    have hgroupingOther : IsGrouping others extension _ :=
      isGrouping_ofItems (distinct_of_resolve hother) hplainOther
    have hgroups := hgrouping.unique
      (hgroupingOther.congr fun names => (Contents.sourceAt_congr hsame).symm)
    rw [discover_eq, discovered_eq hother hplainOther (hopen.of_seen? hsame), hgroups]

end

end FileTree

/-- A tree with a source and one beneath a directory whose name ends as those of sources do. The
working directory lies beside them. -/
def corpusTree : FileTree :=
  ((((({ home := ["work"] } : FileTree).put [] "work" (.directory [])).put [] "samples"
    (.directory [])).put ["samples"] "A.java" (.file .empty)).put ["samples"] "x.java"
      (.directory [])).put ["samples", "x.java"] "B.java" (.file .empty)

theorem isGrouping_discover_corpusTree :
    ∃ groups, corpusTree.discover ⟨"..//samples/"⟩ "java" = (.ok groups, corpusTree) ∧
      ∃ group ∈ groups, Group.relativePath ["x.java", "B.java"] ∈ group.files := by
  let lower : Contents := [("B.java", .file .empty)]
  let entries : Contents := [("x.java", .directory lower), ("A.java", .file .empty)]
  have hspells : Path.Spells ⟨"..//samples/"⟩ ["..", "samples", ""] := by decide
  have hroot : corpusTree.resolve .reading ⟨"..//samples/"⟩ = .ok (.directory entries) := by
    rw [FileTree.resolve_of_spells _ hspells rfl]
    rfl
  have hlower : lower.Plain := .cons Contents.plain_nil (by decide) (by simp) Contents.plain_nil
  have hplain : entries.Plain :=
    .cons (.cons Contents.plain_nil (by decide) (by simp) Contents.plain_nil)
      (by decide) (by simp) hlower
  have hopen : Contents.AllOpen ⟨"..//samples/"⟩ entries := by
    have hproblem : spellingProblem? (Path.join ⟨"..//samples/"⟩ ⟨"x.java"⟩).text = none := by
      decide
    rw [← Contents.unopened?_eq_none_iff (FileTree.distinct_of_resolve hroot)]
    simp [entries, lower, Contents.unopened?, hproblem]
  obtain ⟨groups, hdiscover, hgrouping, -⟩ :=
    FileTree.isGrouping_discover hroot hplain hopen "java"
  have hsource : entries.SourceAt "java" ["x.java", "B.java"] := ⟨⟨.empty, rfl⟩, by decide⟩
  exact ⟨groups, hdiscover, (hgrouping.sources _).mpr ⟨_, hsource, rfl⟩⟩

/-! ### A directory that cannot be opened -/

/-- A tree with a source in the root and one deep in a directory. -/
def deepTree : FileTree :=
  (((((default : FileTree).put [] "samples" (.directory [])).put ["samples"] "A.java"
    (.file .empty)).put ["samples"] "d" (.directory [])).put ["samples", "d"] "New"
      (.directory [])).put ["samples", "d", "New"] "B.java" (.file .empty)

/-- A directory beneath the root that the root's path is too long for makes discovery fail, and
so nothing at all is discovered. -/
theorem discover_fails_deepTree :
    ∃ entries, deepTree.resolve .reading longRoot = .ok (.directory entries) ∧ entries.Plain ∧
      entries.SourceAt "java" ["A.java"] ∧
      deepTree.discover longRoot "java" =
        (.error (.unlistable (longRoot.join ⟨"d"⟩)
          ⟨(longRoot.join ⟨"d"⟩).join ⟨"New"⟩, .tooLong⟩), deepTree) := by
  let inner : Contents := [("New", .directory [("B.java", .file .empty)])]
  let entries : Contents := [("d", .directory inner), ("A.java", .file .empty)]
  have hroot : deepTree.resolve .reading longRoot = .ok (.directory entries) :=
    resolve_longRoot rfl
  have hfile : Contents.Plain [("A.java", .file .empty)] :=
    .cons Contents.plain_nil (by decide) (by simp) Contents.plain_nil
  have hdeep : Contents.Plain [("B.java", .file .empty)] :=
    .cons Contents.plain_nil (by decide) (by simp) Contents.plain_nil
  have hinner : inner.Plain := .cons Contents.plain_nil (by decide) (by simp) hdeep
  have hplain : entries.Plain := .cons hfile isEntryName_d (by simp) hinner
  refine ⟨entries, hroot, hplain, ⟨⟨.empty, rfl⟩, by decide⟩, ?_⟩
  rw [FileTree.discover_eq, FileTree.discovered_longRoot hroot]

end FindingCheck
