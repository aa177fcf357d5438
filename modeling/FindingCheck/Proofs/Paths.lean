import FindingCheck.Corpus
import FindingCheck.Files.Tree.Walk
import Mathlib.Data.List.Basic

/-!
# Paths and the names on them

A path is a text. What it says are the names between its slashes, and joining two paths puts the
names of the one behind those of the other.

## Main definitions

* `IsEntryName` — a name that can stand in a directory
* `Path.Spells` — a path along which a walk goes by given names
* `Path.baseNames` — the names on a path
* `Path.joined` — a path joined with one name after the other

## Main statements

* `isEntryName_of_mem_pathNames` — the names on a path can stand in directories
* `pathNames_join_relativePath` — the names on a joined path
* `components_relativePath`, `components_join_relativePath` — what counts of a path of names, and
  of a path joined with names
-/

namespace FindingCheck

/-- A name that can stand in a directory. -/
structure IsEntryName (name : String) : Prop where
  idle : isIdle name = false
  up : name ≠ ".."
  slash : '/' ∉ name.toList
  zero : '\x00' ∉ name.toList
  short : isLong name = false

instance (name : String) : Decidable (IsEntryName name) :=
  decidable_of_iff (isIdle name = false ∧ name ≠ ".." ∧ '/' ∉ name.toList ∧
    '\x00' ∉ name.toList ∧ isLong name = false)
    ⟨fun ⟨idle, up, slash, zero, short⟩ => ⟨idle, up, slash, zero, short⟩,
      fun h => ⟨h.idle, h.up, h.slash, h.zero, h.short⟩⟩

theorem isSpelling_iff {text : String} : isSpelling text = true ↔ '\x00' ∉ text.toList := by
  simp [isSpelling, String.contains_char_eq]

/-- A path spells names: a walk along it goes by these names. -/
def Path.Spells (path : Path) (names : List String) : Prop :=
  '\x00' ∉ path.text.toList ∧ spellingProblem? path.text = none ∧ pathNames path = names

instance (path : Path) (names : List String) : Decidable (path.Spells names) :=
  inferInstanceAs (Decidable (_ ∧ _))

theorem mem_splitOn {c separator : Char} {chars segment : List Char}
    (h : segment ∈ chars.splitOn separator) (hc : c ∈ segment) : c ∈ chars ∧ c ≠ separator := by
  induction chars generalizing segment with
  | nil =>
    rw [List.splitOn_nil, List.mem_singleton] at h
    subst h
    cases hc
  | cons first rest ih =>
    rw [List.splitOn_cons_eq_if_modifyHead] at h
    split at h
    · rcases List.mem_cons.mp h with rfl | h
      · cases hc
      · exact (ih h hc).imp_left (List.mem_cons_of_mem first)
    · next hfirst =>
      cases hsplit : rest.splitOn separator with
      | nil =>
        rw [hsplit] at h
        cases h
      | cons head others =>
        rw [hsplit] at h ih
        rcases List.mem_cons.mp h with rfl | h
        · rcases List.mem_cons.mp hc with rfl | hc
          · exact ⟨List.mem_cons_self, by simpa using hfirst⟩
          · exact (ih List.mem_cons_self hc).imp_left (List.mem_cons_of_mem first)
        · exact (ih (List.mem_cons_of_mem head h) hc).imp_left (List.mem_cons_of_mem first)

namespace Path

/-- The names on a path, without what a slash at the end asks for. -/
def baseNames (path : Path) : List String :=
  (path.segments.filter (· ≠ [])).map String.ofList

/-- A path joined with one name after the other. -/
def joined (path : Path) (names : List String) : Path :=
  names.foldl (fun above name => above.join ⟨name⟩) path

theorem pathNames_eq (path : Path) :
    ∃ idle, (∀ name ∈ idle, isIdle name = true) ∧ pathNames path = path.baseNames ++ idle := by
  rw [pathNames]
  split
  · exact ⟨[""], by simp [isIdle], rfl⟩
  · exact ⟨[], by simp, rfl⟩

theorem pathNames_eq_baseNames {path : Path} (h : path.text.toList.getLast? ≠ some '/') :
    pathNames path = path.baseNames := by
  rw [pathNames, if_neg h, List.append_nil]
  rfl

theorem toList_join {base relative : Path} (hbase : base.text.isEmpty = false)
    (hrelative : relative.isAbsolute = false) :
    (base.join relative).text.toList =
      if base.text.toList.getLast? = some '/' then base.text.toList ++ relative.text.toList
      else base.text.toList ++ '/' :: relative.text.toList := by
  rw [join, hbase, hrelative]
  by_cases hslash : base.text.toList.getLast? = some '/'
  · simp [hslash]
  · simp [hslash]

/-- The names on a joined path are those of the two paths, one after the other. -/
theorem baseNames_join {base relative : Path} (hbase : base.text.isEmpty = false)
    (hrelative : relative.isAbsolute = false) :
    (base.join relative).baseNames = base.baseNames ++ relative.baseNames := by
  have hchars := toList_join hbase hrelative
  rw [baseNames, baseNames, baseNames, segments, segments, segments, hchars]
  split
  · next hslash =>
    obtain ⟨front, hfront⟩ := List.getLast?_eq_some_iff.mp hslash
    rw [hfront, List.append_assoc, List.singleton_append, List.splitOn_append_cons_self,
      List.splitOn_append_cons_self]
    simp
  · rw [List.splitOn_append_cons_self, List.filter_append, List.map_append]

theorem isAbsolute_join {base relative : Path} (hbase : base.text.isEmpty = false)
    (hrelative : relative.isAbsolute = false) :
    (base.join relative).isAbsolute = base.isAbsolute := by
  have hchars := toList_join hbase hrelative
  have hne : base.text.toList ≠ [] := by
    intro hnil
    rw [String.toList_eq_nil_iff] at hnil
    rw [hnil] at hbase
    cases hbase
  obtain ⟨first, rest, hfirst⟩ := List.exists_cons_of_ne_nil hne
  rw [isAbsolute, isAbsolute, hchars, hfirst]
  split <;> rfl

theorem join_eq {base relative : Path} (hbase : base.text.isEmpty = false)
    (hslash : base.text.toList.getLast? ≠ some '/') (hrelative : relative.isAbsolute = false) :
    base.join relative = ⟨base.text ++ "/" ++ relative.text⟩ := by
  rw [join, hbase, hrelative, if_neg (by simp), if_neg hslash]

theorem isSpelling_join {base relative : Path} (hbase : isSpelling base.text = true)
    (hrelative : isSpelling relative.text = true) :
    isSpelling (base.join relative).text = true := by
  rw [isSpelling_iff] at hbase hrelative ⊢
  rw [join]
  split
  · exact hrelative
  · split
    · simp [hbase, hrelative]
    · simp [hbase, hrelative]

end Path

theorem isEntryName_of_mem_pathNames {path : Path} {name : String}
    (hspelling : isSpelling path.text = true) (hname : name ∈ pathNames path)
    (hidle : isIdle name = false) (hup : name ≠ "..") (hlong : isLong name = false) :
    IsEntryName name := by
  obtain ⟨idle, hallIdle, hnames⟩ := path.pathNames_eq
  rw [hnames, List.mem_append] at hname
  rcases hname with hname | hname
  · obtain ⟨segment, hsegment, rfl⟩ := List.mem_map.mp hname
    have hmem := (List.mem_filter.mp hsegment).1
    refine ⟨hidle, hup, ?_, ?_, hlong⟩
    · intro hslash
      rw [String.toList_ofList] at hslash
      exact (mem_splitOn hmem hslash).2 rfl
    · intro hzero
      rw [String.toList_ofList] at hzero
      exact isSpelling_iff.mp hspelling (mem_splitOn hmem hzero).1
  · rw [hallIdle name hname] at hidle
    cases hidle

/-! ### Paths of names -/

theorem IsEntryName.toList_ne_nil {name : String} (h : IsEntryName name) : name.toList ≠ [] := by
  intro hnil
  rw [String.toList_eq_nil_iff] at hnil
  have hidle := h.idle
  rw [hnil] at hidle
  cases hidle

theorem IsEntryName.toList_ne_dot {name : String} (h : IsEntryName name) : name.toList ≠ ['.'] := by
  intro hdot
  have hidle := h.idle
  rw [String.toList_inj.mp (hdot.trans (by rfl : ['.'] = ".".toList))] at hidle
  cases hidle

section

variable {names : List String}

theorem segments_relativePath (hne : names ≠ []) (h : ∀ name ∈ names, IsEntryName name) :
    (Group.relativePath names).segments = names.map String.toList := by
  rw [Path.segments, Group.relativePath, String.toList_intercalate]
  apply List.splitOn_intercalate
  · intro chars hchars
    obtain ⟨name, hname, rfl⟩ := List.mem_map.mp hchars
    exact (h name hname).slash
  · simpa using hne

theorem baseNames_relativePath (hne : names ≠ []) (h : ∀ name ∈ names, IsEntryName name) :
    (Group.relativePath names).baseNames = names := by
  have hsegments : ∀ segment ∈ names.map String.toList, decide (segment ≠ []) = true := by
    intro segment hsegment
    obtain ⟨name, hname, rfl⟩ := List.mem_map.mp hsegment
    exact decide_eq_true (h name hname).toList_ne_nil
  rw [Path.baseNames, segments_relativePath hne h, List.filter_eq_self.mpr hsegments, List.map_map]
  simp

theorem toList_relativePath_ne_nil (hne : names ≠ []) (h : ∀ name ∈ names, IsEntryName name) :
    (Group.relativePath names).text.toList ≠ [] := by
  intro hnil
  have hsegments := segments_relativePath hne h
  rw [Path.segments, hnil, List.splitOn_nil] at hsegments
  have hempty : ([] : List Char) ∈ names.map String.toList := by
    rw [← hsegments]
    simp
  obtain ⟨name, hname, hchars⟩ := List.mem_map.mp hempty
  exact (h name hname).toList_ne_nil hchars

theorem getLast?_relativePath (hne : names ≠ []) (h : ∀ name ∈ names, IsEntryName name) :
    (Group.relativePath names).text.toList.getLast? ≠ some '/' := by
  intro hlast
  obtain ⟨front, hfront⟩ := List.getLast?_eq_some_iff.mp hlast
  have hsegments := segments_relativePath hne h
  rw [Path.segments, hfront, List.splitOn_append_cons_self, List.splitOn_nil] at hsegments
  have hempty : ([] : List Char) ∈ names.map String.toList := by
    rw [← hsegments]
    simp
  obtain ⟨name, hname, hnil⟩ := List.mem_map.mp hempty
  exact (h name hname).toList_ne_nil hnil

theorem isAbsolute_relativePath (hne : names ≠ []) (h : ∀ name ∈ names, IsEntryName name) :
    (Group.relativePath names).isAbsolute = false := by
  cases habsolute : (Group.relativePath names).isAbsolute with
  | false => rfl
  | true =>
    have hhead : (Group.relativePath names).text.toList.head? = some '/' := by
      simpa [Path.isAbsolute] using habsolute
    obtain ⟨rest, hrest⟩ := List.head?_eq_some_iff.mp hhead
    have hsegments := segments_relativePath hne h
    rw [Path.segments, hrest, ← List.nil_append ('/' :: rest), List.splitOn_append_cons_self,
      List.splitOn_nil] at hsegments
    have hempty : ([] : List Char) ∈ names.map String.toList := by
      rw [← hsegments]
      simp
    obtain ⟨name, hname, hnil⟩ := List.mem_map.mp hempty
    exact absurd hnil (h name hname).toList_ne_nil

/-- The names on a path that is joined with names. -/
theorem pathNames_join_relativePath {base : Path} (hbase : base.text.isEmpty = false)
    (hne : names ≠ []) (h : ∀ name ∈ names, IsEntryName name) :
    pathNames (base.join (Group.relativePath names)) = base.baseNames ++ names := by
  have habsolute := isAbsolute_relativePath hne h
  rw [Path.pathNames_eq_baseNames, Path.baseNames_join hbase habsolute,
    baseNames_relativePath hne h]
  rw [Path.toList_join hbase habsolute]
  have hlast := getLast?_relativePath hne h
  obtain ⟨first, rest, hfirst⟩ := List.exists_cons_of_ne_nil
    (toList_relativePath_ne_nil hne h)
  rw [hfirst] at hlast ⊢
  split
  · rwa [List.getLast?_append_of_ne_nil _ (by simp)]
  · rwa [List.append_cons, List.getLast?_append_of_ne_nil _ (by simp)]

/-- A path that is joined with names leads on from where the path leads. -/
theorem isAbsolute_join_relativePath {base : Path} (hbase : base.text.isEmpty = false)
    (hne : names ≠ []) (h : ∀ name ∈ names, IsEntryName name) :
    (base.join (Group.relativePath names)).isAbsolute = base.isAbsolute :=
  Path.isAbsolute_join hbase (isAbsolute_relativePath hne h)

theorem relativePath_singleton (name : String) : Group.relativePath [name] = ⟨name⟩ := by
  rw [Group.relativePath, String.intercalate_singleton]

theorem anchor?_relativePath (hne : names ≠ []) (h : ∀ name ∈ names, IsEntryName name) :
    (Group.relativePath names).anchor? = none := by
  obtain ⟨first, rest, rfl⟩ := List.exists_cons_of_ne_nil hne
  rw [Path.anchor?, isAbsolute_relativePath hne h, segments_relativePath hne h]
  simpa using (h first List.mem_cons_self).toList_ne_dot

/-- What counts of a path of names are the names. -/
theorem components_relativePath (hne : names ≠ []) (h : ∀ name ∈ names, IsEntryName name) :
    (Group.relativePath names).components = names.map Component.name := by
  have hcomponent : ∀ name ∈ names, Path.component? name.toList = some (.name name) := by
    intro name hname
    have hup : name.toList ≠ ['.', '.'] := by
      intro hchars
      exact (h name hname).up (String.toList_inj.mp hchars)
    have hidle : ¬(decide (name.toList = []) || decide (name.toList = ['.'])) = true := by
      simp [(h name hname).toList_ne_nil, (h name hname).toList_ne_dot]
    rw [Path.component?, if_neg hidle, if_neg hup, String.ofList_toList]
  have hnames : (names.filterMap fun name => Path.component? name.toList) =
      names.map Component.name := by
    rw [List.filterMap_congr hcomponent]
    exact congrFun List.filterMap_eq_map names
  rw [Path.components, anchor?_relativePath hne h, segments_relativePath hne h, List.filterMap_map]
  exact hnames

/-- What counts of a path that is joined with names: first what counts of the path, however it
is spelled, and then the names. -/
theorem components_join_relativePath {base : Path} (hbase : base.text.isEmpty = false)
    (hne : names ≠ []) (h : ∀ name ∈ names, IsEntryName name) :
    (base.join (Group.relativePath names)).components =
      base.components ++ (Group.relativePath names).components := by
  have habsolute := isAbsolute_relativePath hne h
  have hchars := Path.toList_join hbase habsolute
  -- a slash at the end of the path makes a last part that is empty
  obtain ⟨front, hfront, hsegments⟩ : ∃ front : List (List Char), front ≠ [] ∧
      (base.segments = front ∨ base.segments = front ++ [[]]) ∧
        (base.join (Group.relativePath names)).segments =
          front ++ (Group.relativePath names).segments := by
    split at hchars
    · next hslash =>
      obtain ⟨front, hlast⟩ := List.getLast?_eq_some_iff.mp hslash
      refine ⟨front.splitOn '/', List.splitOn_ne_nil _ _, .inr ?_, ?_⟩
      · rw [Path.segments, hlast, List.splitOn_append_cons_self, List.splitOn_nil]
      · rw [Path.segments, hchars, hlast, List.append_assoc, List.singleton_append,
          List.splitOn_append_cons_self]
        rfl
    · refine ⟨base.segments, List.splitOn_ne_nil _ _, .inl rfl, ?_⟩
      rw [Path.segments, hchars, List.splitOn_append_cons_self]
      rfl
  obtain ⟨hbaseSegments, hjoined⟩ := hsegments
  obtain ⟨first, rest, rfl⟩ := List.exists_cons_of_ne_nil hfront
  have hanchor : (base.join (Group.relativePath names)).anchor? = base.anchor? := by
    rw [Path.anchor?, Path.anchor?, Path.isAbsolute_join hbase habsolute, hjoined]
    rcases hbaseSegments with hbaseSegments | hbaseSegments <;> rw [hbaseSegments] <;> rfl
  have hcomponents : base.segments.filterMap Path.component? =
      (first :: rest).filterMap Path.component? := by
    rcases hbaseSegments with hbaseSegments | hbaseSegments <;> rw [hbaseSegments]
    rw [List.filterMap_append]
    exact List.append_nil _
  rw [Path.components, Path.components, Path.components, hanchor, anchor?_relativePath hne h,
    hjoined, hcomponents, List.filterMap_append, List.append_assoc]
  rfl

end

end FindingCheck
