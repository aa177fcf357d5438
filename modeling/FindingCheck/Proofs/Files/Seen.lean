import FindingCheck.Files.Tree

/-!
# What is seen of a tree of files

Two trees are compared location by location. What is seen at a location is a file with its content,
a link with its target, or that there is a directory: what lies in a directory is seen at the
locations beneath it. So a change of one entry is seen in one place only.

## Main definitions

* `Entry.bare`, `FileTree.seen?` — what is seen of an entry, and at a location

## Main statements

* `Contents.get?_append` — what stands at a location is found in two steps
* `Contents.get?_change_put`, `Contents.seen?_change_put` — what a change of one directory does
* `FileTree.seen?_put` — an entry that holds nothing is seen where it was put, and nowhere else
-/

namespace FindingCheck

/-- What is seen of an entry. Of a directory, only that it is one. -/
def Entry.bare : Entry → Entry
  | .directory _ => .directory []
  | entry => entry

/-- What stands at a location, seen from an entry. Only directories lead on. -/
def Entry.within? : Entry → Location → Option Entry
  | .directory below, location => Contents.get? below location
  | entry, [] => some entry
  | _, _ :: _ => none

namespace Contents

theorem get?_cons (entries : Contents) (name : String) (rest : Location) :
    entries.get? (name :: rest) = (entries.lookup name).bind (·.within? rest) := by
  rw [get?]
  cases hname : entries.lookup name with
  | none => rfl
  | some entry => cases entry <;> cases rest <;> rfl

/-- What stands at a location is found in two steps. -/
theorem get?_append (entries : Contents) (above below : Location) :
    entries.get? (above ++ below) = (entries.get? above).bind (·.within? below) := by
  induction above generalizing entries with
  | nil => rfl
  | cons name rest ih =>
    rw [List.cons_append, get?_cons, get?_cons]
    cases hname : entries.lookup name with
    | none => rfl
    | some entry =>
      cases entry with
      | directory inner => exact ih inner
      | file content => cases rest <;> cases below <;> rfl
      | link target => cases rest <;> cases below <;> rfl

theorem get?_append_singleton {entries inner : Contents} {location : Location}
    (h : entries.get? location = some (.directory inner)) (name : String) :
    entries.get? (location ++ [name]) = inner.lookup name := by
  rw [get?_append, h]
  show Contents.get? inner [name] = _
  rw [get?_cons]
  cases hname : inner.lookup name with
  | none => rfl
  | some entry => cases entry <;> rfl

/-- What is seen at a location. -/
def seen? (entries : Contents) (location : Location) : Option Entry :=
  (entries.get? location).map Entry.bare

section

variable {entries : Contents} {location : Location}

theorem seen?_eq_none_iff : entries.seen? location = none ↔ entries.get? location = none :=
  Option.map_eq_none_iff

theorem seen?_eq_file_iff {content : ByteArray} :
    entries.seen? location = some (.file content) ↔
      entries.get? location = some (.file content) := by
  rw [seen?]
  cases entries.get? location with
  | none => simp
  | some entry => cases entry <;> simp [Entry.bare]

theorem seen?_eq_link_iff {target : String} :
    entries.seen? location = some (.link target) ↔
      entries.get? location = some (.link target) := by
  rw [seen?]
  cases entries.get? location with
  | none => simp
  | some entry => cases entry <;> simp [Entry.bare]

theorem seen?_eq_directory_iff :
    entries.seen? location = some (.directory []) ↔
      ∃ inner, entries.get? location = some (.directory inner) := by
  rw [seen?]
  cases entries.get? location with
  | none => simp
  | some entry => cases entry <;> simp [Entry.bare]

end

variable {entries inner : Contents} {directory : Location} {name : String} {entry : Entry}

/-- Where an entry was put, the entry and what lies in it are found. -/
theorem get?_change_put (h : entries.get? directory = some (.directory inner)) (rest : Location) :
    (change (fun below => below.put name entry) directory entries).get?
        (directory ++ name :: rest) =
      entry.within? rest := by
  induction directory generalizing entries with
  | nil =>
    rw [change, List.nil_append, get?_cons, lookup_put, if_pos rfl]
    rfl
  | cons first others ih =>
    rw [get?_cons] at h
    cases hfirst : entries.lookup first with
    | none => simp [hfirst] at h
    | some found =>
      rw [hfirst] at h
      cases found with
      | directory below =>
        rw [change, hfirst]
        simp only
        rw [List.cons_append, get?_cons, lookup_put, if_pos rfl]
        exact ih h
      | file content => cases others <;> simp [Entry.within?] at h
      | link target => cases others <;> simp [Entry.within?] at h

/-- Everywhere else, what was seen is seen. -/
theorem seen?_change_put (h : entries.get? directory = some (.directory inner))
    {location : Location}
    (hlocation : ¬directory ++ [name] <+: location) :
    (change (fun below => below.put name entry) directory entries).seen? location =
      entries.seen? location := by
  induction directory generalizing entries location with
  | nil =>
    cases location with
    | nil => rfl
    | cons first rest =>
      have hne : first ≠ name := by
        rintro rfl
        exact hlocation ⟨rest, rfl⟩
      rw [change, seen?, seen?, get?_cons, get?_cons, lookup_put, if_neg hne]
  | cons above others ih =>
    rw [get?_cons] at h
    cases habove : entries.lookup above with
    | none => simp [habove] at h
    | some found =>
      rw [habove] at h
      cases found with
      | file content => cases others <;> simp [Entry.within?] at h
      | link target => cases others <;> simp [Entry.within?] at h
      | directory below =>
        rw [change, habove]
        simp only
        cases location with
        | nil => rfl
        | cons first rest =>
          rw [seen?, seen?, get?_cons, get?_cons, lookup_put]
          by_cases hfirst : first = above
          · subst hfirst
            rw [if_pos rfl, habove]
            apply ih h
            intro hunder
            exact hlocation (List.cons_prefix_cons.mpr ⟨rfl, hunder⟩)
          · rw [if_neg hfirst]

end Contents

namespace FileTree

/-- What is seen at a location. -/
def seen? (tree : FileTree) (location : Location) : Option Entry :=
  tree.entries.seen? location

theorem seen?_eq_none_iff {tree : FileTree} {location : Location} :
    tree.seen? location = none ↔ tree.get? location = none :=
  Contents.seen?_eq_none_iff

theorem seen?_eq_file_iff {tree : FileTree} {location : Location} {content : ByteArray} :
    tree.seen? location = some (.file content) ↔ tree.get? location = some (.file content) :=
  Contents.seen?_eq_file_iff

theorem seen?_eq_link_iff {tree : FileTree} {location : Location} {target : String} :
    tree.seen? location = some (.link target) ↔ tree.get? location = some (.link target) :=
  Contents.seen?_eq_link_iff

theorem seen?_eq_directory_iff {tree : FileTree} {location : Location} :
    tree.seen? location = some (.directory []) ↔
      ∃ inner, tree.get? location = some (.directory inner) :=
  Contents.seen?_eq_directory_iff

variable {tree : FileTree} {inner : Contents} {directory : Location} {name : String}

/-- Nothing is seen beneath a name that is missing or stands for no directory. -/
theorem seen?_eq_none_of_prefix (hdirectory : tree.get? directory = some (.directory inner))
    (hname : ∀ below, inner.lookup name ≠ some (.directory below)) {location : Location}
    (hunder : directory ++ [name] <+: location) (hne : location ≠ directory ++ [name]) :
    tree.seen? location = none := by
  obtain ⟨rest, rfl⟩ := hunder
  cases rest with
  | nil => exact absurd (List.append_nil _) hne
  | cons next rest =>
    rw [seen?_eq_none_iff, get?, Contents.get?_append,
      Contents.get?_append_singleton hdirectory name]
    cases hlookup : inner.lookup name with
    | none => rfl
    | some entry =>
      cases entry with
      | directory below => exact absurd hlookup (hname below)
      | file content => rfl
      | link target => rfl

/-- An entry that holds nothing, put where no directory is, is seen there and nowhere else. -/
theorem seen?_put (hdirectory : tree.get? directory = some (.directory inner))
    (hname : ∀ below, inner.lookup name ≠ some (.directory below)) {entry : Entry}
    (hentry : entry.contents = []) (hdistinct : entry.contents.Distinct) (location : Location) :
    (tree.put directory name entry hdistinct).seen? location =
      if location = directory ++ [name] then some entry.bare else tree.seen? location := by
  by_cases hunder : directory ++ [name] <+: location
  · obtain ⟨rest, rfl⟩ := hunder
    have hput : (tree.put directory name entry hdistinct).seen? (directory ++ [name] ++ rest) =
        (entry.within? rest).map Entry.bare := by
      rw [List.append_assoc]
      exact congrArg _ (Contents.get?_change_put hdirectory rest)
    rw [hput]
    cases rest with
    | nil =>
      rw [if_pos (List.append_nil _)]
      cases entry <;> rfl
    | cons next rest =>
      have hne : directory ++ [name] ++ next :: rest ≠ directory ++ [name] := by simp
      rw [if_neg hne, seen?_eq_none_of_prefix hdirectory hname ⟨_, rfl⟩ hne]
      cases entry with
      | directory below =>
        have hbelow : below = [] := hentry
        subst hbelow
        rfl
      | file content => rfl
      | link target => rfl
  · have hne : location ≠ directory ++ [name] := fun h => hunder (h ▸ List.prefix_rfl)
    rw [if_neg hne]
    exact Contents.seen?_change_put hdirectory hunder

end FileTree

end FindingCheck
