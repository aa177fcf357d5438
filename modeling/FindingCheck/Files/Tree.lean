import FindingCheck.Files

/-!
# Trees of files

A tree of files is a value: a directory holds entries under their names, and some of the entries
are directories in turn. The tree holds all that a machine has, and one of its directories is the
working directory.

## Main definitions

* `Location`, `Entry`, `Contents`, `FileTree` — the trees
* `Interruption` — how the writing of a file breaks off
* `Contents.get?` — what stands at a location
* `Contents.put`, `Contents.erase` — the changes of one directory
* `Contents.change`, `FileTree.put` — the changes of a directory in a tree
* `Contents.files` — the files in a directory and in the directories beneath it

## Main statements

* `Contents.distinct_iff` — what it takes that no name stands twice
* `Contents.Distinct.change` — a change of one directory keeps the names of all others apart

## Design notes

The entries of a directory are a list, whose order stands for the order in which a directory is
enumerated. That every entry lies in a directory is so by the shape of a tree; that no name stands
twice in a directory is part of the type.

Whether a disk is full is not known from the files on it. So a tree says by itself how writing
breaks off, and what holds for every tree holds however it does.
-/

namespace FindingCheck

/-- The names that lead to an entry from a directory. -/
abbrev Location := List String

/-- What stands under a name. -/
inductive Entry where
  /-- A file with its content. -/
  | file (content : ByteArray)
  /-- A link to the target. -/
  | link (target : String)
  /-- A directory with its entries. -/
  | directory (entries : List (String × Entry))

/-- What lies in a directory. -/
abbrev Contents := List (String × Entry)

/-- What lies in an entry. Only directories hold something. -/
def Entry.contents : Entry → Contents
  | .directory entries => entries
  | _ => []

namespace Contents

/-- What stands at a location, seen from the directory, which is at the empty one. -/
def get? (entries : Contents) : Location → Option Entry
  | [] => some (.directory entries)
  | name :: rest =>
    match entries.lookup name with
    | some (.directory below) => get? below rest
    | some entry => if rest = [] then some entry else none
    | none => none

/-- The directory without what stands under a name. -/
def erase (entries : Contents) (name : String) : Contents :=
  entries.filter (·.1 ≠ name)

/-- The directory with an entry under a name, in place of what stands there. -/
def put (entries : Contents) (name : String) (entry : Entry) : Contents :=
  (name, entry) :: entries.erase name

/-- Changes what lies in the directory at a location, if there is one. -/
def change (f : Contents → Contents) : Location → Contents → Contents
  | [], entries => f entries
  | name :: rest, entries =>
    match entries.lookup name with
    | some (.directory below) => entries.put name (.directory (change f rest below))
    | _ => entries

/-- The files in a directory and in the directories beneath it, by the names that lead to them. -/
def files : Contents → List Location
  | [] => []
  | (name, .file _) :: rest => [name] :: files rest
  | (_, .link _) :: rest => files rest
  | (name, .directory below) :: rest => (files below).map (name :: ·) ++ files rest

/-- No name stands twice, here or in a directory beneath. -/
def Distinct (entries : Contents) : Prop :=
  ∀ location below, entries.get? location = some (.directory below) →
    (below.map Prod.fst).Nodup

/-- Looking up a name behind an erasure finds all others. -/
theorem lookup_erase (entries : Contents) (name sought : String) :
    (entries.erase name).lookup sought =
      if sought = name then none else entries.lookup sought := by
  induction entries with
  | nil => simp [erase]
  | cons item entries ih =>
    rw [erase] at ih ⊢
    by_cases hitem : item.1 = name
    · rw [List.filter_cons_of_neg (by simpa using hitem), ih]
      by_cases hname : sought = name
      · rw [if_pos hname, if_pos hname]
      · have hne : (sought == item.1) = false := by simpa [hitem] using hname
        rw [if_neg hname, if_neg hname, List.lookup_cons, hne]
    · rw [List.filter_cons_of_pos (by simpa using hitem), List.lookup_cons, List.lookup_cons, ih]
      by_cases hname : sought = name
      · have hne : (sought == item.1) = false := by simpa [hname] using Ne.symm hitem
        rw [if_pos hname, if_pos hname, hne]
      · rw [if_neg hname, if_neg hname]

/-- Looking up a name finds what was put there last. -/
theorem lookup_put (entries : Contents) (name : String) (entry : Entry) (sought : String) :
    (entries.put name entry).lookup sought =
      if sought = name then some entry else entries.lookup sought := by
  rw [put, List.lookup_cons, lookup_erase]
  by_cases hname : sought = name
  · have heq : (sought == name) = true := by simpa using hname
    rw [if_pos hname, if_pos hname, heq]
  · have hne : (sought == name) = false := by simpa using hname
    rw [if_neg hname, if_neg hname, hne]

/-- A tree has distinct names if the root has and every directory in the root has. -/
theorem distinct_iff {entries : Contents} :
    entries.Distinct ↔ (entries.map Prod.fst).Nodup ∧
      ∀ name below, entries.lookup name = some (.directory below) → Distinct below := by
  constructor
  · intro h
    refine ⟨h [] entries rfl, fun name below hname location inner hinner => ?_⟩
    refine h (name :: location) inner ?_
    rw [get?, hname]
    exact hinner
  · rintro ⟨hhere, hbelow⟩ location inner hinner
    cases location with
    | nil =>
      rw [get?, Option.some.injEq, Entry.directory.injEq] at hinner
      exact hinner ▸ hhere
    | cons name rest =>
      rw [get?] at hinner
      split at hinner
      · next below hname => exact hbelow name below hname rest inner hinner
      · next entry hne hname =>
        split at hinner
        · exact absurd (Option.some.inj hinner) (hne inner)
        · exact absurd hinner (by simp)
      · exact absurd hinner (by simp)

/-- An empty directory holds no name twice. -/
theorem distinct_nil : Distinct [] :=
  distinct_iff.mpr ⟨List.nodup_nil, fun _ _ h => absurd h (by simp)⟩

/-- Erasing keeps the names apart. -/
theorem Distinct.erase {entries : Contents} (h : entries.Distinct) (name : String) :
    (entries.erase name).Distinct := by
  obtain ⟨hhere, hbelow⟩ := distinct_iff.mp h
  refine distinct_iff.mpr ⟨hhere.sublist (List.filter_sublist.map _), fun sought below hsought => ?_⟩
  rw [lookup_erase] at hsought
  split at hsought
  · exact absurd hsought (by simp)
  · exact hbelow sought below hsought

/-- Putting an entry keeps the names apart if they are so in the entry. -/
theorem Distinct.put {entries : Contents} (h : entries.Distinct) (name : String) {entry : Entry}
    (hentry : entry.contents.Distinct) : (entries.put name entry).Distinct := by
  obtain ⟨hrest, -⟩ := distinct_iff.mp (h.erase name)
  refine distinct_iff.mpr ⟨?_, fun sought below hsought => ?_⟩
  · rw [Contents.put, List.map_cons, List.nodup_cons]
    refine ⟨?_, hrest⟩
    simp [Contents.erase, List.mem_filter]
  · rw [lookup_put] at hsought
    split at hsought
    · rw [Option.some.inj hsought] at hentry
      exact hentry
    · exact (distinct_iff.mp h).2 sought below hsought

/-- A change of one directory that keeps names apart there keeps them apart everywhere. -/
theorem Distinct.change {f : Contents → Contents}
    (hf : ∀ entries, Distinct entries → (f entries).Distinct) (location : Location)
    {entries : Contents} (h : entries.Distinct) : (Contents.change f location entries).Distinct := by
  induction location generalizing entries with
  | nil => exact hf entries h
  | cons name rest ih =>
    rw [Contents.change]
    split
    · next below hname => exact h.put name (ih ((distinct_iff.mp h).2 name below hname))
    · exact h

end Contents

/-- How the writing of a content breaks off when the file is open already. -/
structure Interruption where
  /-- How many bytes have been written by then. -/
  written : Nat
  /-- Why no more can be written. -/
  reason : FileProblem

/-- A tree of files. -/
structure FileTree where
  /-- What lies in the root. -/
  entries : Contents := []
  /-- No name stands twice in a directory. -/
  distinct : entries.Distinct := by exact Contents.distinct_nil
  /-- The working directory. One that is no directory any more has been removed. -/
  home : Location := []
  /-- How writing a content breaks off, if it does. -/
  interruption? : ByteArray → Option Interruption := fun _ => none

namespace FileTree

instance : Inhabited FileTree := ⟨{}⟩

/-- What stands at a location. The root is a directory. -/
def get? (tree : FileTree) (location : Location) : Option Entry :=
  tree.entries.get? location

/-- Puts an entry in the directory at a location, in place of what stands there under the name. -/
def put (tree : FileTree) (directory : Location) (name : String) (entry : Entry)
    (hentry : entry.contents.Distinct := by exact Contents.distinct_nil) : FileTree where
  entries := tree.entries.change (fun below => below.put name entry) directory
  distinct := tree.distinct.change (fun _ hbelow => hbelow.put name hentry) directory
  home := tree.home
  interruption? := tree.interruption?

end FileTree

end FindingCheck
