import FindingCheck.Proofs.Files.Listing
import FindingCheck.Proofs.Files.Making

/-!
# Trees without links

In a tree without links a path leads where its names say, and a `..` takes back the name before it.
So the location to which a path leads is known from the path and the working directory.

## Main definitions

* `Contents.Plain` — a tree without links, whose names can stand in directories
* `FileTree.location` — where a path leads in a tree without links

## Main statements

* `FileTree.resolve_isAt` — in a tree without links, a path leads to its location
* `FileTree.Makes.plain`, `FileTree.Writable.plain` — what is made keeps a tree plain
-/

namespace FindingCheck

/-! ### Locations of paths -/

/-- A tree without links. -/
structure Contents.Plain (root : Contents) : Prop where
  noLink : ∀ location target, root.get? location ≠ some (.link target)
  names : ∀ location, root.get? location ≠ none → ∀ name ∈ location, IsEntryName name

namespace Contents

theorem plain_nil : Plain [] where
  noLink location target := by
    cases location with
    | nil => simp [get?]
    | cons name rest => simp [get?]
  names location hlocation := by
    cases location with
    | nil => simp
    | cons name rest => exact absurd rfl hlocation

/-- One entry more keeps a directory plain if it is no link and plain inside. -/
theorem Plain.cons {name : String} {entry : Entry} {rest : Contents} (h : Plain rest)
    (hname : IsEntryName name) (hlink : ∀ target, entry ≠ .link target)
    (hinner : Plain entry.contents) : Plain ((name, entry) :: rest) where
  noLink location target := by
    cases location with
    | nil => simp [get?]
    | cons first others =>
      by_cases hfirst : first = name
      · subst hfirst
        rw [get?_head]
        cases entry with
        | directory lower => exact hinner.noLink others target
        | link target => exact absurd rfl (hlink target)
        | file content => cases others <;> simp [Entry.within?]
      · rw [get?_tail hfirst]
        exact h.noLink (first :: others) target
  names location hlocation := by
    cases location with
    | nil => simp
    | cons first others =>
      by_cases hfirst : first = name
      · subst hfirst
        rw [get?_head] at hlocation
        refine List.forall_mem_cons.mpr ⟨hname, ?_⟩
        cases entry with
        | directory lower => exact hinner.names others hlocation
        | _ =>
          cases others with
          | nil => simp
          | cons next others => exact absurd rfl hlocation
      · rw [get?_tail hfirst] at hlocation
        exact h.names (first :: others) hlocation

theorem Plain.of_seen? {entries others : Contents} (h : entries.Plain)
    (hsame : ∀ location, others.seen? location = entries.seen? location) : others.Plain where
  noLink location target := by
    rw [Ne, ← seen?_eq_link_iff, hsame, seen?_eq_link_iff]
    exact h.noLink location target
  names location hlocation := by
    rw [Ne, ← seen?_eq_none_iff, hsame, seen?_eq_none_iff] at hlocation
    exact h.names location hlocation

end Contents

/-- The location to which names lead from a location. The root lies in itself. -/
def Location.after : Location → List String → Location
  | here, [] => here
  | here, name :: rest =>
    if isIdle name then after here rest
    else if name = ".." then after here.dropLast rest
    else after (here ++ [name]) rest

/-- The location to which a path leads where no name on it is a link. -/
def FileTree.location (tree : FileTree) (path : Path) : Location :=
  Location.after (tree.base path) (pathNames path)

theorem FileTree.Grows.location_eq {tree grown : FileTree} (h : tree.Grows grown) (path : Path) :
    grown.location path = tree.location path := by
  rw [location, location, h.base_eq]

namespace Location

theorem after_cons_of_idle {name : String} (h : isIdle name = true) (here : Location)
    (rest : List String) : after here (name :: rest) = after here rest := by
  rw [after, if_pos h]

theorem after_of_idle {names : List String} (h : ∀ name ∈ names, isIdle name = true)
    (here : Location) : after here names = here := by
  induction names with
  | nil => rfl
  | cons name rest ih =>
    obtain ⟨hname, hrest⟩ := List.forall_mem_cons.mp h
    rw [after_cons_of_idle hname, ih hrest]

theorem after_up (here : Location) (rest : List String) :
    after here (".." :: rest) = after here.dropLast rest := by
  rw [after, if_neg (by decide), if_pos rfl]

theorem after_cons_of_takes {aim : Aim} {name : String} {rest : List String}
    (h : aim.Takes name rest) (here : Location) :
    after here (name :: rest) = after (here ++ [name]) rest := by
  rw [after, h.idle, if_neg Bool.false_ne_true, if_neg h.up]

theorem after_append (here : Location) (names more : List String) :
    after here (names ++ more) = after (after here names) more := by
  induction names generalizing here with
  | nil => rfl
  | cons name rest ih =>
    rw [List.cons_append, after, after]
    split
    · exact ih here
    split
    · exact ih _
    · exact ih _

theorem after_of_isEntryName {names : List String} (h : ∀ name ∈ names, IsEntryName name)
    (here : Location) : after here names = here ++ names := by
  induction names generalizing here with
  | nil => simp [after]
  | cons name rest ih =>
    obtain ⟨hname, hrest⟩ := List.forall_mem_cons.mp h
    rw [after, hname.idle, if_neg Bool.false_ne_true, if_neg hname.up, ih hrest,
      List.append_assoc]
    rfl

end Location

/-- A place is at a location. -/
def Place.IsAt (root : Contents) (location : Location) : Place → Prop
  | .directory entries => root.get? location = some (.directory entries)
  | .file above name _ => location = above ++ [name]
  | .link above name => location = above ++ [name]
  | .missing above name => location = above ++ [name]

namespace Walks

variable {root : Contents} {aim : Aim} {links : Nat} {here : Standpoint} {names : List String}
  {place : Place} (hlinks : ∀ location target, root.get? location ≠ some (.link target))
include hlinks

/-- In a tree without links, names lead to the location that they spell. -/
theorem isAt (h : Walks root aim links here names place) (hhere : here.In root) :
    place.IsAt root (Location.after here.location names) := by
  induction h with
  | done => exact hhere.get?
  | idle hidle _ ih =>
    rw [Location.after_cons_of_idle hidle]
    exact ih hhere
  | up _ ih =>
    rw [Location.after_up, ← Standpoint.location_up]
    exact ih hhere.up
  | missing hname _ hlast =>
    rw [Location.after_cons_of_takes hname]
    exact Location.after_of_idle (Aim.idle_of_isLast hlast) _
  | @down _ here name _ _ below hname hlookup _ ih =>
    rw [Location.after_cons_of_takes hname, ← Standpoint.location_down here name below]
    exact ih (hhere.down hlookup)
  | file hname _ hlast =>
    rw [Location.after_cons_of_takes hname]
    exact Location.after_of_idle (Aim.idle_of_isLast hlast) _
  | link _ hlookup => exact absurd ((hhere.lookup _).trans hlookup) (hlinks _ _)
  | follow _ hlookup => exact absurd ((hhere.lookup _).trans hlookup) (hlinks _ _)

/-- A name that is missing is one of the names on the way. -/
theorem takes_of_missing {above : Location} {missing : String}
    (h : Walks root aim links here names (.missing above missing)) (hhere : here.In root) :
    missing ∈ names ∧ ∃ rest, aim.Takes missing rest := by
  generalize hplace : Place.missing above missing = place at h
  induction h with
  | idle _ _ ih => exact (ih hhere hplace).imp_left (List.mem_cons_of_mem _)
  | up _ ih => exact (ih hhere.up hplace).imp_left (List.mem_cons_of_mem _)
  | missing hname =>
    obtain ⟨-, rfl⟩ := Place.missing.inj hplace
    exact ⟨List.mem_cons_self, _, hname⟩
  | down _ hlookup _ ih =>
    exact (ih (hhere.down hlookup) hplace).imp_left (List.mem_cons_of_mem _)
  | follow _ hlookup => exact absurd ((hhere.lookup _).trans hlookup) (hlinks _ _)
  | _ => cases hplace

end Walks

/-- A path that is joined with names leads to the location beneath. -/
theorem FileTree.location_join (tree : FileTree) {base : Path} (hbase : base.text.isEmpty = false)
    {names : List String} (hne : names ≠ []) (h : ∀ name ∈ names, IsEntryName name) :
    tree.location (base.join (Group.relativePath names)) = tree.location base ++ names := by
  obtain ⟨idle, hidle, hnames⟩ := base.pathNames_eq
  rw [location, location, FileTree.base, FileTree.base,
    isAbsolute_join_relativePath hbase hne h, pathNames_join_relativePath hbase hne h, hnames,
    Location.after_append, Location.after_append, Location.after_of_idle hidle,
    Location.after_of_isEntryName h]

/-! ### Plain trees -/

namespace FileTree

variable {tree furnished : FileTree} {path : Path} {aim : Aim} {place : Place}
  {directory : Location} {name : String} {made : List Location}

/-- A tree without links, whose names can stand in directories. -/
def Plain (tree : FileTree) : Prop :=
  tree.entries.Plain

/-- In a tree without links, a path leads to its location. -/
theorem resolve_isAt (hplain : tree.Plain) (h : tree.resolve aim path = .ok place) :
    place.IsAt tree.entries (tree.location path) := by
  obtain ⟨-, -, here, hstart, hwalk⟩ := resolve_eq_ok_iff.mp h
  rw [location, ← location_of_start? hstart]
  exact hwalk.isAt hplain.noLink (in_of_start? hstart)

theorem isEntryName_of_resolve (hplain : tree.Plain)
    (h : tree.resolve aim path = .ok (.missing directory name)) : IsEntryName name := by
  obtain ⟨hspelling, -, here, hstart, hwalk⟩ := resolve_eq_ok_iff.mp h
  obtain ⟨hname, rest, htakes⟩ := hwalk.takes_of_missing hplain.noLink (in_of_start? hstart)
  exact isEntryName_of_mem_pathNames hspelling hname htakes.idle htakes.up htakes.short

/-- A tree stays plain where only files and directories come in, under names that can stand in
directories. -/
theorem Plain.of_seen? {after : FileTree} (hplain : tree.Plain)
    (h : ∀ location, after.seen? location = tree.seen? location ∨
      (∀ target, after.seen? location ≠ some (.link target)) ∧
        ∀ name ∈ location, IsEntryName name) : after.Plain where
  noLink location target hlink := by
    have hseen := seen?_eq_link_iff.mpr hlink
    rcases h location with hsame | ⟨hnone, -⟩
    · exact hplain.noLink location target (seen?_eq_link_iff.mp (hsame.symm.trans hseen))
    · exact hnone target hseen
  names location hlocation := by
    rcases h location with hsame | ⟨-, hnames⟩
    · apply hplain.names location
      intro hnone
      apply hlocation
      exact seen?_eq_none_iff.mp (hsame.trans (seen?_eq_none_iff.mpr hnone))
    · exact hnames

theorem Plain.names_append_singleton {inner : Contents} (hplain : tree.Plain)
    (hdirectory : tree.get? directory = some (.directory inner)) (hname : IsEntryName name) :
    ∀ other ∈ directory ++ [name], IsEntryName other := by
  have habove := hplain.names directory (by rw [← FileTree.get?, hdirectory]; simp)
  simpa [or_imp, forall_and] using ⟨habove, hname⟩

theorem Plain.put_directory (hplain : tree.Plain)
    (h : tree.resolve aim path = .ok (.missing directory name)) (hentry : aim = .entry) :
    (tree.put directory name (.directory [])).Plain := by
  subst hentry
  obtain ⟨inner, hdirectory, -⟩ := resolve_stands h
  apply hplain.of_seen?
  intro location
  rw [seen?_put_directory h]
  by_cases hhere : location = directory ++ [name]
  · subst hhere
    rw [if_pos rfl]
    exact .inr ⟨by simp, hplain.names_append_singleton hdirectory (isEntryName_of_resolve hplain h)⟩
  · rw [if_neg hhere]
    exact .inl rfl

theorem Makes.plain {paths : List Path} {after : FileTree} (h : Makes paths tree made after)
    (hplain : tree.Plain) : after.Plain := by
  induction h with
  | done tree => exact hplain
  | make _ hmissing _ ih => exact ih (hplain.put_directory hmissing rfl)

theorem Writable.plain (h : tree.Writable path directory name) (hplain : tree.Plain)
    (content : ByteArray) : (tree.put directory name (.file content)).Plain := by
  obtain ⟨inner, hdirectory, -⟩ := h.exists_inner
  apply hplain.of_seen?
  intro location
  rw [h.seen?_put]
  by_cases hhere : location = directory ++ [name]
  · subst hhere
    rw [if_pos rfl]
    refine .inr ⟨by simp, ?_⟩
    rcases h with hmissing | ⟨old, hfile⟩
    · exact hplain.names_append_singleton hdirectory (isEntryName_of_resolve hplain hmissing)
    · obtain ⟨inner', hdirectory', hname⟩ := resolve_stands hfile
      apply hplain.names (directory ++ [name])
      rw [Contents.get?_append_singleton hdirectory', hname]
      simp
  · rw [if_neg hhere]
    exact .inl rfl

/-- Where a file can be written is where its path says. -/
theorem Writable.location_eq (h : tree.Writable path directory name) (hplain : tree.Plain) :
    tree.location path = directory ++ [name] := by
  rcases h with hmissing | ⟨old, hfile⟩
  · exact resolve_isAt hplain hmissing
  · exact resolve_isAt hplain hfile

end FileTree

end FindingCheck
