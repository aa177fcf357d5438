import FindingCheck.Files.Tree.Access
import FindingCheck.Proofs.Files.Seen
import FindingCheck.Proofs.Paths

/-!
# Walks

A walk takes the names on a path one after the other, and `Walks` has a case for each way to take
one: what holds of all walks is shown by induction on it. Where a path leads depends on what stands
on the way. So in a tree that holds all that another one holds, each path leads where it led, and
what led to a missing name leads to what has been put there.

## Main definitions

* `Standpoint.In` — standpoints that a walk in a tree can reach
* `Walks` — the walks that lead to a place
* `Contents.Grows`, `FileTree.Grows` — a tree that holds what another one holds, and no new link
* `Place.Stands` — a place that is there
* `Place.Becomes` — what becomes of a place when the tree grows

## Main statements

* `walk_eq_ok_iff` — what a walk comes to
* `Walks.append`, `FileTree.resolve_join` — a walk to a directory goes on from there
* `FileTree.resolve_stands` — a path leads to a place that is there
* `FileTree.resolve_grows` — where a path leads when the tree has grown
* `FileTree.resolve_reading` — reading goes where writing goes
-/

namespace FindingCheck

/-! ### Standpoints -/

/-- The directories above lead from the root down to the one in front. -/
def LeadTo (root : Contents) : Contents → List (String × Contents) → Prop
  | here, [] => here = root
  | here, (name, parent) :: above =>
    parent.lookup name = some (.directory here) ∧ LeadTo root parent above

namespace Standpoint

/-- A walk from the root can stand here. -/
def In (root : Contents) (here : Standpoint) : Prop :=
  LeadTo root here.entries here.above

variable {root : Contents} {here there : Standpoint}

theorem in_root : (⟨root, []⟩ : Standpoint).In root :=
  rfl

theorem In.get? (h : here.In root) :
    root.get? here.location = some (.directory here.entries) := by
  obtain ⟨entries, above⟩ := here
  induction above generalizing entries with
  | nil =>
    have hroot : entries = root := h
    subst hroot
    rfl
  | cons step above ih =>
    obtain ⟨hname, habove⟩ := h
    have hparent := ih step.2 habove
    rw [location, List.map_cons, List.reverse_cons]
    exact (Contents.get?_append_singleton hparent step.1).trans hname

theorem In.lookup (h : here.In root) (name : String) :
    root.get? (here.location ++ [name]) = here.entries.lookup name :=
  Contents.get?_append_singleton h.get? name

theorem location_down (here : Standpoint) (name : String) (below : Contents) :
    (here.down name below).location = here.location ++ [name] := by
  rw [location, down, List.map_cons, List.reverse_cons, location]

theorem In.down (h : here.In root) {name : String} {below : Contents}
    (hname : here.entries.lookup name = some (.directory below)) :
    (here.down name below).In root :=
  ⟨hname, h⟩

theorem In.up (h : here.In root) : here.up.In root := by
  obtain ⟨entries, above⟩ := here
  cases above with
  | nil => exact h
  | cons step above => exact h.2

theorem location_up (here : Standpoint) : here.up.location = here.location.dropLast := by
  obtain ⟨entries, above⟩ := here
  cases above with
  | nil => rfl
  | cons step above => simp [up, location]

theorem In.descend? {location : Location} (h : here.In root)
    (hthere : here.descend? location = some there) : there.In root := by
  induction location generalizing here with
  | nil =>
    obtain rfl := Option.some.inj hthere
    exact h
  | cons name rest ih =>
    rw [Standpoint.descend?] at hthere
    split at hthere
    · next below hname => exact ih (h.down hname) hthere
    · cases hthere

theorem location_of_descend? {location : Location} (hthere : here.descend? location = some there) :
    there.location = here.location ++ location := by
  induction location generalizing here with
  | nil =>
    obtain rfl := Option.some.inj hthere
    rw [List.append_nil]
  | cons name rest ih =>
    rw [Standpoint.descend?] at hthere
    split at hthere
    · rw [ih hthere, location_down, List.append_assoc]
      rfl
    · cases hthere

/-- The directory at a location is reached where one is. -/
theorem exists_descend? (here : Standpoint) {entries : Contents} {location : Location}
    (h : here.entries.get? location = some (.directory entries)) :
    ∃ there, here.descend? location = some there ∧ there.entries = entries := by
  induction location generalizing here with
  | nil => exact ⟨here, rfl, Entry.directory.inj (Option.some.inj h)⟩
  | cons name rest ih =>
    rw [Contents.get?_cons] at h
    cases hname : here.entries.lookup name with
    | none => simp [hname] at h
    | some entry =>
      rw [hname] at h
      cases entry with
      | directory below =>
        obtain ⟨there, hthere, hentries⟩ := ih (here.down name below) h
        refine ⟨there, ?_, hentries⟩
        rw [Standpoint.descend?, hname]
        exact hthere
      | file content => cases rest <;> simp [Entry.within?] at h
      | link target => cases rest <;> simp [Entry.within?] at h

end Standpoint

/-! ### Walks -/

/-- A name that is looked up in a directory, with the names behind it. -/
structure Aim.Takes (aim : Aim) (name : String) (rest : List String) : Prop where
  idle : isIdle name = false
  up : name ≠ ".."
  slash : (aim = .writing && rest = [""]) = false
  short : isLong name = false

theorem Aim.Takes.reading {aim : Aim} {name : String} {rest others : List String}
    (h : aim.Takes name rest) : Aim.reading.Takes name others :=
  ⟨h.idle, h.up, rfl, h.short⟩

theorem IsEntryName.takes {name : String} {rest : List String} (h : IsEntryName name) :
    Aim.reading.Takes name rest :=
  ⟨h.idle, h.up, rfl, h.short⟩

/-- The walks that lead to a place, over so many links at most. -/
inductive Walks (root : Contents) (aim : Aim) : Nat → Standpoint → List String → Place → Prop
  | done {links : Nat} {here : Standpoint} :
      Walks root aim links here [] (.directory here.entries)
  | idle {links : Nat} {here : Standpoint} {name : String} {rest : List String} {place : Place}
      (hidle : isIdle name = true) (h : Walks root aim links here rest place) :
      Walks root aim links here (name :: rest) place
  | up {links : Nat} {here : Standpoint} {rest : List String} {place : Place}
      (h : Walks root aim links here.up rest place) :
      Walks root aim links here (".." :: rest) place
  | missing {links : Nat} {here : Standpoint} {name : String} {rest : List String}
      (hname : aim.Takes name rest) (hlookup : here.entries.lookup name = none)
      (hlast : aim.isLast rest = true) :
      Walks root aim links here (name :: rest) (.missing here.location name)
  | down {links : Nat} {here : Standpoint} {name : String} {rest : List String} {place : Place}
      {below : Contents} (hname : aim.Takes name rest)
      (hlookup : here.entries.lookup name = some (.directory below))
      (h : Walks root aim links (here.down name below) rest place) :
      Walks root aim links here (name :: rest) place
  | file {links : Nat} {here : Standpoint} {name : String} {rest : List String}
      {content : ByteArray} (hname : aim.Takes name rest)
      (hlookup : here.entries.lookup name = some (.file content))
      (hlast : aim.isLast rest = true) :
      Walks root aim links here (name :: rest) (.file here.location name content)
  -- a link at the end may be what is looked for, and any other one leads on
  | link {links : Nat} {here : Standpoint} {name target : String} {rest : List String}
      (hname : aim.Takes name rest) (hlookup : here.entries.lookup name = some (.link target))
      (haim : (aim = .entry && aim.isLast rest) = true) :
      Walks root aim links here (name :: rest) (.link here.location name)
  | follow {links : Nat} {here : Standpoint} {name target : String} {rest : List String}
      {place : Place} (hname : aim.Takes name rest)
      (hlookup : here.entries.lookup name = some (.link target))
      (haim : (aim = .entry && aim.isLast rest) = false)
      (h : Walks root aim links (linkBase root here target) (pathNames ⟨target⟩ ++ rest) place) :
      Walks root aim (links + 1) here (name :: rest) place

section

variable {root : Contents} {aim : Aim} {links : Nat} {here : Standpoint} {names : List String}
  {place : Place}

theorem walks_of_walkNames
    {follow : Standpoint → String → List String → Except FileProblem Place}
    (hfollow : ∀ {here : Standpoint} {name target : String} {rest : List String} {place : Place},
      aim.Takes name rest → here.entries.lookup name = some (.link target) →
      (aim = .entry && aim.isLast rest) = false → follow here target rest = .ok place →
        Walks root aim links here (name :: rest) place)
    (h : walkNames aim follow here names = .ok place) : Walks root aim links here names place := by
  induction names generalizing here with
  | nil =>
    obtain rfl := Except.ok.inj h
    exact .done
  | cons name rest ih =>
    rw [walkNames] at h
    split at h
    · next hidle => exact .idle hidle (ih h)
    next hidle =>
    split at h
    · next hup =>
      subst hup
      exact .up (ih h)
    next hup =>
    split at h
    · cases h
    next hslash =>
    split at h
    · cases h
    next hlong =>
    have hname : aim.Takes name rest :=
      ⟨Bool.eq_false_iff.mpr hidle, hup, Bool.eq_false_iff.mpr hslash, Bool.eq_false_iff.mpr hlong⟩
    split at h
    · next hlookup =>
      split at h
      · next hlast =>
        obtain rfl := Except.ok.inj h
        exact .missing hname hlookup hlast
      · cases h
    · next below hlookup => exact .down hname hlookup (ih h)
    · next content hlookup =>
      split at h
      · next hlast =>
        obtain rfl := Except.ok.inj h
        exact .file hname hlookup hlast
      · cases h
    · next target hlookup =>
      split at h
      · next hlast =>
        obtain rfl := Except.ok.inj h
        exact .link hname hlookup hlast
      · next haim => exact hfollow hname hlookup (Bool.eq_false_iff.mpr haim) h

theorem walks_of_walk (h : walk root aim links here names = .ok place) :
    Walks root aim links here names place := by
  induction links generalizing here names place with
  | zero => exact walks_of_walkNames (fun _ _ _ hfollow => by cases hfollow) h
  | succ links ih =>
    exact walks_of_walkNames (fun hname hlookup haim hfollow =>
      .follow hname hlookup haim (ih hfollow)) h

theorem walkNames_of_takes
    {follow : Standpoint → String → List String → Except FileProblem Place} {name : String}
    {rest : List String} (h : aim.Takes name rest) :
    walkNames aim follow here (name :: rest) =
      match here.entries.lookup name with
      | none => if aim.isLast rest then .ok (.missing here.location name) else .error .notFound
      | some (.directory below) => walkNames aim follow (here.down name below) rest
      | some (.file content) =>
        if aim.isLast rest then .ok (.file here.location name content) else .error .notDirectory
      | some (.link target) =>
        if aim = .entry && aim.isLast rest then .ok (.link here.location name)
        else follow here target rest := by
  rw [walkNames, h.idle, if_neg Bool.false_ne_true, if_neg h.up, h.slash,
    if_neg Bool.false_ne_true]
  exact if_neg (Bool.eq_false_iff.mp h.short)

theorem exists_follow (root : Contents) (aim : Aim) (links : Nat) :
    ∃ follow, walk root aim links = walkNames aim follow := by
  cases links <;> exact ⟨_, rfl⟩

theorem walk_eq_ok_iff :
    walk root aim links here names = .ok place ↔ Walks root aim links here names place := by
  refine ⟨walks_of_walk, fun h => ?_⟩
  induction h with
  | @done links here => cases links <;> rfl
  | @idle links here name rest place hidle h ih =>
    obtain ⟨follow, hwalk⟩ := exists_follow root aim links
    rw [hwalk] at ih ⊢
    rw [walkNames, if_pos hidle, ih]
  | @up links here rest place h ih =>
    obtain ⟨follow, hwalk⟩ := exists_follow root aim links
    have hidle : ¬isIdle ".." = true := by decide
    rw [hwalk] at ih ⊢
    rw [walkNames, if_neg hidle, if_pos rfl]
    exact ih
  | @missing links here name rest hname hlookup hlast =>
    obtain ⟨follow, hwalk⟩ := exists_follow root aim links
    rw [hwalk, walkNames_of_takes hname, hlookup]
    exact if_pos hlast
  | @down links here name rest place below hname hlookup h ih =>
    obtain ⟨follow, hwalk⟩ := exists_follow root aim links
    rw [hwalk] at ih ⊢
    rw [walkNames_of_takes hname, hlookup]
    exact ih
  | @file links here name rest content hname hlookup hlast =>
    obtain ⟨follow, hwalk⟩ := exists_follow root aim links
    rw [hwalk, walkNames_of_takes hname, hlookup]
    exact if_pos hlast
  | @link links here name target rest hname hlookup haim =>
    obtain ⟨follow, hwalk⟩ := exists_follow root aim links
    rw [hwalk, walkNames_of_takes hname, hlookup]
    exact if_pos haim
  | @follow links here name target rest place hname hlookup haim h ih =>
    rw [walk, walkNames_of_takes hname, hlookup]
    simp only [haim, Bool.false_eq_true, if_false]
    exact ih

theorem Walks.unique {other : Place} (h : Walks root aim links here names place)
    (hother : Walks root aim links here names other) : place = other :=
  Except.ok.inj ((walk_eq_ok_iff.mpr h).symm.trans (walk_eq_ok_iff.mpr hother))

theorem Walks.idle_append {idle : List String} (hidle : ∀ name ∈ idle, isIdle name = true)
    (h : Walks root aim links here names place) :
    Walks root aim links here (idle ++ names) place := by
  induction idle with
  | nil => exact h
  | cons name rest ih =>
    obtain ⟨hname, hrest⟩ := List.forall_mem_cons.mp hidle
    exact .idle hname (ih hrest)

theorem Walks.of_idle {idle : List String} (hidle : ∀ name ∈ idle, isIdle name = true) :
    Walks root aim links here idle (.directory here.entries) := by
  rw [← List.append_nil idle]
  exact idle_append hidle .done

/-- A walk to a directory goes on from there, over as many links as are left. -/
theorem Walks.append {idle : List String} {entries : Contents}
    (hidle : ∀ name ∈ idle, isIdle name = true)
    (h : Walks root .reading links here (names ++ idle) (.directory entries)) :
    ∃ left there, there.entries = entries ∧
      ∀ rest place, Walks root .reading left there rest place →
        Walks root .reading links here (names ++ rest) place := by
  -- where no name is left but idle ones, the walk has come to its end
  have hstay : ∀ {links : Nat} {here : Standpoint},
      Walks root .reading links here idle (.directory entries) → here.entries = entries :=
    fun h => Place.directory.inj ((of_idle hidle).unique h)
  generalize hall : names ++ idle = all at h
  generalize hplace : Place.directory entries = place at h
  induction h generalizing names with
  | @done links here =>
    obtain ⟨rfl, -⟩ := List.append_eq_nil_iff.mp hall
    exact ⟨links, here, (Place.directory.inj hplace).symm, fun _ _ hrest => hrest⟩
  | @idle links here name rest _ hname h ih =>
    subst hplace
    cases names with
    | nil =>
      subst hall
      exact ⟨links, here, hstay (.idle hname h), fun _ _ hrest => hrest⟩
    | cons first more =>
      obtain ⟨rfl, rfl⟩ := List.cons.inj hall
      obtain ⟨left, there, hentries, hrest⟩ := ih rfl rfl
      exact ⟨left, there, hentries, fun rest place h => .idle hname (hrest rest place h)⟩
  | @up links here rest _ h ih =>
    subst hplace
    cases names with
    | nil =>
      subst hall
      exact ⟨links, here, hstay (.up h), fun _ _ hrest => hrest⟩
    | cons first more =>
      obtain ⟨rfl, rfl⟩ := List.cons.inj hall
      obtain ⟨left, there, hentries, hrest⟩ := ih rfl rfl
      exact ⟨left, there, hentries, fun rest place h => .up (hrest rest place h)⟩
  | @down links here name rest _ below hname hlookup h ih =>
    subst hplace
    cases names with
    | nil =>
      subst hall
      exact ⟨links, here, hstay (.down hname hlookup h), fun _ _ hrest => hrest⟩
    | cons first more =>
      obtain ⟨rfl, rfl⟩ := List.cons.inj hall
      obtain ⟨left, there, hentries, hrest⟩ := ih rfl rfl
      exact ⟨left, there, hentries,
        fun rest place h => .down hname.reading hlookup (hrest rest place h)⟩
  | @follow links here name target rest _ hname hlookup haim h ih =>
    subst hplace
    cases names with
    | nil =>
      subst hall
      exact ⟨links + 1, here, hstay (.follow hname hlookup haim h), fun _ _ hrest => hrest⟩
    | cons first more =>
      obtain ⟨rfl, rfl⟩ := List.cons.inj hall
      obtain ⟨left, there, hentries, hrest⟩ := ih (List.append_assoc _ _ _) rfl
      refine ⟨left, there, hentries, fun rest place h => ?_⟩
      have hfollowed := hrest rest place h
      rw [List.append_assoc] at hfollowed
      exact .follow hname.reading hlookup rfl hfollowed
  | _ => cases hplace

end

/-! ### Places that are there -/

/-- A place is there. -/
def Place.Stands (root : Contents) : Place → Prop
  | .directory entries => ∃ location, root.get? location = some (.directory entries)
  | .file above name content =>
    ∃ inner, root.get? above = some (.directory inner) ∧ inner.lookup name = some (.file content)
  | .link above name =>
    ∃ inner target, root.get? above = some (.directory inner) ∧
      inner.lookup name = some (.link target)
  | .missing above name =>
    ∃ inner, root.get? above = some (.directory inner) ∧ inner.lookup name = none

/-- A link leads on from a directory of the tree. -/
theorem Standpoint.In.linkBase {root : Contents} {here : Standpoint} (h : here.In root)
    (target : String) : (linkBase root here target).In root := by
  rw [FindingCheck.linkBase]
  split
  · exact in_root
  · exact h

theorem Walks.stands {root : Contents} {aim : Aim} {links : Nat} {here : Standpoint}
    {names : List String} {place : Place} (h : Walks root aim links here names place)
    (hhere : here.In root) : place.Stands root := by
  induction h with
  | done => exact ⟨_, hhere.get?⟩
  | idle _ _ ih => exact ih hhere
  | up _ ih => exact ih hhere.up
  | missing _ hlookup => exact ⟨_, hhere.get?, hlookup⟩
  | down _ hlookup _ ih => exact ih (hhere.down hlookup)
  | file _ hlookup => exact ⟨_, hhere.get?, hlookup⟩
  | link _ hlookup => exact ⟨_, _, hhere.get?, hlookup⟩
  | follow _ _ _ _ ih => exact ih (hhere.linkBase _)

namespace FileTree

variable {tree : FileTree} {aim : Aim} {path : Path} {place : Place} {here : Standpoint}

theorem in_of_start? (h : tree.start? path = some here) : here.In tree.entries :=
  Standpoint.in_root.descend? h

theorem location_of_start? (h : tree.start? path = some here) : here.location = tree.base path :=
  Standpoint.location_of_descend? h

theorem exists_start? {entries : Contents}
    (h : tree.get? (tree.base path) = some (.directory entries)) :
    ∃ here, tree.start? path = some here ∧ here.entries = entries :=
  Standpoint.exists_descend? ⟨tree.entries, []⟩ h

theorem resolve_eq_ok_iff :
    tree.resolve aim path = .ok place ↔
      isSpelling path.text = true ∧ spellingProblem? path.text = none ∧
        ∃ here, tree.start? path = some here ∧
          Walks tree.entries aim linkLimit here (pathNames path) place := by
  simp only [← walk_eq_ok_iff]
  rw [resolve]
  cases isSpelling path.text with
  | false => simp
  | true =>
    cases spellingProblem? path.text with
    | some problem => simp
    | none => cases tree.start? path <;> simp

theorem isEmpty_of_resolve (h : tree.resolve aim path = .ok place) :
    path.text.isEmpty = false := by
  obtain ⟨-, hproblem, -⟩ := resolve_eq_ok_iff.mp h
  rw [spellingProblem?] at hproblem
  cases hempty : path.text.isEmpty with
  | false => rfl
  | true =>
    rw [hempty] at hproblem
    cases hproblem

theorem resolve_of_spells (aim : Aim) {names : List String} (h : path.Spells names)
    (hstart : tree.start? path = some here) :
    tree.resolve aim path = walk tree.entries aim linkLimit here names := by
  obtain ⟨hzero, hproblem, hnames⟩ := h
  rw [resolve, isSpelling_iff.mpr hzero, hproblem, hstart, hnames]
  rfl

/-- What lies in a directory is found by the joined path: one more name is taken from there. -/
theorem resolve_join {entries : Contents} {name : String}
    (h : tree.resolve .reading path = .ok (.directory entries)) (hname : IsEntryName name)
    (hproblem : spellingProblem? (path.join ⟨name⟩).text = none) :
    ∃ links here, here.entries = entries ∧
      ∀ place, Walks tree.entries .reading links here [name] place →
        tree.resolve .reading (path.join ⟨name⟩) = .ok place := by
  have hempty := isEmpty_of_resolve h
  have hnames : ∀ other ∈ [name], IsEntryName other := by simpa using hname
  have hpathNames := pathNames_join_relativePath hempty (List.cons_ne_nil name []) hnames
  have habsolute := isAbsolute_join_relativePath hempty (List.cons_ne_nil name []) hnames
  rw [relativePath_singleton] at hpathNames habsolute
  obtain ⟨hspelling, -, start, hstart, hwalk⟩ := resolve_eq_ok_iff.mp h
  obtain ⟨idle, hidle, hbase⟩ := path.pathNames_eq
  rw [hbase] at hwalk
  obtain ⟨links, here, hentries, hrest⟩ := hwalk.append hidle
  refine ⟨links, here, hentries, fun place hplace => ?_⟩
  refine resolve_eq_ok_iff.mpr ⟨?_, hproblem, start, ?_, ?_⟩
  · exact Path.isSpelling_join hspelling (isSpelling_iff.mpr hname.zero)
  · rw [start?, base, habsolute]
    exact hstart
  · rw [hpathNames]
    exact hrest _ _ hplace

/-- A path leads to a place that is there. -/
theorem resolve_stands (h : tree.resolve aim path = .ok place) : place.Stands tree.entries := by
  obtain ⟨-, -, here, hstart, hwalk⟩ := resolve_eq_ok_iff.mp h
  exact hwalk.stands (in_of_start? hstart)

end FileTree

/-! ### Trees that have grown -/

theorem Aim.idle_of_isLast {aim : Aim} {rest : List String} (h : aim.isLast rest = true) :
    ∀ name ∈ rest, isIdle name = true := by
  rw [Aim.isLast, Bool.or_eq_true, decide_eq_true_iff, Bool.and_eq_true, decide_eq_true_iff,
    decide_eq_true_iff] at h
  rcases h with rfl | ⟨-, rfl⟩
  · simp
  · simp [isIdle]

/-- What decides where a walk goes on. -/
def Entry.outline : Entry → Entry
  | .file _ => .file .empty
  | .link target => .link target
  | .directory _ => .directory []

/-- All that stands in one tree stands in the other, and no link is new. Contents of files may
differ. -/
structure Contents.Grows (before after : Contents) : Prop where
  keeps : ∀ location entry, before.get? location = some entry →
    (after.get? location).map Entry.outline = some entry.outline
  noLink : ∀ location target, after.get? location = some (.link target) →
    before.get? location ≠ none

/-- What becomes of a place when the tree grows. A name that was missing may now stand for a file or
a directory. -/
inductive Place.Becomes (after : Contents) : Place → Place → Prop
  | directory (old new : Contents) : Becomes after (.directory old) (.directory new)
  | file {directory : Location} {name : String} {old new : ByteArray}
      (h : after.get? (directory ++ [name]) = some (.file new)) :
      Becomes after (.file directory name old) (.file directory name new)
  | link (directory : Location) (name : String) :
      Becomes after (.link directory name) (.link directory name)
  | missing {directory : Location} {name : String}
      (h : after.get? (directory ++ [name]) = none) :
      Becomes after (.missing directory name) (.missing directory name)
  | made {directory : Location} {name : String} {inner : Contents}
      (h : after.get? (directory ++ [name]) = some (.directory inner)) :
      Becomes after (.missing directory name) (.directory inner)
  | written {directory : Location} {name : String} {content : ByteArray}
      (h : after.get? (directory ++ [name]) = some (.file content)) :
      Becomes after (.missing directory name) (.file directory name content)

namespace Contents.Grows

variable {before after : Contents} {location : Location}

theorem file {content : ByteArray} (h : before.Grows after)
    (hfile : before.get? location = some (.file content)) :
    ∃ new, after.get? location = some (.file new) := by
  obtain ⟨kept, hkept, houtline⟩ := Option.map_eq_some_iff.mp (h.keeps location _ hfile)
  cases kept with
  | file new => exact ⟨new, hkept⟩
  | link target => cases houtline
  | directory inner => cases houtline

theorem directory {inner : Contents} (h : before.Grows after)
    (hdirectory : before.get? location = some (.directory inner)) :
    ∃ new, after.get? location = some (.directory new) := by
  obtain ⟨kept, hkept, houtline⟩ := Option.map_eq_some_iff.mp (h.keeps location _ hdirectory)
  cases kept with
  | file new => cases houtline
  | link target => cases houtline
  | directory new => exact ⟨new, hkept⟩

theorem link {target : String} (h : before.Grows after)
    (hlink : before.get? location = some (.link target)) :
    after.get? location = some (.link target) := by
  obtain ⟨kept, hkept, houtline⟩ := Option.map_eq_some_iff.mp (h.keeps location _ hlink)
  cases kept with
  | file new => cases houtline
  | link other =>
    obtain rfl := Entry.link.inj houtline
    exact hkept
  | directory inner => cases houtline

end Contents.Grows

section

variable {before after : Contents} {aim : Aim} {links : Nat} {here there : Standpoint}
  {names : List String} {place : Place}

/-- In a tree that has grown, a walk goes the same way. -/
theorem Walks.grows (h : Walks before aim links here names place) (hgrows : before.Grows after)
    (hhere : here.In before) (hthere : there.In after)
    (hlocation : there.location = here.location) :
    ∃ became, Walks after aim links there names became ∧ place.Becomes after became := by
  have hseen : ∀ {here there : Standpoint}, there.In after → there.location = here.location →
      ∀ name, after.get? (here.location ++ [name]) = there.entries.lookup name := by
    intro here there hthere hlocation name
    rw [← hlocation]
    exact hthere.lookup name
  induction h generalizing there with
  | done => exact ⟨_, .done, .directory _ _⟩
  | idle hidle _ ih =>
    obtain ⟨became, hwalk, hbecomes⟩ := ih hhere hthere hlocation
    exact ⟨became, .idle hidle hwalk, hbecomes⟩
  | up _ ih =>
    obtain ⟨became, hwalk, hbecomes⟩ := ih hhere.up hthere.up (by
      rw [Standpoint.location_up, Standpoint.location_up, hlocation])
    exact ⟨became, .up hwalk, hbecomes⟩
  | @missing _ here name _ hname hlookup hlast =>
    -- something may have been put under the name, but no link
    have hafter := hseen hthere hlocation name
    rw [← hlocation] at hafter ⊢
    cases hentry : there.entries.lookup name with
    | none => exact ⟨_, .missing hname hentry hlast, .missing (hafter.trans hentry)⟩
    | some entry =>
      rw [hentry] at hafter
      cases entry with
      | file content => exact ⟨_, .file hname hentry hlast, .written hafter⟩
      | directory inner =>
        exact ⟨_, .down hname hentry (.of_idle (Aim.idle_of_isLast hlast)), .made hafter⟩
      | link target =>
        refine absurd ?_ (hgrows.noLink _ _ hafter)
        rw [hlocation, hhere.lookup, hlookup]
  | @down _ here name _ _ below hname hlookup _ ih =>
    obtain ⟨inner, hinner⟩ := hgrows.directory ((hhere.lookup name).trans hlookup)
    rw [hseen hthere hlocation] at hinner
    obtain ⟨became, hwalk, hbecomes⟩ := ih (hhere.down hlookup) (hthere.down hinner) (by
      rw [Standpoint.location_down, Standpoint.location_down, hlocation])
    exact ⟨became, .down hname hinner hwalk, hbecomes⟩
  | @file _ here name _ content hname hlookup hlast =>
    obtain ⟨new, hnew⟩ := hgrows.file ((hhere.lookup name).trans hlookup)
    have hentry := (hseen hthere hlocation name).symm.trans hnew
    rw [← hlocation] at hnew ⊢
    exact ⟨_, .file hname hentry hlast, .file hnew⟩
  | @link _ here name target _ hname hlookup haim =>
    have hkept := hgrows.link ((hhere.lookup name).trans hlookup)
    rw [hseen hthere hlocation] at hkept
    rw [← hlocation]
    exact ⟨_, .link hname hkept haim, .link _ _⟩
  | @follow _ here name target _ _ hname hlookup haim _ ih =>
    have hkept := hgrows.link ((hhere.lookup name).trans hlookup)
    rw [hseen hthere hlocation] at hkept
    obtain ⟨became, hwalk, hbecomes⟩ :=
      ih (hhere.linkBase target) (hthere.linkBase target) (by
        rw [linkBase, linkBase]
        split
        · rfl
        · exact hlocation)
    exact ⟨became, .follow hname hkept haim hwalk, hbecomes⟩

namespace FileTree

/-- A tree has grown: all that stood in it stands there, and relative paths are taken from where
they were taken. -/
structure Grows (tree grown : FileTree) : Prop where
  entries : tree.entries.Grows grown.entries
  home_eq : grown.home = tree.home

variable {tree grown : FileTree} {path : Path}

theorem Grows.base_eq (h : tree.Grows grown) (path : Path) : grown.base path = tree.base path := by
  rw [base, base, h.home_eq]

theorem Grows.exists_start? (h : tree.Grows grown) (hstart : tree.start? path = some here) :
    ∃ there, grown.start? path = some there ∧ there.location = here.location := by
  have hbase := (in_of_start? hstart).get?
  obtain ⟨inner, hinner⟩ := h.entries.directory hbase
  rw [location_of_start? hstart, ← h.base_eq] at hinner
  obtain ⟨there, hthere, -⟩ := FileTree.exists_start? hinner
  refine ⟨there, hthere, ?_⟩
  rw [location_of_start? hthere, location_of_start? hstart, h.base_eq]

/-- In a tree that has grown, a path leads to what has become of the place to which it led. -/
theorem resolve_grows (hgrows : tree.Grows grown) (h : tree.resolve aim path = .ok place) :
    ∃ became, grown.resolve aim path = .ok became ∧ place.Becomes grown.entries became := by
  obtain ⟨hspelling, hproblem, here, hstart, hwalk⟩ := resolve_eq_ok_iff.mp h
  obtain ⟨there, hthere, hlocation⟩ := hgrows.exists_start? hstart
  obtain ⟨became, hbecame, hbecomes⟩ :=
    hwalk.grows hgrows.entries (in_of_start? hstart) (in_of_start? hthere) hlocation
  exact ⟨became, resolve_eq_ok_iff.mpr ⟨hspelling, hproblem, there, hthere, hbecame⟩, hbecomes⟩

end FileTree

end

/-! ### Reading -/

/-- A place is a directory. -/
def Place.IsDirectory : Place → Prop
  | .directory _ => True
  | _ => False

section

variable {root : Contents} {aim : Aim} {links : Nat} {here : Standpoint} {names : List String}
  {place : Place}

theorem Walks.reading (h : Walks root aim links here names place)
    (hplace : aim = .writing ∨ place.IsDirectory) : Walks root .reading links here names place := by
  -- only writing ends at a name that is missing or at a file, and its last names are the same
  have hreading : ∀ {rest : List String} {ended : Place}, ¬ended.IsDirectory →
      aim = .writing ∨ ended.IsDirectory → aim.isLast rest = true →
        Aim.reading.isLast rest = true := by
    rintro rest ended hended (rfl | hdirectory) hlast
    · exact hlast
    · exact absurd hdirectory hended
  induction h with
  | done => exact .done
  | idle hidle _ ih => exact .idle hidle (ih hplace)
  | up _ ih => exact .up (ih hplace)
  | missing hname hlookup hlast => exact .missing hname.reading hlookup (hreading id hplace hlast)
  | down hname hlookup _ ih => exact .down hname.reading hlookup (ih hplace)
  | file hname hlookup hlast => exact .file hname.reading hlookup (hreading id hplace hlast)
  | link _ _ haim =>
    rcases hplace with rfl | hdirectory
    · cases haim
    · exact hdirectory.elim
  | follow hname hlookup _ _ ih => exact .follow hname.reading hlookup rfl (ih hplace)

/-- Reading goes where writing goes, and where making an entry finds a directory. -/
theorem FileTree.resolve_reading {tree : FileTree} {path : Path}
    (hplace : aim = .writing ∨ place.IsDirectory) (h : tree.resolve aim path = .ok place) :
    tree.resolve .reading path = .ok place := by
  obtain ⟨hspelling, hproblem, here, hstart, hwalk⟩ := resolve_eq_ok_iff.mp h
  exact resolve_eq_ok_iff.mpr ⟨hspelling, hproblem, here, hstart, hwalk.reading hplace⟩

end

end FindingCheck
