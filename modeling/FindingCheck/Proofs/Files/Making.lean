import FindingCheck.Proofs.Files.Walk

/-!
# Making directories and writing files

Directories are made where nothing is, one after the other, and nothing else changes. A directory
that has been ensured stays ensured while the tree grows, so ensuring it again changes nothing. A
file that cannot be opened is left as it is; one that has been opened has lost what was in it.

## Main definitions

* `FileTree.Makes` — a tree comes from another one by making directories
* `FileTree.Ensured` — a path leads to a directory, and none is made there
* `FileTree.Writes` — how the writing of a file ends

## Main statements

* `FileTree.Makes.seen?_eq` — what is seen where directories have been made
* `run_makeChain` — a chain of directories makes some of them, and ensures the first unless it fails
* `FileTree.writes_writeBytes` — a file is written where nothing or a file is
-/

namespace FindingCheck

/-! ### Entries that are put -/

theorem Entry.outline_bare (entry : Entry) : entry.bare.outline = entry.outline := by
  cases entry <;> rfl

namespace Contents.Grows

variable {before after last : Contents}

theorem refl (entries : Contents) : entries.Grows entries where
  keeps _ _ h := by rw [h]; rfl
  noLink _ _ h := by rw [h]; simp

theorem trans (h : before.Grows after) (hlast : after.Grows last) : before.Grows last where
  keeps location entry hentry := by
    obtain ⟨kept, hkept, houtline⟩ := Option.map_eq_some_iff.mp (h.keeps location entry hentry)
    rw [hlast.keeps location kept hkept, houtline]
  noLink location target hlink hnone := by
    cases hafter : after.get? location with
    | none => exact hlast.noLink location target hlink hafter
    | some entry =>
      have hkept := hlast.keeps location entry hafter
      rw [hlink] at hkept
      cases entry with
      | file content => cases hkept
      | directory inner => cases hkept
      | link other => exact h.noLink location other hafter hnone

/-- A directory was one before, unless nothing was there. -/
theorem directory_before {location : Location} {new : Contents} (h : before.Grows after)
    (hdirectory : after.get? location = some (.directory new)) :
    before.get? location = none ∨ ∃ inner, before.get? location = some (.directory inner) := by
  cases hbefore : before.get? location with
  | none => exact .inl rfl
  | some entry =>
    have hkept := h.keeps location entry hbefore
    rw [hdirectory] at hkept
    cases entry with
    | file content => cases hkept
    | link target => cases hkept
    | directory inner => exact .inr ⟨inner, rfl⟩

/-- A file was one before, unless nothing was there. -/
theorem file_before {location : Location} {new : ByteArray} (h : before.Grows after)
    (hfile : after.get? location = some (.file new)) :
    before.get? location = none ∨ ∃ content, before.get? location = some (.file content) := by
  cases hbefore : before.get? location with
  | none => exact .inl rfl
  | some entry =>
    have hkept := h.keeps location entry hbefore
    rw [hfile] at hkept
    cases entry with
    | file content => exact .inr ⟨content, rfl⟩
    | link target => cases hkept
    | directory inner => cases hkept

end Contents.Grows

namespace FileTree

variable {tree next after furnished : FileTree} {directory : Location} {name : String}
  {path : Path} {content : ByteArray}

theorem Grows.refl (tree : FileTree) : tree.Grows tree :=
  ⟨.refl _, rfl⟩

theorem Grows.trans (h : tree.Grows next) (hnext : next.Grows after) : tree.Grows after :=
  ⟨h.entries.trans hnext.entries, hnext.home_eq.trans h.home_eq⟩

theorem location_mem_seen? {location : Location} {entry : Entry}
    (h : tree.entries.get? location = some entry) : tree.seen? location = some entry.bare := by
  rw [seen?, Contents.seen?, h]
  rfl

/-- A tree grows by what is put where nothing is, and by a file in place of a file. -/
theorem grows_put {inner : Contents} (hdirectory : tree.get? directory = some (.directory inner))
    {entry : Entry} (hentry : entry.contents = []) (hdistinct : entry.contents.Distinct)
    (hlink : ∀ target, entry ≠ .link target)
    (hold : ∀ old, inner.lookup name = some old →
      old.outline = entry.outline ∧ ∀ below, old ≠ .directory below) :
    tree.Grows (tree.put directory name entry hdistinct) := by
  have hname : ∀ below, inner.lookup name ≠ some (.directory below) := by
    intro below hbelow
    exact (hold _ hbelow).2 below rfl
  have hseen := seen?_put hdirectory hname hentry hdistinct
  refine ⟨⟨?_, ?_⟩, rfl⟩
  · intro location old hlocation
    have hbare := location_mem_seen? hlocation
    have hafter := hseen location
    by_cases hhere : location = directory ++ [name]
    · subst hhere
      rw [if_pos rfl] at hafter
      have hlookup : inner.lookup name = some old :=
        (Contents.get?_append_singleton hdirectory name).symm.trans hlocation
      obtain ⟨put, hput, hputBare⟩ := Option.map_eq_some_iff.mp hafter
      rw [hput, Option.map_some, ← put.outline_bare, hputBare, entry.outline_bare,
        (hold old hlookup).1]
    · rw [if_neg hhere, hbare] at hafter
      obtain ⟨kept, hkept, hkeptBare⟩ := Option.map_eq_some_iff.mp hafter
      rw [hkept, Option.map_some, ← kept.outline_bare, hkeptBare, old.outline_bare]
  · intro location target hafter hbefore
    have hlinked := (hseen location).symm.trans (location_mem_seen? hafter)
    by_cases hhere : location = directory ++ [name]
    · rw [if_pos hhere] at hlinked
      cases entry with
      | file content => cases hlinked
      | directory below => cases hlinked
      | link other => exact hlink other rfl
    · rw [if_neg hhere, seen?_eq_none_iff.mpr hbefore] at hlinked
      cases hlinked

/-! ### One directory -/

theorem makeDirectory_of_error {problem : FileProblem}
    (h : tree.resolve .entry path = .error problem) : tree.makeDirectory path = .error problem := by
  unfold makeDirectory
  rw [h]
  rfl

theorem makeDirectory_of_missing (h : tree.resolve .entry path = .ok (.missing directory name)) :
    tree.makeDirectory path = .ok (tree.put directory name (.directory [])) := by
  unfold makeDirectory
  rw [h]
  rfl

theorem makeDirectory_of_taken {place : Place} (h : tree.resolve .entry path = .ok place)
    (hplace : ∀ directory name, place ≠ .missing directory name) :
    tree.makeDirectory path = .error .alreadyExists := by
  unfold makeDirectory
  rw [h]
  cases place with
  | missing directory name => exact absurd rfl (hplace directory name)
  | directory entries => rfl
  | file above name content => rfl
  | link above name => rfl

theorem makeDirectory_eq_ok_iff :
    tree.makeDirectory path = .ok next ↔
      ∃ directory name, tree.resolve .entry path = .ok (.missing directory name) ∧
        next = tree.put directory name (.directory []) := by
  constructor
  · intro h
    cases hresolve : tree.resolve .entry path with
    | error problem =>
      rw [makeDirectory_of_error hresolve] at h
      cases h
    | ok place =>
      by_cases hplace : ∃ directory name, place = .missing directory name
      · obtain ⟨directory, name, rfl⟩ := hplace
        rw [makeDirectory_of_missing hresolve] at h
        exact ⟨directory, name, rfl, (Except.ok.inj h).symm⟩
      · have hpresent : ∀ directory name, place ≠ .missing directory name :=
          fun directory name heq => hplace ⟨directory, name, heq⟩
        rw [makeDirectory_of_taken hresolve hpresent] at h
        cases h
  · rintro ⟨directory, name, hmissing, rfl⟩
    exact makeDirectory_of_missing hmissing

/-- What is seen after a directory has been made at a name that was missing. -/
theorem seen?_put_directory (h : tree.resolve .entry path = .ok (.missing directory name))
    (location : Location) :
    (tree.put directory name (.directory [])).seen? location =
      if location = directory ++ [name] then some (.directory []) else tree.seen? location := by
  obtain ⟨inner, hdirectory, hmissing⟩ := resolve_stands h
  exact seen?_put hdirectory (by simp [hmissing]) rfl _ location

theorem grows_put_directory (h : tree.resolve .entry path = .ok (.missing directory name)) :
    tree.Grows (tree.put directory name (.directory [])) := by
  obtain ⟨inner, hdirectory, hmissing⟩ := resolve_stands h
  exact grows_put hdirectory rfl _ (fun _ => by simp) (by simp [hmissing])

/-! ### Directories that are ensured -/

/-- A path leads to a directory, and none is made there. -/
structure Ensured (tree : FileTree) (path : Path) : Prop where
  taken : tree.makeDirectory path = .error .alreadyExists
  isDirectory : tree.isDirectory path = true

theorem isDirectory_iff :
    tree.isDirectory path = true ↔
      ∃ place, tree.resolve .reading path = .ok place ∧ place.IsDirectory := by
  rw [isDirectory, contentsAt]
  cases tree.resolve .reading path with
  | error problem => simp [bind, Except.bind, Except.isOk, Except.toBool]
  | ok place =>
    cases place <;>
      simp [bind, Except.bind, Except.isOk, Except.toBool, Place.IsDirectory]

theorem Ensured.of_resolve {entries : Contents}
    (h : ∀ aim, tree.resolve aim path = .ok (.directory entries)) : tree.Ensured path where
  taken := makeDirectory_of_taken (h .entry) (by simp)
  isDirectory := isDirectory_iff.mpr ⟨_, h .reading, True.intro⟩

end FileTree

theorem walkNames_ne_alreadyExists {aim : Aim}
    {follow : Standpoint → String → List String → Except FileProblem Place}
    (hfollow : ∀ here target rest, follow here target rest ≠ .error .alreadyExists)
    (here : Standpoint) (names : List String) :
    walkNames aim follow here names ≠ .error .alreadyExists := by
  induction names generalizing here with
  | nil => simp [walkNames]
  | cons name rest ih =>
    rw [walkNames]
    split
    · exact ih here
    split
    · exact ih here.up
    split
    · simp
    split
    · simp
    split
    · split <;> simp
    · exact ih _
    · split <;> simp
    · split
      · simp
      · exact hfollow _ _ _

namespace FileTree

variable {tree next after furnished : FileTree} {directory : Location} {name : String}
  {path : Path} {content : ByteArray}

/-- No walk fails because a name is taken. -/
theorem resolve_ne_alreadyExists (tree : FileTree) (aim : Aim) (path : Path) :
    tree.resolve aim path ≠ .error .alreadyExists := by
  have hwalk : ∀ links here names, walk tree.entries aim links here names ≠
      .error .alreadyExists := by
    intro links
    induction links with
    | zero => exact walkNames_ne_alreadyExists (by simp)
    | succ links ih => exact walkNames_ne_alreadyExists fun _ _ _ => ih _ _
  rw [resolve]
  split
  · simp
  split
  · next problem hproblem =>
    intro h
    obtain rfl := Except.error.inj h
    rw [spellingProblem?] at hproblem
    split at hproblem
    · cases hproblem
    · split at hproblem <;> cases hproblem
  split
  · simp
  · exact hwalk _ _ _

theorem makeDirectory_eq_alreadyExists_iff :
    tree.makeDirectory path = .error .alreadyExists ↔
      ∃ place, tree.resolve .entry path = .ok place ∧
        ∀ directory name, place ≠ .missing directory name := by
  constructor
  · intro h
    cases hresolve : tree.resolve .entry path with
    | error problem =>
      rw [makeDirectory_of_error hresolve] at h
      obtain rfl := Except.error.inj h
      exact absurd hresolve (resolve_ne_alreadyExists tree .entry path)
    | ok place =>
      refine ⟨place, rfl, ?_⟩
      rintro directory name rfl
      rw [makeDirectory_of_missing hresolve] at h
      cases h
  · rintro ⟨place, hresolve, hplace⟩
    exact makeDirectory_of_taken hresolve hplace

theorem isDirectory_grows (hgrows : tree.Grows next)
    (h : tree.isDirectory path = true) : next.isDirectory path = true := by
  obtain ⟨place, hplace, hdirectory⟩ := isDirectory_iff.mp h
  obtain ⟨became, hbecame, hbecomes⟩ := resolve_grows hgrows hplace
  refine isDirectory_iff.mpr ⟨became, hbecame, ?_⟩
  cases hbecomes with
  | directory => trivial
  | file => exact hdirectory
  | link => exact hdirectory
  | missing => exact hdirectory.elim
  | made => exact hdirectory.elim
  | written => exact hdirectory.elim

/-- What is ensured stays so while the tree grows. -/
theorem Ensured.grows (hgrows : tree.Grows next) (h : tree.Ensured path) :
    next.Ensured path := by
  refine ⟨?_, isDirectory_grows hgrows h.isDirectory⟩
  obtain ⟨place, hplace, hpresent⟩ := makeDirectory_eq_alreadyExists_iff.mp h.taken
  obtain ⟨became, hbecame, hbecomes⟩ := resolve_grows hgrows hplace
  refine makeDirectory_eq_alreadyExists_iff.mpr ⟨became, hbecame, ?_⟩
  intro directory name hmissing
  cases hbecomes with
  | missing => exact hpresent _ _ rfl
  | directory => cases hmissing
  | file => cases hmissing
  | link => cases hmissing
  | made => cases hmissing
  | written => cases hmissing

theorem ensured_put_directory (h : tree.resolve .entry path = .ok (.missing directory name)) :
    (tree.put directory name (.directory [])).Ensured path := by
  have hhere : (tree.put directory name (.directory [])).get? (directory ++ [name]) =
      some (.directory []) := by
    obtain ⟨inner, hdirectory, -⟩ := resolve_stands h
    exact Contents.get?_change_put hdirectory []
  obtain ⟨became, hbecame, hbecomes⟩ := resolve_grows (grows_put_directory h) h
  cases hbecomes with
  | missing hmissing => cases hmissing.symm.trans hhere
  | written hwritten => cases hwritten.symm.trans hhere
  | @made _ _ inner =>
    have hplace : (Place.directory inner).IsDirectory := True.intro
    refine ⟨makeDirectory_eq_alreadyExists_iff.mpr ⟨_, hbecame, by simp⟩, ?_⟩
    exact isDirectory_iff.mpr ⟨_, resolve_reading (.inr hplace) hbecame, hplace⟩

/-! ### Several directories -/

/-- A tree comes from another one by making directories that paths name, each where its name was
missing. -/
inductive Makes (paths : List Path) : FileTree → List Location → FileTree → Prop
  | done (tree : FileTree) : Makes paths tree [] tree
  | make {tree after : FileTree} {path : Path} {directory : Location} {name : String}
      {made : List Location} (hpath : path ∈ paths)
      (hmissing : tree.resolve .entry path = .ok (.missing directory name))
      (hrest : Makes paths (tree.put directory name (.directory [])) made after) :
      Makes paths tree ((directory ++ [name]) :: made) after

namespace Makes

variable {paths others : List Path} {made more : List Location}

theorem mono (h : Makes paths tree made after) (hpaths : ∀ path ∈ paths, path ∈ others) :
    Makes others tree made after := by
  induction h with
  | done tree => exact .done tree
  | make hpath hmissing _ ih => exact .make (hpaths _ hpath) hmissing ih

theorem trans (h : Makes paths tree made next) (hnext : Makes paths next more after) :
    Makes paths tree (made ++ more) after := by
  induction h with
  | done tree => exact hnext
  | make hpath hmissing _ ih => exact .make hpath hmissing (ih hnext)

theorem single (hpath : path ∈ paths)
    (hmissing : tree.resolve .entry path = .ok (.missing directory name)) :
    Makes paths tree [directory ++ [name]] (tree.put directory name (.directory [])) :=
  .make hpath hmissing (.done _)

theorem grows (h : Makes paths tree made after) : tree.Grows after := by
  induction h with
  | done tree => exact .refl _
  | make _ hmissing _ ih => exact (grows_put_directory hmissing).trans ih

theorem interruption?_eq (h : Makes paths tree made after) :
    after.interruption? = tree.interruption? := by
  induction h with
  | done tree => rfl
  | make _ _ _ ih => exact ih

/-- Nothing else changes where directories have been made. -/
theorem seen?_eq (h : Makes paths tree made after) (location : Location) :
    after.seen? location =
      if location ∈ made then some (.directory []) else tree.seen? location := by
  induction h with
  | done tree => simp
  | @make tree after path directory name made _ hmissing _ ih =>
    rw [ih, seen?_put_directory hmissing]
    by_cases hhere : location = directory ++ [name]
    · simp [hhere]
    · simp [hhere]

/-- Nothing was there before. -/
theorem seen?_eq_none (h : Makes paths tree made after) {location : Location}
    (hlocation : location ∈ made) : tree.seen? location = none := by
  induction h with
  | done tree => cases hlocation
  | @make tree after path directory name made _ hmissing _ ih =>
    obtain ⟨inner, hdirectory, hnone⟩ := resolve_stands hmissing
    rcases List.mem_cons.mp hlocation with rfl | hmade
    · rw [seen?_eq_none_iff]
      exact (Contents.get?_append_singleton hdirectory name).trans hnone
    · have hput := ih hmade
      rw [seen?_put_directory hmissing] at hput
      split at hput
      · cases hput
      · exact hput

end Makes

theorem run_change (f : FileTree → Except FileProblem FileTree) (tree : FileTree) :
    (change f).run tree =
      match f tree with
      | .ok next => (.ok (), next)
      | .error problem => (.error problem, tree) := by
  rw [change, StateT.run_bind]
  show StateT.run (match f tree with
    | .ok next => (do set next; return .ok ())
    | .error problem => return .error problem : StateM FileTree (Except FileProblem Unit)) tree = _
  cases f tree <;> rfl

theorem run_makeDirectory (tree : FileTree) (path : Path) :
    (MonadFiles.makeDirectory path : StateM FileTree (Except FileProblem Unit)).run tree =
      match tree.makeDirectory path with
      | .ok next => (.ok (), next)
      | .error problem => (.error problem, tree) :=
  run_change (·.makeDirectory path) tree

theorem run_writeText (tree : FileTree) (path : Path) (text : String) :
    (MonadFiles.writeText path text : StateM FileTree (Except FileProblem Unit)).run tree =
      tree.writeBytes path text.toUTF8 :=
  rfl

end FileTree

section

variable {tree after : FileTree} {path : Path} {paths : List Path}
  {result : Except FileProblem Unit}

theorem run_ensureDirectory_of_ok {next : FileTree} (h : tree.makeDirectory path = .ok next) :
    (ensureDirectory path : StateM FileTree (Except FileProblem Unit)).run tree =
      (.ok (), next) := by
  rw [ensureDirectory, StateT.run_bind, FileTree.run_makeDirectory, h]
  rfl

theorem run_ensureDirectory_of_taken (h : tree.makeDirectory path = .error .alreadyExists) :
    (ensureDirectory path : StateM FileTree (Except FileProblem Unit)).run tree =
      (if tree.isDirectory path then .ok () else .error .alreadyExists, tree) := by
  rw [ensureDirectory, StateT.run_bind, FileTree.run_makeDirectory, h]
  rfl

theorem run_ensureDirectory_of_error {problem : FileProblem}
    (h : tree.makeDirectory path = .error problem) (hproblem : problem ≠ .alreadyExists) :
    (ensureDirectory path : StateM FileTree (Except FileProblem Unit)).run tree =
      (.error problem, tree) := by
  rw [ensureDirectory, StateT.run_bind, FileTree.run_makeDirectory, h]
  cases problem with
  | alreadyExists => exact absurd rfl hproblem
  | _ => rfl

/-- A directory that is ensured is there, and it has been made if need be. -/
theorem run_ensureDirectory
    (h : (ensureDirectory path : StateM FileTree (Except FileProblem Unit)).run tree =
      (result, after)) :
    (∃ made, FileTree.Makes [path] tree made after) ∧
      (result = .ok () → after.Ensured path) := by
  cases hmake : tree.makeDirectory path with
  | ok next =>
    rw [run_ensureDirectory_of_ok hmake] at h
    obtain ⟨-, rfl⟩ := Prod.mk.inj h
    obtain ⟨directory, name, hmissing, rfl⟩ := FileTree.makeDirectory_eq_ok_iff.mp hmake
    exact ⟨⟨_, .single (List.mem_singleton_self path) hmissing⟩,
      fun _ => FileTree.ensured_put_directory hmissing⟩
  | error problem =>
    by_cases htaken : problem = .alreadyExists
    · subst htaken
      rw [run_ensureDirectory_of_taken hmake] at h
      obtain ⟨rfl, rfl⟩ := Prod.mk.inj h
      refine ⟨⟨[], .done _⟩, fun hresult => ⟨hmake, ?_⟩⟩
      cases hdirectory : tree.isDirectory path with
      | true => rfl
      | false =>
        rw [hdirectory] at hresult
        cases hresult
    · rw [run_ensureDirectory_of_error hmake htaken] at h
      obtain ⟨rfl, rfl⟩ := Prod.mk.inj h
      exact ⟨⟨[], .done _⟩, fun hresult => by cases hresult⟩

theorem run_makeChain_of_ne_notFound {above : List Path} (hpath : path.text.isEmpty = false)
    (h : (ensureDirectory path : StateM FileTree (Except FileProblem Unit)).run tree =
      (result, after)) (hresult : result ≠ .error .notFound) :
    (makeChain (path :: above) : StateM FileTree (Except FileProblem Unit)).run tree =
      (result, after) := by
  rw [makeChain, hpath]
  show StateT.run (ensureDirectory path >>= _) tree = _
  rw [StateT.run_bind, h]
  cases result with
  | ok _ => rfl
  | error problem =>
    cases problem with
    | notFound => exact absurd rfl hresult
    | _ => rfl

section

variable {above : List Path} {middle last : FileTree}

theorem run_makeChain_of_made (hpath : path.text.isEmpty = false)
    (h : (ensureDirectory path : StateM FileTree (Except FileProblem Unit)).run tree =
      (.error .notFound, middle))
    (habove : (makeChain above : StateM FileTree (Except FileProblem Unit)).run middle =
      (.ok (), last)) :
    (makeChain (path :: above) : StateM FileTree (Except FileProblem Unit)).run tree =
      (ensureDirectory path : StateM FileTree (Except FileProblem Unit)).run last := by
  rw [makeChain, hpath]
  show StateT.run (ensureDirectory path >>= _) tree = _
  rw [StateT.run_bind, h]
  show StateT.run (makeChain above >>= _) middle = _
  rw [StateT.run_bind, habove]
  rfl

theorem run_makeChain_of_failed {problem : FileProblem} (hpath : path.text.isEmpty = false)
    (h : (ensureDirectory path : StateM FileTree (Except FileProblem Unit)).run tree =
      (.error .notFound, middle))
    (habove : (makeChain above : StateM FileTree (Except FileProblem Unit)).run middle =
      (.error problem, last)) :
    (makeChain (path :: above) : StateM FileTree (Except FileProblem Unit)).run tree =
      (.error problem, last) := by
  rw [makeChain, hpath]
  show StateT.run (ensureDirectory path >>= _) tree = _
  rw [StateT.run_bind, h]
  show StateT.run (makeChain above >>= _) middle = _
  rw [StateT.run_bind, habove]
  rfl

end

/-- A directory that is found only once those behind it are there is ensured after them. -/
theorem run_makeChain_of_found {above : List Path} {next : FileTree} {names : List String}
    {entries : Contents} {here there : Standpoint} (hspells : path.Spells names)
    (hstart : tree.start? path = some here) (hstartNext : next.start? path = some there)
    (hmissing : walk tree.entries .entry linkLimit here names = .error .notFound)
    (hfound : ∀ aim, walk next.entries aim linkLimit there names = .ok (.directory entries))
    (habove : (makeChain above : StateM FileTree (Except FileProblem Unit)).run tree =
      (.ok (), next)) :
    (makeChain (path :: above) : StateM FileTree (Except FileProblem Unit)).run tree =
      (.ok (), next) := by
  have hthere : ∀ aim, next.resolve aim path = .ok (.directory entries) := fun aim =>
    (FileTree.resolve_of_spells aim hspells hstartNext).trans (hfound aim)
  have hensured : next.Ensured path := .of_resolve hthere
  have hfails := run_ensureDirectory_of_error
    (FileTree.makeDirectory_of_error
      ((FileTree.resolve_of_spells .entry hspells hstart).trans hmissing)) (by simp)
  rw [run_makeChain_of_made (FileTree.isEmpty_of_resolve (hthere .reading)) hfails habove,
    run_ensureDirectory_of_taken hensured.taken, hensured.isDirectory]
  rfl

/-- A chain makes some of its directories, and unless it fails the first one is ensured. -/
theorem run_makeChain
    (h : (makeChain paths : StateM FileTree (Except FileProblem Unit)).run tree = (result, after)) :
    (∃ made, FileTree.Makes paths tree made after) ∧
      (result = .ok () → ∀ path ∈ paths.head?, path.text.isEmpty = false → after.Ensured path) := by
  induction paths generalizing tree after result with
  | nil =>
    obtain ⟨-, rfl⟩ := Prod.mk.inj h
    exact ⟨⟨[], .done _⟩, by simp⟩
  | cons path above ih =>
    cases hpath : path.text.isEmpty with
    | true =>
      rw [makeChain, hpath] at h
      obtain ⟨-, rfl⟩ := Prod.mk.inj h
      refine ⟨⟨[], .done _⟩, fun _ other hother hne => ?_⟩
      obtain rfl : path = other := by simpa using hother
      rw [hpath] at hne
      cases hne
    | false =>
      have hhere : ∀ only ∈ [path], only ∈ path :: above := by simp
      rcases hensure :
        (ensureDirectory path : StateM FileTree (Except FileProblem Unit)).run tree with
        ⟨first, middle⟩
      obtain ⟨⟨made, hmade⟩, hensured⟩ := run_ensureDirectory hensure
      by_cases hfirst : first = .error .notFound
      · subst hfirst
        -- the directories behind it come first, and then it is ensured once more
        rcases hchain :
          (makeChain above : StateM FileTree (Except FileProblem Unit)).run middle with
          ⟨chained, last⟩
        obtain ⟨⟨more, hmore⟩, -⟩ := ih hchain
        have hboth := (hmade.mono hhere).trans
          (hmore.mono fun _ hpath => List.mem_cons_of_mem path hpath)
        cases chained with
        | error problem =>
          rw [run_makeChain_of_failed hpath hensure hchain] at h
          obtain ⟨rfl, rfl⟩ := Prod.mk.inj h
          exact ⟨⟨_, hboth⟩, fun hresult => by cases hresult⟩
        | ok done =>
          rw [run_makeChain_of_made hpath hensure hchain] at h
          obtain ⟨⟨again, hagain⟩, hensured⟩ := run_ensureDirectory h
          refine ⟨⟨_, hboth.trans (hagain.mono hhere)⟩, fun hresult other hother _ => ?_⟩
          obtain rfl : path = other := by simpa using hother
          exact hensured hresult
      · rw [run_makeChain_of_ne_notFound hpath hensure hfirst] at h
        obtain ⟨rfl, rfl⟩ := Prod.mk.inj h
        refine ⟨⟨made, hmade.mono hhere⟩, fun hresult other hother _ => ?_⟩
        obtain rfl : path = other := by simpa using hother
        exact hensured hresult

/-- Where the first directory of a chain is ensured, nothing is made. -/
theorem run_makeChain_of_ensured {above : List Path} (h : tree.Ensured path) :
    (makeChain (path :: above) : StateM FileTree (Except FileProblem Unit)).run tree =
      (.ok (), tree) := by
  cases hpath : path.text.isEmpty with
  | true =>
    rw [makeChain, hpath]
    rfl
  | false =>
    apply run_makeChain_of_ne_notFound hpath
    · rw [run_ensureDirectory_of_taken h.taken, h.isDirectory]
      rfl
    · simp

end

/-! ### Files that are written -/

namespace Contents

theorem put_put (entries : Contents) (name : String) (entry other : Entry) :
    (entries.put name entry).put name other = entries.put name other := by
  rw [put, put, put, erase, erase, List.filter_cons_of_neg (by simp), List.filter_filter]
  simp

/-- A change that is made twice changes what it changed the first time. -/
theorem change_change {f : Contents → Contents} (hf : ∀ entries, f (f entries) = f entries)
    (location : Location) (entries : Contents) :
    change f location (change f location entries) = change f location entries := by
  induction location generalizing entries with
  | nil => exact hf entries
  | cons name rest ih =>
    cases hname : entries.lookup name with
    | none => simp [change, hname]
    | some entry =>
      cases entry with
      | file content => simp [change, hname]
      | link target => simp [change, hname]
      | directory below =>
        have hput : change f (name :: rest) entries =
            entries.put name (.directory (change f rest below)) := by
          rw [change, hname]
        rw [hput, change, lookup_put, if_pos rfl]
        simp only
        rw [ih, put_put]

end Contents

namespace FileTree

/-- What is put where it was put changes nothing. -/
theorem put_put (tree : FileTree) (directory : Location) (name : String) (entry : Entry)
    (hentry : entry.contents.Distinct) :
    (tree.put directory name entry hentry).put directory name entry hentry =
      tree.put directory name entry hentry := by
  have hentries := Contents.change_change (f := fun below => below.put name entry)
    (fun below => Contents.put_put below name entry entry) directory tree.entries
  simp only [put, hentries]

variable {tree next after : FileTree} {directory : Location} {name : String} {path : Path}
  {content old : ByteArray}

/-- Where a file can be written: a name that is missing, or a file. -/
def Writable (tree : FileTree) (path : Path) (directory : Location) (name : String) : Prop :=
  tree.resolve .writing path = .ok (.missing directory name) ∨
    ∃ old, tree.resolve .writing path = .ok (.file directory name old)

theorem writeBytes_of_writable (h : tree.Writable path directory name) (content : ByteArray) :
    tree.writeBytes path content =
      ((tree.written content).1, tree.put directory name (.file (tree.written content).2)) := by
  rcases h with hmissing | ⟨old, hfile⟩
  · rw [writeBytes, hmissing]
  · rw [writeBytes, hfile]

theorem written_of_none (h : tree.interruption? content = none) :
    tree.written content = (.ok (), content) := by
  rw [written, h]

/-- How the writing of a file ends. -/
inductive Writes (tree : FileTree) (path : Path) (content : ByteArray) :
    Except FileProblem Unit → FileTree → Prop
  /-- The file could not be opened. -/
  | unopened (problem : FileProblem) : Writes tree path content (.error problem) tree
  /-- Writing has broken off. -/
  | brokenOff {directory : Location} {name : String} {interruption : Interruption}
      (hplace : tree.Writable path directory name)
      (hinterruption : tree.interruption? content = some interruption) :
      Writes tree path content (.error interruption.reason)
        (tree.put directory name (.file (content.extract 0 interruption.written)))
  /-- The content has been written. -/
  | complete {directory : Location} {name : String} (hplace : tree.Writable path directory name)
      (hnone : tree.interruption? content = none) :
      Writes tree path content (.ok ()) (tree.put directory name (.file content))

theorem writes_writeBytes (tree : FileTree) (path : Path) (content : ByteArray) :
    tree.Writes path content (tree.writeBytes path content).1 (tree.writeBytes path content).2 := by
  by_cases hplace : ∃ directory name, tree.Writable path directory name
  · obtain ⟨directory, name, hplace⟩ := hplace
    rw [writeBytes_of_writable hplace, written]
    cases hinterruption : tree.interruption? content with
    | none => exact .complete hplace hinterruption
    | some interruption => exact .brokenOff hplace hinterruption
  · have hunopened : ∃ problem, tree.writeBytes path content = (.error problem, tree) := by
      rw [writeBytes]
      split
      · next directory name old hfile =>
        exact absurd ⟨directory, name, .inr ⟨old, hfile⟩⟩ hplace
      · next directory name hmissing => exact absurd ⟨directory, name, .inl hmissing⟩ hplace
      · exact ⟨_, rfl⟩
      · exact ⟨_, rfl⟩
      · exact ⟨_, rfl⟩
    obtain ⟨problem, hwrite⟩ := hunopened
    rw [hwrite]
    exact .unopened problem

namespace Writable

theorem exists_inner (h : tree.Writable path directory name) :
    ∃ inner, tree.get? directory = some (.directory inner) ∧
      ∀ entry, inner.lookup name = some entry → ∃ old, entry = .file old := by
  rcases h with hmissing | ⟨old, hfile⟩
  · obtain ⟨inner, hdirectory, hname⟩ := resolve_stands hmissing
    exact ⟨inner, hdirectory, by simp [hname]⟩
  · obtain ⟨inner, hdirectory, hname⟩ := resolve_stands hfile
    refine ⟨inner, hdirectory, fun entry hentry => ⟨old, ?_⟩⟩
    exact Option.some.inj (hentry.symm.trans hname)

theorem seen?_put (h : tree.Writable path directory name) (content : ByteArray)
    (location : Location) :
    (tree.put directory name (.file content)).seen? location =
      if location = directory ++ [name] then some (.file content) else tree.seen? location := by
  obtain ⟨inner, hdirectory, hfile⟩ := h.exists_inner
  apply FileTree.seen?_put hdirectory ?_ rfl
  intro below hbelow
  obtain ⟨old, hold⟩ := hfile _ hbelow
  cases hold

theorem grows_put (h : tree.Writable path directory name) (content : ByteArray) :
    tree.Grows (tree.put directory name (.file content)) := by
  obtain ⟨inner, hdirectory, hfile⟩ := h.exists_inner
  apply FileTree.grows_put hdirectory rfl _ (fun _ => by simp)
  intro entry hentry
  obtain ⟨old, rfl⟩ := hfile entry hentry
  exact ⟨rfl, by simp⟩

/-- A file that was written is found where it was written. -/
theorem resolve_put (h : tree.Writable path directory name) (content : ByteArray) :
    (tree.put directory name (.file content)).resolve .writing path =
      .ok (.file directory name content) := by
  have hhere : (tree.put directory name (.file content)).get? (directory ++ [name]) =
      some (.file content) := by
    obtain ⟨inner, hdirectory, -⟩ := h.exists_inner
    exact Contents.get?_change_put hdirectory []
  rcases h with hmissing | ⟨old, hfile⟩
  · obtain ⟨became, hbecame, hbecomes⟩ :=
      resolve_grows (grows_put (.inl hmissing) content) hmissing
    cases hbecomes with
    | missing hnone => cases hnone.symm.trans hhere
    | made hmade => cases hmade.symm.trans hhere
    | written hwritten =>
      cases hwritten.symm.trans hhere
      exact hbecame
  · obtain ⟨became, hbecame, hbecomes⟩ :=
      resolve_grows (grows_put (.inr ⟨old, hfile⟩) content) hfile
    cases hbecomes with
    | file hwritten =>
      cases hwritten.symm.trans hhere
      exact hbecame

end Writable

theorem readBytes_of_resolve (h : tree.resolve .reading path = .ok (.file directory name content)) :
    tree.readBytes path = .ok content := by
  unfold readBytes
  rw [h]
  rfl

end FileTree

end FindingCheck
