/-!
# Paths

A path is written with slashes between names. Two spellings of one path are equal: what counts are
its *components*, and a repeated slash, a slash at the end and a `.` inside are no components. A
`.` at the very start of a relative path is one, and so is every `..`.

## Main definitions

* `Path`, `Path.components` — a path as it is spelled, and what counts of it
* `Path.join`, `Path.parent?`, `Path.extension?` — navigation
* `Path.display` — the spelling that reports use

## Design notes

Equality (`==`) and order are those of the components, so they are coarser than equality of the
spellings: every text that the program prints keeps the spelling that was given.
-/

namespace FindingCheck

/-- What counts of a path. -/
inductive Component where
  /-- The slash at the start of an absolute path. -/
  | root
  /-- A `.` at the start of a relative path. -/
  | here
  /-- A `..` anywhere. -/
  | up
  /-- Any other name. -/
  | name (text : String)
deriving DecidableEq, Repr

namespace Component

/-- The position of a component's kind in the order. -/
def rank : Component → Nat
  | root => 0
  | here => 1
  | up => 2
  | name _ => 3

/-- The name of a component that has one. -/
def text : Component → String
  | name text => text
  | _ => ""

/-- Components are ordered by kind, and names by their characters. -/
instance : Ord Component where
  compare := compareLex (compareOn rank) (compareOn text)

instance : Std.TransOrd Component :=
  inferInstanceAs (Std.TransCmp (compareLex (compareOn rank) (compareOn text)))

instance : Std.LawfulEqOrd Component where
  eq_of_compare {a b} h := by
    obtain ⟨hrank, htext⟩ := Ordering.then_eq_eq.mp h
    replace hrank : a.rank = b.rank := Std.LawfulEqOrd.eq_of_compare hrank
    replace htext : a.text = b.text := Std.LawfulEqOrd.eq_of_compare htext
    cases a <;> cases b <;> simp_all [rank, text]

end Component

/-- A path as it is spelled. -/
structure Path where
  /-- The spelling. -/
  text : String
deriving DecidableEq, Repr, Inhabited

namespace Path

/-- The parts of the spelling between slashes. -/
def segments (path : Path) : List (List Char) :=
  path.text.toList.splitOn '/'

/-- Whether the path starts at the root. -/
def isAbsolute (path : Path) : Bool :=
  path.text.toList.head? == some '/'

/-- The component that a part of the spelling stands for, if it stands for one. -/
def component? (segment : List Char) : Option Component :=
  if segment = [] || segment = ['.'] then none
  else if segment = ['.', '.'] then some .up
  else some (.name (String.ofList segment))

/-- The component in front of the named ones: the root, or a `.` that the path starts with. -/
def anchor? (path : Path) : Option Component :=
  if path.isAbsolute then some .root
  else if path.segments.head? = some ['.'] then some .here
  else none

/-- What counts of a path: its anchor and then its named components. -/
def components (path : Path) : List Component :=
  path.anchor?.toList ++ path.segments.filterMap component?

/-- Paths are equal when their components are. -/
instance : BEq Path where
  beq a b := a.components == b.components

/-- Paths are ordered by their components, and a path comes before what lies beneath it. -/
instance : Ord Path where
  compare := compareOn components

instance : Std.TransOrd Path :=
  inferInstanceAs (Std.TransCmp (compareOn components))

theorem beq_iff {a b : Path} : (a == b) = true ↔ a.components = b.components := by
  show (a.components == b.components) = true ↔ _
  exact beq_iff_eq

/-- Two paths compare as equal exactly when they are equal. -/
theorem compare_eq_iff {a b : Path} : compare a b = .eq ↔ (a == b) = true := by
  rw [beq_iff]
  show compare a.components b.components = .eq ↔ _
  exact Std.LawfulEqOrd.compare_eq_iff_eq

/-- The spelling that reports use: every backslash becomes a slash. -/
def display (path : Path) : String :=
  path.text.map fun c => if c = '\\' then '/' else c

/-- The path `relative`, taken from the directory `base`. An absolute path replaces the
directory; else one slash stands between the two, unless the directory is empty or ends in one. -/
def join (base relative : Path) : Path :=
  if relative.isAbsolute || base.text.isEmpty then relative
  else if base.text.toList.getLast? = some '/' then ⟨base.text ++ relative.text⟩
  else ⟨base.text ++ "/" ++ relative.text⟩

/-- The parts of a spelling up to the last one that is a component. -/
def trimSegments (segments : List (List Char)) : List (List Char) :=
  (segments.reverse.dropWhile fun segment => (component? segment).isNone).reverse

/-- The path of the directory that holds the last component, as far as the spelling goes. A path
without a component, and the root alone, have no parent. -/
def parent? (path : Path) : Option Path :=
  match trimSegments path.segments with
  | [] => if path.anchor? = some .here then some ⟨""⟩ else none
  | segments@(_ :: _) =>
    match trimSegments segments.dropLast, path.anchor? with
    | [], none => some ⟨""⟩
    | [], some .here => some ⟨"."⟩
    | [], some _ => some ⟨"/"⟩
    | kept, _ => some ⟨String.ofList (List.intercalate ['/'] kept)⟩

/-- The name that a path ends in, unless it ends in no name. -/
def fileName? (path : Path) : Option String :=
  match path.components.getLast? with
  | some (.name text) => some text
  | _ => none

/-- What follows the last dot of the name that the path ends in. A dot at the start of the name
divides nothing. -/
def extension? (path : Path) : Option String := do
  let name ← path.fileName?
  match (name.toList.reverse.span (· ≠ '.')) with
  | (after, _ :: _ :: _) => some (String.ofList after.reverse)
  | _ => none

end Path

end FindingCheck
