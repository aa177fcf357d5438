import FindingCheck.Proofs.Files.Plain

/-!
# Paths of any length

A path may start with as many dots as one likes: they lead nowhere, but each makes the path longer,
and a path that is too long leads nowhere at all.

## Main definitions

* `dotted` — a name behind so many dots
* `longRoot` — a root that few names can follow

## Main statements

* `FileTree.location_dotted`, `FileTree.resolve_dotted` — the path leads where the name leads
* `utf8ByteSize_dotted` — how long it is
-/

namespace FindingCheck

/-- A name behind so many dots that lead nowhere. -/
def dotted : Nat → String → String
  | 0, name => name
  | count + 1, name => "./" ++ dotted count name

section

variable {name : String} (hname : IsEntryName name) (count : Nat)

theorem utf8ByteSize_dotted (count : Nat) (name : String) :
    (dotted count name).utf8ByteSize = 2 * count + name.utf8ByteSize := by
  induction count with
  | zero => simp [dotted]
  | succ count ih =>
    have hdot : "./".utf8ByteSize = 2 := by decide
    rw [dotted, String.utf8ByteSize_append, ih, hdot]
    omega

theorem toList_dotted_succ :
    (dotted (count + 1) name).toList = '.' :: '/' :: (dotted count name).toList := by
  rw [dotted, String.toList_append]
  rfl

include hname

theorem not_mem_dotted : '\x00' ∉ (dotted count name).toList := by
  induction count with
  | zero => exact hname.zero
  | succ count ih =>
    rw [toList_dotted_succ]
    simp [ih]

theorem segments_dotted :
    (Path.mk (dotted count name)).segments = List.replicate count ['.'] ++ [name.toList] := by
  induction count with
  | zero => exact List.splitOn_eq_singleton hname.slash
  | succ count ih =>
    have hsplit := List.splitOn_append_cons_self ['.'] (dotted count name).toList (a := '/')
    rw [Path.segments, toList_dotted_succ]
    refine hsplit.trans ?_
    rw [← Path.segments.eq_1 (Path.mk (dotted count name)), ih]
    rfl

theorem isAbsolute_dotted : (Path.mk (dotted count name)).isAbsolute = false := by
  cases count with
  | zero =>
    have hnames : ∀ other ∈ [name], IsEntryName other := by simpa using hname
    have habsolute := isAbsolute_relativePath (List.cons_ne_nil name []) hnames
    rwa [relativePath_singleton] at habsolute
  | succ count =>
    rw [Path.isAbsolute, toList_dotted_succ]
    rfl

theorem getLast?_dotted : (dotted count name).toList.getLast? ≠ some '/' := by
  intro hlast
  obtain ⟨front, hfront⟩ := List.getLast?_eq_some_iff.mp hlast
  have hsegments := segments_dotted hname count
  rw [Path.segments, hfront, List.splitOn_append_cons_self, List.splitOn_nil] at hsegments
  have hnil := (List.append_inj' hsegments rfl).2
  exact hname.toList_ne_nil (List.singleton_inj.mp hnil).symm

theorem pathNames_dotted :
    pathNames ⟨dotted count name⟩ = List.replicate count "." ++ [name] := by
  have hsegments : ∀ segment ∈ List.replicate count ['.'] ++ [name.toList],
      decide (segment ≠ []) = true := by
    intro segment hsegment
    rcases List.mem_append.mp hsegment with hdot | hlast
    · rw [(List.mem_replicate.mp hdot).2]
      rfl
    · rw [List.mem_singleton.mp hlast]
      exact decide_eq_true hname.toList_ne_nil
  rw [Path.pathNames_eq_baseNames (getLast?_dotted hname count), Path.baseNames,
    segments_dotted hname, List.filter_eq_self.mpr hsegments]
  simp

end

theorem spellingProblem?_eq_none {text : String} (hpos : 0 < text.utf8ByteSize)
    (hlt : text.utf8ByteSize < 4096) : spellingProblem? text = none := by
  cases hempty : text.isEmpty with
  | false => rw [spellingProblem?, hempty, if_neg Bool.false_ne_true, if_neg (by omega)]
  | true =>
    rw [String.isEmpty_iff.mp hempty] at hpos
    exact absurd hpos (by decide)

theorem spellingProblem?_eq_tooLong {text : String} (h : 4096 ≤ text.utf8ByteSize) :
    spellingProblem? text = some .tooLong := by
  cases hempty : text.isEmpty with
  | false => rw [spellingProblem?, hempty, if_neg Bool.false_ne_true, if_pos h]
  | true =>
    rw [String.isEmpty_iff.mp hempty] at h
    exact absurd h (by decide)

theorem isIdle_of_mem_dots {count : Nat} :
    ∀ name ∈ List.replicate count ".", isIdle name = true := by
  intro name hname
  rw [List.eq_of_mem_replicate hname]
  rfl

section

variable {name : String} (hname : IsEntryName name) (count : Nat)
include hname

theorem FileTree.location_dotted (tree : FileTree) :
    tree.location ⟨dotted count name⟩ = tree.home ++ [name] := by
  have hnames : ∀ other ∈ [name], IsEntryName other := by simpa using hname
  rw [location, base, isAbsolute_dotted hname, if_neg Bool.false_ne_true, pathNames_dotted hname,
    Location.after_append, Location.after_of_idle isIdle_of_mem_dots]
  exact Location.after_of_isEntryName hnames _

/-- A path behind dots leads to the directory that the name stands for. -/
theorem FileTree.resolve_dotted {tree : FileTree} {entries : Contents}
    (hproblem : spellingProblem? (dotted count name) = none)
    (hentry : tree.get? (tree.home ++ [name]) = some (.directory entries)) :
    tree.resolve .reading ⟨dotted count name⟩ = .ok (.directory entries) := by
  obtain ⟨inner, hinner⟩ : ∃ inner, tree.get? tree.home = some (.directory inner) := by
    rw [get?, Contents.get?_append] at hentry
    rw [get?]
    cases hhome : tree.entries.get? tree.home with
    | none => simp [hhome] at hentry
    | some entry =>
      rw [hhome] at hentry
      cases entry with
      | directory inner => exact ⟨inner, rfl⟩
      | file content => cases hentry
      | link target => cases hentry
  have hbase : tree.base ⟨dotted count name⟩ = tree.home := by
    rw [base, isAbsolute_dotted hname, if_neg Bool.false_ne_true]
  obtain ⟨here, hstart, rfl⟩ : ∃ here, tree.start? ⟨dotted count name⟩ = some here ∧
      here.entries = inner :=
    exists_start? (by rw [hbase, hinner])
  have hlookup : here.entries.lookup name = some (.directory entries) :=
    (Contents.get?_append_singleton hinner name).symm.trans hentry
  refine resolve_eq_ok_iff.mpr
    ⟨isSpelling_iff.mpr (not_mem_dotted hname count), hproblem, here, hstart, ?_⟩
  rw [pathNames_dotted hname]
  exact .idle_append isIdle_of_mem_dots (.down hname.takes hlookup .done)

theorem isEmpty_dotted : (dotted count name).isEmpty = false := by
  rw [← Bool.not_eq_true, String.isEmpty_iff, ← String.toList_eq_nil_iff]
  cases count with
  | zero => exact hname.toList_ne_nil
  | succ count =>
    rw [toList_dotted_succ]
    exact List.cons_ne_nil '.' _

theorem join_dotted {relative : Path} (hrelative : relative.isAbsolute = false) :
    (Path.mk (dotted count name)).join relative = ⟨dotted count name ++ "/" ++ relative.text⟩ :=
  Path.join_eq (isEmpty_dotted hname count) (getLast?_dotted hname count) hrelative

end

/-! ### A root that few names can follow -/

/-- A root by a path that few names can follow. -/
def longRoot : Path :=
  ⟨dotted 2042 "samples"⟩

theorem isEntryName_samples : IsEntryName "samples" := by
  decide

theorem isEntryName_d : IsEntryName "d" := by
  decide

theorem FileTree.location_longRoot (tree : FileTree) :
    tree.location longRoot = tree.home ++ ["samples"] :=
  tree.location_dotted isEntryName_samples 2042

theorem utf8ByteSize_longRoot : longRoot.text.utf8ByteSize = 4091 := by
  have hsamples : "samples".utf8ByteSize = 7 := by decide
  rw [longRoot, utf8ByteSize_dotted, hsamples]

theorem resolve_longRoot {tree : FileTree} {entries : Contents}
    (hentries : tree.get? (tree.home ++ ["samples"]) = some (.directory entries)) :
    tree.resolve .reading longRoot = .ok (.directory entries) := by
  have hproblem : spellingProblem? longRoot.text = none := by
    apply spellingProblem?_eq_none
    · rw [utf8ByteSize_longRoot]
      omega
    · rw [utf8ByteSize_longRoot]
      omega
  exact FileTree.resolve_dotted isEntryName_samples 2042 hproblem hentries

theorem join_longRoot : longRoot.join ⟨"d"⟩ = ⟨longRoot.text ++ "/" ++ "d"⟩ :=
  join_dotted isEntryName_samples 2042 (by decide)

theorem utf8ByteSize_join_longRoot : (longRoot.join ⟨"d"⟩).text.utf8ByteSize = 4093 := by
  have hslash : "/".utf8ByteSize = 1 := by decide
  have hd : "d".utf8ByteSize = 1 := by decide
  rw [join_longRoot]
  show (longRoot.text ++ "/" ++ "d").utf8ByteSize = 4093
  rw [String.utf8ByteSize_append, String.utf8ByteSize_append, utf8ByteSize_longRoot, hslash, hd]

theorem spellingProblem?_join_longRoot : spellingProblem? (longRoot.join ⟨"d"⟩).text = none := by
  apply spellingProblem?_eq_none
  · rw [utf8ByteSize_join_longRoot]
    omega
  · rw [utf8ByteSize_join_longRoot]
    omega

theorem spellingProblem?_join_join_longRoot :
    spellingProblem? ((longRoot.join ⟨"d"⟩).join ⟨"New"⟩).text = some .tooLong := by
  have hslash : "/".utf8ByteSize = 1 := by decide
  have hnew : "New".utf8ByteSize = 3 := by decide
  have hjoin : (longRoot.join ⟨"d"⟩).join ⟨"New"⟩ =
      ⟨(longRoot.join ⟨"d"⟩).text ++ "/" ++ "New"⟩ := by
    apply Path.join_eq
    · rw [join_longRoot, ← Bool.not_eq_true, String.isEmpty_iff, ← String.toList_eq_nil_iff]
      simp
    · rw [join_longRoot]
      simp
    · decide
  rw [hjoin]
  apply spellingProblem?_eq_tooLong
  show 4096 ≤ ((longRoot.join ⟨"d"⟩).text ++ "/" ++ "New").utf8ByteSize
  rw [String.utf8ByteSize_append, String.utf8ByteSize_append, utf8ByteSize_join_longRoot, hslash,
    hnew]
  omega

end FindingCheck
