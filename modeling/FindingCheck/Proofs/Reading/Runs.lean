import FindingCheck.Reading.Layout
import Mathlib.Data.List.Basic
import Mathlib.Data.List.Induction
import Mathlib.Data.Nat.Init

/-!
# The runs of a text

Which directives stand above a line of code is told here line by line, without a pass over the
text: a line is directly above another if it and all the lines between them are directives. The
layout of a text, which is built in one pass from the last line to the first, holds exactly that.

## Main definitions

* `bodyAt?`, `directiveAt?` — the directive in a line
* `IsRun` — lines that are a run: directives that no directive adjoins
* `IsAbove`, `linesAbove`, `directivesAbove` — the directives directly above a line
* `codeLines` — the lines of code
* `Layout.concat` — one line more behind a layout

## Main statements

* `isAbove_iff_of_isRun`, `exists_isRun` — the directives directly above a line are a run
* `Layout.ofLines_concat` — a layout can be built from the first line to the last as well
* `Layout.ofLines_eq` — the layout of lines, read off the lines
-/

namespace FindingCheck

/-! ### Directives by their lines -/

/-- The body of the directive in a line, if the line is a directive. Behind the last line there is
none. -/
def bodyAt? (lines : List String) (index : Nat) : Option String :=
  lines[index]?.bind directiveBody?

/-- The directive in a line with its place. -/
def directiveAt? (lines : List String) (index : Nat) : Option Directive :=
  (bodyAt? lines index).map fun body => ⟨lineNumber index, body⟩

/-- The lines from `start` up to `stop` are a run: directives all of them, and no directive
stands directly in front of them or behind them. -/
structure IsRun (lines : List String) (start stop : Nat) : Prop where
  start_lt_stop : start < stop
  isDirective : ∀ i, start ≤ i → i < stop → (bodyAt? lines i).isSome
  opens : start = 0 ∨ bodyAt? lines (start - 1) = none
  ends : bodyAt? lines stop = none

/-- A line belongs to the directives directly above another: it and all lines between them are
directives. -/
def IsAbove (lines : List String) (index below : Nat) : Prop :=
  index < below ∧ ∀ i, index ≤ i → i < below → (bodyAt? lines i).isSome

instance (lines : List String) (index below : Nat) : Decidable (IsAbove lines index below) :=
  inferInstanceAs (Decidable (_ ∧ _))

/-- The lines with the directives directly above a line, ascending. -/
def linesAbove (lines : List String) (below : Nat) : List Nat :=
  (List.range below).filter fun index => IsAbove lines index below

/-- The directives directly above a line, in order. -/
def directivesAbove (lines : List String) (below : Nat) : List Directive :=
  (linesAbove lines below).filterMap (directiveAt? lines)

/-- The lines of code, ascending. -/
def codeLines (lines : List String) : List Nat :=
  (List.range lines.length).filter fun index => (bodyAt? lines index).isNone

variable {lines : List String}

theorem bodyAt?_eq_none_of_le {index : Nat} (h : lines.length ≤ index) :
    bodyAt? lines index = none := by
  rw [bodyAt?, List.getElem?_eq_none h]
  rfl

theorem bodyAt?_append {index : Nat} (h : index < lines.length) (more : List String) :
    bodyAt? (lines ++ more) index = bodyAt? lines index := by
  rw [bodyAt?, bodyAt?, List.getElem?_append_left h]

theorem bodyAt?_concat_length (lines : List String) (line : String) :
    bodyAt? (lines ++ [line]) lines.length = directiveBody? line := by
  rw [bodyAt?, List.getElem?_concat_length]
  rfl

theorem lt_length_of_bodyAt? {index : Nat} (h : (bodyAt? lines index).isSome) :
    index < lines.length := by
  by_contra hle
  rw [bodyAt?_eq_none_of_le (Nat.le_of_not_lt hle)] at h
  cases h

theorem mem_codeLines_iff {index : Nat} :
    index ∈ codeLines lines ↔ index < lines.length ∧ bodyAt? lines index = none := by
  simp [codeLines]

theorem mem_linesAbove_iff {index below : Nat} :
    index ∈ linesAbove lines below ↔ IsAbove lines index below := by
  simp only [linesAbove, List.mem_filter, List.mem_range, decide_eq_true_eq, and_iff_right_iff_imp]
  exact fun h => h.1

theorem IsAbove.isSome {index below : Nat} (h : IsAbove lines index below) :
    (bodyAt? lines index).isSome :=
  h.2 index (Nat.le_refl index) h.1

/-! ### One line further down -/

/-- Above the next line stands this line, if it is a directive, and what stands above it. -/
theorem isAbove_succ_iff {index below : Nat} :
    IsAbove lines index (below + 1) ↔
      (bodyAt? lines below).isSome ∧ (index = below ∨ IsAbove lines index below) := by
  constructor
  · rintro ⟨hlt, hall⟩
    refine ⟨hall below (Nat.le_of_lt_succ hlt) (Nat.lt_succ_self _), ?_⟩
    rcases Nat.lt_succ_iff_lt_or_eq.mp hlt with hless | rfl
    · exact .inr ⟨hless, fun i hi hbelow => hall i hi (Nat.lt_succ_of_lt hbelow)⟩
    · exact .inl rfl
  · rintro ⟨hsome, rfl | ⟨hlt, hall⟩⟩
    · refine ⟨Nat.lt_succ_self _, fun i hi hbelow => ?_⟩
      rwa [Nat.le_antisymm (Nat.le_of_lt_succ hbelow) hi]
    · refine ⟨Nat.lt_succ_of_lt hlt, fun i hi hbelow => ?_⟩
      rcases Nat.lt_succ_iff_lt_or_eq.mp hbelow with hless | rfl
      · exact hall i hi hless
      · exact hsome

theorem not_isAbove_zero (index : Nat) : ¬IsAbove lines index 0 :=
  fun h => Nat.not_lt_zero index h.1

theorem isSome_bodyAt?_iff {index : Nat} :
    (bodyAt? lines index).isSome ↔ ∃ directive, directiveAt? lines index = some directive := by
  rw [← Option.isSome_iff_exists, directiveAt?, Option.isSome_map]

/-- Directly above the line behind code stands nothing. -/
theorem not_isAbove_succ {below : Nat} (h : directiveAt? lines below = none) (index : Nat) :
    ¬IsAbove lines index (below + 1) := by
  intro habove
  obtain ⟨directive, hdirective⟩ := isSome_bodyAt?_iff.mp (isAbove_succ_iff.mp habove).1
  rw [h] at hdirective
  cases hdirective

section Directive

variable {below : Nat} {directive : Directive} (h : directiveAt? lines below = some directive)
include h

theorem isAbove_succ_iff_of_some {index : Nat} :
    IsAbove lines index (below + 1) ↔ index = below ∨ IsAbove lines index below := by
  rw [isAbove_succ_iff]
  exact and_iff_right (isSome_bodyAt?_iff.mpr ⟨directive, h⟩)

theorem forall_isAbove_succ_iff {p : Nat → Prop} :
    (∀ i, IsAbove lines i (below + 1) → p i) ↔ p below ∧ ∀ i, IsAbove lines i below → p i := by
  simp only [isAbove_succ_iff_of_some h, or_imp, forall_and, forall_eq]

theorem exists_isAbove_succ_iff {p : Nat → Prop} :
    (∃ i, IsAbove lines i (below + 1) ∧ p i) ↔ p below ∨ ∃ i, IsAbove lines i below ∧ p i := by
  simp only [isAbove_succ_iff_of_some h, or_and_right, exists_or, exists_eq_left]

theorem linesAbove_succ_of_some :
    linesAbove lines (below + 1) = linesAbove lines below ++ [below] := by
  have hlast : IsAbove lines below (below + 1) := (isAbove_succ_iff_of_some h).mpr (.inl rfl)
  rw [linesAbove, List.range_succ, List.filter_append, linesAbove]
  refine congrArg₂ _ (List.filter_congr fun index hindex => ?_) (by simp [hlast])
  have hne : index ≠ below := Nat.ne_of_lt (List.mem_range.mp hindex)
  simp [isAbove_succ_iff_of_some h, hne]

theorem directivesAbove_succ_of_some :
    directivesAbove lines (below + 1) = directivesAbove lines below ++ [directive] := by
  rw [directivesAbove, linesAbove_succ_of_some h, List.filterMap_append, directivesAbove]
  simp [h]

end Directive

theorem directivesAbove_succ_of_none {below : Nat} (h : directiveAt? lines below = none) :
    directivesAbove lines (below + 1) = [] := by
  have hnothing : linesAbove lines (below + 1) = [] :=
    List.eq_nil_iff_forall_not_mem.mpr fun index hindex =>
      not_isAbove_succ h index (mem_linesAbove_iff.mp hindex)
  rw [directivesAbove, hnothing]
  rfl

/-! ### Runs -/

theorem IsRun.isAbove {start stop : Nat} (h : IsRun lines start stop) :
    IsAbove lines start stop :=
  ⟨h.start_lt_stop, h.isDirective⟩

/-- What stands directly above the line behind a run is the run. -/
theorem isAbove_iff_of_isRun {start stop : Nat} (hrun : IsRun lines start stop) {index : Nat} :
    IsAbove lines index stop ↔ start ≤ index ∧ index < stop := by
  constructor
  · rintro ⟨hlt, hall⟩
    refine ⟨?_, hlt⟩
    by_contra hless
    have hstart := hrun.start_lt_stop
    rcases hrun.opens with hzero | hnone
    · omega
    · -- the line in front of the run would be one of the lines in between
      have hsome := hall (start - 1) (by omega) (by omega)
      rw [hnone] at hsome
      cases hsome
  · rintro ⟨hle, hlt⟩
    exact ⟨hlt, fun i hi hbelow => hrun.isDirective i (Nat.le_trans hle hi) hbelow⟩

/-- Directives that stand directly above a line of code, or at the end, belong to a run. -/
theorem exists_isRun {index stop : Nat} (habove : IsAbove lines index stop)
    (hends : bodyAt? lines stop = none) : ∃ start, start ≤ index ∧ IsRun lines start stop := by
  induction index with
  | zero => exact ⟨0, Nat.le_refl _, habove.1, habove.2, .inl rfl, hends⟩
  | succ index ih =>
    cases hbody : bodyAt? lines index with
    | none => exact ⟨index + 1, Nat.le_refl _, habove.1, habove.2, .inr hbody, hends⟩
    | some body =>
      -- the line in front is a directive too, so the run begins further up
      have hfront : IsAbove lines index stop := by
        refine ⟨Nat.lt_of_succ_lt habove.1, fun i hi hstop => ?_⟩
        rcases Nat.eq_or_lt_of_le hi with rfl | hlt
        · rw [hbody]
          rfl
        · exact habove.2 i hlt hstop
      obtain ⟨start, hstart, hrun⟩ := ih hfront
      exact ⟨start, Nat.le_succ_of_le hstart, hrun⟩

/-- Every directive stands above a line of code or the end of the text. -/
theorem exists_isAbove {index : Nat} (h : (bodyAt? lines index).isSome) :
    ∃ stop, (stop ∈ codeLines lines ∨ stop = lines.length) ∧ IsAbove lines index stop := by
  have hlength := lt_length_of_bodyAt? h
  have hself : IsAbove lines index (index + 1) := isAbove_succ_iff.mpr ⟨h, .inl rfl⟩
  -- go down from the next line until there is no directive
  obtain ⟨rest, hrest⟩ := Nat.exists_eq_add_of_lt hlength
  generalize hbelow : index + 1 = below at hself
  have hend : lines.length = below + rest := by omega
  clear hrest hbelow
  induction rest generalizing below with
  | zero => exact ⟨below, .inr hend.symm, hself⟩
  | succ rest ih =>
    cases hbody : bodyAt? lines below with
    | none => exact ⟨below, .inl (mem_codeLines_iff.mpr ⟨by omega, hbody⟩), hself⟩
    | some body =>
      have hnext : IsAbove lines index (below + 1) :=
        isAbove_succ_iff.mpr ⟨by rw [hbody]; rfl, .inr hself⟩
      exact ih (below + 1) hnext (by omega)

/-! ### The layout -/

theorem isAbove_append {below : Nat} (h : below ≤ lines.length) (more : List String)
    (index : Nat) : IsAbove (lines ++ more) index below ↔ IsAbove lines index below := by
  refine and_congr_right fun _ => forall_congr' fun i => forall₂_congr fun _ hi => ?_
  rw [bodyAt?_append (Nat.lt_of_lt_of_le hi h)]

theorem directivesAbove_append {below : Nat} (h : below ≤ lines.length) (more : List String) :
    directivesAbove (lines ++ more) below = directivesAbove lines below := by
  have hlines : linesAbove (lines ++ more) below = linesAbove lines below :=
    List.filter_congr fun index _ => by simp only [isAbove_append h more]
  rw [directivesAbove, hlines, directivesAbove]
  refine List.filterMap_congr fun index hindex => ?_
  have hlt := (mem_linesAbove_iff.mp hindex).1
  rw [directiveAt?, bodyAt?_append (Nat.lt_of_lt_of_le hlt h), directiveAt?]

theorem codeLines_concat (lines : List String) (line : String) :
    codeLines (lines ++ [line]) =
      codeLines lines ++ if (directiveBody? line).isNone then [lines.length] else [] := by
  rw [codeLines, List.length_append, List.length_singleton, List.range_succ, List.filter_append,
    codeLines]
  refine congrArg₂ _ (List.filter_congr fun index hindex => ?_) ?_
  · rw [bodyAt?_append (List.mem_range.mp hindex)]
  · rw [List.filter_singleton, bodyAt?_concat_length, Bool.cond_eq_ite]

namespace Layout

/-- Takes a line behind those that are laid out. A directive waits for code; code is decorated
by the directives that wait. -/
def concat (layout : Layout) (line : String × Nat) : Layout :=
  match directiveBody? line.1 with
  | some body => { layout with trailing := layout.trailing ++ [⟨lineNumber line.2, body⟩] }
  | none => ⟨layout.runs ++ [⟨lineNumber line.2, layout.trailing⟩], []⟩

/-- It makes no difference which of two lines is taken first, the one in front or the one behind. -/
theorem push_concat (first last : String × Nat) (layout : Layout) :
    push first (layout.concat last) = (push first layout).concat last := by
  obtain ⟨runs, trailing⟩ := layout
  cases hfirst : directiveBody? first.1 with
  | none => cases hlast : directiveBody? last.1 <;> simp [push, concat, hfirst, hlast]
  | some body =>
    cases runs with
    | nil => cases hlast : directiveBody? last.1 <;> simp [push, concat, hfirst, hlast]
    | cons run more => cases hlast : directiveBody? last.1 <;> simp [push, concat, hfirst, hlast]

theorem concat_empty (line : String × Nat) : concat {} line = push line {} := by
  cases hline : directiveBody? line.1 <;> simp [push, concat, hline]

theorem ofLines_concat (lines : List String) (line : String) (index : Nat) :
    ofLines (lines ++ [line]) index =
      (ofLines lines index).concat (line, index + lines.length) := by
  have hfold : (lines.zipIdx index).foldr push (concat {} (line, index + lines.length)) =
      ((lines.zipIdx index).foldr push {}).concat (line, index + lines.length) :=
    List.foldr_hom (concat · (line, index + lines.length)) fun first layout =>
      push_concat first _ layout
  rw [ofLines, List.zipIdx_append, List.foldr_append, ofLines, ← hfold, concat_empty]
  rfl

/-- The layout of lines: one run for each line of code, with the directives directly above it,
and at last the directives above the end. -/
theorem ofLines_eq (lines : List String) :
    ofLines lines 0 =
      ⟨(codeLines lines).map fun code => ⟨lineNumber code, directivesAbove lines code⟩,
        directivesAbove lines lines.length⟩ := by
  induction lines using List.reverseRecOn with
  | nil => rfl
  | append_singleton lines line ih =>
    have hruns : (codeLines lines).map (fun code =>
          (⟨lineNumber code, directivesAbove (lines ++ [line]) code⟩ : Run)) =
        (codeLines lines).map fun code => ⟨lineNumber code, directivesAbove lines code⟩ :=
      List.map_congr_left fun code hcode => by
        rw [directivesAbove_append (Nat.le_of_lt (mem_codeLines_iff.mp hcode).1)]
    have htrailing : directivesAbove (lines ++ [line]) lines.length =
        directivesAbove lines lines.length := directivesAbove_append (Nat.le_refl _) _
    have hbody := bodyAt?_concat_length lines line
    rw [ofLines_concat, ih, Nat.zero_add, codeLines_concat, List.map_append, hruns,
      List.length_append, List.length_singleton]
    cases hline : directiveBody? line with
    | none =>
      have hnone : directiveAt? (lines ++ [line]) lines.length = none := by
        rw [directiveAt?, hbody, hline]
        rfl
      simp [concat, hline, htrailing, directivesAbove_succ_of_none hnone]
    | some body =>
      have hsome : directiveAt? (lines ++ [line]) lines.length =
          some ⟨lineNumber lines.length, body⟩ := by
        rw [directiveAt?, hbody, hline]
        rfl
      simp [concat, hline, htrailing, directivesAbove_succ_of_some hsome]

end Layout

end FindingCheck
