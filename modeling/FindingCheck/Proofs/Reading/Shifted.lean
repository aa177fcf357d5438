import FindingCheck.Proofs.Reading.Expectations
import FindingCheck.Proofs.Matching.Renumbering
import FindingCheck.Proofs.WrittenLines

/-!
# Lines in front of a text

Lines of code in front of a text decorate nothing and are decorated by nothing, so the text says
what it said without them. Only its lines have moved, all by the same distance.

## Main definitions

* `shifted` — the number of a line that has moved

## Main statements

* `Layout.ofLines_append` — the layout behind lines of code
* `Reading.ofText_append` — a text behind lines of code reads the same, but for the numbers of lines
* `readAnnotations_append` — and it is well formed if it was
* `line_of_mem_readAnnotations` — expectations stand on lines of the text
-/

namespace FindingCheck

/-- The number of a line with so many lines more in front of it. -/
def shifted (count : Nat) (line : UInt32) : UInt32 :=
  line + UInt32.ofNat count

/-- The number of a line is not too large to be shifted. -/
def CanShift (count : Nat) (line : UInt32) : Prop :=
  line.toNat + count < UInt32.size

theorem toNat_shifted {count : Nat} {line : UInt32} (h : CanShift count line) :
    (shifted count line).toNat = line.toNat + count := by
  rw [CanShift, UInt32.size] at h
  rw [shifted, UInt32.toNat_add, UInt32.toNat_ofNat']
  omega

/-- Shifting keeps the order of lines. -/
theorem keepsOrder_shifted (count : Nat) : KeepsOrder (shifted count) (CanShift count) := by
  intro a b ha hb
  have hless : shifted count a < shifted count b ↔ a < b := by
    rw [UInt32.lt_iff_toNat_lt, UInt32.lt_iff_toNat_lt, toNat_shifted ha, toNat_shifted hb]
    exact Nat.add_lt_add_iff_right
  have hsame : shifted count a = shifted count b ↔ a = b := by
    rw [← UInt32.toNat_inj, ← UInt32.toNat_inj, toNat_shifted ha, toNat_shifted hb]
    exact Nat.add_right_cancel_iff
  show compareOfLessAndEq _ _ = compareOfLessAndEq _ _
  simp only [compareOfLessAndEq, hless, hsame]

theorem toNat_lineNumber (index : Nat) :
    (lineNumber index).toNat = min (index + 1) (UInt32.size - 1) := by
  rw [lineNumber, UInt32.toNat_ofNat']
  exact Nat.mod_eq_of_lt (by rw [UInt32.size]; omega)

theorem lineNumber_add {count index : Nat} (h : CanShift count (lineNumber index)) :
    lineNumber (count + index) = shifted count (lineNumber index) := by
  refine UInt32.toNat_inj.mp ?_
  rw [toNat_shifted h, toNat_lineNumber, toNat_lineNumber]
  rw [CanShift, toNat_lineNumber] at h
  omega

namespace Layout

theorem push_renumber {number : UInt32 → UInt32} {index newIndex : Nat}
    (h : lineNumber newIndex = number (lineNumber index)) (line : String) (layout : Layout) :
    push (line, newIndex) (layout.renumber number) =
      (push (line, index) layout).renumber number := by
  obtain ⟨runs, trailing⟩ := layout
  unfold push
  cases hbody : directiveBody? line with
  | none =>
    simp [renumber, Run.renumber, h]
  | some body =>
    cases runs with
    | nil => simp [renumber, Directive.renumber, h]
    | cons run more => simp [renumber, Run.renumber, Directive.renumber, h]

/-- Lines that are laid out from another index on have other numbers and nothing else. -/
theorem ofLines_renumber {number : UInt32 → UInt32} {lines : List String} {index newIndex : Nat}
    (h : ∀ i < lines.length, lineNumber (newIndex + i) = number (lineNumber (index + i))) :
    ofLines lines newIndex = (ofLines lines index).renumber number := by
  induction lines generalizing index newIndex with
  | nil => rfl
  | cons line lines ih =>
    have hhead : lineNumber newIndex = number (lineNumber index) := h 0 (Nat.succ_pos _)
    have htail : ofLines lines (newIndex + 1) = (ofLines lines (index + 1)).renumber number := by
      refine ih fun i hi => ?_
      have hnext := h (i + 1) (Nat.succ_lt_succ hi)
      rwa [← Nat.add_assoc, ← Nat.add_assoc, Nat.add_right_comm, Nat.add_right_comm index] at hnext
    show push (line, newIndex) (ofLines lines (newIndex + 1)) = _
    rw [htail]
    exact push_renumber hhead line _

/-- Lines of code in front stand there bare. -/
theorem ofLines_append {front : List String} (hcode : ∀ line ∈ front, directiveBody? line = none)
    (lines : List String) (index : Nat) :
    ∃ bare : List Run, (∀ run ∈ bare, run.directives = []) ∧
      ofLines (front ++ lines) index =
        ⟨bare ++ (ofLines lines (index + front.length)).runs,
          (ofLines lines (index + front.length)).trailing⟩ := by
  induction front generalizing index with
  | nil => exact ⟨[], by simp, rfl⟩
  | cons line front ih =>
    obtain ⟨hline, hfront⟩ := List.forall_mem_cons.mp hcode
    obtain ⟨bare, hbare, hlayout⟩ := ih hfront (index + 1)
    refine ⟨⟨lineNumber index, []⟩ :: bare, List.forall_mem_cons.mpr ⟨rfl, hbare⟩, ?_⟩
    show push (line, index) (ofLines (front ++ lines) (index + 1)) = _
    rw [hlayout, push, hline, List.length_cons, Nat.add_right_comm, Nat.add_assoc]
    rfl

theorem decorated_mem_ofLines (lines : List String) (index : Nat) :
    ∀ run ∈ (ofLines lines index).runs,
      ∃ i < lines.length, run.decorated = lineNumber (index + i) := by
  induction lines generalizing index with
  | nil => simp [ofLines]
  | cons line lines ih =>
    have hmore : ∀ run ∈ (ofLines lines (index + 1)).runs,
        ∃ i < (line :: lines).length, run.decorated = lineNumber (index + i) := by
      intro run hrun
      obtain ⟨i, hi, hdecorated⟩ := ih (index + 1) run hrun
      refine ⟨i + 1, Nat.succ_lt_succ hi, ?_⟩
      rw [hdecorated, Nat.add_right_comm, Nat.add_assoc]
    show ∀ run ∈ (push (line, index) (ofLines lines (index + 1))).runs, _
    revert hmore
    generalize ofLines lines (index + 1) = layout
    obtain ⟨runs, trailing⟩ := layout
    intro hmore
    cases hbody : directiveBody? line with
    | none =>
      simp only [push, hbody]
      exact List.forall_mem_cons.mpr ⟨⟨0, Nat.succ_pos _, rfl⟩, hmore⟩
    | some body =>
      cases runs with
      | nil => simp [push, hbody]
      | cons run more =>
        -- a directive joins the run that begins at the next line of code
        simp only [push, hbody]
        obtain ⟨hrun, hrest⟩ := List.forall_mem_cons.mp hmore
        exact List.forall_mem_cons.mpr ⟨hrun, hrest⟩

end Layout

/-- A text behind lines of code reads as it does by itself, with its lines shifted. -/
theorem Reading.ofText_append {front : String}
    (hfront : front = "" ∨ front.toList.getLast? = some '\n')
    (hcode : ∀ line ∈ lines front, directiveBody? line = none) {text : String}
    (hlines : ∀ i < (lines text).length, CanShift (lines front).length (lineNumber i))
    (vocabulary : Vocabulary) (file : Path) :
    ofText vocabulary file (front ++ text) =
      (ofText vocabulary file text).renumber (shifted (lines front).length) := by
  obtain ⟨bare, hbare, hlayout⟩ := Layout.ofLines_append hcode (lines text) 0
  have hshifted : Layout.ofLines (lines text) (0 + (lines front).length) =
      (Layout.ofLines (lines text) 0).renumber (shifted (lines front).length) := by
    refine Layout.ofLines_renumber fun i hi => ?_
    rw [Nat.zero_add, Nat.zero_add]
    exact lineNumber_add (hlines i hi)
  rw [ofText, Layout.ofText, lines_append hfront, hlayout, ofLayout_append_bare _ _ hbare]
  show ofLayout vocabulary file (Layout.ofLines (lines text) (0 + (lines front).length)) = _
  rw [hshifted, ofLayout_renumber]
  rfl

/-- Every expectation stands on a line of the text. -/
theorem line_of_mem_readAnnotations {vocabulary : Vocabulary} {file : Path} {text : String}
    {annotations : Annotations} (hread : readAnnotations vocabulary file text = .ok annotations)
    {expectation : Expectation} (h : expectation ∈ annotations.expectations) :
    ∃ i < (lines text).length, expectation.line = lineNumber i := by
  obtain ⟨-, rfl⟩ := readAnnotations_eq_ok_iff.mp hread
  obtain ⟨block, hblock, hexpected⟩ := List.mem_flatMap.mp h
  obtain ⟨run, hrun, rfl⟩ := List.mem_map.mp hblock
  obtain ⟨entry, -, rfl⟩ := List.mem_map.mp hexpected
  obtain ⟨i, hi, hdecorated⟩ := Layout.decorated_mem_ofLines (lines text) 0 run hrun
  rw [Nat.zero_add] at hdecorated
  exact ⟨i, hi, hdecorated⟩

/-- Lines of code in front of a text do not change whether it is well formed. -/
theorem readAnnotations_append {front : String}
    (hfront : front = "" ∨ front.toList.getLast? = some '\n')
    (hcode : ∀ line ∈ lines front, directiveBody? line = none) {text : String}
    (hlines : ∀ i < (lines text).length, CanShift (lines front).length (lineNumber i))
    (vocabulary : Vocabulary) (file : Path) :
    readAnnotations vocabulary file (front ++ text) =
      ((readAnnotations vocabulary file text).mapError
        (List.map (Defect.renumber (shifted (lines front).length)))).map
        (Annotations.renumber (shifted (lines front).length)) := by
  rw [readAnnotations, Reading.ofText_append hfront hcode hlines, Reading.check_renumber]
  rfl

end FindingCheck
