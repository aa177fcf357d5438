import FindingCheck.Report.Render
import FindingCheck.Text.Lines

/-!
# Lines that are written and read again

A line is written with a line feed behind it. Reading takes the line feed away, and with it a
carriage return that stands before it, so a line comes back as it was unless it ends in a carriage
return.

## Main definitions

* `dropReturn` — what comes back of a line

## Main statements

* `lines_append` — the lines of a text behind another that ends with a line
* `lines_join_lineOf` — the lines of a text that was written line by line
* `not_mem_of_mem_lines` — no line that was read holds a line feed
-/

namespace FindingCheck

/-- What comes back of a line that was written: a carriage return at its end is lost. -/
def dropReturn (line : List Char) : List Char :=
  if line.getLast? = some '\r' then line.dropLast else line

theorem dropReturn_of_getLast?_ne {line : List Char} (h : line.getLast? ≠ some '\r') :
    dropReturn line = line :=
  if_neg h

theorem dropReturn_append_singleton (line : List Char) (c : Char) :
    dropReturn (line ++ [c]) = if c = '\r' then line else line ++ [c] := by
  simp [dropReturn]

/-- Only the end of a line counts for what comes back of it. -/
theorem dropReturn_append (front : List Char) {line : List Char} (h : line ≠ []) :
    dropReturn (front ++ line) = front ++ dropReturn line := by
  obtain ⟨line, c, rfl⟩ := List.eq_nil_or_concat line |>.resolve_left h
  rw [List.concat_eq_append, ← List.append_assoc, dropReturn_append_singleton,
    dropReturn_append_singleton]
  split <;> simp

theorem length_dropReturn_le (line : List Char) : (dropReturn line).length ≤ line.length := by
  unfold dropReturn
  split <;> simp

theorem length_dropReturn_lt {line : List Char} (h : line.getLast? = some '\r') :
    (dropReturn line).length < line.length := by
  have hne : line ≠ [] := by
    rintro rfl
    cases h
  have := List.length_pos_iff.mpr hne
  rw [dropReturn, if_pos h, List.length_dropLast]
  omega

namespace LineCut

theorem foldr_push_open {cs : List Char} (h : '\n' ∉ cs) (line : List Char)
    (more : List (List Char)) :
    cs.foldr push { lines := line :: more } = { lines := (cs ++ line) :: more } := by
  induction cs with
  | nil => rfl
  | cons c cs ih =>
    have hc : c ≠ '\n' := fun hc => h (hc ▸ List.mem_cons_self)
    have hcs : '\n' ∉ cs := fun hcs => h (List.mem_cons_of_mem _ hcs)
    rw [List.foldr_cons, ih hcs]
    simp [push, hc]

/-- A written line is the first of the lines from its start on. -/
theorem lines_foldr_push {line : List Char} (h : '\n' ∉ line) (rest : List Char) :
    ((line ++ '\n' :: rest).foldr push {}).lines =
      dropReturn line :: (rest.foldr push {}).lines := by
  rw [List.foldr_append, List.foldr_cons]
  -- The character before the line feed is the only one that can be dropped.
  rcases List.eq_nil_or_concat line with rfl | ⟨line, c, rfl⟩
  · simp [push, dropReturn]
  · rw [List.concat_eq_append] at h ⊢
    have hc : c ≠ '\n' := by
      rintro rfl
      exact h (by simp)
    have hline : '\n' ∉ line := fun hline => h (List.mem_append_left _ hline)
    rw [List.foldr_append, dropReturn_append_singleton]
    by_cases hreturn : c = '\r'
    · have hopen := foldr_push_open hline [] (rest.foldr push {}).lines
      simp [push, hreturn, hopen]
    · have hopen := foldr_push_open hline [c] (rest.foldr push {}).lines
      simp [push, hreturn, hc, hopen]

theorem not_mem_of_mem_foldr_push (cs : List Char) :
    ∀ line ∈ (cs.foldr push {}).lines, '\n' ∉ line := by
  induction cs with
  | nil => simp
  | cons c cs ih =>
    rw [List.foldr_cons]
    generalize cs.foldr push {} = cut at ih
    unfold push
    split
    · simpa using ih
    · split
      · exact ih
      · next hc _ =>
        have hfeed : '\n' ≠ c := fun h => hc h.symm
        split
        · simp [hfeed]
        · next line more hlines =>
          rw [hlines] at ih
          simpa [hfeed] using ih

theorem push_append {cut : LineCut} (h : cut.lines ≠ []) (c : Char) (more : List (List Char)) :
    push c { cut with lines := cut.lines ++ more } =
      { push c cut with lines := (push c cut).lines ++ more } := by
  unfold push
  split
  · rfl
  · split
    · rfl
    · cases hlines : cut.lines with
      | nil => exact absurd hlines h
      | cons line rest => rfl

theorem lines_push_ne_nil (c : Char) {cut : LineCut} (h : cut.lines ≠ []) :
    (push c cut).lines ≠ [] := by
  unfold push
  split
  · exact List.cons_ne_nil _ _
  · split
    · exact h
    · split <;> exact List.cons_ne_nil _ _

/-- What stands behind a line that has begun does not change what is in front. -/
theorem foldr_push_append {cut : LineCut} (h : cut.lines ≠ []) (cs : List Char)
    (more : List (List Char)) :
    cs.foldr push { cut with lines := cut.lines ++ more } =
        { cs.foldr push cut with lines := (cs.foldr push cut).lines ++ more } ∧
      (cs.foldr push cut).lines ≠ [] := by
  induction cs with
  | nil => exact ⟨rfl, h⟩
  | cons c cs ih =>
    obtain ⟨hcut, hne⟩ := ih
    rw [List.foldr_cons, List.foldr_cons, hcut, push_append hne]
    exact ⟨rfl, lines_push_ne_nil c hne⟩

end LineCut

/-- A text that is empty or ends in a line feed keeps its lines in front of any other text. -/
theorem lines_append {front : String} (h : front = "" ∨ front.toList.getLast? = some '\n')
    (text : String) : lines (front ++ text) = lines front ++ lines text := by
  rcases h with rfl | hlast
  · rw [String.empty_append]
    rfl
  · obtain ⟨cs, hcs⟩ := List.getLast?_eq_some_iff.mp hlast
    obtain ⟨cut, hcut⟩ : ∃ cut, cut = text.toList.foldr LineCut.push {} := ⟨_, rfl⟩
    have hopen : LineCut.push '\n' cut = ⟨[[]] ++ cut.lines, true⟩ := rfl
    have hfront : LineCut.push '\n' {} = ⟨[[]], true⟩ := rfl
    have happend :=
      (@LineCut.foldr_push_append ⟨[[]], true⟩ (List.cons_ne_nil _ _) cs cut.lines).1
    rw [lines, lines, lines, String.toList_append, List.foldr_append, ← hcut, hcs,
      List.foldr_append, List.foldr_append, List.foldr_cons, List.foldr_nil, List.foldr_cons,
      List.foldr_nil, hopen, hfront, happend, List.map_append]

/-- No line that was read holds a line feed. -/
theorem not_mem_of_mem_lines {text line : String} (h : line ∈ lines text) : '\n' ∉ line.toList := by
  obtain ⟨cs, hcs, rfl⟩ := List.mem_map.mp h
  rw [String.toList_ofList]
  exact LineCut.not_mem_of_mem_foldr_push text.toList cs hcs

theorem toList_join_lineOf (written : List String) :
    (String.join (written.map lineOf)).toList =
      written.flatMap fun line => line.toList ++ ['\n'] := by
  simp [lineOf, List.flatMap_map]

/-- The lines of a text that was written line by line are the written ones, without the carriage
returns at their ends. -/
theorem lines_join_lineOf {written : List String} (h : ∀ line ∈ written, '\n' ∉ line.toList) :
    lines (String.join (written.map lineOf)) =
      written.map fun line => String.ofList (dropReturn line.toList) := by
  have hcut : ((written.flatMap fun line => line.toList ++ ['\n']).foldr LineCut.push {}).lines =
      written.map fun line => dropReturn line.toList := by
    induction written with
    | nil => rfl
    | cons line written ih =>
      rw [List.flatMap_cons, List.append_assoc, List.singleton_append,
        LineCut.lines_foldr_push (h line List.mem_cons_self),
        ih fun other hother => h other (List.mem_cons_of_mem _ hother), List.map_cons]
  rw [lines, toList_join_lineOf, hcut, List.map_map]
  rfl

end FindingCheck
