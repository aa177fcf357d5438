import FindingCheck.Proofs.WrittenLines
import FindingCheck.Reading
import Mathlib.Data.List.Forall2

/-!
# The same lines in another layout

The blanks in front of a directive or of code say nothing, and neither does the way in which lines
end. A text whose lines are indented in another way reads the same, and so does one with carriage
returns before its line feeds.

## Main definitions

* `Reindented` — a line with other blanks in front
* `IsRelaid` — a text with such lines and with other line endings

## Main statements

* `lines_intercalate` — the lines of a text that is put together from pieces
* `Layout.ofLines_congr` — lines with the same bodies are laid out in the same way
* `readAnnotations_relaid` — a text in another layout reads the same
-/

namespace FindingCheck

/-- What a line becomes if other blanks are put in front of it. A line of blanks stays as it
is, and no line feed is put anywhere. -/
inductive Reindented : List Char → List Char → Prop
  | unchanged (line : List Char) : Reindented line line
  | moved {lead newLead content : List Char} {first : Char} (hlead : ∀ c ∈ lead, isBlank c)
      (hnewLead : ∀ c ∈ newLead, isBlank c) (hfeed : '\n' ∉ newLead) (hfirst : ¬isBlank first) :
      Reindented (lead ++ first :: content) (newLead ++ first :: content)

/-- The two ways in which a line can end. -/
def lineEndings : List (List Char) :=
  [['\n'], ['\r', '\n']]

/-- The text in another layout: some lines have other blanks in front, and all line feeds have a
carriage return before them or none has. -/
def IsRelaid (text laid : String) : Prop :=
  ∃ pieces, List.Forall₂ Reindented (text.toList.splitOn '\n') pieces ∧
    ∃ ending ∈ lineEndings, laid.toList = ending.intercalate pieces

section Pieces

/-- A piece of a text that holds no line ending, nor a part of one at its end. -/
structure IsPiece (piece : List Char) : Prop where
  noFeed : '\n' ∉ piece
  noReturn : piece.getLast? ≠ some '\r'

/-- The pieces that are lines: an empty one behind the last ending is none. -/
def closedPieces (pieces : List (List Char)) : List (List Char) :=
  if pieces.getLast? = some [] then pieces.dropLast else pieces

theorem closedPieces_cons_cons (first second : List Char) (more : List (List Char)) :
    closedPieces (first :: second :: more) = first :: closedPieces (second :: more) := by
  unfold closedPieces
  rw [List.getLast?_cons_cons]
  split <;> rfl

/-- Which pieces are lines is known from which are empty. -/
theorem map_closedPieces {α : Type} (f : List Char → α) (pieces : List (List Char)) :
    (closedPieces pieces).map f =
      if (pieces.map List.isEmpty).getLast? = some true then (pieces.map f).dropLast
      else pieces.map f := by
  have hlast : (pieces.map List.isEmpty).getLast? = some true ↔ pieces.getLast? = some [] := by
    rw [List.getLast?_map, Option.map_eq_some_iff]
    constructor
    · rintro ⟨piece, hpiece, hempty⟩
      rwa [← List.isEmpty_iff.mp hempty]
    · intro hpiece
      exact ⟨[], hpiece, rfl⟩
  unfold closedPieces
  by_cases hempty : pieces.getLast? = some []
  · rw [if_pos hempty, if_pos (hlast.mpr hempty), List.map_dropLast]
  · rw [if_neg hempty, if_neg fun h => hempty (hlast.mp h)]

/-- A piece with an ending behind it is the first of the lines from its start on. -/
theorem LineCut.foldr_push_ending {piece ending : List Char} (hpiece : IsPiece piece)
    (hending : ending ∈ lineEndings) (rest : List Char) :
    ((piece ++ ending ++ rest).foldr push {}).lines = piece :: (rest.foldr push {}).lines := by
  rcases List.mem_cons.mp hending with rfl | hending
  · rw [List.append_assoc, List.singleton_append, lines_foldr_push hpiece.noFeed,
      dropReturn_of_getLast?_ne hpiece.noReturn]
  · obtain rfl := List.mem_singleton.mp hending
    have hfeed : '\n' ∉ piece ++ ['\r'] := by
      simpa using hpiece.noFeed
    have hsplit : piece ++ ['\r', '\n'] ++ rest = piece ++ ['\r'] ++ '\n' :: rest := by
      simp
    rw [hsplit, lines_foldr_push hfeed, dropReturn_append_singleton, if_pos rfl]

/-- A piece that nothing ends is a line unless it is empty. -/
theorem LineCut.foldr_push_last {piece : List Char} (hfeed : '\n' ∉ piece) :
    (piece.foldr push {}).lines = closedPieces [piece] := by
  rcases List.eq_nil_or_concat piece with rfl | ⟨front, last, rfl⟩
  · rfl
  · rw [List.concat_eq_append, List.mem_append, List.mem_singleton, not_or] at hfeed
    have hlast : push last {} = { lines := [[last]] } := by
      simp [push, Ne.symm hfeed.2]
    rw [List.concat_eq_append, List.foldr_append, List.foldr_cons, List.foldr_nil, hlast,
      foldr_push_open hfeed.1]
    simp [closedPieces]

/-- The lines of a text that is put together from pieces, whichever ending stands between. -/
theorem lines_intercalate {text : String} {ending : List Char} {pieces : List (List Char)}
    (hending : ending ∈ lineEndings) (hpieces : ∀ piece ∈ pieces, IsPiece piece)
    (htext : text.toList = ending.intercalate pieces) :
    lines text = (closedPieces pieces).map String.ofList := by
  rw [lines, htext]
  congr 1
  clear htext
  induction pieces with
  | nil => rfl
  | cons first rest ih =>
    obtain ⟨hfirst, hrest⟩ := List.forall_mem_cons.mp hpieces
    cases rest with
    | nil => rw [List.intercalate_singleton, LineCut.foldr_push_last hfirst.noFeed]
    | cons second more =>
      rw [List.intercalate_cons_cons, LineCut.foldr_push_ending hfirst hending, ih hrest,
        closedPieces_cons_cons]

/-- A character of a piece is one of the text, and it is not the one between the pieces. -/
theorem mem_of_mem_splitOn {cs piece : List Char} {mark : Char} (h : piece ∈ cs.splitOn mark) :
    ∀ c ∈ piece, c ∈ cs ∧ c ≠ mark := by
  rw [List.splitOn] at h
  induction cs generalizing piece with
  | nil =>
    obtain rfl : piece = [] := by simpa using h
    exact fun c hc => absurd hc List.not_mem_nil
  | cons first cs ih =>
    rw [List.splitOnP_cons_eq_if_modifyHead] at h
    have hmore : ∀ {other}, other ∈ cs.splitOnP (· == mark) →
        ∀ c ∈ other, c ∈ first :: cs ∧ c ≠ mark := fun hother c hc =>
      ⟨List.mem_cons_of_mem _ (ih hother c hc).1, (ih hother c hc).2⟩
    split at h
    · rcases List.mem_cons.mp h with rfl | h
      · exact fun c hc => absurd hc List.not_mem_nil
      · exact hmore h
    · next hfirst =>
      -- the character joins the first piece of the rest
      obtain ⟨front, more, hcut⟩ := List.exists_cons_of_ne_nil (List.splitOnP_ne_nil (· == mark) cs)
      rw [hcut, List.modifyHead_cons] at h
      rw [hcut] at hmore
      rcases List.mem_cons.mp h with rfl | h
      · exact List.forall_mem_cons.mpr
          ⟨⟨List.mem_cons_self, by simpa using hfirst⟩, hmore List.mem_cons_self⟩
      · exact hmore (List.mem_cons_of_mem _ h)

/-- The pieces between the line feeds of a text without carriage returns. -/
theorem isPiece_of_mem_splitOn {cs piece : List Char} (hreturn : '\r' ∉ cs)
    (h : piece ∈ cs.splitOn '\n') : IsPiece piece where
  noFeed := fun hfeed => (mem_of_mem_splitOn h _ hfeed).2 rfl
  noReturn := fun hlast => hreturn (mem_of_mem_splitOn h _ (List.mem_of_getLast? hlast)).1

end Pieces

namespace Layout

/-- Lines with the same bodies are laid out in the same way. -/
theorem ofLines_congr {these those : List String} (index : Nat)
    (h : these.map directiveBody? = those.map directiveBody?) :
    ofLines these index = ofLines those index := by
  induction these generalizing those index with
  | nil =>
    rw [List.map_nil, eq_comm, List.map_eq_nil_iff] at h
    rw [h]
  | cons this these ih =>
    cases those with
    | nil => cases h
    | cons that those =>
      rw [List.map_cons, List.map_cons, List.cons.injEq] at h
      show push (this, index) (ofLines these (index + 1)) =
        push (that, index) (ofLines those (index + 1))
      rw [ih (index + 1) h.2, push, push, h.1]

end Layout

namespace Reindented

variable {line newLine : List Char}

theorem isEmpty_eq (h : Reindented line newLine) : line.isEmpty = newLine.isEmpty := by
  cases h with
  | unchanged => rfl
  | @moved lead newLead content first =>
    have hcontent : first :: content ≠ [] := List.cons_ne_nil _ _
    rw [List.isEmpty_eq_false_iff.mpr (List.append_ne_nil_of_right_ne_nil lead hcontent),
      List.isEmpty_eq_false_iff.mpr (List.append_ne_nil_of_right_ne_nil newLead hcontent)]

theorem isPiece (h : Reindented line newLine) (hline : IsPiece line) : IsPiece newLine := by
  cases h with
  | unchanged => exact hline
  | @moved lead newLead content first hlead hnewLead hfeed hfirst =>
    have hlast : (newLead ++ first :: content).getLast? = (lead ++ first :: content).getLast? := by
      rw [List.getLast?_append_cons, List.getLast?_append_cons]
    refine ⟨fun hmem => ?_, hlast ▸ hline.noReturn⟩
    rcases List.mem_append.mp hmem with hmem | hmem
    · exact hfeed hmem
    · exact hline.noFeed (List.mem_append_right _ hmem)

/-- Trimming takes away all that tells the lines apart. -/
theorem trimStart_eq (h : Reindented line newLine) : trimStart line = trimStart newLine := by
  cases h with
  | unchanged => rfl
  | moved hlead hnewLead hfeed hfirst =>
    rw [trimStart, trimStart, List.dropWhile_append_of_pos hlead,
      List.dropWhile_append_of_pos hnewLead]

theorem directiveBody?_eq (h : Reindented line newLine) :
    directiveBody? (String.ofList line) = directiveBody? (String.ofList newLine) := by
  rw [directiveBody?, directiveBody?, String.toList_ofList, String.toList_ofList, h.trimStart_eq]

/-- What is the same for a line and for what becomes of it is the same line by line. -/
theorem map_eq {α : Type} {f : List Char → α}
    (hf : ∀ {line newLine}, Reindented line newLine → f line = f newLine)
    {pieces newPieces : List (List Char)} (h : List.Forall₂ Reindented pieces newPieces) :
    pieces.map f = newPieces.map f := by
  induction h with
  | nil => rfl
  | cons hline _ ih => rw [List.map_cons, List.map_cons, hf hline, ih]

theorem forall_isPiece {pieces newPieces : List (List Char)}
    (h : List.Forall₂ Reindented pieces newPieces) (hpieces : ∀ piece ∈ pieces, IsPiece piece) :
    ∀ piece ∈ newPieces, IsPiece piece := by
  induction h with
  | nil => exact hpieces
  | cons hline _ ih =>
    obtain ⟨hfirst, hrest⟩ := List.forall_mem_cons.mp hpieces
    exact List.forall_mem_cons.mpr ⟨hline.isPiece hfirst, ih hrest⟩

end Reindented

/-- A text without carriage returns and the text in another layout have the same bodies. -/
theorem map_directiveBody?_lines {text laid : String} (hreturn : '\r' ∉ text.toList)
    (h : IsRelaid text laid) :
    (lines laid).map directiveBody? = (lines text).map directiveBody? := by
  obtain ⟨pieces, hpieces, ending, hending, hlaid⟩ := h
  have htext : text.toList = ['\n'].intercalate (text.toList.splitOn '\n') :=
    (List.intercalate_splitOn '\n').symm
  have hpiece : ∀ piece ∈ text.toList.splitOn '\n', IsPiece piece :=
    fun _ => isPiece_of_mem_splitOn hreturn
  rw [lines_intercalate hending (Reindented.forall_isPiece hpieces hpiece) hlaid,
    lines_intercalate List.mem_cons_self hpiece htext, List.map_map, List.map_map,
    Function.comp_def, map_closedPieces, map_closedPieces,
    Reindented.map_eq Reindented.isEmpty_eq hpieces,
    Reindented.map_eq Reindented.directiveBody?_eq hpieces]

/-- The layout of a text does not count. Indent the lines of a text in another way, and put
carriage returns before its line feeds if there were none: it declares the same, or it has the same
defects. -/
theorem readAnnotations_relaid {text laid : String} (hreturn : '\r' ∉ text.toList)
    (h : IsRelaid text laid) (vocabulary : Vocabulary) (file : Path) :
    readAnnotations vocabulary file laid = readAnnotations vocabulary file text := by
  have hlayout : Layout.ofText laid = Layout.ofText text :=
    Layout.ofLines_congr 0 (map_directiveBody?_lines hreturn h)
  rw [readAnnotations, readAnnotations, Reading.ofText, Reading.ofText, hlayout]

/-- A directive and its line of code, both indented. -/
def indentedStatement : String :=
  "  // jspecify_nullness_mismatch\n\tfoo();"

/-- The same with other blanks, a carriage return in front of the code among them, and with carriage
returns before line feeds. -/
def movedStatement : String :=
  "// jspecify_nullness_mismatch\r\n\r foo();"

theorem isRelaid_movedStatement : IsRelaid indentedStatement movedStatement := by
  have hsplit : indentedStatement.toList.splitOn '\n' =
      ["  // jspecify_nullness_mismatch".toList, "\tfoo();".toList] := by
    decide +kernel
  refine ⟨["// jspecify_nullness_mismatch".toList, "\r foo();".toList], ?_, ['\r', '\n'],
    by decide, by decide +kernel⟩
  rw [hsplit]
  refine .cons ?_ (.cons ?_ .nil)
  · exact @Reindented.moved [' ', ' '] [] _ _ (List.all_eq_true.mp (by decide))
      (List.all_eq_true.mp (by decide)) (by decide) (by decide)
  · exact @Reindented.moved ['\t'] ['\r', ' '] _ _ (List.all_eq_true.mp (by decide))
      (List.all_eq_true.mp (by decide)) (by decide) (by decide)

theorem readAnnotations_movedStatement :
    IsRelaid indentedStatement movedStatement ∧
      readAnnotations .standard ⟨"A.java"⟩ movedStatement =
        readAnnotations .standard ⟨"A.java"⟩ indentedStatement :=
  ⟨isRelaid_movedStatement,
    readAnnotations_relaid (by decide +kernel) isRelaid_movedStatement .standard ⟨"A.java"⟩⟩

end FindingCheck
