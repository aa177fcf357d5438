import FindingCheck.Report.Parse

/-!
# Where the place of an expectation ends

A line of a report does not say how long the name of the file is. `IsPlaced` lists all the ways to
take a body apart into file, line and text, and reading takes the one with the shortest file.

## Main definitions

* `IsPlaced` — a way to take a body apart

## Main statements

* `lineNumber?_eq_some_iff` — what a line number is
* `splitLocation?_eq_some_iff`, `splitLocation?_eq_none_iff` — reading finds the way with the
  shortest file, and fails only if there is none
* `splitLocation?_placed`, `splitLocation?_blank` — a file in which no way ends comes back, and a
  colon and a space end no file
-/

namespace FindingCheck

/-- The body is a file, a colon, digits that write the line, a space and a text. The file is not
empty. -/
def IsPlaced (body file : List Char) (line : UInt32) (text : List Char) : Prop :=
  file ≠ [] ∧ ∃ digits, isDigits digits = true ∧ decimalValue digits = line.toNat ∧
    body = file ++ ':' :: (digits ++ ' ' :: text)

theorem isDigits_iff {digits : List Char} :
    isDigits digits = true ↔ digits ≠ [] ∧ ∀ c ∈ digits, c.isDigit = true := by
  simp [isDigits]

/-! ### Line numbers -/

theorem isDigits_toString (line : UInt32) : isDigits (toString line).toList = true := by
  show isDigits (Nat.repr line.toNat).toList = true
  rw [Nat.toList_repr, isDigits_iff]
  exact ⟨Nat.toDigits_ne_nil, fun c hc => Nat.isDigit_of_mem_toDigits (by omega) (by omega) hc⟩

theorem decimalValue_toString (line : UInt32) :
    decimalValue (toString line).toList = line.toNat := by
  show decimalValue (Nat.repr line.toNat).toList = line.toNat
  rw [Nat.toList_repr]
  have hvalue : Nat.ofDigitChars 10 (Nat.toDigits 10 line.toNat) 0 = line.toNat :=
    Nat.ofDigitChars_ten_toDigits
  rwa [Nat.ofDigitChars_eq_foldl] at hvalue

theorem takeWhile_isDigit_append {digits : List Char} (h : ∀ c ∈ digits, c.isDigit = true)
    (text : List Char) : (digits ++ ' ' :: text).takeWhile Char.isDigit = digits := by
  rw [List.takeWhile_append_of_pos h, List.takeWhile_cons_of_neg (by decide), List.append_nil]

theorem dropWhile_isDigit_append {digits : List Char} (h : ∀ c ∈ digits, c.isDigit = true)
    (text : List Char) : (digits ++ ' ' :: text).dropWhile Char.isDigit = ' ' :: text := by
  rw [List.dropWhile_append_of_pos h, List.dropWhile_cons_of_neg (by decide)]

theorem lineNumber?_append {digits : List Char} {line : UInt32} (hdigits : isDigits digits = true)
    (hvalue : decimalValue digits = line.toNat) (fact : List Char) :
    lineNumber? (digits ++ ' ' :: fact) = some (line, fact) := by
  have hall := (isDigits_iff.mp hdigits).2
  have hfit : decimalValue digits < UInt32.size := hvalue ▸ line.toNat_lt
  simp only [lineNumber?, takeWhile_isDigit_append hall, dropWhile_isDigit_append hall, hdigits,
    hfit, decide_true, Bool.and_self, if_true]
  rw [hvalue, UInt32.ofNat_toNat]

/-- What a line number is: digits that write it and a space. -/
theorem lineNumber?_eq_some_iff {text fact : List Char} {line : UInt32} :
    lineNumber? text = some (line, fact) ↔
      ∃ digits, isDigits digits = true ∧ decimalValue digits = line.toNat ∧
        text = digits ++ ' ' :: fact := by
  constructor
  · intro h
    have hsplit : text.takeWhile Char.isDigit ++ text.dropWhile Char.isDigit = text :=
      List.takeWhile_append_dropWhile
    unfold lineNumber? at h
    dsimp only at h
    split at h
    · next rest hrest =>
      split at h
      · next hfit =>
        obtain ⟨hdigits, hvalue⟩ := Bool.and_eq_true_iff.mp hfit
        obtain ⟨rfl, rfl⟩ := Prod.mk.inj (Option.some.inj h)
        refine ⟨_, hdigits, ?_, ?_⟩
        · rw [UInt32.toNat_ofNat_of_lt' (of_decide_eq_true hvalue)]
        · rw [← hrest, hsplit]
      · cases h
    · cases h
  · rintro ⟨digits, hdigits, hvalue, rfl⟩
    exact lineNumber?_append hdigits hvalue fact

/-! ### Ways to take a body apart -/

theorem IsPlaced.eq_of_length_eq {body file file' text text' : List Char} {line line' : UInt32}
    (h : IsPlaced body file line text) (h' : IsPlaced body file' line' text')
    (hlength : file.length = file'.length) : (file, line, text) = (file', line', text') := by
  obtain ⟨-, digits, hdigits, hvalue, rfl⟩ := h
  obtain ⟨-, digits', hdigits', hvalue', hbody⟩ := h'
  obtain ⟨rfl, hrest⟩ := List.append_inj hbody hlength
  have hrest : digits ++ ' ' :: text = digits' ++ ' ' :: text' := (List.cons.inj hrest).2
  have hfound := lineNumber?_append hdigits hvalue text
  rw [hrest, lineNumber?_append hdigits' hvalue'] at hfound
  obtain ⟨rfl, rfl⟩ := Prod.mk.inj (Option.some.inj hfound)
  rfl

/-- A file in which no way ends is no longer than the file of a way that ends behind it. -/
theorem IsPlaced.length_le {file rest file' text : List Char} {line : UInt32}
    (hfile : ∀ front line' after, ¬IsPlaced file front line' after)
    (h : IsPlaced (file ++ ':' :: rest) file' line text) : file.length ≤ file'.length := by
  obtain ⟨hne, digits, hdigits, hvalue, hbody⟩ := h
  have hall := (isDigits_iff.mp hdigits).2
  rcases List.append_eq_append_iff.mp hbody with ⟨between, rfl, -⟩ | ⟨between, rfl, hbetween⟩
  · simp
  · cases between with
    | nil => simp
    | cons c between =>
      -- The way would end inside of the file: its digits and its space all stand there.
      exfalso
      obtain ⟨rfl, hrest⟩ := List.cons.inj hbetween
      rcases List.append_eq_append_iff.mp hrest with ⟨more, rfl, hmore⟩ | ⟨more, rfl, hmore⟩
      · cases more with
        | nil => exact absurd (List.cons.inj hmore).1 (by decide)
        | cons d more =>
          obtain ⟨rfl, rfl⟩ := List.cons.inj hmore
          exact hfile file' line more ⟨hne, digits, hdigits, hvalue, rfl⟩
      · cases more with
        | nil => exact absurd (List.cons.inj hmore).1 (by decide)
        | cons d more =>
          obtain ⟨rfl, -⟩ := List.cons.inj hmore
          exact absurd (hall ':' (by simp)) (by decide)

/-! ### The way that reading takes -/

theorem isPlaced_of_splitLocationFrom? {before rest file text : List Char} {line : UInt32}
    (h : splitLocationFrom? before rest = some (file, line, text)) :
    IsPlaced (before.reverse ++ rest) file line text := by
  induction rest generalizing before with
  | nil => cases h
  | cons c rest ih =>
    rw [splitLocationFrom?] at h
    split at h
    · next number fact hnumber =>
      split at hnumber
      · next hcolon =>
        obtain ⟨rfl, hbefore⟩ : c = ':' ∧ before ≠ [] := by simpa using hcolon
        obtain ⟨rfl, rfl, rfl⟩ : before.reverse = file ∧ number = line ∧ fact = text := by
          simpa using h
        obtain ⟨digits, hdigits, hvalue, rfl⟩ := lineNumber?_eq_some_iff.mp hnumber
        exact ⟨by simpa using hbefore, digits, hdigits, hvalue, rfl⟩
      · cases hnumber
    · simpa using ih h

/-- Reading from a position on finds a way whose file is no longer than that of any other. -/
theorem exists_splitLocationFrom? {before rest file text : List Char} {line : UInt32}
    (h : IsPlaced (before.reverse ++ rest) file line text) (hlength : before.length ≤ file.length) :
    ∃ found, splitLocationFrom? before rest = some found ∧ found.1.length ≤ file.length := by
  induction rest generalizing before with
  | nil =>
    obtain ⟨-, digits, -, -, hbody⟩ := h
    have := congrArg List.length hbody
    simp at this
    omega
  | cons c rest ih =>
    rw [splitLocationFrom?]
    split
    · next number fact _ => exact ⟨_, rfl, by simpa using hlength⟩
    · next hnone =>
      refine ih (by simpa using h) ?_
      rcases Nat.lt_or_eq_of_le hlength with hlt | heq
      · exact hlt
      · -- A way that ends at the position itself would have been taken.
        exfalso
        obtain ⟨hne, digits, hdigits, hvalue, hbody⟩ := h
        obtain ⟨rfl, hrest⟩ := List.append_inj hbody (by simpa using heq)
        obtain ⟨rfl, rfl⟩ := List.cons.inj hrest
        have hbefore : before ≠ [] := by simpa using hne
        have hsome := lineNumber?_append hdigits hvalue text
        rw [if_pos (by simp [hbefore]), hsome] at hnone
        cases hnone

/-- Reading takes the way with the shortest file. -/
theorem splitLocation?_eq_some_iff {body file text : List Char} {line : UInt32} :
    splitLocation? body = some (file, line, text) ↔
      IsPlaced body file line text ∧
        ∀ file' line' text', IsPlaced body file' line' text' → file.length ≤ file'.length := by
  constructor
  · intro h
    refine ⟨@isPlaced_of_splitLocationFrom? [] _ _ _ _ h, fun file' line' text' h' => ?_⟩
    obtain ⟨found, hfound, hle⟩ := @exists_splitLocationFrom? [] _ _ _ _ h' (Nat.zero_le _)
    obtain rfl : (file, line, text) = found := Option.some.inj (h.symm.trans hfound)
    exact hle
  · rintro ⟨h, hshortest⟩
    obtain ⟨⟨file', line', text'⟩, hfound, hle⟩ :=
      @exists_splitLocationFrom? [] _ _ _ _ h (Nat.zero_le _)
    have h' : IsPlaced body file' line' text' := isPlaced_of_splitLocationFrom? hfound
    have hlength : file.length = file'.length := Nat.le_antisymm (hshortest _ _ _ h') hle
    rw [h.eq_of_length_eq h' hlength]
    exact hfound

/-- Reading fails only if there is no way. -/
theorem splitLocation?_eq_none_iff {body : List Char} :
    splitLocation? body = none ↔ ∀ file line text, ¬IsPlaced body file line text := by
  constructor
  · intro h file line text hplaced
    obtain ⟨found, hfound, -⟩ := @exists_splitLocationFrom? [] _ _ _ _ hplaced (Nat.zero_le _)
    cases h.symm.trans hfound
  · intro h
    cases hfound : splitLocation? body with
    | none => rfl
    | some found => exact absurd (splitLocation?_eq_some_iff.mp hfound).1 (h _ _ _)

/-- A file in which no way ends comes back, with the line and the text behind it. -/
theorem splitLocation?_placed {file : List Char} (hne : file ≠ [])
    (hfile : ∀ front line' after, ¬IsPlaced file front line' after) (line : UInt32)
    (text : List Char) :
    splitLocation? (file ++ ':' :: ((toString line).toList ++ ' ' :: text)) =
      some (file, line, text) := by
  refine splitLocation?_eq_some_iff.mpr ⟨?_, fun _ _ _ h => h.length_le hfile⟩
  exact ⟨hne, _, isDigits_toString line, decimalValue_toString line, rfl⟩

/-- Behind a file in which no way ends, a colon and a space end none either. -/
theorem splitLocation?_blank {file rest : List Char}
    (hfile : ∀ front line' after, ¬IsPlaced file front line' after) (hrest : ':' ∉ rest) :
    splitLocation? (file ++ ':' :: ' ' :: rest) = none := by
  refine splitLocation?_eq_none_iff.mpr fun file' line text h => ?_
  have hle : file.length ≤ file'.length := h.length_le hfile
  obtain ⟨-, digits, hdigits, -, hbody⟩ := h
  obtain ⟨hne, hall⟩ := isDigits_iff.mp hdigits
  obtain ⟨between, rfl, hbetween⟩ : ∃ between, file' = file ++ between ∧
      ':' :: ' ' :: rest = between ++ ':' :: (digits ++ ' ' :: text) := by
    rcases List.append_eq_append_iff.mp hbody with h | ⟨between, rfl, hbetween⟩
    · exact h
    · have hnil : between = [] := by
        rw [List.length_append] at hle
        exact List.eq_nil_of_length_eq_zero (by omega)
      subst hnil
      exact ⟨[], by simp, hbetween.symm⟩
  cases between with
  | nil =>
    obtain ⟨d, digits, rfl⟩ := List.exists_cons_of_ne_nil hne
    have hd : d = ' ' := by
      simpa using (List.cons.inj (List.cons.inj hbetween).2).1.symm
    exact absurd (hall d List.mem_cons_self) (by simp [hd])
  | cons b between =>
    have hmem : ':' ∈ ' ' :: rest := by
      rw [(List.cons.inj hbetween).2]
      simp
    exact hrest (by simpa using hmem)

end FindingCheck
