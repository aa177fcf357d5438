import FindingCheck.Proofs.Patterns.Best

/-!
# What patterns take from a text

The match of a pattern is the first of its ways that leaves nothing over. For patterns made of
characters, borders, repeated characters and named parts, that way is known without listing the
others: each part takes the shortest or the longest piece with which all that follows can go on.

## Main definitions

* `Progress.takeAll`, `Progress.takeNamed` — the progress after a piece of the text
* `Leads`, `Takes` — the pieces that a repetition can take, and the best of them
* `Pattern.first?` — the best way of a pattern with which the text behind it can be matched

## Main statements

* `Pattern.matchWhole?_eq_first?` — the match of a pattern
* `Pattern.first?_many_eq_some_iff`, `Pattern.first?_atLeastOnce_eq_some_iff` — what a repetition
  takes
* `Pattern.first?_literal_eq_some_iff`, `Pattern.first?_named_finished?_eq_some_iff`,
  `Pattern.first?_named_mark_eq_some_iff` — what a text that is written out takes, and what named
  parts take
-/

namespace FindingCheck

namespace Progress

/-- Takes several characters. -/
def takeAll (s : Progress) (taken rest : List Char) : Progress :=
  { s with
    position := s.position + taken.length
    previous := taken.getLast?.or s.previous
    rest := rest }

/-- Takes several characters under a name. -/
def takeNamed (s : Progress) (name : String) (taken rest : List Char) : Progress :=
  { s.takeAll taken rest with
    spans := ⟨name, s.position, s.position + taken.length⟩ :: s.spans }

@[simp]
theorem rest_takeAll (s : Progress) (taken rest : List Char) : (s.takeAll taken rest).rest = rest :=
  rfl

@[simp]
theorem rest_takeNamed (s : Progress) (name : String) (taken rest : List Char) :
    (s.takeNamed name taken rest).rest = rest :=
  rfl

@[simp]
theorem rest_mark (s : Progress) : s.mark.rest = s.rest :=
  rfl

@[simp]
theorem rest_keep (s : Progress) (name : String) : (s.keep name).rest = s.rest :=
  rfl

theorem takeAll_nil (s : Progress) : s.takeAll [] s.rest = s :=
  rfl

theorem takeAll_take (s : Progress) (c : Char) (taken ahead rest : List Char) :
    (s.take c ahead).takeAll taken rest = s.takeAll (c :: taken) rest := by
  simp only [take, takeAll, List.length_cons, List.getLast?_cons]
  congr 1
  · omega
  · cases taken.getLast? <;> rfl

theorem keep_takeAll_mark (s : Progress) (name : String) (taken rest : List Char) :
    (s.mark.takeAll taken rest).keep name = s.takeNamed name taken rest :=
  rfl

/-- The progress, if the whole text has been taken. -/
def finished? (s : Progress) : Option Progress :=
  Option.guard (·.rest.isEmpty) s

theorem finished?_eq_some_iff {s t : Progress} : s.finished? = some t ↔ s = t ∧ s.rest = [] := by
  rw [finished?, Option.guard_eq_some_iff, List.isEmpty_iff]

end Progress

/-- One of the two pieces that a repetition can take is not worse than the other: the shorter is
preferred if the repetition is lazy, and the longer if it is not. -/
def NotWorse (lazily : Bool) (piece other : List Char) : Prop :=
  if lazily then piece.length ≤ other.length else other.length ≤ piece.length

theorem notWorse_self (lazily : Bool) (piece : List Char) : NotWorse lazily piece piece := by
  unfold NotWorse
  split <;> exact Nat.le_refl _

theorem notWorse_cons_iff {lazily : Bool} {c d : Char} {piece other : List Char} :
    NotWorse lazily (c :: piece) (d :: other) ↔ NotWorse lazily piece other := by
  simp [NotWorse]

theorem NotWorse.length_eq {lazily : Bool} {piece other : List Char}
    (h : NotWorse lazily piece other) (h' : NotWorse lazily other piece) :
    piece.length = other.length := by
  unfold NotWorse at h h'
  split at h
  · rw [if_pos ‹_›] at h'
    omega
  · rw [if_neg ‹_›] at h'
    omega

/-- A repetition can take the piece, and the text behind it can be matched. -/
def Leads (cls : CharClass) (next : Progress → Option Progress) (s : Progress) (piece : List Char)
    (t : Progress) : Prop :=
  ∃ rest, s.rest = piece ++ rest ∧ (∀ c ∈ piece, cls.contains c) ∧
    next (s.takeAll piece rest) = some t

/-- The piece is the best of those that lead on, among the pieces of at least so many
characters. -/
structure Takes (least : Nat) (cls : CharClass) (lazily : Bool)
    (next : Progress → Option Progress) (s : Progress) (piece : List Char) (t : Progress) :
    Prop where
  leads : Leads cls next s piece t
  enough : least ≤ piece.length
  best : ∀ other u, Leads cls next s other u → least ≤ other.length → NotWorse lazily piece other

section Leads

variable {cls : CharClass} {next : Progress → Option Progress} {s t u : Progress}
  {piece other : List Char}

theorem leads_nil_iff : Leads cls next s [] t ↔ next s = some t := by
  constructor
  · rintro ⟨rest, hrest, -, hnext⟩
    obtain rfl : rest = s.rest := hrest.symm
    rwa [Progress.takeAll_nil] at hnext
  · intro hnext
    exact ⟨s.rest, rfl, by simp, hnext⟩

theorem leads_cons_iff {c : Char} :
    Leads cls next s (c :: piece) t ↔
      ∃ ahead, s.rest = c :: ahead ∧ cls.contains c ∧ Leads cls next (s.take c ahead) piece t := by
  constructor
  · rintro ⟨rest, hrest, hpiece, hnext⟩
    obtain ⟨hc, hpiece⟩ := List.forall_mem_cons.mp hpiece
    refine ⟨piece ++ rest, hrest, hc, rest, rfl, hpiece, ?_⟩
    rwa [Progress.takeAll_take]
  · rintro ⟨ahead, hahead, hc, rest, hrest, hpiece, hnext⟩
    obtain rfl : ahead = piece ++ rest := hrest
    refine ⟨rest, hahead, List.forall_mem_cons.mpr ⟨hc, hpiece⟩, ?_⟩
    rwa [Progress.takeAll_take] at hnext

/-- Pieces of one length are the same, and lead to the same end. -/
theorem Leads.unique (h : Leads cls next s piece t) (h' : Leads cls next s other u)
    (hlength : piece.length = other.length) : t = u := by
  obtain ⟨rest, hrest, -, hnext⟩ := h
  obtain ⟨rest', hrest', -, hnext'⟩ := h'
  obtain ⟨rfl, rfl⟩ := List.append_inj (hrest.symm.trans hrest') hlength
  exact Option.some.inj (hnext.symm.trans hnext')

/-- A piece of one character more is the best if the piece behind that character is. -/
theorem takes_cons_iff {least : Nat} {lazily : Bool} {c : Char} :
    Takes (least + 1) cls lazily next s (c :: piece) t ↔
      ∃ ahead, s.rest = c :: ahead ∧ cls.contains c ∧
        Takes least cls lazily next (s.take c ahead) piece t := by
  constructor
  · rintro ⟨hleads, henough, hbest⟩
    obtain ⟨ahead, hahead, hc, hpiece⟩ := leads_cons_iff.mp hleads
    refine ⟨ahead, hahead, hc, hpiece, Nat.le_of_succ_le_succ henough, fun other u hother h => ?_⟩
    have hlonger : Leads cls next s (c :: other) u := leads_cons_iff.mpr ⟨ahead, hahead, hc, hother⟩
    exact notWorse_cons_iff.mp (hbest _ u hlonger (Nat.succ_le_succ h))
  · rintro ⟨ahead, hahead, hc, hpiece, henough, hbest⟩
    refine ⟨leads_cons_iff.mpr ⟨ahead, hahead, hc, hpiece⟩, Nat.succ_le_succ henough,
      fun other u hother h => ?_⟩
    obtain ⟨d, other, rfl⟩ := List.exists_cons_of_length_pos (Nat.lt_of_lt_of_le least.succ_pos h)
    obtain ⟨ahead', hahead', -, hother⟩ := leads_cons_iff.mp hother
    obtain ⟨rfl, rfl⟩ := List.cons.inj (hahead.symm.trans hahead')
    exact notWorse_cons_iff.mpr (hbest other u hother (Nat.le_of_succ_le_succ h))

/-- A best piece that is not empty is the best of all if stopping fails or is not preferred. -/
theorem Takes.of_one {lazily : Bool} (h : Takes 1 cls lazily next s piece t)
    (hstop : next s = none ∨ lazily = false) : Takes 0 cls lazily next s piece t where
  leads := h.leads
  enough := Nat.zero_le _
  best other u hother _ := by
    cases other with
    | nil =>
      rcases hstop with hnone | rfl
      · cases hnone.symm.trans (leads_nil_iff.mp hother)
      · exact Nat.zero_le _
    | cons d other => exact h.best _ u hother (Nat.succ_pos _)

/-- Stopping is the best if it is preferred or all else fails. -/
theorem takes_nil {lazily : Bool} (h : next s = some t)
    (hmore : lazily = true ∨ ∀ c other u, ¬Leads cls next s (c :: other) u) :
    Takes 0 cls lazily next s [] t where
  leads := leads_nil_iff.mpr h
  enough := Nat.le_refl _
  best other u hother _ := by
    cases other with
    | nil => exact notWorse_self lazily []
    | cons c other =>
      rcases hmore with rfl | hfails
      · exact Nat.zero_le _
      · exact absurd hother (hfails c other u)

/-- A repetition at the end of the text takes all that is left. -/
theorem exists_takes_iff_of_end {least : Nat} {lazily : Bool}
    (hnext : ∀ u v, next u = some v → u.rest = []) :
    (∃ piece, Takes least cls lazily next s piece t) ↔
      least ≤ s.rest.length ∧ (∀ c ∈ s.rest, cls.contains c) ∧
        next (s.takeAll s.rest []) = some t := by
  have hall : ∀ {piece u}, Leads cls next s piece u → piece = s.rest := by
    rintro piece u ⟨rest, hrest, -, hgoes⟩
    obtain rfl : rest = [] := hnext _ _ hgoes
    rw [hrest, List.append_nil]
  constructor
  · rintro ⟨piece, hleads, henough, -⟩
    obtain rfl := hall hleads
    obtain ⟨rest, hrest, hclass, hgoes⟩ := hleads
    obtain rfl : rest = [] := hnext _ _ hgoes
    exact ⟨henough, hclass, hgoes⟩
  · rintro ⟨henough, hclass, hgoes⟩
    refine ⟨s.rest, ⟨[], by simp, hclass, hgoes⟩, henough, fun other u hother _ => ?_⟩
    rw [hall hother]
    exact notWorse_self lazily _

theorem forall_allBut_contains_iff {mark : Char} {piece : List Char} :
    (∀ c ∈ piece, (CharClass.allBut mark).contains c) ↔ mark ∉ piece := by
  simp only [CharClass.contains_allBut]
  exact ⟨fun h hmark => h mark hmark rfl, fun h c hc heq => h (heq ▸ hc)⟩

theorem takeWhile_ne_append {mark : Char} {piece : List Char} (h : mark ∉ piece)
    (rest : List Char) : (piece ++ mark :: rest).takeWhile (· ≠ mark) = piece := by
  have hpiece : ∀ c ∈ piece, decide (c ≠ mark) = true := fun c hc =>
    decide_eq_true fun heq => h (heq ▸ hc)
  rw [List.takeWhile_append_of_pos hpiece, List.takeWhile_cons_of_neg (by simp), List.append_nil]

/-- A repetition of all characters but one, with that one behind it, takes all up to there. -/
theorem exists_takes_iff_of_mark {least : Nat} {lazily : Bool} {mark : Char}
    (hnext : ∀ u v, next u = some v → u.rest.head? = some mark) :
    (∃ piece, Takes least (.allBut mark) lazily next s piece t) ↔
      ∃ piece rest, s.rest = piece ++ mark :: rest ∧ least ≤ piece.length ∧ mark ∉ piece ∧
        next (s.takeAll piece (mark :: rest)) = some t := by
  have hleads : ∀ {piece u}, Leads (.allBut mark) next s piece u ↔ ∃ rest,
      s.rest = piece ++ mark :: rest ∧ mark ∉ piece ∧
        next (s.takeAll piece (mark :: rest)) = some u := by
    intro piece u
    constructor
    · rintro ⟨rest, hrest, hpiece, hgoes⟩
      obtain ⟨rest, rfl⟩ := List.head?_eq_some_iff.mp (hnext _ _ hgoes)
      exact ⟨rest, hrest, forall_allBut_contains_iff.mp hpiece, hgoes⟩
    · rintro ⟨rest, hrest, hpiece, hgoes⟩
      exact ⟨mark :: rest, hrest, forall_allBut_contains_iff.mpr hpiece, hgoes⟩
  constructor
  · rintro ⟨piece, hpiece, henough, -⟩
    obtain ⟨rest, hrest, hmark, hgoes⟩ := hleads.mp hpiece
    exact ⟨piece, rest, hrest, henough, hmark, hgoes⟩
  · rintro ⟨piece, rest, hrest, henough, hmark, hgoes⟩
    refine ⟨piece, hleads.mpr ⟨rest, hrest, hmark, hgoes⟩, henough, fun other u hother _ => ?_⟩
    obtain ⟨ahead, hahead, hother, -⟩ := hleads.mp hother
    -- both pieces end at the first such character
    have hsame : piece = other := by
      rw [← takeWhile_ne_append hmark rest, ← takeWhile_ne_append hother ahead, ← hrest, ← hahead]
    rw [hsame]
    exact notWorse_self lazily other

end Leads

namespace Pattern

variable {next : Progress → Option Progress} {s t : Progress} {cls : CharClass}

/-- The end of the best way of a pattern with which the rest can go on. -/
def first? (pattern : Pattern) (next : Progress → Option Progress) (s : Progress) :
    Option Progress :=
  (pattern.run s).findSome? next

/-- A text that is written out. -/
def literal (text : List Char) : List Pattern :=
  text.map fun c => one (.only c)

theorem matchWhole?_eq_first? (pattern : Pattern) (text : List Char) :
    pattern.matchWhole? text =
      (pattern.first? Progress.finished? { rest := text }).map fun s => ⟨text, s.spans⟩ := by
  rw [matchWhole?_eq_find?_run, first?, ← List.findSome?_guard]
  rfl

theorem first?_seq (first second : Pattern) (s : Progress) :
    (seq first second).first? next s = first.first? (second.first? next) s :=
  findSome?_flatMap_eq _ _ _

theorem first?_sequence_nil (s : Progress) : (sequence []).first? next s = next s := by
  simp [first?, sequence, run]

theorem first?_sequence_cons (pattern : Pattern) (more : List Pattern) (s : Progress) :
    (sequence (pattern :: more)).first? next s =
      pattern.first? ((sequence more).first? next) s := by
  cases more with
  | nil =>
    have hdone : (sequence []).first? next = next := funext first?_sequence_nil
    rw [hdone]
    rfl
  | cons second more => exact first?_seq pattern _ s

theorem first?_wordBorder (s : Progress) :
    wordBorder.first? next s = if s.atWordBorder then next s else none := by
  unfold first? run
  split <;> simp

theorem first?_one_eq_some_iff :
    (one cls).first? next s = some t ↔
      ∃ c ahead, s.rest = c :: ahead ∧ cls.contains c ∧ next (s.take c ahead) = some t := by
  unfold first? run
  cases s.rest with
  | nil => simp
  | cons c ahead =>
    by_cases hc : cls.contains c
    · simp [hc, and_assoc]
    · simp [hc]

theorem first?_named (name : String) (inner : Pattern) (s : Progress) :
    (named name inner).first? next s = inner.first? (fun t => next (t.keep name)) s.mark := by
  have hkeep : (keep name).first? next = fun t => next (t.keep name) := by
    funext t
    simp [first?, run]
  have hmark : mark.first? ((seq inner (keep name)).first? next) s =
      (seq inner (keep name)).first? next s.mark := by
    simp [first?, run]
  rw [named, first?_seq, hmark, first?_seq, hkeep]

/-- A repetition tries one more character before or after it tries to stop. -/
theorem first?_many (cls : CharClass) (lazily : Bool) (s : Progress) :
    (many (one cls) lazily).first? next s =
      let onward := (one cls).first? ((many (one cls) lazily).first? next) s
      if lazily then (next s).or onward else onward.or (next s) := by
  have hshorter : ((one cls).run s).filter (fun t => t.rest.length < s.rest.length) =
      (one cls).run s := by
    rw [List.filter_eq_self]
    unfold run
    split
    · simp
    · next hrest =>
      split <;> simp [hrest, Progress.take]
  simp only [first?, run_many, hshorter]
  split
  · rw [List.findSome?_cons, findSome?_flatMap_eq]
    cases next s <;> rfl
  · rw [List.findSome?_append, findSome?_flatMap_eq, List.findSome?_singleton]
    rfl

/-- If some piece leads on, then the repetition finds one. -/
theorem first?_many_ne_none {lazily : Bool} {piece : List Char} (h : Leads cls next s piece t) :
    (many (one cls) lazily).first? next s ≠ none := by
  induction piece generalizing s with
  | nil =>
    rw [first?_many, leads_nil_iff.mp h]
    cases lazily <;> simp
  | cons c piece ih =>
    obtain ⟨ahead, hahead, hc, hpiece⟩ := leads_cons_iff.mp h
    obtain ⟨u, hu⟩ := Option.ne_none_iff_exists'.mp (ih hpiece)
    rw [first?_many, first?_one_eq_some_iff.mpr ⟨c, ahead, hahead, hc, hu⟩]
    cases lazily <;> simp

/-- The end that a repetition finds is that of a best piece among those that lead on. -/
theorem exists_takes_of_first?_many {lazily : Bool}
    (h : (many (one cls) lazily).first? next s = some t) :
    ∃ piece, Takes 0 cls lazily next s piece t := by
  induction hlength : s.rest.length using Nat.strongRecOn generalizing s with
  | ind n ih =>
    have honward (hmore : (one cls).first? ((many (one cls) lazily).first? next) s = some t) :
        ∃ piece, Takes 1 cls lazily next s piece t := by
      obtain ⟨c, ahead, hahead, hc, hmore⟩ := first?_one_eq_some_iff.mp hmore
      have hshorter : ahead.length < n := by
        rw [← hlength, hahead, List.length_cons]
        exact Nat.lt_succ_self _
      obtain ⟨piece, hpiece⟩ := ih ahead.length hshorter hmore rfl
      exact ⟨c :: piece, takes_cons_iff.mpr ⟨ahead, hahead, hc, hpiece⟩⟩
    rw [first?_many] at h
    cases lazily with
    | true =>
      rcases Option.or_eq_some_iff.mp h with hstop | ⟨hnone, hmore⟩
      · exact ⟨[], takes_nil hstop (.inl rfl)⟩
      · obtain ⟨piece, hpiece⟩ := honward hmore
        exact ⟨piece, hpiece.of_one (.inl hnone)⟩
    | false =>
      rcases Option.or_eq_some_iff.mp h with hmore | ⟨hnone, hstop⟩
      · obtain ⟨piece, hpiece⟩ := honward hmore
        exact ⟨piece, hpiece.of_one (.inr rfl)⟩
      · refine ⟨[], takes_nil hstop (.inr fun d other u hother => ?_)⟩
        -- a longer piece would have been found first
        obtain ⟨ahead, hahead, hd, hother⟩ := leads_cons_iff.mp hother
        obtain ⟨v, hv⟩ := Option.ne_none_iff_exists'.mp (first?_many_ne_none hother)
        cases hnone.symm.trans (first?_one_eq_some_iff.mpr ⟨d, ahead, hahead, hd, hv⟩)

/-- What a repetition takes: the best of the pieces that lead on. -/
theorem first?_many_eq_some_iff {lazily : Bool} :
    (many (one cls) lazily).first? next s = some t ↔
      ∃ piece, Takes 0 cls lazily next s piece t := by
  refine ⟨exists_takes_of_first?_many, fun ⟨piece, hpiece, _, hbest⟩ => ?_⟩
  obtain ⟨u, hu⟩ := Option.ne_none_iff_exists'.mp (first?_many_ne_none hpiece)
  obtain ⟨other, hother, -, hbest'⟩ := exists_takes_of_first?_many hu
  have hlength := (hbest other u hother (Nat.zero_le _)).length_eq
    (hbest' piece t hpiece (Nat.zero_le _))
  rw [hu, hpiece.unique hother hlength]

/-- What a part takes that is repeated at least once. -/
theorem first?_atLeastOnce_eq_some_iff {lazily : Bool} :
    (atLeastOnce (one cls) lazily).first? next s = some t ↔
      ∃ piece, Takes 1 cls lazily next s piece t := by
  rw [atLeastOnce, first?_seq, first?_one_eq_some_iff]
  constructor
  · rintro ⟨c, ahead, hahead, hc, h⟩
    obtain ⟨piece, hpiece⟩ := first?_many_eq_some_iff.mp h
    exact ⟨c :: piece, takes_cons_iff.mpr ⟨ahead, hahead, hc, hpiece⟩⟩
  · rintro ⟨piece, hpiece⟩
    obtain ⟨c, piece, rfl⟩ := List.exists_cons_of_length_pos hpiece.enough
    obtain ⟨ahead, hahead, hc, hpiece⟩ := takes_cons_iff.mp hpiece
    exact ⟨c, ahead, hahead, hc, first?_many_eq_some_iff.mpr ⟨piece, hpiece⟩⟩

/-- Characters that are written out are taken as they are. -/
theorem first?_literal_eq_some_iff {text : List Char} {more : List Pattern} :
    (sequence (literal text ++ more)).first? next s = some t ↔
      ∃ rest, s.rest = text ++ rest ∧
        (sequence more).first? next (s.takeAll text rest) = some t := by
  induction text generalizing s with
  | nil =>
    constructor
    · intro h
      exact ⟨s.rest, rfl, h⟩
    · rintro ⟨rest, hrest, h⟩
      obtain rfl : rest = s.rest := hrest.symm
      exact h
  | cons c text ih =>
    rw [literal, List.map_cons, List.cons_append, first?_sequence_cons, first?_one_eq_some_iff]
    constructor
    · rintro ⟨d, ahead, hahead, hd, h⟩
      obtain rfl := CharClass.contains_only.mp hd
      obtain ⟨rest, hrest, h⟩ := ih.mp h
      obtain rfl : ahead = text ++ rest := hrest
      rw [Progress.takeAll_take] at h
      exact ⟨rest, hahead, h⟩
    · rintro ⟨rest, hrest, h⟩
      refine ⟨c, text ++ rest, hrest, CharClass.contains_only.mpr rfl, ih.mpr ⟨rest, rfl, ?_⟩⟩
      rwa [Progress.takeAll_take]

/-- A repetition at the end takes all that is left. -/
theorem first?_many_finished?_eq_some_iff {lazily : Bool} :
    (many (one cls) lazily).first? Progress.finished? s = some t ↔
      (∀ c ∈ s.rest, cls.contains c) ∧ s.takeAll s.rest [] = t := by
  have hend : ∀ u v : Progress, u.finished? = some v → u.rest = [] := fun u v h =>
    (Progress.finished?_eq_some_iff.mp h).2
  rw [first?_many_eq_some_iff, exists_takes_iff_of_end hend, Progress.finished?_eq_some_iff]
  simp

/-- So does a named part, if anything is left. -/
theorem first?_named_finished?_eq_some_iff {name : String} {lazily : Bool} :
    (named name (atLeastOnce (one cls) lazily)).first? Progress.finished? s = some t ↔
      s.rest ≠ [] ∧ (∀ c ∈ s.rest, cls.contains c) ∧ s.takeNamed name s.rest [] = t := by
  have hend : ∀ u v : Progress, (u.keep name).finished? = some v → u.rest = [] := fun u v h =>
    (Progress.finished?_eq_some_iff.mp h).2
  rw [first?_named, first?_atLeastOnce_eq_some_iff, exists_takes_iff_of_end hend,
    Progress.finished?_eq_some_iff, Progress.rest_mark, Progress.keep_takeAll_mark,
    Nat.succ_le_iff, List.length_pos_iff]
  simp

/-- A named part of all characters but one, with that one behind it, takes all up to there. -/
theorem first?_named_mark_eq_some_iff {name : String} {lazily : Bool} {mark : Char}
    {more : List Pattern} :
    (sequence (named name (atLeastOnce (one (.allBut mark)) lazily) ::
        (literal [mark] ++ more))).first? next s = some t ↔
      ∃ piece rest, s.rest = piece ++ mark :: rest ∧ piece ≠ [] ∧ mark ∉ piece ∧
        (sequence more).first? next
          ((s.takeNamed name piece (mark :: rest)).takeAll [mark] rest) = some t := by
  have hmark : ∀ u v : Progress,
      (sequence (literal [mark] ++ more)).first? next (u.keep name) = some v →
        u.rest.head? = some mark := by
    intro u v h
    obtain ⟨rest, hrest, -⟩ := first?_literal_eq_some_iff.mp h
    rw [Progress.rest_keep] at hrest
    rw [hrest]
    rfl
  rw [first?_sequence_cons, first?_named, first?_atLeastOnce_eq_some_iff,
    exists_takes_iff_of_mark hmark]
  simp only [Progress.rest_mark, Progress.keep_takeAll_mark, first?_literal_eq_some_iff,
    Progress.rest_takeNamed, Nat.succ_le_iff, List.length_pos_iff, List.singleton_append,
    List.cons.injEq, true_and, exists_eq_left']

end Pattern

end FindingCheck
