import FindingCheck.Pattern.Search

/-!
# What the search finds

`Pattern.run` lists the ways of a pattern and `Attempt.search` finds one without listing them. The
main statement here ties the two together: the search finds the first way in the list that leaves
nothing over.

## Main statements

* `Pattern.run_eq_flatMap_moves` — the ways of a pattern, by what it does up to the next character
* `Pattern.map_outlook_run` — where the ways lead depends only on what lies ahead and just behind
* `Pattern.matchWhole?_eq_find?_run` — the search finds the best way that takes the whole text
-/

namespace FindingCheck

private theorem flatMap_eq_of_forall_mem {α β : Type} {l : List α} {f g : α → List β}
    (h : ∀ x ∈ l, f x = g x) : l.flatMap f = l.flatMap g := by
  rw [List.flatMap_def, List.flatMap_def, List.map_congr_left h]

private theorem flatMap_filterMap_eq {α β γ : Type} (l : List α) (f : α → Option β)
    (g : β → List γ) : (l.filterMap f).flatMap g = l.flatMap fun x => (f x).toList.flatMap g := by
  induction l with
  | nil => rfl
  | cons x l ih => cases hx : f x <;> simp [hx, ih]

namespace Progress

/-- What decides where a pattern can lead: the character taken last and the characters ahead. -/
def outlook (s : Progress) : Option Char × List Char :=
  (s.previous, s.rest)

theorem outlook_mark (s : Progress) : s.mark.outlook = s.outlook :=
  rfl

theorem outlook_keep (s : Progress) (name : String) : (s.keep name).outlook = s.outlook :=
  rfl

end Progress

namespace Pattern

theorem length_rest_repeated_le {step : Progress → List Progress} {lazily : Bool}
    (hstep : ∀ s, ∀ t ∈ step s, t.rest.length ≤ s.rest.length) (fuel : Nat) (s : Progress) :
    ∀ t ∈ repeated step lazily fuel s, t.rest.length ≤ s.rest.length := by
  induction fuel generalizing s with
  | zero => simp [repeated]
  | succ fuel ih =>
    intro t ht
    have hmem : t = s ∨ ∃ u ∈ step s, u.rest.length < s.rest.length ∧
        t ∈ repeated step lazily fuel u := by
      cases lazily <;> simp [repeated] at ht <;> grind
    rcases hmem with rfl | ⟨u, _, hlt, hu⟩
    · exact Nat.le_refl _
    · exact Nat.le_trans (ih u t hu) (Nat.le_of_lt hlt)

/-- A way never gives characters back. -/
theorem length_rest_run_le (p : Pattern) (s : Progress) :
    ∀ t ∈ p.run s, t.rest.length ≤ s.rest.length := by
  induction p generalizing s with
  | empty => simp [run]
  | one cls =>
    intro t ht
    cases hrest : s.rest with
    | nil => simp [run, hrest] at ht
    | cons c rest =>
      simp only [run, hrest] at ht
      split at ht <;> simp_all [Progress.take]
  | wordBorder =>
    intro t ht
    simp only [run] at ht
    split at ht <;> simp_all
  | seq first second ihf ihs =>
    intro t ht
    simp only [run, List.mem_flatMap] at ht
    obtain ⟨u, hu, ht⟩ := ht
    exact Nat.le_trans (ihs u t ht) (ihf s u hu)
  | alt first second ihf ihs =>
    intro t ht
    simp only [run, List.mem_append] at ht
    exact ht.elim (ihf s t) (ihs s t)
  | maybe inner lazily ih =>
    intro t ht
    cases lazily <;> simp [run] at ht <;> grind
  | many inner lazily ih => exact length_rest_repeated_le ih _ s
  | mark => simp [run, Progress.mark]
  | keep name => simp [run, Progress.keep]

/-- More fuel than there are characters ahead changes nothing. -/
theorem repeated_eq_of_le {step : Progress → List Progress} {lazily : Bool} {fuel : Nat}
    {s : Progress} (h : s.rest.length ≤ fuel) :
    repeated step lazily fuel s = repeated step lazily s.rest.length s := by
  induction fuel using Nat.strongRecOn generalizing s with
  | ind fuel ih =>
    cases hlen : s.rest.length with
    | zero =>
      cases fuel with
      | zero => rfl
      | succ fuel =>
        have hnone : (step s).filter (fun t => t.rest.length < s.rest.length) = [] := by
          simp [hlen]
        simp [repeated, hnone]
    | succ n =>
      cases fuel with
      | zero => omega
      | succ fuel =>
        have hsame : ∀ t ∈ (step s).filter (fun t => t.rest.length < s.rest.length),
            repeated step lazily fuel t = repeated step lazily n t := by
          intro t ht
          have hlt : t.rest.length < s.rest.length := by simpa using (List.mem_filter.mp ht).2
          rw [ih fuel (Nat.lt_succ_self _) (by omega)]
          by_cases hn : n < fuel + 1
          · rw [ih n hn (by omega)]
          · omega
        simp only [repeated, flatMap_eq_of_forall_mem hsame]

/-- The ways to repeat a part: once more if it takes something, or not at all. -/
theorem run_many (inner : Pattern) (lazily : Bool) (s : Progress) :
    (many inner lazily).run s =
      let onward := ((inner.run s).filter fun t => t.rest.length < s.rest.length).flatMap
        (many inner lazily).run
      if lazily then s :: onward else onward ++ [s] := by
  simp only [run]
  cases hlen : s.rest.length with
  | zero =>
    have hnone : (inner.run s).filter (fun t => t.rest.length < s.rest.length) = [] := by
      simp [hlen]
    simp only [hlen] at hnone
    cases lazily <;> simp only [repeated, hnone, List.flatMap_nil] <;> rfl
  | succ n =>
    have hsame : ∀ t ∈ (inner.run s).filter (fun t => t.rest.length < s.rest.length),
        repeated inner.run lazily n t = repeated inner.run lazily t.rest.length t := by
      intro t ht
      have hlt : t.rest.length < s.rest.length := by simpa using (List.mem_filter.mp ht).2
      exact repeated_eq_of_le (by omega)
    simp only [hlen] at hsame
    simp only [repeated, hlen, flatMap_eq_of_forall_mem hsame]

end Pattern

/-- The ways that an attempt can go on. -/
def Attempt.ways (attempt : Attempt) : List Progress :=
  attempt.left.run attempt.now

theorem Attempt.ways_followedBy (attempt : Attempt) (next : Pattern) :
    (attempt.followedBy next).ways = attempt.ways.flatMap next.run := by
  unfold followedBy ways
  by_cases h : attempt.left = .empty <;> simp [h, Pattern.run]

namespace Move

/-- The ways that begin with a move. -/
def ways : Move → List Progress
  | done now => [now]
  | onward attempt => attempt.ways

/-- Whether a move can be made from a position: it either stays or takes the next character. -/
def PossibleAt (s : Progress) : Move → Prop
  | done now => now.outlook = s.outlook
  | onward attempt => ∃ c, s.rest = c :: attempt.now.rest ∧ attempt.now.previous = some c

theorem PossibleAt.of_outlook_eq {s t : Progress} {move : Move} (hmove : move.PossibleAt t)
    (h : t.outlook = s.outlook) : move.PossibleAt s := by
  have hrest : t.rest = s.rest := congrArg Prod.snd h
  cases move with
  | done now => exact Eq.trans hmove h
  | onward attempt => simpa only [PossibleAt, hrest] using hmove

end Move

namespace Pattern

theorem possibleAt_of_mem_moves (p : Pattern) (s : Progress) :
    ∀ move ∈ p.moves s, move.PossibleAt s := by
  induction p generalizing s with
  | empty => simp [moves, Move.PossibleAt]
  | one cls =>
    intro move hmove
    cases hrest : s.rest with
    | nil => simp [moves, hrest] at hmove
    | cons c rest =>
      simp only [moves, hrest] at hmove
      split at hmove
      · simp only [List.mem_singleton] at hmove
        subst hmove
        exact ⟨c, hrest, rfl⟩
      · simp at hmove
  | wordBorder =>
    intro move hmove
    simp only [moves] at hmove
    split at hmove
    · simp only [List.mem_singleton] at hmove
      subst hmove
      rfl
    · simp at hmove
  | seq first second ihf ihs =>
    intro move hmove
    simp only [moves, List.mem_flatMap] at hmove
    obtain ⟨m, hm, hmove⟩ := hmove
    cases m with
    | done t => exact (ihs t move hmove).of_outlook_eq (ihf s _ hm)
    | onward attempt =>
      simp only [List.mem_singleton] at hmove
      subst hmove
      exact ihf s (.onward attempt) hm
  | alt first second ihf ihs =>
    intro move hmove
    simp only [moves, List.mem_append] at hmove
    exact hmove.elim (ihf s move) (ihs s move)
  | maybe inner lazily ih =>
    intro move hmove
    have hmem : move = .done s ∨ move ∈ inner.moves s := by
      cases lazily <;> simp [moves] at hmove <;> grind
    rcases hmem with rfl | hmem
    · rfl
    · exact ih s move hmem
  | many inner lazily ih =>
    intro move hmove
    have hmem : move = .done s ∨ ∃ m ∈ inner.moves s, ∃ attempt, m.onward? = some attempt ∧
        .onward (attempt.followedBy (many inner lazily)) = move := by
      cases lazily <;> simp [moves] at hmove <;> grind
    rcases hmem with rfl | ⟨m, hm, attempt, honward, rfl⟩
    · rfl
    · cases m with
      | done t => simp [Move.onward?] at honward
      | onward a =>
        simp only [Move.onward?, Option.some.injEq] at honward
        subst honward
        exact ih s (.onward a) hm
  | mark => simp [moves, Move.PossibleAt, Progress.outlook_mark]
  | keep name => simp [moves, Move.PossibleAt, Progress.outlook_keep]

/-- The ways to repeat a part begin with its moves that take something. -/
theorem flatMap_run_many {inner : Pattern} (s : Progress)
    (h : inner.run s = (inner.moves s).flatMap Move.ways) (lazily : Bool) :
    ((inner.run s).filter fun t => t.rest.length < s.rest.length).flatMap
        (many inner lazily).run =
      (((inner.moves s).filterMap Move.onward?).map fun attempt =>
        Move.onward (attempt.followedBy (many inner lazily))).flatMap Move.ways := by
  rw [h, List.filter_flatMap, List.flatMap_assoc, List.flatMap_map, flatMap_filterMap_eq]
  refine flatMap_eq_of_forall_mem fun move hmove => ?_
  have hpossible := possibleAt_of_mem_moves inner s move hmove
  cases move with
  | done t =>
    have hrest : t.rest = s.rest := congrArg Prod.snd hpossible
    simp [Move.ways, Move.onward?, hrest]
  | onward attempt =>
    obtain ⟨c, hrest, _⟩ := hpossible
    have hkeep : ∀ t ∈ attempt.ways, decide (t.rest.length < s.rest.length) = true := by
      intro t ht
      have := length_rest_run_le attempt.left attempt.now t ht
      simp only [hrest, List.length_cons, decide_eq_true_eq]
      omega
    simp [Move.ways, Move.onward?, Attempt.ways_followedBy, List.filter_eq_self.mpr hkeep]

/-- The ways of a pattern are those that begin with one of its moves, move after move. -/
theorem run_eq_flatMap_moves (p : Pattern) (s : Progress) :
    p.run s = (p.moves s).flatMap Move.ways := by
  induction p generalizing s with
  | empty => rfl
  | one cls =>
    cases hrest : s.rest with
    | nil => simp [run, moves, hrest]
    | cons c rest =>
      simp only [run, moves, hrest]
      split <;> simp [Move.ways, Attempt.ways, run]
  | wordBorder =>
    simp only [run, moves]
    split <;> simp [Move.ways]
  | seq first second ihf ihs =>
    simp only [run, moves, ihf s, List.flatMap_assoc]
    refine flatMap_eq_of_forall_mem fun move _ => ?_
    cases move with
    | done t => simp [Move.ways, ihs t]
    | onward attempt => simp [Move.ways, Attempt.ways_followedBy]
  | alt first second ihf ihs => simp [run, moves, ihf s, ihs s]
  | maybe inner lazily ih => cases lazily <;> simp [run, moves, ih s, Move.ways]
  | many inner lazily ih =>
    rw [run_many, flatMap_run_many s (ih s) lazily]
    cases lazily <;> simp [moves, Move.ways]
  | mark => rfl
  | keep name => rfl

end Pattern

/-! ### Where the ways lead -/

private theorem map_outlook_flatMap {f g : Progress → List Progress}
    (h : ∀ s t, s.outlook = t.outlook →
      (f s).map Progress.outlook = (g t).map Progress.outlook) :
    ∀ {xs ys : List Progress}, xs.map Progress.outlook = ys.map Progress.outlook →
      (xs.flatMap f).map Progress.outlook = (ys.flatMap g).map Progress.outlook := by
  intro xs
  induction xs with
  | nil =>
    intro ys hxy
    cases ys with
    | nil => rfl
    | cons y ys => simp at hxy
  | cons x xs ih =>
    intro ys hxy
    cases ys with
    | nil => simp at hxy
    | cons y ys =>
      simp only [List.map_cons, List.cons.injEq] at hxy
      simp only [List.flatMap_cons, List.map_append, h x y hxy.1, ih hxy.2]

private theorem map_outlook_filter (n : Nat) :
    ∀ {xs ys : List Progress}, xs.map Progress.outlook = ys.map Progress.outlook →
      (xs.filter fun t => t.rest.length < n).map Progress.outlook =
        (ys.filter fun t => t.rest.length < n).map Progress.outlook := by
  intro xs
  induction xs with
  | nil =>
    intro ys hxy
    cases ys with
    | nil => rfl
    | cons y ys => simp at hxy
  | cons x xs ih =>
    intro ys hxy
    cases ys with
    | nil => simp at hxy
    | cons y ys =>
      simp only [List.map_cons, List.cons.injEq] at hxy
      have hrest : x.rest = y.rest := congrArg Prod.snd hxy.1
      by_cases hlt : y.rest.length < n <;> simp [hrest, hlt, hxy.1, ih hxy.2]

namespace Pattern

theorem map_outlook_repeated {step : Progress → List Progress}
    (hstep : ∀ s t, s.outlook = t.outlook →
      (step s).map Progress.outlook = (step t).map Progress.outlook)
    (lazily : Bool) (fuel : Nat) (s t : Progress) (h : s.outlook = t.outlook) :
    (repeated step lazily fuel s).map Progress.outlook =
      (repeated step lazily fuel t).map Progress.outlook := by
  induction fuel generalizing s t with
  | zero => simp [repeated, h]
  | succ fuel ih =>
    have hrest : s.rest = t.rest := congrArg Prod.snd h
    have honward := map_outlook_flatMap ih (map_outlook_filter t.rest.length (hstep s t h))
    cases lazily <;> simp [repeated, hrest, h, honward]

/-- Where the ways lead depends only on the outlook, not on what has been kept on the way. -/
theorem map_outlook_run (p : Pattern) (s t : Progress) (h : s.outlook = t.outlook) :
    (p.run s).map Progress.outlook = (p.run t).map Progress.outlook := by
  have hprevious : s.previous = t.previous := congrArg Prod.fst h
  have hrest : s.rest = t.rest := congrArg Prod.snd h
  induction p generalizing s t with
  | empty => simp [run, h]
  | one cls =>
    cases hr : t.rest with
    | nil => simp [run, hrest, hr]
    | cons c rest =>
      simp only [run, hrest, hr]
      split <;> simp [Progress.outlook, Progress.take]
  | wordBorder =>
    have hborder : s.atWordBorder = t.atWordBorder := by
      simp [Progress.atWordBorder, hprevious, hrest]
    simp only [run, hborder]
    split <;> simp [h]
  | seq first second ihf ihs =>
    refine map_outlook_flatMap (fun s t h => ?_) (ihf s t h hprevious hrest)
    exact ihs s t h (congrArg Prod.fst h) (congrArg Prod.snd h)
  | alt first second ihf ihs =>
    simp [run, ihf s t h hprevious hrest, ihs s t h hprevious hrest]
  | maybe inner lazily ih =>
    cases lazily <;> simp [run, h, ih s t h hprevious hrest]
  | many inner lazily ih =>
    simp only [run, hrest]
    refine map_outlook_repeated (fun s t h => ?_) lazily _ s t h
    exact ih s t h (congrArg Prod.fst h) (congrArg Prod.snd h)
  | mark => simp [run, Progress.outlook_mark, h]
  | keep name => simp [run, Progress.outlook_keep, h]

end Pattern

/-! ### The search -/

private theorem findSome?_eq_of_forall_mem {α β : Type} {l : List α} {f g : α → Option β}
    (h : ∀ x ∈ l, f x = g x) : l.findSome? f = l.findSome? g := by
  induction l with
  | nil => rfl
  | cons x l ih =>
    rw [List.findSome?_cons, List.findSome?_cons, h x (by simp),
      ih fun y hy => h y (List.mem_cons_of_mem _ hy)]

private theorem findSome?_filter_eq {α β : Type} {l : List α} {p : α → Bool} {f : α → Option β}
    (h : ∀ x ∈ l, p x = false → f x = none) : (l.filter p).findSome? f = l.findSome? f := by
  induction l with
  | nil => rfl
  | cons x l ih =>
    have ih := ih fun y hy => h y (List.mem_cons_of_mem _ hy)
    cases hp : p x with
    | true => simp [hp, List.findSome?_cons, ih]
    | false => simp [hp, ih, h x (by simp) hp]

private theorem findSome?_filterMap_eq {α β γ : Type} (l : List α) (f : α → Option β)
    (g : β → Option γ) : (l.filterMap f).findSome? g = l.findSome? fun x => (f x).bind g := by
  induction l with
  | nil => rfl
  | cons x l ih => cases hx : f x <;> simp [hx, ih, List.findSome?_cons]

theorem findSome?_flatMap_eq {α β γ : Type} (l : List α) (f : α → List β)
    (g : β → Option γ) : (l.flatMap f).findSome? g = l.findSome? fun x => (f x).findSome? g := by
  induction l with
  | nil => rfl
  | cons x l ih =>
    rw [List.flatMap_cons, List.findSome?_append, ih, List.findSome?_cons]
    cases (f x).findSome? g <;> rfl

namespace Attempt

/-- The best way of an attempt that takes the whole text. -/
def best? (attempt : Attempt) : Option Progress :=
  attempt.ways.find? (·.rest.isEmpty)

theorem mem_of_mem_distinct {a : Attempt} {attempts : List Attempt} (h : a ∈ distinct attempts) :
    a ∈ attempts := by
  induction attempts with
  | nil => exact h
  | cons b worse ih =>
    simp only [distinct, List.mem_cons, List.mem_filter] at h ⊢
    exact h.imp id fun h => ih h.1

/-- Of two attempts with the same left to do in the same place, both can succeed or none. -/
theorem isSome_best?_eq {a b : Attempt} (hleft : a.left = b.left)
    (h : a.now.outlook = b.now.outlook) : a.best?.isSome = b.best?.isSome := by
  have hany : ∀ l : List Progress, (l.find? (·.rest.isEmpty)).isSome =
      (l.map Progress.outlook).any (·.2.isEmpty) := by
    intro l
    rw [List.isSome_find?, List.any_map]
    rfl
  simp only [best?, ways, hany, hleft, Pattern.map_outlook_run b.left a.now b.now h]

/-- Leaving out the worse of two attempts with the same left to do loses nothing. -/
theorem findSome?_best?_distinct {attempts : List Attempt} {outlook : Option Char × List Char}
    (h : ∀ a ∈ attempts, a.now.outlook = outlook) :
    (distinct attempts).findSome? best? = attempts.findSome? best? := by
  induction attempts with
  | nil => rfl
  | cons a worse ih =>
    have ih := ih fun b hb => h b (List.mem_cons_of_mem _ hb)
    simp only [distinct, List.findSome?_cons]
    cases ha : a.best? with
    | some s => rfl
    | none =>
      rw [← ih]
      refine findSome?_filter_eq fun b hb hleft => ?_
      have hmem : b ∈ worse := mem_of_mem_distinct hb
      have hsome := isSome_best?_eq (a := b) (b := a) (by simpa using hleft)
        ((h b (List.mem_cons_of_mem _ hmem)).trans (h a (by simp)).symm)
      simpa [ha] using hsome

theorem best?_eq_findSome?_moves (attempt : Attempt) :
    attempt.best? =
      (attempt.left.moves attempt.now).findSome? fun move => move.ways.find? (·.rest.isEmpty) := by
  rw [best?, ways, Pattern.run_eq_flatMap_moves, List.find?_flatMap]

/-- When the text is over, an attempt succeeds if it can end. -/
theorem best?_eq_finish? {attempt : Attempt} (h : attempt.now.rest = []) :
    attempt.best? = attempt.finish? := by
  rw [best?_eq_findSome?_moves, finish?]
  refine findSome?_eq_of_forall_mem fun move hmove => ?_
  have hpossible := Pattern.possibleAt_of_mem_moves _ _ move hmove
  cases move with
  | done now =>
    have hrest : now.rest = [] := (congrArg Prod.snd hpossible).trans h
    simp [Move.ways, Move.done?, hrest]
  | onward next =>
    obtain ⟨c, hrest, _⟩ := hpossible
    simp [h] at hrest

/-- When there is text ahead, an attempt succeeds if one of those that it becomes does. -/
theorem best?_eq_findSome?_advance {attempt : Attempt} {c : Char} {text : List Char}
    (h : attempt.now.rest = c :: text) : attempt.best? = attempt.advance.findSome? best? := by
  rw [best?_eq_findSome?_moves, advance, findSome?_filterMap_eq]
  refine findSome?_eq_of_forall_mem fun move hmove => ?_
  have hpossible := Pattern.possibleAt_of_mem_moves _ _ move hmove
  cases move with
  | done now =>
    have hrest : now.rest = c :: text := (congrArg Prod.snd hpossible).trans h
    simp [Move.ways, Move.onward?, hrest]
  | onward next => rfl

/-- The attempts after the next character all stand behind it. -/
theorem outlook_of_mem_advance {attempt next : Attempt} {c : Char} {text : List Char}
    (h : attempt.now.rest = c :: text) (hnext : next ∈ attempt.advance) :
    next.now.outlook = (some c, text) := by
  obtain ⟨move, hmove, honward⟩ := List.mem_filterMap.mp hnext
  have hpossible := Pattern.possibleAt_of_mem_moves _ _ move hmove
  cases move with
  | done now => simp [Move.onward?] at honward
  | onward a =>
    simp only [Move.onward?, Option.some.injEq] at honward
    subst honward
    obtain ⟨d, hrest, hprevious⟩ := hpossible
    rw [h, List.cons.injEq] at hrest
    exact Prod.ext (hprevious.trans (congrArg some hrest.1.symm)) hrest.2.symm

/-- The search finds the best way of the first attempt that can take the whole text. -/
theorem search_eq_findSome?_best? (text : List Char) (attempts : List Attempt)
    (h : ∃ previous, ∀ a ∈ attempts, a.now.outlook = (previous, text)) :
    search text attempts = attempts.findSome? best? := by
  induction text generalizing attempts with
  | nil =>
    obtain ⟨previous, h⟩ := h
    refine findSome?_eq_of_forall_mem fun a ha => (best?_eq_finish? ?_).symm
    exact congrArg Prod.snd (h a ha)
  | cons c text ih =>
    obtain ⟨previous, h⟩ := h
    have hrest : ∀ a ∈ attempts, a.now.rest = c :: text := fun a ha => congrArg Prod.snd (h a ha)
    have hnext : ∀ b ∈ attempts.flatMap advance, b.now.outlook = (some c, text) := by
      intro b hb
      obtain ⟨a, ha, hb⟩ := List.mem_flatMap.mp hb
      exact outlook_of_mem_advance (hrest a ha) hb
    rw [search, ih _ ⟨some c, fun b hb => hnext b (mem_of_mem_distinct hb)⟩,
      findSome?_best?_distinct hnext, findSome?_flatMap_eq]
    exact findSome?_eq_of_forall_mem fun a ha => (best?_eq_findSome?_advance (hrest a ha)).symm

end Attempt

/-- The best way to match a whole text is the first of all ways that leaves nothing over. -/
theorem Pattern.matchWhole?_eq_find?_run (pattern : Pattern) (text : List Char) :
    pattern.matchWhole? text =
      ((pattern.run { rest := text }).find? (·.rest.isEmpty)).map fun s =>
        { text, spans := s.spans } := by
  rw [matchWhole?, Attempt.search_eq_findSome?_best? _ _ ⟨none, by simp [Progress.outlook]⟩]
  simp [Attempt.best?, Attempt.ways]

end FindingCheck
