import FindingCheck.Event
import Mathlib.Data.List.Perm.Basic

/-!
# Steps that can fail, taken through a list

Many parts of the program do one thing to each member of a list and stop at the first failure.
Where they also record events, the result is that of the same steps without the events.

## Main statements

* `bind_eq_ok_iff` — two parts, one after the other, succeed exactly if both do
* `mapM_eq_ok_iff` — a part of several steps succeeds exactly if every step does
* `exists_mapM_eq_ok_iff` — the same without the results
* `mapM_eq_error_iff` — it fails as the first step that fails
* `Logged.result_mapM` — the result of steps that record events
-/

namespace FindingCheck

variable {ε α β : Type}

/-- A part and what follows it succeed exactly if both do. -/
theorem bind_eq_ok_iff {part : Except ε α} {next : α → Except ε β} {value : β} :
    part.bind next = .ok value ↔ ∃ first, part = .ok first ∧ next first = .ok value := by
  cases part with
  | error e =>
    constructor
    · intro h
      cases h
    · rintro ⟨first, hfirst, -⟩
      cases hfirst
  | ok first =>
    constructor
    · exact fun h => ⟨first, rfl, h⟩
    · rintro ⟨_, hfirst, h⟩
      cases hfirst
      exact h

theorem map_eq_ok_iff {f : α → β} {part : Except ε α} {value : β} :
    part.map f = .ok value ↔ ∃ first, part = .ok first ∧ f first = value := by
  cases part <;> simp [Except.map]

theorem mapError_eq_ok_iff {ε' : Type} {f : ε → ε'} {part : Except ε α} {value : α} :
    Except.mapError f part = .ok value ↔ part = .ok value := by
  cases part <;> simp [Except.mapError]

theorem toOption_eq_some_iff {part : Except ε α} {value : α} :
    part.toOption = some value ↔ part = .ok value := by
  cases part <;> simp [Except.toOption]

/-- Whether a part succeeds can be computed. -/
theorem exists_eq_ok_iff {part : Except ε α} :
    (∃ value, part = .ok value) ↔ part.toOption.isSome = true := by
  cases part <;> simp [Except.toOption]

theorem exists_eq_error_iff {part : Except ε α} :
    (∃ failure, part = .error failure) ↔ part.toOption.isNone = true := by
  cases part <;> simp [Except.toOption]

/-- A part of several steps succeeds exactly if every step does, with the results of the
steps. -/
theorem mapM_eq_ok_iff {f : α → Except ε β} {xs : List α} {ys : List β} :
    xs.mapM f = .ok ys ↔ xs.map f = ys.map .ok := by
  induction xs generalizing ys with
  | nil =>
    show Except.ok [] = .ok ys ↔ [] = ys.map Except.ok
    cases ys <;> simp
  | cons x xs ih =>
    rw [List.mapM_cons]
    cases hx : f x with
    | error e =>
      show Except.error e = .ok ys ↔ _
      cases ys <;> simp [hx]
    | ok y =>
      cases hxs : xs.mapM f with
      | error e =>
        show Except.error e = .ok ys ↔ _
        cases ys with
        | nil => simp
        | cons y' ys' => simp [hx, ← ih, hxs]
      | ok found =>
        show Except.ok (y :: found) = .ok ys ↔ _
        cases ys with
        | nil => simp
        | cons y' ys' => simp [hx, ← ih, hxs]

/-- Each result of several steps is the result of one of them. -/
theorem exists_of_mem_results {f : α → Except ε β} {xs : List α} {ys : List β}
    (h : xs.map f = ys.map .ok) {y : β} (hy : y ∈ ys) : ∃ x ∈ xs, f x = .ok y := by
  have hmem : Except.ok y ∈ xs.map f := by
    rw [h]
    exact List.mem_map_of_mem hy
  exact List.mem_map.mp hmem

theorem mapM_eq_ok_of_forall {f : α → Except ε β} {g : α → β} {xs : List α}
    (h : ∀ x ∈ xs, f x = .ok (g x)) : xs.mapM f = .ok (xs.map g) := by
  rw [mapM_eq_ok_iff, List.map_map]
  exact List.map_congr_left h

theorem exists_mapM_eq_ok_iff {f : α → Except ε β} {xs : List α} :
    (∃ ys, xs.mapM f = .ok ys) ↔ ∀ x ∈ xs, ∃ y, f x = .ok y := by
  simp only [mapM_eq_ok_iff]
  induction xs with
  | nil => simp
  | cons x xs ih =>
    rw [List.forall_mem_cons, ← ih]
    constructor
    · rintro ⟨_ | ⟨y, ys⟩, hys⟩
      · cases hys
      · obtain ⟨hy, hys⟩ := List.cons.inj hys
        exact ⟨⟨y, hy⟩, ys, hys⟩
    · rintro ⟨⟨y, hy⟩, ys, hys⟩
      exact ⟨y :: ys, by rw [List.map_cons, List.map_cons, hy, hys]⟩

/-- A part of several steps fails as the first step that fails. -/
theorem mapM_eq_error_iff {f : α → Except ε β} {xs : List α} {failure : ε} :
    xs.mapM f = .error failure ↔
      ∃ front x rest, xs = front ++ x :: rest ∧ (∀ y ∈ front, ∃ result, f y = .ok result) ∧
        f x = .error failure := by
  induction xs with
  | nil =>
    constructor
    · intro h
      cases h
    · rintro ⟨front, x, rest, hxs, -⟩
      simp at hxs
  | cons first xs ih =>
    rw [List.mapM_cons]
    cases hfirst : f first with
    | error e =>
      show Except.error e = .error failure ↔ _
      constructor
      · rintro ⟨⟩
        exact ⟨[], first, xs, rfl, by simp, hfirst⟩
      · rintro ⟨_ | ⟨_, front⟩, x, rest, hxs, hfront, hx⟩
        · obtain ⟨rfl, -⟩ := List.cons.inj hxs
          cases hfirst.symm.trans hx
          rfl
        · obtain ⟨rfl, -⟩ := List.cons.inj hxs
          obtain ⟨result, hresult⟩ := hfront first List.mem_cons_self
          cases hfirst.symm.trans hresult
    | ok result =>
      have hrest : (do let results ← xs.mapM f; pure (result :: results)) = .error failure ↔
          xs.mapM f = .error failure := by
        cases xs.mapM f <;> simp [bind, Except.bind, pure, Except.pure]
      refine hrest.trans (ih.trans ?_)
      constructor
      · rintro ⟨front, x, rest, rfl, hfront, hx⟩
        refine ⟨first :: front, x, rest, rfl, ?_, hx⟩
        exact List.forall_mem_cons.mpr ⟨⟨result, hfirst⟩, hfront⟩
      · rintro ⟨_ | ⟨_, front⟩, x, rest, hxs, hfront, hx⟩
        · obtain ⟨rfl, -⟩ := List.cons.inj hxs
          cases hfirst.symm.trans hx
        · obtain ⟨rfl, rfl⟩ := List.cons.inj hxs
          exact ⟨front, x, rest, rfl, (List.forall_mem_cons.mp hfront).2, hx⟩

theorem mapM_congr_left {f g : α → Except ε β} {xs : List α} (h : ∀ x ∈ xs, f x = g x) :
    xs.mapM f = xs.mapM g := by
  induction xs with
  | nil => rfl
  | cons x xs ih =>
    obtain ⟨hx, hxs⟩ := List.forall_mem_cons.mp h
    rw [List.mapM_cons, List.mapM_cons, hx, ih hxs]

theorem mapM_map {γ : Type} (f : α → Except ε β) (g : β → γ) (xs : List α) :
    (xs.mapM fun x => (f x).map g) = (xs.mapM f).map (List.map g) := by
  induction xs with
  | nil => rfl
  | cons x xs ih =>
    rw [List.mapM_cons, List.mapM_cons, ih]
    cases f x with
    | error e => rfl
    | ok y => cases xs.mapM f <;> rfl

/-- Steps may be taken list by list. -/
theorem mapM_flatten (f : α → Except ε β) (xss : List (List α)) :
    xss.flatten.mapM f = (xss.mapM (List.mapM f)).map List.flatten := by
  induction xss with
  | nil => rfl
  | cons xs xss ih =>
    rw [List.flatten_cons, List.mapM_append, List.mapM_cons, ih]
    cases xs.mapM f with
    | error e => rfl
    | ok ys => cases xss.mapM (List.mapM f) <;> rfl

/-- Steps taken in another order have the same results in another order. -/
theorem exists_perm_results {f : α → Except ε β} {parts others : List α} {results : List β}
    (hperm : others.Perm parts) (h : parts.map f = results.map .ok) :
    ∃ moved, others.map f = moved.map .ok ∧ results.Perm moved := by
  have hparts : ∀ part ∈ parts, ∃ result, f part = .ok result :=
    exists_mapM_eq_ok_iff.mp ⟨results, mapM_eq_ok_iff.mpr h⟩
  have hothers : ∀ part ∈ others, ∃ result, f part = .ok result := fun part hpart =>
    hparts part (hperm.mem_iff.mp hpart)
  obtain ⟨moved, hmoved⟩ := exists_mapM_eq_ok_iff.mpr hothers
  refine ⟨moved, mapM_eq_ok_iff.mp hmoved, ?_⟩
  have hresults : (results.map (@Except.ok ε β)).Perm (moved.map .ok) := by
    rw [← h, ← mapM_eq_ok_iff.mp hmoved]
    exact (hperm.map f).symm
  exact (List.map_perm_map_iff fun a b => Except.ok.inj).mp hresults

namespace Logged

variable {γ : Type}

theorem andThen_pure (part : Logged ε α) : andThen part pure = part := by
  obtain ⟨result, events⟩ := part
  cases result with
  | error failure => rfl
  | ok value =>
    show Logged.mk (.ok value) (events ++ []) = _
    rw [List.append_nil]

theorem pure_andThen (value : α) (next : α → Logged ε β) :
    andThen (pure value) next = next value :=
  rfl

theorem andThen_assoc (part : Logged ε α) (next : α → Logged ε β) (after : β → Logged ε γ) :
    andThen (andThen part next) after = andThen part fun value => andThen (next value) after := by
  obtain ⟨result, events⟩ := part
  cases result with
  | error failure => rfl
  | ok value =>
    simp only [andThen]
    cases (next value).result with
    | error failure => rfl
    | ok value => simp only [List.append_assoc]

/-- Parts may be grouped in any way. -/
instance : LawfulMonad (Logged ε) :=
  .mk' _ andThen_pure pure_andThen andThen_assoc

/-- The result of several parts is that of their results. -/
theorem result_mapM (f : α → Logged ε β) (xs : List α) :
    (xs.mapM f).result = xs.mapM fun x => (f x).result := by
  induction xs with
  | nil => rfl
  | cons x xs ih =>
    rw [List.mapM_cons, List.mapM_cons, ← ih, result_bind]
    show _ = (f x).result.bind _
    congr
    funext y
    rw [result_bind]
    rfl

theorem result_tell (events : List Event) : (tell events : Logged ε Unit).result = .ok () :=
  rfl

theorem result_ofExcept (result : Except ε α) : (ofExcept result).result = result :=
  rfl

end Logged

end FindingCheck
