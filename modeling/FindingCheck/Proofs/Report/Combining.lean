import FindingCheck.Proofs.AssertionOrder
import FindingCheck.Proofs.StableSort
import FindingCheck.Proofs.Traversal
import FindingCheck.Report

/-!
# Reports put together in any way

The report of a corpus may be put together from the reports of its parts in pairs, and in whatever
pairs turn out to be ready. What comes out is always the one report with all outcomes, as long as
the parts stay in their order; where no two parts share an assertion, their order is free too.

## Main definitions

* `FoldTree`, `FoldTree.fold` — a way to put parts together, and what comes out
* `Report.Apart` — reports that share no assertion

## Main statements

* `FoldTree.fold_eq_ok_iff` — every way to put parts together gives the same
* `Report.combineAll_perm` — the order of parts that share no assertion has no influence
-/

namespace FindingCheck

namespace Report

/-- What is put together in two steps is put together in one. -/
theorem ofOutcomes_append (xs ys : List Outcome) :
    ofOutcomes (xs ++ ys) = (ofOutcomes xs).combine (ofOutcomes ys) :=
  eq_of_outcomes_eq (sortOn_append Outcome.assertion xs ys)

theorem combineAll_append (xs ys : List Report) :
    combineAll (xs ++ ys) = (combineAll xs).combine (combineAll ys) := by
  rw [combineAll, List.flatMap_append, ofOutcomes_append]
  rfl

theorem combineAll_nil : combineAll [] = empty :=
  eq_of_outcomes_eq (sortOn_of_pairwise _ .nil)

theorem combineAll_singleton (report : Report) : combineAll [report] = report := by
  rw [combineAll, List.flatMap_singleton, ofOutcomes_outcomes]

/-- Parts that are put together themselves make the same whole. -/
theorem combineAll_map_combineAll (parts : List (List Report)) :
    combineAll (parts.map combineAll) = combineAll parts.flatten := by
  induction parts with
  | nil => rfl
  | cons part parts ih =>
    have hhead := combineAll_append [combineAll part] (parts.map combineAll)
    rw [combineAll_singleton, ih, ← combineAll_append] at hhead
    exact hhead

end Report

/-- A way to put parts together in pairs, with nothing in any place. -/
inductive FoldTree (α : Type) where
  | nothing
  | one (part : α)
  | both (front back : FoldTree α)

namespace FoldTree

variable {ε α : Type}

/-- The parts, from the front to the back. -/
def parts : FoldTree α → List α
  | nothing => []
  | one part => [part]
  | both front back => front.parts ++ back.parts

/-- What comes of the reports of the parts, or the failure of one of them. -/
def fold (report : α → Except ε Report) : FoldTree α → Except ε Report
  | nothing => .ok .empty
  | one part => report part
  | both front back =>
    (front.fold report).bind fun a => (back.fold report).bind fun b => .ok (a.combine b)

/-- Every way to put parts together succeeds exactly if every part does, and it gives the report
with all outcomes. -/
theorem fold_eq_ok_iff {report : α → Except ε Report} {tree : FoldTree α} {found : Report} :
    tree.fold report = .ok found ↔
      ∃ reports, tree.parts.map report = reports.map .ok ∧ found = .combineAll reports := by
  -- Along the tree, the reports of a part in the front stand before those of a part in the back.
  induction tree generalizing found with
  | nothing =>
    rw [fold, parts, List.map_nil, Except.ok.injEq]
    constructor
    · rintro rfl
      exact ⟨[], rfl, Report.combineAll_nil.symm⟩
    · rintro ⟨reports, hreports, rfl⟩
      rw [List.map_eq_nil_iff.mp hreports.symm, Report.combineAll_nil]
  | one part =>
    rw [fold, parts, List.map_singleton]
    constructor
    · intro h
      exact ⟨[found], by rw [h, List.map_singleton], (Report.combineAll_singleton found).symm⟩
    · rintro ⟨reports, hreports, rfl⟩
      obtain ⟨only, rfl, honly⟩ := List.map_eq_singleton_iff.mp hreports.symm
      rw [Report.combineAll_singleton, honly]
  | both front back hfront hback =>
    rw [fold, parts, List.map_append]
    simp only [bind_eq_ok_iff, hfront, hback]
    constructor
    · rintro ⟨a, ⟨xs, hxs, rfl⟩, b, ⟨ys, hys, rfl⟩, hfound⟩
      refine ⟨xs ++ ys, by rw [hxs, hys, List.map_append], ?_⟩
      rw [Report.combineAll_append]
      exact (Except.ok.inj hfound).symm
    · rintro ⟨reports, hreports, rfl⟩
      obtain ⟨xs, ys, rfl, hxs, hys⟩ := List.map_eq_append_iff.mp hreports.symm
      exact ⟨_, ⟨xs, hxs.symm, rfl⟩, _, ⟨ys, hys.symm, rfl⟩,
        congrArg Except.ok (Report.combineAll_append xs ys).symm⟩

end FoldTree

/-! ### The order of the parts -/

/-- No assertion of one report is equal to an assertion of the other. -/
def Report.Apart (a b : Report) : Prop :=
  ∀ x ∈ a.outcomes, ∀ y ∈ b.outcomes, (x.assertion == y.assertion) = false

/-- At most one of two reports that are apart has a tie with a key. -/
theorem Report.Apart.tie_eq_nil {a b : Report} (h : a.Apart b) (k : Assertion) :
    tie Outcome.assertion k a.outcomes = [] ∨ tie Outcome.assertion k b.outcomes = [] := by
  by_cases hnil : tie Outcome.assertion k a.outcomes = []
  · exact .inl hnil
  · -- something of `a` is level with `k`, so nothing of `b` is
    obtain ⟨x, hx⟩ := List.exists_mem_of_ne_nil _ hnil
    refine .inr (List.eq_nil_iff_forall_not_mem.mpr fun y hy => ?_)
    rw [mem_tie] at hx hy
    have hlevel : compare x.assertion y.assertion = .eq :=
      Std.TransCmp.eq_trans hx.2 (Std.OrientedCmp.eq_symm hy.2)
    have hne := h x hx.1 y hy.1
    rw [Assertion.compare_eq_iff.mp hlevel] at hne
    cases hne

/-- Lists of which at most one is not empty may be strung together in any order. -/
theorem flatMap_perm {α β : Type} {f : α → List β} {xs ys : List α} (hperm : xs.Perm ys)
    (h : xs.Pairwise fun a b => f a = [] ∨ f b = []) : xs.flatMap f = ys.flatMap f := by
  induction hperm with
  | nil => rfl
  | cons x hperm ih =>
    rw [List.flatMap_cons, List.flatMap_cons, ih (List.pairwise_cons.mp h).2]
  | swap x y xs =>
    -- one of the two is empty, and it has no place among the others
    have hxy : f y = [] ∨ f x = [] := List.rel_of_pairwise_cons h List.mem_cons_self
    rcases hxy with hnil | hnil <;> simp [List.flatMap_cons, hnil]
  | trans hfirst _ ihfirst ihsecond =>
    have hmoved := (hfirst.pairwise_iff fun hab => hab.symm).mp h
    rw [ihfirst h, ihsecond hmoved]

/-- The order of reports that are apart has no influence on what they are put together to. -/
theorem Report.combineAll_perm {xs ys : List Report} (hperm : xs.Perm ys)
    (h : xs.Pairwise Report.Apart) : combineAll xs = combineAll ys := by
  have hsort : sortOn Outcome.assertion (xs.flatMap outcomes) =
      sortOn Outcome.assertion (ys.flatMap outcomes) := by
    refine sortOn_eq_sortOn_iff.mpr fun k => ?_
    rw [tie_flatMap, tie_flatMap]
    exact flatMap_perm hperm (h.imp fun hapart => hapart.tie_eq_nil k)
  exact eq_of_outcomes_eq hsort

end FindingCheck
