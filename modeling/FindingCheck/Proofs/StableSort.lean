import FindingCheck.Sorting

/-!
# Stable sorts

A stable sort moves things past each other only where their keys differ. So each *tie*, the things
whose keys compare as equal to one key, comes out as it went in, and a list that ascends is known
from its ties. Every statement that two ways of sorting agree is proved by comparing ties.

## Main definitions

* `tie` — the things in a list whose keys are level with a key

## Main statements

* `tie_sortOn` — sorting changes no tie
* `sortOn_cons` — where a thing in front of a list comes out
* `eq_of_tie_eq` — lists that ascend and have the same ties are equal
* `sortOn_eq_sortOn_iff` — two lists sort to the same list exactly if they have the same ties
* `sortOn_eq_of_perm` — the order in which things come does not matter where keys tell them apart
* `sortOn_append`, `sortOn_append_of_notBehind` — parts that are sorted by themselves
-/

namespace FindingCheck

variable {α β : Type} [Ord β]

/-- The things whose keys compare as equal to `k`, in the order in which they come. -/
def tie (key : α → β) (k : β) (items : List α) : List α :=
  items.filter fun item => compare (key item) k == .eq

theorem mem_tie {key : α → β} {k : β} {items : List α} {x : α} :
    x ∈ tie key k items ↔ x ∈ items ∧ compare (key x) k = .eq := by
  simp [tie]

theorem tie_append (key : α → β) (k : β) (xs ys : List α) :
    tie key k (xs ++ ys) = tie key k xs ++ tie key k ys :=
  List.filter_append ..

theorem tie_cons (key : α → β) (k : β) (x : α) (xs : List α) :
    tie key k (x :: xs) = if compare (key x) k = .eq then x :: tie key k xs else tie key k xs := by
  simp [tie, List.filter_cons]

theorem tie_nil (key : α → β) (k : β) : tie key k [] = [] :=
  rfl

theorem tie_flatMap {γ : Type} (key : α → β) (k : β) (xs : List γ) (f : γ → List α) :
    tie key k (xs.flatMap f) = xs.flatMap fun x => tie key k (f x) :=
  List.filter_flatMap

/-- Things that are replaced without a change in the order of their keys sort the same. -/
theorem sortOn_map {γ δ : Type} [Ord δ] {key : α → β} {newKey : γ → δ} {f : α → γ} {items : List α}
    (h : ∀ a ∈ items, ∀ b ∈ items,
      compare (newKey (f a)) (newKey (f b)) = compare (key a) (key b)) :
    sortOn newKey (items.map f) = (sortOn key items).map f := by
  refine (List.map_mergeSort fun a ha b hb => ?_).symm
  rw [notBehind, notBehind, h a ha b hb]

variable [Std.TransOrd β]

theorem pairwise_tie (key : α → β) (k : β) (items : List α) :
    (tie key k items).Pairwise fun a b => notBehind key a b = true := by
  refine List.pairwise_of_forall_mem_list fun a ha b hb => ?_
  have hab : compare (key a) (key b) = .eq :=
    Std.TransCmp.eq_trans (mem_tie.mp ha).2 (Std.OrientedCmp.eq_symm (mem_tie.mp hb).2)
  rw [notBehind, hab]
  rfl

/-- Sorting changes no tie. -/
theorem tie_sortOn (key : α → β) (k : β) (items : List α) :
    tie key k (sortOn key items) = tie key k items := by
  have hsub : (tie key k items).Sublist (sortOn key items) :=
    List.sublist_mergeSort (notBehind_trans key) (notBehind_total key) (pairwise_tie key k items)
      List.filter_sublist
  have htie : (tie key k items).Sublist (tie key k (sortOn key items)) := by
    simpa [tie] using hsub.filter fun item => compare (key item) k == .eq
  have hlength : (tie key k items).length = (tie key k (sortOn key items)).length :=
    ((perm_sortOn key items).filter _).length_eq.symm
  exact (htie.eq_of_length hlength).symm

/-- A thing that comes first is sorted behind what is before it and in front of all else. -/
theorem sortOn_cons (key : α → β) (x : α) (xs : List α) :
    sortOn key (x :: xs) =
      (sortOn key xs).filter (!notBehind key x ·) ++
        x :: (sortOn key xs).filter (notBehind key x) := by
  obtain ⟨front, back, hcons, htail, hfront⟩ :=
    List.mergeSort_cons (notBehind_trans key) (notBehind_total key) x xs
  have hsorted : (front ++ x :: back).Pairwise fun a b => notBehind key a b = true := by
    rw [← hcons]
    exact pairwise_sortOn key (x :: xs)
  have hback : ∀ y ∈ back, notBehind key x y = true := fun _ hy =>
    List.rel_of_pairwise_cons (List.pairwise_append.mp hsorted).2.1 hy
  have hbefore : ∀ y ∈ front, notBehind key x y = false := fun y hy => by simpa using hfront y hy
  rw [sortOn, sortOn, hcons, htail, List.filter_append, List.filter_append,
    List.filter_eq_self.mpr hfront, List.filter_eq_self.mpr hback,
    List.filter_eq_nil_iff.mpr (by simpa using hback),
    List.filter_eq_nil_iff.mpr (by simpa using hbefore), List.append_nil, List.nil_append]

/-- In a list that ascends, nothing has a key before that of the head. -/
theorem notBehind_head {key : α → β} {x z : α} {xs : List α}
    (h : (x :: xs).Pairwise fun a b => notBehind key a b = true) (hz : z ∈ x :: xs) :
    notBehind key x z = true := by
  rcases List.mem_cons.mp hz with rfl | hz
  · exact Std.ReflOrd.isLE_rfl
  · exact List.rel_of_pairwise_cons h hz

/-- If two lists share the tie of a head `x`, the other head is not behind `x`. -/
theorem notBehind_head_of_tie_eq {key : α → β} {x y : α} {xs ys : List α}
    (hys : (y :: ys).Pairwise fun a b => notBehind key a b = true)
    (htie : tie key (key x) (x :: xs) = tie key (key x) (y :: ys)) :
    notBehind key y x = true := by
  have hx : x ∈ tie key (key x) (y :: ys) := by
    rw [← htie]
    exact mem_tie.mpr ⟨List.mem_cons_self, Std.ReflOrd.compare_self⟩
  exact notBehind_head hys (mem_tie.mp hx).1

/-- Lists that ascend are known from their ties. -/
theorem eq_of_tie_eq {key : α → β} {xs ys : List α}
    (hxs : xs.Pairwise fun a b => notBehind key a b = true)
    (hys : ys.Pairwise fun a b => notBehind key a b = true)
    (htie : ∀ k, tie key k xs = tie key k ys) : xs = ys := by
  induction xs generalizing ys with
  | nil =>
    cases ys with
    | nil => rfl
    | cons y ys =>
      have := htie (key y)
      simp [tie_nil, tie_cons, Std.ReflOrd.compare_self] at this
  | cons x xs ih =>
    cases ys with
    | nil =>
      have := htie (key x)
      simp [tie_nil, tie_cons, Std.ReflOrd.compare_self] at this
    | cons y ys =>
      -- Each head is in the tie of the other, so the keys are level, and the heads are the first
      -- of one and the same tie.
      have hlevel : compare (key x) (key y) = .eq :=
        Std.OrientedCmp.isLE_antisymm
          (notBehind_head_of_tie_eq hxs (htie (key y)).symm)
          (notBehind_head_of_tie_eq hys (htie (key x)))
      have hhead : x = y ∧ tie key (key y) xs = tie key (key y) ys := by
        have := htie (key y)
        simpa [tie_cons, hlevel, Std.ReflOrd.compare_self] using this
      obtain ⟨rfl, -⟩ := hhead
      have htail : ∀ k, tie key k xs = tie key k ys := by
        intro k
        have := htie k
        rw [tie_cons, tie_cons] at this
        split at this
        · exact (List.cons.inj this).2
        · exact this
      have hrest : xs = ys := ih (List.pairwise_cons.mp hxs).2 (List.pairwise_cons.mp hys).2 htail
      rw [hrest]

/-- Two lists sort to the same list exactly if they have the same ties. -/
theorem sortOn_eq_sortOn_iff {key : α → β} {xs ys : List α} :
    sortOn key xs = sortOn key ys ↔ ∀ k, tie key k xs = tie key k ys := by
  constructor
  · intro h k
    rw [← tie_sortOn key k xs, h, tie_sortOn]
  · intro h
    refine eq_of_tie_eq (pairwise_sortOn key xs) (pairwise_sortOn key ys) fun k => ?_
    rw [tie_sortOn, tie_sortOn, h k]

/-- Things whose keys tell them apart sort to the same list in whatever order they come. -/
theorem sortOn_eq_of_perm {key : α → β} {xs ys : List α} (hperm : xs.Perm ys)
    (h : ∀ a ∈ xs, ∀ b ∈ xs, compare (key a) (key b) = .eq → a = b) :
    sortOn key xs = sortOn key ys := by
  have hsorted : (sortOn key xs).Perm (sortOn key ys) :=
    (perm_sortOn key xs).trans (hperm.trans (perm_sortOn key ys).symm)
  refine hsorted.eq_of_pairwise ?_ (pairwise_sortOn key xs) (pairwise_sortOn key ys)
  intro a b ha hb hab hba
  apply h a ((perm_sortOn key xs).mem_iff.mp ha)
  · exact hperm.mem_iff.mpr ((perm_sortOn key ys).mem_iff.mp hb)
  · exact Std.OrientedCmp.isLE_antisymm hab hba

/-- Parts may be sorted by themselves before the whole is. -/
theorem sortOn_append (key : α → β) (xs ys : List α) :
    sortOn key (xs ++ ys) = sortOn key (sortOn key xs ++ sortOn key ys) := by
  refine sortOn_eq_sortOn_iff.mpr fun k => ?_
  rw [tie_append, tie_append, tie_sortOn, tie_sortOn]

/-- Nothing moves from one part to another where no key in the front is behind one in the back. -/
theorem sortOn_append_of_notBehind {key : α → β} {xs ys : List α}
    (h : ∀ x ∈ xs, ∀ y ∈ ys, notBehind key x y = true) :
    sortOn key (xs ++ ys) = sortOn key xs ++ sortOn key ys := by
  have hparts : ∀ x ∈ sortOn key xs, ∀ y ∈ sortOn key ys, notBehind key x y = true := by
    intro x hx y hy
    exact h x ((perm_sortOn key xs).mem_iff.mp hx) y ((perm_sortOn key ys).mem_iff.mp hy)
  rw [sortOn_append]
  exact sortOn_of_pairwise key
    (List.pairwise_append.mpr ⟨pairwise_sortOn key xs, pairwise_sortOn key ys, hparts⟩)

end FindingCheck
