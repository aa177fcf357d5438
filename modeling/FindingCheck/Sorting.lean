/-!
# Sorting by a key

Everything that the program lists is sorted by some key, and things with equal keys keep the order
in which they came.

## Main definitions

* `sortOn` — a list in the order of a key
-/

namespace FindingCheck

variable {α β : Type} [Ord β]

/-- Whether the key of one thing is not behind the key of another. -/
def notBehind (key : α → β) (a b : α) : Bool :=
  (compare (key a) (key b)).isLE

/-- A list in ascending order of a key. The sort is stable. -/
def sortOn (key : α → β) (items : List α) : List α :=
  items.mergeSort (notBehind key)

theorem perm_sortOn (key : α → β) (items : List α) : (sortOn key items).Perm items :=
  List.mergeSort_perm items (notBehind key)

theorem notBehind_trans [Std.TransOrd β] (key : α → β) (a b c : α)
    (hab : notBehind key a b = true) (hbc : notBehind key b c = true) :
    notBehind key a c = true :=
  Std.TransOrd.isLE_trans hab hbc

theorem notBehind_total [Std.TransOrd β] (key : α → β) (a b : α) :
    (notBehind key a b || notBehind key b a) = true := by
  unfold notBehind
  rw [Std.OrientedOrd.eq_swap (a := key b) (b := key a)]
  cases compare (key a) (key b) <;> rfl

/-- A sorted list ascends. -/
theorem pairwise_sortOn [Std.TransOrd β] (key : α → β) (items : List α) :
    (sortOn key items).Pairwise fun a b => notBehind key a b = true :=
  List.pairwise_mergeSort (notBehind_trans key) (notBehind_total key) items

/-- A list that ascends stays as it is. -/
theorem sortOn_of_pairwise (key : α → β) {items : List α}
    (h : items.Pairwise fun a b => notBehind key a b = true) : sortOn key items = items :=
  List.mergeSort_of_pairwise h

end FindingCheck
