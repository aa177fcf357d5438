import Mathlib.Data.List.Basic

/-!
# Lists without repetitions

To leave out repetitions is to keep the head of a list and to drop from the rest whatever is the
same as the head. Everything on lists without repetitions is proved along this recursion.

## Main statements

* `induction_sameAs` — induction along this recursion, for any notion of being the same
* `eraseDups_sublist`, `nodup_eraseDups` — nothing is moved, and nothing is left twice
* `exists_mem_eraseDups_beq` — something the same is kept for everything
-/

namespace FindingCheck

variable {α : Type}

/-- Induction that drops with the head everything that is the same as the head. -/
theorem induction_sameAs (same : α → α → Bool) {motive : List α → Prop}
    (nil : motive [])
    (cons : ∀ head items, motive (items.filter (!same · head)) → motive (head :: items))
    (items : List α) : motive items := by
  cases items with
  | nil => exact nil
  | cons head items => exact cons head items (induction_sameAs same nil cons _)
termination_by items.length
decreasing_by exact Nat.lt_succ_of_le (List.length_filter_le _ _)

theorem eraseDups_sublist [BEq α] (items : List α) :
    items.eraseDups.Sublist items := by
  induction items using induction_sameAs (fun a b : α => a == b) with
  | nil => exact .slnil
  | cons head items ih =>
    rw [List.eraseDups_cons]
    exact .cons_cons head (ih.trans List.filter_sublist)

theorem nodup_eraseDups [BEq α] [LawfulBEq α] (items : List α) : items.eraseDups.Nodup := by
  induction items using induction_sameAs (fun a b : α => a == b) with
  | nil => simp
  | cons head items ih =>
    rw [List.eraseDups_cons, List.nodup_cons, List.mem_eraseDups]
    exact ⟨by simp, ih⟩

theorem exists_mem_eraseDups_beq [BEq α] [EquivBEq α] {items : List α} {item : α}
    (hitem : item ∈ items) : ∃ kept ∈ items.eraseDups, (kept == item) = true := by
  induction items using induction_sameAs (fun a b : α => a == b) with
  | nil => cases hitem
  | cons head items ih =>
    rw [List.eraseDups_cons]
    by_cases hequal : (item == head) = true
    · exact ⟨head, List.mem_cons_self, BEq.symm hequal⟩
    · have hrest : item ∈ items := by
        rcases List.mem_cons.mp hitem with rfl | hrest
        · exact absurd BEq.rfl hequal
        · exact hrest
      obtain ⟨kept, hkept, hsame⟩ := ih (List.mem_filter.mpr ⟨hrest, by simpa using hequal⟩)
      exact ⟨kept, List.mem_cons_of_mem head hkept, hsame⟩

end FindingCheck
