import Mathlib.Data.List.Pairwise
import Mathlib.Data.List.Perm.Basic

/-! # Stable sorting

A list is sorted stably by a key when its items stand in ascending order of their keys and the items of each
key as they stood before. There is only one such list, so any two ways of sorting stably agree.
-/

namespace DemandPaging

structure StableSort {α : Type} (key : α → Nat) (items sorted : List α) : Prop where
  perm : sorted.Perm items
  ascending : sorted.Pairwise fun first second => key first ≤ key second
  /-- The items of one key keep their order. -/
  stable : ∀ value, sorted.filter (key · = value) = items.filter (key · = value)

variable {α β : Type} {key : α → Nat} {items sorted : List α}

theorem mem_iff_of_filter_key_eq {first second : List α}
    (same : ∀ value, first.filter (key · = value) = second.filter (key · = value)) (item : α) :
    item ∈ first ↔ item ∈ second := by
  have selected := congrArg (item ∈ ·) (same (key item))
  simpa only [List.mem_filter, decide_true, and_true, eq_iff_iff] using selected

/-- Items in ascending order of their keys are determined by those of each key. -/
theorem eq_of_filter_key_eq {first second : List α}
    (ascends : first.Pairwise fun one other => key one ≤ key other)
    (also : second.Pairwise fun one other => key one ≤ key other)
    (same : ∀ value, first.filter (key · = value) = second.filter (key · = value)) : first = second := by
  have listed := mem_iff_of_filter_key_eq same
  induction first generalizing second with
  | nil => exact (List.eq_nil_iff_forall_not_mem.mpr fun item member => nomatch (listed item).mpr member).symm
  | cons head rest ih =>
    cases second with
    | nil => exact nomatch (listed head).mp List.mem_cons_self
    | cons next others =>
      obtain ⟨least, restAscends⟩ := List.pairwise_cons.mp ascends
      obtain ⟨lowest, othersAscend⟩ := List.pairwise_cons.mp also
      have level : key head = key next := by
        apply Nat.le_antisymm
        · rcases List.mem_cons.mp ((listed next).mpr List.mem_cons_self) with rfl | behind
          · exact Nat.le_refl _
          · exact least next behind
        · rcases List.mem_cons.mp ((listed head).mp List.mem_cons_self) with rfl | behind
          · exact Nat.le_refl _
          · exact lowest head behind
      obtain rfl : head = next := by
        have front := same (key next)
        simp only [List.filter_cons, level, decide_true, if_true, List.cons.injEq] at front
        exact front.1
      have behind (value : Nat) : rest.filter (key · = value) = others.filter (key · = value) := by
        have both := same value
        simp only [List.filter_cons] at both
        split at both
        · exact (List.cons.inj both).2
        · exact both
      rw [ih restAscends othersAscend behind (mem_iff_of_filter_key_eq behind)]

namespace StableSort

/-- There is one way to sort stably. -/
theorem unique {also : List α} (sorts : StableSort key items sorted) (other : StableSort key items also) :
    sorted = also :=
  eq_of_filter_key_eq sorts.ascending other.ascending fun value => (sorts.stable value).trans (other.stable value).symm

theorem map {f : β → α} {items sorted : List β} (sorts : StableSort (fun item => key (f item)) items sorted) :
    StableSort key (items.map f) (sorted.map f) where
  perm := sorts.perm.map f
  ascending := List.pairwise_map.mpr sorts.ascending
  stable value := by
    rw [List.filter_map, List.filter_map]
    exact congrArg (List.map f) (sorts.stable value)

/-- Items of one key keep the order in which they stood. -/
theorem pairwise (sorts : StableSort key items sorted) {before : α → α → Prop} (placed : items.Pairwise before) :
    sorted.Pairwise fun first second => key first < key second ∨ key first = key second ∧ before first second := by
  rw [List.pairwise_iff_forall_sublist]
  intro first second within
  rcases Nat.lt_or_eq_of_le (List.pairwise_iff_forall_sublist.mp sorts.ascending within) with less | level
  · exact .inl less
  · have selected := within.filter (key · = key second)
    simp only [List.filter_cons, level, decide_true, if_true, List.filter_nil, sorts.stable] at selected
    exact .inr ⟨level, List.pairwise_iff_forall_sublist.mp placed (selected.trans List.filter_sublist)⟩

end StableSort

theorem stableSort_mergeSort (key : α → Nat) (items : List α) :
    StableSort key items (items.mergeSort fun first second => key first ≤ key second) := by
  have trans (first second third : α) : decide (key first ≤ key second) → decide (key second ≤ key third) →
      decide (key first ≤ key third) := by
    simp only [decide_eq_true_eq]
    exact Nat.le_trans
  have total (first second : α) : (decide (key first ≤ key second) || decide (key second ≤ key first)) = true := by
    simp only [Bool.or_eq_true, decide_eq_true_eq]
    exact Nat.le_total ..
  have perm := List.mergeSort_perm items fun first second => key first ≤ key second
  constructor
  · exact perm
  · exact (List.pairwise_mergeSort trans total items).imp of_decide_eq_true
  · intro value
    have level : (items.filter (key · = value)).Pairwise fun first second => decide (key first ≤ key second) := by
      apply List.pairwise_of_forall_mem_list
      intro first inFirst second inSecond
      simp only [List.mem_filter, decide_eq_true_eq] at inFirst inSecond ⊢
      omega
    -- The items of one key are in order, so they stand in the sorted list as they stood before.
    have within := (List.sublist_mergeSort trans total level List.filter_sublist).filter (key · = value)
    simp only [List.filter_filter, Bool.and_self] at within
    exact (within.eq_of_length (perm.filter _).length_eq.symm).symm

end DemandPaging
