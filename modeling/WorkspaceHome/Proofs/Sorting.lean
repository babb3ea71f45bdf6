import Mathlib.Data.List.Sort

/-!
# Sorting by a number

Rows and items are sorted by numbers, and what has the same number keeps its order. So the items of
one number are the same before and after (`filter_sorted`).
-/

namespace WorkspaceHome.Sorting

variable {α : Type} (number : α → ℕ) (items : List α)

theorem pairwise_sorted :
    (items.mergeSort fun a b => decide (number a ≤ number b)).Pairwise fun a b =>
      number a ≤ number b := by
  have h : (items.mergeSort fun a b => decide (number a ≤ number b)).Pairwise fun a b =>
      decide (number a ≤ number b) = true := by
    apply List.pairwise_mergeSort
    · intro a b c hab hbc
      simp only [decide_eq_true_eq] at hab hbc ⊢
      exact Nat.le_trans hab hbc
    · intro a b
      simpa using Nat.le_total _ _
  simpa using h

/-- Sorting is stable: the items of a number keep their order. -/
theorem filter_sorted (n : ℕ) :
    ((items.mergeSort fun a b => decide (number a ≤ number b)).filter fun a => number a == n) =
      items.filter fun a => number a == n := by
  -- a sublist of the same length is the whole list
  symm
  apply List.Sublist.eq_of_length
  · have hsub : (items.filter fun a => number a == n).Sublist
        (items.mergeSort fun a b => decide (number a ≤ number b)) := by
      apply List.sublist_mergeSort
      · intro a b c hab hbc
        simp only [decide_eq_true_eq] at hab hbc ⊢
        exact Nat.le_trans hab hbc
      · intro a b
        simpa using Nat.le_total _ _
      · apply List.pairwise_of_forall_mem_list
        intro a ha b hb
        have ha := (List.mem_filter.mp ha).2
        have hb := (List.mem_filter.mp hb).2
        simp only [beq_iff_eq] at ha hb
        simp [ha, hb]
      · exact List.filter_sublist
    have hfilter := hsub.filter fun a => number a == n
    rwa [List.filter_filter, funext fun a => Bool.and_self (number a == n)] at hfilter
  · exact (((List.mergeSort_perm items _).filter _).length_eq).symm

end WorkspaceHome.Sorting
