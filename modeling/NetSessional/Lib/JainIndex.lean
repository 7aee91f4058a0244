import Mathlib.Algebra.Order.Chebyshev
import Mathlib.Tactic

/-! Jain's fairness index of a list, and its range. -/

namespace NetSessional.Jain

variable {α : Type*} [Field α]

def sumSq (xs : List α) : α := (xs.map (· ^ 2)).sum

/-- The square of the sum over the length times the sum of the squares. -/
def index (xs : List α) : α := xs.sum ^ 2 / (xs.length * sumSq xs)

@[simp] theorem sumSq_nil : sumSq ([] : List α) = 0 := rfl

@[simp] theorem sumSq_cons (x : α) (xs : List α) : sumSq (x :: xs) = x ^ 2 + sumSq xs := by
  simp [sumSq]

variable [LinearOrder α] [IsStrictOrderedRing α] (xs : List α)

theorem sumSq_nonneg : 0 ≤ sumSq xs := by
  induction xs with
  | nil => exact le_refl 0
  | cons x xs ih =>
    rw [sumSq_cons]
    positivity

theorem sumSq_pos_iff : 0 < sumSq xs ↔ ∃ x ∈ xs, x ≠ 0 := by
  induction xs with
  | nil => simp
  | cons x xs ih =>
    have hrest := sumSq_nonneg xs
    rw [sumSq_cons, List.exists_mem_cons_iff, ← ih]
    refine ⟨fun h => ?_, ?_⟩
    · by_contra hnone
      obtain ⟨hx, hxs⟩ := not_or.1 hnone
      rw [not_not.1 hx, zero_pow two_ne_zero, zero_add] at h
      exact hxs h
    · rintro (hx | hxs)
      · exact add_pos_of_pos_of_nonneg (by positivity) hrest
      · exact add_pos_of_nonneg_of_pos (sq_nonneg x) hxs

theorem sq_sum_le : xs.sum ^ 2 ≤ xs.length * sumSq xs := by
  have h := sq_sum_le_card_mul_sum_sq (s := Finset.univ) (f := fun i : Fin xs.length => xs[i.1])
  rw [Fin.sum_univ_getElem, Fin.sum_univ_fun_getElem xs (· ^ 2), Finset.card_univ,
    Fintype.card_fin] at h
  exact h

theorem sumSq_le_sq_sum (h : ∀ x ∈ xs, 0 ≤ x) : sumSq xs ≤ xs.sum ^ 2 := by
  have hsum := Finset.sum_sq_le_sq_sum_of_nonneg (s := Finset.univ)
    (f := fun i : Fin xs.length => xs[i.1]) fun i _ => h _ (List.getElem_mem i.2)
  rw [Fin.sum_univ_getElem, Fin.sum_univ_fun_getElem xs (· ^ 2)] at hsum
  exact hsum

theorem index_le_one : index xs ≤ 1 := by
  have hden : 0 ≤ (xs.length : α) * sumSq xs := mul_nonneg (Nat.cast_nonneg _) (sumSq_nonneg xs)
  exact div_le_one_of_le₀ (sq_sum_le xs) hden

theorem inv_length_le_index (h : ∀ x ∈ xs, 0 ≤ x) (hne : ∃ x ∈ xs, x ≠ 0) :
    1 / (xs.length : α) ≤ index xs := by
  have hsq : 0 < sumSq xs := (sumSq_pos_iff xs).2 hne
  have hlen : 0 < (xs.length : α) := by
    obtain ⟨x, hx, -⟩ := hne
    exact Nat.cast_pos.2 (List.length_pos_of_mem hx)
  rw [index, div_le_div_iff₀ hlen (mul_pos hlen hsq), one_mul, mul_comm]
  exact mul_le_mul_of_nonneg_right (sumSq_le_sq_sum xs h) hlen.le

end NetSessional.Jain
