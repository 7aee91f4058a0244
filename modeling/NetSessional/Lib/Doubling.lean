import Mathlib.Tactic

/-! A delay that is doubled every time, up to a cap, and the times it sets. -/

namespace NetSessional.Doubling

variable {α : Type*} [CommRing α] [LinearOrder α] {cap x : α}

def delay (cap x : α) : ℕ → α
  | 0 => x
  | n + 1 => min (2 ^ (n + 1) * x) cap

/-- The `n`-th time, when each delay starts as the last one ends. -/
def instant (start cap x : α) (n : ℕ) : α := start + ∑ i ∈ Finset.range n, delay cap x (i + 1)

@[simp] theorem delay_zero : delay cap x 0 = x := rfl

@[simp] theorem instant_zero (start : α) : instant start cap x 0 = start := by simp [instant]

theorem instant_succ (start : α) (n : ℕ) :
    instant start cap x (n + 1) = instant start cap x n + delay cap x (n + 1) := by
  unfold instant
  rw [Finset.sum_range_succ, add_assoc]

variable [IsStrictOrderedRing α]

theorem delay_nonneg (hx : 0 ≤ x) (hcap : 0 ≤ cap) (n : ℕ) : 0 ≤ delay cap x n := by
  cases n with
  | zero => exact hx
  | succ n => exact le_min (by positivity) hcap

theorem double_min {a : α} (ha : 0 ≤ a) (hcap : 0 ≤ cap) :
    min (min a cap + min a cap) cap = min (a + a) cap := by
  rcases le_total a cap with h | h
  · rw [min_eq_left h]
  · rw [min_eq_right h, min_eq_right (by linarith), min_eq_right (by linarith)]

theorem delay_succ (hx : 0 ≤ x) (hcap : 0 ≤ cap) (n : ℕ) :
    delay cap x (n + 1) = min (delay cap x n + delay cap x n) cap := by
  cases n with
  | zero => simp [delay, two_mul]
  | succ n =>
    change _ = min (min (2 ^ (n + 1) * x) cap + min (2 ^ (n + 1) * x) cap) cap
    rw [double_min (by positivity) hcap]
    change min (2 ^ (n + 2) * x) cap = _
    congr 1
    ring

end NetSessional.Doubling
