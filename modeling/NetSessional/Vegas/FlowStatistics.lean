import NetSessional.Lib.JainIndex
import Mathlib.Data.Rat.Floor

/-! The fairness index that `taskB` reports: the part of its loop over the flow statistics that the
index is computed from, with exact numbers for the floats. What C++ leaves undefined is `none`. -/

namespace NetSessional.Vegas
open Jain

/-- The conversion to `uint32_t`, which cuts towards zero; out of range it is undefined. -/
def toUInt32 (x : ℚ) : Option UInt32 :=
  let n := x.num.tdiv x.den
  if 0 ≤ n ∧ n < 2 ^ 32 then some (UInt32.ofNat n.toNat) else none

structure FlowTotals where
  j : Int32 := 0
  AvgThroughput : ℚ := 0
  sqTp : UInt32 := 0
  deriving DecidableEq

def FlowTotals.account (t : FlowTotals) (Throughput : ℚ) : Option FlowTotals := do
  let sqTp ← toUInt32 (t.sqTp.toNat + Throughput * Throughput)
  let AvgThroughput := t.AvgThroughput + Throughput
  if t.j = Int32.maxValue then none
  else some { j := t.j + 1, AvgThroughput, sqTp }

def FlowTotals.fairNess (t : FlowTotals) : Option ℚ :=
  if t.j.toInt * (t.sqTp.toNat : ℚ) = 0 then none
  else some (t.AvgThroughput * t.AvgThroughput / (t.j.toInt * t.sqTp.toNat))

/-- The reported index for the throughputs of the flows. -/
def fairNess (throughputs : List ℚ) : Option ℚ := do
  let t ← throughputs.foldlM FlowTotals.account {}
  t.fairNess

def cutSumSq (xs : List ℚ) : ℕ := (xs.map fun x => ⌊x ^ 2⌋₊).sum

theorem toUInt32_nonneg {x : ℚ} (hx : 0 ≤ x) :
    toUInt32 x = if ⌊x⌋₊ < 2 ^ 32 then some (UInt32.ofNat ⌊x⌋₊) else none := by
  have hcut : x.num.tdiv x.den = ⌊x⌋₊ := by
    rw [Int.tdiv_eq_ediv_of_nonneg (Rat.num_nonneg.2 hx), ← Rat.floor_def',
      ← Int.natCast_floor_eq_floor hx]
  unfold toUInt32
  simp only [hcut, Int.natCast_nonneg, true_and, Int.toNat_natCast]
  norm_cast

section Loop
variable (xs : List ℚ)

theorem cutSumSq_snoc (x : ℚ) : cutSumSq (xs ++ [x]) = cutSumSq xs + ⌊x ^ 2⌋₊ := by
  simp [cutSumSq]

/-- The step lemma: a round counts the flow and adds the cut square, as far as both fit. -/
theorem account_ofNat {n q : ℕ} (hn : n < 2 ^ 31) (hq : q < 2 ^ 32) (s x : ℚ) :
    FlowTotals.account ⟨Int32.ofNat n, s, UInt32.ofNat q⟩ x =
      if n + 1 < 2 ^ 31 ∧ q + ⌊x ^ 2⌋₊ < 2 ^ 32 then
        some ⟨Int32.ofNat (n + 1), s + x, UInt32.ofNat (q + ⌊x ^ 2⌋₊)⟩
      else none := by
  have hq' : (UInt32.ofNat q).toNat = q := UInt32.toNat_ofNat_of_lt' hq
  have hfloor : ⌊(q : ℚ) + x * x⌋₊ = q + ⌊x ^ 2⌋₊ := by
    rw [← pow_two, add_comm, Nat.floor_add_natCast (sq_nonneg x), add_comm]
  have hfull : Int32.ofNat n = Int32.maxValue ↔ ¬ n + 1 < 2 ^ 31 := by
    have hmax : Int32.maxValue.toInt = 2 ^ 31 - 1 := rfl
    rw [← Int32.toInt_inj, Int32.toInt_ofNat_of_lt hn, hmax]
    omega
  have hcast : toUInt32 ((q : ℚ) + x * x) =
      if q + ⌊x ^ 2⌋₊ < 2 ^ 32 then some (UInt32.ofNat (q + ⌊x ^ 2⌋₊)) else none := by
    rw [toUInt32_nonneg (add_nonneg (Nat.cast_nonneg q) (mul_self_nonneg x)), hfloor]
  simp only [FlowTotals.account, hq', hcast, hfull]
  by_cases hsq : q + ⌊x ^ 2⌋₊ < 2 ^ 32
  · by_cases hcount : n + 1 < 2 ^ 31
    · rw [if_pos hsq, if_pos ⟨hcount, hsq⟩]
      simp only [Option.bind_eq_bind, Option.bind_some, hcount, not_true_eq_false, if_false,
        Int32.ofNat_add]
      rfl
    · rw [if_pos hsq, if_neg fun h => hcount h.1]
      simp only [Option.bind_eq_bind, Option.bind_some, hcount, not_false_eq_true, if_true]
  · rw [if_neg hsq, if_neg fun h => hsq h.2]
    rfl

theorem foldlM_account : xs.foldlM FlowTotals.account {} =
    if xs.length < 2 ^ 31 ∧ cutSumSq xs < 2 ^ 32 then
      some ⟨Int32.ofNat xs.length, xs.sum, UInt32.ofNat (cutSumSq xs)⟩
    else none := by
  induction xs using List.reverseRecOn with
  | nil => rfl
  | append_singleton xs x ih =>
    rw [List.foldlM_append, ih, cutSumSq_snoc, List.length_append, List.length_singleton]
    by_cases hfits : xs.length < 2 ^ 31 ∧ cutSumSq xs < 2 ^ 32
    · rw [if_pos hfits, List.sum_append, List.sum_singleton]
      simp only [Option.bind_eq_bind, Option.bind_some, List.foldlM_cons, List.foldlM_nil]
      rw [account_ofNat hfits.1 hfits.2]
      split_ifs <;> rfl
    · rw [if_neg hfits, if_neg fun h => hfits ⟨by omega, by omega⟩]
      rfl

theorem fairNess_eq : fairNess xs =
    if xs.length < 2 ^ 31 ∧ cutSumSq xs < 2 ^ 32 ∧ xs.length * (cutSumSq xs : ℚ) ≠ 0 then
      some (xs.sum ^ 2 / (xs.length * cutSumSq xs))
    else none := by
  unfold fairNess
  rw [foldlM_account]
  by_cases hfits : xs.length < 2 ^ 31 ∧ cutSumSq xs < 2 ^ 32
  · have hj : (Int32.ofNat xs.length).toInt = xs.length := Int32.toInt_ofNat_of_lt hfits.1
    have hsq : (UInt32.ofNat (cutSumSq xs)).toNat = cutSumSq xs :=
      UInt32.toNat_ofNat_of_lt' hfits.2
    simp only [if_pos hfits, Option.bind_eq_bind, Option.bind_some, FlowTotals.fairNess, hj, hsq,
      Int.cast_natCast, ← pow_two, ne_eq]
    by_cases hzero : (xs.length : ℚ) * cutSumSq xs = 0
    · rw [if_pos hzero, if_neg fun h => h.2.2 hzero]
    · rw [if_neg hzero, if_pos ⟨hfits.1, hfits.2, hzero⟩]
  · rw [if_neg hfits, if_neg fun h => hfits ⟨h.1, h.2.1⟩]
    rfl

end Loop

section Cut
variable {xs : List ℚ}

theorem cutSumSq_cons (x : ℚ) (xs : List ℚ) : cutSumSq (x :: xs) = ⌊x ^ 2⌋₊ + cutSumSq xs := by
  simp [cutSumSq]

theorem cutSumSq_le : (cutSumSq xs : ℚ) ≤ sumSq xs := by
  induction xs with
  | nil => exact le_refl 0
  | cons x xs ih =>
    rw [cutSumSq_cons, sumSq_cons]
    push_cast
    exact add_le_add (Nat.floor_le (sq_nonneg x)) ih

theorem cutSumSq_eq_iff : (cutSumSq xs : ℚ) = sumSq xs ↔ ∀ x ∈ xs, (⌊x ^ 2⌋₊ : ℚ) = x ^ 2 := by
  induction xs with
  | nil => simp [cutSumSq]
  | cons x xs ih =>
    have hx : (⌊x ^ 2⌋₊ : ℚ) ≤ x ^ 2 := Nat.floor_le (sq_nonneg x)
    have hxs : (cutSumSq xs : ℚ) ≤ sumSq xs := cutSumSq_le
    rw [List.forall_mem_cons, ← ih, cutSumSq_cons, sumSq_cons]
    push_cast
    refine ⟨fun h => ⟨?_, ?_⟩, fun h => by rw [h.1, h.2]⟩
    · linarith
    · linarith

theorem floor_sq_eq_iff {x : ℚ} (hx : 0 ≤ x) :
    (⌊x ^ 2⌋₊ : ℚ) = x ^ 2 ↔ ∃ k : ℕ, x = k := by
  refine ⟨fun h => ?_, ?_⟩
  · have hden : (x ^ 2).den = 1 := by
      rw [← h]
      exact Rat.den_natCast _
    rw [Rat.den_pow, Nat.pow_eq_one] at hden
    have hone : x.den = 1 := hden.resolve_right two_ne_zero
    refine ⟨x.num.toNat, ?_⟩
    have hnum : (x.num : ℚ) = x := Rat.coe_int_num_of_den_eq_one hone
    rw [← hnum]
    exact_mod_cast (Int.toNat_of_nonneg (Rat.num_nonneg.2 hx)).symm
  · rintro ⟨k, rfl⟩
    rw [← Nat.cast_pow, Nat.floor_natCast]

end Cut

/-- The reported index is Jain's, and lies between one over the number of flows and one, exactly if
all throughputs are integers, their squares add up to 32 bits, and `int` counts the flows. -/
theorem fairness_is_jain_iff (xs : List ℚ) (hxs : ∀ x ∈ xs, 0 ≤ x) (hne : ∃ x ∈ xs, x ≠ 0) :
    (∃ F, fairNess xs = some F ∧ F = Jain.index xs ∧ 1 / (xs.length : ℚ) ≤ F ∧ F ≤ 1) ↔
      (∀ x ∈ xs, ∃ k : ℕ, x = k) ∧ sumSq xs < 2 ^ 32 ∧ xs.length < 2 ^ 31 := by
  have hsq : 0 < sumSq xs := (sumSq_pos_iff xs).2 hne
  have hlen : (0 : ℚ) < xs.length := by
    obtain ⟨x, hx, -⟩ := hne
    exact Nat.cast_pos.2 (List.length_pos_of_mem hx)
  have hint : (∀ x ∈ xs, ∃ k : ℕ, x = k) ↔ (cutSumSq xs : ℚ) = sumSq xs := by
    rw [cutSumSq_eq_iff]
    exact forall₂_congr fun x hx => (floor_sq_eq_iff (hxs x hx)).symm
  rw [hint, fairNess_eq]
  refine ⟨?_, ?_⟩
  · rintro ⟨F, hF, hjain, hlow, -⟩
    by_cases hfits : xs.length < 2 ^ 31 ∧ cutSumSq xs < 2 ^ 32 ∧
        xs.length * (cutSumSq xs : ℚ) ≠ 0
    · rw [if_pos hfits, Option.some.injEq] at hF
      -- the numerator is not zero, so the denominators agree
      have hpos : 0 < F := lt_of_lt_of_le (by positivity) hlow
      have hsum : xs.sum ^ 2 ≠ 0 := by
        intro hzero
        rw [hjain, Jain.index, hzero, zero_div] at hpos
        exact absurd hpos (lt_irrefl 0)
      have heq : (cutSumSq xs : ℚ) = sumSq xs := by
        rw [← hF, Jain.index, div_eq_mul_inv, div_eq_mul_inv] at hjain
        exact mul_left_cancel₀ hlen.ne' (inv_inj.1 (mul_left_cancel₀ hsum hjain))
      refine ⟨heq, ?_, hfits.1⟩
      rw [← heq]
      exact_mod_cast hfits.2.1
    · rw [if_neg hfits] at hF
      cases hF
  · rintro ⟨heq, hsmall, hcount⟩
    have hfits : cutSumSq xs < 2 ^ 32 := by
      rw [← heq] at hsmall
      exact_mod_cast hsmall
    rw [heq, if_pos ⟨hcount, hfits, (mul_pos hlen hsq).ne'⟩]
    exact ⟨_, rfl, rfl, inv_length_le_index xs hxs hne, index_le_one xs⟩

/-- Three flows of one, two and three kilobits. -/
theorem fairness_of_three : ∃ F, fairNess [1, 2, 3] = some F ∧ F = Jain.index [1, 2, 3] ∧
    1 / (([1, 2, 3] : List ℚ).length : ℚ) ≤ F ∧ F ≤ 1 := by
  refine (fairness_is_jain_iff [1, 2, 3] ?_ ⟨1, by simp, by norm_num⟩).2 ⟨?_, ?_, by simp⟩
  · simp
  · intro x hx
    simp only [List.mem_cons, List.not_mem_nil, or_false] at hx
    rcases hx with rfl | rfl | rfl
    · exact ⟨1, by norm_num⟩
    · exact ⟨2, by norm_num⟩
    · exact ⟨3, by norm_num⟩
  · norm_num [sumSq]

/-- One flow of one and a half kilobits has an index above one, one of half a kilobit none. -/
theorem fairness_of_fractions :
    fairNess [3 / 2] = some (9 / 8) ∧ fairNess [1 / 2] = none ∧
      ¬ ∃ F, fairNess [3 / 2] = some F ∧ F = Jain.index [3 / 2] ∧
        1 / (([3 / 2] : List ℚ).length : ℚ) ≤ F ∧ F ≤ 1 := by
  have habove : fairNess [3 / 2] = some (9 / 8) := by decide +kernel
  refine ⟨habove, by decide +kernel, ?_⟩
  rintro ⟨F, hF, -, -, hle⟩
  rw [habove, Option.some.injEq] at hF
  rw [← hF] at hle
  norm_num at hle

end NetSessional.Vegas
