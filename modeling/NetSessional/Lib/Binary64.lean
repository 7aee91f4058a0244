import Mathlib.Data.Int.Log
import Mathlib.Tactic

/-! IEEE 754 binary64 rounding of a rational, to nearest with ties to even. The exponent is not
bounded: the quotients of machine integers this is used for are far from overflow and from the
subnormal range. The result that matters is that such a quotient has the ceiling of the exact
one. -/

namespace NetSessional.Binary64

/-- The nearest integer, the even one at a midpoint. -/
def roundEven (x : ℚ) : ℤ :=
  if Int.fract x = 1 / 2 then (if Even ⌊x⌋ then ⌊x⌋ else ⌊x⌋ + 1)
  else if Int.fract x < 1 / 2 then ⌊x⌋ else ⌊x⌋ + 1

/-- The distance of two neighbouring numbers with 53 significant bits near `x`. -/
def ulp (x : ℚ) : ℚ := 2 ^ (Int.log 2 |x| - 52)

def round (x : ℚ) : ℚ := if x = 0 then 0 else roundEven (x / ulp x) * ulp x

theorem roundEven_error (x : ℚ) : |(roundEven x : ℚ) - x| ≤ 1 / 2 := by
  have hx : (⌊x⌋ : ℚ) + Int.fract x = x := Int.floor_add_fract x
  have h0 := Int.fract_nonneg x
  have h1 := Int.fract_lt_one x
  rw [abs_le]
  unfold roundEven
  split_ifs <;> push_cast <;> constructor <;> linarith

@[simp] theorem roundEven_intCast (k : ℤ) : roundEven (k : ℚ) = k := by
  norm_num [roundEven]

theorem ulp_pos (x : ℚ) : 0 < ulp x := by
  unfold ulp
  positivity

theorem ulp_le {x : ℚ} (hx : x ≠ 0) : ulp x ≤ |x| / 2 ^ 52 := by
  have h := Int.zpow_log_le_self (b := 2) (by norm_num) (abs_pos.2 hx)
  unfold ulp
  rw [zpow_sub₀ (by norm_num)]
  gcongr
  · exact_mod_cast h
  · norm_num

theorem abs_round_sub_le (x : ℚ) : |round x - x| ≤ |x| / 2 ^ 53 := by
  unfold round
  split_ifs with hx
  · simp [hx]
  · have hu := ulp_pos x
    have hsplit : (roundEven (x / ulp x) : ℚ) * ulp x - x
        = ((roundEven (x / ulp x) : ℚ) - x / ulp x) * ulp x := by
      field_simp
    rw [hsplit, abs_mul, abs_of_pos hu]
    calc |(roundEven (x / ulp x) : ℚ) - x / ulp x| * ulp x
        ≤ 1 / 2 * ulp x := by gcongr; exact roundEven_error _
      _ ≤ 1 / 2 * (|x| / 2 ^ 52) := by gcongr; exact ulp_le hx
      _ = |x| / 2 ^ 53 := by ring

theorem round_intCast {n : ℤ} (hn : |n| < 2 ^ 53) : round (n : ℚ) = n := by
  unfold round
  split_ifs with h0
  · exact h0.symm
  · have hne : n ≠ 0 := by exact_mod_cast h0
    have hlog : Int.log 2 |(n : ℚ)| < 53 := by
      rw [← Int.lt_zpow_iff_log_lt (by norm_num) (by positivity)]
      exact_mod_cast hn
    obtain ⟨k, hk⟩ := Int.eq_ofNat_of_zero_le (show 0 ≤ 52 - Int.log 2 |(n : ℚ)| by omega)
    have hulp : ulp (n : ℚ) = ((2 ^ k : ℕ) : ℚ)⁻¹ := by
      have hexp : Int.log 2 |(n : ℚ)| - 52 = -(k : ℤ) := by omega
      rw [ulp, hexp, zpow_neg, zpow_natCast]
      push_cast
      rfl
    have hdiv : (n : ℚ) / ulp n = ((n * 2 ^ k : ℤ) : ℚ) := by
      rw [hulp, div_inv_eq_mul]
      push_cast
      rfl
    rw [hdiv, roundEven_intCast, ← hdiv, div_mul_cancel₀ _ (ulp_pos _).ne']

/-- Rounding the quotient of a 53-bit integer by a positive one does not move its ceiling: a
quotient that is no integer is at least `1 / b` away from one, which is more than the error. -/
theorem ceil_round_div {a : ℤ} {b : ℕ} (hb : 0 < b) (ha : |a| < 2 ^ 53) :
    ⌈round (a / b)⌉ = ⌈(a / b : ℚ)⌉ := by
  have hbq : (0 : ℚ) < b := by exact_mod_cast hb
  by_cases hd : (b : ℤ) ∣ a
  · obtain ⟨n, rfl⟩ := hd
    have hq : (((b : ℤ) * n : ℤ) : ℚ) / b = n := by
      push_cast
      field_simp
    have hn : |n| < 2 ^ 53 := by
      refine lt_of_le_of_lt ?_ ha
      rw [abs_mul, Nat.abs_cast]
      exact le_mul_of_one_le_left (abs_nonneg n) (by exact_mod_cast hb)
    rw [hq, round_intCast hn]
  · set m := ⌈(a / b : ℚ)⌉ with hm
    have hle : (a / b : ℚ) ≤ m := Int.le_ceil _
    have hlt : (m : ℚ) < a / b + 1 := Int.ceil_lt_add_one _
    have hle' : (a : ℚ) ≤ m * b := (div_le_iff₀ hbq).1 hle
    have hlt' : ((m - 1) * b : ℚ) < a := by
      rw [← lt_div_iff₀ hbq]
      linarith
    have hne : a ≠ m * b := fun h => hd ⟨m, by rw [h, mul_comm]⟩
    have hup : a + 1 ≤ m * b := by
      have : a ≤ m * b := by exact_mod_cast hle'
      omega
    have hlow : (m - 1) * b + 1 ≤ a := by
      have : (m - 1) * b < a := by exact_mod_cast hlt'
      omega
    have hup' : (a / b : ℚ) + 1 / b ≤ m := by
      rw [← add_div, div_le_iff₀ hbq]
      exact_mod_cast hup
    have hlow' : (m - 1 : ℚ) + 1 / b ≤ a / b := by
      rw [le_div_iff₀ hbq, add_mul, one_div, inv_mul_cancel₀ hbq.ne']
      exact_mod_cast hlow
    have herr : |round (a / b : ℚ) - a / b| < 1 / b := by
      refine lt_of_le_of_lt (abs_round_sub_le _) ?_
      have haq : |(a : ℚ)| < 2 ^ 53 := by exact_mod_cast ha
      rw [abs_div, abs_of_pos hbq, div_div, div_lt_div_iff₀ (by positivity) hbq]
      nlinarith
    obtain ⟨h1, h2⟩ := abs_lt.1 herr
    rw [Int.ceil_eq_iff]
    constructor <;> linarith

end NetSessional.Binary64
