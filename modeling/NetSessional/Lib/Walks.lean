import Mathlib.Tactic

/-! A walk that is held at zero from below, in closed form: it stands as high as the free walk stands
above the lowest point it has been at. -/

namespace NetSessional.Walks

variable {α : Type*} [AddCommGroup α]

/-- Where the free walk is after its first `k` steps. -/
def position (steps : List α) (k : ℕ) : α := (steps.take k).sum

section Position
variable (ss : List α) (s : α)

@[simp] theorem position_zero : position ss 0 = 0 := rfl

theorem position_length : position ss ss.length = ss.sum := by rw [position, List.take_length]

theorem position_snoc_of_le {k : ℕ} (h : k ≤ ss.length) :
    position (ss ++ [s]) k = position ss k := by
  rw [position, List.take_append_of_le_length h, position]

theorem position_snoc_length :
    position (ss ++ [s]) (ss.length + 1) = position ss ss.length + s := by
  rw [position_length, position, List.take_of_length_le (by simp)]
  simp

theorem position_take {j k : ℕ} (h : k ≤ j) : position (ss.take j) k = position ss k := by
  rw [position, List.take_take, min_eq_left h, position]

end Position

variable [LinearOrder α]

/-- Where the walk is that stays at zero when a step would take it below. -/
def reflected (steps : List α) : α := steps.foldl (fun v s => max (v + s) 0) 0

def Passes (b : α) (steps : List α) : Prop := ∃ pre, pre <+: steps ∧ b < reflected pre

section Reflected
variable (ss : List α) (s : α)

@[simp] theorem reflected_nil : reflected ([] : List α) = 0 := rfl

@[simp] theorem reflected_snoc : reflected (ss ++ [s]) = max (reflected ss + s) 0 := by
  simp [reflected]

theorem reflected_nonneg : 0 ≤ reflected ss := by
  induction ss using List.reverseRecOn with
  | nil => exact le_refl 0
  | append_singleton ss s ih =>
    rw [reflected_snoc]
    exact le_max_right _ _

end Reflected

section Passes
variable {b : α} (ss : List α)

theorem not_passes_nil (hb : 0 ≤ b) : ¬ Passes b [] := by
  rintro ⟨pre, hp, hlt⟩
  rw [List.prefix_nil.1 hp, reflected_nil] at hlt
  exact absurd hlt (not_lt.2 hb)

theorem passes_snoc (s : α) :
    Passes b (ss ++ [s]) ↔ Passes b ss ∨ b < reflected (ss ++ [s]) := by
  refine ⟨?_, ?_⟩
  · rintro ⟨pre, hp, hlt⟩
    rcases List.prefix_concat_iff.1 hp with rfl | hp
    · exact Or.inr hlt
    · exact Or.inl ⟨pre, hp, hlt⟩
  · rintro (⟨pre, hp, hlt⟩ | hlt)
    · exact ⟨pre, hp.trans (List.prefix_append ss [s]), hlt⟩
    · exact ⟨ss ++ [s], List.prefix_refl _, hlt⟩

end Passes

variable [IsOrderedAddMonoid α] (ss : List α)

theorem reflected_le_nsmul {b : α} (hb : 0 ≤ b) (h : ∀ s ∈ ss, s ≤ b) :
    reflected ss ≤ ss.length • b := by
  induction ss using List.reverseRecOn with
  | nil => simp
  | append_singleton ss s ih =>
    have hss : reflected ss ≤ ss.length • b := ih fun t ht => h t (by simp [ht])
    have hs : s ≤ b := h s (by simp)
    rw [reflected_snoc, List.length_append, List.length_singleton, succ_nsmul]
    apply max_le
    · exact add_le_add hss hs
    · exact add_nonneg (nsmul_nonneg hb _) hb

theorem isGreatest_reflected :
    IsGreatest {d | ∃ k, k ≤ ss.length ∧ d = position ss ss.length - position ss k}
      (reflected ss) := by
  induction ss using List.reverseRecOn with
  | nil =>
    refine ⟨⟨0, le_refl 0, by simp⟩, ?_⟩
    rintro d ⟨k, hk, rfl⟩
    obtain rfl : k = 0 := by simpa using hk
    simp
  | append_singleton ss s ih =>
    obtain ⟨⟨k, hk, hd⟩, hmax⟩ := ih
    have hlen : (ss ++ [s]).length = ss.length + 1 := by simp
    rw [reflected_snoc, hlen]
    refine ⟨?_, ?_⟩
    · rcases max_choice (reflected ss + s) 0 with hcase | hcase
      · refine ⟨k, by omega, ?_⟩
        rw [hcase, position_snoc_length, position_snoc_of_le ss s hk, hd]
        abel
      · exact ⟨ss.length + 1, le_refl _, by rw [hcase, sub_self]⟩
    · rintro d ⟨j, hj, rfl⟩
      -- the last part is empty, or a last part of the steps before and the step
      rcases Nat.lt_or_ge ss.length j with hlt | hle
      · obtain rfl : j = ss.length + 1 := by omega
        rw [sub_self]
        exact le_max_right _ _
      · rw [position_snoc_length, position_snoc_of_le ss s hle]
        have hbefore : position ss ss.length - position ss j ≤ reflected ss := hmax ⟨j, hle, rfl⟩
        calc position ss ss.length + s - position ss j
            = position ss ss.length - position ss j + s := by abel
          _ ≤ reflected ss + s := by gcongr
          _ ≤ max (reflected ss + s) 0 := le_max_left _ _

/-- The held walk passes a bound exactly if the free walk rises by more than it at one stretch. -/
theorem passes_iff {b : α} (hb : 0 ≤ b) :
    Passes b ss ↔ ∃ i j, i < j ∧ j ≤ ss.length ∧ b < position ss j - position ss i := by
  refine ⟨?_, ?_⟩
  · rintro ⟨pre, hp, hlt⟩
    obtain ⟨⟨i, hi, hd⟩, -⟩ := isGreatest_reflected pre
    have hpre : pre = ss.take pre.length := List.prefix_iff_eq_take.1 hp
    have hpos : ∀ k, k ≤ pre.length → position pre k = position ss k := by
      intro k hk
      rw [hpre]
      exact position_take ss hk
    rw [hd] at hlt
    refine ⟨i, pre.length, ?_, hp.length_le, ?_⟩
    · rcases hi.lt_or_eq with hi | rfl
      · exact hi
      · rw [sub_self] at hlt
        exact absurd hlt (not_lt.2 hb)
    · rw [← hpos _ (le_refl _), ← hpos i hi]
      exact hlt
  · rintro ⟨i, j, hij, hj, hlt⟩
    refine ⟨ss.take j, List.take_prefix j ss, hlt.trans_le ?_⟩
    have hlen : (ss.take j).length = j := by rw [List.length_take, min_eq_left hj]
    refine (isGreatest_reflected (ss.take j)).2 ⟨i, by omega, ?_⟩
    rw [hlen, position_take ss (le_refl j), position_take ss hij.le]

end NetSessional.Walks
