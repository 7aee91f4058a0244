import NetSessional.Vegas.WindowFloor

/-! The two modes of the adjustment: whether slow start is left when the flow goes too fast, and
whether the steps in linear mode are of one segment. -/

namespace NetSessional.Vegas
open Runs

variable {ρ : Type} (ns : Ns3 ρ)

namespace Flow

/-- Going too fast in slow start does not add to the window, and it ends slow start; a step down in
linear mode does not take the flow back to it. -/
structure EndsSlowStart (f : Flow ρ) (segmentsAcked : UInt32) : Prop where
  fast : f.tcb.m_cWnd < f.tcb.m_ssThresh → f.diff ns > f.cc.m_gamma →
    (f.increaseWindow ns segmentsAcked).tcb.m_cWnd ≤ f.tcb.m_cWnd ∧
      (f.increaseWindow ns segmentsAcked).tcb.m_ssThresh ≤
        (f.increaseWindow ns segmentsAcked).tcb.m_cWnd
  down : f.tcb.m_ssThresh ≤ f.tcb.m_cWnd → f.diff ns > f.cc.m_beta →
    (f.increaseWindow ns segmentsAcked).tcb.m_ssThresh ≤
      (f.increaseWindow ns segmentsAcked).tcb.m_cWnd

/-- The window goes down exactly above `Beta` and up exactly below `Alpha`, by a segment at most. -/
structure StepsLinearly (f : Flow ρ) (segmentsAcked : UInt32) : Prop where
  down : (f.increaseWindow ns segmentsAcked).tcb.m_cWnd < f.tcb.m_cWnd ↔
    f.diff ns > f.cc.m_beta
  up : f.tcb.m_cWnd < (f.increaseWindow ns segmentsAcked).tcb.m_cWnd ↔
    f.diff ns < f.cc.m_alpha
  small : |((f.increaseWindow ns segmentsAcked).tcb.m_cWnd.toNat : ℤ) - f.tcb.m_cWnd.toNat| ≤
    f.tcb.m_segmentSize.toNat

end Flow

section Threshold
variable {ns} {f : Flow ρ} {n : UInt32}

theorem three_quarters_le (x : UInt32) : 3 * x / 4 ≤ x := by
  have hthree : (3 : UInt32).toNat = 3 := rfl
  have hfour : (4 : UInt32).toNat = 4 := rfl
  rw [UInt32.le_iff_toNat_le, UInt32.toNat_div, UInt32.toNat_mul, hthree, hfour]
  have := Nat.mod_le (3 * x.toNat) (2 ^ 32)
  omega

/-- `GetSsThresh` of a window of `k` segments is past the window only if `k` is one: its floor is two
segments. -/
theorem getSsThresh_le_iff (tcb : SocketState) {k : ℕ} (hseg : 0 < tcb.m_segmentSize) (hk : 1 ≤ k)
    (hwnd : tcb.m_cWnd.toNat = k * tcb.m_segmentSize.toNat)
    (htwo : 2 * tcb.m_segmentSize.toNat < 2 ^ 32) (b : UInt32) :
    tcb.getSsThresh b ≤ tcb.m_cWnd ↔ 2 ≤ k := by
  have hz : 0 < tcb.m_segmentSize.toNat := UInt32.lt_iff_toNat_lt.1 hseg
  have hle : tcb.m_segmentSize ≤ tcb.m_cWnd := by
    rw [UInt32.le_iff_toNat_le, hwnd]
    exact Nat.le_mul_of_pos_left _ hk
  have hmin : stdMin tcb.m_ssThresh (tcb.m_cWnd - tcb.m_segmentSize) ≤ tcb.m_cWnd := by
    refine UInt32.le_trans (stdMin_le_right _ _) ?_
    rw [UInt32.le_iff_toNat_le, UInt32.toNat_sub_of_le _ _ hle]
    omega
  have hfloor : (2 * tcb.m_segmentSize).toNat = 2 * tcb.m_segmentSize.toNat := by
    have : (2 : UInt32).toNat = 2 := rfl
    rw [UInt32.toNat_mul, this, Nat.mod_eq_of_lt htwo]
  rw [SocketState.getSsThresh, stdMax_le_iff, UInt32.le_iff_toNat_le (a := 2 * tcb.m_segmentSize),
    hfloor, hwnd]
  exact ⟨fun h => Nat.le_of_mul_le_mul_right h.2 hz, fun h => ⟨hmin, Nat.mul_le_mul_right _ h⟩⟩

/-- After an adjustment that reduces the window to `k` segments, the flow is in linear mode unless `k`
is one. -/
theorem reduced_le_iff (hbound : ns.TargetInWindow) (h : f.Reached ns) (hadj : f.Adjusts ns)
    (hway : f.adjustment ns = .leaveSlowStart ∨ f.adjustment ns = .slowDown) {k : ℕ} (hk : 1 ≤ k)
    (hseg : 0 < f.tcb.m_segmentSize) (htwo : 2 * f.tcb.m_segmentSize.toNat < 2 ^ 32)
    (haim : f.aim ns n = k * f.tcb.m_segmentSize.toNat) :
    (f.increaseWindow ns n).tcb.m_ssThresh ≤ (f.increaseWindow ns n).tcb.m_cWnd ↔ 2 ≤ k := by
  have hsmall : f.aim ns n < 2 ^ 32 := by
    apply aim_lt hbound h n
    rcases hway with hway | hway <;> (rw [hway]; decide)
  have hthr : f.threshold ns n = { f.tcb.toSocketState with
      m_cWnd := UInt32.ofNat (f.aim ns n) }.getSsThresh 0 := by
    unfold Flow.threshold
    rcases hway with hway | hway <;> rw [hway]
  rw [adjusted hbound h hadj n]
  change stdMax (f.threshold ns n) (3 * UInt32.ofNat (f.aim ns n) / 4) ≤
    UInt32.ofNat (f.aim ns n) ↔ _
  rw [stdMax_le_iff, and_iff_left (three_quarters_le _), hthr]
  have hwnd : (UInt32.ofNat (f.aim ns n)).toNat = k * f.tcb.m_segmentSize.toNat := by
    rw [UInt32.toNat_ofNat', Nat.mod_eq_of_lt hsmall, haim]
  exact getSsThresh_le_iff { f.tcb.toSocketState with m_cWnd := UInt32.ofNat (f.aim ns n) } hseg hk
    hwnd htwo 0

theorem segmentSize_pos (h : 1 ≤ f.tcb.getCwndInSegments) : 0 < f.tcb.m_segmentSize := by
  rw [UInt32.le_iff_toNat_le, segments_toNat] at h
  rw [UInt32.lt_iff_toNat_lt]
  apply Nat.pos_of_ne_zero
  intro hzero
  rw [hzero, Nat.div_zero] at h
  exact absurd h (by decide)

theorem two_segments_lt (h : 2 ≤ f.tcb.getCwndInSegments.toNat) :
    2 * f.tcb.m_segmentSize.toNat < 2 ^ 32 :=
  calc 2 * f.tcb.m_segmentSize.toNat
      ≤ f.tcb.getCwndInSegments.toNat * f.tcb.m_segmentSize.toNat := Nat.mul_le_mul_right _ h
    _ ≤ f.tcb.m_cWnd.toNat := segments_mul_le f
    _ < 2 ^ 32 := f.tcb.m_cWnd.toNat_lt

theorem leaveSlowStart_cWnd_le (hbound : ns.TargetInWindow) (h : f.Reached ns) (hadj : f.Adjusts ns)
    (hway : f.adjustment ns = .leaveSlowStart) :
    (f.increaseWindow ns n).tcb.m_cWnd ≤ f.tcb.m_cWnd := by
  have hlt := target_lt_of_diff hbound h (adjustment_leaveSlowStart_iff.1 hway).1
  rw [UInt32.le_iff_toNat_le, adjusted_cWnd_toNat hbound h hadj n]
  calc f.aim ns n % 2 ^ 32 ≤ f.aim ns n := Nat.mod_le _ _
    _ = ((f.target ns).toNat + 1) * f.tcb.m_segmentSize.toNat := aim_leaveSlowStart ns n hway
    _ ≤ f.tcb.getCwndInSegments.toNat * f.tcb.m_segmentSize.toNat :=
      Nat.mul_le_mul_right _ (by omega)
    _ ≤ f.tcb.m_cWnd.toNat := segments_mul_le f

end Threshold

/-- With the default thresholds and an exact ratio, an adjustment that goes too fast in slow start ends
it exactly if the RTT has not grown by a factor of more than the window; a step down never leads back
to it. -/
theorem ends_slow_start_iff (hexact : ns.ExactRatio) (f : Flow ρ) (h : f.Reached ns)
    (hadj : f.Adjusts ns) (hbeta : f.cc.m_beta = 4) (hgamma : f.cc.m_gamma = 1)
    (hseg : 1 ≤ f.tcb.getCwndInSegments) (n : UInt32) :
    f.EndsSlowStart ns n ↔ (f.tcb.m_cWnd < f.tcb.m_ssThresh → f.diff ns > 1 →
      f.cc.m_minRtt ≤ f.tcb.getCwndInSegments.toNat * f.cc.m_baseRtt) := by
  have hbound := hexact.targetInWindow
  have hone : (1 : UInt32).toNat = 1 := rfl
  have hfour : (4 : UInt32).toNat = 4 := rfl
  have hpos := segmentSize_pos hseg
  have hfast : f.tcb.m_cWnd < f.tcb.m_ssThresh → f.diff ns > 1 →
      ((f.increaseWindow ns n).tcb.m_ssThresh ≤ (f.increaseWindow ns n).tcb.m_cWnd ↔
        0 < (f.target ns).toNat) := by
    intro hslow hdiff
    have hway := adjustment_leaveSlowStart_iff.2 ⟨hgamma ▸ hdiff, hslow⟩
    have hlt := target_lt_of_diff hbound h hdiff
    rw [reduced_le_iff hbound h hadj (Or.inl hway) (Nat.le_add_left 1 (f.target ns).toNat) hpos
      (two_segments_lt (by omega)) (aim_leaveSlowStart ns n hway)]
    omega
  have hdown : f.tcb.m_ssThresh ≤ f.tcb.m_cWnd → f.diff ns > 4 →
      (f.increaseWindow ns n).tcb.m_ssThresh ≤ (f.increaseWindow ns n).tcb.m_cWnd := by
    intro hlin hdiff
    have hway := adjustment_slowDown_iff.2 ⟨hlin, hbeta ▸ hdiff⟩
    have hlt := target_lt_of_diff hbound h hdiff
    rw [reduced_le_iff hbound h hadj (Or.inr hway) (by omega) hpos (two_segments_lt (by omega))
      (aim_slowDown ns n hway)]
    omega
  rw [← target_pos_iff hexact h]
  refine ⟨fun hends hslow hdiff => ?_, fun hcond => ⟨fun hslow hdiff => ?_, fun hlin hdiff => ?_⟩⟩
  · exact (hfast hslow hdiff).1 (hends.fast hslow (hgamma ▸ hdiff)).2
  · have hway := adjustment_leaveSlowStart_iff.2 ⟨hdiff, hslow⟩
    rw [hgamma] at hdiff
    exact ⟨leaveSlowStart_cWnd_le hbound h hadj hway, (hfast hslow hdiff).2 (hcond hslow hdiff)⟩
  · rw [hbeta] at hdiff
    exact hdown hlin hdiff

/-- The RTT of a flow of three segments has grown tenfold: the window is cut to one segment, and the
threshold to two. -/
theorem slow_start_not_left :
    let f := Flow.delayed
      { m_cWnd := 1500, m_ssThresh := 65535, m_segmentSize := 500, lastCwnd := 0 } 2 4 1 1000
    f.Reached Ns3.classic ∧ f.Adjusts Ns3.classic ∧ 1 ≤ f.tcb.getCwndInSegments ∧
      ¬ f.EndsSlowStart Ns3.classic 1 := by
  refine ⟨delayed_reached _ 2 4 1 1000, by decide, by decide, fun hends => ?_⟩
  have hout := hends.fast (by decide) (by decide)
  exact absurd hout.2 (by decide)

/-- Twenty segments and an RTT twice the least one: slow start ends. -/
theorem ends_slow_start_twenty :
    (Flow.delayed twentySegments.tcb 2 4 1 200).EndsSlowStart Ns3.classic 1 :=
  (ends_slow_start_iff Ns3.classic classic_exactRatio _ (delayed_reached ..) (by decide) rfl rfl
    (by decide) 1).2 fun _ _ => by decide

section Steps
variable {ns} {f : Flow ρ} {n : UInt32}

/-- A step down drops the part of a segment that the window has beside its whole ones. -/
theorem step_down_iff {k r z w : ℕ} (hk : 1 ≤ k) (hw : k * z + r = w) :
    |(((k - 1) * z : ℕ) : ℤ) - w| ≤ z ↔ r = 0 := by
  obtain ⟨j, rfl⟩ : ∃ j, k = j + 1 := ⟨k - 1, by omega⟩
  rw [← hw, Nat.add_sub_cancel, abs_le, Nat.succ_mul]
  omega

theorem step_up {k r z w : ℕ} (hr : r < z) (hw : k * z + r = w) :
    |(((k + 1) * z : ℕ) : ℤ) - w| ≤ z := by
  rw [← hw, abs_le, Nat.succ_mul]
  omega

theorem segments_add_mod (f : Flow ρ) :
    f.tcb.getCwndInSegments.toNat * f.tcb.m_segmentSize.toNat +
      f.tcb.m_cWnd.toNat % f.tcb.m_segmentSize.toNat = f.tcb.m_cWnd.toNat := by
  rw [segments_toNat, mul_comm, Nat.div_add_mod]

/-- Above `Beta` the window goes down, by a segment at most if it has no part of one. -/
theorem stepsLinearly_slowDown_iff (hbound : ns.TargetInWindow) (h : f.Reached ns)
    (hadj : f.Adjusts ns) (hseg : 0 < f.tcb.m_segmentSize) (hab : f.cc.m_alpha ≤ f.cc.m_beta)
    (hway : f.adjustment ns = .slowDown) :
    f.StepsLinearly ns n ↔ f.tcb.m_segmentSize.toNat ∣ f.tcb.m_cWnd.toNat := by
  have hbeta := (adjustment_slowDown_iff.1 hway).2
  have hup : ¬ f.diff ns < f.cc.m_alpha := by
    rw [UInt32.not_lt]
    exact UInt32.le_trans hab (UInt32.le_of_lt hbeta)
  have hk := one_le_of_slowDown hbound h hway
  have hsmall := aim_lt hbound h n (by rw [hway]; decide)
  have hset := adjusted_cWnd_toNat hbound h hadj n
  rw [Nat.mod_eq_of_lt hsmall, aim_slowDown ns n hway] at hset
  have hlt : (f.increaseWindow ns n).tcb.m_cWnd < f.tcb.m_cWnd := by
    rw [UInt32.lt_iff_toNat_lt, hset]
    calc (f.tcb.getCwndInSegments.toNat - 1) * f.tcb.m_segmentSize.toNat
        < f.tcb.getCwndInSegments.toNat * f.tcb.m_segmentSize.toNat :=
          Nat.mul_lt_mul_of_pos_right (by omega) (UInt32.lt_iff_toNat_lt.1 hseg)
      _ ≤ f.tcb.m_cWnd.toNat := segments_mul_le f
  have hsmaller : |((f.increaseWindow ns n).tcb.m_cWnd.toNat : ℤ) - f.tcb.m_cWnd.toNat| ≤
      f.tcb.m_segmentSize.toNat ↔ f.tcb.m_segmentSize.toNat ∣ f.tcb.m_cWnd.toNat := by
    rw [hset, Nat.dvd_iff_mod_eq_zero]
    exact step_down_iff hk (segments_add_mod f)
  refine ⟨fun hsteps => hsmaller.1 hsteps.small, fun hdvd => ⟨?_, ?_, hsmaller.2 hdvd⟩⟩
  · exact iff_of_true hlt hbeta
  · exact iff_of_false (UInt32.lt_asymm hlt) hup

theorem stepsLinearly_speedUp (hbound : ns.TargetInWindow) (h : f.Reached ns)
    (hadj : f.Adjusts ns) (hseg : 0 < f.tcb.m_segmentSize)
    (hfits : (f.tcb.getCwndInSegments.toNat + 1) * f.tcb.m_segmentSize.toNat < 2 ^ 32)
    (hway : f.adjustment ns = .speedUp) : f.StepsLinearly ns n := by
  obtain ⟨-, hbeta, halpha⟩ := adjustment_speedUp_iff.1 hway
  have hset := adjusted_cWnd_toNat hbound h hadj n
  rw [aim_speedUp ns n hway, Nat.mod_eq_of_lt hfits] at hset
  have hlt : f.tcb.m_cWnd < (f.increaseWindow ns n).tcb.m_cWnd := by
    rw [UInt32.lt_iff_toNat_lt, hset]
    exact lt_succ_segments_mul hseg
  constructor
  · exact iff_of_false (UInt32.lt_asymm hlt) hbeta
  · exact iff_of_true hlt halpha
  · rw [hset]
    exact step_up (Nat.mod_lt _ (UInt32.lt_iff_toNat_lt.1 hseg)) (segments_add_mod f)

theorem stepsLinearly_rightSpeed (hbound : ns.TargetInWindow) (h : f.Reached ns)
    (hadj : f.Adjusts ns) (hway : f.adjustment ns = .rightSpeed) : f.StepsLinearly ns n := by
  obtain ⟨-, hbeta, halpha⟩ := adjustment_rightSpeed_iff.1 hway
  have hset := adjusted_cWnd_toNat hbound h hadj n
  rw [aim_rightSpeed ns n hway, Nat.mod_eq_of_lt f.tcb.m_cWnd.toNat_lt] at hset
  have hkept : (f.increaseWindow ns n).tcb.m_cWnd = f.tcb.m_cWnd := UInt32.toNat_inj.1 hset
  constructor
  · rw [hkept]
    exact iff_of_false (UInt32.lt_irrefl _) hbeta
  · rw [hkept]
    exact iff_of_false (UInt32.lt_irrefl _) halpha
  · rw [hkept, sub_self, abs_zero]
    exact Nat.cast_nonneg _

end Steps

/-- In linear mode, with `Alpha` not above `Beta`, an adjustment is a step of a segment at most in the
right direction, exactly if it does not step down from a window with a part of a segment. -/
theorem steps_linearly_iff (hbound : ns.TargetInWindow) (f : Flow ρ) (h : f.Reached ns)
    (hadj : f.Adjusts ns) (hlin : f.tcb.m_ssThresh ≤ f.tcb.m_cWnd) (hseg : 0 < f.tcb.m_segmentSize)
    (hab : f.cc.m_alpha ≤ f.cc.m_beta)
    (hfits : f.diff ns < f.cc.m_alpha →
      (f.tcb.getCwndInSegments.toNat + 1) * f.tcb.m_segmentSize.toNat < 2 ^ 32)
    (n : UInt32) :
    f.StepsLinearly ns n ↔ (f.diff ns > f.cc.m_beta →
      f.tcb.m_segmentSize.toNat ∣ f.tcb.m_cWnd.toNat) := by
  by_cases hbeta : f.diff ns > f.cc.m_beta
  · have hway := adjustment_slowDown_iff.2 ⟨hlin, hbeta⟩
    rw [stepsLinearly_slowDown_iff hbound h hadj hseg hab hway]
    exact ⟨fun hdvd _ => hdvd, fun hcond => hcond hbeta⟩
  refine iff_of_true ?_ fun hgt => absurd hgt hbeta
  by_cases halpha : f.diff ns < f.cc.m_alpha
  · have hway := adjustment_speedUp_iff.2 ⟨hlin, hbeta, halpha⟩
    exact stepsLinearly_speedUp hbound h hadj hseg (hfits halpha) hway
  · have hway := adjustment_rightSpeed_iff.2 ⟨hlin, hbeta, halpha⟩
    exact stepsLinearly_rightSpeed hbound h hadj hway

/-- Twenty whole segments: one is taken. -/
theorem steps_linearly_twenty :
    (Flow.delayed { twentySegments.tcb with m_ssThresh := 5000 } 2 4 1 200).StepsLinearly
      Ns3.classic 1 := by
  refine (steps_linearly_iff Ns3.classic classic_targetInWindow _ (delayed_reached ..) (by decide)
    (by decide) (by decide) (by decide) (fun _ => by decide) 1).2 fun _ => ?_
  exact ⟨20, by decide⟩

/-- Nineteen segments and 499 bytes: a step down takes 999 bytes. -/
theorem step_down_too_far :
    let f := Flow.delayed
      { m_cWnd := 9999, m_ssThresh := 5000, m_segmentSize := 500, lastCwnd := 0 } 2 4 1 200
    f.Reached Ns3.classic ∧ f.Adjusts Ns3.classic ∧ f.tcb.m_ssThresh ≤ f.tcb.m_cWnd ∧
      f.cc.m_alpha ≤ f.cc.m_beta ∧ ¬ f.StepsLinearly Ns3.classic 1 := by
  refine ⟨delayed_reached _ 2 4 1 200, by decide, by decide, by decide, fun hsteps => ?_⟩
  exact absurd hsteps.small (by decide)

end NetSessional.Vegas
