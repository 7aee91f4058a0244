import NetSessional.Vegas.Arithmetic

/-! The adjustment of the window at the end of a Vegas cycle, over the integers: which branch is taken,
and which window it aims at. -/

namespace NetSessional.Vegas
open Runs

variable {ρ : Type} (ns : Ns3 ρ)

/-- `targetCwnd` is computed without rounding, before it is cut to an integer. -/
def Ns3.ExactRatio : Prop :=
  ∀ (segCwnd : UInt32) (baseRtt minRtt : Time), 0 < baseRtt → baseRtt ≤ minRtt →
    ((ns.targetCwnd segCwnd baseRtt minRtt).toNat : ℤ) = exactTarget segCwnd baseRtt minRtt

theorem classic_exactRatio : Ns3.classic.ExactRatio := by
  intro segCwnd baseRtt minRtt hbase hle
  have hcast : ((segCwnd.toNat * baseRtt.toNat / minRtt.toNat : ℕ) : ℤ) =
      exactTarget segCwnd baseRtt minRtt := by
    rw [exactTarget_eq_div (hbase.trans_le hle)]
    push_cast
    rw [Int.toNat_of_nonneg hbase.le, Int.toNat_of_nonneg (hbase.le.trans hle)]
  have hsmall := segCwnd.toNat_lt
  have htarget : exactTarget segCwnd baseRtt minRtt ≤ segCwnd.toNat := exactTarget_le hbase hle
  change ((UInt32.ofNat (segCwnd.toNat * baseRtt.toNat / minRtt.toNat)).toNat : ℤ) = _
  rw [UInt32.toNat_ofNat_of_lt' (by rw [UInt32.size]; omega), hcast]

/-- With a least RTT that is not above the cycle's, `targetCwnd` is within the window, as the assertion
behind it says. Doubles keep to that: a quotient of at most one is not rounded past one. -/
def Ns3.TargetInWindow : Prop :=
  ∀ (segCwnd : UInt32) (baseRtt minRtt : Time), 0 < baseRtt → baseRtt ≤ minRtt →
    ns.targetCwnd segCwnd baseRtt minRtt ≤ segCwnd

theorem Ns3.ExactRatio.targetInWindow {ns : Ns3 ρ} (hexact : ns.ExactRatio) :
    ns.TargetInWindow := by
  intro segCwnd baseRtt minRtt hbase hle
  have htarget : exactTarget segCwnd baseRtt minRtt ≤ segCwnd.toNat := exactTarget_le hbase hle
  rw [← hexact segCwnd baseRtt minRtt hbase hle] at htarget
  exact UInt32.le_iff_toNat_le.2 (Int.ofNat_le.1 htarget)

theorem classic_targetInWindow : Ns3.classic.TargetInWindow := classic_exactRatio.targetInWindow

namespace Flow

/-- A state in the life of a flow of a new algorithm, with any attributes, whose samples were not
negative. -/
def Reached (f : Flow ρ) : Prop :=
  ∃ tcb alpha beta gamma recoveryOps evs,
    (∀ e ∈ evs, ∀ rtt, LifeEvent.IsSample e rtt → 0 ≤ rtt) ∧
      f = run (Flow.live ns) (.fresh tcb alpha beta gamma recoveryOps) evs

def target (f : Flow ρ) : UInt32 :=
  ns.targetCwnd f.tcb.getCwndInSegments f.cc.m_baseRtt f.cc.m_minRtt

def diff (f : Flow ρ) : UInt32 := f.tcb.getCwndInSegments - f.target ns

inductive Adjustment where
  | leaveSlowStart
  | slowStart
  | slowDown
  | speedUp
  | rightSpeed
  deriving DecidableEq

def adjustment (f : Flow ρ) : Adjustment :=
  if f.diff ns > f.cc.m_gamma ∧ f.tcb.m_cWnd < f.tcb.m_ssThresh then .leaveSlowStart
  else if f.tcb.m_cWnd < f.tcb.m_ssThresh then .slowStart
  else if f.diff ns > f.cc.m_beta then .slowDown
  else if f.diff ns < f.cc.m_alpha then .speedUp
  else .rightSpeed

def aim (f : Flow ρ) (segmentsAcked : UInt32) : ℕ :=
  match f.adjustment ns with
  | .leaveSlowStart => ((f.target ns).toNat + 1) * f.tcb.m_segmentSize.toNat
  | .slowStart => (f.tcb.newRenoSlowStart ns segmentsAcked).m_cWnd.toNat
  | .slowDown => (f.tcb.getCwndInSegments.toNat - 1) * f.tcb.m_segmentSize.toNat
  | .speedUp => (f.tcb.getCwndInSegments.toNat + 1) * f.tcb.m_segmentSize.toNat
  | .rightSpeed => f.tcb.m_cWnd.toNat

def threshold (f : Flow ρ) (segmentsAcked : UInt32) : UInt32 :=
  let reduced : SocketState :=
    { f.tcb.toSocketState with m_cWnd := UInt32.ofNat (f.aim ns segmentsAcked) }
  match f.adjustment ns with
  | .leaveSlowStart => reduced.getSsThresh 0
  | .slowStart => (f.tcb.newRenoSlowStart ns segmentsAcked).m_ssThresh
  | .slowDown => reduced.getSsThresh 0
  | .speedUp => f.tcb.m_ssThresh
  | .rightSpeed => f.tcb.m_ssThresh

end Flow

section Target
variable {ns} {f : Flow ρ}

theorem Flow.Reached.rttsOrdered (h : f.Reached ns) : RttsOrdered f.cc := by
  obtain ⟨tcb, alpha, beta, gamma, recoveryOps, evs, hevs, rfl⟩ := h
  exact rttsOrdered_run ns tcb alpha beta gamma recoveryOps hevs

theorem target_le (hbound : ns.TargetInWindow) (h : f.Reached ns) :
    (f.target ns).toNat ≤ f.tcb.getCwndInSegments.toNat :=
  UInt32.le_iff_toNat_le.1 (hbound _ _ _ h.rttsOrdered.base_pos h.rttsOrdered.base_le_min)

theorem diff_toNat (hbound : ns.TargetInWindow) (h : f.Reached ns) :
    (f.diff ns).toNat = f.tcb.getCwndInSegments.toNat - (f.target ns).toNat :=
  UInt32.toNat_sub_of_le _ _ (UInt32.le_iff_toNat_le.2 (target_le hbound h))

theorem target_lt_of_diff (hbound : ns.TargetInWindow) (h : f.Reached ns) {x : UInt32}
    (hdiff : f.diff ns > x) :
    (f.target ns).toNat + x.toNat < f.tcb.getCwndInSegments.toNat := by
  have htoNat := diff_toNat hbound h
  rw [gt_iff_lt, UInt32.lt_iff_toNat_lt] at hdiff
  omega

/-- With an exact ratio, the target is cut to nothing if the RTT has grown by a factor of more than
the window. -/
theorem target_pos_iff (hexact : ns.ExactRatio) (h : f.Reached ns) :
    0 < (f.target ns).toNat ↔
      f.cc.m_minRtt ≤ f.tcb.getCwndInSegments.toNat * f.cc.m_baseRtt := by
  have hbase := h.rttsOrdered.base_pos
  have hle := h.rttsOrdered.base_le_min
  have hmin : 0 < f.cc.m_minRtt := hbase.trans_le hle
  have htarget := hexact f.tcb.getCwndInSegments f.cc.m_baseRtt f.cc.m_minRtt hbase hle
  rw [exactTarget_eq_div hmin] at htarget
  rw [← Int.natCast_pos, Flow.target, htarget, Int.lt_iff_add_one_le, zero_add,
    Int.le_ediv_iff_mul_le hmin, one_mul]

end Target

section Branches
variable {ns} {f : Flow ρ}

theorem adjustment_leaveSlowStart_iff : f.adjustment ns = .leaveSlowStart ↔
    f.diff ns > f.cc.m_gamma ∧ f.tcb.m_cWnd < f.tcb.m_ssThresh := by
  unfold Flow.adjustment
  split_ifs with hfast <;> simp [hfast]

theorem adjustment_slowDown_iff : f.adjustment ns = .slowDown ↔
    f.tcb.m_ssThresh ≤ f.tcb.m_cWnd ∧ f.diff ns > f.cc.m_beta := by
  unfold Flow.adjustment
  rw [← UInt32.not_lt]
  split_ifs with hfast hslow hbeta halpha
  · simp [hfast.2]
  · simp [hslow]
  · simp [hslow, hbeta]
  · simp [hbeta]
  · simp [hbeta]

theorem adjustment_speedUp_iff : f.adjustment ns = .speedUp ↔
    f.tcb.m_ssThresh ≤ f.tcb.m_cWnd ∧ ¬ f.diff ns > f.cc.m_beta ∧ f.diff ns < f.cc.m_alpha := by
  unfold Flow.adjustment
  rw [← UInt32.not_lt]
  split_ifs with hfast hslow hbeta halpha
  · simp [hfast.2]
  · simp [hslow]
  · simp [hbeta]
  · simp [hslow, hbeta, halpha]
  · simp [halpha]

theorem adjustment_rightSpeed_iff : f.adjustment ns = .rightSpeed ↔
    f.tcb.m_ssThresh ≤ f.tcb.m_cWnd ∧ ¬ f.diff ns > f.cc.m_beta ∧ ¬ f.diff ns < f.cc.m_alpha := by
  unfold Flow.adjustment
  rw [← UInt32.not_lt]
  split_ifs with hfast hslow hbeta halpha
  · simp [hfast.2]
  · simp [hslow]
  · simp [hbeta]
  · simp [halpha]
  · simp [hslow, hbeta, halpha]

theorem segments_toNat (f : Flow ρ) : f.tcb.getCwndInSegments.toNat =
    f.tcb.m_cWnd.toNat / f.tcb.m_segmentSize.toNat := UInt32.toNat_div _ _

theorem segments_mul_le (f : Flow ρ) :
    f.tcb.getCwndInSegments.toNat * f.tcb.m_segmentSize.toNat ≤ f.tcb.m_cWnd.toNat := by
  rw [segments_toNat]
  exact Nat.div_mul_le_self _ _

theorem lt_succ_segments_mul (hseg : 0 < f.tcb.m_segmentSize) : f.tcb.m_cWnd.toNat <
    (f.tcb.getCwndInSegments.toNat + 1) * f.tcb.m_segmentSize.toNat := by
  rw [segments_toNat, mul_comm]
  exact Nat.lt_mul_div_succ _ (UInt32.lt_iff_toNat_lt.1 hseg)

end Branches

section Spec
variable {ns} {f : Flow ρ}

theorem branches_eq (f : Flow ρ) {α : Type} (a b c d e : α) :
    (let segCwnd := f.tcb.getCwndInSegments
     let diff := segCwnd - ns.targetCwnd segCwnd f.cc.m_baseRtt f.cc.m_minRtt
     if diff > f.cc.m_gamma ∧ f.tcb.m_cWnd < f.tcb.m_ssThresh then a
     else if f.tcb.m_cWnd < f.tcb.m_ssThresh then b
     else if diff > f.cc.m_beta then c
     else if diff < f.cc.m_alpha then d
     else e) =
      match f.adjustment ns with
      | .leaveSlowStart => a
      | .slowStart => b
      | .slowDown => c
      | .speedUp => d
      | .rightSpeed => e := by
  change (if f.diff ns > f.cc.m_gamma ∧ f.tcb.m_cWnd < f.tcb.m_ssThresh then a
    else if f.tcb.m_cWnd < f.tcb.m_ssThresh then b
    else if f.diff ns > f.cc.m_beta then c
    else if f.diff ns < f.cc.m_alpha then d
    else e) = _
  unfold Flow.adjustment
  split_ifs <;> rfl

/-- On the way out of slow start the target is below the window, so the minimum is the target's. -/
theorem leaveSlowStart_segments (hbound : ns.TargetInWindow) (h : f.Reached ns)
    (hway : f.adjustment ns = .leaveSlowStart) :
    stdMin f.tcb.getCwndInSegments (f.target ns + 1) = UInt32.ofNat ((f.target ns).toNat + 1) := by
  have hlt := target_lt_of_diff hbound h (adjustment_leaveSlowStart_iff.1 hway).1
  have hsmall := f.tcb.getCwndInSegments.toNat_lt
  have hsucc : f.target ns + 1 = UInt32.ofNat ((f.target ns).toNat + 1) := by
    rw [UInt32.ofNat_add, UInt32.ofNat_toNat]
    rfl
  rw [hsucc, stdMin]
  split_ifs with hcase
  · rfl
  · rw [UInt32.ofNat_lt_iff (by rw [UInt32.size]; omega)] at hcase
    have heq : (f.target ns).toNat + 1 = f.tcb.getCwndInSegments.toNat := by omega
    rw [heq, UInt32.ofNat_toNat]

theorem one_le_of_slowDown (hbound : ns.TargetInWindow) (h : f.Reached ns)
    (hway : f.adjustment ns = .slowDown) : 1 ≤ f.tcb.getCwndInSegments.toNat := by
  have hlt := target_lt_of_diff hbound h (adjustment_slowDown_iff.1 hway).2
  omega

theorem pred_segments (hbound : ns.TargetInWindow) (h : f.Reached ns)
    (hway : f.adjustment ns = .slowDown) :
    f.tcb.getCwndInSegments - 1 = UInt32.ofNat (f.tcb.getCwndInSegments.toNat - 1) := by
  rw [UInt32.ofNat_sub (one_le_of_slowDown hbound h hway), UInt32.ofNat_toNat]
  rfl

theorem succ_segments (f : Flow ρ) :
    f.tcb.getCwndInSegments + 1 = UInt32.ofNat (f.tcb.getCwndInSegments.toNat + 1) := by
  rw [UInt32.ofNat_add, UInt32.ofNat_toNat]
  rfl

/-- The spec of the adjustment: it sets the window it aims at, cut to 32 bits, raises the threshold to
three quarters of it, and leaves everything else alone. -/
theorem adjusted (hbound : ns.TargetInWindow) (h : f.Reached ns) (hadj : f.Adjusts ns) (n : UInt32) :
    (f.increaseWindow ns n).tcb.toSocketState =
      { f.tcb.toSocketState with
        m_cWnd := UInt32.ofNat (f.aim ns n)
        m_ssThresh := stdMax (f.threshold ns n) (3 * UInt32.ofNat (f.aim ns n) / 4) } := by
  have hbranches := increaseWindow_adjusts ns hadj n
  unfold Sender.adjustWindow at hbranches
  rw [hbranches]
  dsimp only [Flow.sender_tcb]
  rw [branches_eq]
  unfold Flow.threshold Flow.aim
  cases hway : f.adjustment ns with
  | leaveSlowStart =>
    have hseg := leaveSlowStart_segments hbound h hway
    rw [Flow.target] at hseg ⊢
    simp only [hseg, UInt32.ofNat_mul, UInt32.ofNat_toNat]
  | slowStart =>
    simp only [UInt32.ofNat_toNat]
    rfl
  | slowDown => simp only [pred_segments hbound h hway, UInt32.ofNat_mul, UInt32.ofNat_toNat]
  | speedUp => simp only [succ_segments, UInt32.ofNat_mul, UInt32.ofNat_toNat]
  | rightSpeed => simp only [UInt32.ofNat_toNat]

section Aim
variable (ns) (n : UInt32)

theorem aim_leaveSlowStart (hway : f.adjustment ns = .leaveSlowStart) :
    f.aim ns n = ((f.target ns).toNat + 1) * f.tcb.m_segmentSize.toNat := by
  rw [Flow.aim, hway]

theorem aim_slowStart (hway : f.adjustment ns = .slowStart) :
    f.aim ns n = (f.tcb.newRenoSlowStart ns n).m_cWnd.toNat := by
  rw [Flow.aim, hway]

theorem aim_slowDown (hway : f.adjustment ns = .slowDown) :
    f.aim ns n = (f.tcb.getCwndInSegments.toNat - 1) * f.tcb.m_segmentSize.toNat := by
  rw [Flow.aim, hway]

theorem aim_speedUp (hway : f.adjustment ns = .speedUp) :
    f.aim ns n = (f.tcb.getCwndInSegments.toNat + 1) * f.tcb.m_segmentSize.toNat := by
  rw [Flow.aim, hway]

theorem aim_rightSpeed (hway : f.adjustment ns = .rightSpeed) :
    f.aim ns n = f.tcb.m_cWnd.toNat := by
  rw [Flow.aim, hway]

end Aim

theorem aim_lt (hbound : ns.TargetInWindow) (h : f.Reached ns) (n : UInt32) (hne : f.adjustment ns ≠ .speedUp) :
    f.aim ns n < 2 ^ 32 := by
  have hwnd := f.tcb.m_cWnd.toNat_lt
  have hmul := segments_mul_le f
  have hcut : ∀ k ≤ f.tcb.getCwndInSegments.toNat, k * f.tcb.m_segmentSize.toNat < 2 ^ 32 := by
    intro k hk
    have := Nat.mul_le_mul_right f.tcb.m_segmentSize.toNat hk
    omega
  cases hway : f.adjustment ns with
  | leaveSlowStart =>
    have hlt := target_lt_of_diff hbound h (adjustment_leaveSlowStart_iff.1 hway).1
    rw [aim_leaveSlowStart ns n hway]
    exact hcut _ (by omega)
  | slowStart =>
    rw [aim_slowStart ns n hway]
    exact UInt32.toNat_lt _
  | slowDown =>
    rw [aim_slowDown ns n hway]
    exact hcut _ (by omega)
  | speedUp => exact absurd hway hne
  | rightSpeed =>
    rw [aim_rightSpeed ns n hway]
    exact hwnd

theorem adjusted_cWnd_toNat (hbound : ns.TargetInWindow) (h : f.Reached ns) (hadj : f.Adjusts ns)
    (n : UInt32) : (f.increaseWindow ns n).tcb.m_cWnd.toNat = f.aim ns n % 2 ^ 32 := by
  rw [adjusted hbound h hadj n]
  exact UInt32.toNat_ofNat'

end Spec

end NetSessional.Vegas
