import NetSessional.Vegas.Adjustment

/-! Whether `IncreaseWindow` leaves a segment in the window, and whether its products fit 32 bits. -/

namespace NetSessional.Vegas
open Runs

variable {ρ : Type} (ns : Ns3 ρ)

namespace Flow

/-- The operands of `segCwnd--`, and of `m_cWnd - m_segmentSize` in `GetSsThresh`, where the
adjustment comes to them. -/
def subtractions (f : Flow ρ) : List (UInt32 × UInt32) :=
  let segCwnd := f.tcb.getCwndInSegments
  let segmentSize := f.tcb.m_segmentSize
  if ¬ f.Adjusts ns then []
  else
    match f.adjustment ns with
    | .leaveSlowStart => [(stdMin segCwnd (f.target ns + 1) * segmentSize, segmentSize)]
    | .slowDown => [(segCwnd, 1), ((segCwnd - 1) * segmentSize, segmentSize)]
    | _ => []

/-- `IncreaseWindow` leaves a segment in the window, and none of its subtractions wraps. -/
structure KeepsSegment (f : Flow ρ) (segmentsAcked : UInt32) : Prop where
  floor : f.tcb.m_segmentSize ≤ (f.increaseWindow ns segmentsAcked).tcb.m_cWnd
  exact : ∀ p ∈ f.subtractions ns, p.2 ≤ p.1

/-- The operands of `segCwnd * m_segmentSize`, and of `3 * m_cWnd` in the last assignment. -/
def products (f : Flow ρ) (segmentsAcked : UInt32) : List (UInt32 × UInt32) :=
  let segCwnd := f.tcb.getCwndInSegments
  let segmentSize := f.tcb.m_segmentSize
  let window :=
    match f.adjustment ns with
    | .leaveSlowStart => [(stdMin segCwnd (f.target ns + 1), segmentSize)]
    | .slowDown => [(segCwnd - 1, segmentSize)]
    | .speedUp => [(segCwnd + 1, segmentSize)]
    | _ => []
  if f.Adjusts ns then window ++ [(3, (f.increaseWindow ns segmentsAcked).tcb.m_cWnd)] else []

/-- The adjustment sets the window it aims at, keeps the threshold at three quarters of it or more,
and none of its products wraps. -/
structure ProductsExact (f : Flow ρ) (segmentsAcked : UInt32) : Prop where
  window : (f.increaseWindow ns segmentsAcked).tcb.m_cWnd.toNat = f.aim ns segmentsAcked
  threshold : 3 * (f.increaseWindow ns segmentsAcked).tcb.m_cWnd.toNat / 4 ≤
    (f.increaseWindow ns segmentsAcked).tcb.m_ssThresh.toNat
  exact : ∀ p ∈ f.products ns segmentsAcked, p.1.toNat * p.2.toNat < 2 ^ 32

/-- An adjustment in linear mode that takes the only segment, or adds one that does not fit 32
bits. -/
def LosesSegment (f : Flow ρ) : Prop :=
  f.Adjusts ns ∧ f.tcb.m_ssThresh ≤ f.tcb.m_cWnd ∧
    (f.cc.m_beta = 0 ∧ f.tcb.getCwndInSegments = 1 ∧ f.target ns = 0 ∨
      ¬ f.diff ns > f.cc.m_beta ∧ f.diff ns < f.cc.m_alpha ∧
        2 ^ 32 ≤ (f.tcb.getCwndInSegments.toNat + 1) * f.tcb.m_segmentSize.toNat)

end Flow

section Floor
variable {ns} {f : Flow ρ} {n : UInt32}

theorem le_increaseWindow (hnot : ¬ f.Adjusts ns)
    (hreno : f.tcb.m_cWnd ≤ (f.tcb.newRenoIncreaseWindow ns n).m_cWnd)
    (hslow : f.tcb.m_cWnd ≤ (f.tcb.newRenoSlowStart ns n).m_cWnd) :
    f.tcb.m_cWnd ≤ (f.increaseWindow ns n).tcb.m_cWnd := by
  unfold Flow.increaseWindow
  split_ifs with hvegas
  · exact hreno
  · have hdoing : f.cc.m_doingVegasNow = true ∧ f.tcb.mode ≠ .AGGRESIVE := by simpa using hvegas
    change f.tcb.m_cWnd ≤ (f.sender.vegasIncreaseWindow ns n).tcb.m_cWnd
    unfold Sender.vegasIncreaseWindow
    by_cases hend : ns.seqGe f.sender.tcb.m_lastAckedSeq f.sender.cc.m_begSndNxt
    · by_cases hfew : f.sender.cc.m_cntRtt ≤ 2
      · rw [if_pos hend]
        simp only [if_pos hfew]
        exact hreno
      · exact absurd ⟨⟨hdoing.1, hdoing.2, hend⟩, UInt32.not_le.1 hfew⟩ hnot
    · rw [if_neg hend]
      split_ifs
      · exact hslow
      · exact UInt32.le_refl _

theorem subtractions_eq (hbound : ns.TargetInWindow) (h : f.Reached ns) (hadj : f.Adjusts ns) :
    f.subtractions ns =
      match f.adjustment ns with
      | .leaveSlowStart => [(UInt32.ofNat (f.aim ns n), f.tcb.m_segmentSize)]
      | .slowDown =>
        [(f.tcb.getCwndInSegments, 1), (UInt32.ofNat (f.aim ns n), f.tcb.m_segmentSize)]
      | _ => [] := by
  unfold Flow.subtractions
  simp only [if_neg (not_not.2 hadj)]
  cases hway : f.adjustment ns with
  | leaveSlowStart =>
    have hseg := leaveSlowStart_segments hbound h hway
    simp only [hseg, aim_leaveSlowStart ns n hway, UInt32.ofNat_mul, UInt32.ofNat_toNat]
  | slowDown =>
    simp only [pred_segments hbound h hway, aim_slowDown ns n hway, UInt32.ofNat_mul,
      UInt32.ofNat_toNat]
  | _ => rfl

theorem one_le_segments (hseg : 0 < f.tcb.m_segmentSize)
    (hwnd : f.tcb.m_segmentSize ≤ f.tcb.m_cWnd) : 1 ≤ f.tcb.getCwndInSegments.toNat := by
  rw [segments_toNat]
  exact Nat.div_pos (UInt32.le_iff_toNat_le.1 hwnd) (UInt32.lt_iff_toNat_lt.1 hseg)

theorem keepsSegment_iff_floor (hbound : ns.TargetInWindow) (h : f.Reached ns)
    (hseg : 0 < f.tcb.m_segmentSize) (hwnd : f.tcb.m_segmentSize ≤ f.tcb.m_cWnd) :
    f.KeepsSegment ns n ↔ f.tcb.m_segmentSize ≤ (f.increaseWindow ns n).tcb.m_cWnd := by
  refine ⟨fun hkeep => hkeep.floor, fun hfloor => ⟨hfloor, ?_⟩⟩
  by_cases hadj : f.Adjusts ns
  · have hset : (f.increaseWindow ns n).tcb.m_cWnd = UInt32.ofNat (f.aim ns n) :=
      congrArg SocketState.m_cWnd (adjusted hbound h hadj n)
    rw [hset] at hfloor
    rw [subtractions_eq hbound h hadj (n := n)]
    cases f.adjustment ns with
    | leaveSlowStart => simpa using hfloor
    | slowDown =>
      have hone : (1 : UInt32) ≤ f.tcb.getCwndInSegments :=
        UInt32.le_iff_toNat_le.2 (one_le_segments hseg hwnd)
      simpa using ⟨hone, hfloor⟩
    | _ => simp
  · simp [Flow.subtractions, hadj]

theorem takes_last_iff (hbound : ns.TargetInWindow) (h : f.Reached ns)
    (hone : f.tcb.getCwndInSegments.toNat = 1) :
    f.diff ns > f.cc.m_beta ↔ f.cc.m_beta = 0 ∧ f.target ns = 0 := by
  have hdiff := diff_toNat hbound h
  have hzero : (0 : UInt32).toNat = 0 := rfl
  rw [gt_iff_lt, UInt32.lt_iff_toNat_lt, ← UInt32.toNat_inj, ← UInt32.toNat_inj, hzero]
  omega

theorem le_pred_mul_iff {k z : ℕ} (hz : 0 < z) (hk : 1 ≤ k) : z ≤ (k - 1) * z ↔ k ≠ 1 := by
  rcases hk.eq_or_lt with rfl | hlt
  · simpa using hz.ne'
  · have hle : z ≤ (k - 1) * z := Nat.le_mul_of_pos_left z (by omega)
    exact iff_of_true hle (by omega)

theorem le_succ_mul_mod_iff {k z : ℕ} (hz : 0 < z) (hlt : k * z < 2 ^ 32) :
    z ≤ (k + 1) * z % 2 ^ 32 ↔ ¬ 2 ^ 32 ≤ (k + 1) * z := by
  rw [Nat.succ_mul]
  by_cases hfits : 2 ^ 32 ≤ k * z + z
  · by_cases hbig : 2 ^ 32 ≤ z
    · omega
    · rw [Nat.mod_eq_sub_mod hfits, Nat.mod_eq_of_lt (by omega)]
      omega
  · rw [Nat.mod_eq_of_lt (by omega)]
    omega

/-- The window after an adjustment has a segment unless the adjustment takes the only one, or adds
one that does not fit. -/
theorem floor_adjusted_iff (hbound : ns.TargetInWindow) (h : f.Reached ns) (hadj : f.Adjusts ns)
    (hseg : 0 < f.tcb.m_segmentSize) (hwnd : f.tcb.m_segmentSize ≤ f.tcb.m_cWnd)
    (hslow : f.tcb.m_cWnd ≤ (f.tcb.newRenoSlowStart ns n).m_cWnd) :
    f.tcb.m_segmentSize ≤ (f.increaseWindow ns n).tcb.m_cWnd ↔
      (f.adjustment ns = .slowDown → f.tcb.getCwndInSegments.toNat ≠ 1) ∧
        (f.adjustment ns = .speedUp →
          ¬ 2 ^ 32 ≤ (f.tcb.getCwndInSegments.toNat + 1) * f.tcb.m_segmentSize.toNat) := by
  have hsmall := aim_lt hbound h n
  have hz : 0 < f.tcb.m_segmentSize.toNat := UInt32.lt_iff_toNat_lt.1 hseg
  rw [UInt32.le_iff_toNat_le] at hslow
  rw [UInt32.le_iff_toNat_le, adjusted_cWnd_toNat hbound h hadj n]
  cases hway : f.adjustment ns with
  | leaveSlowStart =>
    rw [Nat.mod_eq_of_lt (hsmall (by rw [hway]; decide)), aim_leaveSlowStart ns n hway]
    simpa using Nat.le_mul_of_pos_left f.tcb.m_segmentSize.toNat (Nat.succ_pos (f.target ns).toNat)
  | slowStart =>
    rw [Nat.mod_eq_of_lt (hsmall (by rw [hway]; decide)), aim_slowStart ns n hway]
    simpa using (UInt32.le_iff_toNat_le.1 hwnd).trans hslow
  | slowDown =>
    rw [Nat.mod_eq_of_lt (hsmall (by rw [hway]; decide)), aim_slowDown ns n hway,
      le_pred_mul_iff hz (one_le_segments hseg hwnd)]
    simp
  | speedUp =>
    have hmul := (segments_mul_le f).trans_lt f.tcb.m_cWnd.toNat_lt
    rw [aim_speedUp ns n hway, le_succ_mul_mod_iff hz hmul]
    simp
  | rightSpeed =>
    rw [Nat.mod_eq_of_lt (hsmall (by rw [hway]; decide)), aim_rightSpeed ns n hway]
    simpa using UInt32.le_iff_toNat_le.1 hwnd

end Floor

/-- In every state of a flow's life with a segment in the window, and for any thresholds, a call of
`IncreaseWindow` leaves a segment in the window, without a subtraction that wraps, exactly if it is no
adjustment that loses the segment. -/
theorem window_floor_iff (hbound : ns.TargetInWindow) (f : Flow ρ) (h : f.Reached ns) (n : UInt32)
    (hseg : 0 < f.tcb.m_segmentSize) (hwnd : f.tcb.m_segmentSize ≤ f.tcb.m_cWnd)
    (hreno : f.tcb.m_cWnd ≤ (f.tcb.newRenoIncreaseWindow ns n).m_cWnd)
    (hslow : f.tcb.m_cWnd ≤ (f.tcb.newRenoSlowStart ns n).m_cWnd) :
    f.KeepsSegment ns n ↔ ¬ f.LosesSegment ns := by
  rw [keepsSegment_iff_floor hbound h hseg hwnd]
  by_cases hadj : f.Adjusts ns
  · have hone : f.tcb.getCwndInSegments.toNat = 1 ↔ f.tcb.getCwndInSegments = 1 := by
      rw [← UInt32.toNat_inj]
      rfl
    rw [floor_adjusted_iff hbound h hadj hseg hwnd hslow, adjustment_slowDown_iff,
      adjustment_speedUp_iff]
    refine ⟨?_, fun hkeep => ⟨?_, ?_⟩⟩
    · rintro ⟨htake, hadd⟩ ⟨-, hlin, ⟨hbeta, hk, htarget⟩ | ⟨hge, hlt, hbig⟩⟩
      · exact htake ⟨hlin, (takes_last_iff hbound h (hone.2 hk)).2 ⟨hbeta, htarget⟩⟩ (hone.2 hk)
      · exact hadd ⟨hlin, hge, hlt⟩ hbig
    · rintro ⟨hlin, hdiff⟩ hk
      obtain ⟨hbeta, htarget⟩ := (takes_last_iff hbound h hk).1 hdiff
      exact hkeep ⟨hadj, hlin, Or.inl ⟨hbeta, hone.1 hk, htarget⟩⟩
    · rintro ⟨hlin, hge, hlt⟩ hbig
      exact hkeep ⟨hadj, hlin, Or.inr ⟨hge, hlt, hbig⟩⟩
  · refine iff_of_true ?_ fun hlose => hadj hlose.1
    exact UInt32.le_trans hwnd (le_increaseWindow hadj hreno hslow)

/-- A flow that has seen an RTT of 100, and in this cycle three of another one. -/
def Flow.delayed (tcb : TcpSocketState) (alpha beta gamma : UInt32) (rtt : ℕ) : Flow Unit :=
  run (Flow.live Ns3.classic) (.fresh tcb alpha beta gamma ())
    (.call (.pktsAcked 1 100) :: .call (.other (.congestionStateSet .CA_OPEN)) ::
      List.replicate 3 (.call (.pktsAcked 1 rtt)))

theorem delayed_reached (tcb : TcpSocketState) (alpha beta gamma : UInt32) (rtt : ℕ) :
    (Flow.delayed tcb alpha beta gamma rtt).Reached Ns3.classic :=
  ⟨tcb, alpha, beta, gamma, (), _, by simp [LifeEvent.IsSample], rfl⟩

/-- Twenty segments in slow start. -/
theorem window_floor_twenty : (Flow.delayed twentySegments.tcb 2 4 1 200).KeepsSegment Ns3.classic 1 :=
  (window_floor_iff Ns3.classic classic_targetInWindow _ (delayed_reached ..) 1 (by decide) (by decide)
    (by decide) (by decide)).2 fun hlose => absurd hlose.2.1 (by decide)

/-- One segment in linear mode, with `Beta` at zero: nothing is left of the window. -/
theorem last_segment_taken :
    let f := Flow.delayed { m_cWnd := 500, m_segmentSize := 500, lastCwnd := 0 } 0 0 1 200
    f.Reached Ns3.classic ∧ 0 < f.tcb.m_segmentSize ∧ f.tcb.m_segmentSize ≤ f.tcb.m_cWnd ∧
      (f.increaseWindow Ns3.classic 1).tcb.m_cWnd = 0 ∧ ¬ f.KeepsSegment Ns3.classic 1 := by
  refine ⟨delayed_reached _ 0 0 1 200, by decide, by decide, by decide, fun hkeep => ?_⟩
  exact absurd hkeep.floor (by decide)

section Products
variable {ns} {f : Flow ρ} {n : UInt32}

/-- No product of the adjustment, but the one for the threshold, is past the window aimed at. -/
theorem products_le (hbound : ns.TargetInWindow) (h : f.Reached ns) (hadj : f.Adjusts ns) :
    ∀ p ∈ f.products ns n, p = (3, (f.increaseWindow ns n).tcb.m_cWnd) ∨
      p.1.toNat * p.2.toNat ≤ f.aim ns n := by
  have hle : ∀ a : ℕ, (UInt32.ofNat a).toNat * f.tcb.m_segmentSize.toNat ≤
      a * f.tcb.m_segmentSize.toNat := by
    intro a
    rw [UInt32.toNat_ofNat']
    exact Nat.mul_le_mul_right _ (Nat.mod_le a _)
  intro p hp
  unfold Flow.products at hp
  simp only [if_pos hadj] at hp
  rcases List.mem_append.1 hp with hp | hp
  · right
    cases hway : f.adjustment ns with
    | leaveSlowStart =>
      have hseg := leaveSlowStart_segments hbound h hway
      simp only [hway, List.mem_singleton] at hp
      rw [hp, aim_leaveSlowStart ns n hway, hseg]
      exact hle _
    | slowStart => simp [hway] at hp
    | slowDown =>
      simp only [hway, List.mem_singleton] at hp
      rw [hp, pred_segments hbound h hway, aim_slowDown ns n hway]
      exact hle _
    | speedUp =>
      simp only [hway, List.mem_singleton] at hp
      rw [hp, succ_segments, aim_speedUp ns n hway]
      exact hle _
    | rightSpeed => simp [hway] at hp
  · exact Or.inl (List.mem_singleton.1 hp)

theorem threshold_mem_products (hadj : f.Adjusts ns) :
    (3, (f.increaseWindow ns n).tcb.m_cWnd) ∈ f.products ns n := by
  unfold Flow.products
  rw [if_pos hadj]
  exact List.mem_append_right _ (List.mem_singleton_self _)

end Products

/-- In every adjustment of a flow's life the window and the threshold are those of the arithmetic of
the integers, exactly if a third of 32 bits holds the window aimed at. -/
theorem products_exact_iff (hbound : ns.TargetInWindow) (f : Flow ρ) (h : f.Reached ns)
    (hadj : f.Adjusts ns) (n : UInt32) : f.ProductsExact ns n ↔ f.aim ns n ≤ 1431655765 := by
  have hthree : (3 : UInt32).toNat = 3 := rfl
  refine ⟨fun hp => ?_, fun hle => ?_⟩
  · have hprod := hp.exact _ (threshold_mem_products hadj)
    simp only [hp.window, hthree] at hprod
    omega
  · have hset : (f.increaseWindow ns n).tcb.m_cWnd = UInt32.ofNat (f.aim ns n) :=
      congrArg SocketState.m_cWnd (adjusted hbound h hadj n)
    have hwindow : (f.increaseWindow ns n).tcb.m_cWnd.toNat = f.aim ns n := by
      rw [adjusted_cWnd_toNat hbound h hadj n, Nat.mod_eq_of_lt (by omega)]
    refine ⟨hwindow, ?_, fun p hp => ?_⟩
    · have hquarters : (3 * (f.increaseWindow ns n).tcb.m_cWnd / 4).toNat =
          3 * (f.increaseWindow ns n).tcb.m_cWnd.toNat / 4 := by
        have hfour : (4 : UInt32).toNat = 4 := rfl
        rw [UInt32.toNat_div, UInt32.toNat_mul, hthree, hfour, hwindow,
          Nat.mod_eq_of_lt (by omega)]
      have hthr : (f.increaseWindow ns n).tcb.m_ssThresh =
          stdMax (f.threshold ns n) (3 * (f.increaseWindow ns n).tcb.m_cWnd / 4) := by
        rw [hset]
        exact congrArg SocketState.m_ssThresh (adjusted hbound h hadj n)
      rw [← hquarters, hthr, ← UInt32.le_iff_toNat_le]
      exact le_stdMax_right _ _
    · rcases products_le hbound h hadj p hp with rfl | hprod
      · simp only [hwindow, hthree]
        omega
      · omega

/-- Twenty segments, one of them new. -/
theorem products_exact_twenty :
    (Flow.delayed { twentySegments.tcb with m_ssThresh := 5000 } 30 40 1 200).ProductsExact
      Ns3.classic 1 :=
  (products_exact_iff Ns3.classic classic_targetInWindow _ (delayed_reached ..) (by decide) 1).2
    (by decide)

/-- A window of three billion bytes: the product for the threshold wraps. -/
theorem threshold_wraps :
    let f := Flow.delayed
      { m_cWnd := 3000000000, m_ssThresh := 1000, m_segmentSize := 1000, lastCwnd := 0 } 0
      3000000 1 200
    f.Reached Ns3.classic ∧ f.Adjusts Ns3.classic ∧ ¬ f.ProductsExact Ns3.classic 1 := by
  refine ⟨delayed_reached _ 0 3000000 1 200, by decide, fun hp => ?_⟩
  exact absurd hp.threshold (by decide)

end NetSessional.Vegas
