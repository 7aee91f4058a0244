import NetSessional.Vegas.Flow

/-! Aggressive mode against NewReno: growth is the same, the loss reaction is not. The threshold
`TcpVegas::GetSsThresh` computes does not depend on the data in flight, whatever the mode. -/

namespace NetSessional.Vegas
open Runs

variable {ρ : Type} (ns : Ns3 ρ)

def SocketState.renoSsThresh (tcb : SocketState) (bytesInFlight : UInt32) : UInt32 :=
  stdMax (2 * tcb.m_segmentSize) (bytesInFlight / 2)

/-! The same socket with `TcpNewReno`, which ignores samples and congestion states; the Vegas object
lies idle. -/

namespace Reno

def enterRecovery (s : Sender ρ) (r : Reduction) : Sender ρ :=
  let s := { s with tcb := { s.tcb with m_congState := .CA_RECOVERY } }
  let s := { s with tcb := { s.tcb with m_ssThresh := s.tcb.renoSsThresh r.bytesInFlight } }
  s.beginRecovery ns r

def reTxTimeout (s : Sender ρ) (inFlightBeforeRto : UInt32) (isHeadRetransmitted : Bool) :
    Sender ρ :=
  let s :=
    if s.tcb.m_congState ≠ .CA_LOSS ∨ !isHeadRetransmitted then
      { s with tcb := { s.tcb with m_ssThresh := s.tcb.renoSsThresh inFlightBeforeRto } }
    else s
  { s with tcb := { s.tcb with
    m_congState := .CA_LOSS, m_cWnd := s.tcb.m_segmentSize, m_cWndInfl := s.tcb.m_segmentSize } }

def enterCwr (s : Sender ρ) (r : Reduction) : Sender ρ :=
  let ssThresh := s.tcb.renoSsThresh r.bytesInFlight
  let s := { s with tcb := { s.tcb with
    m_ssThresh := ssThresh, m_cWndInfl := ssThresh, m_congState := .CA_CWR } }
  s.beginRecovery ns r

def step (s : Sender ρ) : Call → Sender ρ
  | .pktsAcked _ _ => s
  | .increaseWindow segmentsAcked =>
    { s with tcb := s.tcb.newRenoIncreaseWindow ns segmentsAcked }
  | .enterRecovery r => enterRecovery ns s r
  | .reTxTimeout inFlightBeforeRto isHeadRetransmitted =>
    reTxTimeout s inFlightBeforeRto isHeadRetransmitted
  | .other (.congestionStateSet _) => s
  | .other (.enterCwr r) => enterCwr ns s r
  | .other op => s.perform ns op

end Reno

def Call.Growth : Call → Prop
  | .pktsAcked _ _ => True
  | .increaseWindow _ => True
  | .enterRecovery _ => False
  | .reTxTimeout _ _ => False
  | .other op => ∀ r, op ≠ .enterCwr r

inductive LossReaction where
  | enterRecovery (r : Reduction)
  | reTxTimeout (inFlightBeforeRto : UInt32) (isHeadRetransmitted : Bool)

def LossReaction.call : LossReaction → Call
  | .enterRecovery r => .enterRecovery r
  | .reTxTimeout inFlightBeforeRto isHeadRetransmitted =>
    .reTxTimeout inFlightBeforeRto isHeadRetransmitted

/-- An aggressive flow, its growth, and the loss reaction that ends it. -/
structure AggressivePhase (ρ : Type) where
  flow : Flow ρ
  aggressive : flow.tcb.mode = .AGGRESIVE
  growth : List Call
  grows : ∀ c ∈ growth, c.Growth
  loss : LossReaction

namespace AggressivePhase

def calls (p : AggressivePhase ρ) : List Call := p.growth ++ [p.loss.call]

/-- The window of the flow is at every step the one NewReno has. -/
def MatchesReno (p : AggressivePhase ρ) : Prop :=
  ∀ pre, pre <+: p.calls →
    let tcb := (run (Flow.step ns) p.flow pre).tcb
    let reno := (run (Reno.step ns) p.flow.sender pre).tcb
    tcb.m_cWnd = reno.m_cWnd ∧ tcb.m_ssThresh = reno.m_ssThresh

end AggressivePhase

/-- Half the data in flight is the threshold Vegas keeps, or both are under two segments. -/
def SocketState.KeptIsHalved (tcb : SocketState) (bytesInFlight : UInt32) : Prop :=
  let kept := stdMin tcb.m_ssThresh (tcb.m_cWnd - tcb.m_segmentSize)
  kept = bytesInFlight / 2 ∨
    kept ≤ 2 * tcb.m_segmentSize ∧ bytesInFlight / 2 ≤ 2 * tcb.m_segmentSize

/-- The condition under which the loss reaction is NewReno's, on the state it finds. -/
def LossReaction.AsReno (tcb : SocketState) : LossReaction → Prop
  | .enterRecovery r => tcb.KeptIsHalved r.bytesInFlight
  | .reTxTimeout inFlightBeforeRto isHeadRetransmitted =>
    tcb.m_congState = .CA_LOSS ∧ isHeadRetransmitted ∨ tcb.KeptIsHalved inFlightBeforeRto

/-- Recovery algorithms set the window and leave the threshold to the socket. -/
def Ns3.LeavesSsThresh : Prop :=
  ∀ (r : ρ) tcb dupAckCount unAckDataCount deliveredBytes,
    (ns.enterRecovery r tcb dupAckCount unAckDataCount deliveredBytes).2.m_ssThresh =
      tcb.m_ssThresh

theorem stdMax_eq_stdMax_iff (x y c : UInt32) :
    stdMax x c = stdMax c y ↔ x = y ∨ x ≤ c ∧ y ≤ c := by
  simp only [← UInt32.toNat_inj, toNat_stdMax, UInt32.le_iff_toNat_le]
  omega

theorem getSsThresh_eq_reno_iff (tcb : SocketState) (bytesInFlight : UInt32) :
    tcb.getSsThresh bytesInFlight = tcb.renoSsThresh bytesInFlight ↔
      tcb.KeptIsHalved bytesInFlight :=
  stdMax_eq_stdMax_iff _ _ _

/-- The flow and the NewReno socket agree in all but the Vegas object. -/
structure Shadows (f : Flow ρ) (s : Sender ρ) : Prop where
  tcb : s.tcb = f.tcb.toSocketState
  recoveryOps : s.recoveryOps = f.recoveryOps

section Growth
variable {ns} {f : Flow ρ} {s : Sender ρ} {c : Call}

theorem growth_aggressive (hc : c.Growth) (hf : f.tcb.mode = .AGGRESIVE) :
    (f.step ns c).tcb.mode = .AGGRESIVE := by
  rw [Flow.step_mode]
  cases c with
  | pktsAcked n rtt => simp [count_mode, hf]
  | enterRecovery r => exact hc.elim
  | reTxTimeout b h => exact hc.elim
  | _ => exact hf

theorem shadows_pktsAcked (n : UInt32) (rtt : Time) (h : Shadows f s) :
    Shadows (f.pktsAcked n rtt) s := by
  unfold Flow.pktsAcked
  split_ifs
  · exact h
  · exact ⟨h.tcb.trans (count_toSocketState _).symm, h.recoveryOps⟩

theorem congestionStateSet_tcb (st : TcpCongState) : (s.congestionStateSet st).tcb = s.tcb := by
  unfold Sender.congestionStateSet
  split <;> rfl

theorem congestionStateSet_recoveryOps (st : TcpCongState) :
    (s.congestionStateSet st).recoveryOps = s.recoveryOps := by
  unfold Sender.congestionStateSet
  split <;> rfl

theorem growth_shadows (hc : c.Growth) (hf : f.tcb.mode = .AGGRESIVE) (h : Shadows f s) :
    Shadows (f.step ns c) (Reno.step ns s c) := by
  obtain ⟨tcb, cc, recoveryOps⟩ := s
  obtain ⟨rfl, rfl⟩ := h
  cases c with
  | pktsAcked n rtt => exact shadows_pktsAcked n rtt ⟨rfl, rfl⟩
  | increaseWindow n =>
    have hstep : f.step ns (.increaseWindow n) =
        f.lift fun s => { s with tcb := s.tcb.newRenoIncreaseWindow ns n } := by
      simp [Flow.step, Flow.increaseWindow, hf]
    rw [hstep]
    exact ⟨rfl, rfl⟩
  | enterRecovery r => exact hc.elim
  | reTxTimeout b h => exact hc.elim
  | other op =>
    cases op with
    | congestionStateSet st =>
      exact ⟨(congestionStateSet_tcb (s := f.sender) st).symm,
        (congestionStateSet_recoveryOps (s := f.sender) st).symm⟩
    | enterCwr r => exact absurd rfl (hc r)
    | _ => exact ⟨rfl, rfl⟩

theorem growth_run (hf : f.tcb.mode = .AGGRESIVE) {cs : List Call} (hcs : ∀ c ∈ cs, c.Growth) :
    Shadows (run (Flow.step ns) f cs) (run (Reno.step ns) f.sender cs) := by
  have hstep : ∀ (f : Flow ρ) (s : Sender ρ) (c : Call),
      (Shadows f s ∧ f.tcb.mode = .AGGRESIVE) → c.Growth →
        Shadows (f.step ns c) (Reno.step ns s c) ∧ (f.step ns c).tcb.mode = .AGGRESIVE :=
    fun f s c h hc => ⟨growth_shadows hc h.2 h.1, growth_aggressive hc h.2⟩
  have hgrows : Along (Flow.step ns) (fun _ c => c.Growth) f cs :=
    fun pre c hp => hcs c (hp.subset (by simp))
  exact (run_simulation hstep ⟨⟨rfl, rfl⟩, hf⟩ hgrows).1

end Growth

section Loss
variable {ns} {f : Flow ρ} {s : Sender ρ}

def recoveryWindow (ns : Ns3 ρ) (f : Flow ρ) (r : Reduction) (ssThresh : UInt32) : Window :=
  (ns.enterRecovery f.recoveryOps
    { f.tcb.toSocketState with m_congState := .CA_RECOVERY, m_ssThresh := ssThresh }
    r.dupAckCount r.unAckDataCount r.currentDelivered).2

/-- A fast retransmit ends with NewReno's window exactly if it computes NewReno's threshold. -/
theorem enterRecovery_matches_iff (hns : ns.LeavesSsThresh) (h : Shadows f s) (r : Reduction) :
    ((f.enterRecovery ns r).tcb.m_cWnd = (Reno.enterRecovery ns s r).tcb.m_cWnd ∧
        (f.enterRecovery ns r).tcb.m_ssThresh = (Reno.enterRecovery ns s r).tcb.m_ssThresh) ↔
      f.tcb.KeptIsHalved r.bytesInFlight := by
  obtain ⟨tcb, cc, recoveryOps⟩ := s
  obtain ⟨rfl, rfl⟩ := h
  have hW : ∀ t, (recoveryWindow ns f r t).m_ssThresh = t := fun t => hns _ _ _ _ _
  change ((recoveryWindow ns f r (f.tcb.getSsThresh r.bytesInFlight)).m_cWnd =
        (recoveryWindow ns f r (f.tcb.renoSsThresh r.bytesInFlight)).m_cWnd ∧
      (recoveryWindow ns f r (f.tcb.getSsThresh r.bytesInFlight)).m_ssThresh =
        (recoveryWindow ns f r (f.tcb.renoSsThresh r.bytesInFlight)).m_ssThresh) ↔ _
  rw [hW, hW, ← getSsThresh_eq_reno_iff]
  refine ⟨fun h => h.2, fun h => ⟨?_, h⟩⟩
  rw [h]

/-- A time-out leaves one segment under either algorithm; the thresholds differ if it computes one
and the one it computes is not NewReno's. -/
theorem reTxTimeout_matches_iff (h : Shadows f s) (b : UInt32) (retransmitted : Bool) :
    ((f.reTxTimeout b retransmitted).tcb.m_cWnd =
          (Reno.reTxTimeout s b retransmitted).tcb.m_cWnd ∧
        (f.reTxTimeout b retransmitted).tcb.m_ssThresh =
          (Reno.reTxTimeout s b retransmitted).tcb.m_ssThresh) ↔
      f.tcb.m_congState = .CA_LOSS ∧ retransmitted ∨ f.tcb.KeptIsHalved b := by
  obtain ⟨tcb, cc, recoveryOps⟩ := s
  obtain ⟨rfl, rfl⟩ := h
  unfold Flow.reTxTimeout Flow.lift Sender.reTxTimeout Reno.reTxTimeout
  dsimp only [Flow.sender]
  by_cases hkept : f.tcb.m_congState = .CA_LOSS ∧ retransmitted
  · have hcond : ¬ (f.tcb.m_congState ≠ .CA_LOSS ∨ !retransmitted) := by simpa using hkept
    simp only [if_neg hcond, congestionStateSet_tcb]
    simp [hkept]
  · have hcond : f.tcb.m_congState ≠ .CA_LOSS ∨ !retransmitted := by
      simpa [imp_iff_not_or] using hkept
    simp only [if_pos hcond, congestionStateSet_tcb]
    rw [getSsThresh_eq_reno_iff]
    simp [hkept]

theorem loss_matches_iff (hns : ns.LeavesSsThresh) (h : Shadows f s) (loss : LossReaction) :
    ((f.step ns loss.call).tcb.m_cWnd = (Reno.step ns s loss.call).tcb.m_cWnd ∧
        (f.step ns loss.call).tcb.m_ssThresh = (Reno.step ns s loss.call).tcb.m_ssThresh) ↔
      loss.AsReno f.tcb.toSocketState := by
  cases loss with
  | enterRecovery r => exact enterRecovery_matches_iff hns h r
  | reTxTimeout b retransmitted => exact reTxTimeout_matches_iff h b retransmitted

end Loss

/-- An aggressive phase has NewReno's window at every step, the last one included, exactly if its
loss reaction computes the threshold that half the data in flight gives, or none. -/
theorem aggressive_phase_matches_reno_iff (hns : ns.LeavesSsThresh) (p : AggressivePhase ρ) :
    p.MatchesReno ns ↔
      p.loss.AsReno (run (Flow.step ns) p.flow p.growth).tcb.toSocketState := by
  have hgrowth : ∀ pre, pre <+: p.growth →
      Shadows (run (Flow.step ns) p.flow pre) (run (Reno.step ns) p.flow.sender pre) :=
    fun pre hp => growth_run p.aggressive fun c hc => p.grows c (hp.subset hc)
  rw [← loss_matches_iff hns (hgrowth _ (List.prefix_refl _)) p.loss]
  refine ⟨fun h => ?_, fun h pre hp => ?_⟩
  · have hlast := h p.calls (List.prefix_refl _)
    simpa only [AggressivePhase.calls, run_snoc] using hlast
  · rcases List.prefix_concat_iff.1 hp with rfl | hp
    · simpa only [run_snoc] using h
    · have ht := (hgrowth pre hp).tcb
      exact ⟨congrArg SocketState.m_cWnd ht.symm, congrArg SocketState.m_ssThresh ht.symm⟩

/-- An ACK of one segment grows the window of an aggressive flow, then three duplicate ACKs come. -/
def risingPhase (bytesInFlight : UInt32) : AggressivePhase Unit where
  flow := Flow.rising 7
  aggressive := by decide
  growth := [.increaseWindow 1]
  grows := by simp [Call.Growth]
  loss := .enterRecovery
    { bytesInFlight := bytesInFlight
      dupAckCount := 3
      unAckDataCount := bytesInFlight
      currentDelivered := 0 }

theorem aggressive_phase_matches_reno_kept : (risingPhase 20000).MatchesReno Ns3.classic :=
  (aggressive_phase_matches_reno_iff Ns3.classic (fun _ _ _ _ _ => rfl) _).2 (Or.inl (by decide))

/-- With a full window in flight NewReno halves, the aggressive flow gives up one segment. -/
theorem aggressive_phase_not_halved : ¬ (risingPhase 10500).MatchesReno Ns3.classic := by
  intro h
  exact absurd (h _ (List.prefix_refl _)).2 (by decide)

end NetSessional.Vegas
