import NetSessional.Vegas.SocketState

/-! `TcpVegas` as the modification leaves it. The functions it takes from ns-3 are a parameter. -/

namespace NetSessional.Vegas

structure TcpVegas where
  m_alpha : UInt32 := 2
  m_beta : UInt32 := 4
  m_gamma : UInt32 := 1
  m_baseRtt : Time := Time.max
  m_minRtt : Time := Time.max
  m_cntRtt : UInt32 := 0
  m_doingVegasNow : Bool := true
  m_begSndNxt : SequenceNumber32 := 0
  deriving DecidableEq, Repr

/-- The copy constructor, by which `Fork` makes the algorithm of an accepted connection. -/
def TcpVegas.fork (sock : TcpVegas) : TcpVegas :=
  { sock with m_doingVegasNow := true, m_begSndNxt := 0 }

structure Window where
  m_cWnd : UInt32
  m_cWndInfl : UInt32
  m_ssThresh : UInt32
  deriving DecidableEq, Repr

/-- The code of ns-3 itself that Vegas+ runs on; `ρ` is the state of the recovery algorithm. -/
structure Ns3 (ρ : Type) where
  /-- `operator>` of `SequenceNumber32` -/
  seqGt : SequenceNumber32 → SequenceNumber32 → Bool
  /-- `segCwnd * (baseRtt.GetSeconds () / minRtt.GetSeconds ())` in doubles, cut to 32 bits -/
  targetCwnd : UInt32 → Time → Time → UInt32
  /-- `TcpNewReno::IncreaseWindow`: window, threshold, segment size, segments acked -/
  newRenoIncreaseWindow : UInt32 → UInt32 → UInt32 → UInt32 → UInt32 × UInt32
  /-- `TcpNewReno::SlowStart` -/
  newRenoSlowStart : UInt32 → UInt32 → UInt32 → UInt32 → UInt32 × UInt32
  /-- `EnterRecovery`: duplicate ACKs, unacknowledged data, bytes delivered -/
  enterRecovery : ρ → SocketState → UInt32 → UInt32 → UInt32 → ρ × Window
  /-- `DoRecovery`: bytes delivered -/
  doRecovery : ρ → SocketState → UInt32 → ρ × Window
  exitRecovery : ρ → SocketState → ρ × Window
  updateBytesSent : ρ → UInt32 → ρ

namespace Ns3
variable {ρ : Type} (ns : Ns3 ρ) (a b : SequenceNumber32)

-- the other comparisons of `SequenceNumber32`, as ns-3 derives them from `operator>`
def seqGe : Bool := ns.seqGt a b || a == b
def seqLt : Bool := !ns.seqGt a b && a != b

/-- NewReno growth with the classic recovery algorithm, which has no state; the RTT ratio is cut to
whole segments without rounding. -/
def classic : Ns3 Unit where
  seqGt a b := (a < b && b - a > 0x7fffffff) || (a > b && a - b ≤ 0x7fffffff)
  targetCwnd segCwnd baseRtt minRtt :=
    UInt32.ofNat (segCwnd.toNat * baseRtt.toNat / minRtt.toNat)
  newRenoIncreaseWindow cWnd ssThresh segmentSize segmentsAcked :=
    let slowStart := cWnd < ssThresh ∧ segmentsAcked ≥ 1
    let segmentsLeft :=
      if slowStart then segmentsAcked - 1 else if cWnd < ssThresh then 0 else segmentsAcked
    let cWnd := if slowStart then cWnd + segmentSize else cWnd
    if cWnd ≥ ssThresh ∧ segmentsLeft > 0 then
      (cWnd + stdMax 1 (segmentSize * segmentSize / cWnd), ssThresh)
    else (cWnd, ssThresh)
  newRenoSlowStart cWnd ssThresh segmentSize segmentsAcked :=
    (if segmentsAcked ≥ 1 then cWnd + segmentSize else cWnd, ssThresh)
  enterRecovery _ tcb dupAckCount _ _ :=
    ((), ⟨tcb.m_ssThresh, tcb.m_ssThresh + dupAckCount * tcb.m_segmentSize, tcb.m_ssThresh⟩)
  doRecovery _ tcb _ :=
    ((), ⟨tcb.m_cWnd, tcb.m_cWndInfl + tcb.m_segmentSize, tcb.m_ssThresh⟩)
  exitRecovery _ tcb := ((), ⟨tcb.m_cWnd, tcb.m_ssThresh, tcb.m_ssThresh⟩)
  updateBytesSent _ _ := ()

end Ns3

structure Sender (ρ : Type) where
  tcb : SocketState
  cc : TcpVegas
  recoveryOps : ρ

/-- A sending side under Vegas+. -/
structure Flow (ρ : Type) where
  tcb : TcpSocketState
  cc : TcpVegas
  recoveryOps : ρ

variable {ρ : Type} (ns : Ns3 ρ)

namespace SocketState

/-- `TcpVegas::GetSsThresh`, which does not look at `bytesInFlight`. -/
def getSsThresh (tcb : SocketState) (_bytesInFlight : UInt32) : UInt32 :=
  stdMax (stdMin tcb.m_ssThresh (tcb.m_cWnd - tcb.m_segmentSize)) (2 * tcb.m_segmentSize)

def newRenoIncreaseWindow (tcb : SocketState) (segmentsAcked : UInt32) : SocketState :=
  let w := ns.newRenoIncreaseWindow tcb.m_cWnd tcb.m_ssThresh tcb.m_segmentSize segmentsAcked
  { tcb with m_cWnd := w.1, m_ssThresh := w.2 }

def newRenoSlowStart (tcb : SocketState) (segmentsAcked : UInt32) : SocketState :=
  let w := ns.newRenoSlowStart tcb.m_cWnd tcb.m_ssThresh tcb.m_segmentSize segmentsAcked
  { tcb with m_cWnd := w.1, m_ssThresh := w.2 }

end SocketState

namespace Sender

def enableVegas (s : Sender ρ) : Sender ρ :=
  { s with cc := { s.cc with
      m_doingVegasNow := true
      m_begSndNxt := s.tcb.m_nextTxSequence
      m_cntRtt := 0
      m_minRtt := Time.max } }

def disableVegas (s : Sender ρ) : Sender ρ := { s with cc := { s.cc with m_doingVegasNow := false } }

def congestionStateSet (s : Sender ρ) (newState : TcpCongState) : Sender ρ :=
  if newState = .CA_OPEN then s.enableVegas else s.disableVegas

/-- The part of `PktsAcked` that is Vegas' own. -/
def sampleRtt (s : Sender ρ) (rtt : Time) : Sender ρ :=
  { s with cc := { s.cc with
      m_minRtt := stdMin s.cc.m_minRtt rtt
      m_baseRtt := stdMin s.cc.m_baseRtt rtt
      m_cntRtt := s.cc.m_cntRtt + 1 } }

/-- The window adjustment at the end of a cycle that has enough samples. -/
def adjustWindow (s : Sender ρ) (segmentsAcked : UInt32) : SocketState :=
  let tcb := s.tcb
  let segCwnd := tcb.getCwndInSegments
  let targetCwnd := ns.targetCwnd segCwnd s.cc.m_baseRtt s.cc.m_minRtt
  let diff := segCwnd - targetCwnd
  let tcb :=
    if diff > s.cc.m_gamma ∧ tcb.m_cWnd < tcb.m_ssThresh then
      let segCwnd := stdMin segCwnd (targetCwnd + 1)
      let tcb := { tcb with m_cWnd := segCwnd * tcb.m_segmentSize }
      { tcb with m_ssThresh := tcb.getSsThresh 0 }
    else if tcb.m_cWnd < tcb.m_ssThresh then tcb.newRenoSlowStart ns segmentsAcked
    else if diff > s.cc.m_beta then
      let tcb := { tcb with m_cWnd := (segCwnd - 1) * tcb.m_segmentSize }
      { tcb with m_ssThresh := tcb.getSsThresh 0 }
    else if diff < s.cc.m_alpha then
      { tcb with m_cWnd := (segCwnd + 1) * tcb.m_segmentSize }
    else tcb
  { tcb with m_ssThresh := stdMax tcb.m_ssThresh (3 * tcb.m_cWnd / 4) }

/-- `IncreaseWindow` after its first test. -/
def vegasIncreaseWindow (s : Sender ρ) (segmentsAcked : UInt32) : Sender ρ :=
  if ns.seqGe s.tcb.m_lastAckedSeq s.cc.m_begSndNxt then
    let s := { s with cc := { s.cc with m_begSndNxt := s.tcb.m_nextTxSequence } }
    let s :=
      if s.cc.m_cntRtt ≤ 2 then { s with tcb := s.tcb.newRenoIncreaseWindow ns segmentsAcked }
      else { s with tcb := s.adjustWindow ns segmentsAcked }
    { s with cc := { s.cc with m_cntRtt := 0, m_minRtt := Time.max } }
  else if s.tcb.m_cWnd < s.tcb.m_ssThresh then
    { s with tcb := s.tcb.newRenoSlowStart ns segmentsAcked }
  else s

end Sender

namespace TcpSocketState

/-- `PktsAcked` counts this sample: the RTT went up and the window stayed. -/
def Rising (tcb : TcpSocketState) (rtt : Time) : Prop :=
  rtt > tcb.lastRtt ∧ tcb.lastCwnd = tcb.m_cWnd

instance (tcb : TcpSocketState) (rtt : Time) : Decidable (tcb.Rising rtt) :=
  inferInstanceAs (Decidable (_ ∧ _))

/-- The counter of `PktsAcked`. -/
def count (tcb : TcpSocketState) (rtt : Time) : TcpSocketState :=
  if tcb.Rising rtt then
    let tcb := { tcb with v_count := tcb.v_count + 1 }
    if tcb.v_count > tcb.v_count_max then { tcb with mode := .AGGRESIVE } else tcb
  else if rtt < tcb.lastRtt then { tcb with v_count := stdMax (tcb.v_count - 1) 0 }
  else tcb

end TcpSocketState

namespace Flow

def sender (f : Flow ρ) : Sender ρ := ⟨f.tcb.toSocketState, f.cc, f.recoveryOps⟩

/-- Code that does not know of the modification, run on a Vegas+ flow. -/
def lift (g : Sender ρ → Sender ρ) (f : Flow ρ) : Flow ρ :=
  let s := g f.sender
  ⟨{ f.tcb with toSocketState := s.tcb }, s.cc, s.recoveryOps⟩

def pktsAcked (f : Flow ρ) (_segmentsAcked : UInt32) (rtt : Time) : Flow ρ :=
  if rtt = 0 then f
  else
    let f := f.lift (·.sampleRtt rtt)
    let tcb := f.tcb.count rtt
    { f with tcb := { tcb with lastRtt := rtt, lastCwnd := tcb.m_cWnd } }

def increaseWindow (f : Flow ρ) (segmentsAcked : UInt32) : Flow ρ :=
  if !f.cc.m_doingVegasNow || f.tcb.mode = .AGGRESIVE then
    f.lift fun s => { s with tcb := s.tcb.newRenoIncreaseWindow ns segmentsAcked }
  else f.lift (·.vegasIncreaseWindow ns segmentsAcked)

section Lift
variable (g : Sender ρ → Sender ρ) (f : Flow ρ)

@[simp] theorem sender_lift : (f.lift g).sender = g f.sender := rfl
@[simp] theorem lift_v_count : (f.lift g).tcb.v_count = f.tcb.v_count := rfl
@[simp] theorem lift_v_count_max : (f.lift g).tcb.v_count_max = f.tcb.v_count_max := rfl
@[simp] theorem lift_lastCwnd : (f.lift g).tcb.lastCwnd = f.tcb.lastCwnd := rfl
@[simp] theorem lift_lastRtt : (f.lift g).tcb.lastRtt = f.tcb.lastRtt := rfl
@[simp] theorem lift_mode : (f.lift g).tcb.mode = f.tcb.mode := rfl
@[simp] theorem sender_tcb : f.sender.tcb = f.tcb.toSocketState := rfl
@[simp] theorem sender_cc : f.sender.cc = f.cc := rfl

/-- `IncreaseWindow` is code that writes ns-3's own fields only; the mode just selects it. -/
theorem increaseWindow_eq_lift (segmentsAcked : UInt32) :
    ∃ g, f.increaseWindow ns segmentsAcked = f.lift g := by
  unfold increaseWindow
  split
  · exact ⟨_, rfl⟩
  · exact ⟨_, rfl⟩

end Lift

end Flow

section Samples
variable (tcb : TcpSocketState) {rtt : Time} (f : Flow ρ) (segmentsAcked : UInt32)

@[simp] theorem count_toSocketState : (tcb.count rtt).toSocketState = tcb.toSocketState := by
  unfold TcpSocketState.count
  dsimp only
  split_ifs <;> rfl

@[simp] theorem count_v_count_max : (tcb.count rtt).v_count_max = tcb.v_count_max := by
  unfold TcpSocketState.count
  dsimp only
  split_ifs <;> rfl

variable {tcb}

theorem count_of_rising (h : tcb.Rising rtt) : (tcb.count rtt).v_count = tcb.v_count + 1 := by
  rw [TcpSocketState.count, if_pos h]
  dsimp only
  split_ifs <;> rfl

theorem count_of_falling (h : rtt < tcb.lastRtt) :
    (tcb.count rtt).v_count = stdMax (tcb.v_count - 1) 0 := by
  have hnot : ¬ tcb.Rising rtt := fun hr => absurd hr.1 h.not_gt
  rw [TcpSocketState.count, if_neg hnot, if_pos h]

theorem count_of_still (hr : ¬ tcb.Rising rtt) (hf : ¬ rtt < tcb.lastRtt) :
    tcb.count rtt = tcb := by
  rw [TcpSocketState.count, if_neg hr, if_neg hf]

theorem count_mode : (tcb.count rtt).mode =
    if tcb.Rising rtt ∧ tcb.v_count + 1 > tcb.v_count_max then .AGGRESIVE else tcb.mode := by
  unfold TcpSocketState.count
  dsimp only
  split_ifs with h1 h2 h3 h4 <;> first | rfl | exact absurd ⟨h1, h2⟩ h3 | skip
  all_goals simp_all

@[simp] theorem pktsAcked_zero : f.pktsAcked segmentsAcked 0 = f := by simp [Flow.pktsAcked]

theorem pktsAcked_of_ne (hrtt : rtt ≠ 0) : f.pktsAcked segmentsAcked rtt =
    ⟨{ f.tcb.count rtt with lastRtt := rtt, lastCwnd := f.tcb.m_cWnd },
      (f.sender.sampleRtt rtt).cc, f.recoveryOps⟩ := by
  have hwnd : (f.tcb.count rtt).m_cWnd = f.tcb.m_cWnd :=
    congrArg SocketState.m_cWnd (count_toSocketState f.tcb)
  rw [Flow.pktsAcked, if_neg hrtt, ← hwnd]
  rfl

theorem sender_pktsAcked (hrtt : rtt ≠ 0) :
    (f.pktsAcked segmentsAcked rtt).sender = f.sender.sampleRtt rtt := by
  rw [pktsAcked_of_ne f segmentsAcked hrtt]
  simp [Flow.sender, Sender.sampleRtt]

@[simp] theorem pktsAcked_toSocketState :
    (f.pktsAcked segmentsAcked rtt).tcb.toSocketState = f.tcb.toSocketState := by
  unfold Flow.pktsAcked
  split_ifs <;> simp [Flow.lift, Sender.sampleRtt, Flow.sender]

end Samples

end NetSessional.Vegas
