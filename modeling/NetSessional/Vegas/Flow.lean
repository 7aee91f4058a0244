import NetSessional.Lib.Runs
import NetSessional.Vegas.TcpVegas

/-! What `TcpSocketBase` does to the window: the loss reactions, which the modification extends, and
the operations it leaves alone. A run of a flow is a sequence of such calls. -/

namespace NetSessional.Vegas

/-- What `EnterRecovery` and `EnterCwr` read of the socket and its send buffer. -/
structure Reduction where
  bytesInFlight : UInt32
  dupAckCount : UInt32
  unAckDataCount : UInt32
  currentDelivered : UInt32
  deriving DecidableEq, Repr

variable {ρ : Type} (ns : Ns3 ρ)

namespace Sender

def recover (s : Sender ρ) (r : ρ × Window) : Sender ρ :=
  { s with
    recoveryOps := r.1
    tcb := { s.tcb with
      m_cWnd := r.2.m_cWnd
      m_cWndInfl := r.2.m_cWndInfl
      m_ssThresh := r.2.m_ssThresh } }

/-- The end of `EnterRecovery` and of `EnterCwr`: Vegas has no `CongControl` of its own, so the
recovery algorithm is asked. -/
def beginRecovery (s : Sender ρ) (r : Reduction) : Sender ρ :=
  s.recover
    (ns.enterRecovery s.recoveryOps s.tcb r.dupAckCount r.unAckDataCount r.currentDelivered)

def enterCwr (s : Sender ρ) (r : Reduction) : Sender ρ :=
  let ssThresh := s.tcb.getSsThresh r.bytesInFlight
  let s := { s with tcb := { s.tcb with
    m_ssThresh := ssThresh, m_cWndInfl := ssThresh, m_congState := .CA_CWR } }
  s.beginRecovery ns r

def enterRecovery (s : Sender ρ) (r : Reduction) : Sender ρ :=
  let s := s.congestionStateSet .CA_RECOVERY
  let s := { s with tcb := { s.tcb with m_congState := .CA_RECOVERY } }
  let s := { s with tcb := { s.tcb with m_ssThresh := s.tcb.getSsThresh r.bytesInFlight } }
  s.beginRecovery ns r

def reTxTimeout (s : Sender ρ) (inFlightBeforeRto : UInt32) (isHeadRetransmitted : Bool) :
    Sender ρ :=
  let s :=
    if s.tcb.m_congState ≠ .CA_LOSS ∨ !isHeadRetransmitted then
      { s with tcb := { s.tcb with m_ssThresh := s.tcb.getSsThresh inFlightBeforeRto } }
    else s
  let s := s.congestionStateSet .CA_LOSS
  { s with tcb := { s.tcb with
    m_congState := .CA_LOSS, m_cWnd := s.tcb.m_segmentSize, m_cWndInfl := s.tcb.m_segmentSize } }

/-- The operations the modification does not touch. -/
inductive Operation where
  | congestionStateSet (newState : TcpCongState)
  | enterCwr (r : Reduction)
  | doRecovery (currentDelivered : UInt32)
  | exitRecovery
  | updateBytesSent (bytesSent : UInt32)
  /-- assignments to the control block outside congestion control -/
  | write (g : SocketState → SocketState)

def perform (s : Sender ρ) : Operation → Sender ρ
  | .congestionStateSet newState => s.congestionStateSet newState
  | .enterCwr r => s.enterCwr ns r
  | .doRecovery currentDelivered =>
    s.recover (ns.doRecovery s.recoveryOps s.tcb currentDelivered)
  | .exitRecovery => s.recover (ns.exitRecovery s.recoveryOps s.tcb)
  | .updateBytesSent bytesSent =>
    { s with recoveryOps := ns.updateBytesSent s.recoveryOps bytesSent }
  | .write g => { s with tcb := g s.tcb }

end Sender

inductive Call where
  | pktsAcked (segmentsAcked : UInt32) (rtt : Time)
  | increaseWindow (segmentsAcked : UInt32)
  | enterRecovery (r : Reduction)
  | reTxTimeout (inFlightBeforeRto : UInt32) (isHeadRetransmitted : Bool)
  | other (op : Sender.Operation)

namespace Flow

def enterRecovery (f : Flow ρ) (r : Reduction) : Flow ρ :=
  let f := { f with tcb := { f.tcb with v_count := f.tcb.v_count / 2, mode := .MODERATE } }
  f.lift (·.enterRecovery ns r)

def reTxTimeout (f : Flow ρ) (inFlightBeforeRto : UInt32) (isHeadRetransmitted : Bool) : Flow ρ :=
  let f := f.lift (·.reTxTimeout inFlightBeforeRto isHeadRetransmitted)
  { f with tcb := { f.tcb with v_count := 0, mode := .MODERATE } }

def step (f : Flow ρ) : Call → Flow ρ
  | .pktsAcked segmentsAcked rtt => f.pktsAcked segmentsAcked rtt
  | .increaseWindow segmentsAcked => f.increaseWindow ns segmentsAcked
  | .enterRecovery r => f.enterRecovery ns r
  | .reTxTimeout inFlightBeforeRto isHeadRetransmitted =>
    f.reTxTimeout inFlightBeforeRto isHeadRetransmitted
  | .other op => f.lift (·.perform ns op)

def start (lastCwnd : UInt32) (c : Construction) (cc : TcpVegas) (recoveryOps : ρ) : Flow ρ :=
  ⟨TcpSocketState.construct lastCwnd c, cc, recoveryOps⟩

section Step
variable (f : Flow ρ) (c : Call)

@[simp] theorem step_v_count_max : (f.step ns c).tcb.v_count_max = f.tcb.v_count_max := by
  cases c with
  | pktsAcked n rtt =>
    simp only [step, pktsAcked]
    split_ifs <;> simp
  | increaseWindow n =>
    obtain ⟨g, hg⟩ := increaseWindow_eq_lift ns f n
    simp [step, hg]
  | _ => rfl

theorem step_v_count : (f.step ns c).tcb.v_count =
    match c with
    | .pktsAcked _ rtt => if rtt = 0 then f.tcb.v_count else (f.tcb.count rtt).v_count
    | .enterRecovery _ => f.tcb.v_count / 2
    | .reTxTimeout _ _ => 0
    | _ => f.tcb.v_count := by
  cases c with
  | pktsAcked n rtt =>
    simp only [step, pktsAcked]
    split_ifs
    · rfl
    · rfl
  | increaseWindow n =>
    obtain ⟨g, hg⟩ := increaseWindow_eq_lift ns f n
    simp [step, hg]
  | _ => rfl

/-- A sample that makes the flow aggressive. -/
def Lifting (f : Flow ρ) (c : Call) : Prop :=
  ∃ n rtt, c = .pktsAcked n rtt ∧ rtt ≠ 0 ∧ f.tcb.Rising rtt ∧
    f.tcb.v_count + 1 > f.tcb.v_count_max

theorem step_mode : (f.step ns c).tcb.mode =
    match c with
    | .pktsAcked _ rtt => if rtt = 0 then f.tcb.mode else (f.tcb.count rtt).mode
    | .enterRecovery _ => .MODERATE
    | .reTxTimeout _ _ => .MODERATE
    | _ => f.tcb.mode := by
  cases c with
  | pktsAcked n rtt =>
    simp only [step, pktsAcked]
    split_ifs
    · rfl
    · rfl
  | increaseWindow n =>
    obtain ⟨g, hg⟩ := increaseWindow_eq_lift ns f n
    simp [step, hg]
  | _ => rfl

theorem step_moderate_iff (hf : f.tcb.mode = .MODERATE) :
    (f.step ns c).tcb.mode = .MODERATE ↔ ¬ f.Lifting c := by
  rw [step_mode]
  cases c with
  | pktsAcked n rtt => simp [Lifting, count_mode, hf]
  | _ => simp [Lifting, hf]

/-- The test of `IncreaseWindow` for a Vegas cycle that has finished. -/
def EndsCycle (f : Flow ρ) : Prop :=
  f.cc.m_doingVegasNow = true ∧ f.tcb.mode ≠ .AGGRESIVE ∧
    ns.seqGe f.tcb.m_lastAckedSeq f.cc.m_begSndNxt = true

instance (f : Flow ρ) : Decidable (f.EndsCycle ns) := inferInstanceAs (Decidable (_ ∧ _ ∧ _))

theorem vegasIncreaseWindow_cc (s : Sender ρ) (n : UInt32) : (s.vegasIncreaseWindow ns n).cc =
    if ns.seqGe s.tcb.m_lastAckedSeq s.cc.m_begSndNxt then
      { s.cc with m_begSndNxt := s.tcb.m_nextTxSequence, m_cntRtt := 0, m_minRtt := Time.max }
    else s.cc := by
  unfold Sender.vegasIncreaseWindow
  dsimp only
  split_ifs <;> rfl

theorem increaseWindow_cc (n : UInt32) : (f.increaseWindow ns n).cc =
    if f.EndsCycle ns then
      { f.cc with m_begSndNxt := f.tcb.m_nextTxSequence, m_cntRtt := 0, m_minRtt := Time.max }
    else f.cc := by
  unfold increaseWindow
  by_cases hvegas : !f.cc.m_doingVegasNow || f.tcb.mode = .AGGRESIVE
  · have hnot : ¬ f.EndsCycle ns := by
      intro h
      simp [h.1, h.2.1] at hvegas
    rw [if_pos hvegas, if_neg hnot]
    rfl
  · obtain ⟨hdoing, hmode⟩ : f.cc.m_doingVegasNow = true ∧ f.tcb.mode ≠ .AGGRESIVE := by
      simpa using hvegas
    rw [if_neg hvegas]
    refine (vegasIncreaseWindow_cc ns f.sender n).trans ?_
    simp only [sender_tcb, sender_cc, EndsCycle, hdoing, hmode, ne_eq, not_false_eq_true, true_and]

theorem step_cc : (f.step ns c).cc =
    match c with
    | .pktsAcked _ rtt => if rtt = 0 then f.cc else (f.sender.sampleRtt rtt).cc
    | .increaseWindow _ =>
      if f.EndsCycle ns then
        { f.cc with m_begSndNxt := f.tcb.m_nextTxSequence, m_cntRtt := 0, m_minRtt := Time.max }
      else f.cc
    | .enterRecovery _ => { f.cc with m_doingVegasNow := false }
    | .reTxTimeout _ _ => { f.cc with m_doingVegasNow := false }
    | .other (.congestionStateSet newState) =>
      if newState = .CA_OPEN then f.sender.enableVegas.cc else f.sender.disableVegas.cc
    | .other _ => f.cc := by
  cases c with
  | pktsAcked n rtt =>
    simp only [step, pktsAcked]
    split_ifs <;> rfl
  | increaseWindow n => exact increaseWindow_cc ns f n
  | enterRecovery r => rfl
  | reTxTimeout b h =>
    simp only [step, reTxTimeout, lift, Sender.reTxTimeout]
    split <;> rfl
  | other op =>
    cases op with
    | congestionStateSet newState =>
      simp only [step, lift, Sender.perform, Sender.congestionStateSet]
      split <;> rfl
    | _ => rfl

theorem increaseWindow_congState (n : UInt32) :
    (f.increaseWindow ns n).tcb.m_congState = f.tcb.m_congState := by
  unfold increaseWindow
  split
  · rfl
  · change (f.sender.vegasIncreaseWindow ns n).tcb.m_congState = _
    unfold Sender.vegasIncreaseWindow Sender.adjustWindow
    dsimp only
    split_ifs <;> rfl

theorem step_congState : (f.step ns c).tcb.m_congState =
    match c with
    | .enterRecovery _ => .CA_RECOVERY
    | .reTxTimeout _ _ => .CA_LOSS
    | .other (.enterCwr _) => .CA_CWR
    | .other (.write g) => (g f.tcb.toSocketState).m_congState
    | _ => f.tcb.m_congState := by
  cases c with
  | pktsAcked n rtt => exact congrArg SocketState.m_congState (pktsAcked_toSocketState f n)
  | increaseWindow n => exact increaseWindow_congState ns f n
  | enterRecovery r => rfl
  | reTxTimeout b h => rfl
  | other op =>
    cases op with
    | congestionStateSet newState =>
      simp only [step, lift, Sender.perform, Sender.congestionStateSet]
      split <;> rfl
    | _ => rfl

end Step

/-- `n` samples of a new connection with 20 segments in its window, each above the one before. -/
def risingCalls (n : ℕ) : List Call :=
  .other (.write fun tcb =>
    { tcb with m_cWnd := 10000, m_ssThresh := 65535, m_segmentSize := 500 }) ::
  (List.range n).map fun i => .pktsAcked 1 (100 + i)

def rising (n : ℕ) : Flow Unit :=
  Runs.run (step Ns3.classic) (start 0 .default {} ()) (risingCalls n)

end Flow

end NetSessional.Vegas
