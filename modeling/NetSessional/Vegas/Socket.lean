import NetSessional.Vegas.Flow

/-! The sending side of `TcpSocketBase` after connecting: ACKs, time-outs, transmissions. What it
reads of the send buffer and of the RTT estimator arrives with the event. Whatever it does to the
window is a call of a flow, and it keeps a record of these calls. -/

namespace NetSessional.Vegas
open Runs

structure Segment where
  seq : SequenceNumber32
  size : UInt32

structure AckInput where
  ackNumber : SequenceNumber32
  /-- `m_txBuffer->HeadSequence ()` before `DiscardUpTo`, and after -/
  oldHeadSequence : SequenceNumber32
  headSequence : SequenceNumber32
  ECE : Bool
  bytesSacked : UInt32
  currentDelivered : UInt32
  /-- `m_txBuffer->IsRetransmittedDataAcked` before `DiscardUpTo`, and after -/
  wasRetransmitted : SequenceNumber32 → Bool
  isRetransmitted : SequenceNumber32 → Bool
  /-- `m_txBuffer->IsLost` when a duplicate ACK is handled -/
  isLost : SequenceNumber32 → Bool
  /-- `m_txBuffer->BytesInFlight ()`, and the same once the head is marked as lost -/
  bytesInFlight : UInt32
  lossBytesInFlight : UInt32
  /-- what `DoRetransmit` sends on entering recovery, and on a partial ACK -/
  fastRetransmit : Segment
  partialRetransmit : Segment

inductive TcpStates where
  | CLOSED
  | LISTEN
  | SYN_SENT
  | SYN_RCVD
  | ESTABLISHED
  | CLOSE_WAIT
  | LAST_ACK
  | FIN_WAIT_1
  | FIN_WAIT_2
  | CLOSING
  | TIME_WAIT
  deriving DecidableEq, Repr

structure TimeoutInput where
  m_state : TcpStates
  txBufferSize : UInt32
  m_dataRetrCount : UInt32
  inFlightBeforeRto : UInt32
  isHeadRetransmitted : Bool

structure TcpSocketBase (ρ : Type) where
  flow : Flow ρ
  m_dupAckCount : UInt32 := 0
  m_bytesAckedNotProcessed : UInt32 := 0
  m_highRxAckMark : SequenceNumber32 := 0
  m_sackEnabled : Bool := true
  m_recover : SequenceNumber32 := 0
  m_recoverActive : Bool := false
  m_retxThresh : UInt32 := 3
  m_ecnEchoSeq : SequenceNumber32 := 0
  m_ecnCWRSeq : SequenceNumber32 := 0
  /-- The calls so far, oldest first; the source keeps no such record. -/
  calls : List Call := []

inductive SocketEvent where
  /-- a SYN sets the window; on SYN and ACK `m_highRxAckMark` is set too -/
  | syn (sackPermitted : Bool) (ackNumber : Option SequenceNumber32)
  /-- the connection opens, by a handshake or by bare data -/
  | established (handshake : Bool)
  | estimateRtt (estimate : Time)
  | updateWindowSize (ackNumber : SequenceNumber32)
  | receivedAck (a : AckInput)
  | reTxTimeout (t : TimeoutInput)
  | sendPending (segment : Segment)
  /-- the receiving side and the handshake set the ECN state -/
  | ecn (ecnState : EcnState)

variable {ρ : Type} (ns : Ns3 ρ)

namespace TcpSocketBase

def tcb (s : TcpSocketBase ρ) : TcpSocketState := s.flow.tcb

def call (s : TcpSocketBase ρ) (c : Call) : TcpSocketBase ρ :=
  { s with flow := s.flow.step ns c, calls := s.calls ++ [c] }

def write (s : TcpSocketBase ρ) (g : SocketState → SocketState) : TcpSocketBase ρ :=
  s.call ns (.other (.write g))

def setCongState (s : TcpSocketBase ρ) (newState : TcpCongState) : TcpSocketBase ρ :=
  s.write ns fun tcb => { tcb with m_congState := newState }

/-- `CongestionStateSet` of the algorithm, then the assignment to the control block. -/
def congestionStateSet (s : TcpSocketBase ρ) (newState : TcpCongState) : TcpSocketBase ρ :=
  (s.call ns (.other (.congestionStateSet newState))).setCongState ns newState

def pktsAcked (s : TcpSocketBase ρ) (segmentsAcked : UInt32) : TcpSocketBase ρ :=
  s.call ns (.pktsAcked segmentsAcked s.tcb.m_lastRtt)

def sendDataPacket (s : TcpSocketBase ρ) (segment : Segment) (isRetransmission : Bool) :
    TcpSocketBase ρ :=
  let s :=
    if s.tcb.m_ecnState = .ECN_ECE_RCVD ∧ ns.seqGt s.m_ecnEchoSeq s.m_ecnCWRSeq ∧
        ¬ isRetransmission then
      { s.write ns fun tcb => { tcb with m_ecnState := .ECN_CWR_SENT } with
        m_ecnCWRSeq := segment.seq }
    else s
  let s :=
    if s.tcb.m_congState = .CA_RECOVERY ∨ s.tcb.m_congState = .CA_CWR then
      s.call ns (.other (.updateBytesSent segment.size))
    else s
  s.write ns fun tcb =>
    let last := segment.seq + segment.size
    { tcb with m_highTxMark := if ns.seqLt last tcb.m_highTxMark then tcb.m_highTxMark else last }

def doRetransmit (s : TcpSocketBase ρ) (segment : Segment) : TcpSocketBase ρ :=
  let s := s.write ns fun tcb => { tcb with m_nextTxSequence := segment.seq }
  s.sendDataPacket ns segment true

def sendPending (s : TcpSocketBase ρ) (segment : Segment) : TcpSocketBase ρ :=
  let s := s.write ns fun tcb => { tcb with m_nextTxSequence := segment.seq }
  let s := s.sendDataPacket ns segment false
  s.write ns fun tcb => { tcb with m_nextTxSequence := tcb.m_nextTxSequence + segment.size }

/-- `NewAck`, less its timers. -/
def newAck (s : TcpSocketBase ρ) (ack : SequenceNumber32) : TcpSocketBase ρ :=
  if ns.seqGt ack s.tcb.m_nextTxSequence then
    s.write ns fun tcb => { tcb with m_nextTxSequence := ack }
  else s

def reduction (s : TcpSocketBase ρ) (a : AckInput) (bytesInFlight : UInt32) : Reduction :=
  { bytesInFlight := bytesInFlight
    dupAckCount := s.m_dupAckCount
    unAckDataCount := s.tcb.m_highTxMark - a.headSequence
    currentDelivered := a.currentDelivered }

def enterCwr (s : TcpSocketBase ρ) (a : AckInput) : TcpSocketBase ρ :=
  let s := s.write ns fun tcb => { tcb with m_bytesInFlight := a.bytesInFlight }
  let s := { s with m_recover := s.tcb.m_highTxMark }
  s.call ns (.other (.enterCwr (s.reduction a a.bytesInFlight)))

def enterRecovery (s : TcpSocketBase ρ) (a : AckInput) : TcpSocketBase ρ :=
  let s := { s with m_recover := s.tcb.m_highTxMark, m_recoverActive := true }
  let s := s.write ns fun tcb => { tcb with m_bytesInFlight := a.lossBytesInFlight }
  let bytesInFlight :=
    if s.m_sackEnabled then a.lossBytesInFlight else a.lossBytesInFlight + s.tcb.m_segmentSize
  let s := s.call ns (.enterRecovery (s.reduction a bytesInFlight))
  s.doRetransmit ns a.fastRetransmit

def dupAck (s : TcpSocketBase ρ) (a : AckInput) : TcpSocketBase ρ :=
  if s.tcb.m_congState = .CA_LOSS then s
  else
    let s :=
      if s.tcb.m_congState ≠ .CA_RECOVERY then { s with m_dupAckCount := s.m_dupAckCount + 1 }
      else s
    let s := if s.tcb.m_congState = .CA_OPEN then s.congestionStateSet ns .CA_DISORDER else s
    if s.tcb.m_congState = .CA_RECOVERY then s.call ns (.other (.doRecovery a.currentDelivered))
    else if s.tcb.m_congState = .CA_DISORDER then
      if s.m_dupAckCount = s.m_retxThresh ∧
          (ns.seqGe s.m_highRxAckMark s.m_recover ∨ ¬ s.m_recoverActive) then
        s.enterRecovery ns a
      else if a.isLost (s.m_highRxAckMark + s.tcb.m_segmentSize) then s.enterRecovery ns a
      else s
    else s

def safeSubtraction (a b : UInt32) : UInt32 := if a > b then a - b else 0

/-- The segments and the bytes an ACK of new data counts for; what is left of a segment is kept for
the next ACK. -/
def countAcked (s : TcpSocketBase ρ) (a : AckInput) : UInt32 × UInt32 × TcpSocketBase ρ :=
  let bytesAcked := a.ackNumber - a.oldHeadSequence
  let segsAcked := bytesAcked / s.tcb.m_segmentSize
  let notProcessed := s.m_bytesAckedNotProcessed + bytesAcked % s.tcb.m_segmentSize
  let bytesAcked := bytesAcked - bytesAcked % s.tcb.m_segmentSize
  if notProcessed ≥ s.tcb.m_segmentSize then
    (segsAcked + 1, bytesAcked + s.tcb.m_segmentSize,
      { s with m_bytesAckedNotProcessed := notProcessed - s.tcb.m_segmentSize })
  else (segsAcked, bytesAcked, { s with m_bytesAckedNotProcessed := notProcessed })

/-- An ACK below `m_recover` in `CA_RECOVERY`. -/
def partialAck (s : TcpSocketBase ρ) (a : AckInput) (segsAcked bytesAcked : UInt32) :
    TcpSocketBase ρ :=
  let s := if segsAcked ≥ 1 then s.call ns (.other (.doRecovery a.currentDelivered)) else s
  let s :=
    if a.isRetransmitted (a.ackNumber + s.tcb.m_segmentSize) then s
    else
      (s.doRetransmit ns a.partialRetransmit).write ns fun tcb =>
        { tcb with m_cWndInfl := safeSubtraction tcb.m_cWndInfl bytesAcked }
  (s.pktsAcked ns 1).newAck ns a.ackNumber

/-- An ACK below `m_recover` in `CA_LOSS`. -/
def lossAck (s : TcpSocketBase ρ) (a : AckInput) (segsAcked : UInt32) : TcpSocketBase ρ :=
  ((s.pktsAcked ns segsAcked).call ns (.increaseWindow segsAcked)).newAck ns a.ackNumber

/-- An ACK of new data in `CA_CWR`. -/
def cwrAck (s : TcpSocketBase ρ) (a : AckInput) (segsAcked : UInt32) : TcpSocketBase ρ :=
  let s := s.pktsAcked ns segsAcked
  let s := if segsAcked ≥ 1 then s.call ns (.other (.doRecovery a.currentDelivered)) else s
  s.newAck ns a.ackNumber

/-- The part of an ACK that covers `m_recover`, or that finds no recovery, up to the growth of the
window: the segments to grow by, whether fast recovery was left, and the socket. -/
def settle (s : TcpSocketBase ρ) (a : AckInput) (isDupack : Bool) (oldDupAckCount : UInt32)
    (segsAcked : UInt32) : UInt32 × Bool × TcpSocketBase ρ :=
  match s.tcb.m_congState with
  | .CA_OPEN => (segsAcked, false, s.pktsAcked ns segsAcked)
  | .CA_DISORDER =>
    let s := if segsAcked ≥ oldDupAckCount then s.pktsAcked ns (segsAcked - oldDupAckCount) else s
    (segsAcked, false, if isDupack then s else s.congestionStateSet ns .CA_OPEN)
  | .CA_RECOVERY =>
    let segsAcked := (a.ackNumber - a.oldHeadSequence) / s.tcb.m_segmentSize
    let s := (s.pktsAcked ns segsAcked).congestionStateSet ns .CA_OPEN
    (segsAcked, true, { s with m_dupAckCount := 0 })
  | .CA_LOSS =>
    let segsAcked := (a.ackNumber - s.m_recover) / s.tcb.m_segmentSize
    (segsAcked, false, (s.pktsAcked ns segsAcked).congestionStateSet ns .CA_OPEN)
  | .CA_CWR => (segsAcked, false, s)

def fullAck (s : TcpSocketBase ρ) (a : AckInput) (isDupack : Bool) (oldDupAckCount : UInt32)
    (segsAcked : UInt32) : TcpSocketBase ρ :=
  let (segsAcked, exitedFastRecovery, s) := s.settle ns a isDupack oldDupAckCount segsAcked
  let s := if ns.seqGe a.ackNumber s.m_recover then { s with m_recoverActive := false } else s
  let s :=
    if exitedFastRecovery then
      let s := s.newAck ns a.ackNumber
      let s := s.write ns fun tcb => { tcb with m_cWnd := tcb.m_ssThresh }
      s.call ns (.other .exitRecovery)
    else s
  if s.tcb.m_congState = .CA_OPEN then
    let s := s.call ns (.increaseWindow segsAcked)
    let s := s.write ns fun tcb => { tcb with m_cWndInfl := tcb.m_cWnd }
    s.newAck ns a.ackNumber
  else s

/-- The part of `ProcessAck` for an ACK beyond the head of the buffer. -/
def advancingAck (s : TcpSocketBase ρ) (a : AckInput) (isDupack : Bool)
    (oldDupAckCount : UInt32) : TcpSocketBase ρ :=
  let (segsAcked, bytesAcked, s) := s.countAcked a
  let s := if isDupack then s else { s with m_dupAckCount := 0 }
  if ns.seqLt a.ackNumber s.m_recover ∧ s.tcb.m_congState = .CA_RECOVERY then
    s.partialAck ns a segsAcked bytesAcked
  else if ns.seqLt a.ackNumber s.m_recover ∧ s.tcb.m_congState = .CA_LOSS then
    s.lossAck ns a segsAcked
  else if s.tcb.m_congState = .CA_CWR then s.cwrAck ns a segsAcked
  else s.fullAck ns a isDupack oldDupAckCount segsAcked

def processAck (s : TcpSocketBase ρ) (a : AckInput) : TcpSocketBase ρ :=
  let oldDupAckCount := s.m_dupAckCount
  let s := s.write ns fun tcb => { tcb with m_lastAckedSeq := a.ackNumber }
  let isDupack :=
    if s.m_sackEnabled then decide (a.bytesSacked > 0)
    else a.ackNumber == a.oldHeadSequence && ns.seqLt a.ackNumber s.tcb.m_highTxMark
  let s := if isDupack then s.dupAck ns a else s
  if a.ackNumber = a.oldHeadSequence then
    if a.ackNumber = s.tcb.m_highTxMark then s
    else if ns.seqGt a.ackNumber s.tcb.m_highTxMark then
      s.write ns fun tcb => { tcb with m_nextTxSequence := a.ackNumber }
    else s.pktsAcked ns 1
  else if ns.seqGt a.ackNumber a.oldHeadSequence then
    s.advancingAck ns a isDupack oldDupAckCount
  else s

/-- The loop over the segments of a partial ACK. -/
def retransDataAcked (s : TcpSocketBase ρ) (a : AckInput) : Bool :=
  let segAcked := (a.ackNumber - a.oldHeadSequence) / s.tcb.m_segmentSize
  (List.range segAcked.toNat).any fun i =>
    a.wasRetransmitted (a.ackNumber - UInt32.ofNat i * s.tcb.m_segmentSize)

def leaveCwr (s : TcpSocketBase ρ) (a : AckInput) : TcpSocketBase ρ :=
  if s.tcb.m_congState = .CA_CWR ∧ ns.seqGt a.ackNumber s.m_recover then
    let s := s.setCongState ns .CA_OPEN
    let s := s.write ns fun tcb => { tcb with m_cWnd := tcb.m_ssThresh }
    s.call ns (.other .exitRecovery)
  else s

def echo (s : TcpSocketBase ρ) (a : AckInput) : TcpSocketBase ρ :=
  if ns.seqGt a.ackNumber a.oldHeadSequence ∧ s.tcb.m_ecnState ≠ .ECN_DISABLED ∧ a.ECE then
    if ns.seqLt s.m_ecnEchoSeq a.ackNumber then
      let s := { s with m_ecnEchoSeq := a.ackNumber }
      let s := s.write ns fun tcb => { tcb with m_ecnState := .ECN_ECE_RCVD }
      if s.tcb.m_congState ≠ .CA_CWR then s.enterCwr ns a else s
    else s
  else if s.tcb.m_ecnState = .ECN_ECE_RCVD ∧ ¬ a.ECE then
    s.write ns fun tcb => { tcb with m_ecnState := .ECN_IDLE }
  else s

def receivedAck (s : TcpSocketBase ρ) (a : AckInput) : TcpSocketBase ρ :=
  if ns.seqLt a.ackNumber a.oldHeadSequence then s
  else
    let s :=
      if ns.seqGt a.ackNumber a.oldHeadSequence ∧ ns.seqLt a.ackNumber s.m_recover ∧
          s.tcb.m_congState = .CA_RECOVERY ∧ s.retransDataAcked a then
        s.write ns fun tcb => { tcb with m_isRetransDataAcked := true }
      else s
    let s := s.write ns fun tcb => { tcb with m_lastAckedSackedBytes := a.currentDelivered }
    let s := (s.leaveCwr ns a).echo ns a
    let s := s.write ns fun tcb => { tcb with m_bytesInFlight := a.bytesInFlight }
    let s := s.processAck ns a
    s.write ns fun tcb => { tcb with m_isRetransDataAcked := false }

/-- `ReTxTimeout`, less its timers. Its second test for an empty buffer cannot succeed. -/
def reTxTimeout (s : TcpSocketBase ρ) (t : TimeoutInput) : TcpSocketBase ρ :=
  if t.m_state = .CLOSED ∨ t.m_state = .TIME_WAIT then s
  else if t.m_state = .SYN_SENT then s
  else if t.txBufferSize = 0 then s
  else if t.m_dataRetrCount = 0 then s
  else
    let s := s.write ns fun tcb => { tcb with m_bytesInFlight := t.inFlightBeforeRto }
    let s := { s with
      m_dupAckCount := 0, m_recover := s.tcb.m_highTxMark, m_recoverActive := true }
    s.call ns (.reTxTimeout t.inFlightBeforeRto t.isHeadRetransmitted)

def syn (s : TcpSocketBase ρ) (sackPermitted : Bool) (ackNumber : Option SequenceNumber32) :
    TcpSocketBase ρ :=
  let s := { s with m_sackEnabled := s.m_sackEnabled && sackPermitted }
  let s := s.write ns fun tcb =>
    let cWnd := tcb.m_initialCWnd * tcb.m_segmentSize
    { tcb with m_cWnd := cWnd, m_cWndInfl := cWnd, m_ssThresh := tcb.m_initialSsThresh }
  match ackNumber with
  | none => s
  | some ackNumber => { s with m_highRxAckMark := ackNumber }

def established (s : TcpSocketBase ρ) (handshake : Bool) : TcpSocketBase ρ :=
  let s := s.congestionStateSet ns .CA_OPEN
  if handshake then
    s.write ns fun tcb =>
      let next := tcb.m_nextTxSequence + 1
      { tcb with m_nextTxSequence := next, m_highTxMark := next }
  else s

def step (s : TcpSocketBase ρ) : SocketEvent → TcpSocketBase ρ
  | .syn sackPermitted ackNumber => s.syn ns sackPermitted ackNumber
  | .established handshake => s.established ns handshake
  | .estimateRtt estimate => s.write ns fun tcb => { tcb with m_lastRtt := estimate }
  | .updateWindowSize ackNumber =>
    if ns.seqGt ackNumber s.m_highRxAckMark then { s with m_highRxAckMark := ackNumber } else s
  | .receivedAck a => s.receivedAck ns a
  | .reTxTimeout t => s.reTxTimeout ns t
  | .sendPending segment => s.sendPending ns segment
  | .ecn ecnState => s.write ns fun tcb => { tcb with m_ecnState := ecnState }

/-- The call leaves the congestion state to the operation that makes it. -/
def Plain : Call → Prop
  | .other (.congestionStateSet _) => False
  | .other (.write g) => ∀ tcb, (g tcb).m_congState = tcb.m_congState
  | _ => True

/-- A property that a socket keeps as it goes: under assignments to its own members, under calls, and
when the algorithm is told of the congestion state that is assigned, which is never `CA_CWR`. -/
structure Kept (P : TcpSocketBase ρ → Prop) : Prop where
  same : ∀ {s s' : TcpSocketBase ρ}, P s → s'.flow = s.flow → s'.calls = s.calls → P s'
  call : ∀ {s : TcpSocketBase ρ} {c : Call}, Plain c → P s → P (s.call ns c)
  congestionStateSet : ∀ {s : TcpSocketBase ρ} {newState : TcpCongState}, newState ≠ .CA_CWR →
    P s → P (s.congestionStateSet ns newState)

/-- `receivedAck` up to the end of a congestion window reduction. -/
def beforeLeaving (s : TcpSocketBase ρ) (i : AckInput) : TcpSocketBase ρ :=
  let s :=
    if ns.seqGt i.ackNumber i.oldHeadSequence ∧ ns.seqLt i.ackNumber s.m_recover ∧
        s.tcb.m_congState = .CA_RECOVERY ∧ s.retransDataAcked i then
      s.write ns fun tcb => { tcb with m_isRetransDataAcked := true }
    else s
  s.write ns fun tcb => { tcb with m_lastAckedSackedBytes := i.currentDelivered }

def afterLeaving (s : TcpSocketBase ρ) (i : AckInput) : TcpSocketBase ρ :=
  let s := s.echo ns i
  let s := s.write ns fun tcb => { tcb with m_bytesInFlight := i.bytesInFlight }
  let s := s.processAck ns i
  s.write ns fun tcb => { tcb with m_isRetransDataAcked := false }

theorem receivedAck_eq (s : TcpSocketBase ρ) (i : AckInput) : s.receivedAck ns i =
    if ns.seqLt i.ackNumber i.oldHeadSequence then s
    else ((s.beforeLeaving ns i).leaveCwr ns i).afterLeaving ns i := rfl

section Steps
variable {ns} {P : TcpSocketBase ρ → Prop} {s : TcpSocketBase ρ}

theorem Kept.ite {b c : TcpSocketBase ρ} {p : Prop} [Decidable p] (hb : P b) (hc : P c) :
    P (if p then b else c) := by
  split
  · exact hb
  · exact hc

variable (hP : Kept ns P)
include hP

theorem Kept.write {g : SocketState → SocketState}
    (hg : ∀ tcb, (g tcb).m_congState = tcb.m_congState) (h : P s) : P (s.write ns g) :=
  hP.call hg h

theorem Kept.sendDataPacket (h : P s) (segment : Segment) (b : Bool) :
    P (s.sendDataPacket ns segment b) := by
  unfold TcpSocketBase.sendDataPacket
  extract_lets s0 s1 s2
  have h0 : P s0 := hP.write (fun _ => rfl) h
  have h1 : P s1 := Kept.ite (hP.same h0 rfl rfl) h
  have h2 : P s2 := Kept.ite (hP.call trivial h1) h1
  exact hP.write (fun _ => rfl) h2

theorem Kept.pktsAcked (h : P s) (segs : UInt32) : P (s.pktsAcked ns segs) := by
  unfold TcpSocketBase.pktsAcked
  exact hP.call trivial h

theorem Kept.doRetransmit (h : P s) (segment : Segment) : P (s.doRetransmit ns segment) := by
  unfold TcpSocketBase.doRetransmit
  extract_lets s1
  have h1 : P s1 := hP.write (fun _ => rfl) h
  exact hP.sendDataPacket h1 segment true

theorem Kept.newAck (h : P s) (ack : SequenceNumber32) : P (s.newAck ns ack) :=
  Kept.ite (hP.write (fun _ => rfl) h) h

theorem Kept.enterCwr (h : P s) (i : AckInput) : P (s.enterCwr ns i) := by
  unfold TcpSocketBase.enterCwr
  extract_lets s1 s2
  have h1 : P s1 := hP.write (fun _ => rfl) h
  have h2 : P s2 := hP.same h1 rfl rfl
  exact hP.call trivial h2

theorem Kept.enterRecovery (h : P s) (i : AckInput) : P (s.enterRecovery ns i) := by
  unfold TcpSocketBase.enterRecovery
  extract_lets s1 s2 _ s3
  have h1 : P s1 := hP.same h rfl rfl
  have h2 : P s2 := hP.write (fun _ => rfl) h1
  have h3 : P s3 := hP.call trivial h2
  exact hP.doRetransmit h3 _

theorem Kept.dupAck (h : P s) (i : AckInput) : P (s.dupAck ns i) := by
  unfold TcpSocketBase.dupAck
  extract_lets s1 s2
  have h1 : P s1 := Kept.ite (hP.same h rfl rfl) h
  have h2 : P s2 := Kept.ite (hP.congestionStateSet (by decide) h1) h1
  clear_value s1 s2
  split_ifs
  · exact h
  · exact hP.call trivial h2
  · exact hP.enterRecovery h2 i
  · exact hP.enterRecovery h2 i
  · exact h2
  · exact h2

theorem Kept.partialAck (h : P s) (i : AckInput) (segs bytes : UInt32) :
    P (s.partialAck ns i segs bytes) := by
  unfold TcpSocketBase.partialAck
  extract_lets s1 s2
  have h1 : P s1 := Kept.ite (hP.call trivial h) h
  have h2 : P s2 := Kept.ite h1 (hP.write (fun _ => rfl) (hP.doRetransmit h1 _))
  exact hP.newAck (hP.pktsAcked h2 1) _

theorem Kept.lossAck (h : P s) (i : AckInput) (segs : UInt32) : P (s.lossAck ns i segs) := by
  have h1 : P (s.pktsAcked ns segs) := hP.pktsAcked h segs
  have h2 : P ((s.pktsAcked ns segs).call ns (.increaseWindow segs)) := hP.call trivial h1
  exact hP.newAck h2 _

theorem Kept.cwrAck (h : P s) (i : AckInput) (segs : UInt32) : P (s.cwrAck ns i segs) := by
  unfold TcpSocketBase.cwrAck
  extract_lets s1 s2
  have h1 : P s1 := hP.pktsAcked h segs
  have h2 : P s2 := Kept.ite (hP.call trivial h1) h1
  exact hP.newAck h2 _

theorem Kept.settle (h : P s) (i : AckInput) (d : Bool) (old segs : UInt32) :
    P (s.settle ns i d old segs).2.2 := by
  unfold TcpSocketBase.settle
  split
  · exact hP.pktsAcked h _
  · extract_lets s1
    have h1 : P s1 := Kept.ite (hP.pktsAcked h _) h
    exact Kept.ite h1 (hP.congestionStateSet (by decide) h1)
  · exact hP.same (hP.congestionStateSet (by decide) (hP.pktsAcked h _)) rfl rfl
  · exact hP.congestionStateSet (by decide) (hP.pktsAcked h _)
  · exact h

theorem Kept.fullAck (h : P s) (i : AckInput) (d : Bool) (old segs : UInt32) :
    P (s.fullAck ns i d old segs) := by
  unfold TcpSocketBase.fullAck
  have h0 := hP.settle h i d old segs
  generalize s.settle ns i d old segs = r at h0
  obtain ⟨segs', exited, s0⟩ := r
  dsimp -zeta only
  extract_lets s1 s2 s3 s4 s5 s6
  have h1 : P s1 := Kept.ite (hP.same h0 rfl rfl) h0
  have h3 : P s3 := hP.write (fun _ => rfl) (hP.newAck h1 _)
  have h4 : P s4 := Kept.ite (hP.call trivial h3) h1
  have h6 : P s6 := hP.write (fun _ => rfl) (hP.call trivial h4)
  exact Kept.ite (hP.newAck h6 _) h4

theorem Kept.advancingAck (h : P s) (i : AckInput) (d : Bool) (old : UInt32) :
    P (s.advancingAck ns i d old) := by
  unfold TcpSocketBase.advancingAck
  have h0 : P (s.countAcked i).2.2 := by
    unfold countAcked
    extract_lets
    split
    · exact hP.same h rfl rfl
    · exact hP.same h rfl rfl
  generalize s.countAcked i = r at h0
  obtain ⟨segs, bytes, s0⟩ := r
  dsimp -zeta only
  extract_lets s1
  have h1 : P s1 := Kept.ite h0 (hP.same h0 rfl rfl)
  clear_value s1
  split_ifs
  · exact hP.partialAck h1 _ _ _
  · exact hP.lossAck h1 _ _
  · exact hP.cwrAck h1 _ _
  · exact hP.fullAck h1 _ _ _ _

theorem Kept.processAck (h : P s) (i : AckInput) : P (s.processAck ns i) := by
  unfold TcpSocketBase.processAck
  extract_lets old s1 d s2
  have h1 : P s1 := hP.write (fun _ => rfl) h
  have h2 : P s2 := Kept.ite (hP.dupAck h1 i) h1
  clear_value s1 d s2
  split_ifs
  · exact h2
  · exact hP.write (fun _ => rfl) h2
  · exact hP.pktsAcked h2 1
  · exact hP.advancingAck h2 _ _ _
  · exact h2

theorem Kept.echo (h : P s) (i : AckInput) : P (s.echo ns i) := by
  unfold TcpSocketBase.echo
  extract_lets s1 s2
  have h1 : P s1 := hP.same h rfl rfl
  have h2 : P s2 := hP.write (fun _ => rfl) h1
  have h3 : P (if s2.tcb.m_congState ≠ .CA_CWR then s2.enterCwr ns i else s2) :=
    Kept.ite (hP.enterCwr h2 i) h2
  exact Kept.ite (Kept.ite h3 h) (Kept.ite (hP.write (fun _ => rfl) h) h)

theorem Kept.beforeLeaving (h : P s) (i : AckInput) : P (s.beforeLeaving ns i) := by
  unfold TcpSocketBase.beforeLeaving
  extract_lets s1
  have h1 : P s1 := Kept.ite (hP.write (fun _ => rfl) h) h
  exact hP.write (fun _ => rfl) h1

theorem Kept.afterLeaving (h : P s) (i : AckInput) : P (s.afterLeaving ns i) := by
  unfold TcpSocketBase.afterLeaving
  extract_lets s1 s2 s3
  have h1 : P s1 := hP.echo h i
  have h2 : P s2 := hP.write (fun _ => rfl) h1
  have h3 : P s3 := hP.processAck h2 i
  exact hP.write (fun _ => rfl) h3

theorem Kept.reTxTimeout (h : P s) (t : TimeoutInput) : P (s.reTxTimeout ns t) := by
  unfold TcpSocketBase.reTxTimeout
  extract_lets s1 s2
  have h1 : P s1 := hP.write (fun _ => rfl) h
  have h2 : P s2 := hP.same h1 rfl rfl
  split_ifs
  · exact h
  · exact h
  · exact h
  · exact h
  · exact hP.call trivial h2

theorem Kept.syn (h : P s) (sackPermitted : Bool) (ackNumber : Option SequenceNumber32) :
    P (s.syn ns sackPermitted ackNumber) := by
  unfold TcpSocketBase.syn
  extract_lets s1 s2
  have h1 : P s1 := hP.same h rfl rfl
  have h2 : P s2 := hP.write (fun _ => rfl) h1
  clear_value s2
  split
  · exact h2
  · exact hP.same h2 rfl rfl

theorem Kept.sendPending (h : P s) (segment : Segment) : P (s.sendPending ns segment) := by
  unfold TcpSocketBase.sendPending
  extract_lets s1 s2
  have h1 : P s1 := hP.write (fun _ => rfl) h
  have h2 : P s2 := hP.sendDataPacket h1 segment false
  exact hP.write (fun _ => rfl) h2

theorem Kept.established (h : P s) (handshake : Bool) : P (s.established ns handshake) :=
  Kept.ite (hP.write (fun _ => rfl) (hP.congestionStateSet (by decide) h)) (hP.congestionStateSet (by decide) h)

/-- Every event of the socket keeps such a property, if the end of a congestion window reduction
does. -/
theorem Kept.step (h : P s) (e : SocketEvent)
    (hleave : ∀ i, e = .receivedAck i → ¬ ns.seqLt i.ackNumber i.oldHeadSequence →
      P (s.beforeLeaving ns i) → P ((s.beforeLeaving ns i).leaveCwr ns i)) :
    P (s.step ns e) := by
  cases e with
  | syn sackPermitted ackNumber => exact hP.syn h sackPermitted ackNumber
  | established handshake => exact hP.established h handshake
  | estimateRtt estimate => exact hP.write (fun _ => rfl) h
  | updateWindowSize ackNumber =>
    unfold TcpSocketBase.step
    exact Kept.ite (hP.same h rfl rfl) h
  | receivedAck i =>
    change P (s.receivedAck ns i)
    rw [receivedAck_eq]
    split_ifs with hold
    · exact h
    · exact hP.afterLeaving (hleave i rfl hold (hP.beforeLeaving h i)) i
  | reTxTimeout t => exact hP.reTxTimeout h t
  | sendPending segment => exact hP.sendPending h segment
  | ecn ecnState => exact hP.write (fun _ => rfl) h

end Steps

section Record

/-- `s'` is `s` after further calls, all of them on record. -/
def Continues (s s' : TcpSocketBase ρ) : Prop :=
  ∃ cs, s'.calls = s.calls ++ cs ∧ s'.flow = run (Flow.step ns) s.flow cs

variable {ns} {a s : TcpSocketBase ρ}

theorem Continues.refl (s : TcpSocketBase ρ) : Continues ns s s := ⟨[], by simp, rfl⟩

theorem Continues.call (h : Continues ns a s) (c : Call) : Continues ns a (s.call ns c) := by
  obtain ⟨cs, hc, hf⟩ := h
  refine ⟨cs ++ [c], ?_, ?_⟩
  · rw [TcpSocketBase.call, hc, List.append_assoc]
  · rw [TcpSocketBase.call, run_snoc, hf]

theorem continues_kept (a : TcpSocketBase ρ) : Kept ns (Continues ns a) where
  same h hf hc := by
    obtain ⟨cs, h1, h2⟩ := h
    exact ⟨cs, hc.trans h1, hf.trans h2⟩
  call _ h := h.call _
  congestionStateSet _ h := (h.call _).call _

theorem Continues.leaveCwr (h : Continues ns a s) (i : AckInput) :
    Continues ns a (s.leaveCwr ns i) :=
  Kept.ite (((h.call _).call _).call _) h

theorem Continues.step (h : Continues ns a s) (e : SocketEvent) : Continues ns a (s.step ns e) :=
  (continues_kept a).step h e fun i _ _ hb => hb.leaveCwr i

theorem Continues.run (h : Continues ns a s) (evs : List SocketEvent) :
    Continues ns a (run (TcpSocketBase.step ns) s evs) :=
  run_invariant (fun _ e h => h.step e) h evs

end Record

variable {ns}

theorem run_flow {s : TcpSocketBase ρ} (hs : s.calls = []) (evs : List SocketEvent) :
    (run (TcpSocketBase.step ns) s evs).flow =
      run (Flow.step ns) s.flow (run (TcpSocketBase.step ns) s evs).calls := by
  obtain ⟨cs, hc, hf⟩ := (Continues.refl s).run evs
  rw [hf, hc, hs, List.nil_append]

end TcpSocketBase

def callsOf (ns : Ns3 ρ) (s : TcpSocketBase ρ) (evs : List SocketEvent) : List Call :=
  (run (TcpSocketBase.step ns) { s with calls := [] } evs).calls

end NetSessional.Vegas
