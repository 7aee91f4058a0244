import NetSessional.Tcp.Teardown

/-! What a socket does with a segment that arrives. Of an ACK's effect on the loss recovery, which the
sender's model has, only the calls that reach the connection are kept, in the order they are made. -/

namespace NetSessional.Tcp
open Vegas

/-- A call that `ProcessAck`, or `EnterCwr` before it, makes of the connection. -/
inductive AckAction (τ : Type) where
  | retransmit
  | newAck (resetRTO : Bool)
  /-- `m_nextTxSequence = ackNumber` -/
  | advance
  | window (cWnd : UInt32) (congState : TcpCongState)
  /-- marks on the send buffer -/
  | mark (g : τ → τ)

/-- What arrives: a segment, whether its packet is marked CE, and what its ACK will call for. -/
structure Arrival (τ : Type) where
  segment : TcpSegment
  CE : Bool := false
  actions : List (AckAction τ) := []

namespace TcpSocketBase
variable {τ χ ε : Type} (k : Stack τ χ ε) (s : TcpSocketBase τ χ ε)

/-- The ACK policy of `ReceivedData`: at once for a gap, else delayed. -/
def ackData (expectedSeq : SequenceNumber32) (size : UInt32) : TcpSocketBase τ χ ε :=
  if k.rxSize s.m_rxBuffer > k.rxAvailable s.m_rxBuffer ∨
      k.seqGt (k.nextRxSequence s.m_rxBuffer) (expectedSeq + size) then
    s.sendAck k
  else
    let s := { s with m_delAckCount := s.m_delAckCount + 1 }
    if s.m_delAckCount ≥ s.m_delAckMaxCount then s.cancelDelAck.sendAck k
    else if s.timers.m_delAckEvent = none then
      { s with timers := { s.timers with m_delAckEvent := some (s.now + s.m_delAckTimeout) } }
    else s

def notifyDataRecv : TcpSocketBase τ χ ε :=
  if s.m_shutdownRecv then s
  else { s with m_rxBuffer := k.onDataRecv s.m_rxBuffer }.notify .dataRecv

def receivedData (header : TcpHeader) (size : UInt32) : TcpSocketBase τ χ ε :=
  let expectedSeq := k.nextRxSequence s.m_rxBuffer
  let r := k.rxAdd s.m_rxBuffer header size
  let s := { s with m_rxBuffer := r.2 }
  if !r.1 then s.sendAck k
  else if k.seqLt expectedSeq (k.nextRxSequence s.m_rxBuffer) then
    let s := s.notifyDataRecv k
    if k.finished s.m_rxBuffer ∧ ¬ header.flags.FIN then s.doPeerClose k
    else s.ackData k expectedSeq size
  else s.ackData k expectedSeq size

def receivedPiggyback (header : TcpHeader) (size : UInt32) : TcpSocketBase τ χ ε :=
  if size > 0 then s.receivedData k header size else s

def peerClose (header : TcpHeader) (size : UInt32) : TcpSocketBase τ χ ε :=
  if k.seqLt header.sequenceNumber (k.nextRxSequence s.m_rxBuffer) ∨
      k.seqGt header.sequenceNumber (k.maxRxSequence s.m_rxBuffer) then s
  else
    let s := { s with
      m_rxBuffer := k.setFinSequence s.m_rxBuffer (header.sequenceNumber + size) }
    let s := s.receivedPiggyback k header size
    if ¬ k.finished s.m_rxBuffer then s
    else if s.m_state = .FIN_WAIT_1 then s.goto .CLOSING
    else s.doPeerClose k

def doRetransmit : TcpSocketBase τ χ ε :=
  let range :=
    match k.nextSeg s.m_txBuffer false with
    | none => (k.headSequence s.m_txBuffer, s.m_tcb.m_segmentSize)
    | some (seq, seqHigh) => (seq, seqHigh - seq)
  let s := { s with m_tcb := { s.m_tcb with m_nextTxSequence := range.1 } }
  (s.sendDataPacket k range.1 range.2 true).2

/-- `NewAck` moves the retransmission timer, unless the state is `SYN_RCVD`. -/
def restartRetx (resetRTO : Bool) : TcpSocketBase τ χ ε :=
  if s.m_state ≠ .SYN_RCVD ∧ resetRTO then
    let s := { s with m_rto := max (s.estimateRto k) s.m_minRto }
    s.scheduleRetx .reTxTimeout s.m_rto
  else s

def notifySend : TcpSocketBase τ χ ε :=
  if k.txAvailable s.m_txBuffer > 0 then s.notify (.send (k.txAvailable s.m_txBuffer)) else s

def newAck (ack : SequenceNumber32) (resetRTO : Bool) : TcpSocketBase τ χ ε :=
  let s := { s with m_dataRetrCount := s.m_dataRetries }
  let s := (s.restartRetx k resetRTO).notifySend k
  let s := { s with m_tcb := { s.m_tcb with
    m_nextTxSequence :=
      if k.seqGt ack s.m_tcb.m_nextTxSequence then ack else s.m_tcb.m_nextTxSequence } }
  if k.txSize s.m_txBuffer = 0 ∧ s.m_state ≠ .FIN_WAIT_1 ∧ s.m_state ≠ .CLOSING then s.cancelRetx
  else s

def act (ack : SequenceNumber32) : AckAction τ → TcpSocketBase τ χ ε
  | .retransmit => s.doRetransmit k
  | .newAck resetRTO => s.newAck k ack resetRTO
  | .advance => { s with m_tcb := { s.m_tcb with m_nextTxSequence := ack } }
  | .window cWnd congState =>
    { s with m_tcb := { s.m_tcb with m_cWnd := cWnd, m_congState := congState } }
  | .mark g => { s with m_txBuffer := g s.m_txBuffer }

def acts (ack : SequenceNumber32) (actions : List (AckAction τ)) : TcpSocketBase τ χ ε :=
  actions.foldl (fun s a => s.act k ack a) s

/-- The sender's side of the ECN echo; the window reduction is among the actions. -/
def echo (header : TcpHeader) (oldHeadSequence : SequenceNumber32) : TcpSocketBase τ χ ε :=
  if k.seqGt header.ackNumber oldHeadSequence ∧ s.m_tcb.m_ecnState ≠ .ECN_DISABLED ∧
      header.flags.ECE then
    if k.seqLt s.m_ecnEchoSeq header.ackNumber then
      { s with m_ecnEchoSeq := header.ackNumber }.setEcnState .ECN_ECE_RCVD
    else s
  else if s.m_tcb.m_ecnState = .ECN_ECE_RCVD ∧ ¬ header.flags.ECE then s.setEcnState .ECN_IDLE
  else s

def receivedAck (header : TcpHeader) (size : UInt32) (actions : List (AckAction τ)) :
    TcpSocketBase τ χ ε :=
  let s := s.assert (header.flags.ACK = true) .ackFlag
  let s : TcpSocketBase τ χ ε :=
    if header.sack = [] then s
    else { s with m_txBuffer := k.txUpdate s.m_txBuffer header.sack }
  let oldHeadSequence := k.headSequence s.m_txBuffer
  if k.seqLt header.ackNumber oldHeadSequence then s.receivedPiggyback k header size
  else
    let s := { s with m_txBuffer := k.discardUpTo s.m_txBuffer header.ackNumber }
    let s := (s.echo k header oldHeadSequence).acts k header.ackNumber actions
    let s := s.receivedPiggyback k header size
    s.sendPendingData k s.m_connected

/-- A segment that makes no sense in the state: unless it is a reset itself, it is answered with
one. -/
def refuse (reset : Prop) [Decidable reset] : TcpSocketBase τ χ ε :=
  (if reset then s else s.sendRST k).closeAndNotify

def processEstablished (a : Arrival τ) : TcpSocketBase τ χ ε :=
  let header := a.segment.header
  let size := a.segment.size
  let tcpflags := header.flags.mask
  if tcpflags = { ACK := true } then
    if k.seqLt header.ackNumber (k.headSequence s.m_txBuffer) then s
    else if k.seqGt header.ackNumber s.m_tcb.m_highTxMark then s.sendAck k
    else s.receivedAck k header size a.actions
  else if tcpflags = { SYN := true } then s
  else if tcpflags = { SYN := true, ACK := true } then s
  else if tcpflags = { FIN := true } ∨ tcpflags = { FIN := true, ACK := true } then
    s.peerClose k header size
  else if tcpflags = {} then
    let s := s.receivedData k header size
    if k.finished s.m_rxBuffer then s.peerClose k header size else s
  else s.refuse k (tcpflags = { RST := true })

/-- The peer's sequence numbers start after the SYN. -/
def setNextRx (seq : SequenceNumber32) : TcpSocketBase τ χ ε :=
  { s with
    m_rxBuffer := k.setNextRxSequence s.m_rxBuffer (seq + 1)
    rxStart := some (seq + 1) }

/-- The answer to a SYN, which depends on whether both ends want ECN. -/
def sendSynAck (flags : Flags) : TcpSocketBase τ χ ε :=
  if s.m_useEcn ≠ .Off ∧ flags.CWR ∧ flags.ECE then
    (s.sendEmptyPacket k { SYN := true, ACK := true, ECE := true }).setEcnState .ECN_IDLE
  else (s.setEcnState .ECN_DISABLED).sendEmptyPacket k { SYN := true, ACK := true }

/-- The handshake counts for one in the send sequence. -/
def consumeSyn : TcpSocketBase τ χ ε :=
  let next := s.m_tcb.m_nextTxSequence + 1
  { s with
    m_tcb := { s.m_tcb with m_nextTxSequence := next, m_highTxMark := next }
    m_txBuffer := k.setHeadSequence s.m_txBuffer next }

def establish : TcpSocketBase τ χ ε := { s with m_state := .ESTABLISHED, m_connected := true }

/-- `ConnectionSucceeded`, which is scheduled for the same time. -/
def connectionSucceeded : TcpSocketBase τ χ ε := (s.notify .connectionSucceeded).notifySend k

/-- Bare data in `SYN_SENT`, which is taken for an open connection. -/
def acceptBare (header : TcpHeader) (size : UInt32) : TcpSocketBase τ χ ε :=
  let s := { s with m_tcb := { s.m_tcb with m_congState := .CA_OPEN } }
  let s := s.establish.cancelRetx
  let s := { s with m_delAckCount := s.m_delAckMaxCount }
  (s.receivedData k header size).connectionSucceeded k

/-- The handshake is completed by the peer's SYN and ACK. -/
def completeHandshake (seq : SequenceNumber32) (tcpflags : Flags) : TcpSocketBase τ χ ε :=
  let s := { s with m_tcb := { s.m_tcb with m_congState := .CA_OPEN } }
  let s := (s.establish.cancelRetx.setNextRx k seq).consumeSyn k
  let s := s.sendEmptyPacket k { ACK := true }
  let s := s.setEcnState
    (if s.m_useEcn ≠ .Off ∧ ¬ tcpflags.CWR ∧ tcpflags.ECE then .ECN_IDLE else .ECN_DISABLED)
  let s := (s.sendPendingData k s.m_connected).connectionSucceeded k
  { s with m_delAckCount := s.m_delAckMaxCount }

def processSynSent (a : Arrival τ) : TcpSocketBase τ χ ε :=
  let header := a.segment.header
  let tcpflags := header.flags.maskPush
  if tcpflags = {} then s.acceptBare k header a.segment.size
  else if tcpflags.ACK ∧ ¬ tcpflags.SYN then s
  else if tcpflags.SYN ∧ ¬ tcpflags.ACK then
    let s := { s with m_synCount := s.m_synRetries }.goto .SYN_RCVD
    (s.setNextRx k header.sequenceNumber).sendSynAck k tcpflags
  else if (tcpflags.SYN ∨ tcpflags.ACK) ∧ s.m_tcb.m_nextTxSequence + 1 = header.ackNumber then
    s.completeHandshake k header.sequenceNumber tcpflags
  else s.refuse k tcpflags.RST

def setPeer (peer : Address) : TcpSocketBase τ χ ε :=
  { s with m_endPoint := s.m_endPoint.map fun e => { e with peer := peer } }

/-- The application is told of the connection that a peer has opened. -/
def connectionCreated (peer : Address) : TcpSocketBase τ χ ε :=
  ((s.cancelRetx.consumeSyn k).setPeer peer).notify .newConnectionCreated

/-- The handshake is completed by the peer's ACK, or bare data is taken for it. -/
def acceptConnection (a : Arrival τ) : TcpSocketBase τ χ ε :=
  let s := { s with m_tcb := { s.m_tcb with m_congState := .CA_OPEN } }
  let s := s.establish.connectionCreated k a.segment.source
  let s := { s with m_delAckCount := s.m_delAckMaxCount }
  (s.receivedAck k a.segment.header a.segment.size a.actions).notifySend k

def processSynRcvd (a : Arrival τ) : TcpSocketBase τ χ ε :=
  let header := a.segment.header
  let tcpflags := header.flags.mask
  if tcpflags = {} ∨
      (tcpflags = { ACK := true } ∧ s.m_tcb.m_nextTxSequence + 1 = header.ackNumber) then
    s.acceptConnection k a
  else if tcpflags = { SYN := true } then
    (s.setNextRx k header.sequenceNumber).sendSynAck k header.flags
  else if tcpflags = { FIN := true, ACK := true } then
    if header.sequenceNumber = k.nextRxSequence s.m_rxBuffer then
      -- a FIN before the connection is complete
      let s := { s with m_connected := true }.connectionCreated k a.segment.source
      s.peerClose k header a.segment.size
    else s
  else
    (if tcpflags = { RST := true } then s
      else (s.setPeer a.segment.source).sendRST k).closeAndNotify

def finishWait (header : TcpHeader) : TcpSocketBase τ χ ε :=
  if (s.m_state = .FIN_WAIT_1 ∨ s.m_state = .FIN_WAIT_2) ∧ k.finished s.m_rxBuffer then
    let s :=
      if s.m_state = .FIN_WAIT_1 then
        let s := s.goto .CLOSING
        if k.txSize s.m_txBuffer = 0 ∧ header.ackNumber = s.m_tcb.m_highTxMark + 1 then s.timeWait
        else s
      else s.timeWait
    (s.sendEmptyPacket k { ACK := true }).notifyDataRecv k
  else s

def processWait (a : Arrival τ) : TcpSocketBase τ χ ε :=
  let header := a.segment.header
  let size := a.segment.size
  let tcpflags := header.flags.mask
  if size > 0 ∧ ¬ tcpflags.ACK then (s.receivedData k header size).finishWait k header
  else if tcpflags = { ACK := true } then
    let s := s.receivedAck k header size a.actions
    let s : TcpSocketBase τ χ ε :=
      if s.m_state = .FIN_WAIT_1 ∧ k.txSize s.m_txBuffer = 0 ∧
          header.ackNumber = s.m_tcb.m_highTxMark + 1 then
        s.goto .FIN_WAIT_2
      else s
    s.finishWait k header
  else if tcpflags = { FIN := true } ∨ tcpflags = { FIN := true, ACK := true } then
    let s := if tcpflags.ACK then s.receivedAck k header size a.actions else s
    { s with m_rxBuffer := k.setFinSequence s.m_rxBuffer header.sequenceNumber }.finishWait k header
  else if tcpflags = { SYN := true } ∨ tcpflags = { SYN := true, ACK := true } then s
  else s.refuse k (tcpflags = { RST := true })

def processClosing (a : Arrival τ) : TcpSocketBase τ χ ε :=
  let header := a.segment.header
  let tcpflags := header.flags.maskPush
  if tcpflags = { ACK := true } then
    if header.sequenceNumber = k.nextRxSequence s.m_rxBuffer then s.timeWait else s
  else if tcpflags = { FIN := true } ∨ tcpflags = { FIN := true, ACK := true } then
    (s.sendEmptyPacket k { ACK := true }).closeAndNotify
  else s.refuse k (tcpflags = { RST := true })

def processLastAck (a : Arrival τ) : TcpSocketBase τ χ ε :=
  let header := a.segment.header
  let tcpflags := header.flags.maskPush
  if tcpflags = {} then s.receivedData k header a.segment.size
  else if tcpflags = { ACK := true } then
    if header.sequenceNumber = k.nextRxSequence s.m_rxBuffer then s.closeAndNotify else s
  else if tcpflags = { FIN := true } then s.sendEmptyPacket k { FIN := true, ACK := true }
  else s.refuse k (tcpflags = { FIN := true, ACK := true } ∨ tcpflags = { RST := true })

/-- A segment for a closed socket. Its own end point is not used for the answer. -/
def processClosed (a : Arrival τ) : TcpSocketBase τ χ ε :=
  let header := a.segment.header
  if header.flags.maskPush ≠ { RST := true } then
    let h := s.addOptions k
      { flags := { RST := true }
        sequenceNumber := s.m_tcb.m_nextTxSequence
        ackNumber := k.nextRxSequence s.m_rxBuffer
        windowSize := s.advertisedWindowSize k true }
    { s with m_advWnd := s.receiveSpace k }.transmit ⟨a.segment.destination, a.segment.source⟩ h 0
  else s

end TcpSocketBase

end NetSessional.Tcp
