import NetSessional.Tcp.Header

/-! What a socket puts on the wire: the window it advertises, the options of a header, segments without
data, and segments from the send buffer. -/

namespace NetSessional.Tcp
open Vegas

namespace TcpSocketBase
variable {τ χ ε : Type} (k : Stack τ χ ε) (s : TcpSocketBase τ χ ε)

/-- The smoothed round trip and four times its variation, of which the time-outs are made. -/
def estimateRto : Time :=
  k.getEstimate s.m_rtt + max s.m_clockGranularity (k.getVariation s.m_rtt * 4)

/-- The room `AdvertisedWindowSize` finds. After a FIN it is what was found last. -/
def receiveSpace : UInt32 :=
  if k.gotFin s.m_rxBuffer then s.m_advWnd
  else k.maxRxSequence s.m_rxBuffer - k.nextRxSequence s.m_rxBuffer

def advertisedWindowSize (scale : Bool) : UInt16 :=
  let w := s.receiveSpace k
  let w := if scale then w >>> s.m_rcvWindShift.toUInt32 else w
  (if w > s.m_maxWinSize.toUInt32 then s.m_maxWinSize.toUInt32 else w).toUInt16

/-- The loop of `CalculateWScale`, whose 32-bit argument is shifted out in 32 rounds. -/
def scaleLoop (maxWinSize : UInt32) : ℕ → UInt32 → UInt8 → UInt8
  | 0, _, scale => scale
  | rounds + 1, maxSpace, scale =>
    if maxSpace > maxWinSize then scaleLoop maxWinSize rounds (maxSpace >>> 1) (scale + 1) else scale

def calculateWScale : UInt8 :=
  let scale := scaleLoop s.m_maxWinSize.toUInt32 32 (k.maxBufferSize s.m_rxBuffer) 0
  if scale > 14 then 14 else scale

def addOptions (header : TcpHeader) : TcpHeader :=
  if s.m_timestampEnabled then
    { header with ts := some (k.nowToTsValue s.now, s.m_timestampToEcho) }
  else header

def addOptionSack (header : TcpHeader) : TcpHeader :=
  let optionLenAvail := (k.maxOptionLength - k.optionLength header).toNat
  let allowedSackBlocks := (optionLenAvail - 2) / 8
  { header with sack := (k.sackList s.m_rxBuffer).take allowedSackBlocks }

def goto (state : TcpStates) : TcpSocketBase τ χ ε := { s with m_state := state }

def notify (n : Notification) : TcpSocketBase τ χ ε := { s with notified := s.notified ++ [n] }

def transmit (endPoint : EndPoint) (header : TcpHeader) (size : UInt32) : TcpSocketBase τ χ ε :=
  { s with sent := s.sent ++ [⟨header, size, endPoint.localName, endPoint.peer⟩] }

def scheduleRetx (handler : RetxHandler) (delay : Time) : TcpSocketBase τ χ ε :=
  { s with timers := { s.timers with m_retxEvent := some (handler, s.now + delay) } }

def cancelRetx : TcpSocketBase τ χ ε := { s with timers := { s.timers with m_retxEvent := none } }

def cancelDelAck : TcpSocketBase τ χ ε :=
  { s with
    timers := { s.timers with m_delAckEvent := none }
    m_delAckCount := 0 }

def ackSent (ackNumber : SequenceNumber32) : TcpSocketBase τ χ ε :=
  let s := s.cancelDelAck
  { s with
    m_highTxAck := if k.seqLt s.m_highTxAck ackNumber then ackNumber else s.m_highTxAck }

/-- `DeallocateEndPoint`, which cancels the timers if there is an end point. -/
def deallocateEndPoint : TcpSocketBase τ χ ε :=
  match s.m_endPoint with
  | none => s
  | some _ => { s with m_endPoint := none, timers := {} }

def updateRttHistory (seq : SequenceNumber32) (sz : UInt32) (isRetransmission : Bool) :
    TcpSocketBase τ χ ε :=
  let rec mark : List RttHistory → List RttHistory
    | [] => []
    | i :: rest =>
      if k.seqGe seq i.seq ∧ k.seqLt seq (i.seq + i.count) then
        { i with retx := true, count := (seq + sz) - i.seq } :: rest
      else i :: mark rest
  if isRetransmission then { s with m_history := mark s.m_history }
  else { s with m_history := s.m_history ++ [{ seq := seq, count := sz, time := s.now }] }

/-- The rest of `SendEmptyPacket`, from where the header's window is set. -/
def emitEmpty (endPoint : EndPoint) (flags : Flags) (seq : SequenceNumber32) :
    TcpSocketBase τ χ ε :=
  let header := s.addOptions k
    { flags := flags
      sequenceNumber := seq
      ackNumber := k.nextRxSequence s.m_rxBuffer
      windowSize := s.advertisedWindowSize k (!flags.SYN)
      winScale := if flags.SYN ∧ s.m_winScalingEnabled then some s.m_rcvWindShift else none
      sackPermitted := flags.SYN && s.m_sackEnabled }
  let header :=
    if flags.ACK ∧ s.m_sackEnabled ∧ k.sackList s.m_rxBuffer ≠ [] then s.addOptionSack k header
    else header
  let s := if flags.ACK then s.ackSent k header.ackNumber else s
  let s := s.transmit endPoint header 0
  if s.timers.m_retxEvent = none ∧ (flags.SYN ∨ flags.FIN) ∧ flags ≠ { ACK := true } then
    s.scheduleRetx (.sendEmptyPacket flags) s.m_rto
  else s

def connectionFailed : TcpSocketBase τ χ ε :=
  let s := { s with m_rtt := k.rttReset s.m_rtt }
  let s := s.notify .connectionFailed
  (s.goto .CLOSED).deallocateEndPoint

/-- `0x1 << (m_synRetries - m_synCount)`, in an `int` -/
def backoffCount : Int32 := 1 <<< (s.m_synRetries - s.m_synCount).toInt32

def countSyn (seq : SequenceNumber32) : TcpSocketBase τ χ ε :=
  let s := { s with
    m_rto := s.m_cnTimeout * s.backoffCount.toInt
    m_synCount := s.m_synCount - 1 }
  s.updateRttHistory k seq 0 (decide (s.m_synRetries - 1 ≠ s.m_synCount))

def sendEmptyPacket (flags : Flags) : TcpSocketBase τ χ ε :=
  match s.m_endPoint with
  | none => s
  | some endPoint =>
    let closing := s.m_state = .FIN_WAIT_1 ∨ s.m_state = .LAST_ACK ∨ s.m_state = .CLOSING
    let seq :=
      if ¬ flags.FIN ∧ closing then s.m_tcb.m_nextTxSequence + 1 else s.m_tcb.m_nextTxSequence
    let flags := if flags.FIN then { flags with ACK := true } else flags
    let s := { s with
      m_rto := max (s.estimateRto k) s.m_minRto
      m_advWnd := s.receiveSpace k }
    if flags.SYN then
      let s : TcpSocketBase τ χ ε :=
        if s.m_winScalingEnabled then { s with m_rcvWindShift := s.calculateWScale k } else s
      if s.m_synCount = 0 then s.connectionFailed k
      else (s.countSyn k seq).emitEmpty k endPoint flags seq
    else s.emitEmpty k endPoint flags seq

def setEcnState (ecnState : EcnState) : TcpSocketBase τ χ ε :=
  { s with m_tcb := { s.m_tcb with m_ecnState := ecnState } }

/-- An ACK, with the echo if the peer's congestion mark is still to be answered. -/
def sendAck : TcpSocketBase τ χ ε :=
  if s.m_tcb.m_ecnState = .ECN_CE_RCVD ∨ s.m_tcb.m_ecnState = .ECN_SENDING_ECE then
    (s.sendEmptyPacket k { ACK := true, ECE := true }).setEcnState .ECN_SENDING_ECE
  else s.sendEmptyPacket k { ACK := true }

/-- The end of data: `SendDataPacket` puts the FIN on its last segment. -/
def piggybackFin : TcpSocketBase τ χ ε :=
  if s.m_state = .ESTABLISHED then s.goto .FIN_WAIT_1
  else if s.m_state = .CLOSE_WAIT then s.goto .LAST_ACK
  else s

/-- The rest of `SendDataPacket`, from where the header is made. -/
def emitData (endPoint : EndPoint) (flags : Flags) (seq : SequenceNumber32) (sz : UInt32)
    (isRetransmission : Bool) : TcpSocketBase τ χ ε :=
  let header := s.addOptions k
    { flags := flags
      sequenceNumber := seq
      ackNumber := k.nextRxSequence s.m_rxBuffer
      windowSize := s.advertisedWindowSize k true }
  let s := { s with m_advWnd := s.receiveSpace k }
  let s := if s.timers.m_retxEvent = none then s.scheduleRetx .reTxTimeout s.m_rto else s
  let s := (s.transmit endPoint header sz).updateRttHistory k seq sz isRetransmission
  let s := if isRetransmission then s else s.notify (.dataSent (seq + sz - s.m_tcb.m_highTxMark))
  let last := seq + sz
  { s with m_tcb := { s.m_tcb with
    m_highTxMark := if k.seqLt last s.m_tcb.m_highTxMark then s.m_tcb.m_highTxMark else last } }

/-- `SendDataPacket`, once the item is taken from the buffer. -/
def sendItem (outItem : TcpTxItem τ) (seq : SequenceNumber32) (withAck : Bool) :
    TcpSocketBase τ χ ε :=
  let s := { s with m_txBuffer := outItem.txBuffer }
  let remainingData := k.sizeFromSequence s.m_txBuffer (seq + outItem.size)
  let s := if withAck then s.cancelDelAck else s
  let congestionWindowReduced := s.m_tcb.m_ecnState = .ECN_ECE_RCVD ∧
    k.seqGt s.m_ecnEchoSeq s.m_ecnCWRSeq ∧ ¬ outItem.isRetrans
  let s :=
    if congestionWindowReduced then { s with m_ecnCWRSeq := seq }.setEcnState .ECN_CWR_SENT else s
  let fin := s.m_closeOnEmpty && remainingData == 0
  let s := if fin then s.piggybackFin else s
  match s.m_endPoint with
  | none => { s with faults := s.faults ++ [.nullEndPoint] }
  | some endPoint =>
    s.emitData k endPoint { ACK := withAck, CWR := decide congestionWindowReduced, FIN := fin } seq
      outItem.size outItem.isRetrans

/-- The size that was sent, and the socket. -/
def sendDataPacket (seq : SequenceNumber32) (maxSize : UInt32) (withAck : Bool) :
    UInt32 × TcpSocketBase τ χ ε :=
  let outItem := k.copyFromSequence s.m_txBuffer maxSize seq
  (outItem.size, s.sendItem k outItem seq withAck)

def unAckDataCount : UInt32 := s.m_tcb.m_highTxMark - k.headSequence s.m_txBuffer

def window : UInt32 := stdMin s.m_rWnd s.m_tcb.m_cWnd

def availableWindow : UInt32 :=
  let inflight := k.txBytesInFlight s.m_txBuffer
  if inflight > s.window then 0 else s.window - inflight

/-- What one round of the loop of `SendPendingData` sends, unless the loop ends: the segment, which the
silly window or Nagle's rule may hold back, and its greatest size. -/
def nextSegment : Option (SequenceNumber32 × UInt32) :=
  let availableWindow := s.availableWindow k
  if s.m_tcb.m_congState = .CA_OPEN ∧ s.m_state = .FIN_WAIT_1 then none
  else
    match k.nextSeg s.m_txBuffer (s.m_sackEnabled && s.m_tcb.m_congState == .CA_RECOVERY) with
    | none => none
    | some (next, nextHigh) =>
      let availableData := k.sizeFromSequence s.m_txBuffer next
      if availableWindow < s.m_tcb.m_segmentSize ∧ availableData > availableWindow then none
      else if ¬ s.m_noDelay ∧ s.unAckDataCount k > 0 ∧ availableData < s.m_tcb.m_segmentSize then
        none
      else some (next, stdMin (stdMin availableWindow s.m_tcb.m_segmentSize) (nextHigh - next))

/-- Before a round sends, it asks the application for data to fill the window with. -/
def askForData : TcpSocketBase τ χ ε :=
  if s.m_tcb.m_congState = .CA_OPEN ∧ s.m_state = .FIN_WAIT_1 then s
  else
    match k.nextSeg s.m_txBuffer (s.m_sackEnabled && s.m_tcb.m_congState == .CA_RECOVERY) with
    | none => s
    | some (next, _) =>
      if k.sizeFromSequence s.m_txBuffer next < s.availableWindow k then
        s.notify (.send (k.txAvailable s.m_txBuffer))
      else s

def sendSegment (next : SequenceNumber32) (size : UInt32) (withAck : Bool) : TcpSocketBase τ χ ε :=
  let s := { s with m_tcb := { s.m_tcb with m_nextTxSequence := next } }
  let r := s.sendDataPacket k next size withAck
  let s := r.2
  { s with m_tcb := { s.m_tcb with m_nextTxSequence := s.m_tcb.m_nextTxSequence + r.1 } }

/-- The loop of `SendPendingData`, for so many rounds at most. -/
def sendLoop (withAck : Bool) : ℕ → TcpSocketBase τ χ ε → TcpSocketBase τ χ ε
  | 0, s => s
  | rounds + 1, s =>
    if s.availableWindow k > 0 then
      match s.nextSegment k with
      | none => s.askForData k
      | some (next, size) =>
        sendLoop withAck rounds ((s.askForData k).sendSegment k next size withAck)
    else s

/-- A round takes at least a byte off the window, which bounds the rounds. -/
def sendPendingData (withAck : Bool) : TcpSocketBase τ χ ε :=
  if k.txSize s.m_txBuffer = 0 then s
  else if s.m_endPoint = none then s
  else sendLoop k withAck (s.availableWindow k).toNat s

end TcpSocketBase

end NetSessional.Tcp
