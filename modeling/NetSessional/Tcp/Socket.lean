import NetSessional.Tcp.Input
import NetSessional.Lib.Runs

/-! The socket as an event-driven machine: segments that arrive, timers that expire, calls of the
application; and how a listening socket makes another one. -/

namespace NetSessional.Tcp
open Vegas Runs

namespace TcpSocketBase
variable {τ χ ε : Type} (k : Stack τ χ ε) (s : TcpSocketBase τ χ ε)

def processOptionTimestamp (ts : UInt32 × UInt32) (seq : SequenceNumber32) :
    TcpSocketBase τ χ ε :=
  if s.m_rcvTimestampValue > ts.1 then s
  else
    { s with
      m_rcvTimestampValue := ts.1
      m_rcvTimestampEchoReply := ts.2
      m_timestampToEcho :=
        if seq = k.nextRxSequence s.m_rxBuffer ∧ k.seqLe seq s.m_highTxAck then ts.1
        else s.m_timestampToEcho }

/-- The measurement an ACK allows: that of the oldest segment, if it was sent once and is covered. -/
def rttSample (header : TcpHeader) : Option Time :=
  match s.m_history with
  | [] => none
  | h :: _ =>
    if ¬ h.retx ∧ k.seqGe header.ackNumber (h.seq + h.count) then
      match s.m_timestampEnabled, header.ts with
      | true, some ts =>
        let m := k.elapsedTimeFromTsValue s.now ts.2
        -- zero is approximated to a microsecond
        some (if m = 0 then k.second / 1000000 else m)
      | _, _ => some (s.now - h.time)
    else none

def estimateRtt (header : TcpHeader) : TcpSocketBase τ χ ε :=
  let m := s.rttSample k header
  let s := { s with
    m_history := s.m_history.dropWhile fun h => !k.seqGt (h.seq + h.count) header.ackNumber }
  match m with
  | none => s
  | some m =>
    if m = 0 then s
    else
      let s := { s with m_rtt := k.measurement s.m_rtt m }
      { s with
        m_rto := max (s.estimateRto k) s.m_minRto
        m_tcb := { s.m_tcb with m_lastRtt := k.getEstimate s.m_rtt } }

/-- `m_state < ESTABLISHED` -/
def opening : Prop :=
  s.m_state = .CLOSED ∨ s.m_state = .LISTEN ∨ s.m_state = .SYN_SENT ∨ s.m_state = .SYN_RCVD

instance : Decidable s.opening := inferInstanceAs (Decidable (_ ∨ _))

def updateWindowSize (header : TcpHeader) : TcpSocketBase τ χ ε :=
  let receivedWindow := header.windowSize.toUInt32 <<< s.m_sndWindShift.toUInt32
  if s.opening then { s with m_rWnd := receivedWindow }
  else
    let enlarged := header.ackNumber = s.m_highRxAckMark ∧ receivedWindow > s.m_rWnd
    let acked := k.seqGt header.ackNumber s.m_highRxAckMark
    let received := k.seqGt header.sequenceNumber s.m_highRxMark
    { s with
      m_highRxAckMark := if acked then header.ackNumber else s.m_highRxAckMark
      m_highRxMark := if received then header.sequenceNumber else s.m_highRxMark
      m_rWnd := if enlarged ∨ acked ∨ received then receivedWindow else s.m_rWnd }

/-- `ProcessOptionWScale`: a shift above 14 counts as 14. -/
def processOptionWScale (scale : UInt8) : TcpSocketBase τ χ ε :=
  { s with m_sndWindShift := if scale > 14 then 14 else scale }

/-- What a SYN settles: the options both ends have, and the first window. -/
def processSyn (header : TcpHeader) : TcpSocketBase τ χ ε :=
  let s := { s with m_rWnd := header.windowSize.toUInt32 }
  let s : TcpSocketBase τ χ ε :=
    match s.m_winScalingEnabled, header.winScale with
    | true, some scale => s.processOptionWScale scale
    | _, _ => { s with m_winScalingEnabled := false }
  let s : TcpSocketBase τ χ ε :=
    if header.sackPermitted ∧ s.m_sackEnabled then s
    else { s with m_sackEnabled := false, m_txBuffer := k.setSackEnabled s.m_txBuffer false }
  let s : TcpSocketBase τ χ ε :=
    match s.m_timestampEnabled, header.ts with
    | true, some ts => s.processOptionTimestamp k ts header.sequenceNumber
    | _, _ => { s with m_timestampEnabled := false }
  let cWnd := s.m_tcb.m_initialCWnd * s.m_tcb.m_segmentSize
  let s := { s with m_tcb := { s.m_tcb with
    m_cWnd := cWnd, m_cWndInfl := cWnd, m_ssThresh := s.m_tcb.m_initialSsThresh } }
  if header.flags.ACK then { s with m_highRxAckMark := header.ackNumber }.estimateRtt k header
  else s

/-- What an ACK without SYN brings: nothing if its time stamp is missing. -/
def processAckHeader (header : TcpHeader) : Option (TcpSocketBase τ χ ε) :=
  match s.m_timestampEnabled, header.ts with
  | true, none => none
  | true, some ts =>
    some (((s.processOptionTimestamp k ts header.sequenceNumber).estimateRtt k header).updateWindowSize
      k header)
  | false, _ => some ((s.estimateRtt k header).updateWindowSize k header)

/-- A zero window: the peer is probed instead. -/
def enterPersist : TcpSocketBase τ χ ε :=
  if s.m_rWnd = 0 ∧ s.timers.m_persistEvent = none then
    { s with timers := { s.timers with
      m_retxEvent := none, m_persistEvent := some (s.now + s.m_persistTimeout) } }
  else s

def leavePersist : TcpSocketBase τ χ ε :=
  if s.m_rWnd ≠ 0 ∧ s.timers.m_persistEvent ≠ none then
    let s := s.assert (s.m_connected = true) .persistConnected
    let s := { s with timers := { s.timers with m_persistEvent := none } }
    s.sendPendingData k s.m_connected
  else s

/-- The state machine. What a listening socket does, it does to another socket. -/
def dispatch (a : Arrival τ) : TcpSocketBase τ χ ε :=
  match s.m_state with
  | .ESTABLISHED => s.processEstablished k a
  | .LISTEN | .TIME_WAIT => s
  | .CLOSED => s.processClosed k a
  | .SYN_SENT => s.processSynSent k a
  | .SYN_RCVD => s.processSynRcvd k a
  | .FIN_WAIT_1 | .FIN_WAIT_2 | .CLOSE_WAIT => s.processWait k a
  | .CLOSING => s.processClosing k a
  | .LAST_ACK => s.processLastAck k a

/-- The peer has answered the echo by reducing its window. -/
def acceptCwr (flags : Flags) : TcpSocketBase τ χ ε :=
  if s.m_state = .ESTABLISHED ∧ ¬ flags.RST ∧ flags.CWR ∧ s.m_tcb.m_ecnState ≠ .ECN_CE_RCVD then
    s.setEcnState .ECN_IDLE
  else s

/-- `DoForwardUp` from the test for a zero window on. -/
def process (a : Arrival τ) : TcpSocketBase τ χ ε :=
  (s.enterPersist.dispatch k a).leavePersist k

def doForwardUp (a : Arrival τ) : TcpSocketBase τ χ ε :=
  let header := a.segment.header
  let s := s.acceptCwr header.flags
  if header.flags.SYN then (s.processSyn k header).process k a
  else if header.flags.ACK then
    match s.processAckHeader k header with
    | none => s
    | some s => s.process k a
  else s.process k a

def outOfRange (head tail : SequenceNumber32) : Bool :=
  match s.m_state with
  | .LISTEN | .SYN_SENT | .SYN_RCVD => false
  | .LAST_ACK | .CLOSING | .CLOSE_WAIT => k.nextRxSequence s.m_rxBuffer != head
  | _ =>
    k.seqLt tail (k.nextRxSequence s.m_rxBuffer) || k.seqLe (k.maxRxSequence s.m_rxBuffer) head

def markCE (CE : Bool) (seq : SequenceNumber32) : TcpSocketBase τ χ ε :=
  if CE ∧ k.seqLt s.m_ecnCESeq seq then { s with m_ecnCESeq := seq }.setEcnState .ECN_CE_RCVD else s

/-- `ForwardUp`, which the end point calls. Data out of range is answered with an ACK, and dropped. -/
def forwardUp (a : Arrival τ) : TcpSocketBase τ χ ε :=
  let seq := a.segment.header.sequenceNumber
  if a.segment.size > 0 ∧ s.outOfRange k seq (seq + a.segment.size) then
    s.sendEmptyPacket k { ACK := true }
  else (s.markCE k a.CE seq).doForwardUp k a

def sendSyn : TcpSocketBase τ χ ε :=
  s.sendEmptyPacket k { SYN := true, ECE := decide (s.m_useEcn = .On), CWR := decide (s.m_useEcn = .On) }

def doConnect : TcpSocketBase τ χ ε :=
  match s.m_state with
  | .CLOSED | .LISTEN | .SYN_SENT | .LAST_ACK | .CLOSE_WAIT =>
    ((s.sendSyn k).goto .SYN_SENT).setEcnState .ECN_DISABLED
  | .TIME_WAIT => s
  | .SYN_RCVD | .ESTABLISHED | .FIN_WAIT_1 | .FIN_WAIT_2 | .CLOSING => (s.sendRST k).closeAndNotify

/-- `Bind`, whatever end point there is: `name` is what `Allocate` gives. -/
def bind (name : Option Address) : TcpSocketBase τ χ ε :=
  { s with m_endPoint := name.map fun name => ⟨name, ⟨0, 0⟩⟩ }

/-- `SetupEndpoint`, once the routing has answered. -/
def setLocalAddress (source : UInt32) : TcpSocketBase τ χ ε :=
  { s with m_endPoint := s.m_endPoint.map fun e => { e with localName := ⟨source, e.localName.port⟩ } }

/-- `Connect`: `name` is what `Bind` would get, `route` what the routing answers. -/
def connect (name : Option Address) (peer : Address) (route : Option UInt32) :
    TcpSocketBase τ χ ε :=
  let s := if s.m_endPoint = none then s.bind name else s
  if s.m_endPoint = none then s
  else
    let s := s.setPeer peer
    match route with
    | none => s
    | some source =>
      let s := s.setLocalAddress source
      let s := { s with
        m_rtt := k.rttReset s.m_rtt
        m_synCount := s.m_synRetries
        m_dataRetrCount := s.m_dataRetries }
      s.doConnect k

def listen : TcpSocketBase τ χ ε :=
  if s.m_state = .CLOSED then s.goto .LISTEN else s

/-- `Send`. The transmission is scheduled a step of time later. -/
def send (size : UInt32) : TcpSocketBase τ χ ε :=
  if s.m_state = .ESTABLISHED ∨ s.m_state = .SYN_SENT ∨ s.m_state = .CLOSE_WAIT then
    match k.txAdd s.m_txBuffer size with
    | none => s
    | some txBuffer =>
      let s := { s with m_txBuffer := txBuffer }
      if s.m_shutdownSend then s
      else if (s.m_state = .ESTABLISHED ∨ s.m_state = .CLOSE_WAIT) ∧ s.availableWindow k > 0 ∧
          s.timers.m_sendPendingDataEvent = none then
        { s with timers := { s.timers with m_sendPendingDataEvent := some (s.now + 1) } }
      else s
  else s

/-- `ReTxTimeout`; the window reduction, which the sender's model has, sets the window to a segment. -/
def reTxTimeout : TcpSocketBase τ χ ε :=
  if s.m_state = .CLOSED ∨ s.m_state = .TIME_WAIT then s
  else if s.m_state = .SYN_SENT then (s.assert (s.m_synCount > 0) .synCount).sendSyn k
  else if k.txSize s.m_txBuffer = 0 then
    if s.m_state = .FIN_WAIT_1 ∨ s.m_state = .CLOSING then s.sendEmptyPacket k { FIN := true }
    else s
  else if s.m_dataRetrCount = 0 then (s.notify .errorClose).deallocateEndPoint
  else
    let txBuffer := if s.m_sackEnabled then s.m_txBuffer else k.resetRenoSack s.m_txBuffer
    let s := { s with
      m_dataRetrCount := s.m_dataRetrCount - 1
      m_txBuffer := k.setSentListLost txBuffer (!s.m_sackEnabled)
      m_rto := min (s.m_rto + s.m_rto) (60 * k.second)
      m_history := []
      m_tcb := { s.m_tcb with m_cWnd := s.m_tcb.m_segmentSize, m_congState := .CA_LOSS } }
    s.sendPendingData k s.m_connected

def delAckTimeout : TcpSocketBase τ χ ε := { s with m_delAckCount := 0 }.sendAck k

def lastAckTimeout : TcpSocketBase τ χ ε :=
  let s := { s with timers := { s.timers with m_lastAckEvent := none } }
  if s.m_state = .LAST_ACK then
    if s.m_dataRetrCount = 0 then (s.notify .errorClose).deallocateEndPoint
    else
      let s := { s with m_dataRetrCount := s.m_dataRetrCount - 1 }
      (s.sendEmptyPacket k { FIN := true, ACK := true }).scheduleLastAck k
  else s

/-- `PersistTimeout`: a byte without flags probes the window, and the time-out doubles. -/
def persistTimeout : TcpSocketBase τ χ ε :=
  let item := k.copyFromSequence s.m_txBuffer 1 s.m_tcb.m_nextTxSequence
  let s := { s with
    m_persistTimeout := min (60 * k.second) (2 * s.m_persistTimeout)
    m_txBuffer := k.resetLastSegmentSent item.txBuffer }
  match s.m_endPoint with
  | none => { s with faults := s.faults ++ [.nullEndPoint] }
  | some endPoint =>
    let header := s.addOptions k
      { sequenceNumber := s.m_tcb.m_nextTxSequence
        ackNumber := k.nextRxSequence s.m_rxBuffer
        windowSize := s.advertisedWindowSize k true }
    let s := { s with m_advWnd := s.receiveSpace k }.transmit endPoint header item.size
    { s with timers := { s.timers with m_persistEvent := some (s.now + s.m_persistTimeout) } }

/-- `Destroy`, which the end point calls when it goes. -/
def destroy : TcpSocketBase τ χ ε := { s with m_endPoint := none }.cancelAllTimers

def fork : TcpSocketBase τ χ ε :=
  { s with
    m_endPoint := none
    timers := {}
    sent := []
    notified := []
    faults := []
    rxStart := none
    m_delAckCount := 0
    m_history := []
    m_highTxAck := 0
    m_advWnd := 0
    m_tcb := { s.m_tcb with m_cWndInfl := 0, m_isRetransDataAcked := false } }

/-- `CompleteFork`, for a SYN that came to the name `to`. -/
def completeFork (segment : TcpSegment) : TcpSocketBase τ χ ε :=
  let s := { s with
    m_endPoint := some ⟨segment.destination, segment.source⟩
    m_state := .SYN_RCVD
    m_synCount := s.m_synRetries
    m_dataRetrCount := s.m_dataRetries }
  (s.setNextRx k segment.header.sequenceNumber).sendSynAck k segment.header.flags

/-- A listening socket makes another one of a SYN. -/
def Forks (segment : TcpSegment) : Prop :=
  s.m_state = .LISTEN ∧ segment.header.flags.mask = { SYN := true }

instance (segment : TcpSegment) : Decidable (s.Forks segment) := inferInstanceAs (Decidable (_ ∧ _))

end TcpSocketBase

inductive SocketEvent (τ : Type) where
  /-- time passes -/
  | wait (delay : ℕ)
  | bind (name : Option Address)
  | connect (name : Option Address) (peer : Address) (route : Option UInt32)
  | listen
  | send (size : UInt32)
  | recv (maxSize : UInt32)
  | close
  | shutdownSend
  | shutdownRecv
  | arrive (a : Arrival τ)
  /-- the timers, each of which acts when it is running -/
  | retx
  | persist
  | delAck
  | lastAck
  | timewait
  | sendPending
  | destroy

namespace TcpSocketBase
variable {τ χ ε : Type} (k : Stack τ χ ε) (s : TcpSocketBase τ χ ε)

def retxExpires : TcpSocketBase τ χ ε :=
  match s.timers.m_retxEvent with
  | none => s
  | some (handler, due) =>
    let s := { s with now := max s.now due }.cancelRetx
    match handler with
    | .reTxTimeout => s.reTxTimeout k
    | .sendEmptyPacket flags => s.sendEmptyPacket k flags

/-- A timer that is due, with what stops it and what it calls. -/
def expires (due : Option Time) (stop handler : TcpSocketBase τ χ ε → TcpSocketBase τ χ ε) :
    TcpSocketBase τ χ ε :=
  match due with
  | none => s
  | some due => handler (stop { s with now := max s.now due })

/-- A segment reaches a socket through its end point. -/
def arrive (a : Arrival τ) : TcpSocketBase τ χ ε :=
  if s.m_endPoint = none then s else s.forwardUp k a

def step (s : TcpSocketBase τ χ ε) : SocketEvent τ → TcpSocketBase τ χ ε
  | .wait delay => { s with now := s.now + delay }
  | .bind name => s.bind name
  | .connect name peer route => s.connect k name peer route
  | .listen => s.listen
  | .send size => s.send k size
  | .recv maxSize => { s with m_rxBuffer := k.rxExtract s.m_rxBuffer maxSize }
  | .close => s.close k
  | .shutdownSend => s.shutdownSend k
  | .shutdownRecv => { s with m_shutdownRecv := true }
  | .arrive a => s.arrive k a
  | .retx => s.retxExpires k
  | .persist =>
    s.expires s.timers.m_persistEvent
      (fun s => { s with timers := { s.timers with m_persistEvent := none } }) (·.persistTimeout k)
  | .delAck =>
    s.expires s.timers.m_delAckEvent
      (fun s => { s with timers := { s.timers with m_delAckEvent := none } }) (·.delAckTimeout k)
  | .lastAck =>
    s.expires s.timers.m_lastAckEvent
      (fun s => { s with timers := { s.timers with m_lastAckEvent := none } }) (·.lastAckTimeout k)
  | .timewait =>
    s.expires s.timers.m_timewaitEvent
      (fun s => { s with timers := { s.timers with m_timewaitEvent := none } }) (·.closeAndNotify)
  | .sendPending =>
    s.expires s.timers.m_sendPendingDataEvent
      (fun s => { s with timers := { s.timers with m_sendPendingDataEvent := none } })
      fun s => s.sendPendingData k s.m_connected
  | .destroy => s.destroy

end TcpSocketBase

/-- A send buffer without losses: what is not acknowledged, and how much of it is in flight. -/
structure PlainTxBuffer where
  head : SequenceNumber32
  size : UInt32
  inFlight : UInt32
  deriving DecidableEq, Repr

/-- A receive buffer that takes data in order only. -/
structure PlainRxBuffer where
  next : SequenceNumber32
  size : UInt32
  fin : Option SequenceNumber32
  deriving DecidableEq, Repr

namespace PlainRxBuffer

def finished (b : PlainRxBuffer) : Bool := b.fin.any fun f => f + 1 == b.next

/-- The FIN counts for one, once the data before it is there. -/
def takeFin (b : PlainRxBuffer) : PlainRxBuffer :=
  if b.fin = some b.next then { b with next := b.next + 1 } else b

end PlainRxBuffer

/-- A stack on such buffers, with a fixed round trip of 100 ms. -/
def Stack.plain : Stack PlainTxBuffer PlainRxBuffer Unit where
  seqGt a b := (a < b && b - a > 0x7fffffff) || (a > b && a - b ≤ 0x7fffffff)
  second := 1000
  nowToTsValue now := UInt32.ofNat now.toNat
  elapsedTimeFromTsValue now echo := now - echo.toNat
  optionLength _ := 12
  maxOptionLength := 40
  txAdd b size := if b.size + size > 131072 then none else some { b with size := b.size + size }
  txSize b := b.size
  txAvailable b := 131072 - b.size
  headSequence b := b.head
  sizeFromSequence b seq := if seq - b.head > b.size then 0 else b.size - (seq - b.head)
  txBytesInFlight b := b.inFlight
  nextSeg b _ :=
    if b.inFlight < b.size then some (b.head + b.inFlight, b.head + b.size) else none
  copyFromSequence b maxSize seq :=
    let offset := seq - b.head
    let size := stdMin maxSize (b.size - offset)
    ⟨size, offset < b.inFlight, { b with inFlight := stdMax b.inFlight (offset + size) }⟩
  discardUpTo b seq :=
    if seq - b.head > b.size then b
    else ⟨seq, b.size - (seq - b.head), b.inFlight - stdMin b.inFlight (seq - b.head)⟩
  txUpdate b _ := b
  setHeadSequence b seq := { b with head := seq }
  setSackEnabled b _ := b
  resetRenoSack b := b
  setSentListLost b _ := { b with inFlight := 0 }
  resetLastSegmentSent b := b
  nextRxSequence b := b.next
  maxRxSequence b := b.next + (131072 - b.size)
  setNextRxSequence b seq := { b with next := seq }
  setFinSequence b seq := { b with fin := some seq }.takeFin
  gotFin b := b.fin.isSome
  finished b := b.finished
  rxSize b := b.size
  rxAvailable b := 131072 - b.size
  maxBufferSize _ := 131072
  sackList _ := []
  rxAdd b header size :=
    if size > 0 ∧ header.sequenceNumber = b.next ∧ b.fin ≠ some b.next then
      (true, { b with next := b.next + size, size := b.size + size }.takeFin)
    else (false, b)
  rxExtract b maxSize := { b with size := b.size - stdMin maxSize b.size }
  getEstimate _ := 100
  getVariation _ := 0
  measurement _ _ := ()
  rttReset _ := ()
  onDataRecv b := { b with size := 0 }

namespace TcpSocketBase

/-- A new socket with the attributes' defaults and six attempts at connecting, 3 s apart at first. -/
def fresh : TcpSocketBase PlainTxBuffer PlainRxBuffer Unit where
  m_txBuffer := ⟨0, 0, 0⟩
  m_rxBuffer := ⟨0, 0, none⟩
  m_rtt := ()
  m_tcb := { m_segmentSize := 536, m_initialCWnd := 10, m_initialSsThresh := 0xffffffff }
  m_delAckMaxCount := 2
  m_synRetries := 6
  m_dataRetries := 6
  m_minRto := 1000
  m_clockGranularity := 1
  m_delAckTimeout := 200
  m_persistTimeout := 6000
  m_cnTimeout := 3000
  m_msl := 120000
  m_maxWinSize := 65535

def clientName : Address := ⟨1, 49153⟩
def serverName : Address := ⟨2, 8080⟩

def client : TcpSocketBase PlainTxBuffer PlainRxBuffer Unit :=
  fresh.connect .plain (some clientName) serverName (some 1)

def synAck : Arrival PlainTxBuffer :=
  { segment :=
      { header :=
          { flags := { SYN := true, ACK := true }
            ackNumber := 1
            windowSize := 65535
            winScale := some 2
            sackPermitted := true
            ts := some (0, 0) }
        size := 0
        source := serverName
        destination := clientName } }

end TcpSocketBase

end NetSessional.Tcp
