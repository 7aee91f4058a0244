import NetSessional.Vegas.Socket

/-! What a TCP connection is made of: segments, timers, what the application is told, and the record of
a socket. ns-3's buffers, its RTT estimator and its options are parameters. -/

namespace NetSessional.Tcp
open Vegas

structure Address where
  address : UInt32
  port : UInt16
  deriving DecidableEq, Repr

/-- `Ipv4EndPoint` -/
structure EndPoint where
  localName : Address
  peer : Address
  deriving DecidableEq, Repr

structure Flags where
  FIN : Bool := false
  SYN : Bool := false
  RST : Bool := false
  PSH : Bool := false
  ACK : Bool := false
  URG : Bool := false
  ECE : Bool := false
  CWR : Bool := false
  deriving DecidableEq, Repr

/-- `~(PSH | URG)` -/
def Flags.maskPush (f : Flags) : Flags := { f with PSH := false, URG := false }

/-- `~(PSH | URG | CWR | ECE)` -/
def Flags.mask (f : Flags) : Flags := { f.maskPush with ECE := false, CWR := false }

structure TcpHeader where
  flags : Flags := {}
  sequenceNumber : SequenceNumber32 := 0
  ackNumber : SequenceNumber32 := 0
  windowSize : UInt16 := 0
  /-- the options, where the header has them: the shift of `WINSCALE`, the time stamp and its echo of
  `TS`, the blocks of `SACK` -/
  winScale : Option UInt8 := none
  sackPermitted : Bool := false
  ts : Option (UInt32 × UInt32) := none
  sack : List (SequenceNumber32 × SequenceNumber32) := []
  deriving DecidableEq, Repr

/-- What `SendPacket` hands down. Of the payload only its size is read. -/
structure TcpSegment where
  header : TcpHeader
  size : UInt32
  source : Address
  destination : Address
  deriving DecidableEq, Repr

inductive Notification where
  | connectionSucceeded
  | connectionFailed
  | newConnectionCreated
  | normalClose
  | errorClose
  | dataRecv
  | send (available : UInt32)
  | dataSent (size : UInt32)
  deriving DecidableEq, Repr

inductive RetxHandler where
  | reTxTimeout
  | sendEmptyPacket (flags : Flags)
  deriving DecidableEq, Repr

structure Timers where
  m_retxEvent : Option (RetxHandler × Time) := none
  m_persistEvent : Option Time := none
  m_delAckEvent : Option Time := none
  m_lastAckEvent : Option Time := none
  m_timewaitEvent : Option Time := none
  m_sendPendingDataEvent : Option Time := none
  deriving DecidableEq, Repr

/-- An assertion of the source, or a pointer it relies on. -/
inductive Fault where
  | nullEndPoint
  | ackFlag
  | doPeerClose
  | persistConnected
  | synCount
  deriving DecidableEq, Repr

/-- What the life of a connection is read off. -/
structure Life where
  m_state : TcpStates := .CLOSED
  m_connected : Bool := false
  m_closeNotified : Bool := false
  m_endPoint : Option EndPoint := none
  timers : Timers := {}
  /-- The source keeps no such records: what was sent and told so far, the faults, and the sequence
  number the receive buffer was last set to start from. -/
  sent : List TcpSegment := []
  notified : List Notification := []
  faults : List Fault := []
  rxStart : Option SequenceNumber32 := none
  deriving DecidableEq, Repr

structure RttHistory where
  seq : SequenceNumber32
  count : UInt32
  time : Time
  retx : Bool := false
  deriving DecidableEq, Repr

inductive UseEcn where
  | Off
  | On
  | AcceptOnly
  deriving DecidableEq, Repr

/-- A socket over a send buffer `τ`, a receive buffer `χ` and an RTT estimator `ε`. -/
structure TcpSocketBase (τ χ ε : Type) extends Life where
  now : Time := 0
  m_txBuffer : τ
  m_rxBuffer : χ
  m_rtt : ε
  m_tcb : SocketState := {}
  /-- the rest of `m_tcb` that is read here -/
  m_useEcn : UseEcn := .Off
  m_rcvTimestampValue : UInt32 := 0
  m_rcvTimestampEchoReply : UInt32 := 0
  m_delAckCount : UInt32 := 0
  m_delAckMaxCount : UInt32 := 0
  m_noDelay : Bool := false
  m_synCount : UInt32 := 0
  m_synRetries : UInt32 := 0
  m_dataRetrCount : UInt32 := 0
  m_dataRetries : UInt32 := 0
  m_rto : Time := 0
  m_minRto : Time := Time.max
  m_clockGranularity : Time := 0
  m_delAckTimeout : Time := 0
  m_persistTimeout : Time := 0
  m_cnTimeout : Time := 0
  m_history : List RttHistory := []
  m_closeOnEmpty : Bool := false
  m_shutdownSend : Bool := false
  m_shutdownRecv : Bool := false
  m_msl : Time := 0
  m_maxWinSize : UInt16 := 0
  m_highTxAck : SequenceNumber32 := 0
  m_rWnd : UInt32 := 0
  m_advWnd : UInt32 := 0
  m_highRxMark : SequenceNumber32 := 0
  m_highRxAckMark : SequenceNumber32 := 0
  m_sackEnabled : Bool := true
  m_winScalingEnabled : Bool := true
  m_rcvWindShift : UInt8 := 0
  m_sndWindShift : UInt8 := 0
  m_timestampEnabled : Bool := true
  m_timestampToEcho : UInt32 := 0
  m_ecnEchoSeq : SequenceNumber32 := 0
  m_ecnCESeq : SequenceNumber32 := 0
  m_ecnCWRSeq : SequenceNumber32 := 0

/-- What `CopyFromSequence` takes from the send buffer, and the buffer after it. -/
structure TcpTxItem (τ : Type) where
  size : UInt32
  isRetrans : Bool
  txBuffer : τ

/-- What the socket asks of ns-3. -/
structure Stack (τ χ ε : Type) where
  /-- `operator>` of `SequenceNumber32` -/
  seqGt : SequenceNumber32 → SequenceNumber32 → Bool
  /-- one second of simulated time -/
  second : Time
  /-- `TcpOptionTS` -/
  nowToTsValue : Time → UInt32
  elapsedTimeFromTsValue : Time → UInt32 → Time
  /-- `GetOptionLength` and `GetMaxOptionLength` of a header -/
  optionLength : TcpHeader → UInt8
  maxOptionLength : UInt8
  /-- `TcpTxBuffer`: `Add` of so many bytes, unless they do not fit -/
  txAdd : τ → UInt32 → Option τ
  txSize : τ → UInt32
  txAvailable : τ → UInt32
  headSequence : τ → SequenceNumber32
  sizeFromSequence : τ → SequenceNumber32 → UInt32
  txBytesInFlight : τ → UInt32
  /-- `NextSeg`, with rule 3 or without: the segment to send -/
  nextSeg : τ → Bool → Option (SequenceNumber32 × SequenceNumber32)
  copyFromSequence : τ → UInt32 → SequenceNumber32 → TcpTxItem τ
  discardUpTo : τ → SequenceNumber32 → τ
  /-- `Update`, by the blocks of a SACK option -/
  txUpdate : τ → List (SequenceNumber32 × SequenceNumber32) → τ
  setHeadSequence : τ → SequenceNumber32 → τ
  setSackEnabled : τ → Bool → τ
  resetRenoSack : τ → τ
  setSentListLost : τ → Bool → τ
  resetLastSegmentSent : τ → τ
  /-- `TcpRxBuffer` -/
  nextRxSequence : χ → SequenceNumber32
  maxRxSequence : χ → SequenceNumber32
  setNextRxSequence : χ → SequenceNumber32 → χ
  setFinSequence : χ → SequenceNumber32 → χ
  gotFin : χ → Bool
  finished : χ → Bool
  rxSize : χ → UInt32
  rxAvailable : χ → UInt32
  maxBufferSize : χ → UInt32
  sackList : χ → List (SequenceNumber32 × SequenceNumber32)
  /-- `Add`: whether anything was inserted -/
  rxAdd : χ → TcpHeader → UInt32 → Bool × χ
  /-- `Extract` of at most so many bytes -/
  rxExtract : χ → UInt32 → χ
  /-- `RttEstimator` -/
  getEstimate : ε → Time
  getVariation : ε → Time
  measurement : ε → Time → ε
  rttReset : ε → ε
  /-- what the application reads when it is told of data -/
  onDataRecv : χ → χ

namespace Stack
variable {τ χ ε : Type} (k : Stack τ χ ε) (a b : SequenceNumber32)

def seqGe : Bool := k.seqGt a b || a == b
def seqLt : Bool := !k.seqGt a b && a != b
def seqLe : Bool := !k.seqGt a b

end Stack

end NetSessional.Tcp
