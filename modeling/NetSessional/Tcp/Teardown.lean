import NetSessional.Tcp.Output

/-! How a socket is closed, by the application and on its own account. -/

namespace NetSessional.Tcp
open Vegas

namespace TcpSocketBase
variable {τ χ ε : Type} (k : Stack τ χ ε) (s : TcpSocketBase τ χ ε)

def cancelAllTimers : TcpSocketBase τ χ ε := { s with timers := {} }

/-- `NotifyNormalClose`, which its callers make sure happens once. -/
def notifyClose : TcpSocketBase τ χ ε :=
  if s.m_closeNotified then s else { s.notify .normalClose with m_closeNotified := true }

def closeAndNotify : TcpSocketBase τ χ ε :=
  let s := s.notifyClose
  let s := { s with timers := { s.timers with m_lastAckEvent := none } }
  (s.goto .CLOSED).deallocateEndPoint

def sendRST : TcpSocketBase τ χ ε :=
  ((s.sendEmptyPacket k { RST := true }).notify .errorClose).deallocateEndPoint

def timeWait : TcpSocketBase τ χ ε :=
  let s := (s.goto .TIME_WAIT).cancelAllTimers.notifyClose
  { s with timers := { s.timers with m_timewaitEvent := some (s.now + 2 * s.m_msl) } }

def doClose : TcpSocketBase τ χ ε :=
  match s.m_state with
  | .SYN_RCVD | .ESTABLISHED => (s.sendEmptyPacket k { FIN := true }).goto .FIN_WAIT_1
  | .CLOSE_WAIT => (s.sendEmptyPacket k { FIN := true, ACK := true }).goto .LAST_ACK
  | .SYN_SENT | .CLOSING => (s.sendRST k).closeAndNotify
  | .LISTEN => s.closeAndNotify
  | .LAST_ACK | .CLOSED | .FIN_WAIT_1 | .FIN_WAIT_2 | .TIME_WAIT => s

/-- `Close`: unread data is answered with a reset, unsent data puts the closing off. -/
def close : TcpSocketBase τ χ ε :=
  if k.rxSize s.m_rxBuffer ≠ 0 then s.sendRST k
  else if k.sizeFromSequence s.m_txBuffer s.m_tcb.m_nextTxSequence > 0 then
    { s with m_closeOnEmpty := true }
  else s.doClose k

def shutdownSend : TcpSocketBase τ χ ε :=
  let s := { s with m_shutdownSend := true, m_closeOnEmpty := true }
  if k.txSize s.m_txBuffer = 0 ∧ (s.m_state = .ESTABLISHED ∨ s.m_state = .CLOSE_WAIT) then
    -- the state is read again after the FIN is sent, which leaves it
    let s := s.sendEmptyPacket k { FIN := true }
    if s.m_state = .ESTABLISHED then s.goto .FIN_WAIT_1 else s.goto .LAST_ACK
  else s

def assert (p : Prop) [Decidable p] (f : Fault) : TcpSocketBase τ χ ε :=
  if p then s else { s with faults := s.faults ++ [f] }

def scheduleLastAck : TcpSocketBase τ χ ε :=
  { s with timers := { s.timers with m_lastAckEvent := some (s.now + s.estimateRto k) } }

/-- `DoPeerClose`: the peer's FIN is in sequence. -/
def doPeerClose : TcpSocketBase τ χ ε :=
  let s := s.assert (s.m_state = .ESTABLISHED ∨ s.m_state = .SYN_RCVD ∨ s.m_state = .FIN_WAIT_1 ∨
    s.m_state = .FIN_WAIT_2) .doPeerClose
  let s := (s.goto .CLOSE_WAIT).notifyClose
  let s := if s.m_shutdownSend then s.close k else s.sendEmptyPacket k { ACK := true }
  if s.m_state = .LAST_ACK then { s with m_dataRetrCount := s.m_dataRetries }.scheduleLastAck k
  else s

end TcpSocketBase

end NetSessional.Tcp
