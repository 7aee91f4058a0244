import NetSessional.Tcp.Openings

/-! A client and a server on one network, which may lose what is sent, deliver it late, in another order
and more than once. The server is a listening socket and the sockets it has made. -/

namespace NetSessional.Tcp
open Vegas

namespace TcpSocketBase
variable {τ χ ε : Type} (k : Stack τ χ ε) (s : TcpSocketBase τ χ ε)

/-- A socket once the header of a SYN is read into it, as its state's part of `DoForwardUp` finds it. -/
def readSyn (a : Arrival τ) : TcpSocketBase τ χ ε :=
  let header := a.segment.header
  let s := (s.markCE k a.CE header.sequenceNumber).acceptCwr header.flags
  (s.processSyn k header).enterPersist

/-- `ProcessListen`: the socket that a SYN makes, which answers it. -/
def processListen (a : Arrival τ) : Option (TcpSocketBase τ χ ε) :=
  if s.m_endPoint ≠ none ∧ s.Forks a.segment then
    some ((s.readSyn k a).fork.completeFork k a.segment)
  else none

end TcpSocketBase

/-- Time and the timers, and the end of the end point. -/
def SocketEvent.timed {τ : Type} : SocketEvent τ → Bool
  | .wait _ | .retx | .persist | .delAck | .lastAck | .timewait | .sendPending | .destroy => true
  | _ => false

/-- What an application does with a socket besides opening it, and besides reading from it. -/
def SocketEvent.used {τ : Type} : SocketEvent τ → Bool
  | .send _ | .close | .shutdownSend | .shutdownRecv => true
  | _ => false

def SocketEvent.read {τ : Type} : SocketEvent τ → Bool
  | .recv _ => true
  | _ => false

/-- What the network delivers: the segment of that number among those sent, or a reset, with which a host
answers for a socket that is gone. -/
inductive Parcel where
  | sent (i : ℕ)
  | reset (segment : TcpSegment)

def Parcel.segment (sent : List TcpSegment) : Parcel → Option TcpSegment
  | .sent i => sent[i]?
  | .reset g => if g.header.flags = { RST := true } then some g else none

structure Net (τ χ ε : Type) where
  client : TcpSocketBase τ χ ε
  listener : TcpSocketBase τ χ ε
  forks : List (TcpSocketBase τ χ ε) := []

inductive NetEvent (τ : Type) where
  | client (e : SocketEvent τ)
  | listener (e : SocketEvent τ)
  | server (i : ℕ) (e : SocketEvent τ)
  | toClient (p : Parcel) (CE : Bool) (actions : List (AckAction τ))
  | toServer (p : Parcel) (CE : Bool) (actions : List (AckAction τ))

namespace Net
variable {τ χ ε : Type} (k : Stack τ χ ε) (n : Net τ χ ε)

/-- The end points are looked up: a socket made for this pair of names comes before the listening
one. -/
def deliver (a : Arrival τ) : Net τ χ ε :=
  let endPoint : EndPoint := ⟨a.segment.destination, a.segment.source⟩
  if ∃ f ∈ n.forks, f.m_endPoint = some endPoint then
    { n with forks := n.forks.map fun f =>
        if f.m_endPoint = some endPoint then f.arrive k a else f }
  else
    { n with
      listener := n.listener.arrive k a
      forks := n.forks ++ (n.listener.processListen k a).toList }

/-- What the server has sent. The listening socket has no peer to send to. -/
def answers : List TcpSegment := n.forks.flatMap (·.sent)

/-- An application gets to use a socket that was made for it when it is told of the connection. -/
def mayHappen (e : SocketEvent τ) (f : TcpSocketBase τ χ ε) : Bool :=
  e.timed || (e.used || e.read) && decide (.newConnectionCreated ∈ f.notified)

def step (n : Net τ χ ε) : NetEvent τ → Net τ χ ε
  | .client e =>
    -- nothing has come to read before it is connected
    if e.timed || e.used || e.read && n.client.m_connected then
      { n with client := n.client.step k e }
    else n
  | .listener e =>
    if e.timed || e.used || e.read then { n with listener := n.listener.step k e } else n
  | .server i e =>
    { n with forks := n.forks.modify i fun f => if mayHappen e f then f.step k e else f }
  | .toClient p CE actions =>
    match p.segment n.answers with
    | none => n
    | some g => { n with client := n.client.arrive k ⟨g, CE, actions⟩ }
  | .toServer p CE actions =>
    match p.segment n.client.sent with
    | none => n
    | some g => n.deliver k ⟨g, CE, actions⟩

end Net

end NetSessional.Tcp
