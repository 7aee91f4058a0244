import NetSessional.Tcp.Network

/-! The application of the simulation, which opens a connection and hands packets of one size to its socket at
a fixed rate. -/

namespace NetSessional.Tcp
open Vegas Runs

/-- `MyApp`. Besides, the times at which it has called `Send`. -/
structure MyApp where
  m_peer : Address := ⟨0, 0⟩
  m_packetSize : UInt32 := 0
  m_nPackets : UInt32 := 0
  /-- in bits per second -/
  m_dataRate : UInt64 := 0
  m_sendEvent : Option Time := none
  m_running : Bool := false
  m_packetsSent : UInt32 := 0
  sends : List Time := []
  deriving DecidableEq, Repr

/-- What `MyApp` does not do to its socket itself. -/
def SocketEvent.foreign {τ : Type} : SocketEvent τ → Bool
  | .arrive _ => true
  | e => e.timed

def SocketEvent.isSend {τ : Type} : SocketEvent τ → Bool
  | .send _ => true
  | _ => false

inductive AppEvent (τ : Type) where
  | stopApplication
  /-- the next packet is due -/
  | sendEvent
  | socket (e : SocketEvent τ)

def AppEvent.isStop {τ : Type} : AppEvent τ → Bool
  | .stopApplication => true
  | _ => false

def AppEvent.isSendEvent {τ : Type} : AppEvent τ → Bool
  | .sendEvent => true
  | _ => false

structure Sender (τ χ ε : Type) where
  app : MyApp
  m_socket : TcpSocketBase τ χ ε

namespace Sender
variable {τ χ ε : Type} (k : Stack τ χ ε)
  -- the time that so many bits take at a rate
  (seconds : UInt32 → UInt64 → Time) (s : Sender τ χ ε)

def setup (socket : TcpSocketBase τ χ ε) (address : Address) (packetSize nPackets : UInt32)
    (dataRate : UInt64) : Sender τ χ ε :=
  { app := { s.app with
      m_peer := address
      m_packetSize := packetSize
      m_nPackets := nPackets
      m_dataRate := dataRate }
    m_socket := socket }

def tNext : Time := seconds (s.app.m_packetSize * 8) s.app.m_dataRate

def scheduleTx : Sender τ χ ε :=
  if s.app.m_running then
    { s with app := { s.app with m_sendEvent := some (s.m_socket.now + s.tNext seconds) } }
  else s

/-- What `Send` returns is not looked at. -/
def sendPacket : Sender τ χ ε :=
  let s : Sender τ χ ε :=
    { app := { s.app with
        m_packetsSent := s.app.m_packetsSent + 1
        sends := s.app.sends ++ [s.m_socket.now] }
      m_socket := s.m_socket.step k (.send s.app.m_packetSize) }
  if s.app.m_packetsSent < s.app.m_nPackets then s.scheduleTx seconds else s

/-- `name` is what `Bind` gets, `route` what the routing answers. -/
def startApplication (name : Option Address) (route : Option UInt32) : Sender τ χ ε :=
  let s : Sender τ χ ε :=
    { app := { s.app with m_running := true, m_packetsSent := 0 }
      m_socket := (s.m_socket.step k (.bind name)).step k (.connect name s.app.m_peer route) }
  s.sendPacket k seconds

def stopApplication : Sender τ χ ε :=
  { app := { s.app with m_running := false, m_sendEvent := none }
    m_socket := s.m_socket.step k .close }

def fallsDue (due : Time) : Sender τ χ ε :=
  { app := { s.app with m_sendEvent := none }
    m_socket := { s.m_socket with now := max s.m_socket.now due } }

def step (s : Sender τ χ ε) : AppEvent τ → Sender τ χ ε
  | .stopApplication => s.stopApplication k
  | .sendEvent =>
    match s.app.m_sendEvent with
    | none => s
    | some due => (s.fallsDue due).sendPacket k seconds
  | .socket e => if e.foreign then { s with m_socket := s.m_socket.step k e } else s

section Record
variable {k seconds} {s0 s s' : Sender τ χ ε}

/-- Since `s0` the socket has run through as many calls of `Send` as are on record, each of one packet, and they
are at least `tNext` apart. -/
structure Recorded (k : Stack τ χ ε) (seconds : UInt32 → UInt64 → Time) (s0 s : Sender τ χ ε) : Prop where
  socket : ∃ es, s.m_socket = run (TcpSocketBase.step k) s0.m_socket es ∧
    es.countP (·.isSend) = s.app.sends.length ∧ ∀ size, .send size ∈ es → size = s0.app.m_packetSize
  apart : s.app.sends.IsChain fun t1 t2 => t1 + s0.tNext seconds ≤ t2
  setup : s.app.m_packetSize = s0.app.m_packetSize ∧ s.app.m_nPackets = s0.app.m_nPackets ∧
    s.app.m_dataRate = s0.app.m_dataRate ∧ s.app.m_peer = s0.app.m_peer

theorem Recorded.tNext (h : s0.Recorded k seconds s) : s.tNext seconds = s0.tNext seconds := by
  unfold Sender.tNext
  rw [h.setup.1, h.setup.2.2.1]

theorem Recorded.socket_step (h : s0.Recorded k seconds s) {e : SocketEvent τ}
    (he : e.isSend = false) (hs : s'.m_socket = s.m_socket.step k e)
    (happ : s'.app.sends = s.app.sends ∧ s'.app.m_packetSize = s.app.m_packetSize ∧
      s'.app.m_nPackets = s.app.m_nPackets ∧ s'.app.m_dataRate = s.app.m_dataRate ∧
      s'.app.m_peer = s.app.m_peer) : s0.Recorded k seconds s' := by
  obtain ⟨es, hrun, hcount, hsize⟩ := h.socket
  obtain ⟨hsends, hsz, hn, hrate, hpeer⟩ := happ
  refine ⟨⟨es ++ [e], ?_, ?_, fun size hmem => ?_⟩, ?_, ?_⟩
  · rw [run_snoc, ← hrun, hs]
  · rw [List.countP_append, hcount, hsends]
    simp [he]
  · rcases List.mem_append.1 hmem with hmem | hmem
    · exact hsize size hmem
    · rw [← List.mem_singleton.1 hmem] at he
      cases he
  · rw [hsends]
    exact h.apart
  · rw [hsz, hn, hrate, hpeer]
    exact h.setup

theorem send_now (c : TcpSocketBase τ χ ε) (size : UInt32) : (c.step k (.send size)).now = c.now := by
  change (c.send k size).now = c.now
  unfold TcpSocketBase.send
  split_ifs
  · split
    · rfl
    · extract_lets c1
      split_ifs <;> rfl
  · rfl

theorem sendPacket_socket :
    (s.sendPacket k seconds).m_socket = s.m_socket.step k (.send s.app.m_packetSize) := by
  unfold sendPacket scheduleTx
  extract_lets s1
  split_ifs <;> rfl

theorem sendPacket_app (hrun : s.app.m_running = true) : (s.sendPacket k seconds).app =
    { s.app with
      m_packetsSent := s.app.m_packetsSent + 1
      sends := s.app.sends ++ [s.m_socket.now]
      m_sendEvent := if s.app.m_packetsSent + 1 < s.app.m_nPackets then
        some (s.m_socket.now + s.tNext seconds) else s.app.m_sendEvent } := by
  unfold sendPacket scheduleTx
  extract_lets _ s1
  by_cases hmore : s.app.m_packetsSent + 1 < s.app.m_nPackets
  · rw [if_pos hmore, if_pos hmore, if_pos hrun]
    have hnow : s1.m_socket.now = s.m_socket.now := send_now _ _
    change { s1.app with m_sendEvent := some (s1.m_socket.now + s.tNext seconds) } = _
    rw [hnow]
  · rw [if_neg hmore, if_neg hmore]

theorem Recorded.sendPacket (h : s0.Recorded k seconds s) (hrun : s.app.m_running = true)
    (hlate : ∀ last ∈ s.app.sends.getLast?, last + s0.tNext seconds ≤ s.m_socket.now) :
    s0.Recorded k seconds (s.sendPacket k seconds) := by
  obtain ⟨es, hes, hcount, hsize⟩ := h.socket
  refine ⟨⟨es ++ [.send s.app.m_packetSize], ?_, ?_, fun size hmem => ?_⟩, ?_, ?_⟩
  · rw [run_snoc, ← hes, sendPacket_socket]
  · rw [sendPacket_app hrun, List.countP_append, hcount]
    simp [SocketEvent.isSend]
  · rcases List.mem_append.1 hmem with hmem | hmem
    · exact hsize size hmem
    · obtain rfl := SocketEvent.send.inj (List.mem_singleton.1 hmem)
      exact h.setup.1
  · rw [sendPacket_app hrun]
    refine List.isChain_append.2 ⟨h.apart, List.isChain_singleton _, ?_⟩
    intro last hlast next hnext
    obtain rfl := Option.some.inj hnext
    exact hlate last hlast
  · rw [sendPacket_app hrun]
    exact h.setup

end Record

section Runs
variable {k seconds} {s0 s s' : Sender τ χ ε} {j : ℕ}

/-- The application after so many packets have fallen due, if it has not been stopped. -/
structure Going (k : Stack τ χ ε) (seconds : UInt32 → UInt64 → Time) (s0 : Sender τ χ ε) (j : ℕ)
    (s : Sender τ χ ε) : Prop extends s0.Recorded k seconds s where
  running : s.app.m_running = true
  count : s.app.m_packetsSent.toNat = s.app.sends.length
  sent : s.app.sends.length = min (1 + j) (max 1 s0.app.m_nPackets.toNat)
  next : s.app.sends.length < s0.app.m_nPackets.toNat → ∃ last ∈ s.app.sends.getLast?,
    s.app.m_sendEvent = some (last + s0.tNext seconds)
  done : s0.app.m_nPackets.toNat ≤ s.app.sends.length → s.app.m_sendEvent = none

theorem Recorded.fallsDue (h : s0.Recorded k seconds s) (t : Time) :
    s0.Recorded k seconds (s.fallsDue t) := by
  refine h.socket_step (e := .wait (t - s.m_socket.now).toNat) rfl ?_ ⟨rfl, rfl, rfl, rfl, rfl⟩
  have hnow : ∀ now t : ℤ, max now t = now + ((t - now).toNat : ℤ) := by
    intro now t
    omega
  exact congrArg (fun now => { s.m_socket with now := now }) (hnow _ _)

theorem Going.of_sendPacket (h : s0.Recorded k seconds s) (hrun : s.app.m_running = true)
    (hevent : s.app.m_sendEvent = none) (hcount : s.app.m_packetsSent.toNat = s.app.sends.length)
    (hlate : ∀ last ∈ s.app.sends.getLast?, last + s0.tNext seconds ≤ s.m_socket.now)
    (hsent : s.app.sends.length + 1 = min (1 + j) (max 1 s0.app.m_nPackets.toNat)) :
    Going k seconds s0 j (s.sendPacket k seconds) := by
  have hn := s0.app.m_nPackets.toNat_lt
  have hmore : (s.app.m_packetsSent + 1).toNat = s.app.sends.length + 1 := by
    rw [UInt32.toNat_add, hcount, UInt32.toNat_one, Nat.mod_eq_of_lt (by omega)]
  have hrec := h.sendPacket hrun hlate
  refine ⟨hrec, ?_, ?_, ?_, ?_, ?_⟩ <;> rw [sendPacket_app hrun]
  · exact hrun
  · simpa using hmore
  · simpa using hsent
  · intro hlt
    have hlt' : s.app.m_packetsSent + 1 < s.app.m_nPackets := by
      rw [UInt32.lt_iff_toNat_lt, hmore, h.setup.2.1]
      simpa using hlt
    refine ⟨s.m_socket.now, by simp, ?_⟩
    rw [if_pos hlt', h.tNext]
  · intro hle
    have hle' : ¬ s.app.m_packetsSent + 1 < s.app.m_nPackets := by
      rw [UInt32.lt_iff_toNat_lt, hmore, h.setup.2.1]
      simpa using hle
    rw [if_neg hle', hevent]

theorem going_start (hsends : s.app.sends = []) (hevent : s.app.m_sendEvent = none) (name : Option Address)
    (route : Option UInt32) : Going k seconds s 0 (s.startApplication k seconds name route) := by
  unfold startApplication
  extract_lets _ s1
  have h1 : s.Recorded k seconds s1 := by
    refine ⟨⟨[.bind name, .connect name s.app.m_peer route], rfl, ?_, ?_⟩, ?_, rfl, rfl, rfl, rfl⟩
    · rw [show s1.app.sends = [] from hsends]
      rfl
    · simp
    · rw [show s1.app.sends = [] from hsends]
      exact List.isChain_nil
  refine .of_sendPacket h1 rfl hevent ?_ ?_ ?_
  · rw [show s1.app.sends = [] from hsends]
    rfl
  · rw [show s1.app.sends = [] from hsends]
    exact nofun
  · rw [show s1.app.sends = [] from hsends]
    simp

theorem Going.step (h : Going k seconds s0 j s) {e : AppEvent τ} (he : e.isStop = false) :
    Going k seconds s0 (j + if e.isSendEvent then 1 else 0) (s.step k seconds e) := by
  cases e with
  | stopApplication => cases he
  | socket e =>
    change Going k seconds s0 j (if e.foreign then _ else s)
    split_ifs with hf
    · have hsend : e.isSend = false := by
        cases e <;> first | rfl | cases hf
      exact ⟨h.socket_step hsend rfl ⟨rfl, rfl, rfl, rfl, rfl⟩, h.running, h.count, h.sent, h.next,
        h.done⟩
    · exact h
  | sendEvent =>
    change Going k seconds s0 (j + 1) _
    by_cases hlt : s.app.sends.length < s0.app.m_nPackets.toNat
    · obtain ⟨last, hlast, hevent⟩ := h.next hlt
      have hstep : s.step k seconds .sendEvent =
          (s.fallsDue (last + s0.tNext seconds)).sendPacket k seconds := by
        unfold Sender.step
        rw [hevent]
      rw [hstep]
      refine .of_sendPacket (h.fallsDue _) h.running rfl h.count (fun last' hlast' => ?_) ?_
      · obtain rfl := Option.mem_unique hlast hlast'
        exact le_max_right ..
      · have hsent := h.sent
        change s.app.sends.length + 1 = _
        omega
    · have hnone := h.done (not_lt.1 hlt)
      have hstep : s.step k seconds .sendEvent = s := by
        unfold Sender.step
        rw [hnone]
      rw [hstep]
      have hsent := h.sent
      exact { h with sent := by omega }

theorem Going.run (h : Going k seconds s0 j s) {evs : List (AppEvent τ)}
    (hE : ∀ e ∈ evs, e.isStop = false) :
    Going k seconds s0 (j + evs.countP (·.isSendEvent)) (run (Sender.step k seconds) s evs) := by
  refine run_counted (E := fun e : AppEvent τ => e.isStop = false) (C := Going k seconds s0)
    (fun j s e he hother h => ?_) (fun j s e he hsends h => ?_) h hE
  · simpa [hother] using h.step he
  · simpa [hsends] using h.step he

theorem stopped_step (h : s0.Recorded k seconds s) (hevent : s.app.m_sendEvent = none)
    (e : AppEvent τ) : s0.Recorded k seconds (s.step k seconds e) ∧
      (s.step k seconds e).app.m_sendEvent = none ∧ (s.step k seconds e).app.sends = s.app.sends := by
  cases e with
  | stopApplication => exact ⟨h.socket_step (e := .close) rfl rfl ⟨rfl, rfl, rfl, rfl, rfl⟩, rfl, rfl⟩
  | socket e =>
    change s0.Recorded k seconds (if e.foreign then _ else s) ∧
      (if e.foreign then _ else s).app.m_sendEvent = none ∧
      (if e.foreign then _ else s).app.sends = s.app.sends
    split_ifs with hf
    · have hsend : e.isSend = false := by
        cases e <;> first | rfl | cases hf
      exact ⟨h.socket_step hsend rfl ⟨rfl, rfl, rfl, rfl, rfl⟩, hevent, rfl⟩
    · exact ⟨h, hevent, rfl⟩
  | sendEvent =>
    have hstep : s.step k seconds .sendEvent = s := by
      unfold Sender.step
      rw [hevent]
    rw [hstep]
    exact ⟨h, hevent, rfl⟩

theorem stopped_run (h : s0.Recorded k seconds s) (hevent : s.app.m_sendEvent = none)
    (evs : List (AppEvent τ)) : s0.Recorded k seconds (Runs.run (Sender.step k seconds) s evs) ∧
      (Runs.run (Sender.step k seconds) s evs).app.sends = s.app.sends := by
  induction evs generalizing s with
  | nil => exact ⟨h, rfl⟩
  | cons e evs ih =>
    obtain ⟨h1, hevent1, hsends⟩ := stopped_step h hevent e
    obtain ⟨hlast, hrest⟩ := ih h1 hevent1
    exact ⟨hlast, hrest.trans hsends⟩

/-- However the rest of the simulation interleaves with it, an application calls `Send` when it starts, and each
time a packet falls due, until it has sent as many as it was set up with or is stopped; set up with none it
sends one. The calls are at least `tNext` apart and hand over one packet each; what becomes of it changes
nothing. -/
theorem sends_exactly (hsends : s.app.sends = []) (hevent : s.app.m_sendEvent = none) (name : Option Address)
    (route : Option UInt32) {p q : List (AppEvent τ)} (hp : ∀ e ∈ p, e.isStop = false)
    (hq : q = [] ∨ ∃ rest, q = .stopApplication :: rest) {s' : Sender τ χ ε}
    (hs' : run (Sender.step k seconds) (s.startApplication k seconds name route) (p ++ q) = s') :
    s'.app.sends.length = min (1 + p.countP (·.isSendEvent)) (max 1 s.app.m_nPackets.toNat) ∧
      s.Recorded k seconds s' := by
  have hstart : Going k seconds s 0 (s.startApplication k seconds name route) :=
    going_start hsends hevent name route
  have hgoing := hstart.run hp
  rw [Nat.zero_add] at hgoing
  rw [run_append] at hs'
  generalize Runs.run (Sender.step k seconds) (s.startApplication k seconds name route) p = s1
    at hgoing hs'
  rcases hq with rfl | ⟨rest, rfl⟩
  · subst hs'
    exact ⟨hgoing.sent, hgoing.toRecorded⟩
  · have hclosed : s.Recorded k seconds (s1.stopApplication k) :=
      hgoing.toRecorded.socket_step (e := .close) rfl rfl ⟨rfl, rfl, rfl, rfl, rfl⟩
    have hstop := stopped_run hclosed rfl rest
    subst hs'
    exact ⟨(congrArg List.length hstop.2).trans hgoing.sent, hstop.1⟩

/-- With three packets of 1024 bytes, of which the time of the second has come. -/
theorem sends_exactly_started :
    (run (Sender.step .plain fun _ _ => 1000)
      ((Sender.setup ⟨{}, TcpSocketBase.fresh⟩ TcpSocketBase.fresh TcpSocketBase.serverName 1024 3
        3000000).startApplication .plain (fun _ _ => 1000) (some TcpSocketBase.clientName) (some 1))
      ([.socket (.arrive TcpSocketBase.synAck), .sendEvent, .socket .sendPending] ++
        [.stopApplication, .sendEvent])).app.sends.length = 2 :=
  (sends_exactly (k := .plain) rfl rfl (some TcpSocketBase.clientName) (some 1) (by simp [AppEvent.isStop])
    (.inr ⟨_, rfl⟩) rfl).1.trans (by decide)

end Runs

end Sender

end NetSessional.Tcp
