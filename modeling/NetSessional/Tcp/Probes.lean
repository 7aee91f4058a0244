import NetSessional.Tcp.Pending
import NetSessional.Tcp.Openings
import NetSessional.Lib.Doubling

/-! A window of zero is probed, at growing intervals, and for as long as the peer keeps it: unlike data, a
probe that is not answered is never given up. -/

namespace NetSessional.Tcp
open Vegas Runs Doubling

/-- What may happen to a socket whose peer has closed its window and is silent, and whose application only
reads. -/
def SocketEvent.shut {τ : Type} : SocketEvent τ → Bool
  | .persist | .recv _ | .shutdownRecv => true
  | _ => false

def SocketEvent.probes {τ : Type} : SocketEvent τ → Bool
  | .persist => true
  | _ => false

namespace TcpSocketBase
variable {τ χ ε : Type} {k : Stack τ χ ε} {s s' : TcpSocketBase τ χ ε} {due : Time} {r : ℕ}

def Probe (s : TcpSocketBase τ χ ε) (g : TcpSegment) : Prop :=
  g.size ≤ 1 ∧ g.header.flags = {} ∧ g.header.sequenceNumber = s.m_tcb.m_nextTxSequence

/-- After so many probes of the window that `s` found closed. -/
structure Probing (k : Stack τ χ ε) (due : Time) (s : TcpSocketBase τ χ ε) (r : ℕ)
    (s' : TcpSocketBase τ χ ε) : Prop where
  state : s'.m_state = s.m_state
  endPoint : s'.m_endPoint = s.m_endPoint
  told : s'.notified = s.notified
  next : s'.m_tcb = s.m_tcb
  timeout : s'.m_persistTimeout = delay (60 * k.second) s.m_persistTimeout r
  persist : s'.timers.m_persistEvent =
    some (instant due (60 * k.second) s.m_persistTimeout r)
  now : s'.now ≤ instant due (60 * k.second) s.m_persistTimeout r
  sent : ∃ gs, s'.sent = s.sent ++ gs ∧ gs.length = r ∧ ∀ g ∈ gs, s.Probe g

theorem Probing.again (hk : k.Buffers) (he : s.m_endPoint ≠ none) (htime : 0 ≤ s.m_persistTimeout)
    (hsecond : 0 ≤ k.second) (h : s.Probing k due r s') :
    s.Probing k due (r + 1) (s'.step k .persist) := by
  have hcap : 0 ≤ 60 * k.second := by positivity
  obtain ⟨e, hep⟩ := Option.ne_none_iff_exists'.1 he
  have hdelay : min (60 * k.second) (2 * s'.m_persistTimeout) =
      delay (60 * k.second) s.m_persistTimeout (r + 1) := by
    rw [min_comm, two_mul, h.timeout, delay_succ htime hcap]
  have hep' : s'.m_endPoint = some e := h.endPoint.trans hep
  unfold TcpSocketBase.step expires
  rw [h.persist]
  dsimp only
  rw [max_eq_right h.now]
  unfold persistTimeout
  extract_lets item s1 header
  have hs1 : s1.m_endPoint = some e := hep'
  have hrto : s1.m_persistTimeout = delay (60 * k.second) s.m_persistTimeout (r + 1) := hdelay
  have hstate : s1.m_state = s'.m_state ∧ s1.m_endPoint = s'.m_endPoint ∧
      s1.notified = s'.notified ∧ s1.m_tcb = s'.m_tcb ∧ s1.sent = s'.sent ∧
      s1.now = instant due (60 * k.second) s.m_persistTimeout r := ⟨rfl, rfl, rfl, rfl, rfl, rfl⟩
  have hsize : item.size ≤ 1 := hk.size_le _ _ _
  have hheader : header.flags = {} ∧ header.sequenceNumber = s1.m_tcb.m_nextTxSequence := by
    unfold header addOptions
    split_ifs <;> exact ⟨rfl, rfl⟩
  clear_value header s1 item
  obtain ⟨hstate, hep1, htold, htcb, hsent1, hnow⟩ := hstate
  rw [hs1]
  obtain ⟨gs, hsent, hlen, hgs⟩ := h.sent
  refine ⟨hstate.trans h.state, hep1.trans h.endPoint, htold.trans h.told, htcb.trans h.next, hrto,
    ?_, ?_, gs ++ [⟨header, item.size, e.localName, e.peer⟩], ?_, ?_, ?_⟩
  · change some (s1.now + s1.m_persistTimeout) = _
    rw [hnow, hrto, instant_succ]
  · change s1.now ≤ _
    rw [hnow, instant_succ]
    exact le_add_of_nonneg_right (delay_nonneg htime hcap _)
  · change s1.sent ++ _ = _
    rw [hsent1, hsent, List.append_assoc]
  · rw [List.length_append, hlen]
    rfl
  · refine List.forall_mem_append.2 ⟨hgs, ?_⟩
    rw [List.forall_mem_singleton]
    refine ⟨hsize, hheader.1, hheader.2.trans ?_⟩
    rw [htcb, h.next]

theorem Probing.other_step (h : s.Probing k due r s') {e : SocketEvent τ} (he : e.shut = true)
    (hp : e.probes = false) : s.Probing k due r (s'.step k e) := by
  cases e with
  | recv maxSize =>
    exact ⟨h.state, h.endPoint, h.told, h.next, h.timeout, h.persist, h.now, h.sent⟩
  | shutdownRecv =>
    exact ⟨h.state, h.endPoint, h.told, h.next, h.timeout, h.persist, h.now, h.sent⟩
  | persist => cases hp
  | _ => cases he

/-- A closed window is probed for ever. Every expiration of the timer sends one probe, of a byte at most;
the next comes after twice the time, up to a minute; and however many are not answered, the socket keeps its
state and its end point, and its application is told nothing. -/
theorem probes_for_ever (hk : k.Buffers) (he : s.m_endPoint ≠ none)
    (hpersist : s.timers.m_persistEvent = some due) (hnow : s.now ≤ due)
    (htime : 0 ≤ s.m_persistTimeout) (hsecond : 0 ≤ k.second) {evs : List (SocketEvent τ)}
    (hE : ∀ e ∈ evs, e.shut = true) :
    s.Probing k due (evs.countP (·.probes)) (run (step k) s evs) := by
  have h0 : s.Probing k due 0 s :=
    ⟨rfl, rfl, rfl, rfl, rfl, by rwa [instant_zero], by rwa [instant_zero], [], by simp, rfl,
      List.forall_mem_nil _⟩
  have hcount : ∀ r (t : TcpSocketBase τ χ ε) (e : SocketEvent τ), e.shut = true →
      e.probes = true → s.Probing k due r t → s.Probing k due (r + 1) (t.step k e) := by
    intro r t e _ hprobes h
    obtain rfl : e = .persist := by
      cases e with
      | persist => rfl
      | _ => cases hprobes
    exact h.again hk he htime hsecond
  have hrun := run_counted (E := fun e : SocketEvent τ => e.shut = true)
    (C := fun r t => s.Probing k due r t) (fun _ _ _ he hprobes h => h.other_step he hprobes) hcount
    h0 hE
  rwa [Nat.zero_add] at hrun

def closedWindow : Arrival PlainTxBuffer :=
  { segment := { synAck.segment with
      header := { flags := { ACK := true }, sequenceNumber := 1, ackNumber := 1, ts := some (0, 0) } } }

/-- A client that finds the window closed when it starts to send. -/
def shutOut : TcpSocketBase PlainTxBuffer PlainRxBuffer Unit :=
  run (step .plain) client [.arrive synAck, .send 500, .sendPending, .arrive closedWindow]

theorem probes_for_ever_shutOut :
    (run (step .plain) shutOut (List.replicate 100 .persist)).notified = shutOut.notified := by
  have hE : ∀ e ∈ (List.replicate 100 .persist : List (SocketEvent PlainTxBuffer)),
      e.shut = true := by
    intro e he
    rw [List.eq_of_mem_replicate he]
    rfl
  have hpersist : shutOut.timers.m_persistEvent = some 6001 := by decide +kernel
  exact (probes_for_ever Stack.plain_buffers (by decide +kernel) hpersist (by decide +kernel)
    (by decide +kernel) (by decide) hE).told

end TcpSocketBase

end NetSessional.Tcp
