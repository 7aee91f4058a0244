import NetSessional.Tcp.Backoff
import NetSessional.Tcp.Pending
import NetSessional.Lib.Doubling

/-! What the retransmission timer does for data that nobody acknowledges: it sends them again until it gives
up, or, where the window or Nagle's rule holds them back, it stops for good. -/

namespace NetSessional.Tcp
open Vegas Runs Doubling

/-- What the send buffer promises of a time-out: nothing is in flight after it, and the first byte is sent
next; what there is to send from the first byte on is all there is. -/
structure Stack.Losses {τ χ ε : Type} (k : Stack τ χ ε) : Prop extends k.Buffers where
  inFlight_lost : ∀ b resetSack, k.txBytesInFlight (k.setSentListLost b resetSack) = 0
  next_lost : ∀ b resetSack, k.txSize b ≠ 0 →
    ∃ nextHigh, k.nextSeg (k.setSentListLost b resetSack) false = some (k.headSequence b, nextHigh)
  size_lost : ∀ b resetSack, k.txSize (k.setSentListLost b resetSack) = k.txSize b ∧
    k.headSequence (k.setSentListLost b resetSack) = k.headSequence b
  size_reno : ∀ b, k.txSize (k.resetRenoSack b) = k.txSize b ∧
    k.headSequence (k.resetRenoSack b) = k.headSequence b
  sizeFromHead : ∀ b, k.sizeFromSequence b (k.headSequence b) = k.txSize b

namespace TcpSocketBase
variable {τ χ ε : Type} {k : Stack τ χ ε} {s s' : TcpSocketBase τ χ ε} {due : Time}

/-- What a time-out makes of the socket before it sends. -/
def lost (k : Stack τ χ ε) (s : TcpSocketBase τ χ ε) : TcpSocketBase τ χ ε :=
  { s with
    m_dataRetrCount := s.m_dataRetrCount - 1
    m_txBuffer := k.setSentListLost
      (if s.m_sackEnabled then s.m_txBuffer else k.resetRenoSack s.m_txBuffer) (!s.m_sackEnabled)
    m_rto := min (s.m_rto + s.m_rto) (60 * k.second)
    m_history := []
    m_tcb := { s.m_tcb with m_cWnd := s.m_tcb.m_segmentSize, m_congState := .CA_LOSS } }

/-- The window is too small a part of the data, or Nagle's rule holds the data back, which are less than a
segment, though it is they that are not acknowledged. -/
def Stalls (k : Stack τ χ ε) (s : TcpSocketBase τ χ ε) : Prop :=
  s.m_rWnd < s.m_tcb.m_segmentSize ∧ s.m_rWnd < k.txSize s.m_txBuffer ∨
    s.m_noDelay = false ∧ s.unAckDataCount k > 0 ∧
      k.txSize s.m_txBuffer < s.m_tcb.m_segmentSize

section Lost

theorem lost_buffer (hk : k.Losses) : k.txSize (s.lost k).m_txBuffer = k.txSize s.m_txBuffer ∧
    k.headSequence (s.lost k).m_txBuffer = k.headSequence s.m_txBuffer := by
  unfold lost
  dsimp only
  rw [(hk.size_lost _ _).1, (hk.size_lost _ _).2]
  split_ifs
  · exact ⟨rfl, rfl⟩
  · exact hk.size_reno _

theorem lost_availableWindow (hk : k.Losses) :
    (s.lost k).availableWindow k = stdMin s.m_rWnd s.m_tcb.m_segmentSize := by
  have hflight : k.txBytesInFlight (s.lost k).m_txBuffer = 0 := hk.inFlight_lost _ _
  apply UInt32.toNat_inj.1
  rw [availableWindow_toNat, hflight, UInt32.toNat_zero, Nat.sub_zero]
  rfl

theorem lost_nextSeg (hk : k.Losses) (hdata : k.txSize s.m_txBuffer ≠ 0) :
    ∃ nextHigh, k.nextSeg (s.lost k).m_txBuffer
      ((s.lost k).m_sackEnabled && (s.lost k).m_tcb.m_congState == .CA_RECOVERY) =
        some (k.headSequence s.m_txBuffer, nextHigh) := by
  have hrule3 : ((s.lost k).m_sackEnabled && (s.lost k).m_tcb.m_congState == .CA_RECOVERY) = false := by
    change (s.m_sackEnabled && false) = false
    exact Bool.and_false _
  rw [hrule3]
  unfold lost
  dsimp only
  cases hsack : s.m_sackEnabled with
  | true => exact hk.next_lost _ _ hdata
  | false =>
    obtain ⟨nextHigh, hnext⟩ := hk.next_lost (k.resetRenoSack s.m_txBuffer) true
      (by rwa [(hk.size_reno _).1])
    rw [(hk.size_reno _).2] at hnext
    exact ⟨nextHigh, hnext⟩

theorem lost_held (hk : k.Losses) (hseg : 0 < s.m_tcb.m_segmentSize)
    (hdata : k.txSize s.m_txBuffer ≠ 0) : (s.lost k).Held k ↔ s.Stalls k := by
  obtain ⟨nextHigh, hnext⟩ := lost_nextSeg (s := s) hk hdata
  have hwindow := lost_availableWindow (s := s) hk
  have hsize : k.sizeFromSequence (s.lost k).m_txBuffer (k.headSequence s.m_txBuffer) =
      k.txSize s.m_txBuffer := by
    rw [← (lost_buffer (s := s) hk).2, hk.sizeFromHead, (lost_buffer hk).1]
  have hunacked : (s.lost k).unAckDataCount k = s.unAckDataCount k := by
    unfold unAckDataCount
    rw [(lost_buffer hk).2]
    rfl
  have hpos : 0 < (k.txSize s.m_txBuffer).toNat :=
    Nat.pos_of_ne_zero fun h0 => hdata (UInt32.toNat_inj.1 h0)
  have hseg' := UInt32.lt_iff_toNat_lt.1 hseg
  rw [UInt32.toNat_zero] at hseg'
  have hmin := toNat_stdMin s.m_rWnd s.m_tcb.m_segmentSize
  constructor
  · intro h
    cases h with
    | full h =>
      left
      rw [hwindow] at h
      rw [h, UInt32.toNat_zero] at hmin
      rw [UInt32.lt_iff_toNat_lt, UInt32.lt_iff_toNat_lt]
      omega
    | closing h => cases h.1
    | nothing h =>
      rw [hnext] at h
      cases h
    | silly hnext' h =>
      rw [hnext] at hnext'
      obtain ⟨rfl, rfl⟩ := Prod.mk.inj (Option.some.inj hnext')
      left
      rw [hsize, hwindow, gt_iff_lt, UInt32.lt_iff_toNat_lt, UInt32.lt_iff_toNat_lt, hmin] at h
      rw [UInt32.lt_iff_toNat_lt, UInt32.lt_iff_toNat_lt]
      have hlt : min s.m_rWnd.toNat s.m_tcb.m_segmentSize.toNat < s.m_tcb.m_segmentSize.toNat := h.1
      omega
    | nagle hnext' h =>
      rw [hnext] at hnext'
      obtain ⟨rfl, rfl⟩ := Prod.mk.inj (Option.some.inj hnext')
      rw [hsize, hunacked] at h
      exact .inr h
  · rintro (h | h)
    · refine .silly hnext ?_
      rw [hsize, hwindow, gt_iff_lt, UInt32.lt_iff_toNat_lt, UInt32.lt_iff_toNat_lt, hmin]
      rw [UInt32.lt_iff_toNat_lt, UInt32.lt_iff_toNat_lt] at h
      change min s.m_rWnd.toNat s.m_tcb.m_segmentSize.toNat < s.m_tcb.m_segmentSize.toNat ∧ _
      omega
    · exact .nagle hnext (by rwa [hsize, hunacked])

end Lost

section Timeout

structure Awaiting (k : Stack τ χ ε) (due : Time) (s : TcpSocketBase τ χ ε) : Prop where
  state : s.m_state ≠ .CLOSED ∧ s.m_state ≠ .TIME_WAIT ∧ s.m_state ≠ .SYN_SENT
  endPoint : s.m_endPoint ≠ none
  data : k.txSize s.m_txBuffer ≠ 0
  segment : 0 < s.m_tcb.m_segmentSize
  retx : s.timers.m_retxEvent = some (.reTxTimeout, due)
  now : s.now ≤ due

def expired (due : Time) (s : TcpSocketBase τ χ ε) : TcpSocketBase τ χ ε :=
  { s with now := due }.cancelRetx

theorem Awaiting.step_eq (h : s.Awaiting k due) :
    s.step k .retx = (s.expired due).reTxTimeout k := by
  change s.retxExpires k = _
  unfold retxExpires
  rw [h.retx]
  dsimp only
  rw [max_eq_right h.now]
  rfl

theorem reTxTimeout_data
    (hstate : s.m_state ≠ .CLOSED ∧ s.m_state ≠ .TIME_WAIT ∧ s.m_state ≠ .SYN_SENT)
    (hdata : k.txSize s.m_txBuffer ≠ 0) : s.reTxTimeout k =
      if s.m_dataRetrCount = 0 then (s.notify .errorClose).deallocateEndPoint
      else (s.lost k).sendPendingData k s.m_connected := by
  unfold reTxTimeout
  rw [if_neg (by simp [hstate]), if_neg hstate.2.2, if_neg hdata]
  rfl

theorem Awaiting.sends (hk : k.Losses) (h : s.Awaiting k due) (hcount : s.m_dataRetrCount ≠ 0) :
    ∃ gs, ((s.expired due).lost k).Sends k gs (s.step k .retx) ∧ (gs = [] ↔ s.Stalls k) ∧
      ∀ g ∈ gs.head?, g.header.sequenceNumber = k.headSequence s.m_txBuffer := by
  have hlost : k.txSize ((s.expired due).lost k).m_txBuffer ≠ 0 := by
    rw [(lost_buffer hk).1]
    exact h.data
  have hheld : ((s.expired due).lost k).Held k ↔ s.Stalls k :=
    lost_held (s := s.expired due) hk h.segment h.data
  have hcount' : (s.expired due).m_dataRetrCount ≠ 0 := hcount
  rw [h.step_eq, reTxTimeout_data (s := s.expired due) h.state h.data, if_neg hcount']
  unfold sendPendingData
  rw [if_neg hlost, if_neg (show ((s.expired due).lost k).m_endPoint ≠ none from h.endPoint)]
  by_cases hstall : s.Stalls k
  · refine ⟨[], ?_, ⟨fun _ => hstall, fun _ => rfl⟩, by simp⟩
    exact sends_of_held (hheld.2 hstall) _ _
  · obtain ⟨g, gs, hsends, hseq⟩ := sends_of_not_held hk.toBuffers (s := (s.expired due).lost k)
      h.segment h.endPoint _ fun hc => hstall (hheld.1 hc)
    refine ⟨g :: gs, hsends, ⟨nofun, fun hc => absurd hc hstall⟩, ?_⟩
    obtain ⟨nextHigh, hnext⟩ := lost_nextSeg (s := s.expired due) hk h.data
    rintro _ ⟨⟩
    exact hseq _ _ hnext

def waiting (noDelay : Bool) : TcpSocketBase PlainTxBuffer PlainRxBuffer Unit :=
  run (step .plain) { client with m_noDelay := noDelay } [.arrive synAck, .send 500, .sendPending]

end Timeout

end TcpSocketBase

/-- What may happen to a socket whose peer is silent and whose application only reads. -/
def SocketEvent.unheard {τ : Type} : SocketEvent τ → Bool
  | .retx | .recv _ | .shutdownRecv => true
  | _ => false

namespace TcpSocketBase
variable {τ χ ε : Type} {k : Stack τ χ ε} {s s' : TcpSocketBase τ χ ε} {due : Time}

section GivingUp

/-- Neither the window nor Nagle's rule holds the data back, whatever has been sent of them. -/
def Flows (k : Stack τ χ ε) (s : TcpSocketBase τ χ ε) : Prop :=
  (s.m_tcb.m_segmentSize ≤ s.m_rWnd ∨ k.txSize s.m_txBuffer ≤ s.m_rWnd) ∧
    (s.m_noDelay = true ∨ s.m_tcb.m_segmentSize ≤ k.txSize s.m_txBuffer)

theorem Flows.not_stalls (h : s.Flows k) : ¬ s.Stalls k := by
  obtain ⟨hwindow, hnagle⟩ := h
  rintro (hsilly | hheld)
  · rcases hwindow with hw | hw
    · exact absurd hsilly.1 (UInt32.not_lt.2 hw)
    · exact absurd hsilly.2 (UInt32.not_lt.2 hw)
  · rcases hnagle with hn | hn
    · rw [hheld.1] at hn
      cases hn
    · exact absurd hheld.2.2 (UInt32.not_lt.2 hn)

/-- After so many time-outs of the data that `s` was left with; each has sent the first byte again. -/
structure Resending (k : Stack τ χ ε) (due : Time) (s : TcpSocketBase τ χ ε) (r : ℕ)
    (s' : TcpSocketBase τ χ ε) : Prop where
  awaiting : s'.Awaiting k (instant due (60 * k.second) s.m_rto r)
  flows : s'.Flows k
  rto : s'.m_rto = delay (60 * k.second) s.m_rto r
  retries : s'.m_dataRetrCount.toNat + r = s.m_dataRetrCount.toNat
  head : k.headSequence s'.m_txBuffer = k.headSequence s.m_txBuffer
  sent : ∃ gs, s'.sent = s.sent ++ gs ∧
    r ≤ gs.countP fun g => g.header.sequenceNumber == k.headSequence s.m_txBuffer
  told : ∃ ns, s'.notified = s.notified ++ ns ∧ ∀ n ∈ ns, n.outgoing = true

structure GivenUp (k : Stack τ χ ε) (due : Time) (s s' : TcpSocketBase τ χ ε) : Prop where
  endPoint : s'.m_endPoint = none
  timers : s'.timers = {}
  now : s'.now = instant due (60 * k.second) s.m_rto s.m_dataRetrCount.toNat
  told : ∃ ns, s'.notified = s.notified ++ ns ++ [.errorClose] ∧ ∀ n ∈ ns, n.outgoing = true

variable {r : ℕ}

theorem Resending.again (hk : k.Losses) (hrto : 0 ≤ s.m_rto) (hsecond : 0 ≤ k.second)
    (h : s.Resending k due r s') (hr : r < s.m_dataRetrCount.toNat) :
    s.Resending k due (r + 1) (s'.step k .retx) := by
  have hretries := h.retries
  have hcount : s'.m_dataRetrCount ≠ 0 := by
    intro h0
    rw [h0, UInt32.toNat_zero] at hretries
    omega
  have hcap : 0 ≤ 60 * k.second := by positivity
  obtain ⟨gs, hsends, hnil, hseq⟩ := h.awaiting.sends hk hcount
  have hne : gs ≠ [] := fun hc => h.flows.not_stalls (hnil.1 hc)
  obtain ⟨g, gs, rfl⟩ := List.exists_cons_of_ne_nil hne
  have hsteady := hsends.steady
  have hbuffer : k.txSize (s'.step k .retx).m_txBuffer = k.txSize s'.m_txBuffer ∧
      k.headSequence (s'.step k .retx).m_txBuffer = k.headSequence s'.m_txBuffer :=
    ⟨hsends.buffer.1.trans (lost_buffer hk).1, hsends.buffer.2.trans (lost_buffer hk).2⟩
  have hdelay : ((s'.expired (instant due (60 * k.second) s.m_rto r)).lost k).m_rto =
      delay (60 * k.second) s.m_rto (r + 1) := by
    change min (s'.m_rto + s'.m_rto) _ = _
    rw [h.rto, delay_succ hrto hcap]
  refine ⟨⟨?_, ?_, ?_, ?_, ?_, ?_⟩, ?_, ?_, ?_, ?_, ?_, ?_⟩
  · exact finEdge_open hsteady.state h.awaiting.state
  · rw [hsteady.endPoint]
    exact h.awaiting.endPoint
  · rw [hbuffer.1]
    exact h.awaiting.data
  · rw [hsteady.segmentSize]
    exact h.awaiting.segment
  · rw [hsends.retx, if_neg hne, hdelay]
    exact congrArg (fun t => some (RetxHandler.reTxTimeout, t)) (instant_succ due r).symm
  · rw [hsteady.now, instant_succ]
    exact le_add_of_nonneg_right (delay_nonneg hrto hcap _)
  · have hflows := h.flows
    unfold Flows at hflows ⊢
    rw [hsteady.segmentSize, hsteady.rWnd, hsteady.noDelay, hbuffer.1]
    exact hflows
  · rw [hsteady.rto, hdelay]
  · rw [hsteady.retries]
    change (s'.m_dataRetrCount - 1).toNat + (r + 1) = _
    rw [UInt32.toNat_sub_of_le]
    · change s'.m_dataRetrCount.toNat - 1 + (r + 1) = _
      omega
    · rw [UInt32.le_iff_toNat_le]
      change 1 ≤ _
      omega
  · rw [hbuffer.2, h.head]
  · obtain ⟨gs', hsent, hcountP⟩ := h.sent
    refine ⟨gs' ++ g :: gs, ?_, ?_⟩
    · rw [hsends.sent, ← List.append_assoc, ← hsent]
      rfl
    · have hfirst : g.header.sequenceNumber = k.headSequence s.m_txBuffer := by
        rw [hseq g rfl, h.head]
      rw [List.countP_append, List.countP_cons_of_pos (by simp [hfirst])]
      omega
  · obtain ⟨ns, hns, hout⟩ := h.told
    obtain ⟨ns', hns', hout'⟩ := hsteady.told
    refine ⟨ns ++ ns', ?_, List.forall_mem_append.2 ⟨hout, hout'⟩⟩
    rw [hns', ← List.append_assoc, ← hns]
    rfl

theorem Resending.over (h : s.Resending k due r s') (hr : r = s.m_dataRetrCount.toNat) :
    s.GivenUp k due (s'.step k .retx) := by
  have hretries := h.retries
  have hcount : s'.m_dataRetrCount = 0 := by
    apply UInt32.toNat_inj.1
    rw [UInt32.toNat_zero]
    omega
  have hstep : s'.step k .retx =
      ((s'.expired (instant due (60 * k.second) s.m_rto r)).notify .errorClose).deallocateEndPoint := by
    rw [h.awaiting.step_eq, reTxTimeout_data (s := s'.expired (instant due (60 * k.second) s.m_rto r))
      h.awaiting.state h.awaiting.data]
    exact if_pos hcount
  rw [hstep, deallocateEndPoint_some (s :=
    (s'.expired (instant due (60 * k.second) s.m_rto r)).notify .errorClose) h.awaiting.endPoint]
  obtain ⟨ns, hns, hout⟩ := h.told
  refine ⟨rfl, rfl, ?_, ns, ?_, hout⟩
  · exact congrArg (instant due (60 * k.second) s.m_rto) hr
  · rw [← hns]
    rfl

theorem Resending.other_step (h : s.Resending k due r s') {e : SocketEvent τ}
    (he : e.unheard = true) (hr : e.expires = false) : s.Resending k due r (s'.step k e) := by
  have hsame : ∀ t : TcpSocketBase τ χ ε, t.toLife = s'.toLife → t.m_txBuffer = s'.m_txBuffer →
      t.m_tcb = s'.m_tcb → t.m_rWnd = s'.m_rWnd → t.now = s'.now → t.m_noDelay = s'.m_noDelay →
      t.m_rto = s'.m_rto → t.m_dataRetrCount = s'.m_dataRetrCount → s.Resending k due r t := by
    intro t hl htx htcb hwnd hnow hdelay hrto hcount
    obtain ⟨⟨hstate, hep, hdata, hseg, hretx, htime⟩, hflows, hrto', hret, hhead, hsent, htold⟩ := h
    unfold Flows at hflows
    rw [← hl, ← htx, ← htcb, ← hwnd, ← hnow, ← hdelay, ← hrto, ← hcount] at *
    exact ⟨⟨hstate, hep, hdata, hseg, hretx, htime⟩, hflows, hrto', hret, hhead, hsent, htold⟩
  cases e with
  | recv maxSize => exact hsame _ rfl rfl rfl rfl rfl rfl rfl rfl
  | shutdownRecv => exact hsame _ rfl rfl rfl rfl rfl rfl rfl rfl
  | retx => cases hr
  | _ => cases he

theorem GivenUp.step (h : s.GivenUp k due s') {e : SocketEvent τ} (he : e.unheard = true) :
    s.GivenUp k due (s'.step k e) := by
  cases e with
  | recv maxSize => exact ⟨h.endPoint, h.timers, h.now, h.told⟩
  | shutdownRecv => exact ⟨h.endPoint, h.timers, h.now, h.told⟩
  | retx =>
    change s.GivenUp k due (s'.retxExpires k)
    unfold retxExpires
    rw [h.timers]
    exact h
  | _ => cases he

theorem Resending.run (hk : k.Losses) (hrto : 0 ≤ s.m_rto) (hsecond : 0 ≤ k.second)
    (h : s.Resending k due r s') {evs : List (SocketEvent τ)} (hE : ∀ e ∈ evs, e.unheard = true) :
    (r + evs.countP (·.expires) ≤ s.m_dataRetrCount.toNat →
        s.Resending k due (r + evs.countP (·.expires)) (run (step k) s' evs)) ∧
      (s.m_dataRetrCount.toNat < r + evs.countP (·.expires) →
        s.GivenUp k due (run (step k) s' evs)) := by
  have hr := h.retries
  have hcount : ∀ r (t : TcpSocketBase τ χ ε) (e : SocketEvent τ), e.unheard = true →
      e.expires = true → r < s.m_dataRetrCount.toNat → s.Resending k due r t →
        s.Resending k due (r + 1) (t.step k e) := by
    intro r t e _ hexp hlt h
    obtain rfl := SocketEvent.eq_retx hexp
    exact h.again hk hrto hsecond hlt
  have hend : ∀ (t : TcpSocketBase τ χ ε) (e : SocketEvent τ), e.unheard = true →
      e.expires = true → s.Resending k due s.m_dataRetrCount.toNat t →
        s.GivenUp k due (t.step k e) := by
    intro t e _ hexp h
    obtain rfl := SocketEvent.eq_retx hexp
    exact h.over rfl
  exact run_counted_to (E := fun e : SocketEvent τ => e.unheard = true)
    (C := fun r t => s.Resending k due r t) (J := fun t => s.GivenUp k due t)
    (fun _ _ _ he hexp h => h.other_step he hexp) hcount hend (fun _ _ he h => h.step he)
    (by omega) h hE

end GivingUp

end TcpSocketBase

/-- What may happen without a segment that arrives, a call to send or to close. -/
def SocketEvent.quiet {τ : Type} : SocketEvent τ → Bool
  | .wait _ | .recv _ | .shutdownRecv | .retx | .persist | .delAck | .lastAck | .timewait
  | .sendPending => true
  | _ => false

namespace TcpSocketBase
variable {τ χ ε : Type} {k : Stack τ χ ε} {s s' : TcpSocketBase τ χ ε} {due : Time}

section Stalled

/-- Since `s` nothing has been sent but ACKs, and no timer is running that could change that. -/
structure Idles (s s' : TcpSocketBase τ χ ε) : Prop where
  state : s'.m_state = s.m_state
  endPoint : s'.m_endPoint = s.m_endPoint
  txBuffer : s'.m_txBuffer = s.m_txBuffer
  told : s'.notified = s.notified
  timers : s'.timers.m_retxEvent = none ∧ s'.timers.m_persistEvent = none ∧
    s'.timers.m_lastAckEvent = none ∧ s'.timers.m_timewaitEvent = none ∧
    s'.timers.m_sendPendingDataEvent = none
  sent : ∃ acks, s'.sent = s.sent ++ acks ∧ ∀ g ∈ acks, g.size = 0

theorem Idles.ack (h : s.Idles s') {flags : Flags} (hsyn : flags.SYN = false)
    (hfin : flags.FIN = false) : s.Idles (s'.sendEmptyPacket k flags) := by
  by_cases he : s'.m_endPoint = none
  · rwa [sendEmptyPacket_none he]
  · have hc : s'.Closing k flags (s'.sendEmptyPacket k flags) := sendEmptyPacket_closing he hsyn
    have hretx := hc.retx
    rw [if_neg (by simp [hfin])] at hretx
    obtain ⟨hretx', hpersist, hlast, htimewait, hpending⟩ := h.timers
    obtain ⟨acks, hsent, hacks⟩ := h.sent
    obtain ⟨g, hg, -, hsize⟩ := hc.sent
    refine ⟨hc.state.trans h.state, hc.endPoint.trans h.endPoint, hc.txBuffer.trans h.txBuffer,
      hc.told.trans h.told, ?_, acks ++ [g], ?_, ?_⟩
    · exact ⟨hretx.trans hretx', hc.otherTimers.1.trans hpersist, hc.lastAck.trans hlast,
        hc.otherTimers.2.1.trans htimewait, hc.otherTimers.2.2.trans hpending⟩
    · rw [hg, hsent, List.append_assoc]
    · exact List.forall_mem_append.2 ⟨hacks, by simpa using hsize⟩

theorem Idles.step (h : s.Idles s') {e : SocketEvent τ} (he : e.quiet = true) :
    s.Idles (s'.step k e) := by
  obtain ⟨hretx, hpersist, hlast, htimewait, hpending⟩ := h.timers
  cases e with
  | wait delay => exact ⟨h.state, h.endPoint, h.txBuffer, h.told, h.timers, h.sent⟩
  | recv maxSize => exact ⟨h.state, h.endPoint, h.txBuffer, h.told, h.timers, h.sent⟩
  | shutdownRecv => exact ⟨h.state, h.endPoint, h.txBuffer, h.told, h.timers, h.sent⟩
  | retx =>
    change s.Idles (s'.retxExpires k)
    unfold retxExpires
    rw [hretx]
    exact h
  | persist =>
    unfold TcpSocketBase.step
    rwa [expires_none hpersist]
  | delAck =>
    unfold TcpSocketBase.step
    refine expires_elim (P := Idles s) h fun d _ => ?_
    have h1 : Idles s { s' with
        now := max s'.now d
        timers := { s'.timers with m_delAckEvent := none }
        m_delAckCount := 0 } := ⟨h.state, h.endPoint, h.txBuffer, h.told, h.timers, h.sent⟩
    unfold delAckTimeout sendAck
    split_ifs
    · have hsyn : ({ ACK := true, ECE := true } : Flags).SYN = false := rfl
      have h2 := h1.ack (k := k) hsyn rfl
      exact ⟨h2.state, h2.endPoint, h2.txBuffer, h2.told, h2.timers, h2.sent⟩
    · exact h1.ack rfl rfl
  | lastAck =>
    unfold TcpSocketBase.step
    rwa [expires_none hlast]
  | timewait =>
    unfold TcpSocketBase.step
    rwa [expires_none htimewait]
  | sendPending =>
    unfold TcpSocketBase.step
    rwa [expires_none hpending]
  | _ => cases he

end Stalled

end TcpSocketBase

end NetSessional.Tcp
