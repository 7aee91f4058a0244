import NetSessional.Tcp.Attempts

/-! A peer that does not answer. A SYN is sent again after twice the time, and given up after the attempts
that are set; a FIN in `LAST_ACK` is given up too, but one in `FIN_WAIT_1` never is. -/

namespace NetSessional.Tcp
open Vegas Runs

/-- What may happen to a socket whose peer is silent and whose application only writes. -/
def SocketEvent.unanswered {τ : Type} : SocketEvent τ → Bool
  | .retx | .send _ | .shutdownRecv => true
  | _ => false

def SocketEvent.expires {τ : Type} : SocketEvent τ → Bool
  | .retx => true
  | _ => false

theorem SocketEvent.eq_retx {τ : Type} {e : SocketEvent τ} (h : e.expires = true) : e = .retx := by
  cases e with
  | retx => rfl
  | _ => cases h

namespace TcpSocketBase
variable {τ χ ε : Type} {k : Stack τ χ ε} {s : TcpSocketBase τ χ ε}

section Syn

theorem backoffCount_eq {r : ℕ} (hr : r ≤ 30) (h : s.m_synRetries.toNat = s.m_synCount.toNat + r) :
    s.backoffCount.toInt = 2 ^ r := by
  have hsub : s.m_synRetries - s.m_synCount = UInt32.ofNat r := by
    apply UInt32.toNat_inj.1
    rw [UInt32.toNat_sub_of_le]
    · simp
      omega
    · rw [UInt32.le_iff_toNat_le]
      omega
  have hall : ∀ i : Fin 31, ((1 : Int32) <<< (UInt32.ofNat i).toInt32).toInt = 2 ^ (i : ℕ) := by
    decide +kernel
  unfold backoffCount
  rw [hsub]
  exact hall ⟨r, by omega⟩

theorem emitEmpty_timers (e : EndPoint) (flags : Flags) (seq : SequenceNumber32) :
    (s.emitEmpty k e flags seq).timers.m_lastAckEvent = s.timers.m_lastAckEvent ∧
      (s.emitEmpty k e flags seq).timers.m_retxEvent =
        if s.timers.m_retxEvent = none ∧ (flags.SYN ∨ flags.FIN) ∧ flags ≠ { ACK := true } then
          some (.sendEmptyPacket flags, s.now + s.m_rto)
        else s.timers.m_retxEvent := by
  unfold emitEmpty
  extract_lets h0 h1 s1 s2
  have h1 : s1.timers.m_lastAckEvent = s.timers.m_lastAckEvent ∧
      s1.timers.m_retxEvent = s.timers.m_retxEvent ∧ s1.now = s.now ∧ s1.m_rto = s.m_rto := by
    unfold s1
    split_ifs <;> exact ⟨rfl, rfl, rfl, rfl⟩
  have h2 : s2.timers = s1.timers ∧ s2.now = s1.now ∧ s2.m_rto = s1.m_rto := ⟨rfl, rfl, rfl⟩
  rw [h2.1, h1.2.1]
  split_ifs
  · refine ⟨h1.1, ?_⟩
    change some (RetxHandler.sendEmptyPacket flags, s2.now + s2.m_rto) = _
    rw [h2.2.1, h2.2.2, h1.2.2.1, h1.2.2.2]
  · rw [h2.1]
    exact ⟨h1.1, h1.2.1⟩

theorem emitEmpty_otherTimers (e : EndPoint) (flags : Flags) (seq : SequenceNumber32) :
    (s.emitEmpty k e flags seq).timers.m_persistEvent = s.timers.m_persistEvent ∧
      (s.emitEmpty k e flags seq).timers.m_timewaitEvent = s.timers.m_timewaitEvent ∧
      (s.emitEmpty k e flags seq).timers.m_sendPendingDataEvent =
        s.timers.m_sendPendingDataEvent := by
  unfold emitEmpty
  extract_lets h0 h1 s1 s2
  have h1 : s1.timers.m_persistEvent = s.timers.m_persistEvent ∧
      s1.timers.m_timewaitEvent = s.timers.m_timewaitEvent ∧
      s1.timers.m_sendPendingDataEvent = s.timers.m_sendPendingDataEvent := by
    unfold s1
    split_ifs <;> exact ⟨rfl, rfl, rfl⟩
  split_ifs
  · exact h1
  · exact h1

theorem emitEmpty_rto (e : EndPoint) (flags : Flags) (seq : SequenceNumber32) :
    (s.emitEmpty k e flags seq).estimateRto k = s.estimateRto k ∧
      (s.emitEmpty k e flags seq).m_minRto = s.m_minRto := by
  unfold emitEmpty
  extract_lets h0 h1 s1 s2
  have h1 : s1.estimateRto k = s.estimateRto k ∧ s1.m_minRto = s.m_minRto := by
    unfold s1
    split_ifs <;> exact ⟨rfl, rfl⟩
  split_ifs
  · exact h1
  · exact h1

theorem emitEmpty_clock (e : EndPoint) (flags : Flags) (seq : SequenceNumber32) :
    (s.emitEmpty k e flags seq).now = s.now ∧
      (s.emitEmpty k e flags seq).m_synCount = s.m_synCount ∧
      (s.emitEmpty k e flags seq).m_synRetries = s.m_synRetries ∧
      (s.emitEmpty k e flags seq).m_cnTimeout = s.m_cnTimeout ∧
      (s.emitEmpty k e flags seq).m_dataRetrCount = s.m_dataRetrCount ∧
      (s.emitEmpty k e flags seq).m_txBuffer = s.m_txBuffer := by
  unfold emitEmpty
  extract_lets h0 h1 s1 s2
  have h1 : s1.now = s.now ∧ s1.m_synCount = s.m_synCount ∧ s1.m_synRetries = s.m_synRetries ∧
      s1.m_cnTimeout = s.m_cnTimeout ∧ s1.m_dataRetrCount = s.m_dataRetrCount ∧
      s1.m_txBuffer = s.m_txBuffer := by
    unfold s1
    split_ifs <;> exact ⟨rfl, rfl, rfl, rfl, rfl, rfl⟩
  split_ifs
  · exact h1
  · exact h1

/-- The SYN goes out, the count goes down and the timer backs off. -/
structure Attempted (flags : Flags) (s s' : TcpSocketBase τ χ ε) : Prop where
  state : s'.m_state = s.m_state
  endPoint : s'.m_endPoint = s.m_endPoint
  now : s'.now = s.now
  count : s'.m_synCount = s.m_synCount - 1
  retries : s'.m_synRetries = s.m_synRetries
  timeout : s'.m_cnTimeout = s.m_cnTimeout
  retx : s'.timers.m_retxEvent =
    some (.sendEmptyPacket flags, s.now + s.m_cnTimeout * s.backoffCount.toInt)
  sent : ∃ g, s'.sent = s.sent ++ [g] ∧ g.header.flags = flags
  told : s'.notified = s.notified

theorem sendEmptyPacket_attempted {flags : Flags} (he : s.m_endPoint ≠ none)
    (hsyn : flags.SYN = true) (hfin : flags.FIN = false) (hretx : s.timers.m_retxEvent = none)
    (hcount : s.m_synCount ≠ 0) : s.Attempted flags (s.sendEmptyPacket k flags) := by
  unfold sendEmptyPacket
  split
  · contradiction
  · rename_i e hsome
    extract_lets closing seq flags' s1 s2
    have hflags : flags' = flags := if_neg (by simp [hfin])
    have h2 : s2.toLife = s.toLife ∧ s2.now = s.now ∧ s2.m_synCount = s.m_synCount ∧
        s2.m_synRetries = s.m_synRetries ∧ s2.m_cnTimeout = s.m_cnTimeout := by
      unfold s2
      split_ifs <;> exact ⟨rfl, rfl, rfl, rfl, rfl⟩
    obtain ⟨hl2, hnow2, hcount2, hretries2, htime2⟩ := h2
    clear_value s2 flags'
    subst hflags
    rw [if_pos hsyn, if_neg (by rwa [hcount2])]
    have h3 : (s2.countSyn k seq).toLife = s.toLife ∧ (s2.countSyn k seq).now = s.now ∧
        (s2.countSyn k seq).m_synCount = s.m_synCount - 1 ∧
        (s2.countSyn k seq).m_synRetries = s.m_synRetries ∧
        (s2.countSyn k seq).m_cnTimeout = s.m_cnTimeout ∧
        (s2.countSyn k seq).m_rto = s.m_cnTimeout * s.backoffCount.toInt := by
      refine ⟨(countSyn_toLife seq).trans hl2, ?_⟩
      have hback : s2.backoffCount = s.backoffCount := by
        unfold backoffCount
        rw [hcount2, hretries2]
      rw [← hnow2, ← hcount2, ← hretries2, ← htime2, ← hback]
      unfold countSyn updateRttHistory
      extract_lets s3
      split_ifs <;> exact ⟨rfl, rfl, rfl, rfl, rfl⟩
    obtain ⟨hl3, hnow3, hcount3, hretries3, htime3, hrto3⟩ := h3
    generalize s2.countSyn k seq = s3 at hl3 hnow3 hcount3 hretries3 htime3 hrto3
    obtain ⟨hnow, hcount', hretries, htime, -⟩ :=
      emitEmpty_clock (k := k) (s := s3) e flags' seq
    have hkeep := emitEmpty_keeps (k := k) (s := s3) e flags' seq
    obtain ⟨g, t, hl, hg, -⟩ := emitted_emitEmpty (k := k) (s := s3) e flags' seq
    have hretx3 : s3.timers.m_retxEvent = none := by rw [hl3, hretx]
    refine ⟨hkeep.1.trans (by rw [hl3]), hkeep.2.trans (by rw [hl3]), hnow.trans hnow3,
      hcount'.trans hcount3, hretries.trans hretries3, htime.trans htime3, ?_, ⟨g, ?_, hg⟩, ?_⟩
    · have hack : flags' ≠ { ACK := true } := by
        rintro rfl
        cases hsyn
      rw [(emitEmpty_timers e flags' seq).2, if_pos ⟨hretx3, .inl hsyn, hack⟩, hnow3, hrto3]
    · rw [hl, hl3]
    · rw [hl, hl3]

/-- A client whose SYN has been sent `r + 1` times since `start`, and not been answered. -/
structure Trying (start T : Time) (n r : ℕ) (s : TcpSocketBase τ χ ε) : Prop where
  state : s.m_state = .SYN_SENT
  endPoint : s.m_endPoint ≠ none
  timeout : s.m_cnTimeout = T
  retries : s.m_synRetries.toNat = n
  count : s.m_synCount.toNat + (r + 1) = n
  retx : ∃ flags, s.timers.m_retxEvent =
      some (.sendEmptyPacket flags, start + T * (2 ^ (r + 1) - 1)) ∧
    flags.SYN = true ∧ flags.FIN = false
  now : s.now = start + T * (2 ^ r - 1)
  sent : s.sent.length = r + 1 ∧ ∀ g ∈ s.sent, g.header.flags.SYN = true
  told : s.notified = []

structure Failed (start T : Time) (n : ℕ) (s : TcpSocketBase τ χ ε) : Prop where
  state : s.m_state = .CLOSED
  timers : s.timers = {}
  told : s.notified = [.connectionFailed]
  now : s.now = start + T * (2 ^ n - 1)
  sent : s.sent.length = n ∧ ∀ g ∈ s.sent, g.header.flags.SYN = true

variable {start T : Time} {n r : ℕ}

/-- The timer expires: another attempt, twice as long after, or the last one has been made. -/
theorem Trying.retx_step (h : s.Trying start T n r) (hn : n ≤ 31) (ht : 0 ≤ T) :
    (r + 1 < n → (s.step k .retx).Trying start T n (r + 1)) ∧
      (n = r + 1 → (s.step k .retx).Failed start T n) := by
  obtain ⟨flags, hretx, hsyn, hfin⟩ := h.retx
  have hstep : s.step k .retx = ({ s with
      now := max s.now (start + T * (2 ^ (r + 1) - 1)) }.cancelRetx).sendEmptyPacket k flags := by
    change s.retxExpires k = _
    unfold retxExpires
    rw [hretx]
  have hdue : max s.now (start + T * (2 ^ (r + 1) - 1)) = start + T * (2 ^ (r + 1) - 1) := by
    rw [h.now]
    have hpow : (0 : ℤ) < 2 ^ r := by positivity
    have htime : 0 ≤ T * 2 ^ r := by positivity
    refine max_eq_right ?_
    rw [pow_succ]
    linarith
  rw [hstep, hdue]
  have hcount := h.count
  constructor
  · intro hr
    have hne : s.m_synCount ≠ 0 := by
      intro h0
      rw [h0] at hcount
      simp at hcount
      omega
    obtain ⟨hs, he, hnow, hc, hret, htime, hretx', ⟨g, hsent, hg⟩, htold⟩ :=
      sendEmptyPacket_attempted (k := k) (s := { s with
        now := start + T * (2 ^ (r + 1) - 1) }.cancelRetx) h.endPoint hsyn hfin rfl hne
    have hc' : (s.m_synCount - 1).toNat = s.m_synCount.toNat - 1 := by
      rw [UInt32.toNat_sub_of_le]
      · rfl
      · rw [UInt32.le_iff_toNat_le]
        simp
        omega
    refine ⟨hs.trans h.state, he ▸ h.endPoint, htime.trans h.timeout,
      (congrArg UInt32.toNat hret).trans h.retries, ?_, ⟨flags, ?_, hsyn, hfin⟩, hnow, ⟨?_, ?_⟩,
      htold.trans h.told⟩
    · rw [hc]
      change (s.m_synCount - 1).toNat + _ = n
      omega
    · rw [hretx', backoffCount_eq (r := r + 1) (by omega) (by
        change s.m_synRetries.toNat = s.m_synCount.toNat + (r + 1)
        rw [h.retries, h.count])]
      change some (_, start + T * (2 ^ (r + 1) - 1) + s.m_cnTimeout * 2 ^ (r + 1)) = _
      rw [h.timeout]
      congr 2
      ring
    · rw [hsent]
      simp [cancelRetx, h.sent.1]
    · rw [hsent]
      intro g' hg'
      rcases List.mem_append.1 hg' with hg' | hg'
      · exact h.sent.2 g' hg'
      · rw [List.mem_singleton.1 hg', hg, hsyn]
  · rintro rfl
    have h0 : s.m_synCount = 0 := by
      apply UInt32.toNat_inj.1
      simp
      omega
    obtain ⟨hl, hnow⟩ := sendEmptyPacket_failed (k := k) (s := { s with
      now := start + T * (2 ^ (r + 1) - 1) }.cancelRetx) h.endPoint hsyn hfin h0
    refine ⟨by rw [hl], by rw [hl], ?_, hnow, ?_⟩
    · rw [hl]
      change s.notified ++ [.connectionFailed] = _
      rw [h.told]
      rfl
    · rw [hl]
      exact h.sent

theorem send_unanswered (hs : s.m_state = .SYN_SENT ∨ s.m_state = .CLOSED) (size : UInt32) :
    (s.send k size).toLife = s.toLife ∧ (s.send k size).now = s.now ∧
      (s.send k size).m_synCount = s.m_synCount ∧
      (s.send k size).m_synRetries = s.m_synRetries ∧
      (s.send k size).m_cnTimeout = s.m_cnTimeout := by
  have hne : ¬ (s.m_state = .ESTABLISHED ∨ s.m_state = .CLOSE_WAIT) := by
    rcases hs with hs | hs <;> simp [hs]
  unfold send
  split_ifs
  · split
    · exact ⟨rfl, rfl, rfl, rfl, rfl⟩
    · extract_lets s1
      split_ifs with _ hpend
      · exact ⟨rfl, rfl, rfl, rfl, rfl⟩
      · exact absurd hpend.1 hne
      · exact ⟨rfl, rfl, rfl, rfl, rfl⟩
  · exact ⟨rfl, rfl, rfl, rfl, rfl⟩

theorem Trying.other_step (h : s.Trying start T n r) {e : SocketEvent τ} (he : e.unanswered = true)
    (hr : e.expires = false) : (s.step k e).Trying start T n r := by
  cases e with
  | send size =>
    obtain ⟨hl, hnow, hc, hret, htime⟩ := send_unanswered (k := k) (.inl h.state) size
    change (s.send k size).Trying start T n r
    exact ⟨hl ▸ h.state, hl ▸ h.endPoint, htime.trans h.timeout, hret ▸ h.retries, hc ▸ h.count,
      hl ▸ h.retx, hnow.trans h.now, hl ▸ h.sent, hl ▸ h.told⟩
  | shutdownRecv =>
    exact ⟨h.state, h.endPoint, h.timeout, h.retries, h.count, h.retx, h.now, h.sent, h.told⟩
  | retx => cases hr
  | _ => cases he

theorem Failed.step (h : s.Failed start T n) {e : SocketEvent τ} (he : e.unanswered = true) :
    (s.step k e).Failed start T n := by
  cases e with
  | send size =>
    obtain ⟨hl, hnow, -⟩ := send_unanswered (k := k) (.inr h.state) size
    change (s.send k size).Failed start T n
    exact ⟨hl ▸ h.state, hl ▸ h.timers, hl ▸ h.told, hnow.trans h.now, hl ▸ h.sent⟩
  | shutdownRecv => exact ⟨h.state, h.timers, h.told, h.now, h.sent⟩
  | retx =>
    change (s.retxExpires k).Failed start T n
    unfold retxExpires
    rw [h.timers]
    exact h
  | _ => cases he

theorem Trying.run (h : s.Trying start T n r) (hn : n ≤ 31) (ht : 0 ≤ T)
    {evs : List (SocketEvent τ)} (hE : ∀ e ∈ evs, e.unanswered = true) :
    (r + evs.countP (·.expires) < n →
        (run (step k) s evs).Trying start T n (r + evs.countP (·.expires))) ∧
      (n ≤ r + evs.countP (·.expires) → (run (step k) s evs).Failed start T n) := by
  have hr := h.count
  have hcount : ∀ r (s : TcpSocketBase τ χ ε) (e : SocketEvent τ), e.unanswered = true →
      e.expires = true → r < n - 1 → s.Trying start T n r →
        (s.step k e).Trying start T n (r + 1) := by
    intro r s e _ hexp hlt h
    obtain rfl := SocketEvent.eq_retx hexp
    exact (h.retx_step hn ht).1 (by omega)
  have hend : ∀ (s : TcpSocketBase τ χ ε) (e : SocketEvent τ), e.unanswered = true →
      e.expires = true → s.Trying start T n (n - 1) → (s.step k e).Failed start T n := by
    intro s e _ hexp h
    obtain rfl := SocketEvent.eq_retx hexp
    exact (h.retx_step hn ht).2 (by omega)
  obtain ⟨hgo, hfail⟩ := run_counted_to (E := fun e : SocketEvent τ => e.unanswered = true)
    (p := fun e => e.expires) (C := TcpSocketBase.Trying start T n) (J := TcpSocketBase.Failed start T n)
    (fun _ _ _ he hexp h => h.other_step he hexp) hcount hend (fun _ _ he h => h.step he)
    (by omega) h hE
  exact ⟨fun hlt => hgo (by omega), fun hle => hfail (by omega)⟩

end Syn

section Fin

/-- What a segment without data, other than a SYN, leaves alone, and how a FIN is timed. -/
structure Closing (k : Stack τ χ ε) (flags : Flags) (s s' : TcpSocketBase τ χ ε) : Prop where
  state : s'.m_state = s.m_state
  endPoint : s'.m_endPoint = s.m_endPoint
  now : s'.now = s.now
  rto : s'.estimateRto k = s.estimateRto k
  minRto : s'.m_minRto = s.m_minRto
  count : s'.m_dataRetrCount = s.m_dataRetrCount
  lastAck : s'.timers.m_lastAckEvent = s.timers.m_lastAckEvent
  retx : s'.timers.m_retxEvent =
    if s.timers.m_retxEvent = none ∧ flags.FIN = true then
      some (.sendEmptyPacket { flags with ACK := true },
        s.now + max (s.estimateRto k) s.m_minRto)
    else s.timers.m_retxEvent
  otherTimers : s'.timers.m_persistEvent = s.timers.m_persistEvent ∧
    s'.timers.m_timewaitEvent = s.timers.m_timewaitEvent ∧
    s'.timers.m_sendPendingDataEvent = s.timers.m_sendPendingDataEvent
  txBuffer : s'.m_txBuffer = s.m_txBuffer
  told : s'.notified = s.notified
  sent : ∃ g, s'.sent = s.sent ++ [g] ∧ g.header.flags.FIN = flags.FIN ∧ g.size = 0

theorem sendEmptyPacket_closing {flags : Flags} (he : s.m_endPoint ≠ none)
    (hsyn : flags.SYN = false) : s.Closing k flags (s.sendEmptyPacket k flags) := by
  unfold sendEmptyPacket
  split
  · contradiction
  · rename_i e hsome
    extract_lets closing seq flags' s1
    have hflags : flags'.SYN = false ∧ flags'.FIN = flags.FIN := by
      unfold flags'
      split_ifs
      · exact ⟨hsyn, rfl⟩
      · exact ⟨hsyn, rfl⟩
    rw [if_neg (by simp [hflags.1])]
    have hkeep := emitEmpty_keeps (k := k) (s := s1) e flags' seq
    have hclock := emitEmpty_clock (k := k) (s := s1) e flags' seq
    have hrto := emitEmpty_rto (k := k) (s := s1) e flags' seq
    have htimers := emitEmpty_timers (k := k) (s := s1) e flags' seq
    have hothers := emitEmpty_otherTimers (k := k) (s := s1) e flags' seq
    obtain ⟨g, t, hl, hg, -, -, -, -, hsize⟩ := emitted_emitEmpty (k := k) (s := s1) e flags' seq
    refine ⟨hkeep.1, hkeep.2, hclock.1, hrto.1, hrto.2, hclock.2.2.2.2.1, htimers.1,
      htimers.2.trans ?_, hothers, hclock.2.2.2.2.2, by rw [hl], g, by rw [hl], hg ▸ hflags.2,
      hsize⟩
    by_cases hfin : flags.FIN = true
    · have hflags' : flags' = { flags with ACK := true } := if_pos hfin
      rw [hflags']
      simp [hfin, s1]
    · have hfin' : flags'.FIN = false := by simpa [hflags.2] using hfin
      rw [if_neg (by simp [hflags.1, hfin']), if_neg fun hc => hfin hc.2]

theorem sendAck_closing (he : s.m_endPoint ≠ none) : s.Closing k { ACK := true } (s.sendAck k) := by
  unfold sendAck
  split_ifs
  · have h : s.Closing k { ACK := true, ECE := true }
        (s.sendEmptyPacket k { ACK := true, ECE := true }) := sendEmptyPacket_closing he rfl
    exact ⟨h.state, h.endPoint, h.now, h.rto, h.minRto, h.count, h.lastAck, h.retx.trans (by simp),
      h.otherTimers, h.txBuffer, h.told, h.sent⟩
  · exact sendEmptyPacket_closing he rfl

/-- A socket in `LAST_ACK`, with its timer running, that may send its FIN `d` times more; it has told `told` so far. -/
structure LastAck (d : ℕ) (told : List Notification) (s : TcpSocketBase τ χ ε) : Prop where
  state : s.m_state = .LAST_ACK
  endPoint : s.m_endPoint ≠ none
  count : s.m_dataRetrCount.toNat = d
  lastAck : s.timers.m_lastAckEvent ≠ none
  retx : ∀ handler due, s.timers.m_retxEvent = some (handler, due) →
    ∃ flags, handler = .sendEmptyPacket flags ∧ flags.SYN = false
  told : s.notified = told

structure Dropped (told : List Notification) (s : TcpSocketBase τ χ ε) : Prop where
  endPoint : s.m_endPoint = none
  timers : s.timers = {}
  told : s.notified = told

end Fin

end TcpSocketBase

def SocketEvent.closing {τ : Type} : SocketEvent τ → Bool
  | .wait _ | .retx | .delAck | .lastAck => true
  | _ => false

def SocketEvent.lingers {τ : Type} : SocketEvent τ → Bool
  | .wait _ | .retx | .delAck => true
  | _ => false

def SocketEvent.gives {τ : Type} : SocketEvent τ → Bool
  | .lastAck => true
  | _ => false

theorem SocketEvent.eq_lastAck {τ : Type} {e : SocketEvent τ} (h : e.gives = true) :
    e = .lastAck := by
  cases e with
  | lastAck => rfl
  | _ => cases h

namespace TcpSocketBase
variable {τ χ ε : Type} {k : Stack τ χ ε} {s s' : TcpSocketBase τ χ ε} {d : ℕ}
  {told : List Notification}

section GiveUp

theorem LastAck.of_closing (h : s.LastAck d told) {flags : Flags} (hsyn : flags.SYN = false)
    (hc : s.Closing k flags s') : s'.LastAck d told := by
  refine ⟨hc.state.trans h.state, hc.endPoint ▸ h.endPoint, hc.count ▸ h.count,
    hc.lastAck ▸ h.lastAck, ?_, hc.told.trans h.told⟩
  intro handler due hr
  rw [hc.retx] at hr
  split_ifs at hr
  · obtain ⟨rfl, -⟩ := Prod.mk.inj (Option.some.inj hr)
    exact ⟨_, rfl, hsyn⟩
  · exact h.retx handler due hr

theorem LastAck.other_step (h : s.LastAck d told) {e : SocketEvent τ} (he : e.closing = true)
    (hg : e.gives = false) : (s.step k e).LastAck d told := by
  cases e with
  | wait delay => exact ⟨h.state, h.endPoint, h.count, h.lastAck, h.retx, h.told⟩
  | retx =>
    change (s.retxExpires k).LastAck d told
    unfold retxExpires
    split
    · exact h
    · rename_i handler due hretx
      extract_lets s1
      have h1 : s1.LastAck d told := ⟨h.state, h.endPoint, h.count, h.lastAck, nofun, h.told⟩
      obtain ⟨flags, rfl, hsyn⟩ := h.retx handler due hretx
      exact h1.of_closing hsyn (sendEmptyPacket_closing h1.endPoint hsyn)
  | delAck =>
    unfold TcpSocketBase.step
    refine expires_elim (P := LastAck d told) h fun due _ => ?_
    have h1 : LastAck d told { s with
        now := max s.now due
        timers := { s.timers with m_delAckEvent := none }
        m_delAckCount := 0 } := ⟨h.state, h.endPoint, h.count, h.lastAck, h.retx, h.told⟩
    exact h1.of_closing rfl (sendAck_closing h1.endPoint)
  | lastAck => cases hg
  | _ => cases he

theorem deallocateEndPoint_some (he : s.m_endPoint ≠ none) :
    s.deallocateEndPoint = { s with m_endPoint := none, timers := {} } := by
  unfold deallocateEndPoint
  split
  · contradiction
  · rfl

theorem LastAck.gives_step (h : s.LastAck d told) :
    (∀ d', d = d' + 1 → (s.step k .lastAck).LastAck d' told) ∧
      (d = 0 → (s.step k .lastAck).Dropped (told ++ [.errorClose])) := by
  obtain ⟨due, hdue⟩ := Option.ne_none_iff_exists'.1 h.lastAck
  have hcount := h.count
  unfold TcpSocketBase.step expires
  rw [hdue]
  dsimp only
  unfold lastAckTimeout
  extract_lets _ s1 s2
  have hstate : s1.m_state = .LAST_ACK := h.state
  have hep : s1.m_endPoint ≠ none := h.endPoint
  rw [if_pos hstate]
  constructor
  · rintro d' rfl
    have hne : s1.m_dataRetrCount ≠ 0 := by
      intro h0
      rw [show s.m_dataRetrCount = 0 from h0] at hcount
      simp at hcount
    rw [if_neg hne]
    have hc : s2.Closing k { FIN := true, ACK := true }
        (s2.sendEmptyPacket k { FIN := true, ACK := true }) := sendEmptyPacket_closing hep rfl
    refine ⟨hc.state.trans hstate, hc.endPoint.symm ▸ hep, ?_, nofun, ?_, hc.told.trans h.told⟩
    · change (s2.sendEmptyPacket k { FIN := true, ACK := true }).m_dataRetrCount.toNat = d'
      rw [hc.count]
      change (s.m_dataRetrCount - 1).toNat = d'
      rw [UInt32.toNat_sub_of_le]
      · change s.m_dataRetrCount.toNat - 1 = d'
        omega
      · rw [UInt32.le_iff_toNat_le]
        change 1 ≤ _
        omega
    · intro handler due' hr
      change (s2.sendEmptyPacket k { FIN := true, ACK := true }).timers.m_retxEvent = _ at hr
      rw [hc.retx] at hr
      split_ifs at hr
      · obtain ⟨rfl, -⟩ := Prod.mk.inj (Option.some.inj hr)
        exact ⟨_, rfl, rfl⟩
      · exact h.retx handler due' hr
  · rintro rfl
    have h0 : s1.m_dataRetrCount = 0 := UInt32.toNat_inj.1 hcount
    rw [if_pos h0, deallocateEndPoint_some (s := s1.notify .errorClose) hep]
    exact ⟨rfl, rfl, congrArg (· ++ [Notification.errorClose]) h.told⟩

theorem Dropped.step (h : s.Dropped told) {e : SocketEvent τ} (he : e.closing = true) :
    (s.step k e).Dropped told := by
  have stays : ∀ {due : Option Time} {stop handler : TcpSocketBase τ χ ε → TcpSocketBase τ χ ε},
      due = none → (s.expires due stop handler).Dropped told := by
    intro due stop handler hd
    rwa [expires_none hd]
  cases e with
  | wait delay => exact ⟨h.endPoint, h.timers, h.told⟩
  | retx =>
    change (s.retxExpires k).Dropped told
    unfold retxExpires
    rw [h.timers]
    exact h
  | delAck =>
    unfold TcpSocketBase.step
    exact stays (by rw [h.timers])
  | lastAck =>
    unfold TcpSocketBase.step
    exact stays (by rw [h.timers])
  | _ => cases he

/-- In `LAST_ACK` a socket whose peer is silent gives up: however its timers interleave, it keeps its end
point for as many expirations of `LAST_ACK`'s timer as data may be sent again; with the next it gives it
up, and tells its application of the error, once. -/
theorem last_ack_gives_up (h : s.LastAck d told) {evs : List (SocketEvent τ)}
    (hE : ∀ e ∈ evs, e.closing = true) :
    (evs.countP (·.gives) ≤ d → (run (step k) s evs).m_endPoint ≠ none ∧
        (run (step k) s evs).notified = told) ∧
      (d < evs.countP (·.gives) → (run (step k) s evs).m_endPoint = none ∧
        (run (step k) s evs).notified = told ++ [.errorClose]) := by
  have hcount : ∀ r (s : TcpSocketBase τ χ ε) (e : SocketEvent τ), e.closing = true →
      e.gives = true → r < d → s.LastAck (d - r) told → (s.step k e).LastAck (d - (r + 1)) told := by
    intro r s e _ hgives hlt h
    obtain rfl := SocketEvent.eq_lastAck hgives
    exact h.gives_step.1 _ (by omega)
  have hend : ∀ (s : TcpSocketBase τ χ ε) (e : SocketEvent τ), e.closing = true → e.gives = true →
      s.LastAck (d - d) told → (s.step k e).Dropped (told ++ [.errorClose]) := by
    intro s e _ hgives h
    obtain rfl := SocketEvent.eq_lastAck hgives
    exact h.gives_step.2 (Nat.sub_self d)
  obtain ⟨hgo, hdrop⟩ := run_counted_to (E := fun e : SocketEvent τ => e.closing = true)
    (C := fun r => TcpSocketBase.LastAck (d - r) told) (J := Dropped (told ++ [.errorClose]))
    (fun _ _ _ he hgives h => h.other_step he hgives) hcount hend (fun _ _ he h => h.step he)
    d.zero_le h hE
  rw [Nat.zero_add] at hgo hdrop
  refine ⟨fun hle => ?_, fun hlt => ?_⟩
  · exact ⟨(hgo hle).endPoint, (hgo hle).told⟩
  · exact ⟨(hdrop hlt).endPoint, (hdrop hlt).told⟩

def serverFin : Arrival PlainTxBuffer :=
  { segment := { synAck.segment with
      header :=
        { flags := { FIN := true, ACK := true }
          sequenceNumber := 1
          ackNumber := 1
          windowSize := 65535
          ts := some (0, 0) } } }

/-- A client that was shut down for sending before it was connected, and whose server has closed. -/
def leaving : TcpSocketBase PlainTxBuffer PlainRxBuffer Unit :=
  run (step .plain) client [.shutdownSend, .arrive synAck, .arrive serverFin]

/-- It gives up when the timer of `LAST_ACK` expires for the seventh time. -/
theorem last_ack_gives_up_leaving :
    (run (step .plain) leaving
      [.lastAck, .retx, .lastAck, .lastAck, .wait 500, .lastAck, .lastAck, .retx, .lastAck,
        .lastAck]).notified = leaving.notified ++ [.errorClose] := by
  have h : leaving.LastAck 6 leaving.notified := by
    refine ⟨by decide +kernel, by decide +kernel, by decide +kernel, by decide +kernel, ?_, rfl⟩
    intro handler due hr
    rw [show leaving.timers.m_retxEvent =
      some (.sendEmptyPacket { FIN := true, ACK := true }, 1000) by decide +kernel] at hr
    obtain ⟨rfl, -⟩ := Prod.mk.inj (Option.some.inj hr)
    exact ⟨_, rfl, rfl⟩
  have hE : ∀ e ∈ ([.lastAck, .retx, .lastAck, .lastAck, .wait 500, .lastAck, .lastAck, .retx,
      .lastAck, .lastAck] : List (SocketEvent PlainTxBuffer)), e.closing = true := by
    simp [SocketEvent.closing]
  exact ((last_ack_gives_up (k := .plain) h hE).2 (by simp [SocketEvent.gives])).2

/-- A socket whose FIN `SendEmptyPacket` has sent and timed: in `FIN_WAIT_1` or `CLOSING`, or in `LAST_ACK`
after its application has closed. -/
structure FinTimed (state : TcpStates) (s : TcpSocketBase τ χ ε) : Prop where
  state : s.m_state = state
  endPoint : s.m_endPoint ≠ none
  retx : ∃ due, s.timers.m_retxEvent = some (.sendEmptyPacket { FIN := true, ACK := true }, due)

variable {state : TcpStates}

theorem FinTimed.of_ack (h : s.FinTimed state) (hc : s.Closing k { ACK := true } s') :
    s'.FinTimed state := by
  refine ⟨hc.state.trans h.state, hc.endPoint ▸ h.endPoint, ?_⟩
  obtain ⟨due, hdue⟩ := h.retx
  exact ⟨due, hc.retx.trans ((if_neg (by simp)).trans hdue)⟩

theorem FinTimed.step (h : s.FinTimed state) {e : SocketEvent τ} (he : e.lingers = true) :
    (s.step k e).FinTimed state ∧ (s.step k e).notified = s.notified ∧
      ∃ more, (s.step k e).sent = s.sent ++ more ∧
        more.countP (·.header.flags.FIN) = if e.expires then 1 else 0 := by
  cases e with
  | wait delay => exact ⟨⟨h.state, h.endPoint, h.retx⟩, rfl, [], (List.append_nil _).symm, rfl⟩
  | retx =>
    obtain ⟨due, hretx⟩ := h.retx
    have hstep : s.step k .retx = ({ s with now := max s.now due }.cancelRetx).sendEmptyPacket k
        { FIN := true, ACK := true } := by
      change s.retxExpires k = _
      unfold retxExpires
      rw [hretx]
    have hsyn : ({ FIN := true, ACK := true } : Flags).SYN = false := rfl
    have hc := sendEmptyPacket_closing (k := k) (s := { s with now := max s.now due }.cancelRetx)
      h.endPoint hsyn
    rw [← hstep] at hc
    obtain ⟨g, hsent, hg, -⟩ := hc.sent
    exact ⟨⟨hc.state.trans h.state, hc.endPoint ▸ h.endPoint, _, hc.retx⟩, hc.told, [g], hsent,
      by simp [hg, SocketEvent.expires]⟩
  | delAck =>
    unfold TcpSocketBase.step
    refine expires_elim (P := fun t : TcpSocketBase τ χ ε => t.FinTimed state ∧
      t.notified = s.notified ∧ ∃ more, t.sent = s.sent ++ more ∧
        more.countP (·.header.flags.FIN) = 0) ?_ fun due _ => ?_
    · exact ⟨h, rfl, [], (List.append_nil _).symm, rfl⟩
    · have h1 : FinTimed state { s with
          now := max s.now due
          timers := { s.timers with m_delAckEvent := none }
          m_delAckCount := 0 } := ⟨h.state, h.endPoint, h.retx⟩
      have hc := sendAck_closing (k := k) h1.endPoint
      obtain ⟨g, hsent, hg, -⟩ := hc.sent
      exact ⟨h1.of_ack hc, hc.told, [g], hsent, by simp [hg]⟩
  | _ => cases he

/-- Without that timer it does not: the FIN of a silent peer's connection is sent again at every expiration
of the retransmission timer, for ever, and the application is told nothing. -/
theorem fin_never_given_up (h : s.FinTimed state) {evs : List (SocketEvent τ)}
    (hE : ∀ e ∈ evs, e.lingers = true) :
    (run (step k) s evs).FinTimed state ∧ (run (step k) s evs).notified = s.notified ∧
      ∃ more, (run (step k) s evs).sent = s.sent ++ more ∧
        more.countP (·.header.flags.FIN) = evs.countP (·.expires) := by
  induction evs generalizing s with
  | nil => exact ⟨h, rfl, [], (List.append_nil _).symm, rfl⟩
  | cons e evs ih =>
    obtain ⟨h1, htold, more, hsent, hcount⟩ := h.step (k := k) (hE e (by simp))
    obtain ⟨h2, htold', more', hsent', hcount'⟩ := ih h1 fun e' he' => hE e' (by simp [he'])
    refine ⟨h2, htold'.trans htold, more ++ more', ?_, ?_⟩
    · rw [run_cons, hsent', hsent, List.append_assoc]
    · rw [List.countP_append, hcount, hcount', List.countP_cons, Nat.add_comm]

/-- A client that its application has closed after its server did. -/
theorem fin_never_given_up_passive :
    (run (step .plain) (run (step .plain) client [.arrive synAck, .arrive serverFin, .close])
      (List.replicate 1000 .retx)).FinTimed .LAST_ACK := by
  have h : FinTimed .LAST_ACK
      (run (step .plain) client [.arrive synAck, .arrive serverFin, .close]) :=
    ⟨by decide +kernel, by decide +kernel, 1000, by decide +kernel⟩
  have hE : ∀ e ∈ List.replicate 1000 (SocketEvent.retx (τ := PlainTxBuffer)), e.lingers = true := by
    intro e he
    rw [List.eq_of_mem_replicate he]
    rfl
  exact (fin_never_given_up (k := .plain) h hE).1

end GiveUp

end TcpSocketBase

end NetSessional.Tcp
