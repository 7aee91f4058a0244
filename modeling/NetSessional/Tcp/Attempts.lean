import NetSessional.Tcp.Openings

/-! What one attempt at the handshake does: a segment with a SYN goes out and is timed, or the attempts are
used up and the connection has failed. -/

namespace NetSessional.Tcp
open Vegas

/-- No timer but that of the retransmission is running. -/
def Timers.Idle (t : Timers) : Prop := t = { m_retxEvent := t.m_retxEvent }

theorem Timers.Idle.none {t : Timers} (h : t.Idle) : t.m_persistEvent = none ∧
    t.m_delAckEvent = none ∧ t.m_lastAckEvent = none ∧ t.m_timewaitEvent = none ∧
    t.m_sendPendingDataEvent = none := by
  unfold Timers.Idle at h
  rw [h]
  exact ⟨rfl, rfl, rfl, rfl, rfl⟩

namespace TcpSocketBase
variable {τ χ ε : Type} {k : Stack τ χ ε} {s : TcpSocketBase τ χ ε}

structure Alike (k : Stack τ χ ε) (s s' : TcpSocketBase τ χ ε) : Prop where
  next : s'.m_tcb.m_nextTxSequence = s.m_tcb.m_nextTxSequence
  maxWinSize : s'.m_maxWinSize = s.m_maxWinSize
  room : s'.receiveSpace k = s.receiveSpace k
  connected : s'.m_connected = s.m_connected
  rxStart : s'.rxStart = s.rxStart
  told : .newConnectionCreated ∈ s'.notified → .newConnectionCreated ∈ s.notified

theorem Alike.refl (s : TcpSocketBase τ χ ε) : s.Alike k s := ⟨rfl, rfl, rfl, rfl, rfl, id⟩

theorem Alike.trans {s' s'' : TcpSocketBase τ χ ε} (h : s.Alike k s') (h' : s'.Alike k s'') :
    s.Alike k s'' where
  next := h'.next.trans h.next
  maxWinSize := h'.maxWinSize.trans h.maxWinSize
  room := h'.room.trans h.room
  connected := h'.connected.trans h.connected
  rxStart := h'.rxStart.trans h.rxStart
  told := fun hn => h.told (h'.told hn)

theorem Alike.window {s' : TcpSocketBase τ χ ε} (h : s.Alike k s') :
    s'.advertisedWindowSize k false = s.advertisedWindowSize k false := by
  unfold advertisedWindowSize
  rw [h.room, h.maxWinSize]
  rfl

theorem alike_advWnd (rto : Time) :
    s.Alike k { s with m_rto := rto, m_advWnd := s.receiveSpace k } := by
  refine ⟨rfl, rfl, ?_, rfl, rfl, id⟩
  unfold receiveSpace
  split_ifs <;> rfl

theorem alike_emitEmpty (e : EndPoint) (flags : Flags) (seq : SequenceNumber32) :
    s.Alike k (s.emitEmpty k e flags seq) := by
  unfold emitEmpty
  extract_lets h0 h1 s1 s2
  have h1 : s.Alike k s1 := by
    unfold s1
    split_ifs
    · exact ⟨rfl, rfl, rfl, rfl, rfl, id⟩
    · exact .refl s
  have h2 : s.Alike k s2 := h1.trans ⟨rfl, rfl, rfl, rfl, rfl, id⟩
  split_ifs
  · exact h2.trans ⟨rfl, rfl, rfl, rfl, rfl, id⟩
  · exact h2

theorem alike_updateRttHistory (seq : SequenceNumber32) (sz : UInt32) (isRetransmission : Bool) :
    s.Alike k (s.updateRttHistory k seq sz isRetransmission) := by
  unfold updateRttHistory
  split_ifs <;> exact ⟨rfl, rfl, rfl, rfl, rfl, id⟩

theorem alike_countSyn (seq : SequenceNumber32) : s.Alike k (s.countSyn k seq) := by
  unfold countSyn
  extract_lets s1
  have h1 : s.Alike k s1 := ⟨rfl, rfl, rfl, rfl, rfl, id⟩
  exact h1.trans (alike_updateRttHistory ..)

theorem alike_notify {n : Notification} (h : n ≠ .newConnectionCreated) :
    s.Alike k (s.notify n) := by
  refine ⟨rfl, rfl, rfl, rfl, rfl, fun hn => ?_⟩
  rcases List.mem_append.1 hn with hn | hn
  · exact hn
  · exact absurd (List.mem_singleton.1 hn).symm h

theorem alike_deallocateEndPoint : s.Alike k s.deallocateEndPoint := by
  unfold deallocateEndPoint
  split
  · exact .refl s
  · exact ⟨rfl, rfl, rfl, rfl, rfl, id⟩

theorem alike_connectionFailed : s.Alike k (s.connectionFailed k) := by
  unfold connectionFailed
  extract_lets s1 s2
  have h1 : s.Alike k s1 := ⟨rfl, rfl, rfl, rfl, rfl, id⟩
  have h2 : s.Alike k s2 := h1.trans (alike_notify (by simp))
  have h3 : s.Alike k (s2.goto .CLOSED) := h2.trans ⟨rfl, rfl, rfl, rfl, rfl, id⟩
  exact h3.trans alike_deallocateEndPoint

theorem alike_sendEmptyPacket (flags : Flags) : s.Alike k (s.sendEmptyPacket k flags) := by
  unfold sendEmptyPacket
  split
  · exact .refl s
  · extract_lets closing seq flags' s1 s2
    have h1 : s.Alike k s1 := alike_advWnd _
    have h2 : s.Alike k s2 := by
      unfold s2
      split_ifs
      · exact h1.trans ⟨rfl, rfl, rfl, rfl, rfl, id⟩
      · exact h1
    split_ifs
    · exact h2.trans alike_connectionFailed
    · exact (h2.trans (alike_countSyn seq)).trans (alike_emitEmpty ..)
    · exact h1.trans (alike_emitEmpty ..)

/-- A segment without data goes out, and is timed if it is a SYN or a FIN. -/
def Emitted (k : Stack τ χ ε) (s : TcpSocketBase τ χ ε) (flags : Flags) (seq : SequenceNumber32)
    (l : Life) : Prop :=
  ∃ g t, l = { s.toLife with sent := s.sent ++ [g], timers := t } ∧
    g.header.flags = flags ∧ g.header.sequenceNumber = seq ∧
    g.header.windowSize = s.advertisedWindowSize k (!flags.SYN) ∧
    (s.timers.Idle → t.Idle) ∧
    (t.m_retxEvent = s.timers.m_retxEvent ∨
      ∃ due, t.m_retxEvent = some (.sendEmptyPacket flags, due)) ∧ g.size = 0

theorem emitted_emitEmpty (e : EndPoint) (flags : Flags) (seq : SequenceNumber32) :
    s.Emitted k flags seq (s.emitEmpty k e flags seq).toLife := by
  unfold emitEmpty
  extract_lets h0 h1 s1 s2
  have hheader : h1.flags = flags ∧ h1.sequenceNumber = seq ∧
      h1.windowSize = s.advertisedWindowSize k (!flags.SYN) := by
    have h : h0.flags = flags ∧ h0.sequenceNumber = seq ∧
        h0.windowSize = s.advertisedWindowSize k (!flags.SYN) := by
      unfold h0 addOptions
      split_ifs <;> exact ⟨rfl, rfl, rfl⟩
    unfold h1 addOptionSack
    split_ifs
    · exact h
    · exact h
  clear_value h0 h1
  have hlife : ∃ t : Timers, s1.toLife = { s.toLife with timers := t } ∧
      (s.timers.Idle → t.Idle) ∧ t.m_retxEvent = s.timers.m_retxEvent := by
    unfold s1
    split_ifs
    · refine ⟨{ s.timers with m_delAckEvent := none }, rfl, fun h => ?_, rfl⟩
      unfold Timers.Idle at h ⊢
      rw [h]
    · exact ⟨s.timers, rfl, id, rfl⟩
  obtain ⟨t, hs1, hidle, hretx⟩ := hlife
  clear_value s1
  have hs2 : s2.toLife = { s.toLife with
      sent := s.sent ++ [(⟨h1, 0, e.localName, e.peer⟩ : TcpSegment)], timers := t } := by
    change { s1.toLife with
      sent := s1.toLife.sent ++ [(⟨h1, 0, e.localName, e.peer⟩ : TcpSegment)] } = _
    rw [hs1]
  clear_value s2
  refine ⟨⟨h1, 0, e.localName, e.peer⟩, ?_⟩
  split_ifs
  · refine ⟨{ t with m_retxEvent := some (.sendEmptyPacket flags, s2.now + s2.m_rto) }, ?_, hheader.1,
      hheader.2.1, hheader.2.2, fun h => ?_, .inr ⟨_, rfl⟩, rfl⟩
    · change { s2.toLife with timers := { s2.toLife.timers with
        m_retxEvent := some (.sendEmptyPacket flags, s2.now + s2.m_rto) } } = _
      rw [hs2]
    · have ht := hidle h
      unfold Timers.Idle at ht ⊢
      rw [ht]
  · exact ⟨t, hs2, hheader.1, hheader.2.1, hheader.2.2, hidle, .inl hretx, rfl⟩

theorem sendEmptyPacket_none (he : s.m_endPoint = none) (flags : Flags) :
    s.sendEmptyPacket k flags = s := by
  unfold sendEmptyPacket
  rw [he]

theorem sendEmptyPacket_bare {flags : Flags} (he : s.m_endPoint ≠ none) (hsyn : flags.SYN = false)
    (hfin : flags.FIN = false) : ∃ g t, g.header.flags = flags ∧
      (s.sendEmptyPacket k flags).toLife = { s.toLife with sent := s.sent ++ [g], timers := t } := by
  unfold sendEmptyPacket
  split
  · contradiction
  · rename_i e hsome
    extract_lets closing seq flags' s1
    have hflags : flags' = flags := if_neg (by simp [hfin])
    rw [hflags, if_neg (by simp [hsyn])]
    obtain ⟨g, t, hout, hf, -⟩ := emitted_emitEmpty (k := k) (s := s1) e flags seq
    exact ⟨g, t, hf, hout⟩

theorem sendEmptyPacket_failed {flags : Flags} (he : s.m_endPoint ≠ none)
    (hsyn : flags.SYN = true) (hfin : flags.FIN = false) (hcount : s.m_synCount = 0) :
    (s.sendEmptyPacket k flags).toLife = { s.toLife with
        m_state := .CLOSED, m_endPoint := none, timers := {},
        notified := s.notified ++ [.connectionFailed] } ∧
      (s.sendEmptyPacket k flags).now = s.now := by
  unfold sendEmptyPacket
  split
  · contradiction
  · rename_i e hsome
    extract_lets closing seq flags' s1 s2
    have hflags : flags' = flags := if_neg (by simp [hfin])
    have h2 : s2.toLife = s.toLife ∧ s2.m_synCount = s.m_synCount ∧ s2.now = s.now := by
      unfold s2
      split_ifs <;> exact ⟨rfl, rfl, rfl⟩
    obtain ⟨hl2, hcount2, hnow2⟩ := h2
    clear_value s2 flags'
    subst hflags
    rw [if_pos hsyn, if_pos (hcount2.trans hcount)]
    unfold connectionFailed deallocateEndPoint
    extract_lets s3 s4
    have h4 : s4.toLife = { s.toLife with notified := s.notified ++ [.connectionFailed] } := by
      rw [← hl2]
      rfl
    split
    · rename_i hnone
      have hep : s2.m_endPoint = none := hnone
      rw [hl2] at hep
      contradiction
    · refine ⟨?_, hnow2⟩
      change { s4.toLife with m_state := .CLOSED, m_endPoint := none, timers := {} } = _
      rw [h4]

theorem sendEmptyPacket_syn {flags : Flags} (he : s.m_endPoint ≠ none)
    (hsyn : flags.SYN = true) (hfin : flags.FIN = false)
    (hstate : s.m_state ≠ .FIN_WAIT_1 ∧ s.m_state ≠ .LAST_ACK ∧ s.m_state ≠ .CLOSING) :
    (s.sendEmptyPacket k flags).toLife = { s.toLife with
        m_state := .CLOSED, m_endPoint := none, timers := {},
        notified := s.notified ++ [.connectionFailed] } ∨
      s.Emitted k flags s.m_tcb.m_nextTxSequence (s.sendEmptyPacket k flags).toLife := by
  by_cases hcount0 : s.m_synCount = 0
  · exact .inl (sendEmptyPacket_failed he hsyn hfin hcount0).1
  refine .inr ?_
  unfold sendEmptyPacket
  split
  · contradiction
  · rename_i e hsome
    extract_lets closing seq flags' s1 s2
    have hseq : seq = s.m_tcb.m_nextTxSequence := by
      refine if_neg fun h => ?_
      rcases h.2 with h | h | h
      · exact hstate.1 h
      · exact hstate.2.1 h
      · exact hstate.2.2 h
    have hflags : flags' = flags := if_neg (by simp [hfin])
    have h2 : s2.toLife = s.toLife ∧ s2.m_synCount = s.m_synCount ∧ s.Alike k s2 := by
      have h1 : s.Alike k s1 := alike_advWnd _
      unfold s2
      split_ifs
      · exact ⟨rfl, rfl, h1.trans ⟨rfl, rfl, rfl, rfl, rfl, id⟩⟩
      · exact ⟨rfl, rfl, h1⟩
    clear_value s2 seq flags'
    subst hseq hflags
    rw [if_pos hsyn, if_neg (by rwa [h2.2.1])]
    have hcount : (s2.countSyn k s.m_tcb.m_nextTxSequence).toLife = s.toLife :=
      (countSyn_toLife _).trans h2.1
    have hsame := h2.2.2.trans (alike_countSyn (k := k) s.m_tcb.m_nextTxSequence)
    obtain ⟨g, t, hout, hf, hseq, hwin, hrest⟩ := emitted_emitEmpty (k := k)
      (s := s2.countSyn k s.m_tcb.m_nextTxSequence) e flags' s.m_tcb.m_nextTxSequence
    rw [hcount] at hout hrest
    rw [hsyn] at hwin
    refine ⟨g, t, hout, hf, hseq, ?_, hrest⟩
    rw [hsyn]
    exact hwin.trans hsame.window

/-- What a new socket has when it asks for a connection. -/
structure Bound (k : Stack τ χ ε) (s s' : TcpSocketBase τ χ ε) : Prop where
  life : ∃ e, s'.toLife = { m_endPoint := some e }
  alike : s.Alike k s'
  now : s'.now = s.now
  count : s'.m_synCount = s.m_synRetries
  retries : s'.m_synRetries = s.m_synRetries
  timeout : s'.m_cnTimeout = s.m_cnTimeout

theorem connect_new (hs : s.toLife = {}) (name peer : Address) (source : UInt32) :
    ∃ s', s.Bound k s' ∧ s.connect k (some name) peer (some source) = s'.doConnect k := by
  have hnone : s.m_endPoint = none := by rw [hs]
  refine ⟨{ s with
    m_endPoint := some ⟨⟨source, name.port⟩, peer⟩
    m_rtt := k.rttReset s.m_rtt
    m_synCount := s.m_synRetries
    m_dataRetrCount := s.m_dataRetries }, ⟨⟨⟨⟨source, name.port⟩, peer⟩, ?_⟩,
    ⟨rfl, rfl, rfl, rfl, rfl, id⟩, rfl, rfl, rfl, rfl⟩, ?_⟩
  · rw [show ({ m_endPoint := some ⟨⟨source, name.port⟩, peer⟩ } : Life) =
      { s.toLife with m_endPoint := some ⟨⟨source, name.port⟩, peer⟩ } by rw [hs]]
  · unfold connect
    rw [if_pos hnone]
    rfl

theorem doConnect_closed (hs : s.m_state = .CLOSED) : ∃ flags : Flags,
    flags.mask = { SYN := true } ∧
      s.doConnect k = ((s.sendEmptyPacket k flags).goto .SYN_SENT).setEcnState .ECN_DISABLED := by
  refine ⟨{ SYN := true, ECE := decide (s.m_useEcn = .On), CWR := decide (s.m_useEcn = .On) }, rfl, ?_⟩
  unfold doConnect
  rw [hs]
  rfl

end TcpSocketBase

end NetSessional.Tcp
