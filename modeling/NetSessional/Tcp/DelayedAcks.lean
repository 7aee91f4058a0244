import NetSessional.Tcp.Lifecycle

/-! ACKs that are put off. Segments that are counted but not acknowledged yet always have a timer running
that acknowledges them, on every path through the socket. -/

namespace NetSessional.Tcp
open Vegas Runs

/-- The connection is neither over nor waiting to be. -/
def TcpStates.Carries (state : TcpStates) : Prop := state ≠ .CLOSED ∧ state ≠ .TIME_WAIT

instance (state : TcpStates) : Decidable (TcpStates.Carries state) :=
  inferInstanceAs (Decidable (_ ∧ _))

namespace TcpSocketBase
variable {τ χ ε : Type} {k : Stack τ χ ε} {s s' : TcpSocketBase τ χ ε}

/-- If some segments are counted, but fewer than call for an ACK, the timer of the delayed ACK is running; and
it is due in time. -/
structure Timed (s : TcpSocketBase τ χ ε) : Prop where
  running : 0 < s.m_delAckCount → s.m_delAckCount < s.m_delAckMaxCount →
    s.timers.m_delAckEvent ≠ none
  soon : ∀ due, s.timers.m_delAckEvent = some due → due ≤ s.now + s.m_delAckTimeout

/-- While there is an end point, the connection goes on, and no counted segment is forgotten. -/
structure Heeds (s : TcpSocketBase τ χ ε) : Prop where
  carries : s.m_endPoint ≠ none → TcpStates.Carries s.m_state
  timed : s.m_endPoint ≠ none → s.Timed

section Rules

theorem Heeds.gone (h : s.m_endPoint = none) : s.Heeds :=
  ⟨fun he => absurd h he, fun he => absurd h he⟩

theorem Heeds.of_same (h : s.Heeds) (he : s'.m_endPoint ≠ none → s.m_endPoint ≠ none)
    (hstate : TcpStates.Carries s.m_state → TcpStates.Carries s'.m_state)
    (hcount : s'.m_delAckCount = s.m_delAckCount ∧ s'.m_delAckMaxCount = s.m_delAckMaxCount ∧
      s'.m_delAckTimeout = s.m_delAckTimeout ∧ s.now ≤ s'.now)
    (ht : s'.timers.m_delAckEvent = s.timers.m_delAckEvent) : s'.Heeds := by
  obtain ⟨hcount, hmax, htimeout, hnow⟩ := hcount
  refine ⟨fun he' => hstate (h.carries (he he')), fun he' => ⟨?_, fun due hdue => ?_⟩⟩
  · rw [hcount, hmax, ht]
    exact (h.timed (he he')).running
  · rw [htimeout]
    exact ((h.timed (he he')).soon due (ht ▸ hdue)).trans (Int.add_le_add_right hnow _)

theorem Heeds.of_count (hstate : s.m_endPoint ≠ none → TcpStates.Carries s.m_state)
    (h : s.m_delAckCount = 0 ∨ s.m_delAckMaxCount ≤ s.m_delAckCount)
    (hsoon : s.m_endPoint ≠ none →
      ∀ due, s.timers.m_delAckEvent = some due → due ≤ s.now + s.m_delAckTimeout) : s.Heeds := by
  refine ⟨hstate, fun he => ⟨fun hpos hlt => ?_, hsoon he⟩⟩
  rcases h with h | h
  · rw [h] at hpos
    exact absurd hpos (by decide)
  · exact absurd hlt (UInt32.not_lt.2 h)

theorem Heeds.of_stopped (hstate : s.m_endPoint ≠ none → TcpStates.Carries s.m_state)
    (h : s.m_delAckCount = 0) (ht : s.timers.m_delAckEvent = none) : s.Heeds := by
  refine .of_count hstate (.inl h) fun _ due hdue => ?_
  rw [ht] at hdue
  cases hdue

theorem Heeds.notify (h : s.Heeds) (n : Notification) : (s.notify n).Heeds :=
  h.of_same id id ⟨rfl, rfl, rfl, le_rfl⟩ rfl

theorem Heeds.goto (h : s.Heeds) {state : TcpStates} (hs : TcpStates.Carries state) :
    (s.goto state).Heeds :=
  h.of_same id (fun _ => hs) ⟨rfl, rfl, rfl, le_rfl⟩ rfl

theorem deallocateEndPoint_gone (s : TcpSocketBase τ χ ε) : s.deallocateEndPoint.m_endPoint = none := by
  unfold deallocateEndPoint
  split
  · assumption
  · rfl

theorem Heeds.deallocate (s : TcpSocketBase τ χ ε) : s.deallocateEndPoint.Heeds :=
  .gone (deallocateEndPoint_gone s)

theorem Heeds.closeAndNotify (s : TcpSocketBase τ χ ε) : s.closeAndNotify.Heeds := .deallocate _

theorem Heeds.sendRST (s : TcpSocketBase τ χ ε) : (s.sendRST k).Heeds := .deallocate _

end Rules

section Output

theorem emitEmpty_count (e : EndPoint) (flags : Flags) (seq : SequenceNumber32) :
    (flags.ACK = true → (s.emitEmpty k e flags seq).m_delAckCount = 0 ∧
        (s.emitEmpty k e flags seq).timers.m_delAckEvent = none) ∧
      (flags.ACK = false → (s.emitEmpty k e flags seq).m_delAckCount = s.m_delAckCount ∧
        (s.emitEmpty k e flags seq).timers.m_delAckEvent = s.timers.m_delAckEvent) ∧
      (s.emitEmpty k e flags seq).m_delAckMaxCount = s.m_delAckMaxCount ∧
      (s.emitEmpty k e flags seq).m_delAckTimeout = s.m_delAckTimeout ∧
      s.now ≤ (s.emitEmpty k e flags seq).now := by
  unfold emitEmpty
  extract_lets h0 h1 s1 s2
  have h1 : (flags.ACK = true → s1.m_delAckCount = 0 ∧ s1.timers.m_delAckEvent = none) ∧
      (flags.ACK = false → s1.m_delAckCount = s.m_delAckCount ∧
        s1.timers.m_delAckEvent = s.timers.m_delAckEvent) ∧
      s1.m_delAckMaxCount = s.m_delAckMaxCount ∧ s1.m_delAckTimeout = s.m_delAckTimeout ∧
      s.now ≤ s1.now := by
    unfold s1
    cases flags.ACK with
    | true => exact ⟨fun _ => ⟨rfl, rfl⟩, nofun, rfl, rfl, le_rfl⟩
    | false => exact ⟨nofun, fun _ => ⟨rfl, rfl⟩, rfl, rfl, le_rfl⟩
  split_ifs
  · exact h1
  · exact h1

/-- A segment without data leaves nothing put off, if it acknowledges, and else changes nothing. -/
theorem Heeds.sendEmptyPacket (h : s.Heeds) (flags : Flags) : (s.sendEmptyPacket k flags).Heeds := by
  unfold TcpSocketBase.sendEmptyPacket
  split
  · exact h
  · rename_i e hsome
    extract_lets closing seq flags' s1 s2
    have h1 : s1.Heeds := h.of_same id id ⟨rfl, rfl, rfl, le_rfl⟩ rfl
    have h2 : s2.Heeds := by
      unfold s2
      split_ifs
      · exact h1.of_same id id ⟨rfl, rfl, rfl, le_rfl⟩ rfl
      · exact h1
    have hcount : (s2.countSyn k seq).Heeds := by
      unfold countSyn updateRttHistory
      extract_lets s3
      split_ifs
      · exact h2.of_same id id ⟨rfl, rfl, rfl, le_rfl⟩ rfl
      · exact h2.of_same id id ⟨rfl, rfl, rfl, le_rfl⟩ rfl
    have hemit : ∀ t : TcpSocketBase τ χ ε, t.Heeds → (t.emitEmpty k e flags' seq).Heeds := by
      intro t ht
      obtain ⟨hack, hbare, hmax⟩ := emitEmpty_count (k := k) (s := t) e flags' seq
      obtain ⟨hstate, hep⟩ := emitEmpty_keeps (k := k) (s := t) e flags' seq
      cases hf : flags'.ACK with
      | true =>
        refine .of_stopped (fun he => ?_) (hack hf).1 (hack hf).2
        rw [hstate]
        exact ht.carries (hep ▸ he)
      | false =>
        refine ht.of_same (fun he => hep ▸ he) (fun hs => hstate ▸ hs) ⟨(hbare hf).1, hmax⟩
          (hbare hf).2
    split_ifs
    · exact .deallocate _
    · exact hemit _ hcount
    · exact hemit _ h1

theorem Heeds.sendAck (h : s.Heeds) : (s.sendAck k).Heeds := by
  unfold TcpSocketBase.sendAck
  split_ifs
  · exact (h.sendEmptyPacket _).of_same id id ⟨rfl, rfl, rfl, le_rfl⟩ rfl
  · exact h.sendEmptyPacket _

theorem Heeds.piggybackFin (h : s.Heeds) : s.piggybackFin.Heeds := by
  unfold TcpSocketBase.piggybackFin
  split_ifs
  · exact h.goto (by decide)
  · exact h.goto (by decide)
  · exact h

theorem Heeds.emitData (h : s.Heeds) (e : EndPoint) (flags : Flags) (seq : SequenceNumber32)
    (sz : UInt32) (b : Bool) : (s.emitData k e flags seq sz b).Heeds := by
  unfold TcpSocketBase.emitData
  extract_lets header s1 s2 s3 s4 last
  have h2 : s2.Heeds := by
    unfold s2
    split_ifs
    · exact h.of_same id id ⟨rfl, rfl, rfl, le_rfl⟩ rfl
    · exact h.of_same id id ⟨rfl, rfl, rfl, le_rfl⟩ rfl
  have h3 : s3.Heeds := by
    unfold s3 updateRttHistory
    split_ifs
    · exact h2.of_same id id ⟨rfl, rfl, rfl, le_rfl⟩ rfl
    · exact h2.of_same id id ⟨rfl, rfl, rfl, le_rfl⟩ rfl
  have h4 : s4.Heeds := by
    unfold s4
    split_ifs
    · exact h3
    · exact h3.notify _
  exact h4.of_same id id ⟨rfl, rfl, rfl, le_rfl⟩ rfl

theorem Heeds.sendDataPacket (h : s.Heeds) (seq : SequenceNumber32) (maxSize : UInt32)
    (withAck : Bool) : (s.sendDataPacket k seq maxSize withAck).2.Heeds := by
  unfold TcpSocketBase.sendDataPacket sendItem
  extract_lets outItem s1 remainingData s2 reduced s3 fin s4
  have h2 : s2.Heeds := by
    unfold s2
    split_ifs
    · exact .of_stopped (fun he => h.carries he) rfl rfl
    · exact h.of_same id id ⟨rfl, rfl, rfl, le_rfl⟩ rfl
  have h3 : s3.Heeds := by
    unfold s3
    split_ifs
    · exact h2.of_same id id ⟨rfl, rfl, rfl, le_rfl⟩ rfl
    · exact h2
  have h4 : s4.Heeds := by
    unfold s4
    split_ifs
    · exact h3.piggybackFin
    · exact h3
  split
  · rename_i hnone
    exact .gone hnone
  · exact h4.emitData ..

theorem Heeds.askForData (h : s.Heeds) : (s.askForData k).Heeds := by
  unfold TcpSocketBase.askForData
  split_ifs
  · exact h
  · split
    · exact h
    · split_ifs
      · exact h.notify _
      · exact h

theorem Heeds.sendLoop (h : s.Heeds) (withAck : Bool) (rounds : ℕ) :
    (sendLoop k withAck rounds s).Heeds := by
  induction rounds generalizing s with
  | zero => exact h
  | succ rounds ih =>
    unfold TcpSocketBase.sendLoop
    split_ifs
    · split
      · exact h.askForData
      · rename_i next size _
        apply ih
        have hnext : Heeds { s.askForData k with
            m_tcb := { (s.askForData k).m_tcb with m_nextTxSequence := next } } :=
          (h.askForData (k := k)).of_same id id ⟨rfl, rfl, rfl, le_rfl⟩ rfl
        exact (hnext.sendDataPacket next size withAck).of_same id id ⟨rfl, rfl, rfl, le_rfl⟩ rfl
    · exact h

theorem Heeds.sendPendingData (h : s.Heeds) (withAck : Bool) :
    (s.sendPendingData k withAck).Heeds := by
  unfold TcpSocketBase.sendPendingData
  split_ifs
  · exact h
  · exact h
  · exact h.sendLoop ..

end Output

section Teardown

theorem Heeds.doClose (h : s.Heeds) : (s.doClose k).Heeds := by
  unfold TcpSocketBase.doClose
  split
  case h_1 | h_2 => exact (h.sendEmptyPacket _).goto (by decide)
  case h_3 => exact (h.sendEmptyPacket _).goto (by decide)
  case h_4 | h_5 | h_6 => exact .closeAndNotify _
  all_goals exact h

theorem Heeds.close (h : s.Heeds) : (s.close k).Heeds := by
  unfold TcpSocketBase.close
  split_ifs
  · exact .sendRST _
  · exact h.of_same id id ⟨rfl, rfl, rfl, le_rfl⟩ rfl
  · exact h.doClose

theorem Heeds.shutdownSend (h : s.Heeds) : (s.shutdownSend k).Heeds := by
  unfold TcpSocketBase.shutdownSend
  extract_lets s1 s2
  have h1 : s1.Heeds := h.of_same id id ⟨rfl, rfl, rfl, le_rfl⟩ rfl
  have h2 : s2.Heeds := h1.sendEmptyPacket _
  split_ifs
  · exact h2.goto (by decide)
  · exact h2.goto (by decide)
  · exact h1

theorem Heeds.assert (h : s.Heeds) (p : Prop) [Decidable p] (f : Fault) : (s.assert p f).Heeds := by
  unfold TcpSocketBase.assert
  split_ifs
  · exact h
  · exact h.of_same id id ⟨rfl, rfl, rfl, le_rfl⟩ rfl

theorem Heeds.notifyClose (h : s.Heeds) : s.notifyClose.Heeds := by
  unfold TcpSocketBase.notifyClose
  split_ifs
  · exact h
  · exact h.of_same id id ⟨rfl, rfl, rfl, le_rfl⟩ rfl

theorem Heeds.doPeerClose (h : s.Heeds) : (s.doPeerClose k).Heeds := by
  unfold TcpSocketBase.doPeerClose
  extract_lets s1 s2 s3
  have h1 : s1.Heeds := h.assert _ _
  have h2 : s2.Heeds := (h1.goto (by decide)).notifyClose
  have h3 : s3.Heeds := by
    unfold s3
    split_ifs
    · exact h2.close
    · exact h2.sendEmptyPacket _
  split_ifs
  · exact h3.of_same id id ⟨rfl, rfl, rfl, le_rfl⟩ rfl
  · exact h3

end Teardown

section Input

theorem Heeds.ackData (h : s.Heeds) (expectedSeq : SequenceNumber32) (size : UInt32) :
    (s.ackData k expectedSeq size).Heeds := by
  unfold TcpSocketBase.ackData
  extract_lets s1
  split_ifs with hgap hfull hnone
  · exact h.sendAck
  · have h1 : s1.cancelDelAck.Heeds := .of_stopped (fun he => h.carries he) rfl rfl
    exact h1.sendAck
  · refine ⟨fun he => h.carries he, fun _ => ⟨fun _ _ => by simp, fun due hdue => ?_⟩⟩
    obtain rfl := Option.some.inj hdue
    exact le_rfl
  · exact ⟨fun he => h.carries he, fun he => ⟨fun _ _ => hnone, (h.timed he).soon⟩⟩

theorem Heeds.notifyDataRecv (h : s.Heeds) : (s.notifyDataRecv k).Heeds := by
  unfold TcpSocketBase.notifyDataRecv
  split_ifs
  · exact h
  · exact h.of_same id id ⟨rfl, rfl, rfl, le_rfl⟩ rfl

theorem Heeds.receivedData (h : s.Heeds) (header : TcpHeader) (size : UInt32) :
    (s.receivedData k header size).Heeds := by
  unfold TcpSocketBase.receivedData
  extract_lets expectedSeq r s1 s2
  have h1 : s1.Heeds := h.of_same id id ⟨rfl, rfl, rfl, le_rfl⟩ rfl
  have h2 : s2.Heeds := h1.notifyDataRecv
  split_ifs
  · exact h1.sendAck
  · exact h2.doPeerClose
  · exact h2.ackData ..
  · exact h1.ackData ..

theorem Heeds.receivedPiggyback (h : s.Heeds) (header : TcpHeader) (size : UInt32) :
    (s.receivedPiggyback k header size).Heeds := by
  unfold TcpSocketBase.receivedPiggyback
  split_ifs
  · exact h.receivedData ..
  · exact h

theorem Heeds.peerClose (h : s.Heeds) (header : TcpHeader) (size : UInt32) :
    (s.peerClose k header size).Heeds := by
  unfold TcpSocketBase.peerClose
  extract_lets s1 s2
  have h1 : s1.Heeds := h.of_same id id ⟨rfl, rfl, rfl, le_rfl⟩ rfl
  have h2 : s2.Heeds := h1.receivedPiggyback ..
  split_ifs
  · exact h
  · exact h2.goto (by decide)
  · exact h2.doPeerClose
  · exact h2

theorem Heeds.notifySend (h : s.Heeds) : (s.notifySend k).Heeds := by
  unfold TcpSocketBase.notifySend
  split_ifs
  · exact h.notify _
  · exact h

theorem Heeds.newAck (h : s.Heeds) (ack : SequenceNumber32) (resetRTO : Bool) :
    (s.newAck k ack resetRTO).Heeds := by
  unfold TcpSocketBase.newAck
  extract_lets s1 s2 _ s3
  have h2 : s2.Heeds := by
    refine Heeds.notifySend ?_
    unfold restartRetx
    split_ifs
    · exact h.of_same id id ⟨rfl, rfl, rfl, le_rfl⟩ rfl
    · exact h.of_same id id ⟨rfl, rfl, rfl, le_rfl⟩ rfl
  have h3 : s3.Heeds := h2.of_same id id ⟨rfl, rfl, rfl, le_rfl⟩ rfl
  split_ifs
  · exact h3.of_same id id ⟨rfl, rfl, rfl, le_rfl⟩ rfl
  · exact h3

theorem Heeds.act (h : s.Heeds) (ack : SequenceNumber32) (a : AckAction τ) :
    (s.act k ack a).Heeds := by
  cases a with
  | retransmit =>
    change (s.doRetransmit k).Heeds
    unfold doRetransmit
    extract_lets range _ s1
    have h1 : s1.Heeds := h.of_same id id ⟨rfl, rfl, rfl, le_rfl⟩ rfl
    exact h1.sendDataPacket ..
  | newAck resetRTO => exact h.newAck ack resetRTO
  | advance => exact h.of_same id id ⟨rfl, rfl, rfl, le_rfl⟩ rfl
  | window cWnd congState => exact h.of_same id id ⟨rfl, rfl, rfl, le_rfl⟩ rfl
  | mark g => exact h.of_same id id ⟨rfl, rfl, rfl, le_rfl⟩ rfl

theorem Heeds.acts (h : s.Heeds) (ack : SequenceNumber32) (actions : List (AckAction τ)) :
    (s.acts k ack actions).Heeds := by
  induction actions generalizing s with
  | nil => exact h
  | cons a actions ih => exact ih (h.act ack a)

theorem Heeds.echo (h : s.Heeds) (header : TcpHeader) (old : SequenceNumber32) :
    (s.echo k header old).Heeds := by
  unfold TcpSocketBase.echo
  split_ifs
  · exact h.of_same id id ⟨rfl, rfl, rfl, le_rfl⟩ rfl
  · exact h
  · exact h.of_same id id ⟨rfl, rfl, rfl, le_rfl⟩ rfl
  · exact h

theorem Heeds.receivedAck (h : s.Heeds) (header : TcpHeader) (size : UInt32)
    (actions : List (AckAction τ)) : (s.receivedAck k header size actions).Heeds := by
  unfold TcpSocketBase.receivedAck
  extract_lets s1 s2 old s3 s4 s5
  have h2 : s2.Heeds := by
    have h1 : s1.Heeds := h.assert _ _
    unfold s2
    split_ifs
    · exact h1
    · exact h1.of_same id id ⟨rfl, rfl, rfl, le_rfl⟩ rfl
  have h3 : s3.Heeds := h2.of_same id id ⟨rfl, rfl, rfl, le_rfl⟩ rfl
  have h5 : s5.Heeds := ((h3.echo header old).acts ..).receivedPiggyback ..
  split_ifs
  · exact h2.receivedPiggyback ..
  · exact h5.sendPendingData _

theorem Heeds.refuse (s : TcpSocketBase τ χ ε) (reset : Prop) [Decidable reset] :
    (s.refuse k reset).Heeds := .closeAndNotify _

theorem Heeds.processEstablished (h : s.Heeds) (a : Arrival τ) : (s.processEstablished k a).Heeds := by
  unfold TcpSocketBase.processEstablished
  extract_lets header size tcpflags s1
  have h1 : s1.Heeds := h.receivedData ..
  split_ifs
  · exact h
  · exact h.sendAck
  · exact h.receivedAck ..
  · exact h
  · exact h
  · exact h.peerClose ..
  · exact h1.peerClose ..
  · exact h1
  · exact .refuse _ _

/-- A connection may come to wait for its end, and is over then. -/
def HeedsOrOver (s : TcpSocketBase τ χ ε) : Prop := TcpStates.Carries s.m_state → s.Heeds

theorem Heeds.orOver (h : s.Heeds) : s.HeedsOrOver := fun _ => h

theorem HeedsOrOver.of_timeWait (h : s.m_state = .TIME_WAIT) : s.HeedsOrOver := by
  intro hs
  rw [h] at hs
  exact absurd rfl hs.2

theorem timeWait_state (s : TcpSocketBase τ χ ε) : s.timeWait.m_state = .TIME_WAIT := by
  change (s.goto .TIME_WAIT).cancelAllTimers.notifyClose.m_state = _
  exact notifyClose_keeps.2.1

theorem Heeds.finishWait (h : s.Heeds) (header : TcpHeader) : (s.finishWait k header).HeedsOrOver := by
  unfold TcpSocketBase.finishWait
  extract_lets s1 s2
  split_ifs
  · have h2 : s2.Heeds ∨ s2.m_state = .TIME_WAIT := by
      unfold s2
      split_ifs
      · exact .inr (timeWait_state _)
      · exact .inl (h.goto (by decide))
      · exact .inr (timeWait_state _)
    rcases h2 with h2 | h2
    · exact ((h2.sendEmptyPacket _).notifyDataRecv).orOver
    · apply HeedsOrOver.of_timeWait
      unfold TcpSocketBase.notifyDataRecv
      split_ifs
      · exact (sendEmptyPacket_keeps _ rfl).1.trans h2
      · exact (sendEmptyPacket_keeps _ rfl).1.trans h2
  · exact h.orOver

theorem Heeds.processWait (h : s.Heeds) (a : Arrival τ) : (s.processWait k a).HeedsOrOver := by
  unfold TcpSocketBase.processWait
  extract_lets header size tcpflags s1 s2 s3
  have h1 : s1.Heeds := h.receivedAck ..
  have h2 : s2.Heeds := by
    unfold s2
    split_ifs
    · exact h1.goto (by decide)
    · exact h1
  have h3 : s3.Heeds := by
    unfold s3
    split_ifs
    · exact h1
    · exact h
  have hfin : Heeds { s3 with
      m_rxBuffer := k.setFinSequence s3.m_rxBuffer header.sequenceNumber } :=
    h3.of_same id id ⟨rfl, rfl, rfl, le_rfl⟩ rfl
  split_ifs
  · exact (h.receivedData ..).finishWait _
  · exact h2.finishWait _
  · exact hfin.finishWait _
  · exact h.orOver
  · exact (Heeds.refuse ..).orOver

theorem Heeds.processClosing (h : s.Heeds) (a : Arrival τ) : (s.processClosing k a).HeedsOrOver := by
  unfold TcpSocketBase.processClosing
  extract_lets header tcpflags
  split_ifs
  · exact .of_timeWait (timeWait_state _)
  · exact h.orOver
  · exact (Heeds.closeAndNotify _).orOver
  · exact (Heeds.refuse ..).orOver

theorem Heeds.processLastAck (h : s.Heeds) (a : Arrival τ) : (s.processLastAck k a).Heeds := by
  unfold TcpSocketBase.processLastAck
  extract_lets header tcpflags
  split_ifs
  · exact h.receivedData ..
  · exact .closeAndNotify _
  · exact h
  · exact h.sendEmptyPacket _
  · exact .refuse ..

end Input

section Handshake

theorem Heeds.setEcnState (h : s.Heeds) (ecnState : EcnState) : (s.setEcnState ecnState).Heeds :=
  h.of_same id id ⟨rfl, rfl, rfl, le_rfl⟩ rfl

theorem Heeds.setNextRx (h : s.Heeds) (seq : SequenceNumber32) : (s.setNextRx k seq).Heeds :=
  h.of_same id id ⟨rfl, rfl, rfl, le_rfl⟩ rfl

theorem Heeds.sendSynAck (h : s.Heeds) (flags : Flags) : (s.sendSynAck k flags).Heeds := by
  unfold TcpSocketBase.sendSynAck
  split_ifs
  · exact (h.sendEmptyPacket _).setEcnState _
  · exact (h.setEcnState _).sendEmptyPacket _

/-- A connection that is established counts from nothing, but the next segment is acknowledged at once. -/
theorem Heeds.full (h : s.Heeds) : Heeds { s with m_delAckCount := s.m_delAckMaxCount } :=
  .of_count h.carries (.inr (UInt32.le_refl _)) fun he => (h.timed he).soon

theorem Heeds.connectionSucceeded (h : s.Heeds) : (s.connectionSucceeded k).Heeds :=
  (h.notify .connectionSucceeded).notifySend

theorem Heeds.openCongestion (h : s.Heeds) :
    Heeds { s with m_tcb := { s.m_tcb with m_congState := .CA_OPEN } } :=
  h.of_same id id ⟨rfl, rfl, rfl, le_rfl⟩ rfl

theorem Heeds.establish (h : s.Heeds) : s.establish.Heeds :=
  h.of_same id (fun _ => ⟨nofun, nofun⟩) ⟨rfl, rfl, rfl, le_rfl⟩ rfl

theorem Heeds.cancelRetx (h : s.Heeds) : s.cancelRetx.Heeds :=
  h.of_same id id ⟨rfl, rfl, rfl, le_rfl⟩ rfl

theorem Heeds.consumeSyn (h : s.Heeds) : (s.consumeSyn k).Heeds :=
  h.of_same id id ⟨rfl, rfl, rfl, le_rfl⟩ rfl

theorem Heeds.setPeer (h : s.Heeds) (peer : Address) : (s.setPeer peer).Heeds :=
  h.of_same (fun he => by simpa [TcpSocketBase.setPeer] using he) id ⟨rfl, rfl, rfl, le_rfl⟩ rfl

theorem Heeds.completeHandshake (h : s.Heeds) (seq : SequenceNumber32) (tcpflags : Flags) :
    (s.completeHandshake k seq tcpflags).Heeds := by
  unfold TcpSocketBase.completeHandshake
  extract_lets _ s1 s2 s3 s4 s5
  have h1 : s1.Heeds := h.openCongestion
  have h2 : s2.Heeds := (h1.establish.cancelRetx.setNextRx _).consumeSyn
  have h4 : s4.Heeds := (h2.sendEmptyPacket _).setEcnState _
  have h5 : s5.Heeds := (h4.sendPendingData _).connectionSucceeded
  exact h5.full

theorem Heeds.processSynSent (h : s.Heeds) (a : Arrival τ) : (s.processSynSent k a).Heeds := by
  unfold TcpSocketBase.processSynSent
  extract_lets header tcpflags s1
  have h1 : s1.Heeds := h.of_same id (fun _ => ⟨nofun, nofun⟩) ⟨rfl, rfl, rfl, le_rfl⟩ rfl
  split_ifs
  · exact (h.openCongestion.establish.cancelRetx.full.receivedData ..).connectionSucceeded
  · exact h
  · exact (h1.setNextRx _).sendSynAck _
  · exact h.completeHandshake ..
  · exact .refuse ..

theorem Heeds.connectionCreated (h : s.Heeds) (peer : Address) :
    (s.connectionCreated k peer).Heeds :=
  (h.cancelRetx.consumeSyn.setPeer peer).notify _

theorem Heeds.processSynRcvd (h : s.Heeds) (a : Arrival τ) : (s.processSynRcvd k a).Heeds := by
  unfold TcpSocketBase.processSynRcvd
  extract_lets header tcpflags s1
  have h1 : Heeds { s with m_connected := true } := h.of_same id id ⟨rfl, rfl, rfl, le_rfl⟩ rfl
  split_ifs
  · have hopen := (h.openCongestion.establish.connectionCreated (k := k) a.segment.source).full
    exact (hopen.receivedAck ..).notifySend
  · exact (h.setNextRx _).sendSynAck _
  · exact (h1.connectionCreated _).peerClose ..
  · exact h
  · exact .closeAndNotify _
  · exact .closeAndNotify _

end Handshake

section Arrive

theorem Heeds.processOptionTimestamp (h : s.Heeds) (ts : UInt32 × UInt32) (seq : SequenceNumber32) :
    (s.processOptionTimestamp k ts seq).Heeds := by
  unfold TcpSocketBase.processOptionTimestamp
  split_ifs
  · exact h
  all_goals exact h.of_same id id ⟨rfl, rfl, rfl, le_rfl⟩ rfl

theorem Heeds.estimateRtt (h : s.Heeds) (header : TcpHeader) : (s.estimateRtt k header).Heeds := by
  unfold TcpSocketBase.estimateRtt
  extract_lets m s1
  have h1 : s1.Heeds := h.of_same id id ⟨rfl, rfl, rfl, le_rfl⟩ rfl
  clear_value m
  split
  · exact h1
  · split_ifs
    · exact h1
    · exact h1.of_same id id ⟨rfl, rfl, rfl, le_rfl⟩ rfl

theorem Heeds.updateWindowSize (h : s.Heeds) (header : TcpHeader) :
    (s.updateWindowSize k header).Heeds := by
  unfold TcpSocketBase.updateWindowSize
  extract_lets
  split_ifs
  all_goals exact h.of_same id id ⟨rfl, rfl, rfl, le_rfl⟩ rfl

theorem Heeds.processSyn (h : s.Heeds) (header : TcpHeader) : (s.processSyn k header).Heeds := by
  unfold TcpSocketBase.processSyn
  extract_lets s1 s2 s3 s4 cWnd _ s5
  have h2 : s2.Heeds := by
    unfold s2
    split
    · exact h.of_same id id ⟨rfl, rfl, rfl, le_rfl⟩ rfl
    · exact h.of_same id id ⟨rfl, rfl, rfl, le_rfl⟩ rfl
  have h3 : s3.Heeds := by
    unfold s3
    split_ifs
    · exact h2
    · exact h2.of_same id id ⟨rfl, rfl, rfl, le_rfl⟩ rfl
  have h4 : s4.Heeds := by
    unfold s4
    split
    · exact h3.processOptionTimestamp ..
    · exact h3.of_same id id ⟨rfl, rfl, rfl, le_rfl⟩ rfl
  have h5 : s5.Heeds := h4.of_same id id ⟨rfl, rfl, rfl, le_rfl⟩ rfl
  have hmark : Heeds { s5 with m_highRxAckMark := header.ackNumber } :=
    h5.of_same id id ⟨rfl, rfl, rfl, le_rfl⟩ rfl
  split_ifs
  · exact hmark.estimateRtt _
  · exact h5

theorem Heeds.processAckHeader (h : s.Heeds) {header : TcpHeader}
    (hread : s.processAckHeader k header = some s') : s'.Heeds := by
  unfold TcpSocketBase.processAckHeader at hread
  split at hread
  · cases hread
  · obtain rfl := Option.some.inj hread
    exact ((h.processOptionTimestamp ..).estimateRtt _).updateWindowSize _
  · obtain rfl := Option.some.inj hread
    exact (h.estimateRtt _).updateWindowSize _

theorem Heeds.acceptCwr (h : s.Heeds) (flags : Flags) : (s.acceptCwr flags).Heeds := by
  unfold TcpSocketBase.acceptCwr
  split_ifs
  · exact h.setEcnState _
  · exact h

theorem Heeds.readHeader (h : s.Heeds) {header : TcpHeader}
    (hread : s.readHeader k header = some s') : s'.Heeds := by
  unfold TcpSocketBase.readHeader at hread
  extract_lets s1 at hread
  have h1 : s1.Heeds := h.acceptCwr _
  split_ifs at hread
  · obtain rfl := Option.some.inj hread
    exact h1.processSyn _
  · exact h1.processAckHeader hread
  · obtain rfl := Option.some.inj hread
    exact h1

theorem Heeds.markCE (h : s.Heeds) (CE : Bool) (seq : SequenceNumber32) : (s.markCE k CE seq).Heeds := by
  unfold TcpSocketBase.markCE
  split_ifs
  · exact h.of_same id id ⟨rfl, rfl, rfl, le_rfl⟩ rfl
  · exact h

theorem Heeds.enterPersist (h : s.Heeds) : s.enterPersist.Heeds := by
  unfold TcpSocketBase.enterPersist
  split_ifs
  · exact h.of_same id id ⟨rfl, rfl, rfl, le_rfl⟩ rfl
  · exact h

theorem Heeds.leavePersist (h : s.Heeds) : (s.leavePersist k).Heeds := by
  unfold TcpSocketBase.leavePersist
  extract_lets s1 _ s2
  have h1 : s1.Heeds := h.assert _ _
  have h2 : s2.Heeds := h1.of_same id id ⟨rfl, rfl, rfl, le_rfl⟩ rfl
  split_ifs
  · exact h2.sendPendingData _
  · exact h

theorem Heeds.dispatch (h : s.Heeds) (a : Arrival τ) (he : s.m_endPoint ≠ none) :
    (s.dispatch k a).HeedsOrOver := by
  unfold TcpSocketBase.dispatch
  split
  case h_1 => exact (h.processEstablished a).orOver
  case h_2 | h_3 => exact h.orOver
  case h_4 hc => exact absurd hc (h.carries he).1
  case h_5 => exact (h.processSynSent a).orOver
  case h_6 => exact (h.processSynRcvd a).orOver
  case h_7 | h_8 | h_9 => exact h.processWait a
  case h_10 => exact h.processClosing a
  case h_11 => exact (h.processLastAck a).orOver

end Arrive

end TcpSocketBase

theorem TcpStates.not_carries_iff (state : TcpStates) :
    ¬ TcpStates.Carries state ↔ stage .TIME_WAIT ≤ stage state := by
  cases state <;> decide

theorem Openings.not_carries {l l' : Life} (h : Openings l l') (hf : l'.faults = [])
    (hl : ¬ TcpStates.Carries l.m_state) : ¬ TcpStates.Carries l'.m_state := by
  rw [TcpStates.not_carries_iff] at hl ⊢
  exact hl.trans (h.forward hf).2

namespace TcpSocketBase
variable {τ χ ε : Type} {k : Stack τ χ ε} {s : TcpSocketBase τ χ ε}

theorem HeedsOrOver.leavePersist (h : s.HeedsOrOver) (hf : (s.leavePersist k).faults = []) :
    (s.leavePersist k).HeedsOrOver := by
  by_cases hs : TcpStates.Carries s.m_state
  · exact (h hs).leavePersist.orOver
  · have hopen : Openings s.toLife (s.leavePersist k).toLife := moves_leavePersist.openings
    exact fun hs' => absurd hs' (hopen.not_carries hf hs)

theorem Heeds.arrive (h : s.Heeds) (a : Arrival τ) (hf : (s.arrive k a).faults = []) :
    (s.arrive k a).HeedsOrOver := by
  unfold TcpSocketBase.arrive at hf ⊢
  split_ifs at hf ⊢ with he
  · exact h.orOver
  · unfold forwardUp at hf ⊢
    extract_lets seq at hf
    extract_lets
    split_ifs at hf ⊢
    · exact (h.sendEmptyPacket _).orOver
    · have hmark : (s.markCE k a.CE seq).Heeds := h.markCE ..
      rw [doForwardUp_eq] at hf ⊢
      cases hread : (s.markCE k a.CE seq).readHeader k a.segment.header with
      | none => exact (hmark.acceptCwr _).orOver
      | some s1 =>
        rw [hread] at hf
        have hlife : s1.toLife = s.toLife := (readHeader_toLife hread).trans (markCE_toLife ..)
        have he1 : s1.m_endPoint ≠ none := by
          rw [show s1.m_endPoint = s.m_endPoint from congrArg Life.m_endPoint hlife]
          exact he
        have h1 : s1.enterPersist.Heeds := (hmark.readHeader hread).enterPersist
        have hmid := h1.dispatch (k := k) a (by rwa [enterPersist_keeps.2])
        exact hmid.leavePersist hf

section Steps

theorem Heeds.send (h : s.Heeds) (size : UInt32) : (s.send k size).Heeds := by
  unfold TcpSocketBase.send
  split_ifs
  · split
    · exact h
    · extract_lets s1
      have h1 : s1.Heeds := h.of_same id id ⟨rfl, rfl, rfl, le_rfl⟩ rfl
      split_ifs
      · exact h1
      · exact h1.of_same id id ⟨rfl, rfl, rfl, le_rfl⟩ rfl
      · exact h1
  · exact h

theorem Heeds.reTxTimeout (h : s.Heeds) : (s.reTxTimeout k).Heeds := by
  unfold TcpSocketBase.reTxTimeout
  extract_lets txBuffer _ s1
  have h1 : s1.Heeds := h.of_same id id ⟨rfl, rfl, rfl, le_rfl⟩ rfl
  split_ifs
  · exact h
  · exact (h.assert _ _).sendEmptyPacket _
  · exact h.sendEmptyPacket _
  · exact h
  · exact .deallocate _
  · exact h1.sendPendingData _

theorem Heeds.retxExpires (h : s.Heeds) : (s.retxExpires k).Heeds := by
  unfold TcpSocketBase.retxExpires
  split
  · exact h
  · rename_i handler due _
    extract_lets s1
    have h1 : s1.Heeds := h.of_same id id ⟨rfl, rfl, rfl, le_max_left ..⟩ rfl
    split
    · exact h1.reTxTimeout
    · exact h1.sendEmptyPacket _

theorem Heeds.lastAckTimeout (h : s.Heeds) : (s.lastAckTimeout k).Heeds := by
  unfold TcpSocketBase.lastAckTimeout
  extract_lets _ s1 s2
  have h1 : s1.Heeds := h.of_same id id ⟨rfl, rfl, rfl, le_rfl⟩ rfl
  have h2 : s2.Heeds := h1.of_same id id ⟨rfl, rfl, rfl, le_rfl⟩ rfl
  split_ifs
  · exact .deallocate _
  · exact (h2.sendEmptyPacket _).of_same id id ⟨rfl, rfl, rfl, le_rfl⟩ rfl
  · exact h1

theorem Heeds.persistTimeout (h : s.Heeds) : (s.persistTimeout k).Heeds := by
  unfold TcpSocketBase.persistTimeout
  extract_lets item s1 header
  split
  · exact h.of_same id id ⟨rfl, rfl, rfl, le_rfl⟩ rfl
  · exact h.of_same id id ⟨rfl, rfl, rfl, le_rfl⟩ rfl

theorem Heeds.step (h : s.Heeds) {e : SocketEvent τ} (he : ¬ e.Opens)
    (hf : (s.step k e).faults = []) : (s.step k e).HeedsOrOver := by
  have hlater : ∀ now, s.now ≤ now → Heeds { s with now := now } := fun now hnow =>
    h.of_same id id ⟨rfl, rfl, rfl, hnow⟩ rfl
  cases e with
  | bind | connect | listen | destroy => exact absurd trivial he
  | wait delay =>
    exact (hlater (s.now + delay) (Int.le_add_of_nonneg_right (Int.natCast_nonneg _))).orOver
  | recv maxSize =>
    have h1 : Heeds { s with m_rxBuffer := k.rxExtract s.m_rxBuffer maxSize } :=
      h.of_same id id ⟨rfl, rfl, rfl, le_rfl⟩ rfl
    exact h1.orOver
  | shutdownRecv =>
    have h1 : Heeds { s with m_shutdownRecv := true } := h.of_same id id ⟨rfl, rfl, rfl, le_rfl⟩ rfl
    exact h1.orOver
  | send size => exact (h.send size).orOver
  | close => exact h.close.orOver
  | shutdownSend => exact h.shutdownSend.orOver
  | arrive a => exact h.arrive a hf
  | retx => exact h.retxExpires.orOver
  | persist =>
    refine expires_elim (P := HeedsOrOver) h.orOver fun due _ => Heeds.orOver ?_
    have h1 := hlater (max s.now due) (le_max_left ..)
    apply Heeds.persistTimeout
    exact h1.of_same id id ⟨rfl, rfl, rfl, le_rfl⟩ rfl
  | delAck =>
    refine expires_elim (P := HeedsOrOver) h.orOver fun due _ => Heeds.orOver ?_
    apply Heeds.sendAck
    exact .of_stopped h.carries rfl rfl
  | lastAck =>
    refine expires_elim (P := HeedsOrOver) h.orOver fun due _ => Heeds.orOver ?_
    have h1 := hlater (max s.now due) (le_max_left ..)
    apply Heeds.lastAckTimeout
    exact h1.of_same id id ⟨rfl, rfl, rfl, le_rfl⟩ rfl
  | timewait =>
    refine expires_elim (P := HeedsOrOver) h.orOver fun _ _ => Heeds.orOver ?_
    exact .closeAndNotify _
  | sendPending =>
    refine expires_elim (P := HeedsOrOver) h.orOver fun due _ => Heeds.orOver ?_
    have h1 := hlater (max s.now due) (le_max_left ..)
    apply Heeds.sendPendingData
    exact h1.of_same id id ⟨rfl, rfl, rfl, le_rfl⟩ rfl

theorem HeedsOrOver.step (h : s.HeedsOrOver) (hw : s.toLife.Wired) {e : SocketEvent τ}
    (he : ¬ e.Opens) (hf : (s.step k e).faults = []) : (s.step k e).HeedsOrOver := by
  by_cases hs : TcpStates.Carries s.m_state
  · exact (h hs).step he hf
  · exact fun hs' => absurd hs' ((openings_step hw he).not_carries hf hs)

theorem HeedsOrOver.run (h : s.HeedsOrOver) (hw : s.toLife.Wired) {evs : List (SocketEvent τ)}
    (hE : ∀ e ∈ evs, ¬ e.Opens) (hf : (run (TcpSocketBase.step k) s evs).faults = []) :
    (run (TcpSocketBase.step k) s evs).HeedsOrOver := by
  induction evs generalizing s with
  | nil => exact h
  | cons e evs ih =>
    have he : ¬ e.Opens := hE e (by simp)
    have hevs : ∀ e' ∈ evs, ¬ e'.Opens := fun e' he' => hE e' (by simp [he'])
    have hw1 : (s.step k e).toLife.Wired := step_wired k hw (SocketEvent.not_rebinds he)
    have hf1 : (s.step k e).faults = [] := ((openings_run k hw1 hevs).forward hf).1
    exact ih (h.step hw he hf1) hw1 hevs hf

end Steps

section Answer

/-- The segment acknowledges all that has come in order, and nothing stays put off. -/
structure Answers (k : Stack τ χ ε) (s s' : TcpSocketBase τ χ ε) : Prop where
  count : s'.m_delAckCount = 0
  sent : ∃ g, s'.sent = s.sent ++ [g] ∧ g.header.flags.ACK = true ∧
    g.header.ackNumber = k.nextRxSequence s.m_rxBuffer

theorem answers_emitEmpty (e : EndPoint) {flags : Flags} (hack : flags.ACK = true)
    (seq : SequenceNumber32) : s.Answers k (s.emitEmpty k e flags seq) := by
  obtain ⟨h, hsent, hflags, hnumber, -⟩ := emitEmpty_sends (k := k) (s := s) e flags seq
  refine ⟨((emitEmpty_count e flags seq).1 hack).1, _, hsent, ?_, hnumber⟩
  rw [hflags]
  exact hack

theorem answers_sendEmptyPacket (he : s.m_endPoint ≠ none) {flags : Flags}
    (hack : flags.ACK = true) (hs : flags.SYN = false) (hfin : flags.FIN = false) :
    s.Answers k (s.sendEmptyPacket k flags) := by
  unfold TcpSocketBase.sendEmptyPacket
  split
  · rename_i hnone
    exact absurd hnone he
  · rename_i e _
    extract_lets _ seq flags' s1
    have hflags : flags' = flags := if_neg (by simp [hfin])
    rw [hflags, if_neg (by simp [hs])]
    obtain ⟨hcount, hsent⟩ := answers_emitEmpty (k := k) (s := s1) e hack seq
    exact ⟨hcount, hsent⟩

theorem answers_sendAck (he : s.m_endPoint ≠ none) : s.Answers k (s.sendAck k) := by
  unfold TcpSocketBase.sendAck
  split_ifs
  · have hsent : s.Answers k (s.sendEmptyPacket k { ACK := true, ECE := true }) :=
      answers_sendEmptyPacket he rfl rfl rfl
    exact ⟨hsent.count, hsent.sent⟩
  · exact answers_sendEmptyPacket he rfl rfl rfl

theorem answers_delAck (he : s.m_endPoint ≠ none) {due : Time}
    (hdue : s.timers.m_delAckEvent = some due) : s.Answers k (s.step k .delAck) := by
  unfold TcpSocketBase.step expires
  rw [hdue]
  obtain ⟨hcount, hsent⟩ := answers_sendAck (k := k) (s := { s with
    now := max s.now due, timers := { s.timers with m_delAckEvent := none }, m_delAckCount := 0 }) he
  exact ⟨hcount, hsent⟩

/-- No segment is counted and forgotten. In every run, while the connection goes on and fewer segments are
counted than call for an ACK, but some, the timer of the delayed ACK is running and is due within its time-out;
and when it expires an ACK of all that has come goes out, and none is counted any more. -/
theorem acks_are_timed (hw : s.toLife.Wired) (hs : s.Timed) {evs : List (SocketEvent τ)}
    (hE : ∀ e ∈ evs, ¬ e.Opens) {t : TcpSocketBase τ χ ε}
    (ht : run (TcpSocketBase.step k) s evs = t) (hf : t.faults = []) (he : t.m_endPoint ≠ none)
    (hopen : t.m_state ≠ .CLOSED ∧ t.m_state ≠ .TIME_WAIT)
    (hcount : 0 < t.m_delAckCount ∧ t.m_delAckCount < t.m_delAckMaxCount) :
    (∃ due, t.timers.m_delAckEvent = some due ∧ due ≤ t.now + t.m_delAckTimeout) ∧
      t.Answers k (t.step k .delAck) := by
  subst ht
  have hstart : s.HeedsOrOver := fun hc => ⟨fun _ => hc, fun _ => hs⟩
  have htimed := (hstart.run hw hE hf hopen).timed he
  obtain ⟨due, hdue⟩ := Option.ne_none_iff_exists'.1 (htimed.running hcount.1 hcount.2)
  exact ⟨⟨due, hdue, htimed.soon due hdue⟩, answers_delAck he hdue⟩

def dataSegment (seq : SequenceNumber32) : Arrival PlainTxBuffer :=
  { segment := { synAck.segment with
      header := { flags := { ACK := true }, sequenceNumber := seq, ackNumber := 1, ts := some (0, 0) }
      size := 100 } }

/-- Of two segments that follow the handshake the second is put off. -/
theorem acks_are_timed_client :
    ∃ due, (run (step .plain) client
        [.arrive synAck, .arrive (dataSegment 1), .arrive (dataSegment 101)]).timers.m_delAckEvent =
      some due ∧ due ≤ 200 := by
  have hE : ∀ e ∈ ([.arrive synAck, .arrive (dataSegment 1), .arrive (dataSegment 101)] :
      List (SocketEvent PlainTxBuffer)), ¬ e.Opens := by
    simp [SocketEvent.Opens]
  have hs : client.Timed := ⟨fun h => absurd h (by decide +kernel), fun due hdue => by
    rw [show client.timers.m_delAckEvent = none by decide +kernel] at hdue
    cases hdue⟩
  exact (acks_are_timed (k := .plain) (fun h => absurd rfl h) hs hE rfl (by decide +kernel)
    (by decide +kernel) (by decide +kernel) (by decide +kernel)).1

end Answer

end TcpSocketBase

end NetSessional.Tcp
