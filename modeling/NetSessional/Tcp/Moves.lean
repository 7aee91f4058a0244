import NetSessional.Tcp.Socket

/-! What the life of a connection is made of. Whatever a socket does outside the handshake is a
sequence of the moves below, each with the condition under which the source makes it; the handshake
adds the moves that open a connection. -/

namespace NetSessional.Tcp
open Vegas

/-- The transitions of `m_state` outside the handshake, except those to `CLOSED`. Besides those of the
protocol there is a close in `SYN_RCVD`, and a FIN that a late segment completes after this end's own
FIN. -/
inductive Edge : TcpStates → TcpStates → Prop where
  | finWait1 : Edge .ESTABLISHED .FIN_WAIT_1
  | earlyClose : Edge .SYN_RCVD .FIN_WAIT_1
  | closeWait : Edge .ESTABLISHED .CLOSE_WAIT
  | earlyFin : Edge .SYN_RCVD .CLOSE_WAIT
  | lateFin1 : Edge .FIN_WAIT_1 .CLOSE_WAIT
  | lateFin2 : Edge .FIN_WAIT_2 .CLOSE_WAIT
  | lastAck : Edge .CLOSE_WAIT .LAST_ACK
  | finWait2 : Edge .FIN_WAIT_1 .FIN_WAIT_2
  | closing : Edge .FIN_WAIT_1 .CLOSING
  | timeWait : Edge .CLOSING .TIME_WAIT
  | timeWait2 : Edge .FIN_WAIT_2 .TIME_WAIT

inductive OpeningEdge : TcpStates → TcpStates → Prop where
  | simultaneous : OpeningEdge .SYN_SENT .SYN_RCVD
  | active : OpeningEdge .SYN_SENT .ESTABLISHED
  | passive : OpeningEdge .SYN_RCVD .ESTABLISHED

/-- The transitions that a call of the application makes to open a connection. -/
inductive CallEdge : TcpStates → TcpStates → Prop where
  | listen : CallEdge .CLOSED .LISTEN
  | connect : CallEdge .CLOSED .SYN_SENT
  | fromListen : CallEdge .LISTEN .SYN_SENT
  | again : CallEdge .SYN_SENT .SYN_SENT
  | fromLastAck : CallEdge .LAST_ACK .SYN_SENT
  | fromCloseWait : CallEdge .CLOSE_WAIT .SYN_SENT

namespace Life

def Told (l : Life) : Prop :=
  l.m_closeNotified = true ∨ .errorClose ∈ l.notified ∨ .connectionFailed ∈ l.notified

/-- The timers may be set so outside the handshake: the retransmission timer not to send a SYN, the
probe of a zero window only while there is an end point. -/
structure MaySet (l : Life) (t : Timers) : Prop where
  retx : t.m_retxEvent = l.timers.m_retxEvent ∨
    ∀ flags due, t.m_retxEvent = some (.sendEmptyPacket flags, due) → flags.SYN = false
  persist : t.m_persistEvent = l.timers.m_persistEvent ∨ t.m_persistEvent = none ∨
    l.m_endPoint ≠ none

end Life

inductive Move : Life → Life → Prop where
  /-- where the assertion of `DoPeerClose` fails, it goes on all the same -/
  | goto {l : Life} {state : TcpStates}
    (h : Edge l.m_state state ∨ l.faults ≠ [] ∧ state = .CLOSE_WAIT) :
    Move l { l with m_state := state }
  | closed {l : Life} (h : l.Told) : Move l { l with m_state := .CLOSED }
  | transmit {l : Life} {g : TcpSegment} (he : l.m_endPoint ≠ none)
    (hs : g.header.flags.SYN = false) : Move l { l with sent := l.sent ++ [g] }
  | notify {l : Life} {n : Notification} (h : n ≠ .normalClose) :
    Move l { l with notified := l.notified ++ [n] }
  | notifyClose {l : Life} (h : l.m_closeNotified = false) :
    Move l { l with notified := l.notified ++ [.normalClose], m_closeNotified := true }
  | retime {l : Life} {t : Timers} (h : l.MaySet t) : Move l { l with timers := t }
  | release {l : Life} (h : l.Told) : Move l { l with m_endPoint := none, timers := {} }
  | assert {l : Life} {f : Fault} (h : f ≠ .nullEndPoint) :
    Move l { l with faults := l.faults ++ [f] }

abbrev Moves : Life → Life → Prop := Relation.ReflTransGen Move

/-- A move, or what the handshake does besides. -/
inductive Opening : Life → Life → Prop where
  | move {l l' : Life} (h : Move l l') : Opening l l'
  | goto {l : Life} {state : TcpStates} (h : OpeningEdge l.m_state state) :
    Opening l { l with m_state := state }
  | syn {l : Life} {g : TcpSegment} (he : l.m_endPoint ≠ none) :
    Opening l { l with sent := l.sent ++ [g] }
  | retime {l : Life} {t : Timers} (hp : t.m_persistEvent = l.timers.m_persistEvent) :
    Opening l { l with timers := t }
  | connected {l : Life} : Opening l { l with m_connected := true }
  | setNextRx {l : Life} {seq : SequenceNumber32} : Opening l { l with rxStart := some seq }
  | rename {l : Life} {e : EndPoint} (he : l.m_endPoint ≠ none) :
    Opening l { l with m_endPoint := some e }

abbrev Openings : Life → Life → Prop := Relation.ReflTransGen Opening

/-- Besides, the application may open a connection. -/
inductive Living : Life → Life → Prop where
  | opening {l l' : Life} (h : Opening l l') : Living l l'
  | call {l : Life} {state : TcpStates} (h : CallEdge l.m_state state) :
    Living l { l with m_state := state }
  | name {l : Life} {e : EndPoint} : Living l { l with m_endPoint := some e }

abbrev Livings : Life → Life → Prop := Relation.ReflTransGen Living

theorem Opening.openings {l l' : Life} (h : Opening l l') : Openings l l' := .single h

theorem Moves.openings {l l' : Life} (h : Moves l l') : Openings l l' :=
  Relation.ReflTransGen.mono (fun _ _ => .move) _ _ h

theorem Openings.livings {l l' : Life} (h : Openings l l') : Livings l l' :=
  Relation.ReflTransGen.mono (fun _ _ => .opening) _ _ h

namespace TcpSocketBase
variable {τ χ ε : Type} {k : Stack τ χ ε} {s : TcpSocketBase τ χ ε}

section Small
variable (s)

theorem moves_notify {n : Notification} (h : n ≠ .normalClose) :
    Moves s.toLife (s.notify n).toLife := .single (.notify h)

theorem moves_notifyClose : Moves s.toLife s.notifyClose.toLife := by
  unfold notifyClose
  split_ifs with h
  · exact .refl
  · exact .single (.notifyClose (by simpa using h))

theorem moves_transmit {e : EndPoint} {h : TcpHeader} {size : UInt32} (he : s.m_endPoint ≠ none)
    (hs : h.flags.SYN = false) : Moves s.toLife (s.transmit e h size).toLife :=
  .single (.transmit he hs)

theorem moves_goto {state : TcpStates}
    (h : Edge s.m_state state ∨ s.faults ≠ [] ∧ state = .CLOSE_WAIT) :
    Moves s.toLife (s.goto state).toLife := .single (.goto h)

theorem moves_assert {p : Prop} [Decidable p] {f : Fault} (h : f ≠ .nullEndPoint) :
    Moves s.toLife (s.assert p f).toLife := by
  unfold assert
  split_ifs
  · exact .refl
  · exact .single (.assert h)

theorem moves_retime {t : Timers} (h : s.toLife.MaySet t) :
    Moves s.toLife { s with timers := t }.toLife := .single (.retime h)

theorem moves_cancelRetx : Moves s.toLife s.cancelRetx.toLife :=
  moves_retime s ⟨.inr (fun _ _ h => by cases h), .inl rfl⟩

theorem moves_cancelDelAck : Moves s.toLife s.cancelDelAck.toLife :=
  moves_retime s ⟨.inl rfl, .inl rfl⟩

theorem moves_scheduleRetx {handler : RetxHandler} {delay : Time}
    (h : ∀ flags, handler = .sendEmptyPacket flags → flags.SYN = false) :
    Moves s.toLife (s.scheduleRetx handler delay).toLife := by
  refine moves_retime s ⟨.inr fun flags due hr => ?_, .inl rfl⟩
  obtain ⟨rfl, -⟩ := Prod.mk.inj (Option.some.inj hr)
  exact h flags rfl

theorem moves_scheduleLastAck : Moves s.toLife (s.scheduleLastAck k).toLife :=
  moves_retime s ⟨.inl rfl, .inl rfl⟩

theorem moves_deallocateEndPoint (h : s.toLife.Told) :
    Moves s.toLife s.deallocateEndPoint.toLife := by
  unfold deallocateEndPoint
  split
  · exact .refl
  · exact .single (.release h)

end Small

section Output

theorem moves_emitEmpty {e : EndPoint} {flags : Flags} {seq : SequenceNumber32}
    (he : s.m_endPoint ≠ none) (hs : flags.SYN = false) :
    Moves s.toLife (s.emitEmpty k e flags seq).toLife := by
  unfold emitEmpty
  extract_lets h0 h1 s1 s2
  have hflags : h1.flags.SYN = false := by
    have h : h0.flags = flags := by
      unfold h0 addOptions
      split_ifs <;> rfl
    unfold h1
    split_ifs
    · exact (congrArg Flags.SYN h).trans hs
    · exact (congrArg Flags.SYN h).trans hs
  clear_value h0 h1
  have hm1 : Moves s.toLife s1.toLife ∧ s1.m_endPoint = s.m_endPoint := by
    unfold s1
    split_ifs
    · exact ⟨moves_cancelDelAck s, rfl⟩
    · exact ⟨.refl, rfl⟩
  clear_value s1
  have hm2 : Moves s.toLife s2.toLife :=
    hm1.1.trans (moves_transmit s1 (by rwa [hm1.2]) hflags)
  split_ifs
  · refine hm2.trans (moves_scheduleRetx s2 fun f hf => ?_)
    obtain rfl := RetxHandler.sendEmptyPacket.inj hf
    exact hs
  · exact hm2

theorem moves_sendEmptyPacket (flags : Flags) (hs : flags.SYN = false) :
    Moves s.toLife (s.sendEmptyPacket k flags).toLife := by
  unfold sendEmptyPacket
  split
  · exact .refl
  · rename_i e he
    extract_lets _ seq flags' s1
    have hs' : flags'.SYN = false := by
      unfold flags'
      split_ifs
      · exact hs
      · exact hs
    have he1 : s1.m_endPoint ≠ none := by simp [s1, he]
    rw [if_neg (by simp [hs'])]
    exact moves_emitEmpty (s := s1) he1 hs'

theorem emitEmpty_sends (e : EndPoint) (flags : Flags) (seq : SequenceNumber32) :
    ∃ h : TcpHeader, (s.emitEmpty k e flags seq).sent = s.sent ++ [⟨h, 0, e.localName, e.peer⟩] ∧
      h.flags = flags ∧ h.ackNumber = k.nextRxSequence s.m_rxBuffer ∧
      h.ts.isSome = s.m_timestampEnabled := by
  unfold emitEmpty
  extract_lets h0 h1 s1 s2
  have hheader : h1.flags = flags ∧ h1.ackNumber = k.nextRxSequence s.m_rxBuffer ∧
      h1.ts.isSome = s.m_timestampEnabled := by
    have h : h0.flags = flags ∧ h0.ackNumber = k.nextRxSequence s.m_rxBuffer ∧
        h0.ts.isSome = s.m_timestampEnabled := by
      unfold h0 addOptions
      cases hts : s.m_timestampEnabled with
      | true => exact ⟨rfl, rfl, rfl⟩
      | false => exact ⟨rfl, rfl, rfl⟩
    unfold h1 addOptionSack
    split_ifs
    · exact h
    · exact h
  have hsent : s1.sent = s.sent := by
    unfold s1
    split_ifs <;> rfl
  have h2 : s2.sent = s.sent ++ [(⟨h1, 0, e.localName, e.peer⟩ : TcpSegment)] := by
    change s1.sent ++ _ = _
    rw [hsent]
  split_ifs
  · exact ⟨h1, h2, hheader⟩
  · exact ⟨h1, h2, hheader⟩

theorem emitEmpty_keeps (e : EndPoint) (flags : Flags) (seq : SequenceNumber32) :
    (s.emitEmpty k e flags seq).m_state = s.m_state ∧
      (s.emitEmpty k e flags seq).m_endPoint = s.m_endPoint := by
  unfold emitEmpty
  extract_lets h0 h1 s1 s2
  have h1 : s1.m_state = s.m_state ∧ s1.m_endPoint = s.m_endPoint := by
    unfold s1
    split_ifs <;> exact ⟨rfl, rfl⟩
  split_ifs
  · exact h1
  · exact h1

theorem sendEmptyPacket_keeps (flags : Flags) (hs : flags.SYN = false) :
    (s.sendEmptyPacket k flags).m_state = s.m_state ∧
      (s.sendEmptyPacket k flags).m_endPoint = s.m_endPoint := by
  unfold sendEmptyPacket
  split
  · exact ⟨rfl, rfl⟩
  · extract_lets _ seq flags' s1
    have hs' : flags'.SYN = false := by
      unfold flags'
      split_ifs
      · exact hs
      · exact hs
    rw [if_neg (by simp [hs'])]
    exact emitEmpty_keeps (s := s1) ..

theorem moves_sendAck : Moves s.toLife (s.sendAck k).toLife := by
  unfold sendAck
  split_ifs
  · exact moves_sendEmptyPacket _ rfl
  · exact moves_sendEmptyPacket _ rfl

theorem moves_piggybackFin : Moves s.toLife s.piggybackFin.toLife := by
  unfold piggybackFin
  split_ifs with h1 h2
  · exact moves_goto s (.inl (h1 ▸ .finWait1))
  · exact moves_goto s (.inl (h2 ▸ .lastAck))
  · exact .refl

@[simp] theorem piggybackFin_endPoint : s.piggybackFin.m_endPoint = s.m_endPoint := by
  unfold piggybackFin
  split_ifs <;> rfl

theorem updateRttHistory_toLife (seq : SequenceNumber32) (sz : UInt32) (b : Bool) :
    (s.updateRttHistory k seq sz b).toLife = s.toLife := by
  unfold updateRttHistory
  split_ifs <;> rfl

theorem moves_emitData {e : EndPoint} (flags : Flags) (hs : flags.SYN = false)
    (seq : SequenceNumber32) (sz : UInt32) (b : Bool) (he : s.m_endPoint ≠ none) :
    Moves s.toLife (s.emitData k e flags seq sz b).toLife ∧
      (s.emitData k e flags seq sz b).m_endPoint = s.m_endPoint := by
  unfold emitData
  extract_lets header s1 s2 s3 s4 last
  have hflags : header.flags.SYN = false := by
    unfold header addOptions
    split_ifs
    · exact hs
    · exact hs
  have h2 : Moves s.toLife s2.toLife ∧ s2.m_endPoint = s.m_endPoint := by
    unfold s2
    split_ifs
    · exact ⟨moves_scheduleRetx s1 (fun _ hf => by cases hf), rfl⟩
    · exact ⟨.refl, rfl⟩
  clear_value header s2
  have h3 : s3.toLife = (s2.transmit e header sz).toLife := updateRttHistory_toLife ..
  have hm3 : Moves s.toLife s3.toLife :=
    h3 ▸ h2.1.trans (moves_transmit s2 (by rwa [h2.2]) hflags)
  have h4 : Moves s.toLife s4.toLife ∧ s4.m_endPoint = s3.m_endPoint := by
    unfold s4
    split_ifs
    · exact ⟨hm3, rfl⟩
    · exact ⟨hm3.trans (moves_notify s3 (by simp)), rfl⟩
  exact ⟨h4.1, h4.2.trans ((congrArg Life.m_endPoint h3).trans h2.2)⟩

theorem moves_sendDataPacket (seq : SequenceNumber32) (maxSize : UInt32) (withAck : Bool)
    (he : s.m_endPoint ≠ none) :
    Moves s.toLife (s.sendDataPacket k seq maxSize withAck).2.toLife ∧
      (s.sendDataPacket k seq maxSize withAck).2.m_endPoint = s.m_endPoint := by
  unfold sendDataPacket sendItem
  extract_lets outItem s1 remainingData s2 reduced s3 fin s4
  have h2 : Moves s.toLife s2.toLife ∧ s2.m_endPoint = s.m_endPoint := by
    unfold s2
    split_ifs
    · exact ⟨moves_cancelDelAck s1, rfl⟩
    · exact ⟨.refl, rfl⟩
  have h3 : s3.toLife = s2.toLife := by
    unfold s3
    split_ifs <;> rfl
  have h4 : Moves s.toLife s4.toLife ∧ s4.m_endPoint = s.m_endPoint := by
    have hm : Moves s.toLife s3.toLife := h3 ▸ h2.1
    have hep : s3.m_endPoint = s.m_endPoint := (congrArg Life.m_endPoint h3).trans h2.2
    unfold s4
    split_ifs
    · exact ⟨hm.trans moves_piggybackFin, piggybackFin_endPoint.trans hep⟩
    · exact ⟨hm, hep⟩
  clear_value s4 fin
  split
  · rename_i hnone
    exact absurd (h4.2.symm.trans hnone) he
  · rename_i e hsome
    have hout := moves_emitData (k := k) (s := s4) (e := e)
      { ACK := withAck, CWR := decide reduced, FIN := fin } rfl seq outItem.size
      outItem.isRetrans (by simp [hsome])
    exact ⟨h4.1.trans hout.1, hout.2.trans h4.2⟩

theorem moves_askForData :
    Moves s.toLife (s.askForData k).toLife ∧ (s.askForData k).m_endPoint = s.m_endPoint := by
  unfold askForData
  split_ifs
  · exact ⟨.refl, rfl⟩
  · split
    · exact ⟨.refl, rfl⟩
    · split_ifs
      · exact ⟨moves_notify s (by simp), rfl⟩
      · exact ⟨.refl, rfl⟩

theorem moves_sendLoop (withAck : Bool) (rounds : ℕ) (he : s.m_endPoint ≠ none) :
    Moves s.toLife (sendLoop k withAck rounds s).toLife ∧
      (sendLoop k withAck rounds s).m_endPoint = s.m_endPoint := by
  induction rounds generalizing s with
  | zero => exact ⟨.refl, rfl⟩
  | succ rounds ih =>
    unfold sendLoop
    have hask := moves_askForData (k := k) (s := s)
    split_ifs
    · split
      · exact hask
      · rename_i next size _
        have hsend := moves_sendDataPacket (k := k)
          (s := { s.askForData k with m_tcb := { (s.askForData k).m_tcb with
            m_nextTxSequence := next } }) next size withAck (by simpa [hask.2] using he)
        have hrest := ih (s := (s.askForData k).sendSegment k next size withAck)
          (by simpa [sendSegment, hsend.2, hask.2] using he)
        refine ⟨hask.1.trans (hsend.1.trans hrest.1), hrest.2.trans ?_⟩
        exact hsend.2.trans hask.2
    · exact ⟨.refl, rfl⟩

theorem moves_sendPendingData (withAck : Bool) :
    Moves s.toLife (s.sendPendingData k withAck).toLife ∧
      (s.sendPendingData k withAck).m_endPoint = s.m_endPoint := by
  unfold sendPendingData
  split_ifs with _ he
  · exact ⟨.refl, rfl⟩
  · exact ⟨.refl, rfl⟩
  · exact moves_sendLoop withAck _ he

end Output

section Teardown

theorem notifyClose_keeps : s.notifyClose.m_closeNotified = true ∧
    s.notifyClose.m_state = s.m_state ∧ s.notifyClose.m_endPoint = s.m_endPoint := by
  unfold notifyClose
  split_ifs with h
  · exact ⟨h, rfl, rfl⟩
  · exact ⟨rfl, rfl, rfl⟩

theorem moves_closeAndNotify : Moves s.toLife s.closeAndNotify.toLife := by
  unfold closeAndNotify
  extract_lets s1 _ s2
  have h1 : Moves s.toLife s1.toLife := moves_notifyClose s
  have h2 : Moves s1.toLife s2.toLife := moves_retime s1 ⟨.inl rfl, .inl rfl⟩
  have htold : (s2.goto .CLOSED).toLife.Told := .inl notifyClose_keeps.1
  have h3 : Moves s2.toLife (s2.goto .CLOSED).toLife := .single (.closed htold)
  exact ((h1.trans h2).trans h3).trans (moves_deallocateEndPoint _ htold)

theorem moves_sendRST : Moves s.toLife (s.sendRST k).toLife := by
  unfold sendRST
  have h1 := moves_sendEmptyPacket (k := k) (s := s) { RST := true } rfl
  have h2 := moves_notify (s.sendEmptyPacket k { RST := true }) (n := .errorClose) (by simp)
  have htold : ((s.sendEmptyPacket k { RST := true }).notify .errorClose).toLife.Told :=
    .inr (.inl (by simp [notify]))
  exact (h1.trans h2).trans (moves_deallocateEndPoint _ htold)

theorem moves_timeWait (h : Edge s.m_state .TIME_WAIT) :
    Moves s.toLife s.timeWait.toLife := by
  unfold timeWait
  extract_lets s1
  have h1 : Moves s.toLife (s.goto .TIME_WAIT).toLife := moves_goto s (.inl h)
  have h2 : Moves (s.goto .TIME_WAIT).toLife (s.goto .TIME_WAIT).cancelAllTimers.toLife :=
    moves_retime _ ⟨.inr (fun _ _ hf => by cases hf), .inr (.inl rfl)⟩
  have h3 : Moves s.toLife s1.toLife := (h1.trans h2).trans (moves_notifyClose _)
  exact h3.trans (moves_retime s1 ⟨.inl rfl, .inl rfl⟩)

theorem moves_doClose : Moves s.toLife (s.doClose k).toLife := by
  have hfin := moves_sendEmptyPacket (k := k) (s := s) { FIN := true } rfl
  have hkeep := sendEmptyPacket_keeps (k := k) (s := s) { FIN := true } rfl
  unfold doClose
  split
  case h_1 h =>
    exact hfin.trans (moves_goto _ (.inl (by rw [hkeep.1, h]; exact .earlyClose)))
  case h_2 h =>
    exact hfin.trans (moves_goto _ (.inl (by rw [hkeep.1, h]; exact .finWait1)))
  case h_3 h =>
    refine (moves_sendEmptyPacket { FIN := true, ACK := true } rfl).trans
      (moves_goto _ (.inl ?_))
    rw [(sendEmptyPacket_keeps _ rfl).1, h]
    exact .lastAck
  case h_4 | h_5 => exact moves_sendRST.trans moves_closeAndNotify
  case h_6 => exact moves_closeAndNotify
  all_goals exact .refl

theorem moves_close : Moves s.toLife (s.close k).toLife := by
  unfold close
  split_ifs
  · exact moves_sendRST
  · exact .refl
  · exact moves_doClose

theorem moves_shutdownSend : Moves s.toLife (s.shutdownSend k).toLife := by
  unfold shutdownSend
  extract_lets s1 s2
  split_ifs with h hstate
  all_goals try exact .refl
  all_goals
    have hfin : Moves s1.toLife s2.toLife := moves_sendEmptyPacket _ rfl
    have hkeep : s2.m_state = s1.m_state := (sendEmptyPacket_keeps _ rfl).1
  · exact hfin.trans (moves_goto s2 (.inl (hstate ▸ .finWait1)))
  · have hwait : s2.m_state = .CLOSE_WAIT := by
      rcases h.2 with h | h
      · exact absurd (hkeep.trans h) hstate
      · exact hkeep.trans h
    exact hfin.trans (moves_goto s2 (.inl (hwait ▸ .lastAck)))

theorem Edge.to_closeWait {a : TcpStates} (h : a = .ESTABLISHED ∨ a = .SYN_RCVD ∨
    a = .FIN_WAIT_1 ∨ a = .FIN_WAIT_2) : Edge a .CLOSE_WAIT := by
  rcases h with rfl | rfl | rfl | rfl
  · exact .closeWait
  · exact .earlyFin
  · exact .lateFin1
  · exact .lateFin2

theorem moves_doPeerClose : Moves s.toLife (s.doPeerClose k).toLife := by
  unfold doPeerClose
  extract_lets s1 s2 s3
  have h1 : Moves s.toLife s1.toLife := moves_assert s (by simp)
  have hedge : Edge s1.m_state .CLOSE_WAIT ∨ s1.faults ≠ [] ∧ TcpStates.CLOSE_WAIT = .CLOSE_WAIT := by
    unfold s1 assert
    split_ifs with h
    · exact .inl (Edge.to_closeWait h)
    · exact .inr ⟨by simp, rfl⟩
  have h2 : Moves s.toLife s2.toLife :=
    (h1.trans (moves_goto s1 hedge)).trans (moves_notifyClose _)
  have h3 : Moves s.toLife s3.toLife := by
    unfold s3
    split_ifs
    · exact h2.trans moves_close
    · exact h2.trans (moves_sendEmptyPacket _ rfl)
  split_ifs
  · exact h3.trans (moves_scheduleLastAck _)
  · exact h3

end Teardown

section Input

theorem moves_ackData (expectedSeq : SequenceNumber32) (size : UInt32) :
    Moves s.toLife (s.ackData k expectedSeq size).toLife := by
  unfold ackData
  extract_lets s1
  split_ifs
  · exact moves_sendAck
  · exact (moves_cancelDelAck s1).trans moves_sendAck
  · exact moves_retime s1 ⟨.inl rfl, .inl rfl⟩
  · exact .refl

theorem moves_notifyDataRecv : Moves s.toLife (s.notifyDataRecv k).toLife := by
  unfold notifyDataRecv
  split_ifs
  · exact .refl
  · exact moves_notify { s with m_rxBuffer := k.onDataRecv s.m_rxBuffer } (by simp)

theorem moves_receivedData (header : TcpHeader) (size : UInt32) :
    Moves s.toLife (s.receivedData k header size).toLife := by
  unfold receivedData
  extract_lets expectedSeq r s1 s2
  have h2 : Moves s1.toLife s2.toLife := moves_notifyDataRecv
  split_ifs
  · exact moves_sendAck (s := s1)
  · exact h2.trans moves_doPeerClose
  · exact h2.trans (moves_ackData ..)
  · exact moves_ackData (s := s1) ..

theorem moves_receivedPiggyback (header : TcpHeader) (size : UInt32) :
    Moves s.toLife (s.receivedPiggyback k header size).toLife := by
  unfold receivedPiggyback
  split_ifs
  · exact moves_receivedData ..
  · exact .refl

theorem moves_peerClose (header : TcpHeader) (size : UInt32) :
    Moves s.toLife (s.peerClose k header size).toLife := by
  unfold peerClose
  extract_lets s1 s2
  have h2 : Moves s.toLife s2.toLife := moves_receivedPiggyback (s := s1) ..
  split_ifs with _ _ hstate
  · exact .refl
  · exact h2.trans (moves_goto s2 (.inl (hstate ▸ .closing)))
  · exact h2.trans moves_doPeerClose
  · exact h2

theorem moves_doRetransmit (he : s.m_endPoint ≠ none) :
    Moves s.toLife (s.doRetransmit k).toLife ∧ (s.doRetransmit k).m_endPoint = s.m_endPoint := by
  unfold doRetransmit
  extract_lets range _ s1
  exact moves_sendDataPacket (s := s1) _ _ _ he

theorem moves_notifySend : Moves s.toLife (s.notifySend k).toLife ∧
    (s.notifySend k).m_endPoint = s.m_endPoint := by
  unfold notifySend
  split_ifs
  · exact ⟨moves_notify s (by simp), rfl⟩
  · exact ⟨.refl, rfl⟩

theorem moves_connectionSucceeded : Moves s.toLife (s.connectionSucceeded k).toLife := by
  have h1 : Moves s.toLife (s.notify .connectionSucceeded).toLife := moves_notify s (by simp)
  exact h1.trans moves_notifySend.1

theorem moves_newAck (ack : SequenceNumber32) (resetRTO : Bool) :
    Moves s.toLife (s.newAck k ack resetRTO).toLife ∧
      (s.newAck k ack resetRTO).m_endPoint = s.m_endPoint := by
  unfold newAck
  extract_lets s1 s2 _ s3
  have h2 : Moves s.toLife s2.toLife ∧ s2.m_endPoint = s.m_endPoint := by
    have hrestart : Moves s1.toLife (s1.restartRetx k resetRTO).toLife ∧
        (s1.restartRetx k resetRTO).m_endPoint = s1.m_endPoint := by
      unfold restartRetx
      split_ifs
      · exact ⟨moves_scheduleRetx { s1 with m_rto := max (s1.estimateRto k) s1.m_minRto }
          (fun _ hf => by cases hf), rfl⟩
      · exact ⟨.refl, rfl⟩
    have hsend := moves_notifySend (k := k) (s := s1.restartRetx k resetRTO)
    exact ⟨hrestart.1.trans hsend.1, hsend.2.trans hrestart.2⟩
  split_ifs
  · exact ⟨h2.1.trans (moves_cancelRetx s3), h2.2⟩
  · exact h2

theorem moves_act (ack : SequenceNumber32) (a : AckAction τ) (he : s.m_endPoint ≠ none) :
    Moves s.toLife (s.act k ack a).toLife ∧ (s.act k ack a).m_endPoint = s.m_endPoint := by
  cases a with
  | retransmit => exact moves_doRetransmit he
  | newAck resetRTO => exact moves_newAck ..
  | advance => exact ⟨.refl, rfl⟩
  | window cWnd congState => exact ⟨.refl, rfl⟩
  | mark g => exact ⟨.refl, rfl⟩

theorem moves_acts (ack : SequenceNumber32) (actions : List (AckAction τ))
    (he : s.m_endPoint ≠ none) : Moves s.toLife (s.acts k ack actions).toLife ∧
      (s.acts k ack actions).m_endPoint = s.m_endPoint := by
  induction actions generalizing s with
  | nil => exact ⟨.refl, rfl⟩
  | cons a actions ih =>
    have hact := moves_act (k := k) ack a he
    have hrest := ih (s := s.act k ack a) (by rwa [hact.2])
    exact ⟨hact.1.trans hrest.1, hrest.2.trans hact.2⟩

theorem echo_toLife (header : TcpHeader) (old : SequenceNumber32) :
    (s.echo k header old).toLife = s.toLife := by
  unfold echo
  split_ifs <;> rfl

theorem moves_receivedAck (header : TcpHeader) (size : UInt32) (actions : List (AckAction τ))
    (he : s.m_endPoint ≠ none) :
    Moves s.toLife (s.receivedAck k header size actions).toLife := by
  unfold receivedAck
  extract_lets s1 s2 old s3 s4 s5
  have h2 : Moves s.toLife s2.toLife ∧ s2.m_endPoint = s.m_endPoint := by
    have h1 : Moves s.toLife s1.toLife := moves_assert s (by simp)
    have hep : s1.m_endPoint = s.m_endPoint := by
      unfold s1 assert
      split_ifs <;> rfl
    unfold s2
    split_ifs
    · exact ⟨h1, hep⟩
    · exact ⟨h1, hep⟩
  clear_value s2
  split_ifs
  · exact h2.1.trans (moves_receivedPiggyback ..)
  · have hecho : (s3.echo k header old).toLife = s3.toLife := echo_toLife ..
    have hep : (s3.echo k header old).m_endPoint ≠ none := by
      rw [show (s3.echo k header old).m_endPoint = s3.m_endPoint from
        congrArg Life.m_endPoint hecho]
      exact h2.2 ▸ he
    have h4 : Moves s3.toLife s4.toLife := hecho ▸ (moves_acts header.ackNumber actions hep).1
    have h5 : Moves s4.toLife s5.toLife := moves_receivedPiggyback ..
    exact ((h2.1.trans h4).trans h5).trans (moves_sendPendingData _).1

theorem moves_refuse (reset : Prop) [Decidable reset] :
    Moves s.toLife (s.refuse k reset).toLife := by
  unfold refuse
  split_ifs
  · exact moves_closeAndNotify
  · exact moves_sendRST.trans moves_closeAndNotify

theorem moves_processEstablished (a : Arrival τ) (he : s.m_endPoint ≠ none) :
    Moves s.toLife (s.processEstablished k a).toLife := by
  unfold processEstablished
  extract_lets header size tcpflags s1
  have h1 : Moves s.toLife s1.toLife := moves_receivedData ..
  split_ifs
  · exact .refl
  · exact moves_sendAck
  · exact moves_receivedAck _ _ _ he
  · exact .refl
  · exact .refl
  · exact moves_peerClose ..
  · exact h1.trans (moves_peerClose ..)
  · exact h1
  · exact moves_refuse _

theorem moves_finishWait (header : TcpHeader) :
    Moves s.toLife (s.finishWait k header).toLife := by
  unfold finishWait
  extract_lets s1 s2
  split_ifs with h
  · have h2 : Moves s.toLife s2.toLife := by
      have h1 : s.m_state = .FIN_WAIT_1 → Moves s.toLife s1.toLife := fun hstate =>
        moves_goto s (.inl (hstate ▸ .closing))
      unfold s2
      split_ifs with hstate
      · exact (h1 hstate).trans (moves_timeWait .timeWait)
      · exact h1 hstate
      · exact moves_timeWait ((h.1.resolve_left hstate) ▸ .timeWait2)
    exact (h2.trans (moves_sendEmptyPacket _ rfl)).trans moves_notifyDataRecv
  · exact .refl

theorem moves_processWait (a : Arrival τ) (he : s.m_endPoint ≠ none) :
    Moves s.toLife (s.processWait k a).toLife := by
  unfold processWait
  extract_lets header size tcpflags s1 s2 s3
  have h1 : Moves s.toLife s1.toLife := moves_receivedAck _ _ _ he
  have h2 : Moves s.toLife s2.toLife := by
    unfold s2
    split_ifs with hstate
    · exact h1.trans (moves_goto s1 (.inl (hstate.1 ▸ .finWait2)))
    · exact h1
  have h3 : Moves s.toLife s3.toLife := by
    unfold s3
    split_ifs
    · exact h1
    · exact .refl
  split_ifs
  · exact (moves_receivedData ..).trans (moves_finishWait _)
  · exact h2.trans (moves_finishWait _)
  · exact h3.trans (moves_finishWait (s := { s3 with
      m_rxBuffer := k.setFinSequence s3.m_rxBuffer header.sequenceNumber }) _)
  · exact .refl
  · exact moves_refuse _

theorem moves_processClosing (a : Arrival τ) (h : s.m_state = .CLOSING) :
    Moves s.toLife (s.processClosing k a).toLife := by
  unfold processClosing
  extract_lets header tcpflags
  split_ifs
  · exact moves_timeWait (h ▸ .timeWait)
  · exact .refl
  · exact (moves_sendEmptyPacket _ rfl).trans moves_closeAndNotify
  · exact moves_refuse _

theorem moves_processLastAck (a : Arrival τ) :
    Moves s.toLife (s.processLastAck k a).toLife := by
  unfold processLastAck
  extract_lets header tcpflags
  split_ifs
  · exact moves_receivedData ..
  · exact moves_closeAndNotify
  · exact .refl
  · exact moves_sendEmptyPacket _ rfl
  · exact moves_refuse _

theorem moves_processClosed (a : Arrival τ) (he : s.m_endPoint ≠ none) :
    Moves s.toLife (s.processClosed k a).toLife := by
  unfold processClosed
  extract_lets header h
  have hflags : h.flags.SYN = false := by
    unfold h addOptions
    split_ifs <;> rfl
  split_ifs
  · exact moves_transmit { s with m_advWnd := s.receiveSpace k } he hflags
  · exact .refl

end Input

section Arrive

theorem enterPersist_keeps : s.enterPersist.m_state = s.m_state ∧
    s.enterPersist.m_endPoint = s.m_endPoint := by
  unfold enterPersist
  split_ifs <;> exact ⟨rfl, rfl⟩

theorem moves_enterPersist (he : s.m_endPoint ≠ none) :
    Moves s.toLife s.enterPersist.toLife := by
  unfold enterPersist
  split_ifs
  · exact moves_retime s ⟨.inr (fun _ _ hf => by cases hf), .inr (.inr he)⟩
  · exact .refl

theorem moves_leavePersist : Moves s.toLife (s.leavePersist k).toLife := by
  unfold leavePersist
  extract_lets s1 _ s2
  split_ifs
  · have h1 : Moves s.toLife s1.toLife := moves_assert s (by simp)
    have h2 : Moves s1.toLife s2.toLife := moves_retime s1 ⟨.inl rfl, .inr (.inl rfl)⟩
    exact (h1.trans h2).trans (moves_sendPendingData _).1
  · exact .refl

theorem moves_dispatch (a : Arrival τ) (he : s.m_endPoint ≠ none)
    (hopen : s.m_state ≠ .SYN_SENT ∧ s.m_state ≠ .SYN_RCVD) :
    Moves s.toLife (s.dispatch k a).toLife := by
  unfold dispatch
  split
  case h_1 => exact moves_processEstablished a he
  case h_2 | h_3 => exact .refl
  case h_4 => exact moves_processClosed a he
  case h_5 h => exact absurd h hopen.1
  case h_6 h => exact absurd h hopen.2
  case h_7 | h_8 | h_9 => exact moves_processWait a he
  case h_10 h => exact moves_processClosing a h
  case h_11 => exact moves_processLastAck a

theorem processOptionTimestamp_toLife (ts : UInt32 × UInt32) (seq : SequenceNumber32) :
    (s.processOptionTimestamp k ts seq).toLife = s.toLife := by
  unfold processOptionTimestamp
  split_ifs <;> rfl

theorem estimateRtt_toLife (header : TcpHeader) : (s.estimateRtt k header).toLife = s.toLife := by
  unfold estimateRtt
  extract_lets m s1
  clear_value m
  split
  · rfl
  · split_ifs <;> rfl

theorem updateWindowSize_toLife (header : TcpHeader) :
    (s.updateWindowSize k header).toLife = s.toLife := by
  unfold updateWindowSize
  extract_lets
  split_ifs <;> rfl

theorem processSyn_toLife (header : TcpHeader) : (s.processSyn k header).toLife = s.toLife := by
  unfold processSyn
  extract_lets s1 s2 s3 s4 cWnd _ s5
  have h2 : s2.toLife = s.toLife := by
    unfold s2
    split <;> rfl
  have h3 : s3.toLife = s.toLife := by
    unfold s3
    split_ifs
    · exact h2
    · exact h2
  have h4 : s4.toLife = s.toLife := by
    unfold s4
    split
    · exact (processOptionTimestamp_toLife ..).trans h3
    · exact h3
  split_ifs
  · exact (estimateRtt_toLife ..).trans h4
  · exact h4

theorem processAckHeader_toLife {header : TcpHeader} {s' : TcpSocketBase τ χ ε}
    (h : s.processAckHeader k header = some s') : s'.toLife = s.toLife := by
  unfold processAckHeader at h
  split at h
  · cases h
  · obtain rfl := Option.some.inj h
    rw [updateWindowSize_toLife, estimateRtt_toLife, processOptionTimestamp_toLife]
  · obtain rfl := Option.some.inj h
    rw [updateWindowSize_toLife, estimateRtt_toLife]

theorem acceptCwr_toLife (flags : Flags) : (s.acceptCwr flags).toLife = s.toLife := by
  unfold acceptCwr
  split_ifs <;> rfl

theorem markCE_toLife (CE : Bool) (seq : SequenceNumber32) :
    (s.markCE k CE seq).toLife = s.toLife := by
  unfold markCE
  split_ifs <;> rfl

/-- The socket that `DoForwardUp` takes a segment to, once its header is read: none if an ACK lacks
its time stamp. -/
def readHeader (k : Stack τ χ ε) (s : TcpSocketBase τ χ ε) (header : TcpHeader) :
    Option (TcpSocketBase τ χ ε) :=
  let s := s.acceptCwr header.flags
  if header.flags.SYN then some (s.processSyn k header)
  else if header.flags.ACK then s.processAckHeader k header
  else some s

theorem doForwardUp_eq (a : Arrival τ) : s.doForwardUp k a =
    ((s.readHeader k a.segment.header).map fun s => s.process k a).getD
      (s.acceptCwr a.segment.header.flags) := by
  unfold doForwardUp readHeader
  extract_lets header s1
  split_ifs
  · rfl
  · cases s1.processAckHeader k header <;> rfl
  · rfl

theorem readHeader_toLife {header : TcpHeader} {s' : TcpSocketBase τ χ ε}
    (h : s.readHeader k header = some s') : s'.toLife = s.toLife := by
  unfold readHeader at h
  extract_lets s1 at h
  have h1 : s1.toLife = s.toLife := acceptCwr_toLife _
  split_ifs at h
  · obtain rfl := Option.some.inj h
    exact (processSyn_toLife _).trans h1
  · exact (processAckHeader_toLife h).trans h1
  · obtain rfl := Option.some.inj h
    exact h1

/-- A property that relates two lives holds across the arrival of a segment, if it holds across the
dispatch of one whose header has been read. -/
theorem arrive_of_dispatch {R : Life → Life → Prop} (hrefl : ∀ l, R l l)
    (htrans : ∀ {l l' l''}, R l l' → R l' l'' → R l l'')
    (hmoves : ∀ {l l'}, Moves l l' → R l l') (a : Arrival τ)
    (hdispatch : ∀ s' : TcpSocketBase τ χ ε, s'.m_endPoint ≠ none → s'.m_state = s.m_state →
      R s'.toLife (s'.dispatch k a).toLife) :
    R s.toLife (s.arrive k a).toLife := by
  unfold arrive
  split_ifs with he
  · exact hrefl _
  · unfold forwardUp
    extract_lets seq
    split_ifs
    · exact hmoves (moves_sendEmptyPacket _ rfl)
    · have hmark : (s.markCE k a.CE seq).toLife = s.toLife := markCE_toLife ..
      rw [doForwardUp_eq]
      cases hread : (s.markCE k a.CE seq).readHeader k a.segment.header with
      | none =>
        have hcwr := acceptCwr_toLife (s := s.markCE k a.CE seq) a.segment.header.flags
        change R s.toLife ((s.markCE k a.CE seq).acceptCwr a.segment.header.flags).toLife
        rw [hcwr, hmark]
        exact hrefl _
      | some s1 =>
        have h1 : s1.toLife = s.toLife := (readHeader_toLife hread).trans hmark
        have he1 : s1.m_endPoint ≠ none := by
          rw [show s1.m_endPoint = s.m_endPoint from congrArg Life.m_endPoint h1]
          exact he
        have hkeep := enterPersist_keeps (s := s1)
        have hpersist : R s.toLife s1.enterPersist.toLife := h1 ▸ hmoves (moves_enterPersist he1)
        have hmid := hdispatch s1.enterPersist (by rwa [hkeep.2])
          (hkeep.1.trans (congrArg Life.m_state h1))
        exact htrans (htrans hpersist hmid) (hmoves moves_leavePersist)

theorem moves_arrive (a : Arrival τ) (hopen : s.m_state ≠ .SYN_SENT ∧ s.m_state ≠ .SYN_RCVD) :
    Moves s.toLife (s.arrive k a).toLife := by
  refine arrive_of_dispatch (fun _ => .refl) .trans id a fun s' he hstate => ?_
  exact moves_dispatch a he (by rwa [hstate])

end Arrive

section Timers

theorem moves_delAckTimeout : Moves s.toLife (s.delAckTimeout k).toLife :=
  moves_sendAck (s := { s with m_delAckCount := 0 })

theorem moves_errorClose :
    Moves s.toLife (s.notify .errorClose).deallocateEndPoint.toLife := by
  have h1 : Moves s.toLife (s.notify .errorClose).toLife := moves_notify s (by simp)
  have htold : (s.notify .errorClose).toLife.Told := .inr (.inl (by simp [notify]))
  exact h1.trans (moves_deallocateEndPoint _ htold)

theorem moves_lastAckTimeout : Moves s.toLife (s.lastAckTimeout k).toLife := by
  unfold lastAckTimeout
  extract_lets _ s1 s2
  have h1 : Moves s.toLife s1.toLife := moves_retime s ⟨.inl rfl, .inl rfl⟩
  split_ifs
  · exact h1.trans moves_errorClose
  · have h2 : Moves s1.toLife (s2.sendEmptyPacket k { FIN := true, ACK := true }).toLife :=
      moves_sendEmptyPacket (s := s2) _ rfl
    exact (h1.trans h2).trans (moves_scheduleLastAck _)
  · exact h1

theorem moves_persistTimeout (he : s.m_endPoint ≠ none) :
    Moves s.toLife (s.persistTimeout k).toLife := by
  unfold persistTimeout
  extract_lets item s1 header
  have hflags : header.flags.SYN = false := by
    unfold header addOptions
    split_ifs <;> rfl
  split
  · rename_i hnone
    exact absurd hnone he
  · extract_lets s2
    have h2 : Moves s.toLife s2.toLife :=
      moves_transmit { s1 with m_advWnd := s1.receiveSpace k } he hflags
    exact h2.trans (moves_retime s2 ⟨.inl rfl, .inr (.inr he)⟩)

theorem moves_reTxTimeout (hopen : s.m_state ≠ .SYN_SENT) :
    Moves s.toLife (s.reTxTimeout k).toLife := by
  unfold reTxTimeout
  extract_lets txBuffer _ s1
  split_ifs
  · exact .refl
  · exact moves_sendEmptyPacket _ rfl
  · exact .refl
  · exact moves_errorClose
  · exact (moves_sendPendingData (s := s1) _).1

end Timers

end TcpSocketBase

end NetSessional.Tcp
