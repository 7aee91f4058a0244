import NetSessional.Tcp.Moves

/-! The handshake's part: with the moves that open a connection, every step of a socket is a sequence
of moves. -/

namespace NetSessional.Tcp
open Vegas Runs

namespace TcpSocketBase
variable {τ χ ε : Type} {k : Stack τ χ ε} {s : TcpSocketBase τ χ ε}

section Syn

theorem openings_goto {state : TcpStates} (h : OpeningEdge s.m_state state) :
    Openings s.toLife (s.goto state).toLife := .single (.goto h)

theorem openings_emitEmpty {e : EndPoint} {flags : Flags} {seq : SequenceNumber32}
    (he : s.m_endPoint ≠ none) : Openings s.toLife (s.emitEmpty k e flags seq).toLife := by
  unfold emitEmpty
  extract_lets h0 h1 s1 s2
  have hm1 : Openings s.toLife s1.toLife ∧ s1.m_endPoint = s.m_endPoint := by
    unfold s1
    split_ifs
    · exact ⟨(moves_cancelDelAck s).openings, rfl⟩
    · exact ⟨.refl, rfl⟩
  clear_value s1
  have hm2 : Openings s.toLife s2.toLife :=
    hm1.1.trans (Opening.syn (g := ⟨h1, 0, e.localName, e.peer⟩) (by rwa [hm1.2])).openings
  split_ifs
  · exact hm2.trans (Opening.retime (l := s2.toLife)
      (t := (s2.scheduleRetx (.sendEmptyPacket flags) s2.m_rto).timers) rfl).openings
  · exact hm2

theorem openings_connectionFailed : Openings s.toLife (s.connectionFailed k).toLife := by
  unfold connectionFailed
  extract_lets s1 s2
  have h2 : Moves s.toLife s2.toLife := moves_notify s1 (by simp)
  have htold : (s2.goto .CLOSED).toLife.Told := .inr (.inr (by simp [goto, s2, notify]))
  have h3 : Moves s2.toLife (s2.goto .CLOSED).toLife := .single (.closed htold)
  exact Moves.openings ((h2.trans h3).trans (moves_deallocateEndPoint _ htold))

theorem countSyn_toLife (seq : SequenceNumber32) : (s.countSyn k seq).toLife = s.toLife := by
  unfold countSyn
  exact updateRttHistory_toLife ..

theorem openings_sendEmptyPacket (flags : Flags) :
    Openings s.toLife (s.sendEmptyPacket k flags).toLife := by
  unfold sendEmptyPacket
  split
  · exact .refl
  · rename_i e he
    extract_lets _ seq flags' s1 s2
    have h2 : s2.toLife = s.toLife := by
      unfold s2
      split_ifs <;> rfl
    clear_value s2
    have hep : s2.m_endPoint ≠ none := by
      rw [show s2.m_endPoint = s.m_endPoint from congrArg Life.m_endPoint h2, he]
      simp
    split_ifs
    · exact h2 ▸ openings_connectionFailed
    · have hcount : (s2.countSyn k seq).toLife = s.toLife := (countSyn_toLife seq).trans h2
      refine hcount ▸ openings_emitEmpty (s := s2.countSyn k seq) ?_
      rwa [show (s2.countSyn k seq).m_endPoint = s2.m_endPoint from
        congrArg Life.m_endPoint (countSyn_toLife seq)]
    · exact openings_emitEmpty (s := s1) (by simp [s1, he])

theorem openings_sendSynAck (flags : Flags) : Openings s.toLife (s.sendSynAck k flags).toLife := by
  unfold sendSynAck
  split_ifs
  · exact openings_sendEmptyPacket _
  · exact openings_sendEmptyPacket (s := s.setEcnState .ECN_DISABLED) _

theorem openings_setNextRx (seq : SequenceNumber32) : Openings s.toLife (s.setNextRx k seq).toLife :=
  Opening.setNextRx.openings

theorem openings_establish (h : OpeningEdge s.m_state .ESTABLISHED) :
    Openings s.toLife s.establish.toLife := by
  have h1 : Openings s.toLife (s.goto .ESTABLISHED).toLife := openings_goto h
  exact h1.trans (Opening.connected (l := (s.goto .ESTABLISHED).toLife)).openings

theorem noEndPoint_toLife (he : s.m_endPoint = none) :
    { s with m_endPoint := none }.toLife = s.toLife := by
  rw [← he]

theorem openings_setPeer (peer : Address) : Openings s.toLife (s.setPeer peer).toLife := by
  unfold setPeer
  cases he : s.m_endPoint with
  | none =>
    exact noEndPoint_toLife he ▸ .refl
  | some e => exact (Opening.rename (by simp [he])).openings

end Syn

section Handshake

theorem openings_acceptBare (header : TcpHeader) (size : UInt32) (h : s.m_state = .SYN_SENT) :
    Openings s.toLife (s.acceptBare k header size).toLife := by
  unfold acceptBare
  extract_lets _ s1 s2 s3
  have h2 : Openings s.toLife s2.toLife :=
    (openings_establish (s := s1) (h ▸ .active)).trans (moves_cancelRetx _).openings
  have h3 : Moves s3.toLife (s3.receivedData k header size).toLife := moves_receivedData ..
  exact (h2.trans h3.openings).trans moves_connectionSucceeded.openings

theorem openings_completeHandshake (seq : SequenceNumber32) (tcpflags : Flags)
    (h : s.m_state = .SYN_SENT) :
    Openings s.toLife (s.completeHandshake k seq tcpflags).toLife := by
  unfold completeHandshake
  extract_lets _ s1 s2 s3 s4 s5
  have h1 : Openings s.toLife s1.establish.cancelRetx.toLife :=
    (openings_establish (s := s1) (h ▸ .active)).trans (moves_cancelRetx _).openings
  have h2 : Openings s.toLife s2.toLife := h1.trans (openings_setNextRx (k := k) _)
  have h3 : Moves s2.toLife s3.toLife := moves_sendEmptyPacket _ rfl
  have h5 : Moves s4.toLife (s4.sendPendingData k s4.m_connected).toLife :=
    (moves_sendPendingData _).1
  exact ((h2.trans h3.openings).trans h5.openings).trans moves_connectionSucceeded.openings

theorem openings_processSynSent (a : Arrival τ) (h : s.m_state = .SYN_SENT) :
    Openings s.toLife (s.processSynSent k a).toLife := by
  unfold processSynSent
  extract_lets header tcpflags s1
  split_ifs
  · exact openings_acceptBare _ _ h
  · exact .refl
  · have h1 : Openings s.toLife s1.toLife :=
      openings_goto (s := { s with m_synCount := s.m_synRetries }) (h ▸ .simultaneous)
    exact (h1.trans (openings_setNextRx _)).trans (openings_sendSynAck _)
  · exact openings_completeHandshake _ _ h
  · exact Moves.openings (moves_refuse _)

theorem openings_connectionCreated (peer : Address) :
    Openings s.toLife (s.connectionCreated k peer).toLife := by
  have h1 : Moves s.toLife (s.cancelRetx.consumeSyn k).toLife := moves_cancelRetx s
  have h2 : Moves _ (s.connectionCreated k peer).toLife := moves_notify _ (by simp)
  exact (h1.openings.trans (openings_setPeer peer)).trans h2.openings

theorem connectionCreated_endPoint (peer : Address) (he : s.m_endPoint ≠ none) :
    (s.connectionCreated k peer).m_endPoint ≠ none := by
  change s.m_endPoint.map _ ≠ none
  simpa using he

theorem openings_processSynRcvd (a : Arrival τ) (h : s.m_state = .SYN_RCVD)
    (he : s.m_endPoint ≠ none) : Openings s.toLife (s.processSynRcvd k a).toLife := by
  unfold processSynRcvd
  extract_lets header tcpflags s1
  split_ifs
  · unfold acceptConnection
    extract_lets _ s2 s3 s4
    have h3 : Openings s.toLife s3.toLife :=
      (openings_establish (s := s2) (h ▸ .passive)).trans (openings_connectionCreated _)
    have hack : Moves s4.toLife (s4.receivedAck k a.segment.header a.segment.size a.actions).toLife :=
      moves_receivedAck _ _ _ (connectionCreated_endPoint _ he)
    exact (h3.trans hack.openings).trans moves_notifySend.1.openings
  · exact (openings_setNextRx _).trans (openings_sendSynAck _)
  · have h1 : Openings s.toLife s1.toLife :=
      (Opening.connected (l := s.toLife)).openings.trans
        (openings_connectionCreated (s := { s with m_connected := true }) _)
    exact h1.trans (moves_peerClose ..).openings
  · exact .refl
  · exact moves_closeAndNotify.openings
  · exact ((openings_setPeer _).trans moves_sendRST.openings).trans moves_closeAndNotify.openings

theorem openings_arrive (a : Arrival τ) : Openings s.toLife (s.arrive k a).toLife := by
  refine arrive_of_dispatch (fun _ => .refl) .trans Moves.openings a fun s' he _ => ?_
  by_cases h1 : s'.m_state = .SYN_SENT
  · unfold dispatch
    rw [h1]
    exact openings_processSynSent a h1
  · by_cases h2 : s'.m_state = .SYN_RCVD
    · unfold dispatch
      rw [h2]
      exact openings_processSynRcvd a h2 he
    · exact (moves_dispatch a he ⟨h1, h2⟩).openings

end Handshake

section Calls

theorem openings_sendSyn : Openings s.toLife (s.sendSyn k).toLife := openings_sendEmptyPacket _

theorem emitEmpty_keeps_state (e : EndPoint) (flags : Flags) (seq : SequenceNumber32) :
    (s.emitEmpty k e flags seq).m_state = s.m_state := (emitEmpty_keeps e flags seq).1

theorem sendEmptyPacket_state (flags : Flags) :
    (s.sendEmptyPacket k flags).m_state = s.m_state ∨
      (s.sendEmptyPacket k flags).m_state = .CLOSED := by
  unfold sendEmptyPacket
  split
  · exact .inl rfl
  · extract_lets _ seq flags' s1 s2
    have h2 : s2.m_state = s.m_state := by
      unfold s2
      split_ifs <;> rfl
    clear_value s2
    split_ifs
    · refine .inr ?_
      unfold connectionFailed deallocateEndPoint
      extract_lets
      split <;> rfl
    · refine .inl ((emitEmpty_keeps_state ..).trans ?_)
      exact (congrArg Life.m_state (countSyn_toLife seq)).trans h2
    · exact .inl (emitEmpty_keeps_state (s := s1) ..)

theorem livings_doConnect : Livings s.toLife (s.doConnect k).toLife := by
  have hsyn : ∀ {state : TcpStates}, s.m_state = state → CallEdge state .SYN_SENT →
      Livings s.toLife (((s.sendSyn k).goto .SYN_SENT).setEcnState .ECN_DISABLED).toLife := by
    intro state h hedge
    have hgo : CallEdge (s.sendSyn k).m_state .SYN_SENT := by
      rcases sendEmptyPacket_state (k := k) (s := s) _ with h1 | h1
      · exact (h1.trans h) ▸ hedge
      · exact h1 ▸ .connect
    have hcall : Livings (s.sendSyn k).toLife ((s.sendSyn k).goto .SYN_SENT).toLife :=
      .single (.call hgo)
    exact openings_sendSyn.livings.trans hcall
  unfold doConnect
  split
  case h_1 h => exact hsyn h .connect
  case h_2 h => exact hsyn h .fromListen
  case h_3 h => exact hsyn h .again
  case h_4 h => exact hsyn h .fromLastAck
  case h_5 h => exact hsyn h .fromCloseWait
  case h_6 => exact .refl
  all_goals
    exact moves_sendRST.openings.livings.trans moves_closeAndNotify.openings.livings

theorem livings_bind (name : Option Address) (he : s.m_endPoint = none) :
    Livings s.toLife (s.bind name).toLife := by
  cases name with
  | none =>
    exact noEndPoint_toLife he ▸ .refl
  | some name => exact .single .name

theorem openings_setLocalAddress (source : UInt32) :
    Openings s.toLife (s.setLocalAddress source).toLife := by
  unfold setLocalAddress
  cases he : s.m_endPoint with
  | none =>
    exact noEndPoint_toLife he ▸ .refl
  | some e => exact (Opening.rename (by simp [he])).openings

theorem livings_connect (name : Option Address) (peer : Address) (route : Option UInt32) :
    Livings s.toLife (s.connect k name peer route).toLife := by
  unfold connect
  extract_lets s1 s2
  have h1 : Livings s.toLife s1.toLife := by
    unfold s1
    split_ifs with he
    · exact livings_bind name he
    · exact .refl
  have h2 : Livings s.toLife s2.toLife := h1.trans (openings_setPeer peer).livings
  split_ifs
  · exact h1
  · split
    · exact h2
    · extract_lets s3 s4
      exact (h2.trans (openings_setLocalAddress _).livings).trans (livings_doConnect (s := s4))

theorem livings_listen : Livings s.toLife s.listen.toLife := by
  unfold listen
  split_ifs with h
  · exact .single (.call (h ▸ .listen))
  · exact .refl

theorem moves_send (size : UInt32) : Moves s.toLife (s.send k size).toLife := by
  unfold send
  split_ifs
  · split
    · exact .refl
    · rename_i txBuffer _
      extract_lets s1
      split_ifs
      · exact .refl
      · exact moves_retime s1 ⟨.inl rfl, .inl rfl⟩
      · exact .refl
  · exact .refl

theorem openings_reTxTimeout : Openings s.toLife (s.reTxTimeout k).toLife := by
  by_cases h : s.m_state = .SYN_SENT
  · have hassert : Moves s.toLife (s.assert (s.m_synCount > 0) .synCount).toLife :=
      moves_assert s (by simp)
    unfold reTxTimeout
    rw [if_neg (by simp [h]), if_pos h]
    exact hassert.openings.trans openings_sendSyn
  · exact (moves_reTxTimeout h).openings

theorem openings_retxExpires : Openings s.toLife (s.retxExpires k).toLife := by
  unfold retxExpires
  split
  · exact .refl
  · rename_i handler due _
    extract_lets s1
    have h1 : Moves s.toLife s1.toLife := moves_cancelRetx { s with now := max s.now due }
    split
    · exact h1.openings.trans openings_reTxTimeout
    · exact h1.openings.trans (openings_sendEmptyPacket _)

theorem expires_none {due : Option Time} (h : due = none)
    (stop handler : TcpSocketBase τ χ ε → TcpSocketBase τ χ ε) : s.expires due stop handler = s := by
  rw [h]
  rfl

theorem expires_elim {P : TcpSocketBase τ χ ε → Prop} {due : Option Time}
    {stop handler : TcpSocketBase τ χ ε → TcpSocketBase τ χ ε} (hs : P s)
    (h : ∀ d, due = some d → P (handler (stop { s with now := max s.now d }))) :
    P (s.expires due stop handler) := by
  unfold expires
  split
  · exact hs
  · exact h _ rfl

theorem moves_expires {due : Option Time} {stop handler : TcpSocketBase τ χ ε → TcpSocketBase τ χ ε}
    (h : ∀ d, due = some d →
      Moves s.toLife (handler (stop { s with now := max s.now d })).toLife) :
    Moves s.toLife (s.expires due stop handler).toLife :=
  expires_elim (P := fun t : TcpSocketBase τ χ ε => Moves s.toLife t.toLife) .refl h

end Calls

end TcpSocketBase

/-- The probe of a zero window is running only while there is an end point. -/
def Life.Wired (l : Life) : Prop := l.timers.m_persistEvent ≠ none → l.m_endPoint ≠ none

theorem Move.wired {l l' : Life} (h : Move l l') (hl : l.Wired) : l'.Wired := by
  cases h with
  | retime h =>
    intro hp
    rcases h.persist with h | h | h
    · exact hl (h ▸ hp)
    · exact absurd h hp
    · exact h
  | release => exact fun hp => absurd rfl hp
  | goto | closed | transmit | notify | notifyClose | assert => exact hl

theorem Opening.wired {l l' : Life} (h : Opening l l') (hl : l.Wired) : l'.Wired := by
  cases h with
  | move h => exact h.wired hl
  | retime h => exact fun hp => hl (h ▸ hp)
  | rename => exact fun _ => by simp
  | goto | syn | connected | setNextRx => exact hl

theorem Living.wired {l l' : Life} (h : Living l l') (hl : l.Wired) : l'.Wired := by
  cases h with
  | opening h => exact h.wired hl
  | call => exact hl
  | name => exact fun _ => by simp

/-- The calls that open a connection, and the end of the end point. -/
def SocketEvent.Opens {τ : Type} : SocketEvent τ → Prop
  | .bind .. | .connect .. | .listen | .destroy => True
  | _ => False

/-- A socket that has an end point gets another one, or none, and loses the first. -/
def TcpSocketBase.Rebinds {τ χ ε : Type} (s : TcpSocketBase τ χ ε) : SocketEvent τ → Prop
  | .bind _ => s.m_endPoint ≠ none
  | _ => False

theorem SocketEvent.not_rebinds {τ χ ε : Type} {s : TcpSocketBase τ χ ε} {e : SocketEvent τ}
    (he : ¬ e.Opens) : ¬ s.Rebinds e := by
  cases e with
  | bind => exact absurd trivial he
  | _ => exact id

def SocketEvent.Shakes {τ : Type} : SocketEvent τ → Prop
  | .arrive _ | .retx => True
  | _ => False

namespace TcpSocketBase
variable {τ χ ε : Type} {k : Stack τ χ ε} {s : TcpSocketBase τ χ ε}

/-- Besides those, a step is a sequence of moves, unless a segment arrives or is sent again. -/
theorem moves_step (hw : s.toLife.Wired) {e : SocketEvent τ} (he : ¬ e.Opens)
    (hs : ¬ e.Shakes) : Moves s.toLife (s.step k e).toLife := by
  cases e with
  | wait | recv | shutdownRecv => exact .refl
  | bind | connect | listen | destroy => exact absurd trivial he
  | arrive | retx => exact absurd trivial hs
  | send size => exact moves_send size
  | close => exact moves_close
  | shutdownSend => exact moves_shutdownSend
  | persist =>
    refine moves_expires fun d hd => ?_
    have hstop := moves_retime { s with now := max s.now d }
      (t := { s.timers with m_persistEvent := none }) ⟨.inl rfl, .inr (.inl rfl)⟩
    exact hstop.trans (moves_persistTimeout (hw (by simp [hd])))
  | delAck =>
    refine moves_expires fun d _ => ?_
    have hstop := moves_retime { s with now := max s.now d }
      (t := { s.timers with m_delAckEvent := none }) ⟨.inl rfl, .inl rfl⟩
    exact hstop.trans moves_delAckTimeout
  | lastAck =>
    refine moves_expires fun d _ => ?_
    have hstop := moves_retime { s with now := max s.now d }
      (t := { s.timers with m_lastAckEvent := none }) ⟨.inl rfl, .inl rfl⟩
    exact hstop.trans moves_lastAckTimeout
  | timewait =>
    refine moves_expires fun d _ => ?_
    have hstop := moves_retime { s with now := max s.now d }
      (t := { s.timers with m_timewaitEvent := none }) ⟨.inl rfl, .inl rfl⟩
    exact hstop.trans moves_closeAndNotify
  | sendPending =>
    refine moves_expires fun d _ => ?_
    have hstop := moves_retime { s with now := max s.now d }
      (t := { s.timers with m_sendPendingDataEvent := none }) ⟨.inl rfl, .inl rfl⟩
    exact hstop.trans (moves_sendPendingData _).1

theorem openings_step (hw : s.toLife.Wired) {e : SocketEvent τ} (he : ¬ e.Opens) :
    Openings s.toLife (s.step k e).toLife := by
  by_cases hs : e.Shakes
  · cases e with
    | arrive a => exact openings_arrive a
    | retx => exact openings_retxExpires
    | _ => exact absurd hs id
  · exact (moves_step hw he hs).openings

/-- Every step of a socket whose end point is not destroyed or lost is a sequence of the things that make
up its life. -/
theorem livings_step (hw : s.toLife.Wired) {e : SocketEvent τ} (hb : ¬ s.Rebinds e)
    (hd : e ≠ .destroy) : Livings s.toLife (s.step k e).toLife := by
  by_cases he : e.Opens
  · cases e with
    | bind name => exact livings_bind name (not_not.1 hb)
    | connect name peer route => exact livings_connect name peer route
    | listen => exact livings_listen
    | destroy => exact absurd rfl hd
    | _ => exact absurd he id
  · exact (openings_step hw he).livings

end TcpSocketBase

section Rules
variable {τ χ ε : Type} (k : Stack τ χ ε) {I : Life → Prop} {s : TcpSocketBase τ χ ε}

theorem Livings.keeps {l l' : Life} (h : Livings l l') (hI : ∀ {a b}, Living a b → I a → I b)
    (hl : I l) : I l' := by
  induction h with
  | refl => exact hl
  | tail _ hlast ih => exact hI hlast ih

theorem Openings.keeps {l l' : Life} (h : Openings l l') (hI : ∀ {a b}, Opening a b → I a → I b)
    (hl : I l) : I l' := by
  induction h with
  | refl => exact hl
  | tail _ hlast ih => exact hI hlast ih

theorem Moves.keeps {l l' : Life} (h : Moves l l') (hI : ∀ {a b}, Move a b → I a → I b)
    (hl : I l) : I l' := by
  induction h with
  | refl => exact hl
  | tail _ hlast ih => exact hI hlast ih

theorem Life.Wired.destroyed (l : Life) : Life.Wired { l with m_endPoint := none, timers := {} } :=
  fun hp => absurd rfl hp

theorem step_wired (hw : s.toLife.Wired) {e : SocketEvent τ} (hb : ¬ s.Rebinds e) :
    (s.step k e).toLife.Wired := by
  by_cases hd : e = .destroy
  · subst hd
    exact Life.Wired.destroyed _
  · exact (TcpSocketBase.livings_step hw hb hd).keeps (fun h => h.wired) hw

theorem run_wired (hw : s.toLife.Wired) {evs : List (SocketEvent τ)} (hE : ∀ e ∈ evs, ¬ e.Opens) :
    (run (TcpSocketBase.step k) s evs).toLife.Wired :=
  run_invariant_of (I := fun t : TcpSocketBase τ χ ε => t.toLife.Wired)
    (fun _ e he h => step_wired k h (SocketEvent.not_rebinds (e := e) he)) hw hE

/-- No step of a run loses an end point by getting another one. -/
def BoundOnce (s : TcpSocketBase τ χ ε) (evs : List (SocketEvent τ)) : Prop :=
  Along (TcpSocketBase.step k) (fun s e => ¬ s.Rebinds e) s evs

/-- What every part of a life keeps holds after every run in which no end point is lost; where one is
destroyed, the property has to keep that too. -/
theorem run_life (hI : ∀ {a b}, Living a b → I a → I b) (hw : s.toLife.Wired) (hs : I s.toLife)
    {evs : List (SocketEvent τ)} (hB : BoundOnce k s evs)
    (hD : .destroy ∈ evs → ∀ {l}, I l → I { l with m_endPoint := none, timers := {} }) :
    I (run (TcpSocketBase.step k) s evs).toLife := by
  induction evs generalizing s with
  | nil => exact hs
  | cons e evs ih =>
    obtain ⟨hb, hB⟩ := (along_cons ..).1 hB
    refine ih (step_wired k hw hb) ?_ hB fun hmem => hD (List.mem_cons_of_mem e hmem)
    by_cases hd : e = .destroy
    · subst hd
      exact hD List.mem_cons_self (l := s.toLife) hs
    · exact (TcpSocketBase.livings_step hw hb hd).keeps hI hs

end Rules

end NetSessional.Tcp
