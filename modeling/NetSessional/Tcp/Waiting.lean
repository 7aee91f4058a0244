import NetSessional.Tcp.Attempts
import NetSessional.Tcp.Lifecycle
import NetSessional.Tcp.Network

/-! What a socket does while it waits for the handshake: as a client that has called, as a listening socket,
and as one that a SYN has made; and what it keeps when it is connected. -/

namespace NetSessional.Tcp
open Vegas Runs

section Settled

/-- The handshake is over, and no SYN waits to be sent again. -/
structure Life.Settled (l : Life) : Prop where
  state : l.m_state ≠ .LISTEN ∧ l.m_state ≠ .SYN_SENT ∧ l.m_state ≠ .SYN_RCVD
  retx : ∀ flags due, l.timers.m_retxEvent = some (.sendEmptyPacket flags, due) → flags.SYN = false

theorem Edge.settled {a b : TcpStates} (h : Edge a b) : b ≠ .LISTEN ∧ b ≠ .SYN_SENT ∧ b ≠ .SYN_RCVD := by
  cases h <;> decide

theorem Move.settled {l l' : Life} (h : Move l l') (hl : l.Settled) : l'.Settled := by
  cases h with
  | goto h =>
    refine ⟨?_, hl.retx⟩
    rcases h with h | ⟨-, rfl⟩
    · exact h.settled
    · exact ⟨nofun, nofun, nofun⟩
  | closed => exact ⟨⟨nofun, nofun, nofun⟩, hl.retx⟩
  | retime h =>
    refine ⟨hl.state, fun flags due hr => ?_⟩
    rcases h.retx with h | h
    · exact hl.retx flags due (h ▸ hr)
    · exact h flags due hr
  | release => exact ⟨hl.state, fun flags due hr => by cases hr⟩
  | transmit | notify | notifyClose | assert => exact ⟨hl.state, hl.retx⟩

variable {τ χ ε : Type} {k : Stack τ χ ε} {s : TcpSocketBase τ χ ε}

theorem Life.Settled.moves_step (hs : s.toLife.Settled) (hw : s.toLife.Wired) {e : SocketEvent τ}
    (he : ¬ e.Opens) : Moves s.toLife (s.step k e).toLife := by
  by_cases hshakes : e.Shakes
  · cases e with
    | arrive a => exact TcpSocketBase.moves_arrive a hs.state.2
    | retx =>
      change Moves s.toLife (s.retxExpires k).toLife
      unfold TcpSocketBase.retxExpires
      split
      · exact .refl
      · rename_i handler due hretx
        extract_lets s1
        have h1 : Moves s.toLife s1.toLife :=
          TcpSocketBase.moves_cancelRetx { s with now := max s.now due }
        split
        · exact h1.trans (TcpSocketBase.moves_reTxTimeout (s := s1) hs.state.2.1)
        · exact h1.trans (TcpSocketBase.moves_sendEmptyPacket _ (hs.retx _ _ hretx))
    | _ => exact absurd hshakes id
  · exact TcpSocketBase.moves_step hw he hshakes

end Settled

/-- A client that is connected: it has the first sequence number `iss` of the server, and its own SYNs all
had `seq`. -/
structure Life.Joined (iss seq : SequenceNumber32) (l : Life) : Prop where
  settled : l.Settled
  wired : l.Wired
  connected : l.m_connected = true
  rxStart : l.rxStart = some (iss + 1)
  syns : ∀ g ∈ l.sent, g.header.flags.SYN = true → g.header.sequenceNumber = seq

theorem Move.joined {iss seq : SequenceNumber32} {l l' : Life} (h : Move l l')
    (hl : l.Joined iss seq) : l'.Joined iss seq := by
  refine ⟨h.settled hl.settled, h.wired hl.wired, ?_, ?_, ?_⟩
  · cases h <;> exact hl.connected
  · cases h <;> exact hl.rxStart
  · cases h with
    | transmit he hs =>
      intro g hg hsyn
      rcases List.mem_append.1 hg with hg | hg
      · exact hl.syns g hg hsyn
      · rw [List.mem_singleton.1 hg, hs] at hsyn
        cases hsyn
    | _ => exact hl.syns

theorem Life.Joined.step {τ χ ε : Type} {k : Stack τ χ ε} {s : TcpSocketBase τ χ ε}
    {iss seq : SequenceNumber32} (h : s.toLife.Joined iss seq) {e : SocketEvent τ}
    (he : ¬ e.Opens ∨ e = .destroy) : (s.step k e).toLife.Joined iss seq := by
  rcases he with he | rfl
  · exact (h.settled.moves_step h.wired he).keeps (fun hm => hm.joined) h
  · exact ⟨⟨h.settled.state, nofun⟩, fun hp => absurd rfl hp, h.connected, h.rxStart, h.syns⟩

/-- The SYN of one end: the state it waits in, the SYN's flags and sequence number, and what is known of the
window it offers. -/
structure Greeting where
  state : TcpStates
  flags : Flags
  seq : SequenceNumber32
  window : UInt16 → Prop
  opening : state = .SYN_SENT ∨ state = .SYN_RCVD
  syn : flags.SYN = true
  fin : flags.FIN = false

def Greeting.Sends (G : Greeting) (g : TcpSegment) : Prop :=
  g.header.flags.mask = G.flags ∧ g.header.sequenceNumber = G.seq ∧ G.window g.header.windowSize ∨
    g.header.flags = { RST := true }

namespace TcpSocketBase
variable {τ χ ε : Type} {k : Stack τ χ ε} {G : Greeting} {s s' : TcpSocketBase τ χ ε}

/-- A socket that is not connected, and has sent nothing but its SYN and resets. -/
structure Unmet (k : Stack τ χ ε) (G : Greeting) (s : TcpSocketBase τ χ ε) : Prop where
  connected : s.m_connected = false
  next : s.m_tcb.m_nextTxSequence = G.seq
  window : G.window (s.advertisedWindowSize k false)
  sent : ∀ g ∈ s.sent, G.Sends g
  told : .newConnectionCreated ∉ s.notified

/-- It waits for an answer, with no timer but its SYN's, or it has given up. -/
structure Waiting (k : Stack τ χ ε) (G : Greeting) (s : TcpSocketBase τ χ ε) : Prop
    extends s.Unmet k G where
  state : s.m_state = G.state ∨ s.m_state = .CLOSED ∧ s.m_endPoint = none
  idle : s.timers.Idle
  retx : ∀ handler due, s.timers.m_retxEvent = some (handler, due) →
    ∃ flags, handler = .sendEmptyPacket flags ∧ flags.mask = G.flags

theorem Unmet.of_alike (h : s.Unmet k G) (ha : s.Alike k s') (hs : s'.sent = s.sent) :
    s'.Unmet k G :=
  ⟨ha.connected.trans h.connected, ha.next.trans h.next, ha.window.symm ▸ h.window, hs ▸ h.sent,
    fun hn => h.told (ha.told hn)⟩

theorem Unmet.of_sent (h : s.Unmet k G) (ha : s.Alike k s') {g : TcpSegment}
    (hs : s'.sent = s.sent ++ [g]) (hg : G.Sends g) : s'.Unmet k G := by
  refine ⟨ha.connected.trans h.connected, ha.next.trans h.next, ha.window.symm ▸ h.window, ?_,
    fun hn => h.told (ha.told hn)⟩
  rw [hs]
  intro g' hg'
  rcases List.mem_append.1 hg' with hg' | hg'
  · exact h.sent g' hg'
  · rwa [List.mem_singleton.1 hg']

theorem Unmet.waiting (h : s.Unmet k G) (hstate : s.m_state = .CLOSED) (he : s.m_endPoint = none)
    (ht : s.timers = {}) : s.Waiting k G := by
  refine ⟨h, .inr ⟨hstate, he⟩, ?_, ?_⟩
  · rw [ht]
    rfl
  · rw [ht]
    exact nofun

theorem Waiting.of_alike (h : s.Waiting k G) (ha : s.Alike k s') (hl : s'.toLife = s.toLife) :
    s'.Waiting k G := by
  refine ⟨h.toUnmet.of_alike ha (by rw [hl]), ?_, ?_, ?_⟩
  · rw [hl]
    exact h.state
  · rw [hl]
    exact h.idle
  · rw [hl]
    exact h.retx

theorem Waiting.state_ne (h : s.Waiting k G) :
    s.m_state ≠ .FIN_WAIT_1 ∧ s.m_state ≠ .LAST_ACK ∧ s.m_state ≠ .CLOSING := by
  rcases h.state with hs | ⟨hs, -⟩
  · rw [hs]
    rcases G.opening with ho | ho <;> rw [ho] <;> decide
  · rw [hs]
    decide

theorem mask_syn {f f' : Flags} (h : f.mask = f') : f.SYN = f'.SYN ∧ f.FIN = f'.FIN := by
  subst h
  exact ⟨rfl, rfl⟩

theorem Waiting.sendSyn (h : s.Waiting k G) {flags : Flags} (hf : flags.mask = G.flags) :
    (s.sendEmptyPacket k flags).Waiting k G := by
  by_cases he : s.m_endPoint = none
  · rwa [sendEmptyPacket_none he]
  have ha : s.Alike k (s.sendEmptyPacket k flags) := alike_sendEmptyPacket flags
  have hsyn : flags.SYN = true := (mask_syn hf).1.trans G.syn
  have hfin : flags.FIN = false := (mask_syn hf).2.trans G.fin
  rcases sendEmptyPacket_syn (k := k) he hsyn hfin h.state_ne with hl | hout
  · exact (h.toUnmet.of_alike ha (by rw [hl])).waiting (by rw [hl]) (by rw [hl]) (by rw [hl])
  · obtain ⟨g, t, hl, hgf, hgs, hgw, hidle, hretx⟩ := hout
    rw [hsyn] at hgw
    have hg : G.Sends g := .inl ⟨hgf ▸ hf, hgs.trans h.next, hgw ▸ h.window⟩
    refine ⟨h.toUnmet.of_sent ha (by rw [hl]) hg, .inl ?_, ?_, ?_⟩
    · rw [hl]
      exact h.state.resolve_right fun hc => he hc.2
    · rw [hl]
      exact hidle h.idle
    · rw [hl]
      intro handler due hr
      rcases hretx with hretx | ⟨due', hretx⟩
      · exact h.retx handler due (hretx ▸ hr)
      · obtain ⟨rfl, -⟩ := Prod.mk.inj (Option.some.inj (hretx.symm.trans hr))
        exact ⟨flags, rfl, hf⟩

theorem Unmet.doConnect (h : s.Unmet k G) (hs : s.m_state = .CLOSED) (he : s.m_endPoint ≠ none)
    (ht : s.timers = {}) (hG : G.flags = { SYN := true }) (hG' : G.state = .SYN_SENT) :
    (s.doConnect k).Waiting k G := by
  obtain ⟨flags, hf, hconnect⟩ := doConnect_closed (k := k) hs
  rw [hconnect]
  have hmask : flags.mask = G.flags := hf.trans hG.symm
  have hsyn : flags.SYN = true := (mask_syn hmask).1.trans G.syn
  have hfin : flags.FIN = false := (mask_syn hmask).2.trans G.fin
  have ha : s.Alike k ((s.sendEmptyPacket k flags).goto .SYN_SENT) :=
    (alike_sendEmptyPacket flags).trans ⟨rfl, rfl, rfl, rfl, rfl, id⟩
  have hw : ((s.sendEmptyPacket k flags).goto .SYN_SENT).Waiting k G := by
    rcases sendEmptyPacket_syn (k := k) he hsyn hfin (by rw [hs]; decide) with hl | hout
    · have hsent : (s.sendEmptyPacket k flags).sent = s.sent := by rw [hl]
      have hu : ((s.sendEmptyPacket k flags).goto .SYN_SENT).Unmet k G := h.of_alike ha hsent
      have ht' : (s.sendEmptyPacket k flags).timers = {} := by rw [hl]
      refine ⟨hu, .inl hG'.symm, ?_, ?_⟩
      · change (s.sendEmptyPacket k flags).timers.Idle
        rw [ht']
        rfl
      · change ∀ handler due, (s.sendEmptyPacket k flags).timers.m_retxEvent = _ → _
        rw [ht']
        exact nofun
    · obtain ⟨g, t, hl, hgf, hgs, hgw, hidle, hretx⟩ := hout
      rw [hsyn] at hgw
      have hg : G.Sends g := .inl ⟨hgf ▸ hmask, hgs.trans h.next, hgw ▸ h.window⟩
      have ht' : (s.sendEmptyPacket k flags).timers = t := by rw [hl]
      have hsent : (s.sendEmptyPacket k flags).sent = s.sent ++ [g] := by rw [hl]
      refine ⟨h.of_sent ha hsent hg, .inl hG'.symm, ?_, ?_⟩
      · change (s.sendEmptyPacket k flags).timers.Idle
        rw [ht']
        exact hidle (by rw [ht]; rfl)
      · change ∀ handler due, (s.sendEmptyPacket k flags).timers.m_retxEvent = _ → _
        rw [ht']
        intro handler due hr
        rcases hretx with hretx | ⟨due', hretx⟩
        · rw [hretx, ht] at hr
          cases hr
        · obtain ⟨rfl, -⟩ := Prod.mk.inj (Option.some.inj (hretx.symm.trans hr))
          exact ⟨flags, rfl, hmask⟩
  exact hw.of_alike ⟨rfl, rfl, rfl, rfl, rfl, id⟩ rfl

section GivingUp

theorem alike_notifyClose : s.Alike k s.notifyClose := by
  unfold notifyClose
  split_ifs
  · exact .refl s
  · have h1 : s.Alike k { s with m_closeNotified := true } := ⟨rfl, rfl, rfl, rfl, rfl, id⟩
    exact h1.trans (alike_notify (by simp))

theorem notifyClose_sent : s.notifyClose.sent = s.sent ∧ s.notifyClose.timers = s.timers := by
  unfold notifyClose
  split_ifs <;> exact ⟨rfl, rfl⟩

theorem deallocateEndPoint_life : s.deallocateEndPoint.sent = s.sent ∧
    s.deallocateEndPoint.m_state = s.m_state ∧ s.deallocateEndPoint.m_endPoint = none ∧
    s.deallocateEndPoint.timers = if s.m_endPoint = none then s.timers else {} := by
  unfold deallocateEndPoint
  split
  · rename_i he
    exact ⟨rfl, rfl, he, by rw [if_pos he]⟩
  · rename_i he
    exact ⟨rfl, rfl, rfl, by simp [he]⟩

theorem alike_closeAndNotify : s.Alike k s.closeAndNotify := by
  unfold closeAndNotify
  extract_lets s1 _ s2
  have h1 : s.Alike k s1 := alike_notifyClose
  have h2 : s.Alike k (s2.goto .CLOSED) := h1.trans ⟨rfl, rfl, rfl, rfl, rfl, id⟩
  exact h2.trans alike_deallocateEndPoint

theorem closeAndNotify_life : s.closeAndNotify.sent = s.sent ∧
    s.closeAndNotify.m_state = .CLOSED ∧ s.closeAndNotify.m_endPoint = none ∧
    s.closeAndNotify.timers =
      if s.m_endPoint = none then { s.timers with m_lastAckEvent := none } else {} := by
  unfold closeAndNotify
  extract_lets s1 _ s2
  obtain ⟨hsent, hstate, hep, ht⟩ := deallocateEndPoint_life (s := s2.goto .CLOSED)
  have hep1 : (s2.goto .CLOSED).m_endPoint = s.m_endPoint := notifyClose_keeps.2.2
  refine ⟨hsent.trans notifyClose_sent.1, hstate, hep, ?_⟩
  rw [ht, hep1]
  have htimers : (s2.goto .CLOSED).timers = { s.timers with m_lastAckEvent := none } := by
    change { s1.timers with m_lastAckEvent := none } = _
    rw [show s1.timers = s.timers from notifyClose_sent.2]
  rw [htimers]

theorem alike_sendRST : s.Alike k (s.sendRST k) := by
  unfold sendRST
  have h1 : s.Alike k ((s.sendEmptyPacket k { RST := true }).notify .errorClose) :=
    (alike_sendEmptyPacket _).trans (alike_notify (by simp))
  exact h1.trans alike_deallocateEndPoint

theorem sendRST_life : (s.sendRST k).m_state = s.m_state ∧ (s.sendRST k).m_endPoint = none ∧
    (s.sendRST k).timers = (if s.m_endPoint = none then s.timers else {}) ∧
    ((s.sendRST k).sent = s.sent ∨
      ∃ g, (s.sendRST k).sent = s.sent ++ [g] ∧ g.header.flags = { RST := true }) := by
  unfold sendRST
  obtain ⟨hsent, hstate, hep, ht⟩ :=
    deallocateEndPoint_life (s := (s.sendEmptyPacket k { RST := true }).notify .errorClose)
  have hkeep := sendEmptyPacket_keeps (k := k) (s := s) { RST := true } rfl
  have hep1 : ((s.sendEmptyPacket k { RST := true }).notify .errorClose).m_endPoint =
      s.m_endPoint := hkeep.2
  refine ⟨hstate.trans hkeep.1, hep, ?_, ?_⟩
  · rw [ht, hep1]
    split_ifs with he
    · change (s.sendEmptyPacket k { RST := true }).timers = _
      rw [sendEmptyPacket_none he]
    · rfl
  · rw [hsent]
    change (s.sendEmptyPacket k { RST := true }).sent = _ ∨
      ∃ g, (s.sendEmptyPacket k { RST := true }).sent = _ ∧ _
    by_cases he : s.m_endPoint = none
    · exact .inl (by rw [sendEmptyPacket_none he])
    · have hsyn : ({ RST := true } : Flags).SYN = false := rfl
      obtain ⟨g, t, hgf, hl⟩ := sendEmptyPacket_bare (k := k) he hsyn rfl
      exact .inr ⟨g, by rw [hl], hgf⟩

theorem Unmet.sendRST (h : s.Unmet k G) : (s.sendRST k).Unmet k G := by
  rcases (sendRST_life (k := k) (s := s)).2.2.2 with hs | ⟨g, hs, hg⟩
  · exact h.of_alike alike_sendRST hs
  · exact h.of_sent alike_sendRST hs (.inr hg)

theorem Unmet.closeAndNotify (h : s.Unmet k G) : s.closeAndNotify.Unmet k G :=
  h.of_alike alike_closeAndNotify closeAndNotify_life.1

theorem Unmet.refuse (h : s.Unmet k G) (he : s.m_endPoint ≠ none) (reset : Prop)
    [Decidable reset] : (s.refuse k reset).Waiting k G := by
  unfold TcpSocketBase.refuse
  split_ifs
  · have hl := closeAndNotify_life (s := s)
    exact h.closeAndNotify.waiting hl.2.1 hl.2.2.1 (by rw [hl.2.2.2, if_neg he])
  · have hr := sendRST_life (k := k) (s := s)
    have hl := closeAndNotify_life (s := s.sendRST k)
    refine h.sendRST.closeAndNotify.waiting hl.2.1 hl.2.2.1 ?_
    rw [hl.2.2.2, if_pos hr.2.1, hr.2.2.1, if_neg he]

theorem Waiting.sendRST (h : s.Waiting k G) : (s.sendRST k).Waiting k G := by
  obtain ⟨hstate, hep, ht, -⟩ := sendRST_life (k := k) (s := s)
  refine ⟨h.toUnmet.sendRST, ?_, ?_, ?_⟩
  · rw [hstate]
    exact h.state.imp_right fun hc => ⟨hc.1, hep⟩
  · rw [ht]
    split_ifs
    · exact h.idle
    · rfl
  · rw [ht]
    split_ifs
    · exact h.retx
    · exact nofun

theorem Waiting.closeAndNotify (h : s.Waiting k G) : s.closeAndNotify.Waiting k G := by
  obtain ⟨-, hstate, hep, ht⟩ := closeAndNotify_life (s := s)
  have hidle : ({ s.timers with m_lastAckEvent := none } : Timers) = s.timers := by
    have hi := h.idle
    unfold Timers.Idle at hi
    rw [hi]
  rw [hidle] at ht
  refine ⟨h.toUnmet.closeAndNotify, .inr ⟨hstate, hep⟩, ?_, ?_⟩
  · rw [ht]
    split_ifs
    · exact h.idle
    · rfl
  · rw [ht]
    split_ifs
    · exact h.retx
    · exact nofun

end GivingUp

section Waits

theorem Waiting.retxExpires (h : s.Waiting k G) : (s.retxExpires k).Waiting k G := by
  unfold TcpSocketBase.retxExpires
  split
  · exact h
  · rename_i handler due hretx
    extract_lets s1
    have h1 : s1.Waiting k G := by
      refine ⟨h.toUnmet.of_alike ⟨rfl, rfl, rfl, rfl, rfl, id⟩ rfl, h.state, ?_, nofun⟩
      have hi := h.idle
      unfold Timers.Idle at hi ⊢
      change { s.timers with m_retxEvent := none } = ({ m_retxEvent := none } : Timers)
      rw [hi]
    obtain ⟨flags, rfl, hf⟩ := h.retx handler due hretx
    exact h1.sendSyn hf

/-- While it waits, time and the timers make a socket do no more than send its SYN again. -/
theorem Waiting.timed (h : s.Waiting k G) {e : SocketEvent τ} (he : e.timed = true) :
    (s.step k e).Waiting k G := by
  have hi := h.idle.none
  have stays : ∀ {due : Option Time} {stop handler : TcpSocketBase τ χ ε → TcpSocketBase τ χ ε},
      due = none → (s.expires due stop handler).Waiting k G := by
    intro due stop handler hd
    rwa [expires_none hd]
  cases e with
  | wait delay => exact h.of_alike ⟨rfl, rfl, rfl, rfl, rfl, id⟩ rfl
  | retx => exact h.retxExpires
  | persist =>
    unfold step
    exact stays hi.1
  | delAck =>
    unfold step
    exact stays hi.2.1
  | lastAck =>
    unfold step
    exact stays hi.2.2.1
  | timewait =>
    unfold step
    exact stays hi.2.2.2.1
  | sendPending =>
    unfold step
    exact stays hi.2.2.2.2
  | destroy =>
    have hu : (s.step k .destroy).Unmet k G := h.toUnmet.of_alike ⟨rfl, rfl, rfl, rfl, rfl, id⟩ rfl
    exact ⟨hu, h.state.imp_right fun hc => ⟨hc.1, rfl⟩, rfl, nofun⟩
  | _ => cases he

theorem send_waiting (hs : s.m_state ≠ .ESTABLISHED ∧ s.m_state ≠ .CLOSE_WAIT) (size : UInt32) :
    s.Alike k (s.send k size) ∧ (s.send k size).toLife = s.toLife := by
  unfold send
  split_ifs
  · split
    · exact ⟨.refl s, rfl⟩
    · extract_lets s1
      split_ifs with _ hpend
      · exact ⟨⟨rfl, rfl, rfl, rfl, rfl, id⟩, rfl⟩
      · exact absurd hpend.1 (not_or.2 hs)
      · exact ⟨⟨rfl, rfl, rfl, rfl, rfl, id⟩, rfl⟩
  · exact ⟨.refl s, rfl⟩

theorem Waiting.used (h : s.Waiting k G) (hG : G.state = .SYN_SENT) {e : SocketEvent τ}
    (he : e.used = true) : (s.step k e).Waiting k G := by
  have hstate : s.m_state = .SYN_SENT ∨ s.m_state = .CLOSED := by
    rcases h.state with hs | hs
    · exact .inl (hs.trans hG)
    · exact .inr hs.1
  have hne : s.m_state ≠ .ESTABLISHED ∧ s.m_state ≠ .CLOSE_WAIT := by
    rcases hstate with hs | hs <;> rw [hs] <;> decide
  cases e with
  | send size =>
    have hsend := send_waiting (k := k) hne size
    exact h.of_alike hsend.1 hsend.2
  | close =>
    change (s.close k).Waiting k G
    unfold close
    split_ifs
    · exact h.sendRST
    · exact h.of_alike ⟨rfl, rfl, rfl, rfl, rfl, id⟩ rfl
    · unfold doClose
      rcases hstate with hs | hs
      · rw [hs]
        exact h.sendRST.closeAndNotify
      · rw [hs]
        exact h
  | shutdownSend =>
    change (s.shutdownSend k).Waiting k G
    unfold shutdownSend
    extract_lets s1 s2
    rw [if_neg fun hc => (not_or.2 hne) hc.2]
    exact h.of_alike ⟨rfl, rfl, rfl, rfl, rfl, id⟩ rfl
  | shutdownRecv => exact h.of_alike ⟨rfl, rfl, rfl, rfl, rfl, id⟩ rfl
  | _ => cases he

end Waits

section Hears

theorem alike_setEcnState (ecnState : EcnState) : s.Alike k (s.setEcnState ecnState) :=
  ⟨rfl, rfl, rfl, rfl, rfl, id⟩

theorem alike_markCE (CE : Bool) (seq : SequenceNumber32) : s.Alike k (s.markCE k CE seq) := by
  unfold markCE
  split_ifs
  · exact ⟨rfl, rfl, rfl, rfl, rfl, id⟩
  · exact .refl s

theorem alike_acceptCwr (flags : Flags) : s.Alike k (s.acceptCwr flags) := by
  unfold acceptCwr
  split_ifs
  · exact alike_setEcnState _
  · exact .refl s

theorem alike_processOptionTimestamp (ts : UInt32 × UInt32) (seq : SequenceNumber32) :
    s.Alike k (s.processOptionTimestamp k ts seq) := by
  unfold processOptionTimestamp
  split_ifs <;> exact ⟨rfl, rfl, rfl, rfl, rfl, id⟩

theorem alike_estimateRtt (header : TcpHeader) : s.Alike k (s.estimateRtt k header) := by
  unfold estimateRtt
  extract_lets m s1
  clear_value m
  split
  · exact ⟨rfl, rfl, rfl, rfl, rfl, id⟩
  · split_ifs <;> exact ⟨rfl, rfl, rfl, rfl, rfl, id⟩

theorem alike_processSyn (header : TcpHeader) : s.Alike k (s.processSyn k header) := by
  unfold processSyn
  extract_lets s1 s2 s3 s4 cWnd _ s5
  have h2 : s.Alike k s2 := by
    unfold s2
    split <;> exact ⟨rfl, rfl, rfl, rfl, rfl, id⟩
  have h3 : s.Alike k s3 := by
    unfold s3
    split_ifs
    · exact h2
    · exact h2.trans ⟨rfl, rfl, rfl, rfl, rfl, id⟩
  have h4 : s.Alike k s4 := by
    unfold s4
    split
    · exact h3.trans (alike_processOptionTimestamp ..)
    · exact h3.trans ⟨rfl, rfl, rfl, rfl, rfl, id⟩
  have h5 : s.Alike k s5 := h4.trans ⟨rfl, rfl, rfl, rfl, rfl, id⟩
  split_ifs
  · have h6 : s.Alike k { s5 with m_highRxAckMark := header.ackNumber } :=
      h5.trans ⟨rfl, rfl, rfl, rfl, rfl, id⟩
    exact h6.trans (alike_estimateRtt ..)
  · exact h5

theorem alike_enterPersist : s.Alike k s.enterPersist := by
  unfold enterPersist
  split_ifs
  · exact ⟨rfl, rfl, rfl, rfl, rfl, id⟩
  · exact .refl s

theorem enterPersist_sent : s.enterPersist.sent = s.sent := by
  unfold enterPersist
  split_ifs <;> rfl

theorem leavePersist_none (h : s.timers.m_persistEvent = none) : s.leavePersist k = s := by
  unfold leavePersist
  rw [if_neg fun hc => hc.2 h]

theorem outOfRange_opening (hs : s.m_state = .LISTEN ∨ s.m_state = .SYN_SENT ∨ s.m_state = .SYN_RCVD)
    (head tail : SequenceNumber32) : s.outOfRange k head tail = false := by
  unfold outOfRange
  rcases hs with hs | hs | hs <;> rw [hs]

theorem arrive_syn (he : s.m_endPoint ≠ none)
    (hs : s.m_state = .LISTEN ∨ s.m_state = .SYN_SENT ∨ s.m_state = .SYN_RCVD) (a : Arrival τ)
    (hsyn : a.segment.header.flags.SYN = true) :
    s.arrive k a = ((s.readSyn k a).dispatch k a).leavePersist k := by
  unfold arrive forwardUp doForwardUp process readSyn
  simp [he, outOfRange_opening hs, hsyn]

theorem arrive_reset (he : s.m_endPoint ≠ none)
    (hs : s.m_state = .LISTEN ∨ s.m_state = .SYN_SENT ∨ s.m_state = .SYN_RCVD) (a : Arrival τ)
    (hrst : a.segment.header.flags = { RST := true }) :
    s.arrive k a = ((((s.markCE k a.CE a.segment.header.sequenceNumber).acceptCwr
      a.segment.header.flags).enterPersist).dispatch k a).leavePersist k := by
  unfold arrive forwardUp doForwardUp process
  simp [he, outOfRange_opening hs, hrst]

theorem processSyn_rWnd (header : TcpHeader) :
    (s.processSyn k header).m_rWnd = header.windowSize.toUInt32 := by
  unfold processSyn
  extract_lets s1 s2 s3 s4 cWnd _ s5
  have h2 : s2.m_rWnd = header.windowSize.toUInt32 := by
    unfold s2
    split <;> rfl
  have h3 : s3.m_rWnd = header.windowSize.toUInt32 := by
    unfold s3
    split_ifs
    · exact h2
    · exact h2
  have h4 : s4.m_rWnd = header.windowSize.toUInt32 := by
    have hts : ∀ ts seq, (s3.processOptionTimestamp k ts seq).m_rWnd = s3.m_rWnd := by
      intro ts seq
      unfold processOptionTimestamp
      split_ifs <;> rfl
    unfold s4
    split
    · exact (hts ..).trans h3
    · exact h3
  have hrtt : ∀ s : TcpSocketBase τ χ ε, (s.estimateRtt k header).m_rWnd = s.m_rWnd := by
    intro s
    unfold estimateRtt
    extract_lets m s1
    clear_value m
    split
    · rfl
    · split_ifs <;> rfl
  split_ifs
  · exact (hrtt _).trans h4
  · exact h4

theorem toUInt32_ne_zero {w : UInt16} (h : w ≠ 0) : w.toUInt32 ≠ 0 := by
  intro hw
  apply h
  have hn := congrArg UInt32.toNat hw
  exact UInt16.toNat_inj.1 (by simpa using hn)

variable (a : Arrival τ)

theorem alike_readSyn : s.Alike k (s.readSyn k a) :=
  ((((alike_markCE ..).trans (alike_acceptCwr _))).trans (alike_processSyn _)).trans
    alike_enterPersist

theorem readSyn_life : (s.readSyn k a).m_state = s.m_state ∧
    (s.readSyn k a).m_endPoint = s.m_endPoint ∧ (s.readSyn k a).sent = s.sent := by
  unfold readSyn
  extract_lets header s1
  have h1 : (s1.processSyn k header).toLife = s.toLife :=
    (processSyn_toLife _).trans ((acceptCwr_toLife _).trans (markCE_toLife ..))
  have hkeep := enterPersist_keeps (s := s1.processSyn k header)
  exact ⟨hkeep.1.trans (congrArg Life.m_state h1), hkeep.2.trans (congrArg Life.m_endPoint h1),
    enterPersist_sent.trans (congrArg Life.sent h1)⟩

theorem readSyn_toLife (hw : a.segment.header.windowSize ≠ 0) :
    (s.readSyn k a).toLife = s.toLife := by
  unfold readSyn
  extract_lets header s1
  have h1 : (s1.processSyn k header).toLife = s.toLife :=
    (processSyn_toLife _).trans ((acceptCwr_toLife _).trans (markCE_toLife ..))
  have hopen : (s1.processSyn k header).enterPersist = s1.processSyn k header := by
    unfold enterPersist
    rw [if_neg]
    rw [processSyn_rWnd]
    exact fun hc => toUInt32_ne_zero hw hc.1
  rw [hopen, h1]

end Hears

section Meets
variable (a : Arrival τ)

theorem Waiting.reset (h : s.Waiting k G) (ha : a.segment.header.flags = { RST := true }) :
    (s.arrive k a).Waiting k G := by
  by_cases he : s.m_endPoint = none
  · unfold TcpSocketBase.arrive
    rwa [if_pos he]
  have hstate : s.m_state = G.state := h.state.resolve_right fun hc => he hc.2
  rw [arrive_reset he (.inr (hstate ▸ G.opening)) a ha]
  have hseen : ∀ s1 : TcpSocketBase τ χ ε, s.Alike k s1 → s1.toLife = s.toLife →
      ((s1.enterPersist.dispatch k a).leavePersist k).Waiting k G := by
    intro s1 ha1 hl1
    have hkeep := enterPersist_keeps (s := s1)
    have hs1 : s1.enterPersist.m_state = G.state :=
      hkeep.1.trans ((congrArg Life.m_state hl1).trans hstate)
    have he1 : s1.enterPersist.m_endPoint ≠ none := by
      rwa [hkeep.2, show s1.m_endPoint = s.m_endPoint from congrArg Life.m_endPoint hl1]
    have hu : s1.enterPersist.Unmet k G :=
      h.toUnmet.of_alike (ha1.trans alike_enterPersist)
        (enterPersist_sent.trans (congrArg Life.sent hl1))
    have hclose : s1.enterPersist.dispatch k a = s1.enterPersist.closeAndNotify := by
      unfold dispatch
      rw [hs1]
      rcases G.opening with hG | hG <;> rw [hG]
      · simp [processSynSent, refuse, ha, Flags.maskPush]
      · simp [processSynRcvd, ha, Flags.mask, Flags.maskPush]
    have hend := closeAndNotify_life (s := s1.enterPersist)
    have ht : s1.enterPersist.closeAndNotify.timers = {} := by rw [hend.2.2.2, if_neg he1]
    rw [hclose, leavePersist_none (by rw [ht])]
    exact hu.closeAndNotify.waiting hend.2.1 hend.2.2.1 ht
  exact hseen _ ((alike_markCE ..).trans (alike_acceptCwr _))
    ((acceptCwr_toLife _).trans (markCE_toLife ..))

theorem Unmet.syns (h : s.Unmet k G) :
    ∀ g ∈ s.sent, g.header.flags.SYN = true → g.header.sequenceNumber = G.seq := by
  intro g hg hsyn
  rcases h.sent g hg with hsend | hrst
  · exact hsend.2.1
  · rw [hrst] at hsyn
    cases hsyn

theorem Unmet.completeHandshake (h : s.Unmet k G) (he : s.m_endPoint ≠ none)
    (iss : SequenceNumber32) (tcpflags : Flags) :
    (s.completeHandshake k iss tcpflags).toLife.Joined iss G.seq := by
  unfold TcpSocketBase.completeHandshake
  extract_lets _ s1 s2 s3 s4 s5
  have h2 : s2.toLife.Joined iss G.seq :=
    ⟨⟨⟨nofun, nofun, nofun⟩, nofun⟩, fun _ => he, rfl, rfl, h.syns⟩
  have h3 : Moves s2.toLife s3.toLife := moves_sendEmptyPacket _ rfl
  have h5 : Moves s3.toLife (s4.sendPendingData k s4.m_connected).toLife :=
    (moves_sendPendingData (s := s4) _).1
  have h6 : Moves (s4.sendPendingData k s4.m_connected).toLife s5.toLife := moves_connectionSucceeded
  exact Moves.keeps ((h3.trans h5).trans h6) (fun hm => hm.joined) h2

theorem Waiting.synAck (h : s.Waiting k G) (hG : G.state = .SYN_SENT) {iss : SequenceNumber32}
    (hf : a.segment.header.flags.mask = { SYN := true, ACK := true })
    (hs : a.segment.header.sequenceNumber = iss) :
    (s.arrive k a).Waiting k G ∨ (s.arrive k a).toLife.Joined iss G.seq := by
  by_cases he : s.m_endPoint = none
  · unfold TcpSocketBase.arrive
    rw [if_pos he]
    exact .inl h
  have hstate : s.m_state = .SYN_SENT := (h.state.resolve_right fun hc => he hc.2).trans hG
  have hsyn : a.segment.header.flags.SYN = true := congrArg Flags.SYN hf
  have hack : a.segment.header.flags.ACK = true := congrArg Flags.ACK hf
  rw [arrive_syn he (.inr (.inl hstate)) a hsyn]
  obtain ⟨hs1, he1, hsent1⟩ := readSyn_life (k := k) (s := s) a
  have hu : (s.readSyn k a).Unmet k G := h.toUnmet.of_alike (alike_readSyn a) hsent1
  generalize s.readSyn k a = s1 at hs1 he1 hu
  unfold dispatch
  rw [hs1.trans hstate]
  dsimp only
  unfold processSynSent
  extract_lets header tcpflags _
  have hsyn' : tcpflags.SYN = true := hsyn
  have hack' : tcpflags.ACK = true := hack
  rw [if_neg (by intro hc; rw [hc] at hsyn'; cases hsyn'), if_neg (by simp [hsyn']),
    if_neg (by simp [hack'])]
  split_ifs
  · have hj := hu.completeHandshake (he1 ▸ he) header.sequenceNumber tcpflags
    rw [show header.sequenceNumber = iss from hs] at hj ⊢
    exact .inr (moves_leavePersist.keeps (fun hm => hm.joined) hj)
  · refine .inl ?_
    have hw : (s1.refuse k (tcpflags.RST = true)).Waiting k G := hu.refuse (he1 ▸ he) _
    rwa [leavePersist_none]
    exact hw.idle.none.1

theorem Unmet.answer (h : s.Unmet k G) (hG : G.flags = { SYN := true, ACK := true })
    (hwin : ∀ w, G.window w) (hstate : s.m_state = G.state) (hidle : s.timers.Idle)
    (hretx : ∀ handler due, s.timers.m_retxEvent = some (handler, due) →
      ∃ flags, handler = .sendEmptyPacket flags ∧ flags.mask = G.flags)
    (seq : SequenceNumber32) (flags : Flags) :
    ((s.setNextRx k seq).sendSynAck k flags).Waiting k G := by
  have h1 : (s.setNextRx k seq).Waiting k G :=
    ⟨⟨h.connected, h.next, hwin _, h.sent, h.told⟩, .inl hstate, hidle, hretx⟩
  unfold TcpSocketBase.sendSynAck
  split_ifs
  · have hecn : ({ SYN := true, ACK := true, ECE := true } : Flags).mask = G.flags := hG.symm
    exact (h1.sendSyn hecn).of_alike (alike_setEcnState _) rfl
  · have hplain : ({ SYN := true, ACK := true } : Flags).mask = G.flags := hG.symm
    have h2 := h1.of_alike (alike_setEcnState .ECN_DISABLED) rfl
    exact h2.sendSyn hplain

theorem Waiting.syn (h : s.Waiting k G) (hG : G.flags = { SYN := true, ACK := true })
    (hG' : G.state = .SYN_RCVD) (hwin : ∀ w, G.window w)
    (hf : a.segment.header.flags.mask = { SYN := true })
    (hw : a.segment.header.windowSize ≠ 0) : (s.arrive k a).Waiting k G := by
  by_cases he : s.m_endPoint = none
  · unfold TcpSocketBase.arrive
    rwa [if_pos he]
  have hstate : s.m_state = .SYN_RCVD := (h.state.resolve_right fun hc => he hc.2).trans hG'
  have hsyn : a.segment.header.flags.SYN = true := congrArg Flags.SYN hf
  rw [arrive_syn he (.inr (.inr hstate)) a hsyn]
  have h1 : (s.readSyn k a).Waiting k G := h.of_alike (alike_readSyn a) (readSyn_toLife a hw)
  have hs1 : (s.readSyn k a).m_state = .SYN_RCVD := (readSyn_life a).1.trans hstate
  generalize s.readSyn k a = s1 at h1 hs1
  unfold dispatch
  rw [hs1]
  dsimp only
  unfold processSynRcvd
  extract_lets header tcpflags _
  have hmask : tcpflags = { SYN := true } := hf
  rw [hmask, if_neg (by simp), if_pos rfl]
  have h2 := h1.toUnmet.answer hG hwin (hs1.trans hG'.symm) h1.idle h1.retx header.sequenceNumber
    header.flags
  rwa [leavePersist_none]
  exact h2.idle.none.1

theorem processListen_waiting {f : TcpSocketBase τ χ ε} (hconn : s.m_connected = false)
    (hnext : s.m_tcb.m_nextTxSequence = G.seq) (hG : G.flags = { SYN := true, ACK := true })
    (hG' : G.state = .SYN_RCVD) (hwin : ∀ w, G.window w) (hf : s.processListen k a = some f) :
    f.Waiting k G := by
  unfold processListen at hf
  split_ifs at hf
  obtain rfl := Option.some.inj hf
  have ha := alike_readSyn (k := k) (s := s) a
  have hconn1 := ha.connected.trans hconn
  have hnext1 := ha.next.trans hnext
  generalize s.readSyn k a = s1 at hconn1 hnext1
  unfold completeFork
  extract_lets s2
  have hu : s2.Unmet k G := ⟨hconn1, hnext1, hwin _, List.forall_mem_nil _, List.not_mem_nil⟩
  exact hu.answer hG hwin hG'.symm rfl nofun _ _

end Meets

end TcpSocketBase

section Born

/-- A socket that a listening one has made: it never waits for an answer to a SYN of its own. -/
structure Life.Born (l : Life) : Prop where
  wired : l.Wired
  state : l.m_state ≠ .LISTEN ∧ l.m_state ≠ .SYN_SENT

theorem OpeningEdge.born {a b : TcpStates} (h : OpeningEdge a b) : b ≠ .LISTEN ∧ b ≠ .SYN_SENT := by
  cases h <;> decide

theorem Move.born {l l' : Life} (h : Move l l') (hl : l.Born) : l'.Born := by
  refine ⟨h.wired hl.wired, ?_⟩
  cases h with
  | goto h =>
    rcases h with h | ⟨-, rfl⟩
    · exact ⟨h.settled.1, h.settled.2.1⟩
    · exact ⟨nofun, nofun⟩
  | closed => exact ⟨nofun, nofun⟩
  | _ => exact hl.state

theorem Opening.born {l l' : Life} (h : Opening l l') (hl : l.Born) : l'.Born := by
  refine ⟨h.wired hl.wired, ?_⟩
  cases h with
  | move h => exact (h.born hl).state
  | goto h => exact h.born
  | _ => exact hl.state

theorem Moves.rxStart {l l' : Life} (h : Moves l l') : l'.rxStart = l.rxStart := by
  induction h with
  | refl => rfl
  | tail _ hlast ih =>
    rw [← ih]
    cases hlast <;> rfl

variable {τ χ ε : Type} {k : Stack τ χ ε} {s : TcpSocketBase τ χ ε}

theorem Life.Born.step (h : s.toLife.Born) {e : SocketEvent τ} (he : ¬ e.Opens ∨ e = .destroy) :
    (s.step k e).toLife.Born := by
  rcases he with he | rfl
  · exact (TcpSocketBase.openings_step h.wired he).keeps (fun ho => ho.born) h
  · exact ⟨fun hp => absurd rfl hp, h.state⟩

theorem Life.Born.rxStart_step (h : s.toLife.Born) {e : SocketEvent τ}
    (he : e.timed = true ∨ e.used = true ∨ e.read = true) :
    (s.step k e).rxStart = s.rxStart := by
  cases e with
  | destroy => rfl
  | retx =>
    change (s.retxExpires k).rxStart = s.rxStart
    unfold TcpSocketBase.retxExpires
    split
    · rfl
    · rename_i handler due _
      extract_lets s1
      split
      · have h1 : s1.m_state ≠ .SYN_SENT := h.state.2
        exact (TcpSocketBase.moves_reTxTimeout (k := k) h1).rxStart
      · exact (TcpSocketBase.alike_sendEmptyPacket (k := k) (s := s1) _).rxStart
  | arrive | bind | connect | listen => simp [SocketEvent.timed, SocketEvent.used, SocketEvent.read] at he
  | _ => exact (TcpSocketBase.moves_step h.wired (by simp [SocketEvent.Opens])
      (by simp [SocketEvent.Shakes])).rxStart

theorem sendSynAck_rxStart (flags : Flags) : (s.sendSynAck k flags).rxStart = s.rxStart := by
  unfold TcpSocketBase.sendSynAck
  split_ifs
  · exact (TcpSocketBase.alike_sendEmptyPacket (k := k) (s := s) _).rxStart
  · exact (TcpSocketBase.alike_sendEmptyPacket (k := k) (s := s.setEcnState .ECN_DISABLED) _).rxStart

theorem acceptConnection_rxStart (a : Arrival τ) (he : s.m_endPoint ≠ none) :
    (s.acceptConnection k a).rxStart = s.rxStart := by
  unfold TcpSocketBase.acceptConnection
  extract_lets _ s1 s2 s3
  have hep : s3.m_endPoint ≠ none :=
    TcpSocketBase.connectionCreated_endPoint (s := s1.establish) _ he
  have h1 : Moves s3.toLife (s3.receivedAck k a.segment.header a.segment.size a.actions).toLife :=
    TcpSocketBase.moves_receivedAck _ _ _ hep
  have h2 := TcpSocketBase.moves_notifySend (k := k)
    (s := s3.receivedAck k a.segment.header a.segment.size a.actions)
  have hend := Moves.rxStart (h1.trans h2.1)
  exact hend.trans rfl

theorem Life.Born.rxStart_arrive (h : s.toLife.Born) (a : Arrival τ) {seq : SequenceNumber32}
    (ha : a.segment.header.flags.SYN = true → a.segment.header.sequenceNumber = seq) :
    (s.arrive k a).rxStart = s.rxStart ∨ (s.arrive k a).rxStart = some (seq + 1) := by
  refine TcpSocketBase.arrive_of_dispatch (s := s)
    (R := fun l l' => l'.rxStart = l.rxStart ∨ l'.rxStart = some (seq + 1))
    (fun _ => .inl rfl) ?_ (fun hm => .inl hm.rxStart) a ?_
  · intro l l' l'' h1 h2
    rcases h2 with h2 | h2
    · rw [h2]
      exact h1
    · exact .inr h2
  · intro s' he hstate
    by_cases hrcvd : s'.m_state = .SYN_RCVD
    · unfold TcpSocketBase.dispatch
      rw [hrcvd]
      dsimp only
      unfold TcpSocketBase.processSynRcvd
      extract_lets header tcpflags s1
      split_ifs with _ hsyn
      · exact .inl (acceptConnection_rxStart a he)
      · have hseq : header.sequenceNumber = seq := ha (congrArg Flags.SYN hsyn)
        exact .inr (hseq ▸ sendSynAck_rxStart (s := s'.setNextRx k header.sequenceNumber) _)
      · exact .inl (TcpSocketBase.moves_peerClose (s := s1) ..).rxStart
      · exact .inl rfl
      · exact .inl TcpSocketBase.moves_closeAndNotify.rxStart
      · have hrst := TcpSocketBase.moves_sendRST (k := k) (s := s'.setPeer a.segment.source)
        have hend := Moves.rxStart (hrst.trans TcpSocketBase.moves_closeAndNotify)
        exact .inl (hend.trans rfl)
    · exact .inl (TcpSocketBase.moves_dispatch a he ⟨hstate ▸ h.state.2, hrcvd⟩).rxStart

end Born

namespace TcpSocketBase
variable {τ χ ε : Type} {k : Stack τ χ ε} {s s' : TcpSocketBase τ χ ε} {iss : SequenceNumber32}

section Listens

/-- A listening socket, or one that has been closed. The only timer it may have is that of the probe. -/
structure Listening (iss : SequenceNumber32) (s : TcpSocketBase τ χ ε) : Prop where
  connected : s.m_connected = false
  next : s.m_tcb.m_nextTxSequence = iss
  state : s.m_state = .LISTEN ∨ s.m_state = .CLOSED ∧ s.m_endPoint = none
  probe : s.timers = { m_persistEvent := s.timers.m_persistEvent }

theorem Listening.of_alike (h : s.Listening iss) (ha : s.Alike k s') (hstate : s'.m_state = s.m_state)
    (he : s.m_endPoint = none → s'.m_endPoint = none)
    (ht : s'.timers = { m_persistEvent := s'.timers.m_persistEvent }) : s'.Listening iss where
  connected := ha.connected.trans h.connected
  next := ha.next.trans h.next
  state := by
    rw [hstate]
    exact h.state.imp_right fun hc => ⟨hc.1, he hc.2⟩
  probe := ht

theorem Listening.closeAndNotify (k : Stack τ χ ε) (h : s.Listening iss) :
    s.closeAndNotify.Listening iss := by
  obtain ⟨-, hstate, hep, ht⟩ := closeAndNotify_life (s := s)
  have ha : s.Alike k s.closeAndNotify := alike_closeAndNotify
  refine ⟨ha.connected.trans h.connected, ha.next.trans h.next, .inr ⟨hstate, hep⟩, ?_⟩
  rw [ht]
  split_ifs
  · rw [h.probe]
  · rfl

theorem Listening.step (h : s.Listening iss) (hw : s.toLife.Wired) {e : SocketEvent τ}
    (he : e.timed = true ∨ e.used = true ∨ e.read = true) : (s.step k e).Listening iss := by
  have hp := h.probe
  have stays : ∀ {due : Option Time} {stop handler : TcpSocketBase τ χ ε → TcpSocketBase τ χ ε},
      due = none → (s.expires due stop handler).Listening iss := by
    intro due stop handler hd
    rwa [expires_none hd]
  have hne : s.m_state ≠ .ESTABLISHED ∧ s.m_state ≠ .CLOSE_WAIT ∧ s.m_state ≠ .SYN_SENT := by
    rcases h.state with hs | ⟨hs, -⟩ <;> rw [hs] <;> exact ⟨nofun, nofun, nofun⟩
  cases e with
  | wait => exact ⟨h.connected, h.next, h.state, h.probe⟩
  | destroy => exact ⟨h.connected, h.next, h.state.imp_right fun hc => ⟨hc.1, rfl⟩, rfl⟩
  | recv | shutdownRecv => exact ⟨h.connected, h.next, h.state, h.probe⟩
  | retx =>
    change (s.retxExpires k).Listening iss
    unfold retxExpires
    rw [hp]
    exact h
  | delAck =>
    unfold TcpSocketBase.step
    exact stays (by rw [hp])
  | lastAck =>
    unfold TcpSocketBase.step
    exact stays (by rw [hp])
  | timewait =>
    unfold TcpSocketBase.step
    exact stays (by rw [hp])
  | sendPending =>
    unfold TcpSocketBase.step
    exact stays (by rw [hp])
  | send size =>
    change (s.send k size).Listening iss
    unfold send
    rw [if_neg (by simp [hne])]
    exact h
  | shutdownSend =>
    change (s.shutdownSend k).Listening iss
    unfold shutdownSend
    extract_lets s1 s2
    rw [if_neg fun hc => (not_or.2 ⟨hne.1, hne.2.1⟩) hc.2]
    exact ⟨h.connected, h.next, h.state, h.probe⟩
  | close =>
    change (s.close k).Listening iss
    unfold close
    split_ifs
    · obtain ⟨hstate, hep, ht, -⟩ := sendRST_life (k := k) (s := s)
      refine h.of_alike alike_sendRST hstate (fun _ => hep) ?_
      rw [ht]
      split_ifs
      · exact hp
      · rfl
    · exact ⟨h.connected, h.next, h.state, h.probe⟩
    · unfold doClose
      rcases h.state with hs | ⟨hs, -⟩ <;> rw [hs]
      · exact h.closeAndNotify k
      · exact h
  | persist =>
    unfold TcpSocketBase.step
    refine expires_elim (P := Listening iss) h fun due hdue => ?_
    have he : s.m_endPoint ≠ none := hw (by simp [hdue])
    unfold persistTimeout
    extract_lets item s1 header
    split
    · contradiction
    · refine ⟨h.connected, h.next, h.state, ?_⟩
      change ({ s.timers with m_persistEvent := _ } : Timers) = { m_persistEvent := _ }
      rw [hp]
  | _ => simp [SocketEvent.timed, SocketEvent.used, SocketEvent.read] at he

theorem Moves.faults {l l' : Life} (h : Moves l l') (hf : l'.faults = []) : l.faults = [] :=
  (h.openings.forward hf).1

/-- A socket that is not connected does not leave the probing of a zero window without a fault. -/
theorem leavePersist_faults (hc : s.m_connected = false) (hf : (s.leavePersist k).faults = []) :
    s.leavePersist k = s := by
  unfold leavePersist at hf ⊢
  by_cases hleave : s.m_rWnd ≠ 0 ∧ s.timers.m_persistEvent ≠ none
  · rw [if_pos hleave] at hf
    have h2 := Moves.faults (moves_sendPendingData _).1 hf
    have hfault : (s.assert (s.m_connected = true) .persistConnected).faults =
        s.faults ++ [.persistConnected] := by
      unfold assert
      rw [if_neg (by simp [hc])]
    have h1 : (s.assert (s.m_connected = true) .persistConnected).faults = [] := h2
    simp [hfault] at h1
  · rw [if_neg hleave]

theorem Listening.arrive (h : s.Listening iss) (a : Arrival τ)
    (ha : a.segment.header.flags.mask = { SYN := true } ∨ a.segment.header.flags = { RST := true })
    (hf : (s.arrive k a).faults = []) : (s.arrive k a).Listening iss := by
  by_cases he : s.m_endPoint = none
  · unfold TcpSocketBase.arrive
    rwa [if_pos he]
  have hstate : s.m_state = .LISTEN := h.state.resolve_right fun hc => he hc.2
  have hseen : ∀ s1 : TcpSocketBase τ χ ε, s.Alike k s1 → s1.toLife = s.toLife →
      ((s1.enterPersist.dispatch k a).leavePersist k).faults = [] →
      ((s1.enterPersist.dispatch k a).leavePersist k).Listening iss := by
    intro s1 ha1 hl1 hf1
    have ha2 : s.Alike k s1.enterPersist := ha1.trans alike_enterPersist
    have hs2 : s1.enterPersist.m_state = s.m_state :=
      enterPersist_keeps.1.trans (congrArg Life.m_state hl1)
    have hdispatch : s1.enterPersist.dispatch k a = s1.enterPersist := by
      unfold dispatch
      rw [hs2.trans hstate]
    rw [hdispatch] at hf1 ⊢
    rw [leavePersist_faults (ha2.connected.trans h.connected) hf1]
    refine h.of_alike ha2 hs2 (fun hn => absurd hn he) ?_
    have ht1 : s1.timers = { m_persistEvent := s1.timers.m_persistEvent } := by
      rw [show s1.timers = s.timers from congrArg Life.timers hl1]
      exact h.probe
    unfold enterPersist
    split_ifs
    · change ({ s1.timers with m_retxEvent := none, m_persistEvent := _ } : Timers) =
        { m_persistEvent := _ }
      rw [ht1]
    · exact ht1
  rcases ha with ha | ha
  · rw [arrive_syn he (.inl hstate) a (congrArg Flags.SYN ha)] at hf ⊢
    exact hseen _ (((alike_markCE ..).trans (alike_acceptCwr _)).trans (alike_processSyn _))
      ((processSyn_toLife _).trans ((acceptCwr_toLife _).trans (markCE_toLife ..))) hf
  · rw [arrive_reset he (.inl hstate) a ha] at hf ⊢
    exact hseen _ ((alike_markCE ..).trans (alike_acceptCwr _))
      ((acceptCwr_toLife _).trans (markCE_toLife ..)) hf

end Listens

end TcpSocketBase

end NetSessional.Tcp
