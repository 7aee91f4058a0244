import NetSessional.Tcp.ThreeWay

/-! The handshake is never stuck: while the client has attempts left and the server listens, a few more events
connect both ends, whatever has been lost. -/

namespace NetSessional.Tcp
open Vegas Runs

theorem Moves.sent_prefix {l l' : Life} (h : Moves l l') : l.sent <+: l'.sent := by
  have hmove : ∀ {a b : Life}, Move a b → l.sent <+: a.sent → l.sent <+: b.sent := by
    intro a b hm hp
    cases hm with
    | transmit => exact hp.trans (List.prefix_append ..)
    | goto | closed | notify | notifyClose | retime | release | assert => exact hp
  exact h.keeps (I := fun m : Life => l.sent <+: m.sent) hmove (List.prefix_refl _)

theorem Moves.connected {l l' : Life} (h : Moves l l') (hl : l.m_connected = true) :
    l'.m_connected = true := by
  have hmove : ∀ {a b : Life}, Move a b → a.m_connected = true → b.m_connected = true := by
    intro a b hm ha
    cases hm <;> exact ha
  exact h.keeps (I := fun m : Life => m.m_connected = true) hmove hl

namespace TcpSocketBase
variable {τ χ ε : Type} {k : Stack τ χ ε} {s s' : TcpSocketBase τ χ ε} {G : Greeting}

section Says

/-- What a segment without data says, and to whom. -/
structure Says (k : Stack τ χ ε) (s : TcpSocketBase τ χ ε) (e : EndPoint) (flags : Flags)
    (g : TcpSegment) : Prop where
  flags : g.header.flags = flags
  ackNumber : g.header.ackNumber = k.nextRxSequence s.m_rxBuffer
  ts : g.header.ts.isSome = s.m_timestampEnabled
  source : g.source = e.localName
  destination : g.destination = e.peer

structure Likewise (s s' : TcpSocketBase τ χ ε) : Prop where
  rxBuffer : s'.m_rxBuffer = s.m_rxBuffer
  timestamp : s'.m_timestampEnabled = s.m_timestampEnabled
  sent : s'.sent = s.sent
  endPoint : s'.m_endPoint = s.m_endPoint

theorem Says.of_likewise {e : EndPoint} {flags : Flags} {g : TcpSegment} (h : s'.Says k e flags g)
    (hs : s.Likewise s') : s.Says k e flags g := by
  refine ⟨h.flags, ?_, ?_, h.source, h.destination⟩
  · rw [h.ackNumber, hs.rxBuffer]
  · rw [h.ts, hs.timestamp]

theorem says_emitEmpty (e : EndPoint) (flags : Flags) (seq : SequenceNumber32) :
    ∃ g, (s.emitEmpty k e flags seq).sent = s.sent ++ [g] ∧ s.Says k e flags g ∧
      (s.emitEmpty k e flags seq).m_timestampEnabled = s.m_timestampEnabled := by
  obtain ⟨h, hsent, hflags, hnumber, hts⟩ := emitEmpty_sends (k := k) (s := s) e flags seq
  refine ⟨_, hsent, ⟨hflags, hnumber, hts, rfl, rfl⟩, ?_⟩
  unfold emitEmpty
  extract_lets h0 h1 s1 s2
  have h1 : s1.m_timestampEnabled = s.m_timestampEnabled := by
    unfold s1
    split_ifs <;> rfl
  split_ifs
  · exact h1
  · exact h1

theorem likewise_countSyn (seq : SequenceNumber32) : s.Likewise (s.countSyn k seq) := by
  unfold countSyn updateRttHistory
  extract_lets s1
  split_ifs <;> exact ⟨rfl, rfl, rfl, rfl⟩

theorem says_sendEmptyPacket {e : EndPoint} (he : s.m_endPoint = some e) {flags : Flags}
    (hfin : flags.FIN = false) (hcount : flags.SYN = true → s.m_synCount ≠ 0) :
    ∃ g, (s.sendEmptyPacket k flags).sent = s.sent ++ [g] ∧ s.Says k e flags g ∧
      (s.sendEmptyPacket k flags).m_timestampEnabled = s.m_timestampEnabled ∧
      (s.sendEmptyPacket k flags).m_endPoint = some e := by
  unfold sendEmptyPacket
  split
  · rename_i hnone
    rw [hnone] at he
    cases he
  · rename_i e' hsome
    obtain rfl : e' = e := Option.some.inj (hsome.symm.trans he)
    extract_lets closing seq flags' s1 s2
    have hflags : flags' = flags := if_neg (by simp [hfin])
    clear_value flags'
    subst hflags
    have hout : ∀ t : TcpSocketBase τ χ ε, s.Likewise t →
        ∃ g, (t.emitEmpty k e' flags' seq).sent = s.sent ++ [g] ∧ s.Says k e' flags' g ∧
          (t.emitEmpty k e' flags' seq).m_timestampEnabled = s.m_timestampEnabled ∧
          (t.emitEmpty k e' flags' seq).m_endPoint = some e' := by
      intro t ht
      obtain ⟨g, hsent, hg, hts⟩ := says_emitEmpty (k := k) (s := t) e' flags' seq
      exact ⟨g, ht.sent ▸ hsent, hg.of_likewise ht, hts.trans ht.timestamp,
        (emitEmpty_keeps e' flags' seq).2.trans (ht.endPoint.trans hsome)⟩
    have h2 : s.Likewise s2 ∧ s2.m_synCount = s.m_synCount := by
      unfold s2
      split_ifs <;> exact ⟨⟨rfl, rfl, rfl, rfl⟩, rfl⟩
    obtain ⟨h2, hcount2⟩ := h2
    split_ifs with hsyn hzero
    · exact absurd (hcount2.symm.trans hzero) (hcount hsyn)
    · have h3 := likewise_countSyn (k := k) (s := s2) seq
      exact hout _ ⟨h3.rxBuffer.trans h2.rxBuffer, h3.timestamp.trans h2.timestamp,
        h3.sent.trans h2.sent, h3.endPoint.trans h2.endPoint⟩
    · exact hout s1 ⟨rfl, rfl, rfl, rfl⟩

theorem Waiting.says_retx (h : s.Waiting k G) {e : EndPoint} (he : s.m_endPoint = some e)
    (hcount : s.m_synCount ≠ 0) (hretx : s.timers.m_retxEvent ≠ none) :
    ∃ g flags, (s.step k .retx).sent = s.sent ++ [g] ∧ s.Says k e flags g ∧ flags.mask = G.flags ∧
      (s.step k .retx).m_timestampEnabled = s.m_timestampEnabled ∧
      (s.step k .retx).m_endPoint = some e := by
  obtain ⟨⟨handler, due⟩, hsome⟩ := Option.ne_none_iff_exists'.1 hretx
  obtain ⟨flags, rfl, hmask⟩ := h.retx handler due hsome
  have hfin : flags.FIN = false := (mask_syn hmask).2.trans G.fin
  obtain ⟨g, hsent, hg, hts, hep⟩ := says_sendEmptyPacket (k := k)
    (s := { s with now := max s.now due }.cancelRetx) he hfin fun _ => hcount
  have hstep : s.step k .retx = ({ s with now := max s.now due }.cancelRetx).sendEmptyPacket k flags := by
    change s.retxExpires k = _
    unfold TcpSocketBase.retxExpires
    rw [hsome]
  rw [hstep]
  exact ⟨g, flags, hsent, hg.of_likewise ⟨rfl, rfl, rfl, rfl⟩, hmask, hts, hep⟩

end Says

section Reads
variable (a : Arrival τ)

theorem processSyn_keeps (header : TcpHeader) :
    (s.processSyn k header).m_timestampEnabled = (s.m_timestampEnabled && header.ts.isSome) ∧
      (s.processSyn k header).m_synCount = s.m_synCount ∧
      (s.processSyn k header).m_synRetries = s.m_synRetries := by
  unfold processSyn
  extract_lets s1 s2 s3 s4 cWnd _ s5
  have hrtt : ∀ s : TcpSocketBase τ χ ε,
      (s.estimateRtt k header).m_timestampEnabled = s.m_timestampEnabled ∧
        (s.estimateRtt k header).m_synCount = s.m_synCount ∧
        (s.estimateRtt k header).m_synRetries = s.m_synRetries := by
    intro s
    unfold estimateRtt
    extract_lets m s1
    clear_value m
    split
    · exact ⟨rfl, rfl, rfl⟩
    · split_ifs <;> exact ⟨rfl, rfl, rfl⟩
  have hstamp : ∀ ts seq, (s3.processOptionTimestamp k ts seq).m_timestampEnabled = s3.m_timestampEnabled ∧
      (s3.processOptionTimestamp k ts seq).m_synCount = s3.m_synCount ∧
      (s3.processOptionTimestamp k ts seq).m_synRetries = s3.m_synRetries := by
    intro ts seq
    unfold processOptionTimestamp
    split_ifs <;> exact ⟨rfl, rfl, rfl⟩
  have h2 : s2.m_timestampEnabled = s.m_timestampEnabled ∧ s2.m_synCount = s.m_synCount ∧
      s2.m_synRetries = s.m_synRetries := by
    unfold s2
    split <;> exact ⟨rfl, rfl, rfl⟩
  have h3 : s3.m_timestampEnabled = s.m_timestampEnabled ∧ s3.m_synCount = s.m_synCount ∧
      s3.m_synRetries = s.m_synRetries := by
    unfold s3
    split_ifs
    · exact h2
    · exact h2
  have h4 : s4.m_timestampEnabled = (s.m_timestampEnabled && header.ts.isSome) ∧
      s4.m_synCount = s.m_synCount ∧ s4.m_synRetries = s.m_synRetries := by
    unfold s4
    split
    · rename_i ts hon hts
      obtain ⟨hkeep, hcount, hretries⟩ := hstamp ts header.sequenceNumber
      refine ⟨?_, hcount.trans h3.2.1, hretries.trans h3.2.2⟩
      rw [hkeep, hon, ← h3.1, hon, hts]
      rfl
    · rename_i hoff
      refine ⟨?_, h3.2.1, h3.2.2⟩
      rw [← h3.1]
      cases hon : s3.m_timestampEnabled with
      | false => rfl
      | true =>
        cases hts : header.ts with
        | none => rfl
        | some ts => exact absurd hts (hoff ts hon)
  split_ifs
  · obtain ⟨hkeep, hcount, hretries⟩ := hrtt { s5 with m_highRxAckMark := header.ackNumber }
    exact ⟨hkeep.trans h4.1, hcount.trans h4.2.1, hretries.trans h4.2.2⟩
  · exact h4

theorem readSyn_keeps :
    (s.readSyn k a).m_timestampEnabled = (s.m_timestampEnabled && a.segment.header.ts.isSome) ∧
      (s.readSyn k a).m_synCount = s.m_synCount ∧ (s.readSyn k a).m_synRetries = s.m_synRetries := by
  unfold readSyn
  extract_lets header s1
  have h1 : s1.m_timestampEnabled = s.m_timestampEnabled ∧ s1.m_synCount = s.m_synCount ∧
      s1.m_synRetries = s.m_synRetries := by
    unfold s1 acceptCwr markCE
    split_ifs <;> exact ⟨rfl, rfl, rfl⟩
  have h2 := processSyn_keeps (k := k) (s := s1) header
  rw [h1.1, h1.2.1, h1.2.2] at h2
  unfold enterPersist
  split_ifs
  · exact h2
  · exact h2

end Reads

section Replies

/-- A socket of the server that has answered the SYN `g` of a client with `r`. -/
structure Replied (k : Stack τ χ ε) (iss : SequenceNumber32) (g r : TcpSegment)
    (f : TcpSocketBase τ χ ε) : Prop where
  waiting : f.Waiting k (Net.answer iss)
  name : f.m_endPoint = some ⟨g.destination, g.source⟩
  sent : r ∈ f.sent
  flags : r.header.flags.mask = { SYN := true, ACK := true }
  ackNumber : r.header.ackNumber = g.header.sequenceNumber + 1
  ts : f.m_timestampEnabled = true → r.header.ts.isSome = true ∧ g.header.ts.isSome = true

theorem says_sendSynAck {e : EndPoint} (he : s.m_endPoint = some e) (hcount : s.m_synCount ≠ 0)
    (flags : Flags) :
    ∃ g, g ∈ (s.sendSynAck k flags).sent ∧ g.header.flags.mask = { SYN := true, ACK := true } ∧
      g.header.ackNumber = k.nextRxSequence s.m_rxBuffer ∧
      g.header.ts.isSome = s.m_timestampEnabled ∧
      (s.sendSynAck k flags).m_timestampEnabled = s.m_timestampEnabled ∧
      (s.sendSynAck k flags).m_endPoint = some e := by
  unfold sendSynAck
  split_ifs
  · obtain ⟨g, hsent, hg, hts, hep⟩ := says_sendEmptyPacket (k := k) he
      (show Flags.FIN { SYN := true, ACK := true, ECE := true } = false from rfl) fun _ => hcount
    refine ⟨g, ?_, by rw [hg.flags]; rfl, hg.ackNumber, hg.ts, hts, hep⟩
    change g ∈ (s.sendEmptyPacket k _).sent
    rw [hsent]
    exact List.mem_append_right _ (List.mem_singleton_self g)
  · obtain ⟨g, hsent, hg, hts, hep⟩ := says_sendEmptyPacket (k := k)
      (s := s.setEcnState .ECN_DISABLED) he
      (show Flags.FIN { SYN := true, ACK := true } = false from rfl) fun _ => hcount
    refine ⟨g, ?_, by rw [hg.flags]; rfl, hg.ackNumber, hg.ts, hts, hep⟩
    rw [hsent]
    exact List.mem_append_right _ (List.mem_singleton_self g)

variable (a : Arrival τ) {iss : SequenceNumber32}

theorem replied_sendSynAck {g : TcpSegment} {flags : Flags}
    (hseq : ∀ b seq, k.nextRxSequence (k.setNextRxSequence b seq) = seq)
    (hw : ((s.setNextRx k g.header.sequenceNumber).sendSynAck k flags).Waiting k (Net.answer iss))
    (he : s.m_endPoint = some ⟨g.destination, g.source⟩) (hcount : s.m_synCount ≠ 0)
    (hts : s.m_timestampEnabled = true → g.header.ts.isSome = true) :
    ∃ r, Replied k iss g r ((s.setNextRx k g.header.sequenceNumber).sendSynAck k flags) := by
  obtain ⟨r, hr, hflags, hack, hrts, hkeep, hep⟩ := says_sendSynAck (k := k)
    (s := s.setNextRx k g.header.sequenceNumber) he hcount flags
  refine ⟨r, hw, hep, hr, hflags, hack.trans (hseq ..), fun hon => ?_⟩
  rw [hkeep] at hon
  exact ⟨hrts.trans hon, hts hon⟩

theorem Waiting.arrive_again (h : s.Waiting k (Net.answer iss)) (he : s.m_endPoint ≠ none)
    (hf : a.segment.header.flags.mask = { SYN := true }) (hw : a.segment.header.windowSize ≠ 0) :
    s.arrive k a = ((s.readSyn k a).setNextRx k a.segment.header.sequenceNumber).sendSynAck k
        a.segment.header.flags ∧
      (s.arrive k a).Waiting k (Net.answer iss) := by
  have hstate : s.m_state = .SYN_RCVD := h.state.resolve_right fun hc => he hc.2
  have hsyn : a.segment.header.flags.SYN = true := congrArg Flags.SYN hf
  have hlife : (s.readSyn k a).toLife = s.toLife := readSyn_toLife a hw
  have h1 : (s.readSyn k a).Waiting k (Net.answer iss) := h.of_alike (alike_readSyn a) hlife
  have hs1 : (s.readSyn k a).m_state = .SYN_RCVD := (congrArg Life.m_state hlife).trans hstate
  rw [arrive_syn he (.inr (.inr hstate)) a hsyn]
  generalize s.readSyn k a = s1 at h1 hs1
  have hdispatch : s1.dispatch k a =
      (s1.setNextRx k a.segment.header.sequenceNumber).sendSynAck k a.segment.header.flags := by
    unfold dispatch
    rw [hs1]
    dsimp only
    unfold processSynRcvd
    extract_lets header tcpflags _
    rw [show tcpflags = { SYN := true } from hf, if_neg (by simp), if_pos rfl]
  have h2 := h1.toUnmet.answer rfl (fun _ => trivial) hs1 h1.idle h1.retx
    a.segment.header.sequenceNumber a.segment.header.flags
  rw [hdispatch, leavePersist_none h2.idle.none.1]
  exact ⟨rfl, h2⟩

theorem Waiting.replies (h : s.Waiting k (Net.answer iss))
    (hseq : ∀ b seq, k.nextRxSequence (k.setNextRxSequence b seq) = seq)
    (he : s.m_endPoint = some ⟨a.segment.destination, a.segment.source⟩) (hcount : s.m_synCount ≠ 0)
    (hf : a.segment.header.flags.mask = { SYN := true }) (hw : a.segment.header.windowSize ≠ 0) :
    ∃ r, Replied k iss a.segment r (s.arrive k a) := by
  have hne : s.m_endPoint ≠ none := by simp [he]
  obtain ⟨harrive, hwait⟩ := h.arrive_again a hne hf hw
  obtain ⟨hts, hcount1, -⟩ := readSyn_keeps (k := k) (s := s) a
  have he1 := (readSyn_life (k := k) (s := s) a).2.1.trans he
  rw [harrive] at hwait ⊢
  exact replied_sendSynAck hseq hwait he1 (hcount1.symm ▸ hcount) fun hon =>
    (Bool.and_eq_true_iff.1 (hts ▸ hon)).2

theorem Waiting.gives_up (h : s.Waiting k (Net.answer iss)) (he : s.m_endPoint ≠ none)
    (hcount : s.m_synCount = 0) (hf : a.segment.header.flags.mask = { SYN := true })
    (hw : a.segment.header.windowSize ≠ 0) : (s.arrive k a).m_endPoint = none := by
  rw [(h.arrive_again a he hf hw).1]
  have hcount1 := (readSyn_keeps (k := k) (s := s) a).2.1.trans hcount
  have he1 : (s.readSyn k a).m_endPoint ≠ none := by rwa [(readSyn_life a).2.1]
  have hfail : ∀ t : TcpSocketBase τ χ ε, t.m_endPoint ≠ none → t.m_synCount = 0 →
      ∀ flags : Flags, flags.SYN = true → flags.FIN = false →
        (t.sendEmptyPacket k flags).m_endPoint = none := by
    intro t ht htc flags hsyn hfin
    rw [(sendEmptyPacket_failed ht hsyn hfin htc).1]
  unfold sendSynAck
  split_ifs
  · exact hfail ((s.readSyn k a).setNextRx k a.segment.header.sequenceNumber) he1 hcount1
      { SYN := true, ACK := true, ECE := true } rfl rfl
  · exact hfail (((s.readSyn k a).setNextRx k a.segment.header.sequenceNumber).setEcnState
      .ECN_DISABLED) he1 hcount1 { SYN := true, ACK := true } rfl rfl

theorem processListen_replies (hl : s.Listening iss) (hstate : s.m_state = .LISTEN)
    (he : s.m_endPoint ≠ none) (hretries : s.m_synRetries ≠ 0)
    (hseq : ∀ b seq, k.nextRxSequence (k.setNextRxSequence b seq) = seq)
    (hf : a.segment.header.flags.mask = { SYN := true }) :
    ∃ f r, s.processListen k a = some f ∧ Replied k iss a.segment r f := by
  have hlisten : s.processListen k a = some ((s.readSyn k a).fork.completeFork k a.segment) := by
    unfold processListen
    rw [if_pos ⟨he, hstate, hf⟩]
  have hwait : ((s.readSyn k a).fork.completeFork k a.segment).Waiting k (Net.answer iss) :=
    processListen_waiting a hl.connected hl.next rfl rfl (fun _ => trivial) hlisten
  obtain ⟨hts, -, hretries1⟩ := readSyn_keeps (k := k) (s := s) a
  have hreplied := replied_sendSynAck (g := a.segment) (s := { (s.readSyn k a).fork with
    m_endPoint := some ⟨a.segment.destination, a.segment.source⟩
    m_state := .SYN_RCVD
    m_synCount := (s.readSyn k a).fork.m_synRetries
    m_dataRetrCount := (s.readSyn k a).fork.m_dataRetries }) hseq hwait rfl
    (hretries1.symm ▸ hretries) fun hon => (Bool.and_eq_true_iff.1 (hts ▸ hon)).2
  obtain ⟨r, hr⟩ := hreplied
  exact ⟨_, r, hlisten, hr⟩

end Replies

section Meets

variable (a : Arrival τ) {iss : SequenceNumber32}

theorem completeHandshake_says {e : EndPoint} (he : s.m_endPoint = some e)
    (hseq : ∀ b seq, k.nextRxSequence (k.setNextRxSequence b seq) = seq) (seq : SequenceNumber32)
    (tcpflags : Flags) :
    ∃ g ∈ (s.completeHandshake k seq tcpflags).sent, g.header.flags = { ACK := true } ∧
      g.header.ackNumber = seq + 1 ∧ g.header.ts.isSome = s.m_timestampEnabled ∧
      g.source = e.localName ∧ g.destination = e.peer := by
  unfold completeHandshake
  extract_lets _ s1 s2 s3 s4 s5
  obtain ⟨g, hsent, hg, -⟩ := says_sendEmptyPacket (k := k) (s := s2) he
    (show Flags.FIN { ACK := true } = false from rfl) nofun
  have h5 : Moves s3.toLife (s4.sendPendingData k s4.m_connected).toLife :=
    (moves_sendPendingData (s := s4) _).1
  have h6 : Moves (s4.sendPendingData k s4.m_connected).toLife s5.toLife := moves_connectionSucceeded
  refine ⟨g, (Moves.sent_prefix (h5.trans h6)).subset ?_, hg.flags, hg.ackNumber.trans (hseq ..), hg.ts,
    hg.source, hg.destination⟩
  rw [hsent]
  exact List.mem_append_right _ (List.mem_singleton_self g)

theorem Waiting.meets {seq : SequenceNumber32} (h : s.Waiting k (Net.call seq))
    (hseq : ∀ b seq, k.nextRxSequence (k.setNextRxSequence b seq) = seq) {e : EndPoint}
    (he : s.m_endPoint = some e) (hf : a.segment.header.flags.mask = { SYN := true, ACK := true })
    (hack : a.segment.header.ackNumber = seq + 1) :
    (s.arrive k a).m_connected = true ∧
      ∃ g ∈ (s.arrive k a).sent, g.header.flags = { ACK := true } ∧
        g.header.ackNumber = a.segment.header.sequenceNumber + 1 ∧
        (s.m_timestampEnabled = true → a.segment.header.ts.isSome = true →
          g.header.ts.isSome = true) ∧
        g.source = e.localName ∧ g.destination = e.peer := by
  have hne : s.m_endPoint ≠ none := by simp [he]
  have hstate : s.m_state = .SYN_SENT := h.state.resolve_right fun hc => hne hc.2
  have hsyn : a.segment.header.flags.SYN = true := congrArg Flags.SYN hf
  have hackf : a.segment.header.flags.ACK = true := congrArg Flags.ACK hf
  rw [arrive_syn hne (.inr (.inl hstate)) a hsyn]
  obtain ⟨hs1, he1, hsent1⟩ := readSyn_life (k := k) (s := s) a
  obtain ⟨hts, -, -⟩ := readSyn_keeps (k := k) (s := s) a
  have ha1 : s.Alike k (s.readSyn k a) := alike_readSyn a
  have hu : (s.readSyn k a).Unmet k (Net.call seq) := h.toUnmet.of_alike ha1 hsent1
  generalize s.readSyn k a = s1 at hs1 he1 hts hu ha1
  have hdispatch : ∃ tcpflags, s1.dispatch k a =
      s1.completeHandshake k a.segment.header.sequenceNumber tcpflags := by
    refine ⟨a.segment.header.flags.maskPush, ?_⟩
    unfold dispatch
    rw [hs1.trans hstate]
    dsimp only
    unfold processSynSent
    extract_lets header tcpflags _
    have hsyn' : tcpflags.SYN = true := hsyn
    have hack' : tcpflags.ACK = true := hackf
    have hnext : s1.m_tcb.m_nextTxSequence + 1 = header.ackNumber := by rw [hu.next, hack]; rfl
    rw [if_neg (by intro hc; rw [hc] at hsyn'; cases hsyn'), if_neg (by simp [hsyn']),
      if_neg (by simp [hack']), if_pos ⟨.inl hsyn', hnext⟩]
  obtain ⟨tcpflags, hdispatch⟩ := hdispatch
  have hne1 : s1.m_endPoint ≠ none := he1.symm ▸ hne
  have hj := hu.completeHandshake hne1 a.segment.header.sequenceNumber tcpflags
  obtain ⟨g, hg, hflags, hgack, hgts, hsource, hdest⟩ := completeHandshake_says (k := k)
    (he1.trans he) hseq a.segment.header.sequenceNumber tcpflags
  rw [hdispatch]
  have hleave := moves_leavePersist (k := k)
    (s := s1.completeHandshake k a.segment.header.sequenceNumber tcpflags)
  refine ⟨Moves.connected hleave hj.connected, g, (Moves.sent_prefix hleave).subset hg, hflags, hgack,
    fun hon hats => ?_, hsource, hdest⟩
  rw [hgts, hts, hon, hats]
  rfl

theorem alike_updateWindowSize (header : TcpHeader) : s.Alike k (s.updateWindowSize k header) := by
  unfold updateWindowSize
  extract_lets
  split_ifs <;> exact ⟨rfl, rfl, rfl, rfl, rfl, id⟩

theorem processAckHeader_reads {header : TcpHeader}
    (hts : s.m_timestampEnabled = true → header.ts.isSome = true) :
    ∃ s1, s.processAckHeader k header = some s1 ∧ s.Alike k s1 := by
  have hread : ∀ t : TcpSocketBase τ χ ε, s.Alike k t →
      s.Alike k ((t.estimateRtt k header).updateWindowSize k header) := fun t ht =>
    (ht.trans (alike_estimateRtt _)).trans (alike_updateWindowSize _)
  unfold processAckHeader
  split
  · rename_i hon hnone
    have := hts hon
    rw [hnone] at this
    cases this
  · exact ⟨_, rfl, hread _ (alike_processOptionTimestamp ..)⟩
  · exact ⟨_, rfl, hread _ (.refl s)⟩

theorem readHeader_ack {header : TcpHeader} (hf : header.flags = { ACK := true })
    (hts : s.m_timestampEnabled = true → header.ts.isSome = true) :
    ∃ s1, s.readHeader k header = some s1 ∧ s.Alike k s1 := by
  unfold readHeader
  extract_lets s1
  have h1 : s.Alike k s1 ∧ s1.m_timestampEnabled = s.m_timestampEnabled := by
    unfold s1 acceptCwr
    split_ifs <;> exact ⟨⟨rfl, rfl, rfl, rfl, rfl, id⟩, rfl⟩
  rw [if_neg (by simp [hf]), if_pos (by simp [hf])]
  obtain ⟨s2, hread, h2⟩ := processAckHeader_reads (k := k) (s := s1) (h1.2 ▸ hts)
  exact ⟨s2, hread, h1.1.trans h2⟩

theorem Waiting.joins (h : s.Waiting k (Net.answer iss)) (he : s.m_endPoint ≠ none)
    (hf : a.segment.header.flags = { ACK := true }) (hack : a.segment.header.ackNumber = iss + 1)
    (hts : s.m_timestampEnabled = true → a.segment.header.ts.isSome = true) :
    (s.arrive k a).m_connected = true := by
  have hstate : s.m_state = .SYN_RCVD := h.state.resolve_right fun hc => he hc.2
  have hmark : s.Alike k (s.markCE k a.CE a.segment.header.sequenceNumber) := alike_markCE ..
  have hmts : (s.markCE k a.CE a.segment.header.sequenceNumber).m_timestampEnabled =
      s.m_timestampEnabled := by
    unfold markCE
    split_ifs <;> rfl
  obtain ⟨s1, hread, ha1⟩ := readHeader_ack (k := k) hf (hmts ▸ hts)
  have hlife : s1.toLife = s.toLife := (readHeader_toLife hread).trans (markCE_toLife ..)
  have harrive : s.arrive k a = (s1.enterPersist.dispatch k a).leavePersist k := by
    unfold arrive forwardUp
    extract_lets seq
    rw [if_neg he, if_neg (by simp [outOfRange_opening (.inr (.inr hstate))]), doForwardUp_eq, hread]
    rfl
  have hnext : s1.enterPersist.m_tcb.m_nextTxSequence = iss :=
    ((hmark.trans ha1).trans alike_enterPersist).next.trans h.next
  have hkeep := enterPersist_keeps (s := s1)
  have hs1 : s1.enterPersist.m_state = .SYN_RCVD :=
    hkeep.1.trans ((congrArg Life.m_state hlife).trans hstate)
  have he1 : s1.enterPersist.m_endPoint ≠ none := by
    rwa [hkeep.2, show s1.m_endPoint = s.m_endPoint from congrArg Life.m_endPoint hlife]
  rw [harrive]
  refine Moves.connected moves_leavePersist ?_
  generalize s1.enterPersist = s2 at hnext hs1 he1
  unfold dispatch
  rw [hs1]
  dsimp only
  unfold processSynRcvd
  extract_lets header tcpflags _
  have hflags : tcpflags = { ACK := true } := by
    unfold tcpflags header
    rw [hf]
    rfl
  rw [if_pos (.inr ⟨hflags, by rw [hnext]; exact hack.symm⟩)]
  unfold acceptConnection
  extract_lets _ s3 s4 s5
  have hack5 : Moves s5.toLife (s5.receivedAck k a.segment.header a.segment.size a.actions).toLife :=
    moves_receivedAck _ _ _ (connectionCreated_endPoint _ he1)
  exact Moves.connected (hack5.trans moves_notifySend.1) rfl

end Meets

end TcpSocketBase

def NetEvent.delivers {τ : Type} : NetEvent τ → Bool
  | .toClient (.sent _) _ _ | .toServer (.sent _) _ _ => true
  | _ => false

namespace Net
variable {τ χ ε : Type} {k : Stack τ χ ε} {n : Net τ χ ε} {iss seq : SequenceNumber32}
open TcpSocketBase

structure Listens (n : Net τ χ ε) : Prop where
  state : n.listener.m_state = .LISTEN
  endPoint : n.listener.m_endPoint ≠ none
  retries : n.listener.m_synRetries ≠ 0

theorem deliver_matched {a : Arrival τ}
    (h : ∃ f ∈ n.forks, f.m_endPoint = some ⟨a.segment.destination, a.segment.source⟩) :
    (n.deliver k a).client = n.client ∧ (n.deliver k a).listener = n.listener ∧
      (n.deliver k a).forks = n.forks.map fun f =>
        if f.m_endPoint = some ⟨a.segment.destination, a.segment.source⟩ then f.arrive k a else f := by
  unfold Net.deliver
  extract_lets endPoint
  rw [if_pos h]
  exact ⟨rfl, rfl, rfl⟩

/-- If no socket has been made for a SYN's client, the listening socket makes one that answers. -/
theorem deliver_listened (h : n.Opening k iss seq) (hl : n.Listens)
    (hseq : ∀ b seq, k.nextRxSequence (k.setNextRxSequence b seq) = seq) (a : Arrival τ)
    (hf : a.segment.header.flags.mask = { SYN := true })
    (hnone : ¬ ∃ f ∈ n.forks, f.m_endPoint = some ⟨a.segment.destination, a.segment.source⟩) :
    (n.deliver k a).client = n.client ∧
      ∃ f ∈ (n.deliver k a).forks, ∃ r, Replied k iss a.segment r f := by
  obtain ⟨f, r, hnew, hr⟩ :=
    processListen_replies (k := k) a h.listener hl.state hl.endPoint hl.retries hseq hf
  unfold Net.deliver
  extract_lets endPoint
  rw [if_neg hnone, hnew]
  exact ⟨rfl, f, List.mem_append_right _ (List.mem_singleton_self f), r, hr⟩

/-- A SYN is answered when it comes, or when it comes again, if it finds a socket that gives up. -/
theorem syn_answered (h : n.Opening k iss seq) (hl : n.Listens)
    (hseq : ∀ b seq, k.nextRxSequence (k.setNextRxSequence b seq) = seq) {g : TcpSegment} {i : ℕ}
    (hi : n.client.sent[i]? = some g) (hf : g.header.flags.mask = { SYN := true })
    (hw : g.header.windowSize ≠ 0) :
    ∃ evs : List (NetEvent τ), evs.length ≤ 2 ∧ (∀ e ∈ evs, e.delivers = true) ∧
      (run (Net.step k) n evs).client = n.client ∧
      ∃ f ∈ (run (Net.step k) n evs).forks, ∃ r, Replied k iss g r f := by
  have hstep : ∀ m : Net τ χ ε, m.client = n.client →
      m.step k (.toServer (.sent i) false []) = m.deliver k ⟨g, false, []⟩ := by
    intro m hm
    simp only [Net.step, Parcel.segment]
    rw [hm, hi]
  by_cases hmatch : ∃ f ∈ n.forks, f.m_endPoint = some ⟨g.destination, g.source⟩
  · obtain ⟨hclient, hlistener, hforks⟩ := deliver_matched (k := k) (a := ⟨g, false, []⟩) hmatch
    by_cases hleft : ∃ f ∈ n.forks, f.m_endPoint = some ⟨g.destination, g.source⟩ ∧ f.m_synCount ≠ 0
    · obtain ⟨f, hfm, he, hcount⟩ := hleft
      obtain ⟨r, hr⟩ := (h.forks f hfm).replies ⟨g, false, []⟩ hseq he hcount hf hw
      refine ⟨[.toServer (.sent i) false []], by simp, by simp [NetEvent.delivers], ?_⟩
      rw [run_cons, run_nil, hstep n rfl, hforks]
      exact ⟨hclient, _, List.mem_map.2 ⟨f, hfm, if_pos he⟩, r, hr⟩
    · -- all that the SYN finds give up, and when it comes again the listening socket makes another one
      have hgone : ∀ f ∈ (n.deliver k ⟨g, false, []⟩).forks, f.Waiting k (answer iss) ∧
          f.m_endPoint ≠ some ⟨g.destination, g.source⟩ := by
        rw [hforks]
        intro f' hf'
        obtain ⟨f, hfm, rfl⟩ := List.mem_map.1 hf'
        have hwait := h.forks f hfm
        split_ifs with he
        · have hne : f.m_endPoint ≠ none := by simp [he]
          have hzero : f.m_synCount = 0 := by
            by_contra hc
            exact hleft ⟨f, hfm, he, hc⟩
          refine ⟨(hwait.arrive_again ⟨g, false, []⟩ hne hf hw).2, ?_⟩
          rw [hwait.gives_up ⟨g, false, []⟩ hne hzero hf hw]
          exact (Option.some_ne_none _).symm
        · exact ⟨hwait, he⟩
      refine ⟨[.toServer (.sent i) false [], .toServer (.sent i) false []], by simp,
        by simp [NetEvent.delivers], ?_⟩
      rw [run_cons, run_cons, run_nil, hstep n rfl, hstep _ hclient]
      generalize n.deliver k ⟨g, false, []⟩ = n1 at hclient hlistener hgone
      have h1 : n1.Opening k iss seq :=
        ⟨hclient ▸ h.client, hlistener ▸ h.listener, fun f hfm => (hgone f hfm).1⟩
      have hl1 : n1.Listens :=
        ⟨hlistener ▸ hl.state, hlistener ▸ hl.endPoint, hlistener ▸ hl.retries⟩
      have hnone : ¬ ∃ f ∈ n1.forks, f.m_endPoint = some ⟨g.destination, g.source⟩ := by
        rintro ⟨f, hfm, he⟩
        exact (hgone f hfm).2 he
      obtain ⟨hclient2, hnew⟩ := deliver_listened h1 hl1 hseq ⟨g, false, []⟩ hf hnone
      exact ⟨hclient2.trans hclient, hnew⟩
  · refine ⟨[.toServer (.sent i) false []], by simp, by simp [NetEvent.delivers], ?_⟩
    rw [run_cons, run_nil, hstep n rfl]
    exact deliver_listened h hl hseq _ hf hmatch

theorem reply_connects (h : n.client.Waiting k (call seq)) {e : EndPoint}
    (he : n.client.m_endPoint = some e)
    (hseq : ∀ b seq, k.nextRxSequence (k.setNextRxSequence b seq) = seq) {g r : TcpSegment}
    {f : TcpSocketBase τ χ ε} (hfm : f ∈ n.forks) (hr : Replied k iss g r f)
    (hg : g.header.sequenceNumber = seq) (hname : g.source = e.localName ∧ g.destination = e.peer)
    (hts : g.header.ts.isSome = n.client.m_timestampEnabled) :
    ∃ evs : List (NetEvent τ), evs.length = 2 ∧ (∀ e ∈ evs, e.delivers = true) ∧
      (run (Net.step k) n evs).client.m_connected = true ∧
      ∃ f' ∈ (run (Net.step k) n evs).forks, f'.m_connected = true := by
  have hmem : r ∈ n.answers := List.mem_flatMap.2 ⟨f, hfm, hr.sent⟩
  obtain ⟨j, hj⟩ := List.mem_iff_getElem?.1 hmem
  have hrseq : r.header.sequenceNumber = iss := by
    rcases hr.waiting.sent r hr.sent with hs | hrst
    · exact hs.2.1
    · have hflags := hr.flags
      rw [hrst] at hflags
      cases hflags
  obtain ⟨hconn, c, hc, hflags, hack, hcts, hsource, hdest⟩ := h.meets ⟨r, false, []⟩ hseq he hr.flags
    (hr.ackNumber.trans (congrArg (· + 1) hg))
  obtain ⟨i, hi⟩ := List.mem_iff_getElem?.1 hc
  refine ⟨[.toClient (.sent j) false [], .toServer (.sent i) false []], rfl,
    by simp [NetEvent.delivers], ?_⟩
  have h1 : n.step k (.toClient (.sent j) false []) =
      { n with client := n.client.arrive k ⟨r, false, []⟩ } := by
    simp only [Net.step, Parcel.segment]
    rw [hj]
  rw [run_cons, run_cons, run_nil, h1]
  have h2 : Net.step k { n with client := n.client.arrive k ⟨r, false, []⟩ }
      (.toServer (.sent i) false []) =
      Net.deliver k { n with client := n.client.arrive k ⟨r, false, []⟩ } ⟨c, false, []⟩ := by
    simp only [Net.step, Parcel.segment]
    rw [hi]
  have hep : f.m_endPoint = some ⟨c.destination, c.source⟩ := by
    rw [hr.name, hname.1, hname.2, hsource, hdest]
  obtain ⟨hclient, -, hforks⟩ := deliver_matched (k := k)
    (n := { n with client := n.client.arrive k ⟨r, false, []⟩ }) (a := ⟨c, false, []⟩) ⟨f, hfm, hep⟩
  rw [h2, hclient, hforks]
  refine ⟨hconn, _, List.mem_map.2 ⟨f, hfm, if_pos hep⟩, ?_⟩
  refine hr.waiting.joins ⟨c, false, []⟩ (by simp [hep]) hflags (hack.trans (by rw [hrseq])) fun hon => ?_
  obtain ⟨hrts, hgts⟩ := hr.ts hon
  exact hcts (hts.symm.trans hgts) hrts

/-- The handshake is never stuck. Whatever the network has lost, reordered or repeated: as long as the client
still waits with an attempt and its timer left, and the server listens with attempts to give, its time-out and
four deliveries at most connect both ends. -/
theorem handshake_can_complete {c l : TcpSocketBase τ χ ε}
    (hseq : ∀ b seq, k.nextRxSequence (k.setNextRxSequence b seq) = seq) (hc : c.toLife = {})
    (hwin : c.advertisedWindowSize k false ≠ 0) (hl : l.m_state = .LISTEN)
    (hconn : l.m_connected = false) (ht : l.timers = {}) (name peer : Address) (source : UInt32)
    (evs : List (NetEvent τ)) {m : Net τ χ ε}
    (hm : m = run (Net.step k) ⟨c.connect k (some name) peer (some source), l, []⟩ evs)
    (hf : m.listener.faults = []) (hstate : m.client.m_state = .SYN_SENT)
    (he : m.client.m_endPoint ≠ none) (hcount : m.client.m_synCount ≠ 0)
    (hretx : m.client.timers.m_retxEvent ≠ none) (hlisten : m.Listens) :
    ∃ more : List (NetEvent τ), more.length ≤ 4 ∧ (∀ e ∈ more, e.delivers = true) ∧
      (run (Net.step k) m (.client .retx :: more)).client.m_connected = true ∧
      ∃ f ∈ (run (Net.step k) m (.client .retx :: more)).forks, f.m_connected = true := by
  have hsound : m.Sound k l.m_tcb.m_nextTxSequence c.m_tcb.m_nextTxSequence := by
    subst hm
    exact (sound_connect hc hwin hl hconn ht name peer source).run evs hf
  have hopen : m.Opening k l.m_tcb.m_nextTxSequence c.m_tcb.m_nextTxSequence :=
    hsound.phase.resolve_right fun hj => hj.1.settled.state.2.1 hstate
  obtain ⟨e, he⟩ := Option.ne_none_iff_exists'.1 he
  obtain ⟨g, flags, hsent, hg, hmask, hts, hep⟩ := hopen.client.says_retx he hcount hretx
  have hwait : (m.client.step k .retx).Waiting k (call c.m_tcb.m_nextTxSequence) :=
    hopen.client.timed rfl
  have hgs : (call c.m_tcb.m_nextTxSequence).Sends g :=
    hwait.sent g (by rw [hsent]; exact List.mem_append_right _ (List.mem_singleton_self g))
  have hsyn : g.header.flags.mask = { SYN := true } := by rw [hg.flags, hmask]; rfl
  have hsend : g.header.sequenceNumber = c.m_tcb.m_nextTxSequence ∧ g.header.windowSize ≠ 0 := by
    rcases hgs with hgs | hrst
    · exact hgs.2
    · rw [hrst] at hsyn
      cases hsyn
  have h1 : m.step k (.client .retx) = { m with client := m.client.step k .retx } := by
    simp [Net.step, SocketEvent.timed]
  have hi : (m.client.step k .retx).sent[m.client.sent.length]? = some g := by simp [hsent]
  obtain ⟨evs1, hlen1, hdeliver1, hclient1, f, hfm, r, hr⟩ := syn_answered
    (n := { m with client := m.client.step k .retx }) ⟨hwait, hopen.listener, hopen.forks⟩
    ⟨hlisten.state, hlisten.endPoint, hlisten.retries⟩ hseq hi hsyn hsend.2
  obtain ⟨evs2, hlen2, hdeliver2, hmet⟩ := reply_connects (hclient1 ▸ hwait) (hclient1 ▸ hep) hseq hfm hr hsend.1
    ⟨hg.source, hg.destination⟩ (by rw [hclient1]; exact hg.ts.trans hts.symm)
  refine ⟨evs1 ++ evs2, ?_, List.forall_mem_append.2 ⟨hdeliver1, hdeliver2⟩, ?_⟩
  · rw [List.length_append]
    omega
  · rw [run_cons, h1, run_append]
    exact hmet

/-- A client whose SYN has come to the server twice, but whose answers were lost. -/
def unanswered : Net PlainTxBuffer PlainRxBuffer Unit :=
  run (Net.step .plain)
    ⟨fresh.connect .plain (some clientName) serverName (some 1), (fresh.bind (some serverName)).listen, []⟩
    [.toServer (.sent 0) false [], .client .retx, .toServer (.sent 1) false []]

theorem handshake_can_complete_unanswered :
    ∃ more : List (NetEvent PlainTxBuffer), more.length ≤ 4 ∧ (∀ e ∈ more, e.delivers = true) ∧
      (run (Net.step .plain) unanswered (.client .retx :: more)).client.m_connected = true ∧
      ∃ f ∈ (run (Net.step .plain) unanswered (.client .retx :: more)).forks,
        f.m_connected = true :=
  handshake_can_complete (k := .plain) (c := fresh) (l := (fresh.bind (some serverName)).listen)
    (fun _ _ => rfl) rfl (by decide) rfl rfl rfl clientName serverName 1 _ (m := unanswered) rfl
    (by decide +kernel) (by decide +kernel) (by decide +kernel) (by decide +kernel)
    (by decide +kernel) ⟨by decide +kernel, by decide +kernel, by decide +kernel⟩

end Net

end NetSessional.Tcp
