import NetSessional.Tcp.Moves
import NetSessional.Lib.Loops

/-! The loop that sends what is pending. It never puts more in flight than the window, and it does not stop
while there is a segment that it may send. -/

namespace NetSessional.Tcp
open Vegas Loops Runs

/-- What the send buffer promises: the segment it names has a length, taking it puts as many bytes in
flight as are taken, and leaves the data where they are. -/
structure Stack.Buffers {τ χ ε : Type} (k : Stack τ χ ε) : Prop where
  next_ne : ∀ b rule3 next nextHigh, k.nextSeg b rule3 = some (next, nextHigh) → nextHigh - next ≠ 0
  size_le : ∀ b maxSize seq, (k.copyFromSequence b maxSize seq).size ≤ maxSize
  takes : ∀ b rule3 next nextHigh maxSize, k.nextSeg b rule3 = some (next, nextHigh) → 0 < maxSize →
    maxSize ≤ nextHigh - next → 0 < (k.copyFromSequence b maxSize next).size ∧
      k.txBytesInFlight (k.copyFromSequence b maxSize next).txBuffer =
        k.txBytesInFlight b + (k.copyFromSequence b maxSize next).size
  txSize : ∀ b maxSize seq, k.txSize (k.copyFromSequence b maxSize seq).txBuffer = k.txSize b
  head : ∀ b maxSize seq,
    k.headSequence (k.copyFromSequence b maxSize seq).txBuffer = k.headSequence b

theorem Stack.plain_buffers : Stack.plain.Buffers where
  next_ne := by
    intro b rule3 next nextHigh h
    dsimp only [Stack.plain] at h
    split_ifs at h with hlt
    obtain ⟨rfl, rfl⟩ := Prod.mk.inj (Option.some.inj h)
    have hlt' := UInt32.lt_iff_toNat_lt.1 hlt
    intro h0
    have hsub : b.head + b.size - (b.head + b.inFlight) = b.size - b.inFlight := by grind
    rw [hsub] at h0
    have hnat := congrArg UInt32.toNat h0
    rw [UInt32.toNat_sub_of_le _ _ (UInt32.le_iff_toNat_le.2 hlt'.le), UInt32.toNat_zero] at hnat
    omega
  size_le := by
    intro b maxSize seq
    rw [UInt32.le_iff_toNat_le]
    change (stdMin maxSize _).toNat ≤ _
    rw [toNat_stdMin]
    exact min_le_left _ _
  takes := by
    intro b rule3 next nextHigh maxSize h hpos hle
    dsimp only [Stack.plain] at h
    split_ifs at h with hlt
    obtain ⟨rfl, rfl⟩ := Prod.mk.inj (Option.some.inj h)
    have hlt' := UInt32.lt_iff_toNat_lt.1 hlt
    have hoffset : b.head + b.inFlight - b.head = b.inFlight := by grind
    rw [show b.head + b.size - (b.head + b.inFlight) = b.size - b.inFlight by grind] at hle
    have hsize : stdMin maxSize (b.size - b.inFlight) = maxSize := if_neg (UInt32.not_lt.2 hle)
    have hle' := UInt32.le_iff_toNat_le.1 hle
    rw [UInt32.toNat_sub_of_le _ _ (UInt32.le_iff_toNat_le.2 hlt'.le)] at hle'
    dsimp only [Stack.plain]
    rw [hoffset, hsize]
    refine ⟨hpos, ?_⟩
    apply UInt32.toNat_inj.1
    have hb := b.size.toNat_lt
    rw [toNat_stdMax, UInt32.toNat_add, Nat.mod_eq_of_lt (by omega)]
    omega
  txSize _ _ _ := rfl
  head _ _ _ := rfl

def Notification.outgoing : Notification → Bool
  | .send _ | .dataSent _ => true
  | _ => false

/-- A move between states that a FIN on the last data makes. -/
inductive FinEdge : TcpStates → TcpStates → Prop where
  | stays (state : TcpStates) : FinEdge state state
  | active : FinEdge .ESTABLISHED .FIN_WAIT_1
  | passive : FinEdge .CLOSE_WAIT .LAST_ACK

theorem FinEdge.trans {a b c : TcpStates} (h : FinEdge a b) (h' : FinEdge b c) : FinEdge a c := by
  cases h with
  | stays => exact h'
  | active =>
    cases h'
    exact .active
  | passive =>
    cases h'
    exact .passive

/-- Neither end of such a move is before the handshake or after the close, if the other is not. -/
theorem finEdge_open {a b : TcpStates} (h : FinEdge a b)
    (ha : a ≠ .CLOSED ∧ a ≠ .TIME_WAIT ∧ a ≠ .SYN_SENT) :
    b ≠ .CLOSED ∧ b ≠ .TIME_WAIT ∧ b ≠ .SYN_SENT := by
  cases h with
  | stays => exact ha
  | active => exact ⟨nofun, nofun, nofun⟩
  | passive => exact ⟨nofun, nofun, nofun⟩

namespace TcpSocketBase
variable {τ χ ε : Type} {k : Stack τ χ ε} {s s' s'' : TcpSocketBase τ χ ε}

structure Steady (s s' : TcpSocketBase τ χ ε) : Prop where
  now : s'.now = s.now
  endPoint : s'.m_endPoint = s.m_endPoint
  state : FinEdge s.m_state s'.m_state
  connected : s'.m_connected = s.m_connected
  window : s'.window = s.window
  segmentSize : s'.m_tcb.m_segmentSize = s.m_tcb.m_segmentSize
  congState : s'.m_tcb.m_congState = s.m_tcb.m_congState
  rWnd : s'.m_rWnd = s.m_rWnd
  rto : s'.m_rto = s.m_rto
  retries : s'.m_dataRetrCount = s.m_dataRetrCount
  noDelay : s'.m_noDelay = s.m_noDelay
  sack : s'.m_sackEnabled = s.m_sackEnabled
  timers : s'.timers.m_persistEvent = s.timers.m_persistEvent ∧
    s'.timers.m_lastAckEvent = s.timers.m_lastAckEvent ∧
    s'.timers.m_timewaitEvent = s.timers.m_timewaitEvent ∧
    s'.timers.m_sendPendingDataEvent = s.timers.m_sendPendingDataEvent
  told : ∃ ns, s'.notified = s.notified ++ ns ∧ ∀ n ∈ ns, n.outgoing = true

theorem Steady.refl (s : TcpSocketBase τ χ ε) : s.Steady s :=
  ⟨rfl, rfl, .stays _, rfl, rfl, rfl, rfl, rfl, rfl, rfl, rfl, rfl, ⟨rfl, rfl, rfl, rfl⟩,
    [], by simp, List.forall_mem_nil _⟩

theorem Steady.trans (h : s.Steady s') (h' : s'.Steady s'') : s.Steady s'' := by
  obtain ⟨ns, hns, hout⟩ := h.told
  obtain ⟨ns', hns', hout'⟩ := h'.told
  exact
    { now := h'.now.trans h.now
      endPoint := h'.endPoint.trans h.endPoint
      state := h.state.trans h'.state
      connected := h'.connected.trans h.connected
      window := h'.window.trans h.window
      segmentSize := h'.segmentSize.trans h.segmentSize
      congState := h'.congState.trans h.congState
      rWnd := h'.rWnd.trans h.rWnd
      rto := h'.rto.trans h.rto
      retries := h'.retries.trans h.retries
      noDelay := h'.noDelay.trans h.noDelay
      sack := h'.sack.trans h.sack
      timers := ⟨h'.timers.1.trans h.timers.1, h'.timers.2.1.trans h.timers.2.1,
        h'.timers.2.2.1.trans h.timers.2.2.1, h'.timers.2.2.2.trans h.timers.2.2.2⟩
      told := by
        refine ⟨ns ++ ns', by rw [hns', hns, List.append_assoc], ?_⟩
        exact List.forall_mem_append.2 ⟨hout, hout'⟩ }

theorem steady_notify {n : Notification} (h : n.outgoing = true) : s.Steady (s.notify n) :=
  { Steady.refl s with told := ⟨[n], rfl, by simpa using h⟩ }

section Round

theorem steady_updateRttHistory (seq : SequenceNumber32) (sz : UInt32) (b : Bool) :
    s.Steady (s.updateRttHistory k seq sz b) := by
  unfold updateRttHistory
  split_ifs
  · exact { Steady.refl s with }
  · exact { Steady.refl s with }

theorem steady_piggybackFin : s.Steady s.piggybackFin := by
  unfold piggybackFin
  split_ifs with h1 h2
  · exact { Steady.refl s with state := h1 ▸ .active }
  · exact { Steady.refl s with state := h2 ▸ .passive }
  · exact Steady.refl s

/-- A segment of so many bytes goes out, and is timed if nothing is. -/
structure Emits (seq : SequenceNumber32) (sz : UInt32) (txBuffer : τ)
    (s s' : TcpSocketBase τ χ ε) : Prop where
  steady : s.Steady s'
  txBuffer : s'.m_txBuffer = txBuffer
  retx : s'.timers.m_retxEvent =
    s.timers.m_retxEvent.or (some (.reTxTimeout, s.now + s.m_rto))
  sent : ∃ g, s'.sent = s.sent ++ [g] ∧ g.size = sz ∧ g.header.sequenceNumber = seq

theorem emits_emitData (e : EndPoint) (flags : Flags) (seq : SequenceNumber32) (sz : UInt32)
    (b : Bool) : s.Emits seq sz s.m_txBuffer (s.emitData k e flags seq sz b) := by
  unfold emitData
  extract_lets header s1 s2 s3 s4 last
  have hseq : header.sequenceNumber = seq := by
    unfold header addOptions
    split_ifs <;> rfl
  clear_value header
  have h2 : s.Steady s2 ∧ s2.m_txBuffer = s.m_txBuffer ∧ s2.sent = s.sent ∧
      s2.timers.m_retxEvent = s.timers.m_retxEvent.or (some (.reTxTimeout, s.now + s.m_rto)) := by
    unfold s2
    split_ifs with hnone
    · refine ⟨{ Steady.refl s with }, rfl, rfl, ?_⟩
      have hnone' : s.timers.m_retxEvent = none := hnone
      rw [hnone']
      rfl
    · obtain ⟨r, hr⟩ := Option.ne_none_iff_exists'.1 hnone
      refine ⟨{ Steady.refl s with }, rfl, rfl, ?_⟩
      have hr' : s.timers.m_retxEvent = some r := hr
      change s.timers.m_retxEvent = _
      rw [hr']
      rfl
  clear_value s2
  obtain ⟨h2, htx2, hsent2, hretx2⟩ := h2
  have hl3 : s3.toLife = (s2.transmit e header sz).toLife := updateRttHistory_toLife ..
  have hout : s2.Steady (s2.transmit e header sz) := { Steady.refl s2 with }
  have h3 : s.Steady s3 := h2.trans (hout.trans (steady_updateRttHistory ..))
  have htx3 : s3.m_txBuffer = s2.m_txBuffer := by
    unfold s3 updateRttHistory
    split_ifs <;> rfl
  clear_value s3
  have h4 : s3.Steady s4 ∧ s4.m_txBuffer = s3.m_txBuffer ∧ s4.sent = s3.sent ∧
      s4.timers = s3.timers := by
    unfold s4
    split_ifs
    · exact ⟨Steady.refl s3, rfl, rfl, rfl⟩
    · exact ⟨steady_notify rfl, rfl, rfl, rfl⟩
  obtain ⟨h4, htx4, hsent4, ht4⟩ := h4
  refine ⟨(h3.trans h4).trans { Steady.refl s4 with }, htx4.trans (htx3.trans htx2), ?_, ?_⟩
  · change s4.timers.m_retxEvent = _
    rw [ht4, hl3]
    exact hretx2
  · refine ⟨⟨header, sz, e.localName, e.peer⟩, ?_, rfl, hseq⟩
    change s4.sent = _
    rw [hsent4, hl3]
    change s2.sent ++ _ = _
    rw [hsent2]

theorem Emits.of_steady {seq : SequenceNumber32} {sz : UInt32} {txBuffer : τ} (h : s.Steady s')
    (hsent : s'.sent = s.sent) (hretx : s'.timers.m_retxEvent = s.timers.m_retxEvent)
    (h' : s'.Emits seq sz txBuffer s'') : s.Emits seq sz txBuffer s'' where
  steady := h.trans h'.steady
  txBuffer := h'.txBuffer
  retx := by rw [h'.retx, hretx, h.now, h.rto]
  sent := hsent ▸ h'.sent

theorem emits_sendItem (outItem : TcpTxItem τ) (seq : SequenceNumber32) (withAck : Bool)
    (he : s.m_endPoint ≠ none) :
    s.Emits seq outItem.size outItem.txBuffer (s.sendItem k outItem seq withAck) := by
  unfold sendItem
  extract_lets s1 remainingData s2 reduced s3 fin s4
  have h2 : s.Steady s2 ∧ s2.sent = s.sent ∧ s2.timers.m_retxEvent = s.timers.m_retxEvent ∧
      s2.m_txBuffer = outItem.txBuffer := by
    unfold s2
    split_ifs
    · exact ⟨{ Steady.refl s with }, rfl, rfl, rfl⟩
    · exact ⟨{ Steady.refl s with }, rfl, rfl, rfl⟩
  have h3 : s.Steady s3 ∧ s3.sent = s.sent ∧ s3.timers.m_retxEvent = s.timers.m_retxEvent ∧
      s3.m_txBuffer = outItem.txBuffer := by
    unfold s3
    split_ifs
    · exact ⟨h2.1.trans { Steady.refl s2 with }, h2.2⟩
    · exact h2
  have h4 : s.Steady s4 ∧ s4.sent = s.sent ∧ s4.timers.m_retxEvent = s.timers.m_retxEvent ∧
      s4.m_txBuffer = outItem.txBuffer := by
    unfold s4
    split_ifs
    · refine ⟨h3.1.trans steady_piggybackFin, ?_⟩
      unfold piggybackFin
      split_ifs <;> exact h3.2
    · exact h3
  clear_value s4 fin
  obtain ⟨hsteady, hsent, hretx, htx⟩ := h4
  split
  · rename_i hnone
    exact absurd (hsteady.endPoint.symm.trans hnone) he
  · rename_i e hsome
    exact .of_steady hsteady hsent hretx (htx ▸ emits_emitData e _ seq outItem.size outItem.isRetrans)

theorem emits_sendSegment (next : SequenceNumber32) (size : UInt32) (withAck : Bool)
    (he : s.m_endPoint ≠ none) :
    s.Emits next (k.copyFromSequence s.m_txBuffer size next).size
      (k.copyFromSequence s.m_txBuffer size next).txBuffer (s.sendSegment k next size withAck) := by
  have hnext : s.Steady { s with m_tcb := { s.m_tcb with m_nextTxSequence := next } } :=
    { Steady.refl s with }
  have h1 : s.Emits next (k.copyFromSequence s.m_txBuffer size next).size
      (k.copyFromSequence s.m_txBuffer size next).txBuffer
      ({ s with m_tcb := { s.m_tcb with m_nextTxSequence := next } }.sendItem k
        (k.copyFromSequence s.m_txBuffer size next) next withAck) :=
    .of_steady hnext rfl rfl (emits_sendItem _ next withAck he)
  exact ⟨h1.steady.trans { Steady.refl _ with }, h1.txBuffer, h1.retx, h1.sent⟩

theorem askForData_steady : s.Steady (s.askForData k) ∧ (s.askForData k).sent = s.sent ∧
    (s.askForData k).timers = s.timers ∧ (s.askForData k).m_txBuffer = s.m_txBuffer ∧
    (s.askForData k).m_state = s.m_state := by
  unfold askForData
  split_ifs
  · exact ⟨Steady.refl s, rfl, rfl, rfl, rfl⟩
  · split
    · exact ⟨Steady.refl s, rfl, rfl, rfl, rfl⟩
    · split_ifs
      · exact ⟨steady_notify rfl, rfl, rfl, rfl, rfl⟩
      · exact ⟨Steady.refl s, rfl, rfl, rfl, rfl⟩

end Round

section Loop

/-- So many segments have been sent: none of them empty or too long, all of them in flight, within the
window. -/
structure Sends (k : Stack τ χ ε) (gs : List TcpSegment) (s s' : TcpSocketBase τ χ ε) : Prop where
  steady : s.Steady s'
  sent : s'.sent = s.sent ++ gs
  sizes : ∀ g ∈ gs, 0 < g.size ∧ g.size ≤ s.m_tcb.m_segmentSize
  inFlight : (k.txBytesInFlight s'.m_txBuffer).toNat =
    (k.txBytesInFlight s.m_txBuffer).toNat + (gs.map (·.size.toNat)).sum
  within : gs ≠ [] → k.txBytesInFlight s'.m_txBuffer ≤ s.window
  retx : s'.timers.m_retxEvent = if gs = [] then s.timers.m_retxEvent
    else s.timers.m_retxEvent.or (some (.reTxTimeout, s.now + s.m_rto))
  buffer : k.txSize s'.m_txBuffer = k.txSize s.m_txBuffer ∧
    k.headSequence s'.m_txBuffer = k.headSequence s.m_txBuffer
  idle : gs = [] → s'.m_state = s.m_state

theorem Sends.refl (s : TcpSocketBase τ χ ε) : s.Sends k [] s :=
  ⟨Steady.refl s, by simp, List.forall_mem_nil _, by simp, fun h => absurd rfl h, rfl,
    ⟨rfl, rfl⟩, fun _ => rfl⟩

theorem Sends.trans {gs gs' : List TcpSegment} (h : s.Sends k gs s') (h' : s'.Sends k gs' s'') :
    s.Sends k (gs ++ gs') s'' where
  steady := h.steady.trans h'.steady
  sent := by rw [h'.sent, h.sent, List.append_assoc]
  sizes := by
    have hsize := h'.sizes
    rw [h.steady.segmentSize] at hsize
    exact List.forall_mem_append.2 ⟨h.sizes, hsize⟩
  inFlight := by
    rw [h'.inFlight, h.inFlight, List.map_append, List.sum_append, Nat.add_assoc]
  within := by
    intro hne
    by_cases hgs : gs' = []
    · subst hgs
      rw [List.append_nil] at hne
      have hsame : k.txBytesInFlight s''.m_txBuffer = k.txBytesInFlight s'.m_txBuffer := by
        apply UInt32.toNat_inj.1
        simpa using h'.inFlight
      exact hsame ▸ h.within hne
    · exact h.steady.window ▸ h'.within hgs
  retx := by
    rw [h'.retx, h.retx, h.steady.now, h.steady.rto]
    by_cases hgs : gs = []
    · simp [hgs]
    · by_cases hgs' : gs' = []
      · simp [hgs, hgs']
      · simp [hgs, hgs']
  buffer := ⟨h'.buffer.1.trans h.buffer.1, h'.buffer.2.trans h.buffer.2⟩
  idle := by
    intro hnil
    obtain ⟨hgs, hgs'⟩ := List.append_eq_nil_iff.1 hnil
    exact (h'.idle hgs').trans (h.idle hgs)

theorem availableWindow_toNat : (s.availableWindow k).toNat =
    s.window.toNat - (k.txBytesInFlight s.m_txBuffer).toNat := by
  unfold availableWindow
  dsimp only
  split_ifs with h
  · have hlt := UInt32.lt_iff_toNat_lt.1 h
    rw [UInt32.toNat_zero]
    omega
  · exact UInt32.toNat_sub_of_le _ _ (UInt32.not_lt.1 h)

theorem nextSegment_some {next : SequenceNumber32} {size : UInt32}
    (h : s.nextSegment k = some (next, size)) :
    ∃ nextHigh, k.nextSeg s.m_txBuffer
        (s.m_sackEnabled && s.m_tcb.m_congState == .CA_RECOVERY) = some (next, nextHigh) ∧
      size = stdMin (stdMin (s.availableWindow k) s.m_tcb.m_segmentSize) (nextHigh - next) := by
  unfold nextSegment at h
  extract_lets availableWindow at h
  split_ifs at h
  split at h
  · cases h
  · rename_i next' nextHigh hseg
    extract_lets availableData at h
    split_ifs at h
    obtain ⟨rfl, rfl⟩ := Prod.mk.inj (Option.some.inj h)
    exact ⟨nextHigh, hseg, rfl⟩

theorem sends_round (hk : k.Buffers) (hseg : 0 < s.m_tcb.m_segmentSize) (withAck : Bool)
    (he : s.m_endPoint ≠ none) (hwindow : s.availableWindow k > 0) {next : SequenceNumber32}
    {size : UInt32} (hnext : s.nextSegment k = some (next, size)) :
    ∃ g, s.Sends k [g] ((s.askForData k).sendSegment k next size withAck) ∧
      g.header.sequenceNumber = next := by
  obtain ⟨nextHigh, hbuf, hsize⟩ := nextSegment_some hnext
  obtain ⟨hask, hasksent, haskt, hasktx, -⟩ := askForData_steady (k := k) (s := s)
  have hemit : (s.askForData k).Emits next (k.copyFromSequence s.m_txBuffer size next).size
      (k.copyFromSequence s.m_txBuffer size next).txBuffer
      ((s.askForData k).sendSegment k next size withAck) :=
    hasktx ▸ emits_sendSegment next size withAck (hask.endPoint ▸ he)
  have hemit : s.Emits next (k.copyFromSequence s.m_txBuffer size next).size
      (k.copyFromSequence s.m_txBuffer size next).txBuffer
      ((s.askForData k).sendSegment k next size withAck) :=
    .of_steady hask hasksent (by rw [haskt]) hemit
  have hlen := hk.next_ne _ _ _ _ hbuf
  have hnat : size.toNat = min (min (s.availableWindow k).toNat s.m_tcb.m_segmentSize.toNat)
      (nextHigh - next).toNat := by
    rw [hsize, toNat_stdMin, toNat_stdMin]
  have hlen' : 0 < (nextHigh - next).toNat :=
    Nat.pos_of_ne_zero fun h0 => hlen (UInt32.toNat_inj.1 h0)
  have hwindow' : 0 < (s.availableWindow k).toNat := UInt32.lt_iff_toNat_lt.1 hwindow
  have hseg' : 0 < s.m_tcb.m_segmentSize.toNat := UInt32.lt_iff_toNat_lt.1 hseg
  have hpos : 0 < size := by
    rw [UInt32.lt_iff_toNat_lt, UInt32.toNat_zero]
    omega
  have hle : size ≤ nextHigh - next := by
    rw [UInt32.le_iff_toNat_le]
    omega
  obtain ⟨htaken, hflight⟩ := hk.takes _ _ _ _ _ hbuf hpos hle
  have hbound := UInt32.le_iff_toNat_le.1 (hk.size_le s.m_txBuffer size next)
  have havail := availableWindow_toNat (k := k) (s := s)
  have hflight' : (k.txBytesInFlight (k.copyFromSequence s.m_txBuffer size next).txBuffer).toNat =
      (k.txBytesInFlight s.m_txBuffer).toNat +
        (k.copyFromSequence s.m_txBuffer size next).size.toNat := by
    have hlt := s.window.toNat_lt
    rw [hflight, UInt32.toNat_add, Nat.mod_eq_of_lt]
    omega
  obtain ⟨g, hsent, hg, hseq⟩ := hemit.sent
  refine ⟨g, ⟨hemit.steady, hsent, ?_, ?_, fun _ => ?_, ?_, ?_, nofun⟩, hseq⟩
  · rw [List.forall_mem_singleton, hg]
    refine ⟨htaken, ?_⟩
    rw [UInt32.le_iff_toNat_le]
    omega
  · rw [hemit.txBuffer, hflight', List.map_singleton, List.sum_singleton, hg]
  · rw [hemit.txBuffer, UInt32.le_iff_toNat_le, hflight']
    omega
  · rw [hemit.retx, if_neg (List.cons_ne_nil _ _)]
  · rw [hemit.txBuffer]
    exact ⟨hk.txSize _ _ _, hk.head _ _ _⟩

def sendRound (k : Stack τ χ ε) (withAck : Bool) (s : TcpSocketBase τ χ ε) :
    Round (TcpSocketBase τ χ ε) :=
  if s.availableWindow k > 0 then
    match s.nextSegment k with
    | none => .done (s.askForData k)
    | some (next, size) => .again ((s.askForData k).sendSegment k next size withAck)
  else .done s

theorem sendLoop_eq (withAck : Bool) (rounds : ℕ) (s : TcpSocketBase τ χ ε) :
    sendLoop k withAck rounds s = loop (sendRound k withAck) rounds s := by
  induction rounds generalizing s with
  | zero => rfl
  | succ rounds ih =>
    by_cases hwindow : s.availableWindow k > 0
    · cases hnext : s.nextSegment k with
      | none =>
        rw [loop_done (show sendRound k withAck s = .done (s.askForData k) by
          simp [sendRound, hwindow, hnext])]
        simp [sendLoop, hwindow, hnext]
      | some p =>
        rw [loop_again (show sendRound k withAck s =
          .again ((s.askForData k).sendSegment k p.1 p.2 withAck) by
            simp [sendRound, hwindow, hnext]), ← ih]
        simp [sendLoop, hwindow, hnext]
    · rw [loop_done (show sendRound k withAck s = .done s by simp [sendRound, hwindow])]
      simp [sendLoop, hwindow]

theorem sendRound_lowers (hk : k.Buffers) (hseg : 0 < s.m_tcb.m_segmentSize)
    (he : s.m_endPoint ≠ none) (withAck : Bool) :
    Lowers (sendRound k withAck) (fun t => ∃ gs, s.Sends k gs t)
      fun t => (t.availableWindow k).toNat := by
  have hround : ∀ t t', (∃ gs, s.Sends k gs t) → sendRound k withAck t = .again t' →
      (∃ gs, s.Sends k gs t') ∧ (t'.availableWindow k).toNat < (t.availableWindow k).toNat := by
    intro t t' ⟨gs, ht⟩ hagain
    unfold sendRound at hagain
    split_ifs at hagain with hwindow
    split at hagain
    · cases hagain
    · rename_i next size hnext
      obtain rfl := Round.again.inj hagain
      obtain ⟨g, hg, -⟩ := sends_round hk (ht.steady.segmentSize ▸ hseg) withAck
        (ht.steady.endPoint ▸ he) hwindow hnext
      refine ⟨⟨_, ht.trans hg⟩, ?_⟩
      have hflight := hg.inFlight
      rw [List.map_singleton, List.sum_singleton] at hflight
      have hpos := UInt32.lt_iff_toNat_lt.1 (hg.sizes g (by simp)).1
      have hw := UInt32.lt_iff_toNat_lt.1 hwindow
      rw [UInt32.toNat_zero] at hpos hw
      rw [availableWindow_toNat, hg.steady.window, hflight]
      rw [availableWindow_toNat] at hw ⊢
      omega
  refine ⟨fun t t' ht h => (hround t t' ht h).1, fun t t' ht h => (hround t t' ht h).2, ?_⟩
  intro t ht h0
  have hnot : ¬ t.availableWindow k > 0 := by
    intro hw
    have hw' := UInt32.lt_iff_toNat_lt.1 hw
    rw [h0] at hw'
    exact absurd hw' (lt_irrefl _)
  exact if_neg hnot

end Loop

section Held

/-- Why nothing more is sent: the window is full; a FIN has been sent, and nothing is lost; there is
nothing to send; the window is too small a part of what there is (the silly window); or the last bit waits
for what is in flight (Nagle's rule). -/
inductive Held (k : Stack τ χ ε) (s : TcpSocketBase τ χ ε) : Prop where
  | full (h : s.availableWindow k = 0)
  | closing (h : s.m_tcb.m_congState = .CA_OPEN ∧ s.m_state = .FIN_WAIT_1)
  | nothing
    (h : k.nextSeg s.m_txBuffer (s.m_sackEnabled && s.m_tcb.m_congState == .CA_RECOVERY) = none)
  | silly {next nextHigh : SequenceNumber32}
    (hnext : k.nextSeg s.m_txBuffer (s.m_sackEnabled && s.m_tcb.m_congState == .CA_RECOVERY) =
      some (next, nextHigh))
    (h : s.availableWindow k < s.m_tcb.m_segmentSize ∧
      k.sizeFromSequence s.m_txBuffer next > s.availableWindow k)
  | nagle {next nextHigh : SequenceNumber32}
    (hnext : k.nextSeg s.m_txBuffer (s.m_sackEnabled && s.m_tcb.m_congState == .CA_RECOVERY) =
      some (next, nextHigh))
    (h : s.m_noDelay = false ∧ s.unAckDataCount k > 0 ∧
      k.sizeFromSequence s.m_txBuffer next < s.m_tcb.m_segmentSize)

theorem held_iff : s.Held k ↔ s.availableWindow k = 0 ∨ s.nextSegment k = none := by
  constructor
  · intro h
    cases h with
    | full h => exact .inl h
    | closing h => exact .inr (if_pos h)
    | nothing h =>
      right
      unfold nextSegment
      rw [h]
      simp
    | silly hnext h =>
      right
      unfold nextSegment
      rw [hnext]
      simp only [if_pos h, ite_self]
    | nagle hnext h =>
      right
      unfold nextSegment
      rw [hnext]
      simp only [h, Bool.false_eq_true, not_false_eq_true, and_self, if_true, ite_self]
  · rintro (h | h)
    · exact .full h
    · unfold nextSegment at h
      extract_lets availableWindow at h
      split_ifs at h with hclosing
      · exact .closing hclosing
      · split at h
        · rename_i hnone
          exact .nothing hnone
        · rename_i next nextHigh hnext
          extract_lets availableData at h
          split_ifs at h with hsilly hnagle
          · exact .silly hnext hsilly
          · exact .nagle hnext ⟨by simpa using hnagle.1, hnagle.2⟩

theorem askForData_held : (s.askForData k).Held k ↔ s.Held k := by
  have hsame : (s.askForData k).availableWindow k = s.availableWindow k ∧
      (s.askForData k).nextSegment k = s.nextSegment k := by
    unfold askForData
    split_ifs
    · exact ⟨rfl, rfl⟩
    · split
      · exact ⟨rfl, rfl⟩
      · split_ifs <;> exact ⟨rfl, rfl⟩
  rw [held_iff, held_iff, hsame.1, hsame.2]

theorem sendRound_done {withAck : Bool} (h : sendRound k withAck s = .done s') :
    s.Held k ∧ (s' = s ∨ s' = s.askForData k) := by
  unfold sendRound at h
  split_ifs at h with hwindow
  · split at h
    · rename_i hnone
      exact ⟨held_iff.2 (.inr hnone), .inr (Round.done.inj h).symm⟩
    · cases h
  · have h0 : s.availableWindow k = 0 := by
      apply UInt32.toNat_inj.1
      have hle := UInt32.le_iff_toNat_le.1 (UInt32.not_lt.1 hwindow)
      simpa using hle
    exact ⟨.full h0, .inl (Round.done.inj h).symm⟩

theorem sends_askForData : s.Sends k [] (s.askForData k) := by
  obtain ⟨hsteady, hsent, ht, htx, hstate⟩ := askForData_steady (k := k) (s := s)
  refine ⟨hsteady, by simp [hsent], List.forall_mem_nil _, by simp [htx], fun h => absurd rfl h, ?_, ?_,
    fun _ => hstate⟩
  · rw [ht, if_pos rfl]
  · rw [htx]
    exact ⟨rfl, rfl⟩

theorem sends_loop (hk : k.Buffers) (hseg : 0 < s.m_tcb.m_segmentSize) (he : s.m_endPoint ≠ none)
    (withAck : Bool) {rounds : ℕ} (hn : (s.availableWindow k).toNat ≤ rounds) :
    (∃ gs, s.Sends k gs (sendLoop k withAck rounds s)) ∧ (sendLoop k withAck rounds s).Held k := by
  rw [sendLoop_eq]
  obtain ⟨t, ⟨gs, ht⟩, hdone⟩ :=
    (sendRound_lowers hk hseg he withAck).ends ⟨[], Sends.refl s⟩ hn
  obtain ⟨hheld, hend | hend⟩ := sendRound_done hdone
  · rw [hend]
    exact ⟨⟨gs, ht⟩, hheld⟩
  · rw [hend]
    exact ⟨⟨_, ht.trans sends_askForData⟩, askForData_held.2 hheld⟩

theorem sends_of_held (h : s.Held k) (withAck : Bool) (rounds : ℕ) :
    s.Sends k [] (sendLoop k withAck rounds s) := by
  cases rounds with
  | zero => exact Sends.refl s
  | succ rounds =>
    unfold sendLoop
    rcases held_iff.1 h with hfull | hnone
    · rw [if_neg (by simp [hfull])]
      exact Sends.refl s
    · split_ifs
      · rw [hnone]
        exact sends_askForData
      · exact Sends.refl s

theorem sends_of_not_held (hk : k.Buffers) (hseg : 0 < s.m_tcb.m_segmentSize)
    (he : s.m_endPoint ≠ none) (withAck : Bool) (h : ¬ s.Held k) :
    ∃ g gs, s.Sends k (g :: gs) (sendLoop k withAck (s.availableWindow k).toNat s) ∧
      ∀ next nextHigh, k.nextSeg s.m_txBuffer
        (s.m_sackEnabled && s.m_tcb.m_congState == .CA_RECOVERY) = some (next, nextHigh) →
          g.header.sequenceNumber = next := by
  rw [held_iff, not_or] at h
  obtain ⟨hfull, hnone⟩ := h
  have hpos : 0 < (s.availableWindow k).toNat :=
    Nat.pos_of_ne_zero fun h0 => hfull (UInt32.toNat_inj.1 h0)
  have hwindow : s.availableWindow k > 0 := UInt32.lt_iff_toNat_lt.2 hpos
  obtain ⟨rounds, hrounds⟩ := Nat.exists_eq_add_one.2 hpos
  obtain ⟨⟨next, size⟩, hnext⟩ := Option.ne_none_iff_exists'.1 hnone
  obtain ⟨g, hg, hseq⟩ := sends_round hk hseg withAck he hwindow hnext
  have hagain : sendRound k withAck s =
      .again ((s.askForData k).sendSegment k next size withAck) := by
    simp [sendRound, hwindow, hnext]
  have hless := (sendRound_lowers hk hseg he withAck).lowers s _ ⟨[], Sends.refl s⟩ hagain
  have hn : (((s.askForData k).sendSegment k next size withAck).availableWindow k).toNat ≤ rounds := by
    omega
  obtain ⟨⟨gs, hgs⟩, -⟩ :=
    sends_loop hk (hg.steady.segmentSize ▸ hseg) (hg.steady.endPoint ▸ he) withAck hn
  rw [hrounds, sendLoop_eq, loop_again hagain, ← sendLoop_eq]
  refine ⟨g, gs, hg.trans hgs, fun next' nextHigh' hbuf' => ?_⟩
  obtain ⟨nextHigh, hbuf, -⟩ := nextSegment_some hnext
  rw [hbuf] at hbuf'
  rw [hseq]
  exact (Prod.mk.inj (Option.some.inj hbuf')).1

/-- `SendPendingData` never sends more than the window allows: whatever it sends has a length, of a segment
at most, and is in flight then, and what is in flight after it has sent anything fits into the window. If
it has sent anything, the retransmission timer is running. -/
theorem sends_within_window (hk : k.Buffers) (hseg : 0 < s.m_tcb.m_segmentSize) (withAck : Bool) :
    ∃ gs, s.Sends k gs (s.sendPendingData k withAck) := by
  unfold sendPendingData
  split_ifs with _ he
  · exact ⟨[], Sends.refl s⟩
  · exact ⟨[], Sends.refl s⟩
  · exact (sends_loop hk hseg he withAck le_rfl).1

def writing : TcpSocketBase PlainTxBuffer PlainRxBuffer Unit :=
  run (step .plain) client [.arrive synAck, .send 6000]

theorem sends_within_window_writing :
    ∃ gs, writing.Sends .plain gs (writing.sendPendingData .plain true) :=
  sends_within_window Stack.plain_buffers (by decide +kernel) true

/-- Nor does it stop before it has to: with data in the buffer and an end point, it ends with a window that
is full, with nothing to send, or where one of its rules holds the next segment back; and the bound on its
rounds does not end it. -/
theorem sends_until_held (hk : k.Buffers) (hseg : 0 < s.m_tcb.m_segmentSize)
    (hdata : k.txSize s.m_txBuffer ≠ 0) (he : s.m_endPoint ≠ none) (withAck : Bool) :
    (s.sendPendingData k withAck).Held k ∧ ∀ rounds, (s.availableWindow k).toNat ≤ rounds →
      sendLoop k withAck rounds s = s.sendPendingData k withAck := by
  unfold sendPendingData
  rw [if_neg hdata, if_neg he]
  refine ⟨(sends_loop hk hseg he withAck le_rfl).2, fun rounds hn => ?_⟩
  rw [sendLoop_eq, sendLoop_eq]
  exact (sendRound_lowers hk hseg he withAck).loop_eq ⟨[], Sends.refl s⟩ hn

theorem sends_until_held_writing : (writing.sendPendingData .plain true).Held .plain :=
  (sends_until_held Stack.plain_buffers (by decide +kernel) (by decide +kernel) (by decide +kernel)
    true).1

end Held

end TcpSocketBase

end NetSessional.Tcp
