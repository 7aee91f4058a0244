import NetSessional.Vegas.LossWindow

/-! The duplicate ACKs a socket has counted and its recovery point, against the congestion state.
`DupAck` asserts what it takes the count to be. What the events do to these members is a machine of
its own, which the socket is shown to follow. -/

namespace NetSessional.Vegas
open Runs

/-- The members that decide when a socket enters and leaves loss recovery. -/
structure Recovery where
  congState : TcpCongState
  dupAckCount : UInt32
  retxThresh : UInt32
  recover : SequenceNumber32
  recoverActive : Bool

namespace Recovery

/-- A duplicate ACK: `lost` tells that the segment after the highest ACK is lost, and `passed` that
the highest ACK has passed a point. -/
def dupAck (r : Recovery) (lost : Bool) (passed : SequenceNumber32 → Bool)
    (highTxMark : SequenceNumber32) : Recovery :=
  match r.congState with
  | .CA_LOSS | .CA_RECOVERY => r
  | .CA_CWR => { r with dupAckCount := r.dupAckCount + 1 }
  | .CA_OPEN | .CA_DISORDER =>
    if (r.dupAckCount + 1 = r.retxThresh ∧ (passed r.recover ∨ ¬ r.recoverActive)) ∨ lost then
      { r with
        congState := .CA_RECOVERY
        dupAckCount := r.dupAckCount + 1
        recover := highTxMark
        recoverActive := true }
    else { r with congState := .CA_DISORDER, dupAckCount := r.dupAckCount + 1 }

def settle (r : Recovery) (isDupack : Bool) : Recovery :=
  match r.congState with
  | .CA_OPEN | .CA_CWR => r
  | .CA_DISORDER => if isDupack then r else { r with congState := .CA_OPEN }
  | .CA_RECOVERY => { r with congState := .CA_OPEN, dupAckCount := 0 }
  | .CA_LOSS => { r with congState := .CA_OPEN }

/-- An ACK of new data, `below` telling that it is below a point. -/
def advance (r : Recovery) (isDupack : Bool) (below : SequenceNumber32 → Bool) : Recovery :=
  let r := if isDupack then r else { r with dupAckCount := 0 }
  if below r.recover ∧ (r.congState = .CA_RECOVERY ∨ r.congState = .CA_LOSS) ∨
      r.congState = .CA_CWR then r
  else { r.settle isDupack with recoverActive := r.recoverActive && below r.recover }

/-- What an ACK does that is not stale: if it is a duplicate it counts as one, and if it acks new
data it advances. -/
def receive (r : Recovery) (isDupack advances lost : Bool) (passed below : SequenceNumber32 → Bool)
    (highTxMark : SequenceNumber32) : Recovery :=
  let r := if isDupack then r.dupAck lost passed highTxMark else r
  if advances then r.advance isDupack below else r

/-- The end of a congestion window reduction, `past` telling that the ACK is past a point. -/
def leaveCwr (r : Recovery) (past : SequenceNumber32 → Bool) : Recovery :=
  if r.congState = .CA_CWR ∧ past r.recover then { r with congState := .CA_OPEN } else r

def enterCwr (r : Recovery) (highTxMark : SequenceNumber32) : Recovery :=
  if r.congState = .CA_CWR then r else { r with congState := .CA_CWR, recover := highTxMark }

def reTxTimeout (r : Recovery) (highTxMark : SequenceNumber32) : Recovery :=
  { r with
    congState := .CA_LOSS, dupAckCount := 0, recover := highTxMark, recoverActive := true }

/-- The assertions of `DupAck`, which has counted the ACK when it makes them: it goes from `CA_OPEN`
to `CA_DISORDER` with the first one, and counts beyond the threshold only towards an active recovery
point. -/
def DupAckAsserts (r : Recovery) : Prop :=
  (r.congState = .CA_OPEN → r.dupAckCount + 1 = 1) ∧
    (r.congState = .CA_OPEN ∨ r.congState = .CA_DISORDER →
      r.dupAckCount + 1 ≤ r.retxThresh ∨ r.recoverActive = true)

/-- The recovery point is active in `CA_RECOVERY` and `CA_LOSS` alone; duplicates are counted below
the threshold in `CA_DISORDER`, and none is on count in `CA_OPEN` and `CA_LOSS`. -/
def Law (r : Recovery) : Prop :=
  match r.congState with
  | .CA_OPEN => r.dupAckCount = 0 ∧ r.recoverActive = false
  | .CA_DISORDER =>
    0 < r.dupAckCount ∧ r.dupAckCount < r.retxThresh ∧ r.recoverActive = false
  | .CA_CWR => True
  | .CA_RECOVERY => r.dupAckCount ≤ r.retxThresh ∧ r.recoverActive = true
  | .CA_LOSS => r.dupAckCount = 0 ∧ r.recoverActive = true

variable {r : Recovery}

@[simp] theorem retxThresh_dupAck (lost : Bool) (passed : SequenceNumber32 → Bool)
    (highTxMark : SequenceNumber32) :
    (r.dupAck lost passed highTxMark).retxThresh = r.retxThresh := by
  unfold dupAck
  cases r.congState with
  | CA_OPEN => dsimp only; split <;> rfl
  | CA_DISORDER => dsimp only; split <;> rfl
  | _ => rfl

theorem settle_same (isDupack : Bool) : (r.settle isDupack).retxThresh = r.retxThresh ∧
    (r.settle isDupack).recover = r.recover ∧
    (r.settle isDupack).recoverActive = r.recoverActive := by
  unfold settle
  cases r.congState with
  | CA_DISORDER => cases isDupack <;> exact ⟨rfl, rfl, rfl⟩
  | _ => exact ⟨rfl, rfl, rfl⟩

@[simp] theorem retxThresh_advance (isDupack : Bool) (below : SequenceNumber32 → Bool) :
    (r.advance isDupack below).retxThresh = r.retxThresh := by
  unfold advance
  extract_lets r1
  have h1 : r1.retxThresh = r.retxThresh := by
    unfold r1
    cases isDupack <;> rfl
  split
  · exact h1
  · exact (settle_same isDupack).1.trans h1

theorem count_succ {count thresh : UInt32} (h : count < thresh) :
    0 < count + 1 ∧ count + 1 ≤ thresh ∧ (count + 1 ≠ thresh → count + 1 < thresh) := by
  have hlt : count.toNat < thresh.toNat := h
  have hbound : thresh.toNat < 2 ^ 32 := thresh.toNat_lt
  have hsucc : (count + 1).toNat = count.toNat + 1 := by
    rw [UInt32.toNat_add, UInt32.toNat_one]
    omega
  simp only [UInt32.lt_iff_toNat_lt, UInt32.le_iff_toNat_le, ne_eq, ← UInt32.toNat_inj, hsucc,
    UInt32.toNat_zero]
  omega

theorem Law.asserts (h : r.Law) (hthresh : 0 < r.retxThresh) : r.DupAckAsserts := by
  unfold Law at h
  unfold DupAckAsserts
  cases hc : r.congState with
  | CA_OPEN =>
    simp only [hc] at h
    rw [h.1]
    exact ⟨fun _ => rfl, fun _ => Or.inl (count_succ hthresh).2.1⟩
  | CA_DISORDER =>
    simp only [hc] at h
    exact ⟨by simp, fun _ => Or.inl (count_succ h.2.1).2.1⟩
  | _ => simp

theorem dupAck_eq (hstate : r.congState = .CA_OPEN ∨ r.congState = .CA_DISORDER) (lost : Bool)
    (passed : SequenceNumber32 → Bool) (highTxMark : SequenceNumber32) :
    r.dupAck lost passed highTxMark =
      if (r.dupAckCount + 1 = r.retxThresh ∧ (passed r.recover ∨ ¬ r.recoverActive)) ∨ lost then
        { r with
          congState := .CA_RECOVERY
          dupAckCount := r.dupAckCount + 1
          recover := highTxMark
          recoverActive := true }
      else { r with congState := .CA_DISORDER, dupAckCount := r.dupAckCount + 1 } := by
  unfold dupAck
  rcases hstate with hc | hc
  · rw [hc]
  · rw [hc]

/-- Counting from below the threshold, and with no recovery point active, the socket is in recovery
as soon as the threshold is reached. -/
theorem law_counted (hcount : r.dupAckCount < r.retxThresh) (hactive : r.recoverActive = false)
    (hstate : r.congState = .CA_OPEN ∨ r.congState = .CA_DISORDER) (lost : Bool)
    (passed : SequenceNumber32 → Bool) (highTxMark : SequenceNumber32) :
    (r.dupAck lost passed highTxMark).Law := by
  obtain ⟨hpos, hle, hlt⟩ := count_succ hcount
  rw [dupAck_eq hstate]
  split_ifs with henters
  · exact ⟨hle, rfl⟩
  · have hne : r.dupAckCount + 1 ≠ r.retxThresh := by
      intro hall
      exact henters (Or.inl ⟨hall, Or.inr (by simp [hactive])⟩)
    exact ⟨hpos, hlt hne, hactive⟩

theorem Law.dupAck (h : r.Law) (hthresh : 0 < r.retxThresh) (lost : Bool)
    (passed : SequenceNumber32 → Bool) (highTxMark : SequenceNumber32) :
    (r.dupAck lost passed highTxMark).Law := by
  have hlaw : r.Law := h
  unfold Law at h
  cases hc : r.congState with
  | CA_OPEN =>
    simp only [hc] at h
    exact law_counted (h.1 ▸ hthresh) h.2 (Or.inl hc) lost passed highTxMark
  | CA_DISORDER =>
    simp only [hc] at h
    exact law_counted h.2.1 h.2.2 (Or.inr hc) lost passed highTxMark
  | CA_CWR => simp [Law, Recovery.dupAck, hc]
  | CA_RECOVERY => simpa [Recovery.dupAck, hc] using hlaw
  | CA_LOSS => simpa [Recovery.dupAck, hc] using hlaw

theorem Law.advance (h : r.Law) (isDupack : Bool) (below : SequenceNumber32 → Bool) :
    (r.advance isDupack below).Law := by
  unfold Law at h
  cases hc : r.congState with
  | CA_OPEN =>
    simp only [hc] at h
    cases isDupack <;> simp [Recovery.advance, settle, Law, hc, h]
  | CA_DISORDER =>
    simp only [hc] at h
    cases isDupack <;> simp [Recovery.advance, settle, Law, hc, h]
  | CA_CWR => cases isDupack <;> simp [Recovery.advance, Law, hc]
  | CA_RECOVERY =>
    simp only [hc] at h
    cases isDupack <;> cases hb : below r.recover <;>
      simp [Recovery.advance, settle, Law, hc, hb, h]
  | CA_LOSS =>
    simp only [hc] at h
    cases isDupack <;> cases hb : below r.recover <;>
      simp [Recovery.advance, settle, Law, hc, hb, h]

/-- What is left of a congestion window reduction goes with the ACK that ends it, unless that ACK is
a duplicate and others have been counted. -/
theorem law_left (hopen : r.congState = .CA_OPEN) (hthresh : 1 < r.retxThresh) {isDupack : Bool}
    (hdup : isDupack = true → r.dupAckCount = 0) {below : SequenceNumber32 → Bool}
    (hbelow : below r.recover = false) (lost : Bool) (passed : SequenceNumber32 → Bool)
    (highTxMark : SequenceNumber32) :
    (r.receive isDupack true lost passed below highTxMark).Law := by
  unfold receive
  rw [if_pos rfl]
  cases isDupack with
  | false => simp [Recovery.advance, settle, Law, hopen, hbelow]
  | true =>
    have hzero : r.dupAckCount = 0 := hdup rfl
    have hne : (1 : UInt32) ≠ r.retxThresh := UInt32.ne_of_lt hthresh
    have hdupAck : r.dupAck lost passed highTxMark =
        if lost then
          { r with
            congState := .CA_RECOVERY
            dupAckCount := 1
            recover := highTxMark
            recoverActive := true }
        else { r with congState := .CA_DISORDER, dupAckCount := 1 } := by
      rw [dupAck_eq (Or.inl hopen)]
      simp [hzero, hne]
    rw [if_pos rfl, hdupAck]
    cases lost with
    | false => simpa [Recovery.advance, settle, Law, hbelow] using hthresh
    | true =>
      refine Law.advance ?_ true below
      exact ⟨UInt32.le_of_lt hthresh, rfl⟩

/-- What is left of a reduction contradicts the assertions exactly if duplicates have been counted. -/
theorem asserts_left_iff (hopen : r.congState = .CA_OPEN) (hthresh : 0 < r.retxThresh) :
    r.DupAckAsserts ↔ r.dupAckCount = 0 := by
  constructor
  · intro h
    have hone : r.dupAckCount + 1 = 0 + 1 := h.1 hopen
    exact (UInt32.add_left_inj 1).1 hone
  · intro hzero
    unfold DupAckAsserts
    rw [hzero]
    exact ⟨fun _ => rfl, fun _ => Or.inl (count_succ hthresh).2.1⟩

theorem dupAck_ne_cwr (hcwr : r.congState ≠ .CA_CWR) (lost : Bool)
    (passed : SequenceNumber32 → Bool) (highTxMark : SequenceNumber32) :
    (r.dupAck lost passed highTxMark).congState ≠ .CA_CWR := by
  unfold dupAck
  cases hc : r.congState with
  | CA_OPEN => dsimp only; split <;> simp
  | CA_DISORDER => dsimp only; split <;> simp
  | CA_CWR => exact absurd hc hcwr
  | CA_RECOVERY => simp [hc]
  | CA_LOSS => simp [hc]

theorem advance_ne_cwr (hcwr : r.congState ≠ .CA_CWR) (isDupack : Bool)
    (below : SequenceNumber32 → Bool) : (r.advance isDupack below).congState ≠ .CA_CWR := by
  have hsettle : ∀ r : Recovery, r.congState ≠ .CA_CWR →
      (r.settle isDupack).congState ≠ .CA_CWR := by
    intro r hr
    unfold settle
    cases hc : r.congState with
    | CA_DISORDER => cases isDupack <;> simp [hc]
    | CA_CWR => exact absurd hc hr
    | _ => simp [hc]
  unfold advance
  extract_lets r1
  have h1 : r1.congState ≠ .CA_CWR := by
    unfold r1
    cases isDupack <;> exact hcwr
  split
  · exact h1
  · exact hsettle r1 h1

section Receive
variable (isDupack advances lost : Bool) (passed below : SequenceNumber32 → Bool)
  (highTxMark : SequenceNumber32)

theorem Law.receive (h : r.Law) (hthresh : 0 < r.retxThresh) :
    (r.receive isDupack advances lost passed below highTxMark).Law := by
  unfold Recovery.receive
  extract_lets r1
  have h1 : r1.Law := by
    unfold r1
    cases isDupack with
    | false => exact h
    | true => exact h.dupAck hthresh lost passed highTxMark
  cases advances with
  | false => exact h1
  | true => exact h1.advance isDupack below

theorem receive_ne_cwr (hcwr : r.congState ≠ .CA_CWR) :
    (r.receive isDupack advances lost passed below highTxMark).congState ≠ .CA_CWR := by
  unfold receive
  extract_lets r1
  have h1 : r1.congState ≠ .CA_CWR := by
    unfold r1
    cases isDupack with
    | false => exact hcwr
    | true => exact dupAck_ne_cwr hcwr lost passed highTxMark
  cases advances with
  | false => exact h1
  | true => exact advance_ne_cwr h1 isDupack below

theorem retxThresh_receive :
    (r.receive isDupack advances lost passed below highTxMark).retxThresh = r.retxThresh := by
  unfold receive
  cases isDupack <;> cases advances <;> simp

end Receive

end Recovery

namespace TcpSocketBase
variable {ρ : Type} (ns : Ns3 ρ) (s : TcpSocketBase ρ)

def status : Recovery where
  congState := s.tcb.m_congState
  dupAckCount := s.m_dupAckCount
  retxThresh := s.m_retxThresh
  recover := s.m_recover
  recoverActive := s.m_recoverActive

def isDupack (a : AckInput) : Bool :=
  if s.m_sackEnabled then decide (a.bytesSacked > 0)
  else a.ackNumber == a.oldHeadSequence && ns.seqLt a.ackNumber s.tcb.m_highTxMark

def advances (a : AckInput) : Bool :=
  a.ackNumber != a.oldHeadSequence && ns.seqGt a.ackNumber a.oldHeadSequence

/-- The socket when an ACK that is not stale is tested for a duplicate. -/
def atAck (a : AckInput) : TcpSocketBase ρ :=
  let s := ((s.beforeLeaving ns a).leaveCwr ns a).echo ns a
  let s := s.write ns fun tcb => { tcb with m_bytesInFlight := a.bytesInFlight }
  s.write ns fun tcb => { tcb with m_lastAckedSeq := a.ackNumber }

/-- What `DupAck` asserts, of an ACK that gets there. -/
def AssertsHold (e : SocketEvent) : Prop :=
  ∀ a, e = .receivedAck a → ¬ ns.seqLt a.ackNumber a.oldHeadSequence →
    (s.atAck ns a).isDupack ns a = true → (s.atAck ns a).status.DupAckAsserts

def Quiet : Call → Prop
  | .enterRecovery _ => False
  | .reTxTimeout _ _ => False
  | .other (.enterCwr _) => False
  | .other (.write g) => ∀ tcb, (g tcb).m_congState = tcb.m_congState
  | _ => True

variable {ns s} {r : Recovery}

theorem status_call (hs : s.status = r) {c : Call} (hc : Quiet c) : (s.call ns c).status = r := by
  have hstate : (s.flow.step ns c).tcb.m_congState = s.tcb.m_congState := by
    rw [Flow.step_congState]
    cases c with
    | pktsAcked n rtt => rfl
    | increaseWindow n => rfl
    | enterRecovery d => exact absurd hc id
    | reTxTimeout b h => exact absurd hc id
    | other op =>
      cases op with
      | enterCwr d => exact absurd hc id
      | write g => exact hc _
      | _ => rfl
  subst hs
  simp only [status, call, tcb] at hstate ⊢
  rw [hstate]

theorem status_write (hs : s.status = r) {g : SocketState → SocketState}
    (hg : ∀ tcb, (g tcb).m_congState = tcb.m_congState) : (s.write ns g).status = r :=
  status_call hs hg

theorem status_ite {p : Prop} [Decidable p] {b c : TcpSocketBase ρ} (hb : b.status = r)
    (hc : c.status = r) : (if p then b else c).status = r := by
  split
  · exact hb
  · exact hc

theorem status_congestionStateSet (hs : s.status = r) (newState : TcpCongState) :
    (s.congestionStateSet ns newState).status = { r with congState := newState } := by
  have hcall : (s.call ns (.other (.congestionStateSet newState))).status = r :=
    status_call hs trivial
  subst hcall
  rfl

theorem status_sendDataPacket (hs : s.status = r) (segment : Segment) (b : Bool) :
    (s.sendDataPacket ns segment b).status = r := by
  unfold sendDataPacket
  extract_lets s0 s1 s2
  have h0 : s0.status = r := status_write hs fun _ => rfl
  have h1 : s1.status = r := status_ite h0 hs
  have h2 : s2.status = r := status_ite (status_call h1 trivial) h1
  exact status_write h2 fun _ => rfl

theorem status_doRetransmit (hs : s.status = r) (segment : Segment) :
    (s.doRetransmit ns segment).status = r := by
  unfold doRetransmit
  extract_lets s1
  have h1 : s1.status = r := status_write hs fun _ => rfl
  exact status_sendDataPacket h1 segment true

theorem status_pktsAcked (hs : s.status = r) (n : UInt32) : (s.pktsAcked ns n).status = r :=
  status_call hs trivial

theorem status_newAck (hs : s.status = r) (ack : SequenceNumber32) :
    (s.newAck ns ack).status = r :=
  status_ite (status_write hs fun _ => rfl) hs

theorem status_partialAck (hs : s.status = r) (a : AckInput) (segs bytes : UInt32) :
    (s.partialAck ns a segs bytes).status = r := by
  unfold partialAck
  extract_lets s1 s2
  have h1 : s1.status = r := status_ite (status_call hs trivial) hs
  have h2 : s2.status = r :=
    status_ite h1 (status_write (status_doRetransmit h1 _) fun _ => rfl)
  exact status_newAck (status_pktsAcked h2 1) _

theorem status_lossAck (hs : s.status = r) (a : AckInput) (segs : UInt32) :
    (s.lossAck ns a segs).status = r := by
  have h1 : (s.pktsAcked ns segs).status = r := status_pktsAcked hs segs
  have h2 : ((s.pktsAcked ns segs).call ns (.increaseWindow segs)).status = r :=
    status_call h1 trivial
  exact status_newAck h2 _

theorem status_cwrAck (hs : s.status = r) (a : AckInput) (segs : UInt32) :
    (s.cwrAck ns a segs).status = r := by
  unfold cwrAck
  extract_lets s1 s2
  have h1 : s1.status = r := status_pktsAcked hs segs
  have h2 : s2.status = r := status_ite (status_call h1 trivial) h1
  exact status_newAck h2 _

theorem status_enterRecovery (hs : s.status = r) (a : AckInput) :
    (s.enterRecovery ns a).status =
      { r with
        congState := .CA_RECOVERY
        recover := s.tcb.m_highTxMark
        recoverActive := true } := by
  unfold TcpSocketBase.enterRecovery
  extract_lets s1 s2 _ s3
  have h2 : s2.status = { r with recover := s.tcb.m_highTxMark, recoverActive := true } := by
    refine status_write ?_ fun _ => rfl
    subst hs
    rfl
  have h3 : s3.status =
      { r with
        congState := .CA_RECOVERY
        recover := s.tcb.m_highTxMark
        recoverActive := true } := by
    have hcall : s3.status = { s2.status with congState := .CA_RECOVERY } := rfl
    rw [hcall, h2]
  exact status_doRetransmit h3 _

theorem status_counted (hr : r.congState = .CA_OPEN ∨ r.congState = .CA_DISORDER)
    (hs : s.status = { r with congState := .CA_DISORDER, dupAckCount := r.dupAckCount + 1 })
    (a : AckInput) :
    (if s.m_dupAckCount = s.m_retxThresh ∧
        (ns.seqGe s.m_highRxAckMark s.m_recover ∨ ¬ s.m_recoverActive) then s.enterRecovery ns a
      else if a.isLost (s.m_highRxAckMark + s.tcb.m_segmentSize) then s.enterRecovery ns a
      else s).status =
    r.dupAck (a.isLost (s.m_highRxAckMark + s.tcb.m_segmentSize)) (ns.seqGe s.m_highRxAckMark)
      s.tcb.m_highTxMark := by
  have hcount : s.m_dupAckCount = r.dupAckCount + 1 := congrArg Recovery.dupAckCount hs
  have hthresh : s.m_retxThresh = r.retxThresh := congrArg Recovery.retxThresh hs
  have hrecover : s.m_recover = r.recover := congrArg Recovery.recover hs
  have hactive : s.m_recoverActive = r.recoverActive := congrArg Recovery.recoverActive hs
  have henter : (s.enterRecovery ns a).status = _ := status_enterRecovery hs a
  rw [hcount, hthresh, hrecover, hactive]
  rw [Recovery.dupAck_eq hr]
  split_ifs with hpassed henters hlost henters henters
  · exact henter
  · exact absurd (Or.inl hpassed) henters
  · exact henter
  · exact absurd (Or.inr hlost) henters
  · exact absurd henters (not_or.2 ⟨hpassed, hlost⟩)
  · exact hs

theorem status_dupAck (hs : s.status = r) (a : AckInput) : ∃ lost highTxMark,
    (s.dupAck ns a).status = r.dupAck lost (ns.seqGe s.m_highRxAckMark) highTxMark := by
  unfold TcpSocketBase.dupAck
  extract_lets s1 s2
  have hstate : s.tcb.m_congState = r.congState := congrArg Recovery.congState hs
  have h1 : r.congState ≠ .CA_RECOVERY →
      s1.status = { r with dupAckCount := r.dupAckCount + 1 } := by
    intro hne
    have heq : s1 = { s with m_dupAckCount := s.m_dupAckCount + 1 } := if_pos (hstate ▸ hne)
    subst hs
    rw [heq]
    rfl
  have hs1 : s1.tcb.m_congState = r.congState := by
    unfold s1
    split <;> exact hstate
  have hmark1 : s1.m_highRxAckMark = s.m_highRxAckMark := by
    unfold s1
    split <;> rfl
  have hmark : s2.m_highRxAckMark = s.m_highRxAckMark := by
    unfold s2
    split
    · exact hmark1
    · exact hmark1
  cases hc : r.congState with
  | CA_LOSS =>
    refine ⟨false, 0, ?_⟩
    rw [if_pos (hstate.trans hc), hs, Recovery.dupAck, hc]
  | CA_RECOVERY =>
    refine ⟨false, 0, ?_⟩
    have hcounted : s1 = s := if_neg fun hne => hne (hstate.trans hc)
    have hsame : s2 = s1 := if_neg fun hopen => by simp [hs1, hc] at hopen
    have h2 : s2.status = r := hsame ▸ hcounted.symm ▸ hs
    rw [if_neg (by simp [hstate, hc]), if_pos (by rw [hsame, hs1, hc]), Recovery.dupAck, hc]
    exact status_call h2 trivial
  | CA_CWR =>
    refine ⟨false, 0, ?_⟩
    have hsame : s2 = s1 := if_neg fun hopen => by simp [hs1, hc] at hopen
    rw [if_neg (by simp [hstate, hc]), hsame, if_neg (by simp [hs1, hc]),
      if_neg (by simp [hs1, hc]), Recovery.dupAck, hc]
    simpa [hc] using h1 (by simp [hc])
  | CA_OPEN =>
    have hset : s2 = s1.congestionStateSet ns .CA_DISORDER := if_pos (hs1.trans hc)
    have h2 : s2.status = { r with congState := .CA_DISORDER, dupAckCount := r.dupAckCount + 1 } := by
      rw [hset, status_congestionStateSet (h1 (by simp [hc]))]
    have hdisorder : s2.tcb.m_congState = .CA_DISORDER := congrArg Recovery.congState h2
    rw [if_neg (by simp [hstate, hc]), if_neg (by simp [hdisorder]), if_pos hdisorder, ← hmark]
    exact ⟨_, _, status_counted (Or.inl hc) h2 a⟩
  | CA_DISORDER =>
    have hsame : s2 = s1 := if_neg fun hopen => by simp [hs1, hc] at hopen
    have h2 : s2.status = { r with congState := .CA_DISORDER, dupAckCount := r.dupAckCount + 1 } := by
      rw [hsame, h1 (by simp [hc]), ← hc]
    have hdisorder : s2.tcb.m_congState = .CA_DISORDER := congrArg Recovery.congState h2
    rw [if_neg (by simp [hstate, hc]), if_neg (by simp [hdisorder]), if_pos hdisorder, ← hmark]
    exact ⟨_, _, status_counted (Or.inr hc) h2 a⟩

theorem status_settle (hs : s.status = r) (a : AckInput) (d : Bool) (old segs : UInt32) :
    (s.settle ns a d old segs).2.2.status = r.settle d := by
  have hstate : s.tcb.m_congState = r.congState := congrArg Recovery.congState hs
  unfold TcpSocketBase.settle Recovery.settle
  rw [hstate]
  cases hc : r.congState with
  | CA_OPEN => exact status_pktsAcked hs _
  | CA_DISORDER =>
    dsimp -zeta only
    extract_lets s1
    have h1 : s1.status = r := status_ite (status_pktsAcked hs _) hs
    cases d with
    | true => exact h1
    | false => exact status_congestionStateSet h1 _
  | CA_CWR => exact hs
  | CA_RECOVERY =>
    exact congrArg (fun r : Recovery => { r with dupAckCount := 0 })
      (status_congestionStateSet (status_pktsAcked hs _) .CA_OPEN)
  | CA_LOSS => exact status_congestionStateSet (status_pktsAcked hs _) _

theorem status_fullAck (hs : s.status = r) (a : AckInput) (d : Bool) (old segs : UInt32) :
    (s.fullAck ns a d old segs).status =
      { r.settle d with
        recoverActive := (r.settle d).recoverActive && ns.seqLt a.ackNumber (r.settle d).recover } := by
  unfold fullAck
  have h0 : (s.settle ns a d old segs).2.2.status = _ := status_settle hs a d old segs
  generalize s.settle ns a d old segs = w at h0
  obtain ⟨segs', exited, s0⟩ := w
  dsimp -zeta only
  extract_lets s1 s2 s3 s4 s5 s6
  have hge : ns.seqGe a.ackNumber s0.m_recover = !ns.seqLt a.ackNumber s0.m_recover := by
    simp [Ns3.seqGe, Ns3.seqLt, bne]
  have h1 : s1.status =
      { r.settle d with
        recoverActive :=
          (r.settle d).recoverActive && ns.seqLt a.ackNumber (r.settle d).recover } := by
    rw [← h0]
    unfold s1
    rw [hge]
    change _ = { s0.status with
      recoverActive := s0.m_recoverActive && ns.seqLt a.ackNumber s0.m_recover }
    cases ns.seqLt a.ackNumber s0.m_recover with
    | false => simp [status, tcb]
    | true => simp [status, tcb]
  have h3 : s3.status = _ := status_write (status_newAck h1 a.ackNumber) fun _ => rfl
  have h4 : s4.status = _ := status_ite (status_call h3 trivial) h1
  have h5 : s5.status = _ := status_call h4 trivial
  have h6 : s6.status = _ := status_write h5 fun _ => rfl
  exact status_ite (status_newAck h6 _) h4

theorem status_advancingAck (hs : s.status = r) (a : AckInput) (d : Bool) (old : UInt32) :
    (s.advancingAck ns a d old).status = r.advance d (ns.seqLt a.ackNumber) := by
  unfold TcpSocketBase.advancingAck Recovery.advance
  have h0 : (s.countAcked a).2.2.status = r := by
    subst hs
    unfold countAcked
    extract_lets
    split <;> rfl
  generalize s.countAcked a = w at h0
  obtain ⟨segs, bytes, s0⟩ := w
  dsimp -zeta only
  extract_lets s1 r1
  have h1 : s1.status = r1 := by
    unfold s1 r1
    cases d with
    | true => exact h0
    | false => exact congrArg (fun r : Recovery => { r with dupAckCount := 0 }) h0
  clear_value s1 r1
  have hstate : s1.tcb.m_congState = r1.congState := congrArg Recovery.congState h1
  have hrecover : s1.m_recover = r1.recover := congrArg Recovery.recover h1
  rw [hstate, hrecover]
  split_ifs with hearly hstays hloss hstays hcwr hstays hstays
  · exact status_partialAck h1 _ _ _
  · exact absurd (Or.inl ⟨hearly.1, Or.inl hearly.2⟩) hstays
  · exact status_lossAck h1 _ _
  · exact absurd (Or.inl ⟨hloss.1, Or.inr hloss.2⟩) hstays
  · exact status_cwrAck h1 _ _
  · exact absurd (Or.inr hcwr) hstays
  · rcases hstays with ⟨hbelow, hc | hc⟩ | hc
    · exact absurd ⟨hbelow, hc⟩ hearly
    · exact absurd ⟨hbelow, hc⟩ hloss
    · exact absurd hc hcwr
  · obtain ⟨-, hsame, hactive⟩ := Recovery.settle_same (r := r1) d
    have hfull : (s1.fullAck ns a d old segs).status = _ := status_fullAck h1 a d old segs
    rw [hsame, hactive] at hfull
    exact hfull

theorem status_processAck (hs : s.status = r) (a : AckInput) {d : Bool}
    (hd : (s.write ns fun tcb => { tcb with m_lastAckedSeq := a.ackNumber }).isDupack ns a = d) :
    ∃ lost passed highTxMark, (s.processAck ns a).status =
      r.receive d (advances ns a) lost passed (ns.seqLt a.ackNumber) highTxMark := by
  unfold processAck
  extract_lets old s1 d' s2
  have h1 : s1.status = r := status_write hs fun _ => rfl
  have hd' : d' = d := hd
  obtain ⟨lost, highTxMark, hdup⟩ :
      ∃ l m, (s1.dupAck ns a).status = r.dupAck l (ns.seqGe s1.m_highRxAckMark) m :=
    status_dupAck h1 a
  have h2 : s2.status = if d then r.dupAck lost (ns.seqGe s1.m_highRxAckMark) highTxMark else r := by
    unfold s2
    rw [hd']
    cases d with
    | false => exact h1
    | true => exact hdup
  clear_value s2
  refine ⟨lost, ns.seqGe s1.m_highRxAckMark, highTxMark, ?_⟩
  unfold Recovery.receive
  rw [← h2]
  by_cases heq : a.ackNumber = a.oldHeadSequence
  · have hadv : advances ns a = false := by simp [advances, heq]
    rw [if_pos heq, hadv, if_neg Bool.false_ne_true]
    split_ifs
    · rfl
    · exact status_write rfl fun _ => rfl
    · exact status_pktsAcked rfl 1
  · rw [if_neg heq]
    by_cases hgt : ns.seqGt a.ackNumber a.oldHeadSequence = true
    · have hadv : advances ns a = true := by simp [advances, heq, hgt]
      rw [if_pos hgt, hadv, if_pos rfl, hd']
      exact status_advancingAck rfl a d old
    · have hadv : advances ns a = false := by simp [advances, hgt]
      rw [if_neg hgt, hadv, if_neg Bool.false_ne_true]

theorem status_beforeLeaving (hs : s.status = r) (a : AckInput) :
    (s.beforeLeaving ns a).status = r := by
  unfold beforeLeaving
  extract_lets s1
  have h1 : s1.status = r := status_ite (status_write hs fun _ => rfl) hs
  exact status_write h1 fun _ => rfl

theorem status_leaveCwr (hs : s.status = r) (a : AckInput) :
    (s.leaveCwr ns a).status = r.leaveCwr (ns.seqGt a.ackNumber) := by
  subst hs
  unfold TcpSocketBase.leaveCwr Recovery.leaveCwr
  extract_lets s1 s2
  change _ = if s.tcb.m_congState = .CA_CWR ∧ ns.seqGt a.ackNumber s.m_recover then _ else _
  split_ifs
  · have h1 : s1.status = { s.status with congState := .CA_OPEN } := rfl
    have h2 : s2.status = { s.status with congState := .CA_OPEN } := status_write h1 fun _ => rfl
    exact status_call h2 trivial
  · rfl

theorem status_enterCwr (hs : s.status = r) (a : AckInput) : ∃ highTxMark,
    (s.enterCwr ns a).status = { r with congState := .CA_CWR, recover := highTxMark } := by
  subst hs
  unfold TcpSocketBase.enterCwr
  extract_lets s1 s2
  have h1 : s1.status = s.status := status_write rfl fun _ => rfl
  have h2 : s2.status = { s.status with recover := s1.tcb.m_highTxMark } := by
    rw [← h1]
    rfl
  refine ⟨s1.tcb.m_highTxMark, ?_⟩
  have h3 : (s2.call ns (.other (.enterCwr (s2.reduction a a.bytesInFlight)))).status =
      { s2.status with congState := .CA_CWR } := rfl
  rw [h3, h2]

theorem status_echo (hs : s.status = r) (a : AckInput) : ∃ highTxMark,
    (s.echo ns a).status = r ∨
      a.ECE = true ∧ (s.echo ns a).status = r.enterCwr highTxMark := by
  unfold TcpSocketBase.echo
  extract_lets s1 s2
  have h1 : s1.status = r := by
    subst hs
    rfl
  have h2 : s2.status = r := status_write h1 fun _ => rfl
  obtain ⟨highTxMark, hcwr⟩ :
      ∃ m, (s2.enterCwr ns a).status = { r with congState := .CA_CWR, recover := m } :=
    status_enterCwr h2 a
  have hstate : s2.tcb.m_congState = r.congState := congrArg Recovery.congState h2
  refine ⟨highTxMark, ?_⟩
  split_ifs with hece hnews hnot hstops
  · refine Or.inr ⟨hece.2.2, ?_⟩
    rw [hcwr, Recovery.enterCwr, if_neg (hstate ▸ hnot)]
  · exact Or.inl h2
  · exact Or.inl hs
  · exact Or.inl (status_write hs fun _ => rfl)
  · exact Or.inl hs

variable (ns s) in
/-- An ACK that is not stale ends a reduction, and may start one, before it is tested. -/
theorem status_atAck (a : AckInput) : ∃ highTxMark,
    (s.atAck ns a).status = s.status.leaveCwr (ns.seqGt a.ackNumber) ∨
      a.ECE = true ∧
        (s.atAck ns a).status = (s.status.leaveCwr (ns.seqGt a.ackNumber)).enterCwr highTxMark := by
  unfold atAck
  extract_lets s1 s2
  have hleft : ((s.beforeLeaving ns a).leaveCwr ns a).status = _ :=
    status_leaveCwr (status_beforeLeaving rfl a) a
  obtain ⟨highTxMark, h1⟩ : ∃ m, s1.status = _ ∨ a.ECE = true ∧ s1.status = _ :=
    status_echo hleft a
  have h2 : s2.status = s1.status := status_write rfl fun _ => rfl
  have h3 : (s2.write ns fun tcb => { tcb with m_lastAckedSeq := a.ackNumber }).status =
      s1.status := status_write h2 fun _ => rfl
  refine ⟨highTxMark, ?_⟩
  rw [h3]
  exact h1

theorem status_receivedAck (s : TcpSocketBase ρ) {a : AckInput}
    (hold : ¬ ns.seqLt a.ackNumber a.oldHeadSequence) :
    ∃ lost passed highTxMark, (s.receivedAck ns a).status =
      (s.atAck ns a).status.receive ((s.atAck ns a).isDupack ns a) (advances ns a) lost passed
        (ns.seqLt a.ackNumber) highTxMark := by
  rw [receivedAck_eq, if_neg hold]
  unfold afterLeaving
  extract_lets s1 s2 s3
  have hlast : (s.atAck ns a).status = s2.status := status_write rfl fun _ => rfl
  obtain ⟨lost, passed, highTxMark, h3⟩ : ∃ lost passed highTxMark, s3.status =
      s2.status.receive ((s.atAck ns a).isDupack ns a) (advances ns a) lost passed
        (ns.seqLt a.ackNumber) highTxMark := status_processAck rfl a rfl
  refine ⟨lost, passed, highTxMark, ?_⟩
  rw [hlast]
  exact status_write h3 fun _ => rfl

theorem status_reTxTimeout (hs : s.status = r) (t : TimeoutInput) : ∃ highTxMark,
    (s.reTxTimeout ns t).status = r ∨
      (s.reTxTimeout ns t).status = r.reTxTimeout highTxMark := by
  subst hs
  unfold TcpSocketBase.reTxTimeout
  extract_lets s1 s2
  refine ⟨s1.tcb.m_highTxMark, ?_⟩
  split_ifs
  · exact Or.inl rfl
  · exact Or.inl rfl
  · exact Or.inl rfl
  · exact Or.inl rfl
  · exact Or.inr rfl

variable (ns s) in
theorem status_step {e : SocketEvent} (hopen : ∀ handshake, e ≠ .established handshake) :
    (s.step ns e).status = s.status ∨
      (∃ highTxMark, (s.step ns e).status = s.status.reTxTimeout highTxMark) ∨
      ∃ a, e = .receivedAck a ∧ ¬ ns.seqLt a.ackNumber a.oldHeadSequence := by
  cases e with
  | syn sackPermitted ackNumber =>
    refine Or.inl ?_
    change (s.syn ns sackPermitted ackNumber).status = s.status
    unfold syn
    extract_lets s1 s2
    have h2 : s2.status = s1.status := status_write rfl fun _ => rfl
    clear_value s2
    split
    · exact h2
    · exact h2
  | established handshake => exact absurd rfl (hopen handshake)
  | estimateRtt estimate => exact Or.inl (status_write rfl fun _ => rfl)
  | updateWindowSize ackNumber =>
    refine Or.inl ?_
    unfold step
    exact status_ite rfl rfl
  | receivedAck a =>
    by_cases hold : ns.seqLt a.ackNumber a.oldHeadSequence = true
    · refine Or.inl ?_
      change (s.receivedAck ns a).status = s.status
      rw [receivedAck_eq, if_pos hold]
    · exact Or.inr (Or.inr ⟨a, rfl, hold⟩)
  | reTxTimeout t =>
    obtain ⟨highTxMark, h | h⟩ : ∃ m, (s.reTxTimeout ns t).status = s.status ∨
        (s.reTxTimeout ns t).status = s.status.reTxTimeout m := status_reTxTimeout rfl t
    · exact Or.inl h
    · exact Or.inr (Or.inl ⟨highTxMark, h⟩)
  | sendPending segment =>
    refine Or.inl ?_
    change (s.sendPending ns segment).status = s.status
    unfold sendPending
    extract_lets s1 s2
    have h1 : s1.status = s.status := status_write rfl fun _ => rfl
    have h2 : s2.status = s.status := status_sendDataPacket h1 segment false
    exact status_write h2 fun _ => rfl
  | ecn ecnState => exact Or.inl (status_write rfl fun _ => rfl)

end TcpSocketBase

section Runs
variable {ρ : Type} (ns : Ns3 ρ)
open TcpSocketBase

/-- The event opens no connection and carries no ECN echo. -/
structure SocketEvent.Echoless (e : SocketEvent) : Prop where
  opened : ∀ handshake, e ≠ .established handshake
  silent : ∀ a, e = .receivedAck a → a.ECE = false

/-- The event opens no connection, and an ACK that is past the recovery point of a reduction is one of
new data. -/
structure Regular (s : TcpSocketBase ρ) (e : SocketEvent) : Prop where
  opened : ∀ handshake, e ≠ .established handshake
  beyond : ∀ a, e = .receivedAck a → s.tcb.m_congState = .CA_CWR →
    ns.seqGt a.ackNumber s.m_recover = true → advances ns a = true

/-- An ACK that ends a congestion window reduction is no duplicate, or none has been counted. -/
def EndsCleanly (s : TcpSocketBase ρ) (e : SocketEvent) : Prop :=
  ∀ a, e = .receivedAck a → ¬ ns.seqLt a.ackNumber a.oldHeadSequence →
    s.tcb.m_congState = .CA_CWR → (s.atAck ns a).tcb.m_congState = .CA_OPEN →
      (s.atAck ns a).isDupack ns a = true → s.m_dupAckCount = 0

variable {ns} {s : TcpSocketBase ρ} {e : SocketEvent}

theorem atAck_cases (h : s.status.Law) (a : AckInput) : (s.atAck ns a).status.Law ∨
    s.tcb.m_congState = .CA_CWR ∧ ns.seqGt a.ackNumber s.m_recover = true ∧
      (s.atAck ns a).status = { s.status with congState := .CA_OPEN } := by
  obtain ⟨highTxMark, hat⟩ := status_atAck ns s a
  by_cases hleaves : s.tcb.m_congState = .CA_CWR ∧ ns.seqGt a.ackNumber s.m_recover = true
  · have hleft : s.status.leaveCwr (ns.seqGt a.ackNumber) =
        { s.status with congState := .CA_OPEN } := if_pos hleaves
    rw [hleft] at hat
    rcases hat with hat | ⟨-, hat⟩
    · exact Or.inr ⟨hleaves.1, hleaves.2, hat⟩
    · rw [hat]
      exact Or.inl trivial
  · have hstays : s.status.leaveCwr (ns.seqGt a.ackNumber) = s.status := if_neg hleaves
    rw [hstays] at hat
    rcases hat with hat | ⟨-, hat⟩
    · exact Or.inl (hat ▸ h)
    · rw [hat, Recovery.enterCwr]
      split_ifs
      · exact Or.inl h
      · exact Or.inl trivial

theorem atAck_same (s : TcpSocketBase ρ) (a : AckInput) :
    (s.atAck ns a).status.retxThresh = s.m_retxThresh ∧
      (s.atAck ns a).status.dupAckCount = s.m_dupAckCount := by
  have hleave : (s.status.leaveCwr (ns.seqGt a.ackNumber)).retxThresh = s.m_retxThresh ∧
      (s.status.leaveCwr (ns.seqGt a.ackNumber)).dupAckCount = s.m_dupAckCount := by
    unfold Recovery.leaveCwr
    split <;> exact ⟨rfl, rfl⟩
  obtain ⟨highTxMark, hat | ⟨-, hat⟩⟩ := status_atAck ns s a
  · exact hat ▸ hleave
  · rw [hat, Recovery.enterCwr]
    split_ifs
    · exact hleave
    · exact hleave

theorem retxThresh_step (hopen : ∀ handshake, e ≠ .established handshake) :
    (s.step ns e).m_retxThresh = s.m_retxThresh := by
  rcases status_step ns s hopen with hsame | ⟨highTxMark, htimeout⟩ | ⟨a, rfl, hold⟩
  · exact congrArg Recovery.retxThresh hsame
  · exact congrArg Recovery.retxThresh htimeout
  · obtain ⟨lost, passed, highTxMark, hack⟩ := status_receivedAck s hold
    refine (congrArg Recovery.retxThresh hack).trans ?_
    rw [Recovery.retxThresh_receive]
    exact (atAck_same s a).1

theorem lawful_received {a : AckInput} (hold : ¬ ns.seqLt a.ackNumber a.oldHeadSequence)
    (hthresh : 0 < s.m_retxThresh) (hlaw : (s.atAck ns a).status.Law) :
    (s.receivedAck ns a).status.Law := by
  obtain ⟨lost, passed, highTxMark, hack⟩ := status_receivedAck s hold
  rw [hack]
  refine hlaw.receive _ _ _ _ _ _ ?_
  exact (atAck_same s a).1.symm ▸ hthresh

/-- The step lemma: the law is kept by every event, if it is by the ACKs that end a reduction. -/
theorem law_step (hopen : ∀ handshake, e ≠ .established handshake) (h : s.status.Law)
    (hthresh : 0 < s.m_retxThresh)
    (hleft : ∀ a, e = .receivedAck a → ¬ ns.seqLt a.ackNumber a.oldHeadSequence →
      s.tcb.m_congState = .CA_CWR → ns.seqGt a.ackNumber s.m_recover = true →
      (s.atAck ns a).status = { s.status with congState := .CA_OPEN } →
        (s.receivedAck ns a).status.Law) : (s.step ns e).status.Law := by
  rcases status_step ns s hopen with hsame | ⟨highTxMark, htimeout⟩ | ⟨a, rfl, hold⟩
  · exact hsame ▸ h
  · rw [htimeout]
    exact ⟨rfl, rfl⟩
  · rcases atAck_cases h a with hlaw | ⟨hcwr, hpast, hat⟩
    · exact lawful_received hold hthresh hlaw
    · exact hleft a rfl hold hcwr hpast hat

theorem ne_cwr_step (he : e.Echoless) (hcwr : s.tcb.m_congState ≠ .CA_CWR) :
    (s.step ns e).tcb.m_congState ≠ .CA_CWR := by
  rcases status_step ns s he.opened with hsame | ⟨highTxMark, htimeout⟩ | ⟨a, rfl, hold⟩
  · have hstate : (s.step ns e).tcb.m_congState = s.tcb.m_congState :=
      congrArg Recovery.congState hsame
    exact hstate ▸ hcwr
  · have hloss : (s.step ns e).tcb.m_congState = .CA_LOSS := congrArg Recovery.congState htimeout
    simp [hloss]
  · obtain ⟨lost, passed, highTxMark, hack⟩ := status_receivedAck s hold
    have hstays : s.status.leaveCwr (ns.seqGt a.ackNumber) = s.status := if_neg fun h => hcwr h.1
    have hat : (s.atAck ns a).status = s.status := by
      obtain ⟨highTxMark, hat | ⟨hece, -⟩⟩ := status_atAck ns s a
      · exact hat.trans hstays
      · exact absurd hece (by simp [he.silent a rfl])
    have hne : (s.receivedAck ns a).status.congState ≠ .CA_CWR := by
      rw [hack, hat]
      exact Recovery.receive_ne_cwr _ _ _ _ _ _ hcwr
    exact hne

theorem law_start (hopen : s.tcb.m_congState = .CA_OPEN) (hcount : s.m_dupAckCount = 0)
    (hactive : s.m_recoverActive = false) : s.status.Law := by
  have hstate : s.status.congState = .CA_OPEN := hopen
  unfold Recovery.Law
  rw [hstate]
  exact ⟨hcount, hactive⟩

theorem lawful_left {a : AckInput} (hold : ¬ ns.seqLt a.ackNumber a.oldHeadSequence)
    (hthresh : 1 < s.m_retxThresh) (hpast : ns.seqGt a.ackNumber s.m_recover = true)
    (hadv : advances ns a = true)
    (hat : (s.atAck ns a).status = { s.status with congState := .CA_OPEN })
    (hdup : (s.atAck ns a).isDupack ns a = true → s.m_dupAckCount = 0) :
    (s.receivedAck ns a).status.Law := by
  obtain ⟨lost, passed, highTxMark, hack⟩ := status_receivedAck s hold
  have hbelow : ns.seqLt a.ackNumber s.m_recover = false := by simp [Ns3.seqLt, hpast]
  rw [hack, hat, hadv]
  exact Recovery.law_left rfl hthresh hdup hbelow lost passed highTxMark

theorem assertsHold_iff (h : s.status.Law) (hthresh : 0 < s.m_retxThresh) :
    s.AssertsHold ns e ↔ EndsCleanly ns s e := by
  have hpos : ∀ a, 0 < (s.atAck ns a).status.retxThresh := by
    intro a
    exact (atAck_same s a).1.symm ▸ hthresh
  constructor
  · intro hasserts a he hold _ hopen hdup
    have hzero := (Recovery.asserts_left_iff hopen (hpos a)).1 (hasserts a he hold hdup)
    exact (atAck_same s a).2.symm.trans hzero
  · intro hclean a he hold hdup
    rcases atAck_cases h a with hlaw | ⟨hcwr, -, hat⟩
    · exact hlaw.asserts (hpos a)
    · have hopen : (s.atAck ns a).status.congState = .CA_OPEN := congrArg Recovery.congState hat
      have hzero : s.m_dupAckCount = 0 := hclean a he hold hcwr hopen hdup
      exact (Recovery.asserts_left_iff hopen (hpos a)).2 ((atAck_same s a).2.trans hzero)

/-- In every run that hears no ECN echo after its connection has opened, the recovery point is active in
`CA_RECOVERY` and `CA_LOSS` alone, the duplicates on count stay below the threshold outside of them,
and the assertions of `DupAck` hold. -/
theorem recovery_law (s : TcpSocketBase ρ) (hopen : s.tcb.m_congState = .CA_OPEN)
    (hcount : s.m_dupAckCount = 0) (hactive : s.m_recoverActive = false)
    (hthresh : 0 < s.m_retxThresh) (evs : List SocketEvent) (hevs : ∀ e ∈ evs, e.Echoless) :
    Throughout (TcpSocketBase.step ns)
        (fun s => s.status.Law ∧ s.tcb.m_congState ≠ .CA_CWR ∧ 0 < s.m_retxThresh) s evs ∧
      Along (TcpSocketBase.step ns) (AssertsHold ns) s evs := by
  have hstep : ∀ (s : TcpSocketBase ρ) (e : SocketEvent), e.Echoless →
      (s.status.Law ∧ s.tcb.m_congState ≠ .CA_CWR ∧ 0 < s.m_retxThresh) →
      (s.step ns e).status.Law ∧ (s.step ns e).tcb.m_congState ≠ .CA_CWR ∧
        0 < (s.step ns e).m_retxThresh := by
    rintro s e he ⟨hlaw, hcwr, hthresh⟩
    refine ⟨?_, ne_cwr_step he hcwr, (retxThresh_step he.opened).symm ▸ hthresh⟩
    exact law_step he.opened hlaw hthresh fun _ _ _ hin => absurd hin hcwr
  have hall := throughout_invariant_of hstep
    ⟨law_start hopen hcount hactive, by simp [hopen], hthresh⟩ hevs
  refine ⟨hall, fun pre e hp => ?_⟩
  obtain ⟨hlaw, hcwr, hpos⟩ := hall pre ((List.prefix_append pre [e]).trans hp)
  exact (assertsHold_iff hlaw hpos).2 fun _ _ _ hin => absurd hin hcwr

/-! A connection with SACK and ECN that has sent four segments. -/

def fourSent : TcpSocketBase Unit :=
  run (TcpSocketBase.step Ns3.classic) newSocket
    [.syn true (some 1), .established true, .ecn .ECN_IDLE, .sendPending ⟨1, 500⟩,
      .sendPending ⟨501, 500⟩, .sendPending ⟨1001, 500⟩, .sendPending ⟨1501, 500⟩]

def sackOf (ackNumber oldHeadSequence : SequenceNumber32) : AckInput :=
  { ackOf ackNumber oldHeadSequence with bytesSacked := 500 }

theorem recovery_law_three :
    Throughout (TcpSocketBase.step Ns3.classic)
        (fun s => s.status.Law ∧ s.tcb.m_congState ≠ .CA_CWR ∧ 0 < s.m_retxThresh) fourSent
        (List.replicate 3 (.receivedAck (sackOf 1 1))) ∧
      (run (TcpSocketBase.step Ns3.classic) fourSent
        (List.replicate 3 (.receivedAck (sackOf 1 1)))).tcb.m_congState = .CA_RECOVERY := by
  refine ⟨(recovery_law fourSent rfl rfl rfl (by decide) _ fun e he => ?_).1, by decide +kernel⟩
  obtain rfl := List.eq_of_mem_replicate he
  refine ⟨fun _ h => ?_, fun a h => ?_⟩
  · cases h
  · cases h
    rfl

/-- In every run of an open connection the assertions of `DupAck` hold exactly if no ACK ends a
congestion window reduction as a duplicate after others: nothing takes these from the count. -/
theorem dupAck_asserts_iff (s : TcpSocketBase ρ) (hopen : s.tcb.m_congState = .CA_OPEN)
    (hcount : s.m_dupAckCount = 0) (hactive : s.m_recoverActive = false)
    (hthresh : 1 < s.m_retxThresh) (evs : List SocketEvent)
    (hreg : Along (TcpSocketBase.step ns) (Regular ns) s evs) :
    Along (TcpSocketBase.step ns) (AssertsHold ns) s evs ↔
      Along (TcpSocketBase.step ns) (EndsCleanly ns) s evs := by
  have hpos : ∀ n : UInt32, 1 < n → 0 < n := fun n hn => UInt32.lt_trans (by decide) hn
  refine along_congr_of_kept (I := fun s => s.status.Law ∧ 1 < s.m_retxThresh) ?_ ?_
    ⟨law_start hopen hcount hactive, hthresh⟩ hreg
  · rintro s e ⟨hlaw, hthresh⟩ -
    exact assertsHold_iff hlaw (hpos _ hthresh)
  · rintro s e ⟨hlaw, hthresh⟩ he hclean
    refine ⟨?_, (retxThresh_step he.opened).symm ▸ hthresh⟩
    refine law_step he.opened hlaw (hpos _ hthresh) fun a hack hold hcwr hpast hat => ?_
    have hreopened : (s.atAck ns a).tcb.m_congState = .CA_OPEN := congrArg Recovery.congState hat
    exact lawful_left hold hthresh hpast (he.beyond a hack hcwr hpast) hat
      (hclean a hack hold hcwr hreopened)

/-- An echo starts a reduction, a duplicate is counted in it, and `last` is the ACK that ends it. -/
def echoedReduction (last : AckInput) : List SocketEvent :=
  [.receivedAck { ackOf 501 1 with ECE := true }, .sendPending ⟨2001, 500⟩,
    .receivedAck (sackOf 501 501), .receivedAck last]

/-- With SACK blocks in the last ACK `DupAck` goes to `CA_DISORDER` with the second duplicate. -/
theorem dupAck_asserts_reduction :
    Along (TcpSocketBase.step Ns3.classic) (AssertsHold Ns3.classic) fourSent
        (echoedReduction (ackOf 2501 501)) ∧
      ¬ Along (TcpSocketBase.step Ns3.classic) (AssertsHold Ns3.classic) fourSent
        (echoedReduction (sackOf 2501 501)) := by
  have hreg : ∀ last : AckInput, last.ackNumber = 2501 → last.oldHeadSequence = 501 →
      Along (TcpSocketBase.step Ns3.classic) (Regular Ns3.classic) fourSent (echoedReduction last) := by
    intro last hack hhead
    unfold echoedReduction
    simp only [along_cons]
    refine ⟨⟨?_, ?_⟩, ⟨?_, ?_⟩, ⟨?_, ?_⟩, ⟨?_, ?_⟩, along_nil _ _ _⟩
    · rintro _ ⟨⟩
    · rintro _ ⟨⟩
      decide +kernel
    · rintro _ ⟨⟩
    · rintro _ ⟨⟩
    · rintro _ ⟨⟩
    · rintro _ ⟨⟩
      decide +kernel
    · rintro _ ⟨⟩
    · rintro _ ⟨⟩ - -
      rw [advances, hack, hhead]
      decide
  refine ⟨(dupAck_asserts_iff fourSent rfl rfl rfl (by decide) _ (hreg _ rfl rfl)).2 ?_, fun h => ?_⟩
  · unfold echoedReduction
    simp only [along_cons]
    refine ⟨?_, ?_, ?_, ?_, along_nil _ _ _⟩
    · rintro _ ⟨⟩
      decide +kernel
    · rintro _ ⟨⟩
    · rintro _ ⟨⟩
      decide +kernel
    · rintro _ ⟨⟩
      decide +kernel
  · have hclean := (dupAck_asserts_iff fourSent rfl rfl rfl (by decide) _ (hreg _ rfl rfl)).1 h
    have hlast := hclean.getElem (by decide : 3 < (echoedReduction (sackOf 2501 501)).length)
    exact absurd (hlast (sackOf 2501 501) rfl) (by decide +kernel)

end Runs

end NetSessional.Vegas
