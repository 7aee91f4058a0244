import NetSessional.Vegas.Socket

/-! From a loss to the window update that follows the return to `CA_OPEN`: whether the flow stays in
moderate mode. The calls of a run are watched by a flag that a loss reaction raises. -/

namespace NetSessional.Vegas
open Runs

variable {ρ : Type} (ns : Ns3 ρ)

/-- Whether a loss is being recovered from after the call, `b` telling whether it was before. -/
def Call.recovering (f : Flow ρ) (b : Bool) : Call → Bool
  | .enterRecovery _ => true
  | .reTxTimeout _ _ => true
  | .increaseWindow _ => b && decide (f.tcb.m_congState ≠ .CA_OPEN)
  | _ => b

def watch (w : Flow ρ × Bool) (c : Call) : Flow ρ × Bool :=
  (w.1.step ns c, c.recovering w.1 w.2)

/-- The call starts, belongs to or ends a recovery only if it leaves the flow moderate. -/
def StaysReverted (w : Flow ρ × Bool) (c : Call) : Prop :=
  w.2 = true ∨ (watch ns w c).2 = true → (w.1.step ns c).tcb.mode = .MODERATE

/-- No sample of a recovery lifts the counter past the threshold. -/
def NotLifted (w : Flow ρ × Bool) (c : Call) : Prop := w.2 = true → ¬ w.1.Lifting c

def ModerateRecovery (w : Flow ρ × Bool) : Prop := w.2 = true → w.1.tcb.mode = .MODERATE

section Watch
variable {ns} {w : Flow ρ × Bool} {c : Call}

theorem watch_raised (h : (watch ns w c).2 = true) :
    w.2 = true ∨ (w.1.step ns c).tcb.mode = .MODERATE := by
  rw [Flow.step_mode]
  cases c with
  | enterRecovery r => exact Or.inr rfl
  | reTxTimeout b i => exact Or.inr rfl
  | increaseWindow n => exact Or.inl (Bool.and_eq_true_iff.1 h).1
  | pktsAcked n rtt => exact Or.inl h
  | other op => exact Or.inl h

theorem watch_lowered (h : w.2 = true) (h' : ¬ (watch ns w c).2 = true) :
    (w.1.step ns c).tcb.mode = w.1.tcb.mode := by
  rw [Flow.step_mode]
  cases c with
  | enterRecovery r => exact absurd rfl h'
  | reTxTimeout b i => exact absurd rfl h'
  | increaseWindow n => rfl
  | pktsAcked n rtt => exact absurd h h'
  | other op => exact absurd h h'

theorem moderateRecovery_step (h : ModerateRecovery w) :
    ModerateRecovery (watch ns w c) ↔ NotLifted w c := by
  by_cases hw : w.2 = true
  · have hstep := Flow.step_moderate_iff ns w.1 c (h hw)
    refine ⟨fun h' _ => ?_, fun hn _ => hstep.2 (hn hw)⟩
    by_cases hw' : (watch ns w c).2 = true
    · exact hstep.1 (h' hw')
    · exact hstep.1 ((watch_lowered hw hw').trans (h hw))
  · refine ⟨fun _ hw' => absurd hw' hw, fun _ hw' => ?_⟩
    exact (watch_raised hw').resolve_left hw

/-- Every call of a run leaves a recovering flow moderate exactly if the flow is moderate whenever
the flag is up. -/
theorem along_staysReverted_iff (f : Flow ρ) (cs : List Call) :
    Along (watch ns) (StaysReverted ns) (f, false) cs ↔
      Throughout (watch ns) ModerateRecovery (f, false) cs := by
  refine ⟨fun h pre => ?_, fun h pre c hp hrec => ?_⟩
  · induction pre using List.reverseRecOn with
    | nil => exact fun _ hfalse => absurd hfalse (by simp)
    | append_singleton pre c _ =>
      intro hp hup
      rw [run_snoc] at hup ⊢
      exact h pre c hp (Or.inr hup)
  · have hbefore := h pre ((List.prefix_append pre [c]).trans hp)
    have hafter := h (pre ++ [c]) hp
    rw [run_snoc] at hafter
    by_cases hup : (watch ns (run (watch ns) (f, false) pre) c).2 = true
    · exact hafter hup
    · have hwas := hrec.resolve_right hup
      exact (watch_lowered hwas hup).trans (hbefore hwas)

theorem staysReverted_iff_notLifted (f : Flow ρ) (cs : List Call) :
    Along (watch ns) (StaysReverted ns) (f, false) cs ↔
      Along (watch ns) NotLifted (f, false) cs := by
  rw [along_staysReverted_iff]
  exact throughout_iff_along (J := fun _ => True) (E := fun _ => True) (fun _ _ _ _ => trivial)
    (fun _ _ _ _ h => moderateRecovery_step h) trivial (fun hfalse => absurd hfalse (by simp))
    (fun _ _ => trivial)

end Watch

/-- A run of the socket takes its flow through the calls it makes. Whatever ACKs and samples come,
each of them from a loss reaction to the window update after the return to `CA_OPEN` leaves the flow
moderate exactly if no `PktsAcked` in between lifts the counter past the threshold. -/
theorem reverted_until_reopened_iff (s : TcpSocketBase ρ) (evs : List SocketEvent) :
    (run (TcpSocketBase.step ns) { s with calls := [] } evs).flow =
        run (Flow.step ns) s.flow (callsOf ns s evs) ∧
      (Along (watch ns) (StaysReverted ns) (s.flow, false) (callsOf ns s evs) ↔
        Along (watch ns) NotLifted (s.flow, false) (callsOf ns s evs)) :=
  ⟨TcpSocketBase.run_flow rfl evs, staysReverted_iff_notLifted s.flow (callsOf ns s evs)⟩

/-! A connection that sends twenty segments, hears three duplicate ACKs, and then partial ACKs while
the RTT estimate grows. -/

def newSocket : TcpSocketBase Unit :=
  { flow :=
      { tcb :=
          { m_initialCWnd := 20, m_initialSsThresh := 65535, m_segmentSize := 500, lastCwnd := 0 }
        cc := {}
        recoveryOps := () } }

def ackOf (ackNumber oldHeadSequence : SequenceNumber32) : AckInput :=
  { ackNumber := ackNumber
    oldHeadSequence := oldHeadSequence
    headSequence := ackNumber
    ECE := false
    bytesSacked := 0
    currentDelivered := 500
    wasRetransmitted := fun _ => false
    isRetransmitted := fun _ => false
    isLost := fun _ => false
    bytesInFlight := 10000
    lossBytesInFlight := 9500
    fastRetransmit := ⟨ackNumber, 500⟩
    partialRetransmit := ⟨ackNumber, 500⟩ }

def partialAcks (n : ℕ) : List SocketEvent :=
  (List.range n).flatMap fun i =>
    let head := 1 + 500 * UInt32.ofNat i
    [.estimateRtt (110 + i), .receivedAck (ackOf (head + 500) head)]

def lossyRun : List SocketEvent :=
  [.syn false (some 1), .established true] ++
  (List.range 20).map (fun i => .sendPending ⟨1 + 500 * UInt32.ofNat i, 500⟩) ++
  [.estimateRtt 100, .receivedAck (ackOf 1 1), .receivedAck (ackOf 1 1), .receivedAck (ackOf 1 1)] ++
  partialAcks 6

/-- The sixth partial ACK makes the flow aggressive in the middle of fast recovery. -/
theorem aggressive_in_recovery :
    ¬ Along (watch Ns3.classic) (StaysReverted Ns3.classic) (newSocket.flow, false)
      (callsOf Ns3.classic newSocket lossyRun) := by
  rw [along_staysReverted_iff]
  intro h
  have hlast := h _ (List.prefix_refl _)
  unfold ModerateRecovery at hlast
  revert hlast
  decide +kernel

end NetSessional.Vegas
