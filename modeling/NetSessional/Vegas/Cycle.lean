import NetSessional.Vegas.Arithmetic
import NetSessional.Vegas.LossWindow

/-! The samples of a Vegas cycle. The aggressive branch of `IncreaseWindow` leaves the cycle as it
is, so a cycle could be closed with samples of an aggressive phase; that a loss disables Vegas, and
that `EnableVegas` starts a new cycle, prevents it. -/

namespace NetSessional.Vegas
open Runs

variable {ρ : Type} (ns : Ns3 ρ)

/-- What has happened since the current cycle began: the RTTs sampled, and whether the window was
updated in aggressive mode. -/
structure Cycle where
  samples : List Time := []
  aggressive : Bool := false

/-- A cycle begins with `EnableVegas` and with the end of the one before. -/
def Call.cycle (f : Flow ρ) (y : Cycle) : Call → Cycle
  | .pktsAcked _ rtt => if rtt = 0 then y else { y with samples := y.samples ++ [rtt] }
  | .increaseWindow _ =>
    if f.EndsCycle ns then {}
    else { y with aggressive := y.aggressive || decide (f.tcb.mode = .AGGRESIVE) }
  | .other (.congestionStateSet newState) => if newState = .CA_OPEN then {} else y
  | _ => y

def track (w : Flow ρ × Cycle) (c : Call) : Flow ρ × Cycle := (w.1.step ns c, c.cycle ns w.1 w.2)

/-- The algorithm's count and minimum are those of the cycle's samples. -/
structure Tracked (w : Flow ρ × Cycle) : Prop where
  cnt : w.1.cc.m_cntRtt = UInt32.ofNat w.2.samples.length
  min_le : ∀ rtt ∈ w.2.samples, w.1.cc.m_minRtt ≤ rtt
  min_from : w.1.cc.m_minRtt = Time.max ∨ w.1.cc.m_minRtt ∈ w.2.samples
  /-- Aggressive updates leave a mark until a loss, and a loss disables Vegas. -/
  mark : w.2.aggressive = true → w.1.tcb.mode = .AGGRESIVE ∨ w.1.cc.m_doingVegasNow = false

structure NoStaleSample (w : Flow ρ × Cycle) : Prop where
  moderate : w.2.aggressive = false
  cnt : w.1.cc.m_cntRtt = UInt32.ofNat w.2.samples.length
  /-- No `Time` is above `Time::Max ()`. -/
  isLeast : (∀ rtt ∈ w.2.samples, rtt ≤ Time.max) →
    IsLeast {rtt | rtt ∈ w.2.samples} w.1.cc.m_minRtt

section Track
variable {ns} {w : Flow ρ × Cycle} {c : Call}

theorem tracked_begin {f : Flow ρ} (hcnt : f.cc.m_cntRtt = 0) (hmin : f.cc.m_minRtt = Time.max) :
    Tracked (f, {}) :=
  ⟨hcnt, fun _ h => absurd h List.not_mem_nil, Or.inl hmin, fun h => absurd h (by simp)⟩

/-- An operation that keeps count and minimum keeps the cycle, if Vegas is not moderate and enabled
afterwards unless it was before. -/
theorem tracked_keep {f : Flow ρ} (h : Tracked w) (hcnt : f.cc.m_cntRtt = w.1.cc.m_cntRtt)
    (hmin : f.cc.m_minRtt = w.1.cc.m_minRtt)
    (hmark : w.1.tcb.mode = .AGGRESIVE ∨ w.1.cc.m_doingVegasNow = false →
      f.tcb.mode = .AGGRESIVE ∨ f.cc.m_doingVegasNow = false) : Tracked (f, w.2) := by
  refine ⟨hcnt.trans h.cnt, fun rtt hrtt => ?_, ?_, fun hagg => hmark (h.mark hagg)⟩
  · exact hmin.le.trans (h.min_le rtt hrtt)
  · rw [hmin]
    exact h.min_from

theorem tracked_sample (h : Tracked w) {n : UInt32} {rtt : Time} (hrtt : rtt ≠ 0) :
    Tracked (track ns w (.pktsAcked n rtt)) := by
  have hcc := Flow.step_cc ns w.1 (.pktsAcked n rtt)
  have hmode := Flow.step_mode ns w.1 (.pktsAcked n rtt)
  simp only [if_neg hrtt] at hcc hmode
  have hmin : (w.1.sender.sampleRtt rtt).cc.m_minRtt = min w.1.cc.m_minRtt rtt :=
    stdMin_eq_min w.1.cc.m_minRtt rtt
  unfold track Call.cycle
  simp only [if_neg hrtt]
  refine ⟨?_, fun r hr => ?_, ?_, fun hagg => ?_⟩
  · rw [hcc, List.length_append, UInt32.ofNat_add, ← h.cnt]
    rfl
  · rw [hcc, hmin]
    rcases List.mem_append.1 hr with hr | hr
    · exact (min_le_left _ _).trans (h.min_le r hr)
    · rw [List.mem_singleton.1 hr]
      exact min_le_right _ _
  · rw [hcc, hmin]
    rcases min_choice w.1.cc.m_minRtt rtt with hold | hnew
    · rw [hold]
      exact h.min_from.imp_right (List.mem_append_left [rtt])
    · right
      rw [hnew]
      exact List.mem_append_right _ (List.mem_singleton.2 rfl)
  · rw [hmode, hcc]
    refine (h.mark hagg).imp_left fun hwas => ?_
    rw [count_mode, hwas, ite_self]

theorem tracked_step (h : Tracked w) : Tracked (track ns w c) := by
  have hcc := Flow.step_cc ns w.1 c
  have hmode := Flow.step_mode ns w.1 c
  cases c with
  | pktsAcked n rtt =>
    by_cases hrtt : rtt = 0
    · simp only [if_pos hrtt] at hcc hmode
      unfold track Call.cycle
      simp only [if_pos hrtt]
      exact tracked_keep h (by rw [hcc]) (by rw [hcc]) (by rw [hcc, hmode]; exact id)
    · exact tracked_sample h hrtt
  | increaseWindow n =>
    unfold track Call.cycle
    by_cases hend : w.1.EndsCycle ns
    · simp only [if_pos hend] at hcc ⊢
      exact tracked_begin (by rw [hcc]) (by rw [hcc])
    · simp only [if_neg hend] at hcc ⊢
      refine ⟨?_, ?_, ?_, fun hagg => ?_⟩
      · rw [hcc]
        exact h.cnt
      · rw [hcc]
        exact h.min_le
      · rw [hcc]
        exact h.min_from
      · rw [hmode, hcc]
        rcases Bool.or_eq_true_iff.1 hagg with hagg | hnow
        · exact h.mark hagg
        · exact Or.inl (of_decide_eq_true hnow)
  | enterRecovery r =>
    exact tracked_keep h (by rw [hcc]) (by rw [hcc]) fun _ => Or.inr (by rw [hcc])
  | reTxTimeout b i =>
    exact tracked_keep h (by rw [hcc]) (by rw [hcc]) fun _ => Or.inr (by rw [hcc])
  | other op =>
    cases op with
    | congestionStateSet newState =>
      unfold track Call.cycle
      by_cases hopen : newState = .CA_OPEN
      · simp only [if_pos hopen] at hcc ⊢
        exact tracked_begin (by rw [hcc]; rfl) (by rw [hcc]; rfl)
      · simp only [if_neg hopen] at hcc ⊢
        exact tracked_keep h (by rw [hcc]; rfl) (by rw [hcc]; rfl) fun _ => Or.inr (by rw [hcc]; rfl)
    | _ => exact tracked_keep h (by rw [hcc]) (by rw [hcc]) (by rw [hcc, hmode]; exact id)

/-- Where the function computes with Vegas, the mode is moderate and Vegas enabled, so there is no
mark. -/
theorem noStaleSample_of_tracked (h : Tracked w) (hadjusts : w.1.Adjusts ns) :
    NoStaleSample w := by
  obtain ⟨⟨hdoing, hmode, -⟩, hcnt⟩ := hadjusts
  refine ⟨?_, h.cnt, fun hle => ⟨?_, fun rtt hrtt => h.min_le rtt hrtt⟩⟩
  · by_contra hagg
    rcases h.mark (by simpa using hagg) with hwas | hoff
    · exact hmode hwas
    · rw [hdoing] at hoff
      exact absurd hoff (by decide)
  · rcases h.min_from with hmax | hmem
    · have hne : w.2.samples ≠ [] := by
        intro hnil
        rw [h.cnt, hnil] at hcnt
        exact absurd hcnt (by decide)
      -- a sample below the start is the start itself
      obtain ⟨r, hr⟩ := List.exists_mem_of_ne_nil _ hne
      have heq : w.1.cc.m_minRtt = r := le_antisymm (h.min_le r hr) (hmax ▸ hle r hr)
      exact heq ▸ hr
    · exact hmem

end Track

theorem callsOf_established (s : TcpSocketBase ρ) (handshake : Bool) (evs : List SocketEvent) :
    ∃ cs, callsOf ns s (.established handshake :: evs) =
      .other (.congestionStateSet .CA_OPEN) :: cs := by
  have hfirst : TcpSocketBase.Continues ns
      (TcpSocketBase.congestionStateSet ns { s with calls := [] } .CA_OPEN)
      (TcpSocketBase.step ns { s with calls := [] } (.established handshake)) :=
    TcpSocketBase.Kept.ite ((TcpSocketBase.Continues.refl _).call _) (TcpSocketBase.Continues.refl _)
  obtain ⟨cs, hcs, -⟩ := hfirst.run evs
  exact ⟨.other (.write _) :: cs, hcs⟩

/-- In a run from the establishment of the connection, the flow goes through the calls on record, and
each `IncreaseWindow` that computes with Vegas finds the count and the minimum of the samples of its
cycle, in which the window was never updated in aggressive mode. -/
theorem no_stale_samples (s : TcpSocketBase ρ) (handshake : Bool) (evs : List SocketEvent) :
    (run (TcpSocketBase.step ns) { s with calls := [] } (.established handshake :: evs)).flow =
        run (Flow.step ns) s.flow (callsOf ns s (.established handshake :: evs)) ∧
      Along (track ns) (fun w c => (∃ n, c = .increaseWindow n) → w.1.Adjusts ns → NoStaleSample w)
        (s.flow, {}) (callsOf ns s (.established handshake :: evs)) := by
  refine ⟨TcpSocketBase.run_flow rfl _, ?_⟩
  obtain ⟨cs, hcs⟩ := callsOf_established ns s handshake evs
  rw [hcs, along_cons]
  refine ⟨fun hinc => ?_, fun pre c _ _ hadjusts => ?_⟩
  · obtain ⟨n, hn⟩ := hinc
    cases hn
  · have hstart : Tracked (track ns (s.flow, {}) (.other (.congestionStateSet .CA_OPEN))) :=
      tracked_begin rfl rfl
    have hstep : ∀ (w : Flow ρ × Cycle) c, Tracked w → Tracked (track ns w c) :=
      fun w c => tracked_step
    exact noStaleSample_of_tracked (run_invariant hstep hstart pre) hadjusts

/-! A connection that sends four segments, which are acknowledged one by one. -/

def synAcked : TcpSocketBase Unit := newSocket.step Ns3.classic (.syn false (some 1))

def fourAcked : List SocketEvent :=
  (List.range 4).map (fun i => .sendPending ⟨1 + 500 * UInt32.ofNat i, 500⟩) ++ partialAcks 4

set_option maxRecDepth 2000 in
/-- The fourth ACK ends a cycle of three samples, with which Vegas computes. -/
theorem no_stale_samples_fourAcked :
    ∃ i, ∃ h : i < (callsOf Ns3.classic synAcked (.established true :: fourAcked)).length,
      (∃ n, (callsOf Ns3.classic synAcked (.established true :: fourAcked))[i] =
        .increaseWindow n) ∧
      (run (track Ns3.classic) (synAcked.flow, {})
        ((callsOf Ns3.classic synAcked (.established true :: fourAcked)).take i)).1.Adjusts
        Ns3.classic ∧
      NoStaleSample (run (track Ns3.classic) (synAcked.flow, {})
        ((callsOf Ns3.classic synAcked (.established true :: fourAcked)).take i)) := by
  have hlt : 44 < (callsOf Ns3.classic synAcked (.established true :: fourAcked)).length := by
    decide +kernel
  have hinc : (callsOf Ns3.classic synAcked (.established true :: fourAcked))[44] =
      .increaseWindow 1 := by rfl
  have hadjusts : (run (track Ns3.classic) (synAcked.flow, {})
      ((callsOf Ns3.classic synAcked (.established true :: fourAcked)).take 44)).1.Adjusts
      Ns3.classic := by
    decide +kernel
  have hall := (no_stale_samples Ns3.classic synAcked true fourAcked).2.getElem hlt
  exact ⟨44, hlt, ⟨1, hinc⟩, hadjusts, hall ⟨1, hinc⟩ hadjusts⟩

end NetSessional.Vegas
