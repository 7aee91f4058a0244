import NetSessional.Vegas.Flow

/-! Moderate mode against the Vegas of ns-3: what is left of a Vegas+ flow when the fields of the
modification are erased. -/

namespace NetSessional.Vegas
open Runs

variable {ρ : Type} (ns : Ns3 ρ)

/-! The functions of the modification with `v_count`, `lastCwnd`, `lastRtt`, `mode` and the tests on
them erased. -/

namespace Original

def pktsAcked (s : Sender ρ) (_segmentsAcked : UInt32) (rtt : Time) : Sender ρ :=
  if rtt = 0 then s else s.sampleRtt rtt

def increaseWindow (s : Sender ρ) (segmentsAcked : UInt32) : Sender ρ :=
  if !s.cc.m_doingVegasNow then { s with tcb := s.tcb.newRenoIncreaseWindow ns segmentsAcked }
  else s.vegasIncreaseWindow ns segmentsAcked

def step (s : Sender ρ) : Call → Sender ρ
  | .pktsAcked segmentsAcked rtt => pktsAcked s segmentsAcked rtt
  | .increaseWindow segmentsAcked => increaseWindow ns s segmentsAcked
  | .enterRecovery r => s.enterRecovery ns r
  | .reTxTimeout inFlightBeforeRto isHeadRetransmitted =>
    s.reTxTimeout inFlightBeforeRto isHeadRetransmitted
  | .other op => s.perform ns op

end Original

/-- The window is not updated in aggressive mode. -/
def UpdatesModerately (f : Flow ρ) (c : Call) : Prop :=
  ∀ segmentsAcked, c = .increaseWindow segmentsAcked → f.tcb.mode ≠ .AGGRESIVE

section Erasure
variable {ns} {f : Flow ρ} {c : Call}

theorem sender_increaseWindow (hf : f.tcb.mode ≠ .AGGRESIVE) (segmentsAcked : UInt32) :
    (f.increaseWindow ns segmentsAcked).sender =
      Original.increaseWindow ns f.sender segmentsAcked := by
  unfold Flow.increaseWindow Original.increaseWindow
  simp only [hf, decide_false, Bool.or_false, Flow.sender_cc]
  exact apply_ite Flow.sender _ _ _

/-- Erasure commutes with every call that keeps to the condition; a mode that flips between two
window updates does not show. -/
theorem sender_step (hc : UpdatesModerately f c) :
    (f.step ns c).sender = Original.step ns f.sender c := by
  cases c with
  | pktsAcked n rtt =>
    change (f.pktsAcked n rtt).sender = if rtt = 0 then f.sender else f.sender.sampleRtt rtt
    split
    · next hrtt => rw [hrtt, pktsAcked_zero]
    · next hrtt => exact sender_pktsAcked f n hrtt
  | increaseWindow n => exact sender_increaseWindow (hc n rfl) n
  | enterRecovery r => rfl
  | reTxTimeout b h => rfl
  | other op => rfl

end Erasure

/-- As long as no window update finds it aggressive, a Vegas+ flow is at every step of a run what the
Vegas of ns-3 makes of the same calls: window, threshold, RTT minima, sample count, Vegas switch and
cycle. -/
theorem moderate_run_is_vegas (f : Flow ρ) (cs : List Call)
    (hcs : Along (Flow.step ns) UpdatesModerately f cs) :
    ∀ pre, pre <+: cs →
      (run (Flow.step ns) f pre).sender = run (Original.step ns) f.sender pre := by
  intro pre hpre
  have hstep : ∀ (f : Flow ρ) (s : Sender ρ) (c : Call), f.sender = s → UpdatesModerately f c →
      (f.step ns c).sender = Original.step ns s c := by
    intro f s c hs hc
    rw [← hs, sender_step hc]
  exact run_simulation hstep rfl (hcs.of_prefix hpre)

/-- A time-out, and a Vegas cycle of three samples in slow start. -/
def timeoutAndCycle : List Call :=
  [.reTxTimeout 10000 false, .other (.congestionStateSet .CA_OPEN), .pktsAcked 1 120, .pktsAcked 1 130,
    .pktsAcked 1 110, .increaseWindow 1]

/-- They take a flow that had turned aggressive to a window of two segments. -/
theorem moderate_run_is_vegas_reverted :
    Along (Flow.step Ns3.classic) UpdatesModerately (Flow.rising 7) timeoutAndCycle ∧
      (run (Flow.step Ns3.classic) (Flow.rising 7) timeoutAndCycle).sender =
        run (Original.step Ns3.classic) (Flow.rising 7).sender timeoutAndCycle ∧
      (run (Original.step Ns3.classic) (Flow.rising 7).sender timeoutAndCycle).tcb.m_cWnd = 1000 := by
  have hcs : Along (Flow.step Ns3.classic) UpdatesModerately (Flow.rising 7) timeoutAndCycle := by
    unfold timeoutAndCycle
    simp only [along_cons]
    refine ⟨?_, ?_, ?_, ?_, ?_, fun _ _ => by decide, along_nil _ _ _⟩ <;> exact fun _ h => nomatch h
  exact ⟨hcs, moderate_run_is_vegas Ns3.classic _ _ hcs _ (List.prefix_refl _), by decide +kernel⟩

end NetSessional.Vegas
