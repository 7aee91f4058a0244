import NetSessional.Vegas.Flow

/-! `lastCwnd` has no initialiser and is not copied. What a new control block's memory held decides
whether the first sample is counted; after that sample it is forgotten. -/

namespace NetSessional.Vegas
open Runs

variable {ρ : Type} (ns : Ns3 ρ)

structure SameView (f g : Flow ρ) : Prop where
  v_count : f.tcb.v_count = g.tcb.v_count
  mode : f.tcb.mode = g.tcb.mode
  m_cWnd : f.tcb.m_cWnd = g.tcb.m_cWnd
  m_ssThresh : f.tcb.m_ssThresh = g.tcb.m_ssThresh

def Call.IsSample (c : Call) : Prop := ∃ n rtt, c = .pktsAcked n rtt ∧ rtt ≠ 0

/-- If the RTT of the first sample is positive, the window it finds is the initial `lastCwnd` of
both runs or of neither. -/
def FirstSampleAgrees (f : Flow ρ) (x y : UInt32) (cs : List Call) : Prop :=
  ∀ pre n rtt, pre ++ [.pktsAcked n rtt] <+: cs → (∀ c ∈ pre, ¬ c.IsSample) → 0 < rtt →
    (x = (run (Flow.step ns) f pre).tcb.m_cWnd ↔ y = (run (Flow.step ns) f pre).tcb.m_cWnd)

def Flow.withLastCwnd (f : Flow ρ) (y : UInt32) : Flow ρ :=
  { f with tcb := { f.tcb with lastCwnd := y } }

structure Unsampled (x y : UInt32) (f g : Flow ρ) : Prop where
  lastRtt : f.tcb.lastRtt = 0
  lastCwnd : f.tcb.lastCwnd = x
  other : g = f.withLastCwnd y

section Samples
variable {ns} {x y : UInt32} {f g : Flow ρ} {c : Call}

theorem sameView_of_unsampled (h : Unsampled x y f g) : SameView f g := by
  rw [h.other]
  exact ⟨rfl, rfl, rfl, rfl⟩

theorem lift_withLastCwnd (k : Sender ρ → Sender ρ) :
    (f.withLastCwnd y).lift k = (f.lift k).withLastCwnd y := rfl

theorem increaseWindow_withLastCwnd (n : UInt32) :
    (f.withLastCwnd y).increaseWindow ns n = (f.increaseWindow ns n).withLastCwnd y := by
  unfold Flow.increaseWindow
  rw [lift_withLastCwnd, lift_withLastCwnd]
  exact (apply_ite (fun g : Flow ρ => g.withLastCwnd y) _ _ _).symm

theorem unsampled_step (h : Unsampled x y f g) (hc : ¬ c.IsSample) :
    Unsampled x y (f.step ns c) (g.step ns c) := by
  obtain ⟨hr, hl, rfl⟩ := h
  cases c with
  | pktsAcked n rtt =>
    have hrtt : rtt = 0 := by
      by_contra hne
      exact hc ⟨n, rtt, rfl, hne⟩
    subst hrtt
    have hf : f.step ns (.pktsAcked n 0) = f := pktsAcked_zero f n
    have hg : (f.withLastCwnd y).step ns (.pktsAcked n 0) = f.withLastCwnd y := pktsAcked_zero _ n
    rw [hf, hg]
    exact ⟨hr, hl, rfl⟩
  | increaseWindow n =>
    have hg : (f.withLastCwnd y).increaseWindow ns n = (f.increaseWindow ns n).withLastCwnd y :=
      increaseWindow_withLastCwnd n
    obtain ⟨k, hk⟩ := Flow.increaseWindow_eq_lift ns f n
    refine ⟨?_, ?_, hg⟩
    · exact (congrArg (·.tcb.lastRtt) hk).trans hr
    · exact (congrArg (·.tcb.lastCwnd) hk).trans hl
  | enterRecovery r => exact ⟨hr, hl, rfl⟩
  | reTxTimeout b i => exact ⟨hr, hl, rfl⟩
  | other op => exact ⟨hr, hl, rfl⟩

theorem rising_iff (h : Unsampled x y f g) (rtt : Time) :
    (f.tcb.Rising rtt ↔ g.tcb.Rising rtt) ↔
      (0 < rtt → (x = f.tcb.m_cWnd ↔ y = f.tcb.m_cWnd)) := by
  obtain ⟨hr, rfl, rfl⟩ := h
  have hf : f.tcb.Rising rtt ↔ 0 < rtt ∧ f.tcb.lastCwnd = f.tcb.m_cWnd := by
    rw [TcpSocketState.Rising, hr]
  have hg : (f.withLastCwnd y).tcb.Rising rtt ↔ 0 < rtt ∧ y = f.tcb.m_cWnd := by
    rw [← hr]
    rfl
  rw [hf, hg]
  tauto

theorem count_withLastCwnd {tcb : TcpSocketState} {rtt : Time}
    (h : tcb.Rising rtt ↔ { tcb with lastCwnd := y }.Rising rtt) :
    TcpSocketState.count { tcb with lastCwnd := y } rtt =
      { tcb.count rtt with lastCwnd := y } := by
  unfold TcpSocketState.count
  by_cases hr : tcb.Rising rtt
  · rw [if_pos hr, if_pos (h.1 hr)]
    dsimp only
    split <;> rfl
  · rw [if_neg hr, if_neg (mt h.2 hr)]
    dsimp only
    split <;> rfl

theorem sample_meets (h : Unsampled x y f g) (n : UInt32) {rtt : Time}
    (hagree : f.tcb.Rising rtt ↔ g.tcb.Rising rtt) (hrtt : rtt ≠ 0) :
    f.step ns (.pktsAcked n rtt) = g.step ns (.pktsAcked n rtt) := by
  obtain ⟨-, -, rfl⟩ := h
  have hcount : TcpSocketState.count { f.tcb with lastCwnd := y } rtt =
      { f.tcb.count rtt with lastCwnd := y } := count_withLastCwnd hagree
  have hf := pktsAcked_of_ne f n hrtt
  have hg := pktsAcked_of_ne (f.withLastCwnd y) n hrtt
  change f.pktsAcked n rtt = (f.withLastCwnd y).pktsAcked n rtt
  rw [hf, hg, Flow.withLastCwnd, hcount]
  rfl

theorem add_one_ne (v : Int32) : v + 1 ≠ v := by
  intro h
  have hint := congrArg Int32.toInt h
  have hone : (1 : Int32).toInt = 1 := rfl
  have hlo := v.le_toInt
  have hhi := v.toInt_lt
  rw [Int32.toInt_add, hone, Int.bmod_def] at hint
  split_ifs at hint <;> omega

theorem sample_shows (h : Unsampled x y f g) (n : UInt32) {rtt : Time} (hrtt : rtt ≠ 0)
    (hagree : ¬ (f.tcb.Rising rtt ↔ g.tcb.Rising rtt)) :
    ¬ SameView (f.step ns (.pktsAcked n rtt)) (g.step ns (.pktsAcked n rtt)) := by
  intro hview
  have hsame := hview.v_count
  rw [Flow.step_v_count, Flow.step_v_count] at hsame
  simp only [hrtt, if_false] at hsame
  have hpos : 0 < rtt := by
    by_contra hle
    exact hagree ((rising_iff h rtt).2 fun hlt => absurd hlt hle)
  obtain ⟨hr, -, rfl⟩ := h
  have hnot : ¬ rtt < f.tcb.lastRtt := hr ▸ hpos.not_gt
  by_cases hf : f.tcb.Rising rtt
  · have hg : ¬ (f.withLastCwnd y).tcb.Rising rtt := fun hg => hagree ⟨fun _ => hg, fun _ => hf⟩
    rw [count_of_rising hf, count_of_still hg hnot] at hsame
    exact add_one_ne f.tcb.v_count hsame
  · have hg : (f.withLastCwnd y).tcb.Rising rtt := by
      by_contra hg
      exact hagree ⟨fun h => absurd h hf, fun h => absurd h hg⟩
    rw [count_of_rising hg, count_of_still hf hnot] at hsame
    exact add_one_ne f.tcb.v_count hsame.symm

/-- The first sample finds both runs in the window of both initial values, or of neither. -/
def DecidedAlike (x y : UInt32) (f _g : Flow ρ) : Call → Prop
  | .pktsAcked _ rtt => 0 < rtt → (x = f.tcb.m_cWnd ↔ y = f.tcb.m_cWnd)
  | _ => True

theorem decided_meets (h : Unsampled x y f g) (hc : c.IsSample) (hd : DecidedAlike x y f g c) :
    f.step ns c = g.step ns c := by
  obtain ⟨n, rtt, rfl, hrtt⟩ := hc
  exact sample_meets h n ((rising_iff h rtt).2 hd) hrtt

theorem undecided_shows (h : Unsampled x y f g) (hc : c.IsSample)
    (hd : ¬ DecidedAlike x y f g c) : ¬ SameView (f.step ns c) (g.step ns c) := by
  obtain ⟨n, rtt, rfl, hrtt⟩ := hc
  exact sample_shows h n hrtt (mt (rising_iff h rtt).1 hd)

end Samples

/-- Whatever a new control block's memory held, two runs on the same calls have the same counter,
mode, window and threshold at every step exactly if the first sample does not tell the two initial
values of `lastCwnd` apart. -/
theorem lastCwnd_unseen_iff (x y : UInt32) (how : Construction) (cc : TcpVegas) (recoveryOps : ρ)
    (cs : List Call) :
    (∀ pre, pre <+: cs →
        SameView (run (Flow.step ns) (Flow.start x how cc recoveryOps) pre)
          (run (Flow.step ns) (Flow.start y how cc recoveryOps) pre)) ↔
      FirstSampleAgrees ns (Flow.start x how cc recoveryOps) x y cs := by
  have hstart : Unsampled x y (Flow.start x how cc recoveryOps)
      (Flow.start y how cc recoveryOps) := by
    refine ⟨construct_lastRtt x how, construct_lastCwnd x how, ?_⟩
    rw [Flow.start, construct_eq_with x how y]
    rfl
  have hruns : Throughout (both (Flow.step ns)) (fun p => SameView p.1 p.2)
        (Flow.start x how cc recoveryOps, Flow.start y how cc recoveryOps) cs ↔
      ∀ pre c, pre ++ [c] <+: cs → (∀ a ∈ pre, ¬ a.IsSample) → c.IsSample →
        DecidedAlike x y (run (Flow.step ns) (Flow.start x how cc recoveryOps) pre)
          (run (Flow.step ns) (Flow.start y how cc recoveryOps) pre) c :=
    throughout_both_iff (V := SameView) (R := Unsampled x y) (D := Call.IsSample)
      (A := DecidedAlike x y) (fun f => ⟨rfl, rfl, rfl, rfl⟩) (fun _ _ => sameView_of_unsampled)
      (fun _ _ _ => unsampled_step) (fun _ _ _ => decided_meets) (fun _ _ _ => undecided_shows)
      hstart
  simp only [Throughout, run_both] at hruns
  rw [hruns]
  refine ⟨fun h pre n rtt hp hpre hpos => ?_, fun h pre c hp hpre hc => ?_⟩
  · exact h pre (.pktsAcked n rtt) hp hpre ⟨n, rtt, rfl, hpos.ne'⟩ hpos
  · obtain ⟨n, rtt, rfl, -⟩ := hc
    exact h pre n rtt hp hpre

/-- Six samples of rising RTT in one window: the sixth is past the threshold only if the memory
happened to hold the window. -/
theorem lastCwnd_seen : ¬ ∀ pre, pre <+: Flow.risingCalls 6 →
    SameView (run (Flow.step Ns3.classic) (Flow.start 0 .default {} ()) pre)
      (run (Flow.step Ns3.classic) (Flow.start 10000 .default {} ()) pre) := by
  intro h
  exact absurd (h _ (List.prefix_refl _)).mode (by decide)

end NetSessional.Vegas
