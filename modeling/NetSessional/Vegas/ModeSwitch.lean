import NetSessional.Lib.Walks
import NetSessional.Vegas.Flow

/-! The law of the mode switch: between loss events the counter is a walk held at zero, whose steps
are the signs of the RTT samples, and the mode is the latch of its threshold. -/

namespace NetSessional.Vegas
open Runs Walks

variable {ρ : Type} (ns : Ns3 ρ)

/-- A sample that `PktsAcked` does not skip: its RTT, and the window it finds. -/
structure Sample where
  rtt : Time
  cWnd : UInt32
  deriving DecidableEq

def Sample.sign (s last : Sample) : ℤ :=
  if s.rtt > last.rtt ∧ s.cWnd = last.cWnd then 1 else if s.rtt < last.rtt then -1 else 0

def signs (last : Sample) : List Sample → List ℤ
  | [] => []
  | s :: ss => s.sign last :: signs s ss

def Flow.sample (f : Flow ρ) : Call → Option Sample
  | .pktsAcked _ rtt => if rtt = 0 then none else some ⟨rtt, f.tcb.m_cWnd⟩
  | _ => none

def Flow.samples (f : Flow ρ) (cs : List Call) : List Sample :=
  collect (Flow.step ns) Flow.sample f cs

def TcpSocketState.lastSample (tcb : TcpSocketState) : Sample := ⟨tcb.lastRtt, tcb.lastCwnd⟩

def Call.IsLoss : Call → Prop
  | .enterRecovery _ => True
  | .reTxTimeout _ _ => True
  | _ => False

section Signs
variable (last s : Sample) (ss : List Sample)

@[simp] theorem length_signs : (signs last ss).length = ss.length := by
  induction ss generalizing last with
  | nil => rfl
  | cons t ss ih => simp [signs, ih]

theorem signs_snoc : signs last (ss ++ [s]) = signs last ss ++ [s.sign (ss.getLastD last)] := by
  induction ss generalizing last with
  | nil => rfl
  | cons t ss ih =>
    rw [List.getLastD_cons, List.cons_append, signs, ih t]
    rfl

theorem sign_le_one : s.sign last ≤ 1 := by
  unfold Sample.sign
  split_ifs <;> omega

theorem signs_le_one : ∀ x ∈ signs last ss, x ≤ 1 := by
  induction ss generalizing last with
  | nil => simp [signs]
  | cons t ss ih =>
    intro x hx
    rcases List.mem_cons.1 hx with rfl | hx
    · exact sign_le_one last t
    · exact ih t x hx

theorem reflected_signs_le : reflected (signs last ss) ≤ ss.length := by
  have h := reflected_le_nsmul (signs last ss) zero_le_one (signs_le_one last ss)
  simpa using h

end Signs

/-- The flow has taken the samples `ss`, from a counter at zero on, in moderate mode. -/
structure OnWalk (last : Sample) (max : Int32) (ss : List Sample) (f : Flow ρ) : Prop where
  previous : f.tcb.lastSample = ss.getLastD last
  threshold : f.tcb.v_count_max = max
  count : f.tcb.v_count.toInt = reflected (signs last ss)
  mode : f.tcb.mode = .AGGRESIVE ↔ Passes max.toInt (signs last ss)

section Step
variable {ns} {last : Sample} {max : Int32} {ss : List Sample} {f : Flow ρ}

/-- A call that is neither a sample nor a loss event leaves the fields of the modification alone. -/
theorem onWalk_unsampled (h : OnWalk last max ss f) {c : Call} (hsample : f.sample c = none)
    (hloss : ¬ c.IsLoss) : OnWalk last max ss (f.step ns c) := by
  have hkept : ∀ g, f.step ns c = f.lift g → OnWalk last max ss (f.step ns c) := by
    intro g hg
    rw [hg]
    exact ⟨h.previous, h.threshold, h.count, h.mode⟩
  cases c with
  | pktsAcked n rtt =>
    have hrtt : rtt = 0 := by simpa [Flow.sample] using hsample
    subst hrtt
    rw [show f.step ns (.pktsAcked n 0) = f from pktsAcked_zero f n]
    exact h
  | increaseWindow n =>
    obtain ⟨g, hg⟩ := Flow.increaseWindow_eq_lift ns f n
    exact hkept g hg
  | enterRecovery r => exact absurd trivial hloss
  | reTxTimeout b i => exact absurd trivial hloss
  | other op => exact hkept (·.perform ns op) rfl

theorem count_eq_reflect (tcb : TcpSocketState) (rtt : Time) (h0 : 0 ≤ tcb.v_count.toInt)
    (hmax : tcb.v_count.toInt < 2 ^ 31 - 1) :
    (tcb.count rtt).v_count.toInt =
      Max.max (tcb.v_count.toInt + Sample.sign ⟨rtt, tcb.m_cWnd⟩ tcb.lastSample) 0 := by
  have hone : (1 : Int32).toInt = 1 := rfl
  have hzero : (0 : Int32).toInt = 0 := rfl
  unfold Sample.sign TcpSocketState.lastSample
  dsimp only
  split_ifs with hr hf
  · rw [count_of_rising ⟨hr.1, hr.2.symm⟩, Int32.toInt_add, hone, Int.bmod_eq_of_le] <;> omega
  · rw [count_of_falling hf, stdMax]
    have hdown : (tcb.v_count - 1).toInt = tcb.v_count.toInt - 1 := by
      rw [Int32.toInt_sub, hone, Int.bmod_eq_of_le] <;> omega
    split_ifs with hlt
    · rw [Int32.lt_iff_toInt_lt, hdown, hzero] at hlt
      omega
    · rw [Int32.lt_iff_toInt_lt, hdown, hzero] at hlt
      omega
  · rw [count_of_still (fun h => hr ⟨h.1, h.2.symm⟩) hf]
    omega

/-- A sample sets the mode exactly if it takes the counter past the threshold, or finds it set. -/
theorem count_mode_iff (tcb : TcpSocketState) (rtt : Time) (h0 : 0 ≤ tcb.v_count.toInt)
    (hmax : tcb.v_count.toInt < 2 ^ 31 - 1)
    (hset : tcb.v_count_max.toInt < tcb.v_count.toInt → tcb.mode = .AGGRESIVE) :
    (tcb.count rtt).mode = .AGGRESIVE ↔
      tcb.mode = .AGGRESIVE ∨ tcb.v_count_max.toInt < (tcb.count rtt).v_count.toInt := by
  have hone : (1 : Int32).toInt = 1 := rfl
  by_cases hr : tcb.Rising rtt
  · rw [count_mode, count_of_rising hr]
    have hiff : tcb.v_count + 1 > tcb.v_count_max ↔
        tcb.v_count_max.toInt < (tcb.v_count + 1).toInt := Int32.lt_iff_toInt_lt
    by_cases hgt : tcb.v_count + 1 > tcb.v_count_max
    · rw [if_pos ⟨hr, hgt⟩]
      exact iff_of_true rfl (Or.inr (hiff.1 hgt))
    · rw [if_neg fun h => hgt h.2]
      exact ⟨Or.inl, fun h => h.resolve_right fun hlt => hgt (hiff.2 hlt)⟩
  · -- the counter has not gone up
    have hle : (tcb.count rtt).v_count.toInt ≤ tcb.v_count.toInt := by
      rw [count_eq_reflect tcb rtt h0 hmax]
      have hsign : Sample.sign ⟨rtt, tcb.m_cWnd⟩ tcb.lastSample ≤ 0 := by
        unfold Sample.sign
        rw [if_neg fun h => hr ⟨h.1, h.2.symm⟩]
        split_ifs <;> omega
      omega
    rw [count_mode, if_neg fun h => hr h.1]
    exact ⟨Or.inl, fun h => h.elim id fun hlt => hset (hlt.trans_le hle)⟩

theorem onWalk_sampled (h : OnWalk last max ss f) {c : Call} {s : Sample}
    (hsample : f.sample c = some s) (hmax : 0 ≤ max) (hlen : (ss ++ [s]).length < 2 ^ 31) :
    OnWalk last max (ss ++ [s]) (f.step ns c) := by
  obtain ⟨n, rtt, rfl, hrtt, rfl⟩ :
      ∃ n rtt, c = .pktsAcked n rtt ∧ rtt ≠ 0 ∧ s = ⟨rtt, f.tcb.m_cWnd⟩ := by
    cases c with
    | pktsAcked n rtt =>
      by_cases hrtt : rtt = 0
      · simp [Flow.sample, hrtt] at hsample
      · simp only [Flow.sample, hrtt, if_false, Option.some.injEq] at hsample
        exact ⟨n, rtt, rfl, hrtt, hsample.symm⟩
    | _ => cases hsample
  have hthr : 0 ≤ max.toInt := Int32.le_iff_toInt_le.1 hmax
  have h0 : 0 ≤ f.tcb.v_count.toInt := h.count ▸ reflected_nonneg _
  have hsmall : f.tcb.v_count.toInt < 2 ^ 31 - 1 := by
    have hle := reflected_signs_le last ss
    rw [List.length_append, List.length_singleton] at hlen
    rw [h.count]
    omega
  have hset : f.tcb.v_count_max.toInt < f.tcb.v_count.toInt → f.tcb.mode = .AGGRESIVE := by
    intro hlt
    rw [h.threshold, h.count] at hlt
    exact h.mode.2 ⟨signs last ss, List.prefix_refl _, hlt⟩
  have hcount : (f.tcb.count rtt).v_count.toInt =
      reflected (signs last (ss ++ [⟨rtt, f.tcb.m_cWnd⟩])) := by
    rw [count_eq_reflect f.tcb rtt h0 hsmall, signs_snoc, reflected_snoc, h.count, h.previous]
  have hmode := count_mode_iff f.tcb rtt h0 hsmall hset
  rw [hcount, h.threshold, h.mode] at hmode
  change OnWalk last max _ (f.pktsAcked n rtt)
  rw [pktsAcked_of_ne f n hrtt]
  refine ⟨?_, ?_, hcount, ?_⟩
  · simp [TcpSocketState.lastSample]
  · exact (count_v_count_max f.tcb).trans h.threshold
  · rw [signs_snoc, passes_snoc, ← signs_snoc]
    exact hmode

end Step

theorem onWalk_run {f : Flow ρ} (h0 : f.tcb.v_count = 0) (hmod : f.tcb.mode = .MODERATE)
    (hmax : 0 ≤ f.tcb.v_count_max) {cs : List Call} (hcs : ∀ c ∈ cs, ¬ c.IsLoss)
    (hlen : (f.samples ns cs).length < 2 ^ 31) :
    OnWalk f.tcb.lastSample f.tcb.v_count_max (f.samples ns cs) (run (Flow.step ns) f cs) := by
  induction cs using List.reverseRecOn with
  | nil =>
    have hthr : 0 ≤ f.tcb.v_count_max.toInt := Int32.le_iff_toInt_le.1 hmax
    refine ⟨rfl, rfl, ?_, ?_⟩
    · rw [run_nil, h0]
      rfl
    · rw [run_nil, hmod]
      exact iff_of_false (by decide) (not_passes_nil hthr)
  | append_singleton cs c ih =>
    have hsnoc : f.samples ns (cs ++ [c]) =
        f.samples ns cs ++ ((run (Flow.step ns) f cs).sample c).toList :=
      collect_snoc Flow.sample f cs c
    rw [hsnoc] at hlen ⊢
    rw [List.length_append] at hlen
    have hbefore := ih (fun a ha => hcs a (by simp [ha])) (by omega)
    rw [run_snoc]
    cases hs : (run (Flow.step ns) f cs).sample c with
    | none =>
      rw [Option.toList_none, List.append_nil]
      exact onWalk_unsampled hbefore hs (hcs c (by simp))
    | some s =>
      rw [hs, ← List.length_append] at hlen
      exact onWalk_sampled hbefore hs hmax hlen

theorem aggressive_step {f : Flow ρ} (h : f.tcb.mode = .AGGRESIVE) {c : Call}
    (hc : ¬ c.IsLoss) : (f.step ns c).tcb.mode = .AGGRESIVE := by
  rw [Flow.step_mode]
  cases c with
  | pktsAcked n rtt =>
    dsimp only
    rw [count_mode]
    split_ifs
    · exact h
    · rfl
    · exact h
  | enterRecovery r => exact absurd trivial hc
  | reTxTimeout b i => exact absurd trivial hc
  | _ => exact h

/-- From a counter at zero and moderate mode on, a run without loss events has its counter at the
largest sum of the last signs, and is in aggressive mode exactly if the signs of some stretch of
samples add up to more than the threshold; it is then in that mode up to the next loss event, which
ends it. -/
theorem mode_switch_law (f : Flow ρ) (h0 : f.tcb.v_count = 0) (hmod : f.tcb.mode = .MODERATE)
    (hmax : 0 ≤ f.tcb.v_count_max) (cs : List Call) (hcs : ∀ c ∈ cs, ¬ c.IsLoss)
    (hlen : (f.samples ns cs).length < 2 ^ 31) :
    let n := (f.samples ns cs).length
    let S := position (signs f.tcb.lastSample (f.samples ns cs))
    let g := run (Flow.step ns) f cs
    IsGreatest {d | ∃ k, k ≤ n ∧ d = S n - S k} g.tcb.v_count.toInt ∧
      (g.tcb.mode = .AGGRESIVE ↔
        ∃ i j, i < j ∧ j ≤ n ∧ S j - S i > f.tcb.v_count_max.toInt) ∧
      (g.tcb.mode = .AGGRESIVE → ∀ more : List Call, (∀ c ∈ more, ¬ c.IsLoss) →
        (run (Flow.step ns) g more).tcb.mode = .AGGRESIVE ∧
          ∀ c : Call, c.IsLoss → (run (Flow.step ns) g (more ++ [c])).tcb.mode = .MODERATE) := by
  intro n S g
  have hwalk : OnWalk f.tcb.lastSample f.tcb.v_count_max (f.samples ns cs) g :=
    onWalk_run ns h0 hmod hmax hcs hlen
  refine ⟨?_, ?_, fun hagg more hmore => ⟨?_, fun c hc => ?_⟩⟩
  · rw [hwalk.count]
    simpa using isGreatest_reflected (signs f.tcb.lastSample (f.samples ns cs))
  · rw [hwalk.mode, passes_iff _ (Int32.le_iff_toInt_le.1 hmax), length_signs]
  · exact run_invariant_of (I := fun f : Flow ρ => f.tcb.mode = .AGGRESIVE)
      (E := fun c => ¬ c.IsLoss) (fun f c hc h => aggressive_step ns h hc) hagg hmore
  · rw [run_snoc, Flow.step_mode]
    cases c with
    | enterRecovery r => rfl
    | reTxTimeout b i => rfl
    | _ => exact hc.elim

/-- Seven samples of which six count up, and the mode is switched. -/
theorem mode_switch_law_rising : (Flow.rising 7).tcb.mode = .AGGRESIVE := by
  have hcs : ∀ c ∈ Flow.risingCalls 7, ¬ c.IsLoss := by
    intro c hc
    rcases List.mem_cons.1 hc with rfl | hc
    · exact id
    · obtain ⟨i, -, rfl⟩ := List.mem_map.1 hc
      exact id
  have hlen : ((Flow.start 0 .default {} ()).samples Ns3.classic (Flow.risingCalls 7)).length = 7 :=
    by decide
  have hlaw := mode_switch_law Ns3.classic (Flow.start 0 .default {} ()) rfl rfl (by decide)
    (Flow.risingCalls 7) hcs (hlen ▸ by decide)
  exact hlaw.2.1.2 ⟨0, 7, by decide, hlen.ge, by decide⟩

end NetSessional.Vegas
