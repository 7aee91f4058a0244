import NetSessional.Vegas.Flow

/-! The counter and the mode: whether they stay in step over a run. -/

namespace NetSessional.Vegas
open Runs

variable {ρ : Type} (ns : Ns3 ρ)

/-- The counter is not negative, and in moderate mode it is not past the threshold. -/
structure CounterInRange (f : Flow ρ) : Prop where
  nonneg : 0 ≤ f.tcb.v_count
  moderate : f.tcb.mode = .MODERATE → f.tcb.v_count ≤ f.tcb.v_count_max

/-- If the call switches to aggressive mode, it takes the counter past the threshold from below. -/
def SwitchesFromBelow (f : Flow ρ) (c : Call) : Prop :=
  f.tcb.mode = .MODERATE → (f.step ns c).tcb.mode = .AGGRESIVE →
    f.tcb.v_count ≤ f.tcb.v_count_max ∧ f.tcb.v_count_max < (f.step ns c).tcb.v_count

/-- A fast retransmit finds a counter whose half is not past the threshold; a rising sample finds
one that can still be counted up. -/
def KeepsThreshold (f : Flow ρ) : Call → Prop
  | .enterRecovery _ => f.tcb.v_count / 2 ≤ f.tcb.v_count_max
  | .pktsAcked _ rtt => rtt ≠ 0 → f.tcb.Rising rtt → f.tcb.v_count < Int32.maxValue
  | _ => True

section Arithmetic
variable {v : Int32}

theorem add_one_nonneg_iff (hv : 0 ≤ v) : 0 ≤ v + 1 ↔ v < Int32.maxValue := by
  have h0 : (0 : ℤ) ≤ v.toInt := Int32.le_iff_toInt_le.1 hv
  have hlt := v.toInt_lt
  rw [Int32.le_iff_toInt_le, Int32.lt_iff_toInt_lt, Int32.toInt_add]
  have hone : (1 : Int32).toInt = 1 := rfl
  have hzero : (0 : Int32).toInt = 0 := rfl
  have hmax : Int32.maxValue.toInt = 2 ^ 31 - 1 := rfl
  rw [hone, hzero, hmax, Int.bmod_def]
  split_ifs <;> omega

theorem half_nonneg (hv : 0 ≤ v) : 0 ≤ v / 2 := by
  have h0 : (0 : ℤ) ≤ v.toInt := Int32.le_iff_toInt_le.1 hv
  rw [Int32.le_iff_toInt_le, Int32.toInt_div_of_ne_right _ _ (by decide)]
  exact Int.tdiv_nonneg h0 (by decide)

theorem count_down_nonneg : 0 ≤ stdMax (v - 1) 0 := by
  unfold stdMax
  split_ifs with h
  · exact Int32.le_refl 0
  · exact Int32.not_lt.1 h

theorem count_down_le (hv : 0 ≤ v) : stdMax (v - 1) 0 ≤ v := by
  have h0 : (0 : ℤ) ≤ v.toInt := Int32.le_iff_toInt_le.1 hv
  unfold stdMax
  split_ifs with h
  · exact hv
  · rw [Int32.lt_iff_toInt_lt, Int32.toInt_sub] at h
    rw [Int32.le_iff_toInt_le, Int32.toInt_sub]
    have hone : (1 : Int32).toInt = 1 := rfl
    have hzero : (0 : Int32).toInt = 0 := rfl
    have hlt := v.toInt_lt
    rw [hone, hzero, Int.bmod_def] at *
    split_ifs at * <;> omega

end Arithmetic

section Step
variable {ns} {f : Flow ρ} {c : Call}

theorem counterInRange_of_le {f' : Flow ρ} (h : CounterInRange f) (hmode : f'.tcb.mode = f.tcb.mode)
    (hmax : f'.tcb.v_count_max = f.tcb.v_count_max) (h0 : 0 ≤ f'.tcb.v_count)
    (hle : f'.tcb.v_count ≤ f.tcb.v_count) : CounterInRange f' := by
  refine ⟨h0, fun hm => ?_⟩
  rw [hmax]
  exact Int32.le_trans hle (h.moderate (hmode.symm.trans hm))

/-- A rising sample keeps the range unless the counter overflows: past the threshold it switches the
mode. -/
theorem counterInRange_rising (h : CounterInRange f) {n : UInt32} {rtt : Time} (hrtt : rtt ≠ 0)
    (hr : f.tcb.Rising rtt) :
    CounterInRange (f.step ns (.pktsAcked n rtt)) ↔ f.tcb.v_count < Int32.maxValue := by
  have hcount : (f.step ns (.pktsAcked n rtt)).tcb.v_count = f.tcb.v_count + 1 := by
    rw [Flow.step_v_count]
    exact (if_neg hrtt).trans (count_of_rising hr)
  rw [← add_one_nonneg_iff h.nonneg]
  refine ⟨fun h' => hcount ▸ h'.nonneg, fun h0 => ⟨hcount ▸ h0, fun hm => ?_⟩⟩
  rw [hcount, Flow.step_v_count_max]
  by_contra hgt
  rw [Int32.not_le] at hgt
  rw [Flow.step_mode] at hm
  simp [hrtt, count_mode, hr, hgt] at hm

theorem counterInRange_sample (h : CounterInRange f) (n : UInt32) (rtt : Time) :
    CounterInRange (f.step ns (.pktsAcked n rtt)) ↔ KeepsThreshold f (.pktsAcked n rtt) := by
  by_cases hrtt : rtt = 0
  · subst hrtt
    have hsame : f.step ns (.pktsAcked n 0) = f := pktsAcked_zero f n
    rw [hsame]
    exact ⟨fun _ hne => absurd rfl hne, fun _ => h⟩
  by_cases hr : f.tcb.Rising rtt
  · rw [counterInRange_rising h hrtt hr]
    exact ⟨fun hlt _ _ => hlt, fun hk => hk hrtt hr⟩
  · -- a sample that is not counted up never leaves the range
    refine ⟨fun _ _ hr' => absurd hr' hr, fun _ => ?_⟩
    have hmode : (f.step ns (.pktsAcked n rtt)).tcb.mode = f.tcb.mode := by
      rw [Flow.step_mode]
      simp [hrtt, count_mode, hr]
    have hcount : (f.step ns (.pktsAcked n rtt)).tcb.v_count = (f.tcb.count rtt).v_count := by
      rw [Flow.step_v_count]
      exact if_neg hrtt
    by_cases hf : rtt < f.tcb.lastRtt
    · rw [count_of_falling hf] at hcount
      exact counterInRange_of_le h hmode (Flow.step_v_count_max ..) (hcount ▸ count_down_nonneg)
        (hcount ▸ count_down_le h.nonneg)
    · rw [count_of_still hr hf] at hcount
      exact counterInRange_of_le h hmode (Flow.step_v_count_max ..) (hcount ▸ h.nonneg)
        (hcount ▸ Int32.le_refl _)

theorem counterInRange_step (hmax : f.tcb.v_count_max = 5) (h : CounterInRange f) :
    CounterInRange (f.step ns c) ↔ KeepsThreshold f c := by
  cases c with
  | pktsAcked n rtt => exact counterInRange_sample h n rtt
  | enterRecovery r =>
    refine ⟨fun h' => h'.moderate rfl, fun hk => ⟨half_nonneg h.nonneg, fun _ => hk⟩⟩
  | reTxTimeout b i =>
    have hzero : (f.step ns (.reTxTimeout b i)).tcb.v_count = 0 := rfl
    refine ⟨fun _ => trivial, fun _ => ⟨Int32.le_refl 0, fun _ => ?_⟩⟩
    rw [hzero, Flow.step_v_count_max, hmax]
    decide
  | increaseWindow n =>
    refine ⟨fun _ => trivial, fun _ => ?_⟩
    have hcount : (f.step ns (.increaseWindow n)).tcb.v_count = f.tcb.v_count :=
      Flow.step_v_count ..
    exact counterInRange_of_le h (Flow.step_mode ..) (Flow.step_v_count_max ..)
      (hcount ▸ h.nonneg) (hcount ▸ Int32.le_refl _)
  | other op => exact ⟨fun _ => trivial, fun _ => ⟨h.nonneg, h.moderate⟩⟩

theorem switchesFromBelow_of_inRange (h : CounterInRange f) : SwitchesFromBelow ns f c := by
  intro hmod hagg
  have hlift : f.Lifting c := by
    by_contra hnot
    rw [(Flow.step_moderate_iff ns f c hmod).2 hnot] at hagg
    cases hagg
  obtain ⟨n, rtt, rfl, hrtt, hr, hgt⟩ := hlift
  refine ⟨h.moderate hmod, ?_⟩
  rw [Flow.step_v_count]
  simpa [hrtt, count_of_rising hr] using hgt

end Step

/-- From a new control block on, the counter stays in range, and every switch to aggressive mode
takes it past the threshold from below, exactly as long as no fast retransmit finds a counter whose
half is still past the threshold (and the counter does not overflow). -/
theorem counter_in_range_iff (lastCwnd : UInt32) (how : Construction) (cc : TcpVegas)
    (recoveryOps : ρ) (cs : List Call) :
    (Throughout (Flow.step ns) CounterInRange (Flow.start lastCwnd how cc recoveryOps) cs ∧
        Along (Flow.step ns) (SwitchesFromBelow ns) (Flow.start lastCwnd how cc recoveryOps) cs) ↔
      Along (Flow.step ns) KeepsThreshold (Flow.start lastCwnd how cc recoveryOps) cs := by
  have hmax : (Flow.start lastCwnd how cc recoveryOps).tcb.v_count_max = 5 :=
    construct_v_count_max lastCwnd how
  have hstart : CounterInRange (Flow.start lastCwnd how cc recoveryOps) := by
    refine ⟨?_, fun _ => ?_⟩ <;> simp [Flow.start]
  have hrange : Throughout (Flow.step ns) CounterInRange (Flow.start lastCwnd how cc recoveryOps) cs ↔
      Along (Flow.step ns) KeepsThreshold (Flow.start lastCwnd how cc recoveryOps) cs :=
    throughout_iff_along (E := fun _ => True)
      (fun f c _ (h : f.tcb.v_count_max = 5) => (Flow.step_v_count_max ns f c).trans h)
      (fun f c _ h hf => counterInRange_step h hf) hmax hstart (fun _ _ => trivial)
  rw [← hrange]
  refine ⟨fun h => h.1, fun h => ⟨h, fun pre c hp => ?_⟩⟩
  exact switchesFromBelow_of_inRange (h pre ((List.prefix_append pre [c]).trans hp))

/-- Twelve samples counted, then a fast retransmit: six of them are kept, in moderate mode. -/
theorem counter_kept_past_threshold :
    ¬ Throughout (Flow.step Ns3.classic) CounterInRange (Flow.start 0 .default {} ())
      (Flow.risingCalls 13 ++ [.enterRecovery ⟨10000, 3, 10000, 0⟩]) := by
  intro h
  exact absurd ((h _ (List.prefix_refl _)).moderate (by decide)) (by decide)

end NetSessional.Vegas
