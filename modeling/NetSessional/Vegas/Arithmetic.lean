import NetSessional.Vegas.Flow

/-! The division and the difference of a Vegas cycle: the RTTs that `IncreaseWindow` finds when it
gets as far as `targetCwnd`. The ratio of the RTTs is taken exactly. -/

namespace NetSessional.Vegas
open Runs

variable {ρ : Type} (ns : Ns3 ρ)

/-- The constructor, with any values of the three attributes. -/
def TcpVegas.construct (alpha beta gamma : UInt32) : TcpVegas :=
  { m_alpha := alpha, m_beta := beta, m_gamma := gamma }

inductive LifeEvent (ρ : Type) where
  | call (c : Call)
  /-- the flow of an accepted connection, by the copy constructors -/
  | fork (lastCwnd : UInt32) (recoveryOps : ρ)

def Flow.live (f : Flow ρ) : LifeEvent ρ → Flow ρ
  | .call c => f.step ns c
  | .fork lastCwnd recoveryOps =>
    ⟨TcpSocketState.construct lastCwnd (.copy f.tcb), f.cc.fork, recoveryOps⟩

def Flow.fresh (tcb : TcpSocketState) (alpha beta gamma : UInt32) (recoveryOps : ρ) : Flow ρ :=
  ⟨tcb, TcpVegas.construct alpha beta gamma, recoveryOps⟩

def LifeEvent.IsSample (e : LifeEvent ρ) (rtt : Time) : Prop := ∃ n, e = .call (.pktsAcked n rtt)

/-- `IncreaseWindow` gets as far as `targetCwnd`. -/
def Flow.Adjusts (f : Flow ρ) : Prop := f.EndsCycle ns ∧ 2 < f.cc.m_cntRtt

instance (f : Flow ρ) : Decidable (f.Adjusts ns) := inferInstanceAs (Decidable (_ ∧ _))

/-- `targetCwnd` with an exact ratio: the product is cut to an integer. -/
def exactTarget (segCwnd : UInt32) (baseRtt minRtt : Time) : ℤ :=
  ⌊(segCwnd.toNat : ℚ) * ((baseRtt : ℚ) / minRtt)⌋

/-- What `IncreaseWindow` needs of the RTTs to divide them, and what it then gets. -/
structure SafeArithmetic (f : Flow ρ) : Prop where
  minRtt_pos : 0 < f.cc.m_minRtt
  baseRtt_pos : 0 < f.cc.m_baseRtt
  base_le_min : f.cc.m_baseRtt ≤ f.cc.m_minRtt
  target_nonneg : 0 ≤ exactTarget f.tcb.getCwndInSegments f.cc.m_baseRtt f.cc.m_minRtt
  /-- the assertion -/
  target_le : exactTarget f.tcb.getCwndInSegments f.cc.m_baseRtt f.cc.m_minRtt ≤
    f.tcb.getCwndInSegments.toNat
  /-- `diff` does not wrap -/
  diff : ∀ target : UInt32,
    (target.toNat : ℤ) = exactTarget f.tcb.getCwndInSegments f.cc.m_baseRtt f.cc.m_minRtt →
      (f.tcb.getCwndInSegments - target).toNat =
        f.tcb.getCwndInSegments.toNat - target.toNat

/-- The update happens under the condition, and the function then adjusts the window. -/
theorem increaseWindow_adjusts {f : Flow ρ} (h : f.Adjusts ns) (n : UInt32) :
    (f.increaseWindow ns n).tcb.toSocketState =
      ({ f.sender with cc := { f.cc with m_begSndNxt := f.tcb.m_nextTxSequence } }).adjustWindow
        ns n := by
  obtain ⟨⟨hdoing, hmode, hend⟩, hcnt⟩ := h
  have hfew : ¬ f.sender.cc.m_cntRtt ≤ 2 := UInt32.not_le.2 hcnt
  have hend' : ns.seqGe f.sender.tcb.m_lastAckedSeq f.sender.cc.m_begSndNxt = true := hend
  have hvegas : f.increaseWindow ns n = f.lift (·.vegasIncreaseWindow ns n) := by
    unfold Flow.increaseWindow
    rw [if_neg (by simp [hdoing, hmode])]
  rw [hvegas]
  change (f.sender.vegasIncreaseWindow ns n).tcb = _
  unfold Sender.vegasIncreaseWindow
  rw [if_pos hend']
  dsimp only
  rw [if_neg hfew]
  rfl

section Target
variable {segCwnd : UInt32} {baseRtt minRtt : Time}

theorem exactTarget_nonneg (hbase : 0 < baseRtt) (hle : baseRtt ≤ minRtt) :
    0 ≤ exactTarget segCwnd baseRtt minRtt := by
  have hb : (0 : ℚ) < baseRtt := by exact_mod_cast hbase
  have hm : (0 : ℚ) < minRtt := by exact_mod_cast hbase.trans_le hle
  exact Int.floor_nonneg.2 (by positivity)

/-- The minimum over the connection is at most the one over the cycle, so the ratio is at most
one. -/
theorem exactTarget_le (hbase : 0 < baseRtt) (hle : baseRtt ≤ minRtt) :
    exactTarget segCwnd baseRtt minRtt ≤ segCwnd.toNat := by
  have hm : (0 : ℚ) < minRtt := by exact_mod_cast hbase.trans_le hle
  have hratio : (baseRtt : ℚ) / minRtt ≤ 1 := by
    rw [div_le_one hm]
    exact_mod_cast hle
  have hprod : (segCwnd.toNat : ℚ) * ((baseRtt : ℚ) / minRtt) ≤ segCwnd.toNat :=
    mul_le_of_le_one_right (Nat.cast_nonneg _) hratio
  have hfloor : exactTarget segCwnd baseRtt minRtt ≤ ⌊(segCwnd.toNat : ℚ)⌋ :=
    Int.floor_le_floor hprod
  rwa [Int.floor_natCast] at hfloor

theorem exactTarget_eq_div (hmin : 0 < minRtt) :
    exactTarget segCwnd baseRtt minRtt = segCwnd.toNat * baseRtt / minRtt := by
  obtain ⟨m, rfl⟩ : ∃ m : ℕ, minRtt = m := Int.eq_ofNat_of_zero_le hmin.le
  have h := Rat.floor_intCast_div_natCast (segCwnd.toNat * baseRtt) m
  rw [← h, exactTarget, ← mul_div_assoc]
  push_cast
  rfl

end Target

section Samples
variable {ns} {f : Flow ρ} {e : LifeEvent ρ}

/-- The RTTs of an algorithm that has sampled positive RTTs only. -/
structure RttsOrdered (cc : TcpVegas) : Prop where
  base_pos : 0 < cc.m_baseRtt
  base_le_min : cc.m_baseRtt ≤ cc.m_minRtt
  min_le : cc.m_minRtt ≤ Time.max

/-- An event takes a sample, resets the cycle's count and minimum together, or leaves the three
fields alone. -/
theorem live_cases (f : Flow ρ) (e : LifeEvent ρ) :
    (∃ rtt, e.IsSample rtt ∧ rtt ≠ 0 ∧ (f.live ns e).cc = (f.sender.sampleRtt rtt).cc) ∨
      (f.live ns e).cc.m_baseRtt = f.cc.m_baseRtt ∧
        (((f.live ns e).cc.m_cntRtt = 0 ∧ (f.live ns e).cc.m_minRtt = Time.max) ∨
          (f.live ns e).cc.m_cntRtt = f.cc.m_cntRtt ∧
            (f.live ns e).cc.m_minRtt = f.cc.m_minRtt) := by
  cases e with
  | fork lastCwnd recoveryOps => exact Or.inr ⟨rfl, Or.inr ⟨rfl, rfl⟩⟩
  | call c =>
    have hcc := Flow.step_cc ns f c
    change (∃ rtt, _ ∧ _ ∧ (f.step ns c).cc = _) ∨ (f.step ns c).cc.m_baseRtt = _ ∧
      (((f.step ns c).cc.m_cntRtt = 0 ∧ (f.step ns c).cc.m_minRtt = Time.max) ∨
        (f.step ns c).cc.m_cntRtt = _ ∧ (f.step ns c).cc.m_minRtt = _)
    rw [hcc]
    cases c with
    | pktsAcked n rtt =>
      by_cases hrtt : rtt = 0
      · simp [hrtt]
      · left
        exact ⟨rtt, ⟨n, rfl⟩, hrtt, if_neg hrtt⟩
    | increaseWindow n =>
      right
      dsimp only
      split_ifs
      · exact ⟨rfl, Or.inl ⟨rfl, rfl⟩⟩
      · exact ⟨rfl, Or.inr ⟨rfl, rfl⟩⟩
    | enterRecovery r => exact Or.inr ⟨rfl, Or.inr ⟨rfl, rfl⟩⟩
    | reTxTimeout b i => exact Or.inr ⟨rfl, Or.inr ⟨rfl, rfl⟩⟩
    | other op =>
      right
      cases op with
      | congestionStateSet newState =>
        dsimp only
        split_ifs
        · exact ⟨rfl, Or.inl ⟨rfl, rfl⟩⟩
        · exact ⟨rfl, Or.inr ⟨rfl, rfl⟩⟩
      | _ => exact ⟨rfl, Or.inr ⟨rfl, rfl⟩⟩

theorem stdMin_eq_min (a b : Time) : stdMin a b = min a b := by
  unfold stdMin
  split_ifs with h
  · exact (min_eq_right h.le).symm
  · exact (min_eq_left (not_lt.1 h)).symm

theorem rttsOrdered_live (hsample : ∀ rtt, e.IsSample rtt → 0 ≤ rtt) (h : RttsOrdered f.cc) :
    RttsOrdered (f.live ns e).cc := by
  rcases live_cases f e with ⟨rtt, hrtt, hne, hcc⟩ | ⟨hbase, ⟨-, hmin⟩ | ⟨-, hmin⟩⟩
  · have hpos : 0 < rtt := lt_of_le_of_ne (hsample rtt hrtt) (Ne.symm hne)
    rw [hcc]
    refine ⟨?_, ?_, ?_⟩
    · change 0 < stdMin f.cc.m_baseRtt rtt
      rw [stdMin_eq_min]
      exact lt_min h.base_pos hpos
    · change stdMin f.cc.m_baseRtt rtt ≤ stdMin f.cc.m_minRtt rtt
      rw [stdMin_eq_min, stdMin_eq_min]
      exact min_le_min_right rtt h.base_le_min
    · change stdMin f.cc.m_minRtt rtt ≤ Time.max
      rw [stdMin_eq_min]
      exact (min_le_left _ _).trans h.min_le
  · refine ⟨hbase ▸ h.base_pos, ?_, hmin.le⟩
    rw [hbase, hmin]
    exact h.base_le_min.trans h.min_le
  · refine ⟨hbase ▸ h.base_pos, ?_, ?_⟩
    · rw [hbase, hmin]
      exact h.base_le_min
    · rw [hmin]
      exact h.min_le

/-- A cycle that has counted samples has the minimum of finite RTTs. -/
def MinIsFinite (cc : TcpVegas) : Prop := cc.m_cntRtt ≠ 0 → cc.m_minRtt < Time.max

theorem minIsFinite_live (hsample : ∀ rtt, e.IsSample rtt → rtt < Time.max)
    (h : MinIsFinite f.cc) : MinIsFinite (f.live ns e).cc := by
  intro hcnt
  rcases live_cases f e with ⟨rtt, hrtt, -, hcc⟩ | ⟨-, ⟨hzero, -⟩ | ⟨hsame, hmin⟩⟩
  · rw [hcc]
    change stdMin f.cc.m_minRtt rtt < Time.max
    rw [stdMin_eq_min]
    exact (min_le_right _ _).trans_lt (hsample rtt hrtt)
  · exact absurd hzero hcnt
  · rw [hmin]
    exact h (hsame ▸ hcnt)

theorem safeArithmetic_of_ordered (h : RttsOrdered f.cc) : SafeArithmetic f := by
  have hle : exactTarget f.tcb.getCwndInSegments f.cc.m_baseRtt f.cc.m_minRtt ≤
      f.tcb.getCwndInSegments.toNat := exactTarget_le h.base_pos h.base_le_min
  refine ⟨h.base_pos.trans_le h.base_le_min, h.base_pos, h.base_le_min,
    exactTarget_nonneg h.base_pos h.base_le_min, hle, fun target htarget => ?_⟩
  apply UInt32.toNat_sub_of_le
  rw [UInt32.le_iff_toNat_le]
  omega

end Samples

theorem rttsOrdered_run (tcb : TcpSocketState) (alpha beta gamma : UInt32) (recoveryOps : ρ)
    {evs : List (LifeEvent ρ)} (hevs : ∀ e ∈ evs, ∀ rtt, e.IsSample rtt → 0 ≤ rtt) :
    RttsOrdered (run (Flow.live ns) (.fresh tcb alpha beta gamma recoveryOps) evs).cc := by
  have hstart : RttsOrdered (Flow.fresh tcb alpha beta gamma recoveryOps).cc := by
    refine ⟨?_, le_refl _, le_refl _⟩
    change 0 < Time.max
    decide
  have hstep : ∀ (f : Flow ρ) (a : LifeEvent ρ), (∀ rtt, a.IsSample rtt → 0 ≤ rtt) →
      RttsOrdered f.cc → RttsOrdered (f.live ns a).cc := fun f a => rttsOrdered_live
  exact run_invariant_of hstep hstart hevs

/-- In the life of a flow of a new algorithm, forks included, every `IncreaseWindow` that gets to
`targetCwnd` finds positive RTTs in order, whatever non-negative RTTs were passed to `PktsAcked`, and
a finite minimum if these were finite; the target is at most the window and the difference does not
wrap. -/
theorem arithmetic_safe (tcb : TcpSocketState) (alpha beta gamma : UInt32) (recoveryOps : ρ)
    (evs : List (LifeEvent ρ)) (hevs : ∀ e ∈ evs, ∀ rtt, e.IsSample rtt → 0 ≤ rtt) :
    Along (Flow.live ns) (fun f e => (∃ n, e = .call (.increaseWindow n)) → f.Adjusts ns →
        SafeArithmetic f ∧
          ((∀ e ∈ evs, ∀ rtt, e.IsSample rtt → rtt < Time.max) → f.cc.m_minRtt < Time.max))
      (.fresh tcb alpha beta gamma recoveryOps) evs := by
  intro pre e hp _ hadjusts
  have hsub : ∀ a ∈ pre, a ∈ evs := fun a ha => hp.subset (List.mem_append_left [e] ha)
  have hordered := rttsOrdered_run ns tcb alpha beta gamma recoveryOps
    fun a ha => hevs a (hsub a ha)
  refine ⟨safeArithmetic_of_ordered hordered, fun hfinite => ?_⟩
  have hfew : MinIsFinite (Flow.fresh tcb alpha beta gamma recoveryOps).cc :=
    fun hne => absurd rfl hne
  have hstep' : ∀ (f : Flow ρ) (a : LifeEvent ρ), (∀ rtt, a.IsSample rtt → rtt < Time.max) →
      MinIsFinite f.cc → MinIsFinite (f.live ns a).cc := fun f a => minIsFinite_live
  have hmin := run_invariant_of hstep' hfew fun a ha => hfinite a (hsub a ha)
  refine hmin fun hzero => ?_
  have hcnt := hadjusts.2
  rw [hzero] at hcnt
  exact absurd hcnt (by decide)

def twentySegments : Flow Unit :=
  .fresh { m_cWnd := 10000, m_ssThresh := 65535, m_segmentSize := 500, lastCwnd := 0 } 2 4 1 ()

def threeSamples (rtt : Time) : List (LifeEvent Unit) :=
  List.replicate 3 (.call (.pktsAcked 1 rtt)) ++ [.call (.increaseWindow 1)]

theorem arithmetic_safe_three :
    SafeArithmetic (run (Flow.live Ns3.classic) twentySegments
      (List.replicate 3 (.call (.pktsAcked 1 100)))) := by
  have hsamples : ∀ e ∈ threeSamples 100, ∀ rtt, e.IsSample rtt → 0 ≤ rtt := by
    simp [threeSamples, LifeEvent.IsSample]
  exact (arithmetic_safe Ns3.classic _ 2 4 1 () (threeSamples 100) hsamples _ _
    (List.prefix_refl _) ⟨1, rfl⟩ (by decide)).1

/-- `Time::Max ()` is a non-negative RTT too, and sampled as one it is the minimum. -/
theorem infinite_rtt_sampled :
    (∀ e ∈ threeSamples Time.max, ∀ rtt, e.IsSample rtt → 0 ≤ rtt) ∧
      ¬ Along (Flow.live Ns3.classic) (fun f e => (∃ n, e = .call (.increaseWindow n)) →
          f.Adjusts Ns3.classic → SafeArithmetic f ∧ f.cc.m_minRtt < Time.max)
        twentySegments (threeSamples Time.max) := by
  refine ⟨by simp [threeSamples, LifeEvent.IsSample, Time.max], fun h => ?_⟩
  have hlast := h _ _ (List.prefix_refl _) ⟨1, rfl⟩ (by decide)
  exact absurd hlast.2 (by decide)

end NetSessional.Vegas
