import NetSessional.Tcp.Socket
import NetSessional.Lib.Loops

/-! The windows of the two ends. The shift that a SYN announces is the least that lets the whole buffer be
told in 16 bits, and what the peer reads is the room there is, to the precision of the shift. -/

namespace NetSessional.Tcp
open Vegas Loops Runs

namespace TcpSocketBase
variable {τ χ ε : Type} {k : Stack τ χ ε} {s : TcpSocketBase τ χ ε}

section Shift

def scaleRound (maxWinSize : UInt32) (p : UInt32 × UInt8) : Round (UInt32 × UInt8) :=
  if p.1 > maxWinSize then .again (p.1 >>> 1, p.2 + 1) else .done p

theorem scaleLoop_eq (maxWinSize : UInt32) (rounds : ℕ) (space : UInt32) (scale : UInt8) :
    scaleLoop maxWinSize rounds space scale =
      (loop (scaleRound maxWinSize) rounds (space, scale)).2 := by
  induction rounds generalizing space scale with
  | zero => rfl
  | succ rounds ih =>
    unfold scaleLoop
    split_ifs with h
    · rw [ih, loop_again (show scaleRound maxWinSize (space, scale) = _ from if_pos h)]
    · rw [loop_done (show scaleRound maxWinSize (space, scale) = _ from if_neg h)]

structure Shifted (size maxWinSize : ℕ) (p : UInt32 × UInt8) : Prop where
  space : p.1.toNat = size / 2 ^ p.2.toNat
  above : ∀ m < p.2.toNat, maxWinSize < size / 2 ^ m
  scale : p.2.toNat ≤ 32

theorem scaleRound_lowers (size maxWinSize : UInt32) :
    Lowers (scaleRound maxWinSize) (Shifted size.toNat maxWinSize.toNat) fun p => 32 - p.2.toNat := by
  have hround : ∀ p q, Shifted size.toNat maxWinSize.toNat p → scaleRound maxWinSize p = .again q →
      Shifted size.toNat maxWinSize.toNat q ∧ p.2.toNat < 32 ∧ q.2.toNat = p.2.toNat + 1 := by
    intro p q hp h
    unfold scaleRound at h
    split_ifs at h with hspace
    obtain rfl := Round.again.inj h
    have hspace' := UInt32.lt_iff_toNat_lt.1 hspace
    have hlt : p.2.toNat < 32 := by
      by_contra hge
      have hsize := size.toNat_lt
      have hscale := hp.scale
      rw [hp.space, show p.2.toNat = 32 by omega, Nat.div_eq_of_lt hsize] at hspace'
      omega
    have hsucc : (p.2 + 1).toNat = p.2.toNat + 1 := by
      rw [UInt8.toNat_add, Nat.mod_eq_of_lt]
      · rfl
      · change p.2.toNat + 1 < _
        omega
    refine ⟨⟨?_, ?_, ?_⟩, hlt, hsucc⟩
    · change (p.1 >>> 1).toNat = _ / 2 ^ (p.2 + 1).toNat
      rw [hsucc, UInt32.toNat_shiftRight, hp.space, Nat.pow_succ, ← Nat.div_div_eq_div_mul]
      rfl
    · change ∀ m < (p.2 + 1).toNat, _
      rw [hsucc]
      intro m hm
      rcases Nat.lt_succ_iff_lt_or_eq.1 hm with hm | rfl
      · exact hp.above m hm
      · rwa [← hp.space]
    · change (p.2 + 1).toNat ≤ 32
      omega
  refine ⟨fun p q hp h => (hround p q hp h).1, fun p q hp h => ?_, fun p hp h => ?_⟩
  · obtain ⟨-, hlt, hsucc⟩ := hround p q hp h
    omega
  · refine if_neg fun hspace => ?_
    obtain ⟨-, hlt, -⟩ := hround p _ hp (if_pos hspace)
    omega

theorem shifted_zero (size : UInt32) (maxWinSize : ℕ) : Shifted size.toNat maxWinSize (size, 0) :=
  ⟨by simp, fun m hm => absurd hm (Nat.not_lt_zero m), by simp⟩

/-- The shift of `CalculateWScale` is the least for which the whole buffer fits the greatest window, or the
14 that the option allows; and the loop that finds it takes at most 32 rounds. -/
theorem calculateWScale_least :
    (s.calculateWScale k).toNat ≤ 14 ∧
      ((s.calculateWScale k).toNat < 14 →
        (k.maxBufferSize s.m_rxBuffer).toNat / 2 ^ (s.calculateWScale k).toNat ≤
          s.m_maxWinSize.toNat) ∧
      (∀ m < (s.calculateWScale k).toNat,
        s.m_maxWinSize.toNat < (k.maxBufferSize s.m_rxBuffer).toNat / 2 ^ m) ∧
      ∀ rounds, 32 ≤ rounds →
        scaleLoop s.m_maxWinSize.toUInt32 rounds (k.maxBufferSize s.m_rxBuffer) 0 =
          scaleLoop s.m_maxWinSize.toUInt32 32 (k.maxBufferSize s.m_rxBuffer) 0 := by
  have h0 := shifted_zero (k.maxBufferSize s.m_rxBuffer) s.m_maxWinSize.toUInt32.toNat
  have hrounds : 32 - (0 : UInt8).toNat ≤ 32 := by simp
  obtain ⟨p, hp, hdone⟩ := (scaleRound_lowers _ _).ends h0 hrounds
  have hends : ∀ rounds, 32 ≤ rounds →
      scaleLoop s.m_maxWinSize.toUInt32 rounds (k.maxBufferSize s.m_rxBuffer) 0 =
        scaleLoop s.m_maxWinSize.toUInt32 32 (k.maxBufferSize s.m_rxBuffer) 0 := by
    intro rounds hle
    rw [scaleLoop_eq, scaleLoop_eq, (scaleRound_lowers _ _).loop_eq h0 (hrounds.trans hle),
      (scaleRound_lowers _ _).loop_eq h0 hrounds]
  have hend : loop (scaleRound s.m_maxWinSize.toUInt32) 32 (k.maxBufferSize s.m_rxBuffer, 0) = p ∧
      p.1.toNat ≤ s.m_maxWinSize.toNat := by
    unfold scaleRound at hdone
    split_ifs at hdone with hspace
    refine ⟨(Round.done.inj hdone).symm, ?_⟩
    have hle := UInt32.le_iff_toNat_le.1 (UInt32.not_lt.1 hspace)
    rwa [UInt16.toNat_toUInt32] at hle
  have hscale : s.calculateWScale k = if p.2 > 14 then 14 else p.2 := by
    unfold calculateWScale
    rw [scaleLoop_eq, hend.1]
  have habove := hp.above
  rw [UInt16.toNat_toUInt32] at habove
  rw [hscale]
  split_ifs with h
  · have h14 : 14 < p.2.toNat := UInt8.lt_iff_toNat_lt.1 h
    exact ⟨le_refl 14, fun hlt => absurd hlt (lt_irrefl 14), fun m hm => habove m (lt_trans hm h14),
      hends⟩
  · have h14 : p.2.toNat ≤ 14 := UInt8.le_iff_toNat_le.1 (UInt8.not_lt.1 h)
    refine ⟨h14, fun _ => ?_, habove, hends⟩
    rw [← hp.space]
    exact hend.2

end Shift

section Advertised

end Advertised

end TcpSocketBase

end NetSessional.Tcp
