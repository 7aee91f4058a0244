import Mathlib.Tactic

/-! The sender's control block: the fields of ns-3's `TcpSocketState` that congestion control and
loss recovery read or write, and the fields that Vegas+ adds to them. -/

namespace NetSessional.Vegas

/-- ns-3's simulated time, counted in its resolution. -/
abbrev Time := ℤ

/-- `Time::Max ()` -/
def Time.max : Time := 2 ^ 63 - 1

abbrev SequenceNumber32 := UInt32

section Std
variable {α : Type*} [LT α] [DecidableLT α]

def stdMax (a b : α) : α := if a < b then b else a

def stdMin (a b : α) : α := if b < a then b else a

end Std

section StdUInt32
variable (a b c : UInt32)

theorem toNat_stdMax : (stdMax a b).toNat = max a.toNat b.toNat := by
  unfold stdMax
  simp only [UInt32.lt_iff_toNat_lt]
  split_ifs with h
  · exact (max_eq_right h.le).symm
  · exact (max_eq_left (not_lt.1 h)).symm

theorem toNat_stdMin : (stdMin a b).toNat = min a.toNat b.toNat := by
  unfold stdMin
  simp only [UInt32.lt_iff_toNat_lt]
  split_ifs with h
  · exact (min_eq_right h.le).symm
  · exact (min_eq_left (not_lt.1 h)).symm

theorem le_stdMax_right : b ≤ stdMax a b := by
  rw [UInt32.le_iff_toNat_le, toNat_stdMax]
  exact le_max_right _ _

theorem stdMax_le_iff : stdMax a b ≤ c ↔ a ≤ c ∧ b ≤ c := by
  simp only [UInt32.le_iff_toNat_le, toNat_stdMax, max_le_iff]

theorem stdMin_le_right : stdMin a b ≤ b := by
  rw [UInt32.le_iff_toNat_le, toNat_stdMin]
  exact min_le_right _ _

end StdUInt32

inductive TcpCongState where
  | CA_OPEN
  | CA_DISORDER
  | CA_CWR
  | CA_RECOVERY
  | CA_LOSS
  deriving DecidableEq, Repr

inductive EcnState where
  | ECN_DISABLED
  | ECN_IDLE
  | ECN_CE_RCVD
  | ECN_SENDING_ECE
  | ECN_ECE_RCVD
  | ECN_CWR_SENT
  deriving DecidableEq, Repr

inductive VegasMode where
  | MODERATE
  | AGGRESIVE
  deriving DecidableEq, Repr

/-- The fields `TcpSocketState` has without the modification. -/
structure SocketState where
  m_cWnd : UInt32 := 0
  m_cWndInfl : UInt32 := 0
  m_ssThresh : UInt32 := 0
  m_initialCWnd : UInt32 := 0
  m_initialSsThresh : UInt32 := 0
  m_isRetransDataAcked : Bool := false
  m_segmentSize : UInt32 := 0
  m_lastAckedSeq : SequenceNumber32 := 0
  m_congState : TcpCongState := .CA_OPEN
  m_ecnState : EcnState := .ECN_DISABLED
  m_highTxMark : SequenceNumber32 := 0
  m_nextTxSequence : SequenceNumber32 := 0
  m_bytesInFlight : UInt32 := 0
  m_lastRtt : Time := 0
  m_lastAckedSackedBytes : UInt32 := 0
  deriving DecidableEq, Repr

def SocketState.getCwndInSegments (tcb : SocketState) : UInt32 := tcb.m_cWnd / tcb.m_segmentSize

structure TcpSocketState extends SocketState where
  v_count : Int32 := 0
  v_count_max : Int32 := 5
  -- the one member without an initialiser
  lastCwnd : UInt32
  lastRtt : Time := 0
  mode : VegasMode := .MODERATE
  deriving DecidableEq, Repr

/-- How a control block comes into being: the two constructors. -/
inductive Construction where
  | default
  /-- the copy constructor, by which `Fork` makes the block of an accepted connection -/
  | copy (other : TcpSocketState)

/-- A new control block, whose `lastCwnd` is whatever its memory held. The copy constructor lists
neither the modification's members nor two of the others, which get their initialisers. -/
def TcpSocketState.construct (lastCwnd : UInt32) : Construction → TcpSocketState
  | .default => { lastCwnd := lastCwnd }
  | .copy other =>
    { m_cWnd := other.m_cWnd
      m_ssThresh := other.m_ssThresh
      m_initialCWnd := other.m_initialCWnd
      m_initialSsThresh := other.m_initialSsThresh
      m_segmentSize := other.m_segmentSize
      m_lastAckedSeq := other.m_lastAckedSeq
      m_congState := other.m_congState
      m_ecnState := other.m_ecnState
      m_highTxMark := other.m_highTxMark
      m_nextTxSequence := other.m_nextTxSequence
      m_bytesInFlight := other.m_bytesInFlight
      m_lastRtt := other.m_lastRtt
      m_lastAckedSackedBytes := other.m_lastAckedSackedBytes
      lastCwnd := lastCwnd }

section Construct
variable (lastCwnd : UInt32) (c : Construction)

@[simp] theorem construct_v_count : (TcpSocketState.construct lastCwnd c).v_count = 0 := by
  cases c <;> rfl

@[simp] theorem construct_v_count_max : (TcpSocketState.construct lastCwnd c).v_count_max = 5 := by
  cases c <;> rfl

@[simp] theorem construct_lastRtt : (TcpSocketState.construct lastCwnd c).lastRtt = 0 := by
  cases c <;> rfl

@[simp] theorem construct_mode : (TcpSocketState.construct lastCwnd c).mode = .MODERATE := by
  cases c <;> rfl

@[simp] theorem construct_lastCwnd :
    (TcpSocketState.construct lastCwnd c).lastCwnd = lastCwnd := by
  cases c <;> rfl

theorem construct_eq_with (lastCwnd' : UInt32) :
    TcpSocketState.construct lastCwnd' c =
      { TcpSocketState.construct lastCwnd c with lastCwnd := lastCwnd' } := by
  cases c <;> rfl

end Construct

end NetSessional.Vegas
