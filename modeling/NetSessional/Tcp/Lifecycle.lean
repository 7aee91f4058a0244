import NetSessional.Tcp.Openings

/-! The life of a connection over whole runs: the states come in one order and none of them comes back,
the application is told of the end once and always, and a socket without an end point is silent. -/

namespace NetSessional.Tcp
open Vegas Runs

/-- The order in which a connection comes to the states. -/
def stage : TcpStates → ℕ
  | .LISTEN => 0
  | .SYN_SENT => 1
  | .SYN_RCVD => 2
  | .ESTABLISHED => 3
  | .FIN_WAIT_1 => 4
  | .FIN_WAIT_2 => 5
  | .CLOSE_WAIT => 6
  | .CLOSING => 7
  | .LAST_ACK => 8
  | .TIME_WAIT => 9
  | .CLOSED => 10

theorem stage_injective : Function.Injective stage := by
  intro a b h
  cases a <;> cases b <;> first | rfl | exact absurd h (by decide)

theorem stage_le_closed (a : TcpStates) : stage a ≤ stage .CLOSED := by
  cases a <;> decide

theorem Edge.stage_le {a b : TcpStates} (h : Edge a b) : stage a ≤ stage b := by
  cases h <;> decide

theorem OpeningEdge.stage_le {a b : TcpStates} (h : OpeningEdge a b) : stage a ≤ stage b := by
  cases h <;> decide

section Forward

theorem Move.forward {l l' : Life} (h : Move l l') (hf : l'.faults = []) :
    l.faults = [] ∧ stage l.m_state ≤ stage l'.m_state := by
  cases h with
  | goto h =>
    rcases h with h | h
    · exact ⟨hf, h.stage_le⟩
    · exact absurd hf h.1
  | closed => exact ⟨hf, stage_le_closed _⟩
  | assert => simp at hf
  | transmit | notify | notifyClose | retime | release => exact ⟨hf, le_rfl⟩

theorem Opening.forward {l l' : Life} (h : Opening l l') (hf : l'.faults = []) :
    l.faults = [] ∧ stage l.m_state ≤ stage l'.m_state := by
  cases h with
  | move h => exact h.forward hf
  | goto h => exact ⟨hf, h.stage_le⟩
  | syn | retime | connected | setNextRx | rename => exact ⟨hf, le_rfl⟩

theorem Openings.forward {l l' : Life} (h : Openings l l') (hf : l'.faults = []) :
    l.faults = [] ∧ stage l.m_state ≤ stage l'.m_state := by
  induction h with
  | refl => exact ⟨hf, le_rfl⟩
  | tail _ hlast ih =>
    obtain ⟨hmid, hle⟩ := hlast.forward hf
    exact ⟨(ih hmid).1, (ih hmid).2.trans hle⟩

end Forward

section Runs
variable {τ χ ε : Type} (k : Stack τ χ ε) (s : TcpSocketBase τ χ ε)

/-- A run that opens no connection anew is a sequence of moves, and of the handshake's. -/
theorem openings_run {s : TcpSocketBase τ χ ε} (hw : s.toLife.Wired)
    {evs : List (SocketEvent τ)} (hE : ∀ e ∈ evs, ¬ e.Opens) :
    Openings s.toLife (run (TcpSocketBase.step k) s evs).toLife := by
  induction evs generalizing s with
  | nil => exact .refl
  | cons e evs ih =>
    have h1 := TcpSocketBase.openings_step (k := k) hw (hE e (by simp))
    exact h1.trans (ih (h1.keeps (fun h => h.wired) hw) fun e' he' => hE e' (by simp [he']))

/-- As long as no assertion fails and the application opens no connection, a later state of a run has
no lower stage. -/
theorem run_stage_le (hw : s.toLife.Wired) {evs : List (SocketEvent τ)}
    (hE : ∀ e ∈ evs, ¬ e.Opens) (hf : (run (TcpSocketBase.step k) s evs).faults = [])
    {p q : List (SocketEvent τ)} (hpq : p <+: q) (hq : q <+: evs) :
    stage (run (TcpSocketBase.step k) s p).m_state ≤
      stage (run (TcpSocketBase.step k) s q).m_state := by
  obtain ⟨mid, rfl⟩ := hpq
  obtain ⟨rest, rfl⟩ := hq
  have hmid : ∀ e ∈ mid, ¬ e.Opens := fun e he => hE e (by simp [he])
  have hrest : ∀ e ∈ rest, ¬ e.Opens := fun e he => hE e (by simp [he])
  have hp : ∀ e ∈ p ++ mid, ¬ e.Opens := fun e he => hE e (List.mem_append_left _ he)
  have h1 := openings_run k (run_wired k hw fun e he => hp e (List.mem_append_left _ he)) hmid
  have h2 := openings_run k (run_wired k hw hp) hrest
  rw [← run_append] at h1 h2
  exact (h1.forward (h2.forward hf).1).2

/-- The life of a connection goes one way: a state that has been left does not come back, unless the
application opens a connection anew. The assertions of the source are taken to hold. -/
theorem states_do_not_return (hw : s.toLife.Wired) {evs : List (SocketEvent τ)}
    (hE : ∀ e ∈ evs, ¬ e.Opens) (hf : (run (TcpSocketBase.step k) s evs).faults = [])
    {p q r : List (SocketEvent τ)} (hpq : p <+: q) (hqr : q <+: r) (hr : r <+: evs)
    (hback : (run (TcpSocketBase.step k) s r).m_state = (run (TcpSocketBase.step k) s p).m_state) :
    (run (TcpSocketBase.step k) s q).m_state = (run (TcpSocketBase.step k) s p).m_state := by
  have h1 := run_stage_le k s hw hE hf hpq (hqr.trans hr)
  have h2 := run_stage_le k s hw hE hf hqr hr
  rw [hback] at h2
  exact stage_injective (le_antisymm h2 h1)

/-- From its being established a client stays so while it is sending. -/
theorem states_do_not_return_established :
    (run (TcpSocketBase.step .plain) TcpSocketBase.client
      [.arrive TcpSocketBase.synAck, .send 1000]).m_state = .ESTABLISHED := by
  have hE : ∀ e ∈ ([.arrive TcpSocketBase.synAck, .send 1000, .sendPending] :
      List (SocketEvent PlainTxBuffer)), ¬ e.Opens := by
    simp [SocketEvent.Opens]
  have hback := states_do_not_return .plain TcpSocketBase.client (fun h => absurd rfl h) hE
    (by decide +kernel)
    (p := [.arrive TcpSocketBase.synAck]) (q := [.arrive TcpSocketBase.synAck, .send 1000])
    (r := [.arrive TcpSocketBase.synAck, .send 1000, .sendPending]) ⟨_, rfl⟩ ⟨_, rfl⟩
    (List.prefix_refl _) (by decide +kernel)
  exact hback.trans (by decide +kernel)

end Runs

section Told

/-- The application has been told of a normal close once, if it is on record, and else not at all. -/
def Life.ToldOnce (l : Life) : Prop :=
  l.notified.count .normalClose = if l.m_closeNotified then 1 else 0

theorem Move.toldOnce {l l' : Life} (h : Move l l') (hl : l.ToldOnce) : l'.ToldOnce := by
  cases h with
  | notify h =>
    unfold Life.ToldOnce at hl ⊢
    simpa [List.count_append, List.count_singleton, h] using hl
  | notifyClose h =>
    unfold Life.ToldOnce at hl ⊢
    rw [h] at hl
    simpa [List.count_append] using hl
  | goto | closed | transmit | retime | release | assert => exact hl

theorem Living.toldOnce {l l' : Life} (h : Living l l') (hl : l.ToldOnce) : l'.ToldOnce := by
  cases h with
  | opening h =>
    cases h with
    | move h => exact h.toldOnce hl
    | _ => exact hl
  | _ => exact hl

/-- A socket without an end point, or one that is closed, has told its application. -/
def Life.NotQuiet (l : Life) : Prop := l.m_endPoint = none ∨ l.m_state = .CLOSED → l.Told

theorem Move.told {l l' : Life} (h : Move l l') (hl : l.Told) : l'.Told := by
  cases h with
  | notify =>
    rcases hl with hl | hl | hl
    · exact .inl hl
    · exact .inr (.inl (by simp [hl]))
    · exact .inr (.inr (by simp [hl]))
  | notifyClose => exact .inl rfl
  | goto | closed | transmit | retime | release | assert => exact hl

theorem Edge.ne_closed {a b : TcpStates} (h : Edge a b) : b ≠ .CLOSED := by
  cases h <;> decide

theorem Move.notQuiet {l l' : Life} (h : Move l l') (hl : l.NotQuiet) : l'.NotQuiet := by
  cases h with
  | goto h =>
    rintro (he | hc)
    · exact hl (.inl he)
    · rcases h with h | ⟨-, rfl⟩
      · exact absurd hc h.ne_closed
      · cases hc
  | closed h => exact fun _ => h
  | release h => exact fun _ => h
  | transmit | retime | assert => exact hl
  | notify h => exact fun hq => (Move.notify h).told (hl hq)
  | notifyClose => exact fun _ => .inl rfl

theorem CallEdge.ne_closed {a b : TcpStates} (h : CallEdge a b) : b ≠ .CLOSED := by
  cases h <;> decide

theorem OpeningEdge.ne_closed {a b : TcpStates} (h : OpeningEdge a b) : b ≠ .CLOSED := by
  cases h <;> decide

theorem Life.NotQuiet.goto {l : Life} (hl : l.NotQuiet) {state : TcpStates} (h : state ≠ .CLOSED) :
    { l with m_state := state }.NotQuiet := by
  rintro (he | hc)
  · exact hl (.inl he)
  · exact absurd hc h

theorem Opening.notQuiet {l l' : Life} (h : Opening l l') (hl : l.NotQuiet) : l'.NotQuiet := by
  cases h with
  | move h => exact h.notQuiet hl
  | goto h => exact hl.goto h.ne_closed
  | rename he =>
    rintro (hn | hc)
    · cases hn
    · exact hl (.inr hc)
  | syn | retime | connected | setNextRx => exact hl

theorem Living.notQuiet {l l' : Life} (h : Living l l') (hl : l.NotQuiet) : l'.NotQuiet := by
  cases h with
  | opening h => exact h.notQuiet hl
  | call h => exact hl.goto h.ne_closed
  | name =>
    rintro (hn | hc)
    · cases hn
    · exact hl (.inr hc)

variable {τ χ ε : Type} (k : Stack τ χ ε)

theorem run_toldOnce {s : TcpSocketBase τ χ ε} (hw : s.toLife.Wired) (hnew : s.notified = [])
    (hclose : s.m_closeNotified = false) {evs : List (SocketEvent τ)} (hB : BoundOnce k s evs) :
    (run (TcpSocketBase.step k) s evs).toLife.ToldOnce := by
  refine run_life k (I := Life.ToldOnce) (fun h => h.toldOnce) hw ?_ hB fun _ => id
  unfold Life.ToldOnce
  rw [hnew, hclose]
  rfl

/-- In the whole life of a socket, however often it is connected, its application is told of a normal
close at most once; and it is told of it exactly if the socket remembers having done so. -/
theorem normal_close_told_once {s : TcpSocketBase τ χ ε} (hw : s.toLife.Wired)
    (hnew : s.notified = []) (hclose : s.m_closeNotified = false) {evs : List (SocketEvent τ)}
    (hB : BoundOnce k s evs) :
    (run (TcpSocketBase.step k) s evs).notified.count .normalClose =
      if (run (TcpSocketBase.step k) s evs).m_closeNotified then 1 else 0 :=
  run_toldOnce k hw hnew hclose hB

theorem normal_close_told_once_fresh :
    (run (TcpSocketBase.step .plain) TcpSocketBase.fresh
      [.bind none, .bind (some TcpSocketBase.clientName),
        .connect none TcpSocketBase.serverName (some 1), .close, .close]).notified.count
      .normalClose = 1 := by
  have hB : BoundOnce .plain TcpSocketBase.fresh [.bind none, .bind (some TcpSocketBase.clientName),
      .connect none TcpSocketBase.serverName (some 1), .close, .close] := by
    simp [BoundOnce, along_cons, along_nil, TcpSocketBase.Rebinds, TcpSocketBase.step,
      TcpSocketBase.bind, TcpSocketBase.fresh]
  have honce := normal_close_told_once .plain (fun h => absurd rfl h) rfl rfl hB
  exact honce.trans (by decide +kernel)

end Told

section Silent
variable {τ χ ε : Type} (k : Stack τ χ ε)

def Life.Silent (sent : List TcpSegment) (l : Life) : Prop := l.m_endPoint = none ∧ l.sent = sent

theorem Opening.silent {l l' : Life} {sent : List TcpSegment} (h : Opening l l')
    (hl : l.Silent sent) : l'.Silent sent := by
  cases h with
  | move h =>
    cases h with
    | transmit he => exact absurd hl.1 he
    | release => exact ⟨rfl, hl.2⟩
    | goto | closed | notify | notifyClose | retime | assert => exact hl
  | syn he => exact absurd hl.1 he
  | rename he => exact absurd hl.1 he
  | goto | retime | connected | setNextRx => exact hl

def SocketEvent.GetsEndPoint {τ : Type} : SocketEvent τ → Prop
  | .bind .. | .connect .. => True
  | _ => False

theorem step_silent {s : TcpSocketBase τ χ ε} {sent : List TcpSegment} (hw : s.toLife.Wired)
    {e : SocketEvent τ} (he : ¬ e.GetsEndPoint) (hs : s.toLife.Silent sent) :
    (s.step k e).toLife.Silent sent := by
  by_cases hopens : e.Opens
  · cases e with
    | bind | connect => exact absurd trivial he
    | listen =>
      change s.listen.toLife.Silent sent
      unfold TcpSocketBase.listen
      split_ifs
      · exact hs
      · exact hs
    | destroy => exact ⟨rfl, hs.2⟩
    | _ => exact absurd hopens id
  · exact (TcpSocketBase.openings_step hw hopens).keeps (fun h => h.silent) hs

/-- A socket that has given up its end point sends nothing more, whatever happens to it, until it is
bound or connected again. -/
theorem silent_without_end_point {s : TcpSocketBase τ χ ε} (hw : s.toLife.Wired)
    (hnone : s.m_endPoint = none) {evs : List (SocketEvent τ)} (hE : ∀ e ∈ evs, ¬ e.GetsEndPoint) :
    (run (TcpSocketBase.step k) s evs).sent = s.sent := by
  have hstep : ∀ (t : TcpSocketBase τ χ ε) (e : SocketEvent τ), ¬ e.GetsEndPoint →
      t.toLife.Wired ∧ t.toLife.Silent s.sent →
        (t.step k e).toLife.Wired ∧ (t.step k e).toLife.Silent s.sent := by
    intro t e he h
    refine ⟨step_wired k h.1 ?_, step_silent k h.1 he h.2⟩
    cases e with
    | bind => exact absurd trivial he
    | _ => exact id
  exact (run_invariant_of hstep ⟨hw, hnone, rfl⟩ hE).2.2

/-- A client that was closed while connecting, with what may come after. -/
theorem silent_without_end_point_closed :
    (run (TcpSocketBase.step .plain) (TcpSocketBase.client.step .plain .close)
      [.arrive TcpSocketBase.synAck, .send 1000, .retx, .close, .listen]).sent.length = 2 := by
  have hE : ∀ e ∈ ([.arrive TcpSocketBase.synAck, .send 1000, .retx, .close, .listen] :
      List (SocketEvent PlainTxBuffer)), ¬ e.GetsEndPoint := by
    simp [SocketEvent.GetsEndPoint]
  have hsilent := silent_without_end_point .plain (s := TcpSocketBase.client.step .plain .close)
    (fun h => absurd (by decide +kernel) h) (by decide +kernel) hE
  rw [hsilent]
  decide +kernel

def Life.Safe (l : Life) : Prop := .nullEndPoint ∉ l.faults

theorem Living.safe {l l' : Life} (h : Living l l') (hl : l.Safe) : l'.Safe := by
  cases h with
  | opening h =>
    cases h with
    | move h =>
      cases h with
      | assert h =>
        intro hmem
        rcases List.mem_append.1 hmem with hmem | hmem
        · exact hl hmem
        · exact h (List.mem_singleton.1 hmem).symm
      | _ => exact hl
    | _ => exact hl
  | _ => exact hl

/-- As long as a socket loses no end point by being bound again, it never sends through one that it does
not have: neither a data segment nor a probe, both of which use the end point unchecked. -/
theorem never_uses_null_end_point {s : TcpSocketBase τ χ ε} (hw : s.toLife.Wired)
    (hs : .nullEndPoint ∉ s.faults) {evs : List (SocketEvent τ)} (hB : BoundOnce k s evs) :
    .nullEndPoint ∉ (run (TcpSocketBase.step k) s evs).faults :=
  run_life k (I := Life.Safe) (fun h => h.safe) hw hs hB fun _ => id

theorem never_uses_null_end_point_fresh :
    .nullEndPoint ∉ (run (TcpSocketBase.step .plain) TcpSocketBase.client
      [.arrive TcpSocketBase.synAck, .send 1000, .destroy, .sendPending, .persist]).faults :=
  never_uses_null_end_point .plain (fun h => absurd rfl h) (by decide +kernel)
    (by simp [BoundOnce, along_cons, along_nil, TcpSocketBase.Rebinds])

/-- Bound again in vain while it probes a closed window, a client does use one. -/
example : .nullEndPoint ∈ (run (TcpSocketBase.step .plain) TcpSocketBase.client
    [.arrive { TcpSocketBase.synAck with segment.header.windowSize := 0 }, .bind none,
      .persist]).faults := by
  decide +kernel

end Silent

end NetSessional.Tcp
