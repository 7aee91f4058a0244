import NetSessional.Vegas.LossWindow

/-! The congestion state is kept twice: in the control block, and in Vegas as `m_doingVegasNow`. The
end of a congestion window reduction is the one assignment of `CA_OPEN` of which Vegas is not told. -/

namespace NetSessional.Vegas
open Runs

variable {ρ : Type} (ns : Ns3 ρ)

def Call.isIncreaseWindow : Call → Bool
  | .increaseWindow _ => true
  | _ => false

/-- A window update in `CA_OPEN`, and a call that leads into `CA_OPEN`, have Vegas enabled. -/
structure AgreesAt (f : Flow ρ) (c : Call) : Prop where
  update : c.isIncreaseWindow = true → f.tcb.m_congState = .CA_OPEN →
    f.cc.m_doingVegasNow = true
  transition : f.tcb.m_congState ≠ .CA_OPEN → (f.step ns c).tcb.m_congState = .CA_OPEN →
    (f.step ns c).cc.m_doingVegasNow = true

/-- The congestion state that the last congestion window reduction was entered from. -/
def Call.enteredFrom (f : Flow ρ) (entry : TcpCongState) : Call → TcpCongState
  | .other (.enterCwr _) => if f.tcb.m_congState = .CA_CWR then entry else f.tcb.m_congState
  | _ => entry

def watchCwr (w : Flow ρ × TcpCongState) (c : Call) : Flow ρ × TcpCongState :=
  (w.1.step ns c, c.enteredFrom w.1 w.2)

def enteredFrom (f : Flow ρ) (cs : List Call) : TcpCongState :=
  (run (watchCwr ns) (f, .CA_OPEN) cs).2

/-- The event does not end a congestion window reduction, or ends one that was entered from
`CA_OPEN`. -/
def EndsOpenReduction (f : Flow ρ) (s : TcpSocketBase ρ) (e : SocketEvent) : Prop :=
  ∀ i, e = .receivedAck i → ¬ ns.seqLt i.ackNumber i.oldHeadSequence →
    s.tcb.m_congState = .CA_CWR → ns.seqGt i.ackNumber s.m_recover →
      enteredFrom ns f s.calls = .CA_OPEN

/-- Vegas is enabled in `CA_OPEN` alone, and a reduction leaves it as it was. -/
structure InStep (f : Flow ρ) (entry : TcpCongState) : Prop where
  outside : f.tcb.m_congState ≠ .CA_CWR →
    (f.cc.m_doingVegasNow = true ↔ f.tcb.m_congState = .CA_OPEN)
  inside : f.tcb.m_congState = .CA_CWR → (f.cc.m_doingVegasNow = true ↔ entry = .CA_OPEN)

/-- A socket whose flow came from `f` through the calls on record, and agreed at each of them. -/
structure Agreed (f : Flow ρ) (s : TcpSocketBase ρ) : Prop where
  flow : s.flow = run (Flow.step ns) f s.calls
  agrees : Along (Flow.step ns) (AgreesAt ns) f s.calls

structure InAgreement (f : Flow ρ) (s : TcpSocketBase ρ) : Prop extends Agreed ns f s where
  inStep : InStep s.flow (enteredFrom ns f s.calls)

section Calls
variable {ns} {f : Flow ρ} {s : TcpSocketBase ρ} {c : Call}

theorem run_watchCwr (w : Flow ρ × TcpCongState) (cs : List Call) :
    (run (watchCwr ns) w cs).1 = run (Flow.step ns) w.1 cs := by
  induction cs generalizing w with
  | nil => rfl
  | cons c cs ih => exact ih (watchCwr ns w c)

theorem enteredFrom_snoc (f : Flow ρ) (cs : List Call) (c : Call) :
    enteredFrom ns f (cs ++ [c]) = c.enteredFrom (run (Flow.step ns) f cs) (enteredFrom ns f cs) := by
  unfold enteredFrom
  rw [run_snoc, watchCwr, run_watchCwr]

/-- Vegas is told of every change of the congestion state by a call that leaves it to the operation
that makes it. -/
theorem agreesAt_of_plain {entry : TcpCongState} (h : InStep f entry) (hc : TcpSocketBase.Plain c) :
    AgreesAt ns f c := by
  refine ⟨fun _ hopen => ?_, fun hne hopen => ?_⟩
  · exact (h.outside (by rw [hopen]; decide)).2 hopen
  · rw [Flow.step_congState] at hopen
    cases c with
    | pktsAcked n rtt => exact absurd hopen hne
    | increaseWindow n => exact absurd hopen hne
    | enterRecovery r => cases hopen
    | reTxTimeout b i => cases hopen
    | other op =>
      cases op with
      | enterCwr r => cases hopen
      | write g => exact absurd ((hc _).symm.trans hopen) hne
      | _ => exact absurd hopen hne

theorem InStep.keep {f' : Flow ρ} {entry : TcpCongState} (h : InStep f entry)
    (hstate : f'.tcb.m_congState = f.tcb.m_congState)
    (hdoing : f'.cc.m_doingVegasNow = f.cc.m_doingVegasNow) : InStep f' entry := by
  refine ⟨fun hne => ?_, fun hcwr => ?_⟩
  · rw [hstate] at hne ⊢
    rw [hdoing]
    exact h.outside hne
  · rw [hstate] at hcwr
    rw [hdoing]
    exact h.inside hcwr

theorem inStep_disabled {entry : TcpCongState} (st : TcpCongState)
    (hstate : f.tcb.m_congState = st) (hdoing : f.cc.m_doingVegasNow = false)
    (hcwr : st ≠ .CA_CWR) (hopen : st ≠ .CA_OPEN) :
    InStep f entry := by
  refine ⟨fun _ => ?_, fun h => absurd (hstate.symm.trans h) hcwr⟩
  rw [hstate, hdoing]
  exact ⟨fun h => absurd h (by decide), fun h => absurd h hopen⟩

theorem InStep.call {entry : TcpCongState} (h : InStep f entry) (hc : TcpSocketBase.Plain c) :
    InStep (f.step ns c) (c.enteredFrom f entry) := by
  have hcc := Flow.step_cc ns f c
  have hstate := Flow.step_congState ns f c
  cases c with
  | pktsAcked n rtt =>
    refine h.keep hstate ?_
    rw [hcc]
    dsimp only
    split <;> rfl
  | increaseWindow n =>
    refine h.keep hstate ?_
    rw [hcc]
    dsimp only
    split <;> rfl
  | enterRecovery r => exact inStep_disabled .CA_RECOVERY hstate (by rw [hcc]) (by decide) (by decide)
  | reTxTimeout b i => exact inStep_disabled .CA_LOSS hstate (by rw [hcc]) (by decide) (by decide)
  | other op =>
    cases op with
    | congestionStateSet newState => exact absurd hc id
    | enterCwr r =>
      -- Vegas is not told; what it was before is what it is in the reduction
      refine ⟨fun hne => absurd hstate hne, fun _ => ?_⟩
      rw [hcc]
      unfold Call.enteredFrom
      dsimp only
      split_ifs with hcwr
      · exact h.inside hcwr
      · exact h.outside hcwr
    | write g => exact h.keep (hstate.trans (hc _)) (by rw [hcc])
    | _ => exact h.keep hstate (by rw [hcc])

end Calls

section Sockets
variable {ns} {f : Flow ρ} {s : TcpSocketBase ρ}

theorem Agreed.snoc (h : Agreed ns f s) {c : Call} (hc : AgreesAt ns s.flow c) :
    Agreed ns f (s.call ns c) := by
  refine ⟨?_, ?_⟩
  · rw [TcpSocketBase.call, run_snoc, ← h.flow]
  · exact (along_snoc _ _ _ _ _).2 ⟨h.agrees, h.flow ▸ hc⟩

theorem Agreed.enteredFrom_call (h : Agreed ns f s) (c : Call) :
    enteredFrom ns f (s.call ns c).calls = c.enteredFrom s.flow (enteredFrom ns f s.calls) := by
  rw [TcpSocketBase.call, enteredFrom_snoc, ← h.flow]

theorem InAgreement.call (h : InAgreement ns f s) {c : Call} (hc : TcpSocketBase.Plain c) :
    InAgreement ns f (s.call ns c) := by
  refine ⟨h.toAgreed.snoc (agreesAt_of_plain h.inStep hc), ?_⟩
  rw [h.enteredFrom_call]
  exact h.inStep.call hc

/-- `CongestionStateSet` is not a transition, and the assignment after it finds Vegas as the new
state asks for. -/
theorem InAgreement.congestionStateSet (h : InAgreement ns f s) {newState : TcpCongState}
    (hne : newState ≠ .CA_CWR) : InAgreement ns f (s.congestionStateSet ns newState) := by
  unfold TcpSocketBase.congestionStateSet TcpSocketBase.setCongState TcpSocketBase.write
  have hstate := Flow.step_congState ns s.flow (.other (.congestionStateSet newState))
  have hdoing : (s.flow.step ns (.other (.congestionStateSet newState))).cc.m_doingVegasNow = true ↔
      newState = .CA_OPEN := by
    rw [Flow.step_cc]
    dsimp only
    split_ifs with hopen
    · exact ⟨fun _ => hopen, fun _ => rfl⟩
    · exact ⟨fun hfalse => absurd hfalse Bool.false_ne_true, fun hopen' => absurd hopen' hopen⟩
  have htold : Agreed ns f (s.call ns (.other (.congestionStateSet newState))) := by
    refine h.toAgreed.snoc ⟨fun hinc => ?_, fun hclosed hopen => ?_⟩
    · exact absurd hinc Bool.false_ne_true
    · exact absurd (hstate.symm.trans hopen) hclosed
  refine ⟨htold.snoc ⟨fun hinc => ?_, fun _ hopen => hdoing.2 hopen⟩, ?_⟩
  · exact absurd hinc Bool.false_ne_true
  · exact ⟨fun _ => hdoing, fun hcwr => absurd hcwr hne⟩

theorem inAgreement_kept (f : Flow ρ) : TcpSocketBase.Kept ns (InAgreement ns f) where
  same := by
    intro s s' h hflow hcalls
    refine ⟨⟨?_, ?_⟩, ?_⟩
    · rw [hflow, hcalls]
      exact h.flow
    · rw [hcalls]
      exact h.agrees
    · rw [hflow, hcalls]
      exact h.inStep
  call hc h := h.call hc
  congestionStateSet hne h := h.congestionStateSet hne

theorem inAgreement_setCongState (h : InAgreement ns f s) (hcwr : s.tcb.m_congState = .CA_CWR)
    (hentry : enteredFrom ns f s.calls = .CA_OPEN) :
    InAgreement ns f (s.setCongState ns .CA_OPEN) := by
  have hdoing : s.flow.cc.m_doingVegasNow = true := (h.inStep.inside hcwr).2 hentry
  refine ⟨h.toAgreed.snoc ⟨fun hinc => ?_, fun _ _ => hdoing⟩, ?_⟩
  · exact absurd hinc Bool.false_ne_true
  · exact ⟨fun _ => ⟨fun _ => rfl, fun _ => hdoing⟩, fun hcwr' => by cases hcwr'⟩

theorem not_agrees_setCongState (h : InAgreement ns f s) (hcwr : s.tcb.m_congState = .CA_CWR)
    (hentry : enteredFrom ns f s.calls ≠ .CA_OPEN) :
    ¬ Along (Flow.step ns) (AgreesAt ns) f (s.setCongState ns .CA_OPEN).calls := by
  intro hall
  have hlast := ((along_snoc _ _ _ _ _).1 hall).2
  rw [← h.flow] at hlast
  have hclosed : s.flow.tcb.m_congState ≠ .CA_OPEN := by
    intro hopen
    rw [show s.flow.tcb.m_congState = .CA_CWR from hcwr] at hopen
    cases hopen
  exact hentry ((h.inStep.inside hcwr).1 (hlast.transition hclosed rfl))

theorem beforeLeaving_same (h : InAgreement ns f s) (i : AckInput) :
    (s.beforeLeaving ns i).tcb.m_congState = s.tcb.m_congState ∧
      (s.beforeLeaving ns i).m_recover = s.m_recover ∧
      enteredFrom ns f (s.beforeLeaving ns i).calls = enteredFrom ns f s.calls := by
  have hkept : TcpSocketBase.Kept ns (InAgreement ns f) := inAgreement_kept f
  unfold TcpSocketBase.beforeLeaving
  extract_lets s1
  have h1 : InAgreement ns f s1 := TcpSocketBase.Kept.ite (hkept.write (fun _ => rfl) h) h
  have hsame : s1.tcb.m_congState = s.tcb.m_congState ∧ s1.m_recover = s.m_recover ∧
      enteredFrom ns f s1.calls = enteredFrom ns f s.calls := by
    unfold s1
    split_ifs
    · exact ⟨rfl, rfl, h.enteredFrom_call _⟩
    · exact ⟨rfl, rfl, rfl⟩
  exact ⟨hsame.1, hsame.2.1, (h1.enteredFrom_call _).trans hsame.2.2⟩

theorem InAgreement.step (h : InAgreement ns f s) {e : SocketEvent}
    (he : EndsOpenReduction ns f s e) : InAgreement ns f (s.step ns e) := by
  have hkept : TcpSocketBase.Kept ns (InAgreement ns f) := inAgreement_kept f
  refine hkept.step h e fun i hi hold hb => ?_
  obtain ⟨hstate, hrecover, hentry⟩ := beforeLeaving_same h i
  unfold TcpSocketBase.leaveCwr
  extract_lets s1 s2
  split_ifs with hleaves
  · have h1 : InAgreement ns f s1 := by
      refine inAgreement_setCongState hb hleaves.1 ?_
      rw [hentry]
      exact he i hi hold (hstate ▸ hleaves.1) (hrecover ▸ hleaves.2)
    have h2 : InAgreement ns f s2 := hkept.write (fun _ => rfl) h1
    exact hkept.call trivial h2
  · exact hb

theorem not_agrees_step (h : InAgreement ns f s) {e : SocketEvent}
    (he : ¬ EndsOpenReduction ns f s e) :
    ¬ Along (Flow.step ns) (AgreesAt ns) f (s.step ns e).calls := by
  simp only [EndsOpenReduction, not_forall] at he
  obtain ⟨i, rfl, hold, hcwr, hrecover, hne⟩ := he
  obtain ⟨hstate, hsame, hentry⟩ := beforeLeaving_same h i
  have hb : InAgreement ns f (s.beforeLeaving ns i) := (inAgreement_kept f).beforeLeaving h i
  have hbroken := not_agrees_setCongState hb (hstate.trans hcwr) (hentry ▸ hne)
  have hleaves : (s.beforeLeaving ns i).tcb.m_congState = .CA_CWR ∧
      ns.seqGt i.ackNumber (s.beforeLeaving ns i).m_recover = true :=
    ⟨hstate.trans hcwr, hsame.symm ▸ hrecover⟩
  have hrest : TcpSocketBase.Continues ns ((s.beforeLeaving ns i).setCongState ns .CA_OPEN)
      (s.step ns (.receivedAck i)) := by
    change TcpSocketBase.Continues ns _ (s.receivedAck ns i)
    rw [TcpSocketBase.receivedAck_eq, if_neg hold, TcpSocketBase.leaveCwr, if_pos hleaves]
    exact (TcpSocketBase.continues_kept _).afterLeaving
      (((TcpSocketBase.Continues.refl _).call _).call _) i
  obtain ⟨cs, hcs, -⟩ := hrest
  intro hall
  rw [hcs] at hall
  exact hbroken (hall.of_prefix (List.prefix_append _ cs))

theorem inAgreement_step_iff (h : InAgreement ns f s) (e : SocketEvent) :
    InAgreement ns f (s.step ns e) ↔ EndsOpenReduction ns f s e := by
  refine ⟨fun h' => ?_, fun he => h.step he⟩
  by_contra he
  exact not_agrees_step h he h'.agrees

theorem inAgreement_start (hopen : s.tcb.m_congState = .CA_OPEN)
    (hdoing : s.flow.cc.m_doingVegasNow = true) :
    InAgreement ns s.flow { s with calls := [] } := by
  refine ⟨⟨rfl, along_nil _ _ _⟩, fun _ => ⟨fun _ => hopen, fun _ => hdoing⟩, fun hcwr => ?_⟩
  have hboth : TcpCongState.CA_OPEN = .CA_CWR := hopen.symm.trans hcwr
  cases hboth

end Sockets

/-- In a run of a socket that starts in `CA_OPEN` with Vegas enabled, each window update in `CA_OPEN`
and each transition into it finds Vegas enabled, exactly if no ACK ends a congestion window reduction
that was entered in `CA_DISORDER`, `CA_RECOVERY` or `CA_LOSS`. -/
theorem agrees_iff (s : TcpSocketBase ρ) (hopen : s.tcb.m_congState = .CA_OPEN)
    (hdoing : s.flow.cc.m_doingVegasNow = true) (evs : List SocketEvent) :
    (run (TcpSocketBase.step ns) { s with calls := [] } evs).flow =
        run (Flow.step ns) s.flow (callsOf ns s evs) ∧
      (Along (Flow.step ns) (AgreesAt ns) s.flow (callsOf ns s evs) ↔
        Along (TcpSocketBase.step ns) (EndsOpenReduction ns s.flow) { s with calls := [] } evs) := by
  refine ⟨TcpSocketBase.run_flow rfl evs, ?_⟩
  have hstart : InAgreement ns s.flow { s with calls := [] } := inAgreement_start hopen hdoing
  have hiff : Throughout (TcpSocketBase.step ns) (InAgreement ns s.flow) { s with calls := [] } evs ↔
      Along (TcpSocketBase.step ns) (EndsOpenReduction ns s.flow) { s with calls := [] } evs :=
    throughout_iff_along (I := InAgreement ns s.flow) (J := fun _ => True) (E := fun _ => True)
      (fun _ _ _ _ => trivial) (fun _ e _ _ h => inAgreement_step_iff h e) trivial hstart
      (fun _ _ => trivial)
  rw [← hiff]
  refine ⟨fun hall pre => ?_, fun h => (h evs (List.prefix_refl _)).agrees⟩
  induction pre using List.reverseRecOn with
  | nil => exact fun _ => hstart
  | append_singleton pre e ih =>
    intro hp
    have hbefore := ih ((List.prefix_append pre [e]).trans hp)
    rw [run_snoc]
    refine hbefore.step ?_
    -- the record after this event is a part of the whole
    by_contra he
    apply not_agrees_step hbefore he
    obtain ⟨post, rfl⟩ := hp
    have hrest : TcpSocketBase.Continues ns
        (run (TcpSocketBase.step ns) { s with calls := [] } (pre ++ [e]))
        (run (TcpSocketBase.step ns) { s with calls := [] } (pre ++ [e] ++ post)) := by
      rw [run_append _ _ (pre ++ [e]) post]
      exact (TcpSocketBase.Continues.refl _).run post
    obtain ⟨cs, hcs, -⟩ := hrest
    rw [run_snoc] at hcs
    refine hall.of_prefix ?_
    rw [callsOf, hcs]
    exact List.prefix_append _ cs

/-- A duplicate ACK, an ACK with an ECN echo, and an ACK of what was sent after it. -/
def echoInDisorder : List SocketEvent :=
  [.syn false (some 1), .established true, .ecn .ECN_IDLE, .estimateRtt 100,
    .sendPending ⟨1, 500⟩, .sendPending ⟨501, 500⟩, .receivedAck (ackOf 1 1),
    .receivedAck { ackOf 501 1 with ECE := true }, .sendPending ⟨1001, 500⟩,
    .receivedAck (ackOf 1501 501)]

/-- The reduction is entered in `CA_DISORDER`, where Vegas is disabled; the window grows in `CA_OPEN`
without it. -/
theorem disabled_in_open :
    ¬ Along (Flow.step Ns3.classic)
      (fun f c => c.isIncreaseWindow = true → f.tcb.m_congState = .CA_OPEN →
        f.cc.m_doingVegasNow = true)
      newSocket.flow (callsOf Ns3.classic newSocket echoInDisorder) := by
  intro h
  have hupdate := h.getElem
    (by decide +kernel : 40 < (callsOf Ns3.classic newSocket echoInDisorder).length)
  exact absurd hupdate (by decide +kernel)

/-- With the echo alone the reduction is entered in `CA_OPEN`. -/
def echoInOpen : List SocketEvent :=
  [.ecn .ECN_IDLE, .receivedAck { ackOf 501 1 with ECE := true }, .receivedAck (ackOf 1501 501)]

theorem agrees_echoInOpen :
    Along (Flow.step Ns3.classic) (AgreesAt Ns3.classic) newSocket.flow
      (callsOf Ns3.classic newSocket echoInOpen) := by
  refine (agrees_iff Ns3.classic newSocket rfl rfl _).2.2 ?_
  unfold echoInOpen
  simp only [along_cons]
  refine ⟨?_, ?_, ?_, along_nil _ _ _⟩
  · intro i hi
    cases hi
  · intro i hi
    cases hi
    decide +kernel
  · intro i hi
    cases hi
    decide +kernel

end NetSessional.Vegas
