import NetSessional.Tcp.Waiting

/-! The handshake over a network that loses, reorders and repeats what is sent: an end is connected only
when the other has taken its first sequence number, and the server only when the client is connected
too. -/

namespace NetSessional.Tcp
open Vegas Runs

namespace Net
variable {τ χ ε : Type} (k : Stack τ χ ε) (n : Net τ χ ε)

/-- The SYN of a client, which offers a window, and the answer of a server. -/
def call (seq : SequenceNumber32) : Greeting :=
  ⟨.SYN_SENT, { SYN := true }, seq, (· ≠ 0), .inl rfl, rfl, rfl⟩

def answer (iss : SequenceNumber32) : Greeting :=
  ⟨.SYN_RCVD, { SYN := true, ACK := true }, iss, fun _ => True, .inr rfl, rfl, rfl⟩

/-- Until the client is connected, everything on the network belongs to the handshake. -/
structure Opening (iss seq : SequenceNumber32) : Prop where
  client : n.client.Waiting k (call seq)
  listener : n.listener.Listening iss
  forks : ∀ f ∈ n.forks, f.Waiting k (answer iss)

structure Sound (iss seq : SequenceNumber32) : Prop where
  listener : n.listener.toLife.Wired
  forks : ∀ f ∈ n.forks, f.toLife.Born ∧ f.rxStart = some (seq + 1)
  phase : n.Opening k iss seq ∨ n.client.toLife.Joined iss seq ∧ n.forks ≠ []

variable {k n} {iss seq : SequenceNumber32}

theorem local_opens {e : SocketEvent τ} (h : e.timed = true ∨ e.used = true ∨ e.read = true) :
    ¬ e.Opens ∨ e = .destroy := by
  cases e <;> simp [SocketEvent.timed, SocketEvent.used, SocketEvent.read] at h <;>
    simp [SocketEvent.Opens]

theorem local_not_rebinds {s : TcpSocketBase τ χ ε} {e : SocketEvent τ}
    (h : e.timed = true ∨ e.used = true ∨ e.read = true) : ¬ s.Rebinds e := by
  rcases local_opens h with h | rfl
  · exact SocketEvent.not_rebinds h
  · exact id

theorem mem_modify {α : Type} {l : List α} {i : ℕ} {g : α → α} {x : α} (h : x ∈ l.modify i g) :
    x ∈ l ∨ ∃ y ∈ l, x = g y := by
  obtain ⟨j, hj⟩ := List.mem_iff_getElem?.1 h
  rw [List.getElem?_modify] at hj
  obtain ⟨y, hy, rfl⟩ := Option.map_eq_some_iff.1 hj
  have hmem : y ∈ l := List.mem_of_getElem? hy
  split_ifs
  · exact .inr ⟨y, hmem, rfl⟩
  · exact .inl hmem


theorem parcel_mem {sent : List TcpSegment} {p : Parcel} {g : TcpSegment} (h : p.segment sent = some g) :
    g ∈ sent ∨ g.header.flags = { RST := true } := by
  cases p with
  | sent i => exact .inl (List.mem_of_getElem? h)
  | reset g' =>
    simp only [Parcel.segment] at h
    split_ifs at h with hrst
    obtain rfl := Option.some.inj h
    exact .inr hrst

theorem processListen_born {s f : TcpSocketBase τ χ ε} {a : Arrival τ}
    (hf : s.processListen k a = some f) :
    f.toLife.Born ∧ f.rxStart = some (a.segment.header.sequenceNumber + 1) := by
  unfold TcpSocketBase.processListen at hf
  split_ifs at hf
  obtain rfl := Option.some.inj hf
  generalize s.readSyn k a = s1
  unfold TcpSocketBase.completeFork
  extract_lets s2
  have h2 : (s2.setNextRx k a.segment.header.sequenceNumber).toLife.Born :=
    ⟨fun hp => absurd rfl hp, nofun, nofun⟩
  exact ⟨(TcpSocketBase.openings_sendSynAck _).keeps (fun ho => ho.born) h2, sendSynAck_rxStart _⟩

theorem forks_processListen {s f : TcpSocketBase τ χ ε} {a : Arrival τ}
    (hf : s.processListen k a = some f) : a.segment.header.flags.mask = { SYN := true } := by
  unfold TcpSocketBase.processListen at hf
  split_ifs at hf with hforks
  exact hforks.2.2

/-- What the client sends the server: until it is connected, its SYN, with an open window, and resets. -/
theorem Sound.client_sent (h : n.Sound k iss seq) {p : Parcel} {g : TcpSegment}
    (hp : p.segment n.client.sent = some g) :
    g.header.flags.SYN = true → g.header.sequenceNumber = seq := by
  rcases parcel_mem hp with hg | hg
  · rcases h.phase with hopen | ⟨hj, -⟩
    · exact hopen.client.syns g hg
    · exact hj.syns g hg
  · rw [hg]
    exact nofun

theorem Opening.client_sent (h : n.Opening k iss seq) {p : Parcel} {g : TcpSegment}
    (hp : p.segment n.client.sent = some g) :
    g.header.flags.mask = { SYN := true } ∧ g.header.windowSize ≠ 0 ∨
      g.header.flags = { RST := true } := by
  rcases parcel_mem hp with hg | hg
  · exact (h.client.sent g hg).imp_left fun hs => ⟨hs.1, hs.2.2⟩
  · exact .inr hg

theorem Opening.fork_arrive (h : n.Opening k iss seq) {p : Parcel} {a : Arrival τ}
    (hp : p.segment n.client.sent = some a.segment) {f : TcpSocketBase τ χ ε}
    (hf : f.Waiting k (answer iss)) : (f.arrive k a).Waiting k (answer iss) := by
  rcases h.client_sent hp with ⟨hmask, hw⟩ | hrst
  · exact hf.syn a rfl rfl (fun _ => trivial) hmask hw
  · exact hf.reset a hrst

theorem Sound.deliver (h : n.Sound k iss seq) {p : Parcel} {a : Arrival τ}
    (hp : p.segment n.client.sent = some a.segment) (hf : (n.deliver k a).listener.faults = []) :
    (n.deliver k a).Sound k iss seq := by
  have hsyn := h.client_sent hp
  have hborn : ∀ f ∈ n.forks, (f.arrive k a).toLife.Born ∧ (f.arrive k a).rxStart = some (seq + 1) := by
    intro f hfm
    obtain ⟨hb, hrx⟩ := h.forks f hfm
    refine ⟨hb.step (e := .arrive a) (.inl id), ?_⟩
    rcases hb.rxStart_arrive a hsyn with hr | hr
    · exact hr.trans hrx
    · exact hr
  simp only [Net.deliver] at hf ⊢
  split_ifs at hf ⊢ with hmatch
  · refine ⟨h.listener, ?_, ?_⟩
    · intro f' hf'
      obtain ⟨f, hfm, rfl⟩ := List.mem_map.1 hf'
      split_ifs
      · exact hborn f hfm
      · exact h.forks f hfm
    · refine h.phase.imp (fun hopen => ⟨hopen.client, hopen.listener, ?_⟩) fun hj => ⟨hj.1, ?_⟩
      · intro f' hf'
        obtain ⟨f, hfm, rfl⟩ := List.mem_map.1 hf'
        split_ifs
        · exact hopen.fork_arrive hp (hopen.forks f hfm)
        · exact hopen.forks f hfm
      · simpa using hj.2
  · refine ⟨?_, ?_, ?_⟩
    · exact (TcpSocketBase.openings_arrive a).keeps (fun ho => ho.wired) h.listener
    · intro f hfm
      rcases List.mem_append.1 hfm with hfm | hfm
      · exact h.forks f hfm
      · have hnew := Option.mem_toList.1 hfm
        obtain ⟨hb, hrx⟩ := processListen_born hnew
        rw [hsyn (congrArg Flags.SYN (forks_processListen hnew))] at hrx
        exact ⟨hb, hrx⟩
    · refine h.phase.imp (fun hopen => ⟨hopen.client, ?_, ?_⟩) fun hj => ⟨hj.1, ?_⟩
      · exact hopen.listener.arrive a ((hopen.client_sent hp).imp_left And.left) hf
      · intro f hfm
        rcases List.mem_append.1 hfm with hfm | hfm
        · exact hopen.forks f hfm
        · exact TcpSocketBase.processListen_waiting a hopen.listener.connected hopen.listener.next rfl
            rfl (fun _ => trivial) (Option.mem_toList.1 hfm)
      · exact fun hnil => hj.2 (List.append_eq_nil_iff.1 hnil).1

theorem Sound.step_client (h : n.Sound k iss seq) {e : SocketEvent τ}
    (he : e.timed = true ∨ e.used = true ∨ e.read = true ∧ n.client.m_connected = true) :
    Sound k { n with client := n.client.step k e } iss seq := by
  refine ⟨h.listener, h.forks, ?_⟩
  rcases h.phase with hopen | ⟨hj, hne⟩
  · refine .inl ⟨?_, hopen.listener, hopen.forks⟩
    rcases he with he | he | ⟨-, hconn⟩
    · exact hopen.client.timed he
    · exact hopen.client.used rfl he
    · rw [hopen.client.connected] at hconn
      cases hconn
  · exact .inr ⟨hj.step (local_opens (he.imp_right (.imp_right And.left))), hne⟩

theorem Sound.step_server (h : n.Sound k iss seq) (i : ℕ) (e : SocketEvent τ) :
    Sound k { n with
      forks := n.forks.modify i fun f => if mayHappen e f then f.step k e else f } iss seq := by
  have hlocal : ∀ f : TcpSocketBase τ χ ε, mayHappen e f = true →
      e.timed = true ∨ e.used = true ∨ e.read = true := by
    intro f hmay
    unfold mayHappen at hmay
    simp only [Bool.or_eq_true, Bool.and_eq_true] at hmay
    exact hmay.imp_right And.left
  refine ⟨h.listener, ?_, ?_⟩
  · intro f' hf'
    rcases mem_modify hf' with hf' | ⟨f, hfm, rfl⟩
    · exact h.forks f' hf'
    · obtain ⟨hb, hrx⟩ := h.forks f hfm
      split_ifs with hmay
      · exact ⟨hb.step (local_opens (hlocal f hmay)), (hb.rxStart_step (hlocal f hmay)).trans hrx⟩
      · exact ⟨hb, hrx⟩
  · refine h.phase.imp (fun hopen => ⟨hopen.client, hopen.listener, ?_⟩) fun hj => ⟨hj.1, ?_⟩
    · intro f' hf'
      rcases mem_modify hf' with hf' | ⟨f, hfm, rfl⟩
      · exact hopen.forks f' hf'
      · have hw := hopen.forks f hfm
        split_ifs with hmay
        · -- the application has not been told of the connection
          have htimed : e.timed = true := by
            simpa [mayHappen, hw.told] using hmay
          exact hw.timed htimed
        · exact hw
    · exact fun hnil => hj.2 (by simpa using congrArg List.length hnil)

theorem Sound.step_toClient (h : n.Sound k iss seq) {p : Parcel} {a : Arrival τ}
    (hp : p.segment n.answers = some a.segment) :
    Sound k { n with client := n.client.arrive k a } iss seq := by
  refine ⟨h.listener, h.forks, ?_⟩
  rcases h.phase with hopen | ⟨hj, hne⟩
  · have hreset : a.segment.header.flags = { RST := true } →
        (n.client.arrive k a).Waiting k (call seq) := hopen.client.reset a
    rcases parcel_mem hp with hg | hg
    · obtain ⟨f, hfm, hgf⟩ := List.mem_flatMap.1 hg
      rcases (hopen.forks f hfm).sent _ hgf with hs | hrst
      · rcases hopen.client.synAck a rfl hs.1 hs.2.1 with hw | hj
        · exact .inl ⟨hw, hopen.listener, hopen.forks⟩
        · exact .inr ⟨hj, List.ne_nil_of_mem hfm⟩
      · exact .inl ⟨hreset hrst, hopen.listener, hopen.forks⟩
    · exact .inl ⟨hreset hg, hopen.listener, hopen.forks⟩
  · exact .inr ⟨hj.step (e := .arrive a) (.inl id), hne⟩

theorem Sound.step (h : n.Sound k iss seq) (e : NetEvent τ)
    (hf : (n.step k e).listener.faults = []) : (n.step k e).Sound k iss seq := by
  cases e with
  | client e =>
    simp only [Net.step, Bool.or_eq_true, Bool.and_eq_true, or_assoc]
    split_ifs with he
    · exact h.step_client he
    · exact h
  | listener e =>
    simp only [Net.step, Bool.or_eq_true, or_assoc]
    split_ifs with he
    · refine ⟨step_wired k h.listener (local_not_rebinds he), h.forks, ?_⟩
      refine h.phase.imp_left fun hopen => ⟨hopen.client, ?_, hopen.forks⟩
      exact hopen.listener.step h.listener he
    · exact h
  | server i e => exact h.step_server i e
  | toClient p CE actions =>
    simp only [Net.step]
    split
    · exact h
    · rename_i g hp
      exact h.step_toClient (a := ⟨g, CE, actions⟩) hp
  | toServer p CE actions =>
    simp only [Net.step] at hf ⊢
    split at hf
    · exact h
    · rename_i g hp
      exact h.deliver (a := ⟨g, CE, actions⟩) hp hf

theorem step_listener (hw : n.listener.toLife.Wired) (e : NetEvent τ) :
    (n.step k e).listener.toLife.Wired ∧
      ((n.step k e).listener.faults = [] → n.listener.faults = []) := by
  have hopen : ∀ l : TcpSocketBase τ χ ε, Openings n.listener.toLife l.toLife →
      l.toLife.Wired ∧ (l.faults = [] → n.listener.faults = []) :=
    fun l ho => ⟨ho.keeps (fun h => h.wired) hw, fun hf => (ho.forward hf).1⟩
  cases e with
  | client e =>
    simp only [Net.step]
    split_ifs
    · exact ⟨hw, id⟩
    · exact ⟨hw, id⟩
  | listener e =>
    simp only [Net.step, Bool.or_eq_true, or_assoc]
    split_ifs with he
    · rcases local_opens he with hne | rfl
      · exact hopen _ (TcpSocketBase.openings_step hw hne)
      · exact ⟨fun hp => absurd rfl hp, id⟩
    · exact ⟨hw, id⟩
  | server i e => exact ⟨hw, id⟩
  | toClient p CE actions =>
    simp only [Net.step]
    split
    · exact ⟨hw, id⟩
    · exact ⟨hw, id⟩
  | toServer p CE actions =>
    simp only [Net.step]
    split
    · exact ⟨hw, id⟩
    · simp only [Net.deliver]
      split_ifs
      · exact ⟨hw, id⟩
      · exact hopen _ (TcpSocketBase.openings_arrive _)

theorem Sound.run (h : n.Sound k iss seq) (evs : List (NetEvent τ))
    (hf : (run (Net.step k) n evs).listener.faults = []) :
    (run (Net.step k) n evs).Sound k iss seq := by
  have hstep : ∀ (m : Net τ χ ε) (e : NetEvent τ),
      (m.listener.toLife.Wired ∧ (m.listener.faults = [] → m.Sound k iss seq)) →
        (m.step k e).listener.toLife.Wired ∧
          ((m.step k e).listener.faults = [] → (m.step k e).Sound k iss seq) := by
    intro m e hm
    obtain ⟨hw, hback⟩ := step_listener (k := k) hm.1 e
    exact ⟨hw, fun hfm => (hm.2 (hback hfm)).step e hfm⟩
  exact (run_invariant hstep ⟨h.listener, fun _ => h⟩ evs).2 hf

theorem connect_waiting {c : TcpSocketBase τ χ ε} (hc : c.toLife = {})
    (hwin : c.advertisedWindowSize k false ≠ 0) (name peer : Address) (source : UInt32) :
    (c.connect k (some name) peer (some source)).Waiting k (call c.m_tcb.m_nextTxSequence) := by
  obtain ⟨s3, ⟨⟨e, hl3⟩, ha3, -, -, -, -⟩, hconnect⟩ :=
    TcpSocketBase.connect_new (k := k) hc name peer source
  rw [hconnect]
  have hu : s3.Unmet k (call c.m_tcb.m_nextTxSequence) := by
    refine ⟨by rw [hl3], ha3.next, ha3.window.symm ▸ hwin, ?_, ?_⟩
    · rw [hl3]
      exact List.forall_mem_nil _
    · rw [hl3]
      exact List.not_mem_nil
  exact hu.doConnect (by rw [hl3]) (by simp [hl3]) (by rw [hl3]) rfl rfl

theorem sound_connect {c l : TcpSocketBase τ χ ε} (hc : c.toLife = {})
    (hwin : c.advertisedWindowSize k false ≠ 0) (hl : l.m_state = .LISTEN)
    (hconn : l.m_connected = false) (ht : l.timers = {}) (name peer : Address) (source : UInt32) :
    Sound k ⟨c.connect k (some name) peer (some source), l, []⟩ l.m_tcb.m_nextTxSequence
      c.m_tcb.m_nextTxSequence := by
  have hlisten : l.Listening l.m_tcb.m_nextTxSequence := ⟨hconn, rfl, .inl hl, by rw [ht]⟩
  refine ⟨fun hp => absurd (by rw [ht]) hp, List.forall_mem_nil _, .inl ?_⟩
  exact ⟨connect_waiting hc hwin name peer source, hlisten, List.forall_mem_nil _⟩

/-- The handshake agrees, however the network loses, delays, reorders and repeats what is sent: a client
that is connected has the server's first sequence number, and a socket of the server has the client's;
a socket of the server that is connected has the client's, and the client is connected. -/
theorem handshake_agreement {c l : TcpSocketBase τ χ ε} (hc : c.toLife = {})
    (hwin : c.advertisedWindowSize k false ≠ 0) (hl : l.m_state = .LISTEN)
    (hconn : l.m_connected = false) (ht : l.timers = {}) (name peer : Address) (source : UInt32)
    (evs : List (NetEvent τ)) {m : Net τ χ ε}
    (hm : m = run (Net.step k) ⟨c.connect k (some name) peer (some source), l, []⟩ evs)
    (hf : m.listener.faults = []) :
    (m.client.m_connected = true →
        m.client.rxStart = some (l.m_tcb.m_nextTxSequence + 1) ∧
          ∃ f ∈ m.forks, f.rxStart = some (c.m_tcb.m_nextTxSequence + 1)) ∧
      ∀ f ∈ m.forks, f.m_connected = true →
        m.client.m_connected = true ∧ f.rxStart = some (c.m_tcb.m_nextTxSequence + 1) := by
  subst hm
  have h := (sound_connect hc hwin hl hconn ht name peer source).run evs hf
  generalize run (Net.step k) _ evs = m at h
  refine ⟨fun hconn => ?_, fun f hfm hconn => ?_⟩
  · rcases h.phase with hopen | ⟨hj, hne⟩
    · rw [hopen.client.connected] at hconn
      cases hconn
    · obtain ⟨f, hfm⟩ := List.exists_mem_of_ne_nil _ hne
      exact ⟨hj.rxStart, f, hfm, (h.forks f hfm).2⟩
  · rcases h.phase with hopen | ⟨hj, -⟩
    · rw [(hopen.forks f hfm).connected] at hconn
      cases hconn
    · exact ⟨hj.connected, (h.forks f hfm).2⟩

def meeting : Net PlainTxBuffer PlainRxBuffer Unit :=
  run (Net.step .plain)
    ⟨TcpSocketBase.fresh.connect .plain (some TcpSocketBase.clientName) TcpSocketBase.serverName (some 1),
      (TcpSocketBase.fresh.bind (some TcpSocketBase.serverName)).listen, []⟩
    [.toServer (.sent 0) false [], .toServer (.sent 0) false [], .toClient (.sent 1) false [],
      .toServer (.sent 1) false []]

theorem handshake_agreement_meeting :
    ∃ f ∈ meeting.forks, f.m_connected = true ∧ meeting.client.m_connected = true ∧
      f.rxStart = some 1 := by
  have hagree := handshake_agreement (k := .plain) (c := TcpSocketBase.fresh)
    (l := (TcpSocketBase.fresh.bind (some TcpSocketBase.serverName)).listen) rfl (by decide) rfl rfl rfl
    TcpSocketBase.clientName TcpSocketBase.serverName 1 _ (m := meeting) rfl (by decide +kernel)
  have hmet : ∃ f ∈ meeting.forks, f.m_connected = true := by decide +kernel
  obtain ⟨f, hfm, hconn⟩ := hmet
  exact ⟨f, hfm, hconn, hagree.2 f hfm hconn⟩

end Net

end NetSessional.Tcp
