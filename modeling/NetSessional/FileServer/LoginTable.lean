import NetSessional.FileServer.Sessions

/-! Who the tables say is online, and from where, against the connections that are: runs of
connections, logins and disconnections on the message socket. -/

namespace NetSessional.FileServer

open Runs

/-- The connection `c`, with handler `h`, was answered `LOGIN_OK` and its thread still runs. -/
def LoggedIn (handlers : Conn → Option Handler) (c : Conn) (h : Handler) : Prop :=
  handlers c = some h ∧ h.login = .ok ∧ h.phase ≠ .ended

structure SessionsMatch (t : Sessions) (handlers : Conn → Option Handler) : Prop where
  online : ∀ u, (t.oos.lookup u).isSome ↔ ∃ c h, LoggedIn handlers c h ∧ h.user = u
  address : ∀ c h, LoggedIn handlers c h → t.ip.lookup h.user = some h.ip
  one_address : ∀ c h d k, LoggedIn handlers c h → LoggedIn handlers d k → h.user = k.user →
    h.ip = k.ip

def SessionEvent : Event → Prop
  | .accept _ socketType _ => socketType = false
  | .receive _ r _ => r = .ioError ∨ ∃ msg, r = .message msg ∧ msg.type = some .LOGIN_REQUEST

/-- When the event is the loss of a connection in its command loop, no other connection of the
handler's user is logged in. -/
def SoleSession (s : Sys) (e : Event) : Prop :=
  ∀ c env h, e = .receive c .ioError env → s.handlers.lookup c = some h → h.phase = .commands →
    ∀ d k, LoggedIn (s.handlers.lookup ·) d k → k.user = h.user → d = c

/-- A handler that waits for its login has answered nothing, and none is inside an upload. -/
def AtLoginOrCommand (s : Sys) : Prop :=
  ∀ c h, s.handlers.lookup c = some h →
    (h.phase = .login ∧ h.login = .pending) ∨ h.phase = .commands ∨ h.phase = .ended

section Update
variable {handlers handlers' : Conn → Option Handler} {c : Conn} {o : Option Handler}
  {t t' : Sessions}

theorem loggedIn_update (hu : ∀ d, handlers' d = if d = c then o else handlers d) (d : Conn)
    (k : Handler) : LoggedIn handlers' d k ↔
      (d = c ∧ o = some k ∧ k.login = .ok ∧ k.phase ≠ .ended) ∨
        (d ≠ c ∧ LoggedIn handlers d k) := by
  unfold LoggedIn
  rw [hu d]
  by_cases hd : d = c <;> simp [hd]

/-- Nothing changes when the tables stay and the connection is logged in neither before nor
after. -/
theorem SessionsMatch.quiet (h : SessionsMatch t handlers)
    (hu : ∀ d, handlers' d = if d = c then o else handlers d)
    (hbefore : ∀ k, handlers c = some k → k.login ≠ .ok ∨ k.phase = .ended)
    (hafter : ∀ k, o = some k → k.login ≠ .ok ∨ k.phase = .ended) :
    SessionsMatch t handlers' := by
  have hsame : ∀ d k, LoggedIn handlers' d k ↔ LoggedIn handlers d k := by
    intro d k
    rw [loggedIn_update hu]
    refine ⟨?_, fun hk => ?_⟩
    · rintro (⟨-, ho, hok, hlive⟩ | ⟨-, hk⟩)
      · rcases hafter k ho with hn | hn
        · exact absurd hok hn
        · exact absurd hn hlive
      · exact hk
    · by_cases hd : d = c
      · subst hd
        rcases hbefore k hk.1 with hn | hn
        · exact absurd hk.2.1 hn
        · exact absurd hn hk.2.2
      · exact Or.inr ⟨hd, hk⟩
  refine ⟨?_, ?_, ?_⟩
  · simpa only [hsame] using h.online
  · simpa only [hsame] using h.address
  · simpa only [hsame] using h.one_address

/-- The address of the table decides the address of every session, so they all have one. -/
theorem SessionsMatch.of_address
    (honline : ∀ u, (t.oos.lookup u).isSome ↔ ∃ c h, LoggedIn handlers c h ∧ h.user = u)
    (haddress : ∀ c h, LoggedIn handlers c h → t.ip.lookup h.user = some h.ip) :
    SessionsMatch t handlers := by
  refine ⟨honline, haddress, fun c h d k hc hk hsame => ?_⟩
  have haddr := haddress c h hc
  rw [hsame, haddress d k hk] at haddr
  exact (Option.some.inj haddr).symm

theorem loggedIn_add {k : Handler} (hu : ∀ d, handlers' d = if d = c then some k else handlers d)
    (hbefore : ∀ k', handlers c = some k' → k'.login ≠ .ok) (hok : k.login = .ok)
    (hlive : k.phase ≠ .ended) (d : Conn) (k' : Handler) :
    LoggedIn handlers' d k' ↔ (d = c ∧ k' = k) ∨ LoggedIn handlers d k' := by
  rw [loggedIn_update hu]
  refine ⟨fun h => ?_, fun h => ?_⟩
  · rcases h with ⟨hd, hk', -⟩ | ⟨-, hk'⟩
    · exact Or.inl ⟨hd, (Option.some.inj hk').symm⟩
    · exact Or.inr hk'
  · rcases h with ⟨hd, rfl⟩ | hk'
    · exact Or.inl ⟨hd, rfl, hok, hlive⟩
    · have hd : d ≠ c := by
        intro hd
        exact hbefore k' (hd ▸ hk'.1) hk'.2.1
      exact Or.inr ⟨hd, hk'⟩

theorem loggedIn_remove {k : Handler}
    (hu : ∀ d, handlers' d = if d = c then some { k with phase := .ended } else handlers d)
    (d : Conn) (k' : Handler) : LoggedIn handlers' d k' ↔ d ≠ c ∧ LoggedIn handlers d k' := by
  rw [loggedIn_update hu]
  refine ⟨fun h => ?_, Or.inr⟩
  rcases h with ⟨-, hk', -, hlive⟩ | hk'
  · cases hk'
    exact absurd rfl hlive
  · exact hk'

theorem SessionsMatch.add (h : SessionsMatch t handlers) {k : Handler}
    (hlogged : ∀ d k', LoggedIn handlers' d k' ↔ (d = c ∧ k' = k) ∨ LoggedIn handlers d k')
    (hverdict : t.verdict k.user k.ip = .accepted) :
    SessionsMatch (t.add c k.user k.ip) handlers' := by
  -- whoever else is logged in as this user is so from the same address: the check has seen to it
  have hsameip : ∀ d k', LoggedIn handlers d k' → k'.user = k.user → k'.ip = k.ip := by
    intro d k' hk' hku
    have hon : (t.oos.lookup k.user).isSome := (h.online k.user).2 ⟨d, k', hk', hku⟩
    have haddr : t.ip.lookup k.user = some k'.ip := hku ▸ h.address d k' hk'
    simpa [Sessions.verdict, hon, haddr] using hverdict
  apply SessionsMatch.of_address
  · intro u
    simp only [Sessions.add, Table.lookup_insert]
    split_ifs with hu
    · simp only [Option.isSome_some, true_iff]
      exact ⟨c, k, (hlogged c k).2 (Or.inl ⟨rfl, rfl⟩), hu.symm⟩
    · rw [h.online u]
      refine ⟨fun hon => ?_, fun hon => ?_⟩
      · obtain ⟨d, k', hk', hku⟩ := hon
        exact ⟨d, k', (hlogged d k').2 (Or.inr hk'), hku⟩
      · obtain ⟨d, k', hk', hku⟩ := hon
        rcases (hlogged d k').1 hk' with ⟨-, rfl⟩ | hk'
        · exact absurd hku.symm hu
        · exact ⟨d, k', hk', hku⟩
  · intro d k' hk'
    simp only [Sessions.add, Table.lookup_insert]
    rcases (hlogged d k').1 hk' with ⟨-, rfl⟩ | hk'
    · exact if_pos rfl
    · split_ifs with hku
      · rw [hsameip d k' hk' hku]
      · exact h.address d k' hk'

/-- A loss takes the user out of the tables, so they still match exactly if no other connection of
the user is logged in. -/
theorem SessionsMatch.remove_iff (h : SessionsMatch t handlers) {k : Handler}
    (hc : handlers c = some k)
    (hlogged : ∀ d k', LoggedIn handlers' d k' ↔ d ≠ c ∧ LoggedIn handlers d k') :
    SessionsMatch (t.remove k.user) handlers' ↔
      ∀ d k', LoggedIn handlers d k' → k'.user = k.user → d = c := by
  refine ⟨fun h' d k' hk' huser => ?_, fun hsole => ?_⟩
  · by_contra hd
    have hon := (h'.online k'.user).2 ⟨d, k', (hlogged d k').2 ⟨hd, hk'⟩, rfl⟩
    simp [Sessions.remove, Table.lookup_erase, huser] at hon
  · have hother : ∀ d k', LoggedIn handlers' d k' → k'.user ≠ k.user := by
      intro d k' hk' huser
      obtain ⟨hd, hk'⟩ := (hlogged d k').1 hk'
      exact hd (hsole d k' hk' huser)
    apply SessionsMatch.of_address
    · intro u
      simp only [Sessions.remove, Table.lookup_erase]
      split_ifs with hu
      · simp only [Option.isSome_none, Bool.false_eq_true, false_iff]
        intro hon
        obtain ⟨d, k', hk', hku⟩ := hon
        exact hother d k' hk' (hku.trans hu)
      · rw [h.online u]
        refine ⟨fun hon => ?_, fun hon => ?_⟩
        · obtain ⟨d, k', hk', hku⟩ := hon
          have hd : d ≠ c := by
            intro hd
            have hkk : k' = k := Option.some.inj (hk'.1.symm.trans (hd ▸ hc))
            exact hu (by rw [← hku, hkk])
          exact ⟨d, k', (hlogged d k').2 ⟨hd, hk'⟩, hku⟩
        · obtain ⟨d, k', hk', hku⟩ := hon
          exact ⟨d, k', ((hlogged d k').1 hk').2, hku⟩
    · intro d k' hk'
      simp only [Sessions.remove, Table.lookup_erase]
      rw [if_neg (hother d k' hk')]
      exact h.address d k' ((hlogged d k').1 hk').2

end Update

theorem advance_atLoginOrCommand {t : Sessions} {o : Option Handler} {e : Event}
    (he : SessionEvent e)
    (ho : ∀ h, o = some h →
      (h.phase = .login ∧ h.login = .pending) ∨ h.phase = .commands ∨ h.phase = .ended) :
    ∀ h, (Sys.advance t o e).2 = some h →
      (h.phase = .login ∧ h.login = .pending) ∨ h.phase = .commands ∨ h.phase = .ended := by
  intro h' hh'
  cases e with
  | accept c socketType ip =>
    cases o with
    | some h => exact ho h' hh'
    | none =>
      simp only [SessionEvent] at he
      simp only [Sys.advance, he] at hh'
      cases hh'
      exact Or.inl ⟨rfl, rfl⟩
  | receive c r env =>
    cases o with
    | none => cases hh'
    | some h =>
      cases hh'
      rcases he with rfl | ⟨msg, rfl, htype⟩
      · rcases ho h rfl with ⟨hp, -⟩ | hp | hp <;> simp [Handler.next, hp]
      · rcases ho h rfl with ⟨hp, -⟩ | hp | hp
        · right
          simp only [Handler.next, hp, Handler.afterLogin, htype, if_true]
          cases t.verdict msg.user h.ip <;> simp
          split_ifs <;> simp
        · simp [Handler.next, hp, Handler.afterCommand, htype]
        · simp [Handler.next, hp]

theorem atLoginOrCommand_step (s : Sys) (e : Event) (he : SessionEvent e)
    (hs : AtLoginOrCommand s) : AtLoginOrCommand (s.step e) := by
  intro d h hd
  rw [(Sys.step_advance s e).2] at hd
  split_ifs at hd with hc
  · exact advance_atLoginOrCommand he (fun k hk => hs _ k hk) h hd
  · exact hs d h hd

theorem SessionsMatch.login {handlers handlers' : Conn → Option Handler} {t : Sessions} {c : Conn}
    {h : Handler} (hm : SessionsMatch t handlers) (hc : handlers c = some h)
    (hpending : h.login = .pending) (msg : Message) (env : Env)
    (hu : ∀ d, handlers' d = if d = c then some (h.afterLogin t c msg env).2 else handlers d) :
    SessionsMatch (h.afterLogin t c msg env).1 handlers' := by
  have hbefore : ∀ k, handlers c = some k → k.login ≠ .ok := by
    intro k hk
    rw [← Option.some.inj (hc.symm.trans hk), hpending]
    decide
  have hquiet : ∀ h' : Handler, h'.login ≠ .ok →
      (∀ d, handlers' d = if d = c then some h' else handlers d) → SessionsMatch t handlers' :=
    fun h' hlogin hu => hm.quiet hu (fun k hk => Or.inl (hbefore k hk))
      (fun k hk => Or.inl (Option.some.inj hk ▸ hlogin))
  unfold Handler.afterLogin at hu ⊢
  by_cases htype : msg.type = some .LOGIN_REQUEST
  · simp only [htype, if_true] at hu ⊢
    cases hv : t.verdict msg.user h.ip with
    | refused =>
      simp only [hv] at hu ⊢
      exact hquiet _ (by simp) hu
    | noAddress =>
      simp only [hv] at hu ⊢
      exact hquiet _ (by simp [hpending]) hu
    | accepted =>
      simp only [hv] at hu ⊢
      by_cases hw : env.writeFails c
      · simp only [hw, if_true] at hu ⊢
        exact hquiet _ (by simp) hu
      · simp only [hw] at hu ⊢
        exact hm.add (loggedIn_add hu hbefore rfl (by simp)) hv
  · simp only [htype, if_false] at hu ⊢
    exact hquiet _ (by simp) hu

theorem SessionsMatch.receive_iff {handlers handlers' : Conn → Option Handler} {t : Sessions}
    {c : Conn} {h : Handler} {r : Received} {env : Env} (hm : SessionsMatch t handlers)
    (hc : handlers c = some h) (he : SessionEvent (.receive c r env))
    (hphase : (h.phase = .login ∧ h.login = .pending) ∨ h.phase = .commands ∨ h.phase = .ended)
    (hu : ∀ d, handlers' d = if d = c then some (h.next t c r env).2 else handlers d) :
    SessionsMatch (h.next t c r env).1 handlers' ↔
      (r = .ioError → h.phase = .commands →
        ∀ d k, LoggedIn handlers d k → k.user = h.user → d = c) := by
  have hunchanged : h.next t c r env = (t, h) → SessionsMatch (h.next t c r env).1 handlers' := by
    intro hnext
    have hsame : handlers' = handlers := by
      funext d
      rw [hu, hnext]
      split_ifs with hd
      · rw [hd, hc]
      · rfl
    rw [hnext, hsame]
    exact hm
  rcases hphase with ⟨hp, hpending⟩ | hp | hp
  · refine iff_of_true ?_ (fun _ hp' => by simp [hp] at hp')
    rcases he with rfl | ⟨msg, rfl, -⟩
    · simp only [Handler.next, hp] at hu ⊢
      exact hm.quiet hu
        (fun k hk => Or.inl (by rw [← Option.some.inj (hc.symm.trans hk), hpending]; decide))
        (fun k hk => Or.inl (by cases hk; simp))
    · simp only [Handler.next, hp] at hu ⊢
      exact hm.login hc hpending msg env hu
  · rcases he with rfl | ⟨msg, rfl, htype⟩
    · simp only [Handler.next, hp] at hu ⊢
      rw [hm.remove_iff hc (loggedIn_remove hu)]
      simp
    · refine iff_of_true (hunchanged ?_) (by simp)
      simp [Handler.next, hp, Handler.afterCommand, htype]
  · refine iff_of_true (hunchanged ?_) (fun _ hp' => by simp [hp] at hp')
    simp [Handler.next, hp]

/-- A session event keeps the tables matched, unless it is a loss that takes a user offline who is
still logged in over another connection. -/
theorem sessionsMatch_step (s : Sys) (e : Event) (he : SessionEvent e) (hs : AtLoginOrCommand s)
    (hm : SessionsMatch s.server.sessions (s.handlers.lookup ·)) :
    SessionsMatch (s.step e).server.sessions ((s.step e).handlers.lookup ·) ↔
      SoleSession s e := by
  obtain ⟨htables, hhandlers⟩ := Sys.step_advance s e
  rw [htables]
  cases hl : s.handlers.lookup e.conn with
  | none =>
    rw [hl] at hhandlers
    have hsole : SoleSession s e := by
      rintro c env h rfl hl'
      rw [Event.conn] at hl
      rw [hl] at hl'
      cases hl'
    refine iff_of_true ?_ hsole
    have hbefore : ∀ k, s.handlers.lookup e.conn = some k → k.login ≠ .ok ∨ k.phase = .ended := by
      intro k hk
      rw [hl] at hk
      cases hk
    cases e with
    | accept c socketType ip =>
      simp only [SessionEvent] at he
      simp only [Sys.advance, he] at hhandlers ⊢
      exact hm.quiet hhandlers hbefore (fun k hk => by cases hk; simp)
    | receive c r env => exact hm.quiet hhandlers hbefore (fun k hk => by cases hk)
  | some h =>
    rw [hl] at hhandlers
    cases e with
    | accept c socketType ip =>
      refine iff_of_true ?_ (by rintro c' env k ⟨⟩)
      have hsame : ∀ d, (s.step (.accept c socketType ip)).handlers.lookup d =
          s.handlers.lookup d := by
        intro d
        rw [hhandlers]
        split_ifs with hd
        · rw [hd, hl]
          rfl
        · rfl
      simpa only [Sys.advance, hsame] using hm
    | receive c r env =>
      refine (hm.receive_iff hl he (hs c h hl) hhandlers).trans ?_
      refine ⟨?_, ?_⟩
      · rintro hsole c' env' k ⟨⟩ hk hp
        cases hl.symm.trans hk
        exact hsole rfl hp
      · rintro hsole rfl hp
        exact hsole c env h rfl hl hp

/-- Over the runs of connections, logins and disconnections, the tables match the live logged-in
connections in every state reached exactly if no connection is lost while its user is logged in
over another one. -/
theorem sessions_match_iff (evs : List Event) (hevs : ∀ e ∈ evs, SessionEvent e) :
    Throughout Sys.step (fun s => SessionsMatch s.server.sessions (s.handlers.lookup ·)) {} evs ↔
      Along Sys.step SoleSession {} evs := by
  refine throughout_iff_along atLoginOrCommand_step sessionsMatch_step ?_ ?_ hevs
  · intro c h hc
    cases hc
  · refine ⟨fun u => ?_, ?_, ?_⟩
    · refine ⟨fun h => ?_, ?_⟩
      · cases h
      · rintro ⟨c, h, ⟨hc, -⟩, -⟩
        cases hc
    · rintro c h ⟨hc, -⟩
      cases hc
    · rintro c h d k ⟨hc, -⟩
      cases hc

/-- A login and its disconnection. -/
theorem sessions_match_single :
    Throughout Sys.step (fun s => SessionsMatch s.server.sessions (s.handlers.lookup ·)) {}
      [.accept 0 false "/10.0.0.1",
        .receive 0 (.message { type := some .LOGIN_REQUEST, user := some "u" }) {},
        .receive 0 .ioError {}] := by
  refine (sessions_match_iff _ (by simp [SessionEvent])).2 ?_
  simp only [along_cons, along_nil, and_true]
  refine ⟨by rintro c env h ⟨⟩, by rintro c env h ⟨⟩, ?_⟩
  rintro c env h ⟨⟩ - - d k ⟨hk, -⟩ -
  by_contra hd
  beta_reduce at hk
  rw [Sys.step_frame _ _ hd, Sys.step_frame _ _ hd] at hk
  cases hk

/-- `u` logs in twice from one address and drops one of the two connections. -/
def overlappingSessions : List Event :=
  [.accept 0 false "/10.0.0.1", .accept 1 false "/10.0.0.1",
    .receive 0 (.message { type := some .LOGIN_REQUEST, user := some "u" }) {},
    .receive 1 (.message { type := some .LOGIN_REQUEST, user := some "u" }) {},
    .receive 0 .ioError {}]

/-- The table then says that `u` is offline, though the other connection is live. -/
theorem sessions_match_overlapping : (∀ e ∈ overlappingSessions, SessionEvent e) ∧
    ¬ Throughout Sys.step (fun s => SessionsMatch s.server.sessions (s.handlers.lookup ·)) {}
      overlappingSessions := by
  refine ⟨by simp [overlappingSessions, SessionEvent], fun h => ?_⟩
  have hlast := h overlappingSessions List.prefix_rfl
  have hlive : LoggedIn ((run Sys.step {} overlappingSessions).handlers.lookup ·) 1
      { socketType := false, ip := "/10.0.0.1", user := some "u", login := .ok,
        phase := .commands } := ⟨by decide, by decide, by decide⟩
  have honline := (hlast.online (some "u")).2 ⟨1, _, hlive, rfl⟩
  revert honline
  decide

end NetSessional.FileServer
