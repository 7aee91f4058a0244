import NetSessional.FileServer.Sessions

/-! A connection whose login was refused goes on to the command loop under the name it claimed.
When it leaves the session tables as if it had never existed, and is served nothing in that
name. -/

namespace NetSessional.FileServer

open Runs

/-- The first message of `c` was answered `LOGIN_FAIL`, or was no `LOGIN_REQUEST`. -/
def Refused (c : Conn) (s : Sys) : Prop :=
  ∃ h, s.handlers.lookup c = some h ∧ (h.login = .fail ∨ h.login = .notRequested)

def without (c : Conn) (evs : List Event) : List Event := evs.filter fun e => e.conn ≠ c

def Server.requestList (s : Server) (user : Name) : List Request :=
  (s.requests.lookup user).getD []

/-- The step answers `c` with a file list, or stores a request under the name of its handler. -/
def ServedAsNamed (c : Conn) (s : Sys) (e : Event) : Prop :=
  e.conn = c ∧ ∃ h, s.handlers.lookup c = some h ∧
    ((∃ msg, (c, msg) ∈ (s.step e).out.drop s.out.length ∧ msg.type = some .FILE_LIST) ∨
      (s.step e).server.requestList h.user ≠ s.server.requestList h.user)

/-- When the event is the loss of `c` in its command loop, its user has no entry to remove. -/
def LossFindsNothing (c : Conn) (s : Sys) (e : Event) : Prop :=
  ∀ h env, e = .receive c .ioError env → s.handlers.lookup c = some h → h.phase = .commands →
    s.server.oos.lookup h.user = none ∧ s.server.fos.lookup h.user = none ∧
      s.server.ip.lookup h.user = none

/-- In its command loop, `c` sends neither `LOOKUP_FILES_SELF`, unless the answer is lost, nor a
`REQUEST` with a request. -/
def AsksNothingAsNamed (c : Conn) (s : Sys) (e : Event) : Prop :=
  ∀ h msg env, e = .receive c (.message msg) env → s.handlers.lookup c = some h →
    h.phase = .commands →
      (msg.type = some .LOOKUP_FILES_SELF → env.writeFails c) ∧
        (msg.type = some .REQUEST → msg.request = none)

section Login

def Settled (c : Conn) (l : Login) (s : Sys) : Prop :=
  ∃ h, s.handlers.lookup c = some h ∧ h.phase ≠ .login ∧ h.login = l

theorem settled_step {c : Conn} {l : Login} (s : Sys) (e : Event) (hs : Settled c l s) :
    Settled c l (s.step e) := by
  obtain ⟨h, hl, hp, hlogin⟩ := hs
  obtain ⟨h', hl', hkept, -, hp'⟩ := Sys.step_settled hl hp e
  exact ⟨h', hl', hp', hkept.trans hlogin⟩

def NotAdmitted (c : Conn) (s : Sys) : Prop :=
  ∀ h, s.handlers.lookup c = some h → h.phase = .login ∨ h.login = .fail ∨ h.login = .notRequested

theorem Refused.notAdmitted {c : Conn} {evs pre : List Event} (h : Refused c (run Sys.step {} evs))
    (hp : pre <+: evs) : NotAdmitted c (run Sys.step {} pre) := by
  intro h₀ hl₀
  by_contra hne
  push Not at hne
  obtain ⟨hphase, hfail, hnot⟩ := hne
  obtain ⟨post, rfl⟩ := hp
  rw [run_append] at h
  have hsettled : Settled c h₀.login (run Sys.step {} pre) := ⟨h₀, hl₀, hphase, rfl⟩
  obtain ⟨k, hk, -, hklogin⟩ := run_invariant settled_step hsettled post
  obtain ⟨k', hk', hrefused⟩ := h
  cases hk.symm.trans hk'
  rw [hklogin] at hrefused
  rcases hrefused with hr | hr
  · exact hfail hr
  · exact hnot hr

end Login

section Frame
variable {c : Conn}

theorem Sessions.remove_eq_iff (t : Sessions) (u : Name) :
    t.remove u = t ↔ t.oos.lookup u = none ∧ t.fos.lookup u = none ∧ t.ip.lookup u = none := by
  refine ⟨fun h => ?_, ?_⟩
  · have hoos : t.oos.erase u = t.oos := congrArg Sessions.oos h
    have hfos : t.fos.erase u = t.fos := congrArg Sessions.fos h
    have hip : t.ip.erase u = t.ip := congrArg Sessions.ip h
    refine ⟨?_, ?_, ?_⟩
    · rw [← hoos, Table.lookup_erase, if_pos rfl]
    · rw [← hfos, Table.lookup_erase, if_pos rfl]
    · rw [← hip, Table.lookup_erase, if_pos rfl]
  · rintro ⟨hoos, hfos, hip⟩
    simp only [Sessions.remove, Table.erase_of_lookup_none hoos, Table.erase_of_lookup_none hfos,
      Table.erase_of_lookup_none hip]

/-- A read that does not admit its connection leaves the tables alone, unless the connection is
lost in its command loop. -/
theorem next_quiet {t : Sessions} {h : Handler} {r : Received} {env : Env}
    (hafter : (h.next t c r env).2.phase = .login ∨ (h.next t c r env).2.login = .fail ∨
      (h.next t c r env).2.login = .notRequested)
    (hloss : ¬ (r = .ioError ∧ h.phase = .commands)) : (h.next t c r env).1 = t := by
  rcases Handler.next_tables t c h r env with hkept | ⟨-, k, hadmitted, hok, hp⟩ | ⟨hr, hp, -⟩
  · exact hkept
  · rw [hadmitted] at hafter
    simp [hok, hp] at hafter
  · exact absurd ⟨hr, hp⟩ hloss

theorem advance_tables {t : Sessions} {o : Option Handler} {e : Event}
    (hafter : ∀ h, (Sys.advance t o e).2 = some h →
      h.phase = .login ∨ h.login = .fail ∨ h.login = .notRequested) :
    (Sys.advance t o e).1 = t ∧ (¬ ∃ c env h, e = .receive c .ioError env ∧ o = some h ∧
        h.phase = .commands) ∨
      ∃ c env h, e = .receive c .ioError env ∧ o = some h ∧ h.phase = .commands ∧
        (Sys.advance t o e).1 = t.remove h.user := by
  cases e with
  | accept c socketType ip =>
    left
    refine ⟨?_, by rintro ⟨c', env, h, ⟨⟩, -⟩⟩
    cases o with
    | some h => rfl
    | none =>
      cases socketType with
      | false => rfl
      | true => simp [Sys.advance] at hafter
  | receive c r env =>
    cases o with
    | none => exact Or.inl ⟨rfl, by rintro ⟨c', env, h, -, ⟨⟩, -⟩⟩
    | some h =>
      by_cases hloss : r = .ioError ∧ h.phase = .commands
      · right
        obtain ⟨rfl, hp⟩ := hloss
        exact ⟨c, env, h, rfl, rfl, hp, by simp [Sys.advance, Handler.next, hp]⟩
      · left
        refine ⟨next_quiet (hafter _ rfl) hloss, ?_⟩
        rintro ⟨c', env', h', ⟨⟩, ⟨⟩, hp⟩
        exact hloss ⟨rfl, hp⟩

/-- Two systems that agree on the tables and on the handlers of all connections but `c`. -/
structure AgreeOff (c : Conn) (s s' : Sys) : Prop where
  sessions : s.server.sessions = s'.server.sessions
  handlers : ∀ d, d ≠ c → s.handlers.lookup d = s'.handlers.lookup d

theorem AgreeOff.step_other {s s' : Sys} (h : AgreeOff c s s') {e : Event} (he : e.conn ≠ c) :
    AgreeOff c (s.step e) (s'.step e) := by
  obtain ⟨htables, hhandlers⟩ := Sys.step_advance s e
  obtain ⟨htables', hhandlers'⟩ := Sys.step_advance s' e
  have hsame : s.handlers.lookup e.conn = s'.handlers.lookup e.conn := h.handlers _ he
  refine ⟨?_, fun d hd => ?_⟩
  · rw [htables, htables', h.sessions, hsame]
  · rw [hhandlers, hhandlers', h.sessions, hsame, h.handlers d hd]

/-- The handlers of the others do not notice an event of `c`; the tables do exactly if it is a loss
that finds an entry. -/
theorem AgreeOff.step_self_iff {s s' : Sys} (h : AgreeOff c s s') {e : Event} (he : e.conn = c)
    (hafter : NotAdmitted c (s.step e)) :
    AgreeOff c (s.step e) s' ↔ LossFindsNothing c s e := by
  obtain ⟨htables, hhandlers⟩ := Sys.step_advance s e
  have hframe : ∀ d, d ≠ c → (s.step e).handlers.lookup d = s'.handlers.lookup d := by
    intro d hd
    rw [Sys.step_frame s e (he ▸ hd), h.handlers d hd]
  have hreduce : AgreeOff c (s.step e) s' ↔
      (Sys.advance s.server.sessions (s.handlers.lookup e.conn) e).1 = s.server.sessions := by
    rw [← htables, h.sessions]
    exact ⟨fun h' => h'.sessions, fun h' => ⟨h', hframe⟩⟩
  rw [hreduce]
  have hown : ∀ k, (Sys.advance s.server.sessions (s.handlers.lookup e.conn) e).2 = some k →
      k.phase = .login ∨ k.login = .fail ∨ k.login = .notRequested := by
    intro k hk
    apply hafter k
    rw [hhandlers, if_pos he.symm, hk]
  rcases advance_tables hown with ⟨hkept, hnoloss⟩ | ⟨d, env, k, hloss, hk, hp, hremoved⟩
  · refine iff_of_true hkept fun k env hloss hk hp => absurd ?_ hnoloss
    exact ⟨c, env, k, hloss, he ▸ hk, hp⟩
  · rw [hremoved, Sessions.remove_eq_iff]
    refine ⟨fun hnone k' env' hloss' hk' hp' => ?_, fun hnone => ?_⟩
    · rw [he] at hk
      cases hk.symm.trans hk'
      exact hnone
    · subst hloss
      cases he
      exact hnone k env rfl hk hp

theorem without_snoc (pre : List Event) (e : Event) :
    without c (pre ++ [e]) = if e.conn = c then without c pre else without c pre ++ [e] := by
  by_cases he : e.conn = c <;> simp [without, he]

/-- The tables of a run are those of the run without `c` at every moment exactly if every loss of
`c` finds nothing to remove. -/
theorem sessions_without_iff {evs : List Event} (h : Refused c (run Sys.step {} evs)) :
    (∀ pre, pre <+: evs → (run Sys.step {} pre).server.sessions =
        (run Sys.step {} (without c pre)).server.sessions) ↔
      Along Sys.step (LossFindsNothing c) {} evs := by
  have hagree : (∀ pre, pre <+: evs →
      AgreeOff c (run Sys.step {} pre) (run Sys.step {} (without c pre))) ↔
      Along Sys.step (LossFindsNothing c) {} evs := by
    refine prefixes_iff ⟨rfl, fun d _ => rfl⟩ fun pre e hp hpre => ?_
    rw [without_snoc]
    split_ifs with he
    · rw [run_snoc]
      exact hpre.step_self_iff he (run_snoc Sys.step _ pre e ▸ h.notAdmitted hp)
    · rw [run_snoc, run_snoc]
      refine iff_of_true (hpre.step_other he) ?_
      rintro k env rfl
      exact absurd rfl he
  rw [← hagree]
  refine ⟨fun htables pre => ?_, ?_⟩
  · induction pre using List.reverseRecOn with
    | nil => exact fun _ => ⟨rfl, fun d _ => rfl⟩
    | append_singleton pre e ih =>
      intro hp
      have hpre := ih ((List.prefix_append pre [e]).trans hp)
      refine ⟨htables _ hp, fun d hd => ?_⟩
      rw [without_snoc]
      split_ifs with he
      · rw [run_snoc, Sys.step_frame _ e (he ▸ hd), hpre.handlers d hd]
      · rw [run_snoc, run_snoc]
        exact (hpre.step_other he).handlers d hd
  · exact fun hall pre hp => (hall pre hp).sessions

end Frame

section Served
variable {s : Sys} {c : Conn} {h : Handler} {env : Env}

structure NothingServed (s s' : Sys) : Prop where
  requests : ∀ u, s'.server.requestList u = s.server.requestList u
  out : ∃ new, s'.out = s.out ++ new ∧ ∀ m ∈ new, m.2.type ≠ some .FILE_LIST

namespace NothingServed

theorem same {s' : Sys} (server : s'.server.requests = s.server.requests) (out : s'.out = s.out) :
    NothingServed s s' :=
  ⟨fun u => by unfold Server.requestList; rw [server], [], by simp [out], by simp⟩

theorem trans {s₁ s₂ s₃ : Sys} (h₁ : NothingServed s₁ s₂) (h₂ : NothingServed s₂ s₃) :
    NothingServed s₁ s₃ := by
  obtain ⟨new₁, hout₁, hnew₁⟩ := h₁.out
  obtain ⟨new₂, hout₂, hnew₂⟩ := h₂.out
  refine ⟨fun u => (h₂.requests u).trans (h₁.requests u), new₁ ++ new₂, ?_, fun m hm => ?_⟩
  · rw [hout₂, hout₁, List.append_assoc]
  · rcases List.mem_append.1 hm with hm | hm
    · exact hnew₁ m hm
    · exact hnew₂ m hm

theorem write (s : Sys) {msg : Message} (hmsg : msg.type ≠ some .FILE_LIST) :
    NothingServed s (s.write c msg env) := by
  unfold Sys.write
  split_ifs with hw
  · exact same rfl rfl
  · exact ⟨fun u => rfl, [(c, msg)], rfl, by simpa using hmsg⟩

theorem not_served {e : Event} (hs : NothingServed s (s.step e)) : ¬ ServedAsNamed c s e := by
  rintro ⟨-, h, -, ⟨msg, hmem, htype⟩ | hreq⟩
  · obtain ⟨new, hout, hnew⟩ := hs.out
    rw [hout, List.drop_left] at hmem
    exact hnew _ hmem htype
  · exact hreq (hs.requests h.user)

end NothingServed

theorem handleLogin_nothingServed (msg : Message) :
    NothingServed s (s.handleLogin c h msg env) := by
  rcases Sys.handleLogin_cases s c h msg env with ⟨k, hset⟩ | ⟨type, server, k, htype, hkept, hset⟩
  · rw [hset]
    exact .same rfl rfl
  · have hanswer : NothingServed s (s.write c { msg with type := some type } env) := by
      apply NothingServed.write
      rcases htype with rfl | rfl <;> simp
    rw [hset]
    exact hanswer.trans (.same (by simpa [Sys.setHandler] using hkept) rfl)

theorem receiveLogin_nothingServed (r : Received) :
    NothingServed s (s.receiveLogin c h r env) := by
  cases r with
  | message msg => exact handleLogin_nothingServed msg
  | _ => exact .same rfl rfl

theorem completeUpload_nothingServed (file : Option File) (chunks : List Chunk) :
    NothingServed s (s.completeUpload c h file chunks env) := by
  unfold Sys.completeUpload Sys.save
  cases joined file chunks with
  | none => exact .same rfl rfl
  | some p =>
    have hadd : (s.server.addFile p.1.owner p.1).requests = s.server.requests :=
      (perform_requests s.server (.addFile p.1.owner p.1) nofun).1
    cases env.save <;> exact .same hadd rfl

theorem handleFileUpload_nothingServed (file : Option File) (chunks : List Chunk) (r : Received) :
    NothingServed s (s.handleFileUpload c h file chunks r env) := by
  have hack : NothingServed s (s.write c { type := some .CHUNK_RECEIVED } env) :=
    .write s (by simp)
  unfold Sys.handleFileUpload
  cases r with
  | ioError => exact .same rfl rfl
  | classNotFound => exact .same rfl rfl
  | message msg => exact .same rfl rfl
  | null =>
    simp only
    split_ifs
    · exact .same rfl rfl
    · exact hack.trans (.same rfl rfl)
  | chunk chunk =>
    simp only
    split_ifs
    · exact .same rfl rfl
    · exact hack.trans (.same rfl rfl)
    · refine (hack.trans ?_).trans (completeUpload_nothingServed file _)
      exact ⟨fun u => rfl, _, rfl, by simp⟩
    · exact hack.trans (.same rfl rfl)

theorem handleFileUploadRequest_nothingServed (msg : Message) :
    NothingServed s (s.handleFileUploadRequest c h msg env) := by
  unfold Sys.handleFileUploadRequest
  cases msg.file with
  | none => exact .same rfl rfl
  | some file =>
    have huse : (s.server.useBuffer file.fileSize).2.requests = s.server.requests :=
      (perform_requests s.server (.useBuffer file.fileSize) nofun).1
    simp only
    split_ifs
    · have hserver : NothingServed s { s with server := (s.server.useBuffer file.fileSize).2 } :=
        .same huse rfl
      refine hserver.trans (.write _ ?_)
      simp
    · exact .write s (by simp)

theorem requestList_addRequest_none (t : Server) (user : Name) (writeFails : Conn → Bool)
    (u : Name) : (t.addRequest user none writeFails).1.requestList u = t.requestList u := by
  unfold Server.addRequest Server.requestList
  cases hl : t.requests.lookup user with
  | some rs => simp
  | none =>
    simp only [Option.isNone_none, if_true, Table.lookup_insert]
    split_ifs with hu
    · rw [hu, hl]
      rfl
    · rfl

theorem requestList_addRequest_some (t : Server) (user : Name) (request : Request)
    (writeFails : Conn → Bool) :
    (t.addRequest user (some request) writeFails).1.requestList user =
      t.requestList user ++ [{ request with number := t.total_requests + 1 }] := by
  unfold Server.addRequest Server.requestList
  cases hl : t.requests.lookup user <;> simp [hl]

theorem handleCommand_nothingServed {msg : Message}
    (hself : msg.type ≠ some .LOOKUP_FILES_SELF)
    (hreq : msg.type = some .REQUEST → msg.request = none) :
    NothingServed s (s.handleCommand c h (some msg) env) := by
  by_cases h5 : msg.type = some .LOOKUP_FILES_OTHER
  · have hlist : (s.server.getPublicFileList msg.text).1.requests = s.server.requests :=
      (perform_requests s.server (.getPublicFileList msg.text) nofun).1
    have hserver : NothingServed s
        { s with server := (s.server.getPublicFileList msg.text).1 } := .same hlist rfl
    rw [lookupOther_step h5]
    exact hserver.trans (.write _ (by simp))
  unfold Sys.handleCommand
  by_cases h1 : msg.type = some .LOOKUP_STD
  · simp only [h1, if_true]
    exact .write s (by simp [Sys.getStudentList])
  by_cases h2 : msg.type = some .FILE_REQUEST
  · simp only [h2]
    exact handleFileUploadRequest_nothingServed msg
  by_cases h3 : msg.type = some .FILE_INIT ∧ h.socketType
  · simp only [h3.1, h3.2]
    exact .same rfl rfl
  by_cases h6 : msg.type = some .REQUEST
  · have hkept := requestList_addRequest_none s.server h.user env.writeFails
    simp only [h6, hreq h6]
    exact ⟨hkept, [], (List.append_nil _).symm, by simp⟩
  · simp only [h1, h2, h3, hself, h5, h6]
    exact .write s (by simp)

theorem request_step {msg : Message} {request : Request} (htype : msg.type = some .REQUEST)
    (hreq : msg.request = some request) :
    (s.handleCommand c h (some msg) env).server =
      (s.server.addRequest h.user (some request) env.writeFails).1 := by
  unfold Sys.handleCommand
  simp only [htype, hreq]
  rfl

theorem step_nothingServed (s : Sys) (e : Event)
    (hcommand : ¬ ∃ h msg env, e = .receive e.conn (.message msg) env ∧
      s.handlers.lookup e.conn = some h ∧ h.phase = .commands) : NothingServed s (s.step e) := by
  cases e with
  | accept c socketType ip =>
    unfold Sys.step
    simp only
    split_ifs
    · exact .same rfl rfl
    · exact .same rfl rfl
    · exact .same rfl rfl
  | receive c r env =>
    cases hl : s.handlers.lookup c with
    | none =>
      simp only [Sys.step, hl]
      exact .same rfl rfl
    | some h =>
      simp only [Sys.step, hl, Sys.receive]
      cases hp : h.phase with
      | login => exact receiveLogin_nothingServed r
      | upload file chunks => exact handleFileUpload_nothingServed file chunks r
      | ended => exact .same rfl rfl
      | commands =>
        cases r with
        | message msg => exact absurd ⟨h, msg, env, rfl, hl, hp⟩ hcommand
        | _ => exact .same rfl rfl

/-- A step serves `c` in the name of its user exactly if it answers `LOOKUP_FILES_SELF` or stores a
request. -/
theorem not_served_iff (c : Conn) (s : Sys) (e : Event) :
    ¬ ServedAsNamed c s e ↔ AsksNothingAsNamed c s e := by
  by_cases hcommand : ∃ h msg env, e = .receive c (.message msg) env ∧
      s.handlers.lookup c = some h ∧ h.phase = .commands
  · obtain ⟨h, msg, env, rfl, hl, hp⟩ := hcommand
    have hstep := Sys.step_command hl hp msg env
    have hasks : AsksNothingAsNamed c s (.receive c (.message msg) env) ↔
        (msg.type = some .LOOKUP_FILES_SELF → env.writeFails c) ∧
          (msg.type = some .REQUEST → msg.request = none) := by
      refine ⟨?_, ?_⟩
      · exact fun hask => hask h msg env rfl hl hp
      · rintro hask h' msg' env' ⟨⟩ - -
        exact hask
    rw [hasks]
    by_cases hself : msg.type = some .LOOKUP_FILES_SELF
    · rw [lookupSelf_step hself] at hstep
      by_cases hw : env.writeFails c
      · refine iff_of_true ?_ ⟨fun _ => hw, fun hreq => by simp [hself] at hreq⟩
        apply NothingServed.not_served
        rw [hstep]
        have hlist : (s.server.getFileList h.user).1.requests = s.server.requests :=
          (perform_requests s.server (.getFileList h.user) nofun).1
        simp only [Sys.write, hw, if_true]
        exact .same hlist rfl
      · refine iff_of_false (not_not.2 ⟨rfl, h, hl, Or.inl ?_⟩) fun hask => hw (hask.1 hself)
        rw [hstep]
        simp [Sys.write, hw]
    by_cases hreq : msg.type = some .REQUEST → msg.request = none
    · refine iff_of_true ?_ ⟨fun h => absurd h hself, hreq⟩
      apply NothingServed.not_served
      rw [hstep]
      exact handleCommand_nothingServed hself hreq
    · refine iff_of_false (not_not.2 ⟨rfl, h, hl, Or.inr ?_⟩) fun hask => hreq hask.2
      push Not at hreq
      obtain ⟨request, hrequest⟩ := Option.ne_none_iff_exists'.1 hreq.2
      rw [hstep, request_step hreq.1 hrequest, requestList_addRequest_some]
      simp
  · refine iff_of_true ?_ fun h msg env he hl hp => absurd ⟨h, msg, env, he, hl, hp⟩ hcommand
    rintro ⟨rfl, hserved⟩
    exact (step_nothingServed s e hcommand).not_served ⟨rfl, hserved⟩

end Served

/-- A refused connection is as if it had never existed, for the tables and for what is served in
the name it claimed, exactly if it is never lost while there is an entry of that name, and asks
for nothing in that name. -/
theorem refused_without_effect_iff (evs : List Event) (c : Conn)
    (h : Refused c (run Sys.step {} evs)) :
    ((∀ pre, pre <+: evs → (run Sys.step {} pre).server.sessions =
        (run Sys.step {} (without c pre)).server.sessions) ∧
      Along Sys.step (fun s e => ¬ ServedAsNamed c s e) {} evs) ↔
    Along Sys.step (fun s e => LossFindsNothing c s e ∧ AsksNothingAsNamed c s e) {} evs := by
  rw [sessions_without_iff h]
  simp only [not_served_iff]
  refine ⟨?_, ?_⟩
  · exact fun hboth pre e hp => ⟨hboth.1 pre e hp, hboth.2 pre e hp⟩
  · exact fun hall => ⟨fun pre e hp => (hall pre e hp).1, fun pre e hp => (hall pre e hp).2⟩

/-- `u` logs in; someone else who claims to be `u` is refused, and then served `request`. -/
def impostor (request : Received) : List Event :=
  [.accept 0 false "/10.0.0.1", .accept 1 false "/10.0.0.2",
    .receive 0 (.message { type := some .LOGIN_REQUEST, user := some "u" }) {},
    .receive 1 (.message { type := some .LOGIN_REQUEST, user := some "u" }) {},
    .receive 1 request {}]

theorem refused_lookup_without_effect :
    (∀ pre, pre <+: impostor (.message { type := some .LOOKUP_STD }) →
      (run Sys.step {} pre).server.sessions =
        (run Sys.step {} (without 1 pre)).server.sessions) ∧
    Along Sys.step (fun s e => ¬ ServedAsNamed 1 s e) {}
      (impostor (.message { type := some .LOOKUP_STD })) := by
  refine (refused_without_effect_iff _ 1 ⟨_, by rfl, Or.inl (by decide)⟩).2 fun pre e hp => ?_
  have he : e ∈ impostor (.message { type := some .LOOKUP_STD }) := hp.subset (by simp)
  refine ⟨?_, ?_⟩
  · rintro h env rfl
    simp [impostor] at he
  · rintro h msg env rfl - -
    simp only [impostor, List.mem_cons, Event.receive.injEq, Received.message.injEq] at he
    rcases he with h | h | ⟨h, -⟩ | ⟨-, rfl, -⟩ | ⟨-, rfl, -⟩ | h <;> simp at *

/-- When the refused connection is dropped, `u` is offline for everyone. -/
theorem refused_loss_has_effect :
    Refused 1 (run Sys.step {} (impostor .ioError)) ∧
    ¬ ((∀ pre, pre <+: impostor .ioError →
        (run Sys.step {} pre).server.sessions =
          (run Sys.step {} (without 1 pre)).server.sessions) ∧
      Along Sys.step (fun s e => ¬ ServedAsNamed 1 s e) {} (impostor .ioError)) := by
  refine ⟨⟨_, by rfl, Or.inl (by decide)⟩, fun h => ?_⟩
  have hsame := congrArg (fun t => (t.oos.lookup (some "u")).isSome) (h.1 _ List.prefix_rfl)
  revert hsame
  decide

end NetSessional.FileServer
