import NetSessional.FileServer.Calls

/-! What a read does to the session tables. The tables and the handler of the connection after a
read depend on the tables and that handler alone, and on nothing else of the system: `Handler.next`
computes them, and every invariant of the tables is derived from it. -/

namespace NetSessional.FileServer

structure Sessions where
  users : List Name
  oos : Table Name Conn
  fos : Table Name Conn
  ip : Table Name String

def Server.sessions (s : Server) : Sessions := ⟨s.users, s.oos, s.fos, s.ip⟩

section Accessors
variable (s : Server)

@[simp] theorem sessions_addFileStream (c : Conn) (user : Name) :
    (s.addFileStream c user).sessions = { s.sessions with fos := s.sessions.fos.insert user c } :=
  rfl

@[simp] theorem sessions_useBuffer (size : Int32) : (s.useBuffer size).2.sessions = s.sessions := by
  unfold Server.useBuffer
  split <;> rfl

@[simp] theorem sessions_getFileList (user : Name) :
    (s.getFileList user).1.sessions = s.sessions := by
  unfold Server.getFileList
  cases h : s.files.lookup user <;> simp [Server.sessions]

@[simp] theorem sessions_getPublicFileList (user : Name) :
    (s.getPublicFileList user).1.sessions = s.sessions :=
  sessions_getFileList s user

@[simp] theorem sessions_addFile (user : Name) (file : File) :
    (s.addFile user file).sessions = s.sessions :=
  sessions_getFileList s user

@[simp] theorem sessions_addRequest (user : Name) (request : Option Request)
    (writeFails : Conn → Bool) :
    (s.addRequest user request writeFails).1.sessions = s.sessions := by
  unfold Server.addRequest
  cases request <;> cases h : s.requests.lookup user <;> simp [Server.sessions]

end Accessors

namespace Sessions

/-- The three accessor calls of an accepted login. -/
def add (t : Sessions) (c : Conn) (user : Name) (ip : String) : Sessions :=
  { t with users := t.users.insert user, oos := t.oos.insert user c, ip := t.ip.insert user ip }

/-- The three accessor calls after a lost connection. -/
def remove (t : Sessions) (user : Name) : Sessions :=
  { t with oos := t.oos.erase user, fos := t.fos.erase user, ip := t.ip.erase user }

/-- What `handleLogin` makes of a `LOGIN_REQUEST`. -/
inductive Verdict where
  | accepted
  | refused
  /-- `getIP(user).equals` on a null reference -/
  | noAddress
  deriving DecidableEq

def verdict (t : Sessions) (user : Name) (ip : String) : Verdict :=
  if (t.oos.lookup user).isSome then
    match t.ip.lookup user with
    | none => .noAddress
    | some known => if known ≠ ip then .refused else .accepted
  else .accepted

end Sessions

namespace Handler

def afterLogin (t : Sessions) (c : Conn) (h : Handler) (msg : Message) (env : Env) :
    Sessions × Handler :=
  let h := { h with user := msg.user, phase := .commands }
  if msg.type = some .LOGIN_REQUEST then
    match t.verdict msg.user h.ip with
    | .accepted =>
      if env.writeFails c then (t, { h with login := .broken })
      else (t.add c h.user h.ip, { h with login := .ok })
    | .refused => (t, { h with login := .fail })
    | .noAddress => (t, { h with phase := .ended })
  else (t, { h with login := .notRequested })

def afterCommand (h : Handler) (msg : Message) : Handler :=
  if msg.type = some .FILE_REQUEST ∧ msg.file = none ∨
      msg.type = some .REQUEST ∧ msg.request = none then { h with phase := .ended }
  else if msg.type = some .FILE_INIT ∧ h.socketType then { h with phase := .upload msg.file [] }
  else h

def afterUploadRead (c : Conn) (h : Handler) (file : Option File) (chunks : List Chunk)
    (r : Received) (env : Env) : Handler :=
  match r with
  | .ioError => { h with phase := .commands }
  | .classNotFound => h
  | .message _ => { h with phase := .ended }
  | .null => { h with phase := if env.writeFails c then .commands else .ended }
  | .chunk chunk =>
    if env.writeFails c then { h with phase := .commands }
    else if chunk.chunkNo = chunk.totalChunks then
      { h with phase :=
          if env.completeFails ∨ (joined file (chunks ++ [chunk])).isSome then .commands
          else .ended }
    else { h with phase := .upload file (chunks ++ [chunk]) }

def next (t : Sessions) (c : Conn) (h : Handler) (r : Received) (env : Env) :
    Sessions × Handler :=
  match h.phase with
  | .login =>
    match r with
    | .message msg => h.afterLogin t c msg env
    | .chunk _ => (t, { h with login := .notRequested, phase := .ended })
    | .null => (t, { h with login := .notRequested, phase := .ended })
    | .classNotFound => (t, { h with login := .notRequested, phase := .commands })
    | .ioError => (t, { h with login := .broken, phase := .commands })
  | .commands =>
    match r with
    | .message msg => (t, h.afterCommand msg)
    | .chunk _ => (t, { h with phase := .ended })
    | .null => (t, { h with phase := .ended })
    | .classNotFound => (t, h)
    | .ioError => (t.remove h.user, { h with phase := .ended })
  | .upload file chunks => (t, h.afterUploadRead c file chunks r env)
  | .ended => (t, h)

/-- A login is followed by the loop, or ends the thread; the tables change when it is accepted. -/
theorem afterLogin_cases (t : Sessions) (c : Conn) (h : Handler) (msg : Message) (env : Env) :
    (h.afterLogin t c msg env).2.socketType = h.socketType ∧
      ((h.afterLogin t c msg env).2.phase = .commands ∨
        (h.afterLogin t c msg env).2.phase = .ended) ∧
      ((h.afterLogin t c msg env).1 = t ∨
        ∃ k, h.afterLogin t c msg env = (t.add c k.user k.ip, k) ∧ k.login = .ok ∧
          k.phase = .commands) := by
  unfold afterLogin
  by_cases htype : msg.type = some .LOGIN_REQUEST
  · rw [if_pos htype]
    cases t.verdict msg.user h.ip with
    | accepted =>
      dsimp only
      by_cases hw : env.writeFails c
      · rw [if_pos hw]
        exact ⟨rfl, Or.inl rfl, Or.inl rfl⟩
      · rw [if_neg hw]
        refine ⟨rfl, Or.inl rfl, Or.inr ?_⟩
        exact ⟨{ h with user := msg.user, phase := .commands, login := .ok }, rfl, rfl, rfl⟩
    | refused => exact ⟨rfl, Or.inl rfl, Or.inl rfl⟩
    | noAddress => exact ⟨rfl, Or.inr rfl, Or.inl rfl⟩
  · rw [if_neg htype]
    exact ⟨rfl, Or.inl rfl, Or.inl rfl⟩

theorem next_socketType (t : Sessions) (c : Conn) (h : Handler) (r : Received) (env : Env) :
    (h.next t c r env).2.socketType = h.socketType := by
  unfold next
  split
  · split
    · exact (afterLogin_cases t c h _ env).1
    all_goals rfl
  · split
    · unfold afterCommand
      split_ifs <;> rfl
    all_goals rfl
  · unfold afterUploadRead
    split
    · rfl
    · rfl
    · rfl
    · rfl
    · split_ifs <;> rfl
  · rfl

theorem next_settled {h : Handler} (hp : h.phase ≠ .login) (t : Sessions) (c : Conn)
    (r : Received) (env : Env) :
    (h.next t c r env).2.login = h.login ∧ (h.next t c r env).2.user = h.user ∧
      (h.next t c r env).2.phase ≠ .login := by
  unfold next
  cases hphase : h.phase with
  | login => exact absurd hphase hp
  | ended => simp [hphase]
  | upload file chunks =>
    cases r <;> simp only [afterUploadRead] <;> (try split_ifs) <;> simp [hphase]
  | commands =>
    cases r with
    | message msg =>
      simp only [afterCommand]
      split_ifs <;> simp [hphase]
    | _ => simp [hphase]

/-- A read leaves the tables alone, or admits its connection, or loses it in the command loop. -/
theorem next_tables (t : Sessions) (c : Conn) (h : Handler) (r : Received) (env : Env) :
    (h.next t c r env).1 = t ∨
      (h.phase = .login ∧ ∃ k, h.next t c r env = (t.add c k.user k.ip, k) ∧ k.login = .ok ∧
        k.phase = .commands) ∨
      (r = .ioError ∧ h.phase = .commands ∧ (h.next t c r env).1 = t.remove h.user) := by
  unfold next
  cases hp : h.phase with
  | login =>
    cases r with
    | message msg =>
      refine (afterLogin_cases t c h msg env).2.2.imp_right fun hadmitted => ?_
      exact Or.inl ⟨rfl, hadmitted⟩
    | _ => exact Or.inl rfl
  | commands =>
    cases r with
    | ioError => exact Or.inr (Or.inr ⟨rfl, rfl, rfl⟩)
    | _ => exact Or.inl rfl
  | _ => exact Or.inl rfl

/-- A handler that is in the loop of an upload was there before, and goes on with a chunk or an
object of an unknown class, or has just been told of the upload. -/
theorem next_upload {t : Sessions} {c : Conn} {h : Handler} {r : Received} {env : Env}
    {file : Option File} {chunks : List Chunk}
    (hup : (h.next t c r env).2.phase = .upload file chunks) :
    (∃ chunks', h.phase = .upload file chunks' ∧ ((∃ chunk, r = .chunk chunk) ∨ r = .classNotFound)) ∨
      ∃ msg, h.phase = .commands ∧ r = .message msg ∧ msg.type = some .FILE_INIT ∧
        h.socketType = true ∧ msg.file = file ∧ chunks = [] := by
  unfold next at hup
  split at hup
  · next hp =>
    split at hup
    · rcases (afterLogin_cases t c h _ env).2.1 with hloop | hended
      · cases hloop.symm.trans hup
      · cases hended.symm.trans hup
    all_goals cases hup
  · next hp =>
    split at hup
    · next msg =>
      unfold afterCommand at hup
      split_ifs at hup with hbad hinit
      · cases hup
        exact Or.inr ⟨msg, hp, rfl, hinit.1, hinit.2, rfl, rfl⟩
      · cases hp.symm.trans hup
    · cases hup
    · cases hup
    · cases hp.symm.trans hup
    · cases hup
  · next file' chunks' hp =>
    left
    unfold afterUploadRead at hup
    split at hup
    · cases hup
    · exact ⟨chunks, hup, Or.inr rfl⟩
    · cases hup
    · split_ifs at hup
    · next chunk =>
      split_ifs at hup
      cases hup
      exact ⟨chunks', hp, Or.inl ⟨chunk, rfl⟩⟩
  · next hp => cases hp.symm.trans hup

end Handler

/-- `s'` is `s` with these session tables, and with this handler for `c`, as far as the tables and
the handlers go. -/
structure Advanced (s s' : Sys) (c : Conn) (next : Sessions × Handler) : Prop where
  sessions : s'.server.sessions = next.1
  handlers : ∀ d, s'.handlers.lookup d = if d = c then some next.2 else s.handlers.lookup d

namespace Advanced
variable {s s' : Sys} {c : Conn} {h h' : Handler}

theorem set (server : s'.server.sessions = s.server.sessions)
    (handlers : s'.handlers = s.handlers.insert c h') :
    Advanced s s' c (s.server.sessions, h') :=
  ⟨server, fun d => by rw [handlers, Table.lookup_insert]⟩

theorem same (hl : s.handlers.lookup c = some h)
    (server : s'.server.sessions = s.server.sessions) (handlers : s'.handlers = s.handlers) :
    Advanced s s' c (s.server.sessions, h) := by
  refine ⟨server, fun d => ?_⟩
  rw [handlers]
  split_ifs with hd
  · rw [hd, hl]
  · rfl

end Advanced

namespace Sys
variable {s : Sys} {c : Conn} {h : Handler} {env : Env}

@[simp] theorem write_handlers (msg : Message) : (s.write c msg env).handlers = s.handlers := by
  unfold write
  split <;> rfl

@[simp] theorem save_handlers (file : File) (bytes : Bytes) (outcome : SaveOutcome) :
    (s.save file bytes outcome).handlers = s.handlers := by
  cases outcome <;> rfl

theorem acceptLogin_advanced (msg : Message) :
    Advanced s (s.acceptLogin c h msg env) c
      (if env.writeFails c then (s.server.sessions, { h with login := .broken })
      else (s.server.sessions.add c h.user h.ip, { h with login := .ok })) := by
  unfold acceptLogin
  split_ifs with hw
  · exact .set rfl rfl
  · refine ⟨?_, fun d => ?_⟩
    · simp [setHandler, Server.sessions, Sessions.add, Server.addIP, Server.addStream,
        Server.addUser]
    · simp [setHandler, Table.lookup_insert]

theorem handleLogin_advanced (msg : Message) :
    Advanced s (s.handleLogin c h msg env) c (h.afterLogin s.server.sessions c msg env) := by
  unfold handleLogin Handler.afterLogin Sessions.verdict
  by_cases htype : msg.type = some .LOGIN_REQUEST
  · simp only [htype, if_true, Server.findUser, Server.getIP]
    by_cases hon : (s.server.oos.lookup msg.user).isSome
    · simp only [Server.sessions, hon, if_true]
      cases hip : s.server.ip.lookup msg.user with
      | none => exact .set rfl rfl
      | some known =>
        by_cases hne : known ≠ h.ip
        · simp only [hne, ne_eq, not_false_eq_true, if_true]
          exact .set (by simp [setHandler]) (by simp [setHandler])
        · simp only [hne, if_false]
          exact acceptLogin_advanced msg
    · simp only [Server.sessions, hon]
      exact acceptLogin_advanced msg
  · simp only [htype, if_false]
    exact .set rfl rfl

theorem handleFileUploadRequest_advanced (hl : s.handlers.lookup c = some h) (msg : Message) :
    Advanced s (s.handleFileUploadRequest c h msg env) c
      (s.server.sessions, if msg.file = none then { h with phase := .ended } else h) := by
  unfold handleFileUploadRequest
  cases hf : msg.file with
  | none => exact .set rfl rfl
  | some file =>
    simp only [reduceCtorEq, if_false]
    split_ifs with hfits
    · exact .same hl (by simp) (by simp)
    · exact .same hl (by simp) (by simp)

theorem handleCommand_advanced (hl : s.handlers.lookup c = some h) (msg : Message) :
    Advanced s (s.handleCommand c h (some msg) env) c (s.server.sessions, h.afterCommand msg) := by
  unfold handleCommand Handler.afterCommand
  by_cases h1 : msg.type = some .LOOKUP_STD
  · simp only [h1, if_true]
    exact .same hl (by simp) (by simp)
  by_cases h2 : msg.type = some .FILE_REQUEST
  · have hreq : Advanced s (s.handleFileUploadRequest c h msg env) c _ :=
      handleFileUploadRequest_advanced hl msg
    cases hf : msg.file <;> simpa [h2, hf] using hreq
  by_cases h3 : msg.type = some .FILE_INIT ∧ h.socketType
  · simp only [h3.1, h3.2]
    exact .set rfl rfl
  by_cases h4 : msg.type = some .LOOKUP_FILES_SELF
  · simp only [h4]
    exact .same hl (by simp) (by simp)
  by_cases h5 : msg.type = some .LOOKUP_FILES_OTHER
  · simp only [h5]
    exact .same hl (by simp) (by simp)
  by_cases h6 : msg.type = some .REQUEST
  · have hs := sessions_addRequest s.server h.user msg.request env.writeFails
    cases hr : msg.request with
    | none =>
      simp only [h6, hr] at hs ⊢
      exact .set hs rfl
    | some request =>
      simp only [h6, hr] at hs ⊢
      exact .same hl hs rfl
  · simp only [h1, h2, h3, h4, h5, h6]
    exact .same hl (by simp) (by simp)

theorem completeUpload_advanced {s' : Sys} (hs : s'.server = s.server)
    (hh : s'.handlers = s.handlers) (file : Option File) (chunks : List Chunk) :
    Advanced s (s'.completeUpload c h file chunks env) c
      (s.server.sessions,
        { h with phase := if (joined file chunks).isSome then .commands else .ended }) := by
  unfold completeUpload
  cases joined file chunks with
  | none => exact .set (congrArg Server.sessions hs) (by simp [kill, setHandler, hh])
  | some p => exact .set (by simp [setHandler, hs]) (by simp [setHandler, hh])

theorem handleFileUpload_advanced (hl : s.handlers.lookup c = some h) (file : Option File)
    (chunks : List Chunk) (r : Received) :
    Advanced s (s.handleFileUpload c h file chunks r env) c
      (s.server.sessions, h.afterUploadRead c file chunks r env) := by
  unfold handleFileUpload Handler.afterUploadRead
  cases r with
  | ioError => exact .set rfl rfl
  | classNotFound => exact .same hl rfl rfl
  | message msg => exact .set rfl rfl
  | null =>
    simp only
    split_ifs with hw
    · exact .set rfl rfl
    · exact .set (by simp [kill, setHandler]) (by simp [kill, setHandler])
  | chunk chunk =>
    by_cases hw : env.writeFails c
    · simp only [hw, if_true]
      exact .set rfl rfl
    by_cases hlast : chunk.chunkNo = chunk.totalChunks
    · by_cases hc : env.completeFails
      · simp only [hw, hlast, hc]
        exact .set (by simp [setHandler]) (by simp [setHandler])
      · simp only [hw, hlast, hc, Bool.false_eq_true, false_or, if_true, if_false]
        apply completeUpload_advanced
        · exact write_server _
        · exact write_handlers _
    · simp only [hw, hlast]
      exact .set (by simp [setHandler]) (by simp [setHandler])

theorem receive_advanced (hl : s.handlers.lookup c = some h) (r : Received) :
    Advanced s (s.receive c h r env) c (h.next s.server.sessions c r env) := by
  unfold receive Handler.next
  cases hp : h.phase with
  | login =>
    cases r with
    | message msg => exact handleLogin_advanced msg
    | _ => exact .set rfl rfl
  | commands =>
    cases r with
    | message msg => exact handleCommand_advanced hl msg
    | classNotFound => exact .same hl rfl rfl
    | ioError => exact ⟨rfl, fun d => by simp [receiveCommand, setHandler, Table.lookup_insert]⟩
    | _ => exact .set rfl rfl
  | upload file chunks => exact handleFileUpload_advanced hl file chunks r
  | ended => exact .same hl rfl rfl

def advance (t : Sessions) (h : Option Handler) : Event → Sessions × Option Handler
  | .accept c socketType ip =>
    match h with
    | some h => (t, some h)
    | none =>
      if socketType then
        ({ t with fos := t.fos.insert none c }, some { socketType, ip, phase := .commands })
      else (t, some { socketType, ip, phase := .login })
  | .receive c r env =>
    match h with
    | none => (t, none)
    | some h => ((h.next t c r env).1, some (h.next t c r env).2)

theorem advance_some (t : Sessions) (h : Handler) (e : Event) : (advance t (some h) e).2 ≠ none := by
  cases e with
  | accept c socketType ip => simp [advance]
  | receive c r env => simp [advance]

/-- A step goes through `advance`, and leaves the handlers of the other connections alone. -/
theorem step_advance (s : Sys) (e : Event) :
    (s.step e).server.sessions = (advance s.server.sessions (s.handlers.lookup e.conn) e).1 ∧
      ∀ d, (s.step e).handlers.lookup d =
        if d = e.conn then (advance s.server.sessions (s.handlers.lookup e.conn) e).2
        else s.handlers.lookup d := by
  have hsame : ∀ c d, s.handlers.lookup d = if d = c then s.handlers.lookup c else
      s.handlers.lookup d := by
    intro c d
    split_ifs with hd
    · rw [hd]
    · rfl
  cases e with
  | accept c socketType ip =>
    cases hl : s.handlers.lookup c with
    | some h =>
      simp only [step, Event.conn, hl, advance, Option.isSome_some, if_true, true_and]
      rw [← hl]
      exact hsame c
    | none =>
      cases socketType with
      | true => simp [step, Event.conn, hl, advance, handleFSLogin, setHandler,
          Table.lookup_insert]
      | false => simp [step, Event.conn, hl, advance, setHandler, Table.lookup_insert]
  | receive c r env =>
    cases hl : s.handlers.lookup c with
    | none =>
      simp only [step, Event.conn, hl, advance, true_and]
      rw [← hl]
      exact hsame c
    | some h =>
      have hstep : s.step (.receive c r env) = s.receive c h r env := by simp only [step, hl]
      have hadv : Advanced s (s.receive c h r env) c _ := receive_advanced hl r
      rw [hstep]
      simp only [Event.conn, hl, advance]
      exact ⟨hadv.sessions, hadv.handlers⟩

theorem step_handler {s : Sys} {c : Conn} {h : Handler} (hl : s.handlers.lookup c = some h)
    (r : Received) (env : Env) : (s.step (.receive c r env)).handlers.lookup c =
      some (h.next s.server.sessions c r env).2 := by
  rw [(step_advance s (.receive c r env)).2 c]
  simp only [Event.conn, hl, advance, if_true]

theorem step_frame (s : Sys) (e : Event) {d : Conn} (hd : d ≠ e.conn) :
    (s.step e).handlers.lookup d = s.handlers.lookup d := by
  rw [(step_advance s e).2, if_neg hd]

/-- A handler past its login stays so through every step, with its user and the outcome. -/
theorem step_settled {s : Sys} {c : Conn} {h : Handler} (hl : s.handlers.lookup c = some h)
    (hp : h.phase ≠ .login) (e : Event) : ∃ h', (s.step e).handlers.lookup c = some h' ∧
      h'.login = h.login ∧ h'.user = h.user ∧ h'.phase ≠ .login := by
  by_cases hc : c = e.conn
  · subst hc
    rw [(step_advance s e).2, if_pos rfl, hl]
    cases e with
    | accept c socketType ip => exact ⟨h, rfl, rfl, rfl, hp⟩
    | receive c r env => exact ⟨_, rfl, h.next_settled hp s.server.sessions c r env⟩
  · rw [step_frame s e hc]
    exact ⟨h, hl, rfl, rfl, hp⟩

end Sys

end NetSessional.FileServer
