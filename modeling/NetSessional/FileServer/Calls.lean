import NetSessional.FileServer.FileStore

/-! The statics change through the accessors of `Server` only: which accessor a step calls, and what
that says about the file lists, the buffer and the requests. -/

namespace NetSessional.FileServer

/-- A call of an accessor that can change the statics. -/
inductive Call where
  | nothing
  /-- the three calls of an accepted login -/
  | login (c : Conn) (user : Name) (ip : String)
  | addFileStream (c : Conn) (user : Name)
  /-- the three calls after a lost connection -/
  | lost (user : Name)
  | useBuffer (size : Int32)
  | getFileList (user : Name)
  | getPublicFileList (user : Name)
  | addRequest (user : Name) (request : Option Request) (writeFails : Conn → Bool)
  | addFile (user : Name) (file : File)

def Server.perform (s : Server) : Call → Server
  | .nothing => s
  | .login c user ip => ((s.addIP user ip).addStream c user).addUser user
  | .addFileStream c user => s.addFileStream c user
  | .lost user => ((s.removeStream user).removeFileStream user).removeIP user
  | .useBuffer size => (s.useBuffer size).2
  | .getFileList user => (s.getFileList user).1
  | .getPublicFileList user => (s.getPublicFileList user).1
  | .addRequest user request writeFails => (s.addRequest user request writeFails).1
  | .addFile user file => s.addFile user file

namespace Handler

def loginCall (s : Server) (c : Conn) (h : Handler) (msg : Message) (env : Env) : Call :=
  if msg.type = some .LOGIN_REQUEST ∧ ¬ env.writeFails c ∧
      (s.findUser msg.user → s.getIP msg.user = some h.ip) then
    .login c msg.user h.ip
  else .nothing

def commandCall (h : Handler) (msg : Message) (env : Env) : Call :=
  if msg.type = some .FILE_REQUEST then
    match msg.file with
    | none => .nothing
    | some file => .useBuffer file.fileSize
  else if msg.type = some .LOOKUP_FILES_SELF then .getFileList h.user
  else if msg.type = some .LOOKUP_FILES_OTHER then .getPublicFileList msg.text
  else if msg.type = some .REQUEST then .addRequest h.user msg.request env.writeFails
  else .nothing

def uploadCall (c : Conn) (file : Option File) (chunks : List Chunk) (r : Received) (env : Env) :
    Call :=
  match r with
  | .chunk chunk =>
    if ¬ env.writeFails c ∧ chunk.chunkNo = chunk.totalChunks ∧ ¬ env.completeFails then
      match joined file (chunks ++ [chunk]) with
      | none => .nothing
      | some (file, _) => .addFile file.owner file
    else .nothing
  | _ => .nothing

def call (s : Server) (c : Conn) (h : Handler) (r : Received) (env : Env) : Call :=
  match h.phase, r with
  | .login, .message msg => h.loginCall s c msg env
  | .commands, .message msg => h.commandCall msg env
  | .commands, .ioError => .lost h.user
  | .upload file chunks, r => uploadCall c file chunks r env
  | _, _ => .nothing

end Handler

namespace Sys
variable {s : Sys} {c : Conn} {h : Handler} {env : Env}

def call (s : Sys) : Event → Call
  | .accept c socketType _ =>
    if (s.handlers.lookup c).isNone ∧ socketType then .addFileStream c none else .nothing
  | .receive c r env =>
    match s.handlers.lookup c with
    | none => .nothing
    | some h => h.call s.server c r env

end Sys

/-- In which phase, and at which object it reads, a handler calls an accessor. -/
inductive Handler.Calls (h : Handler) (c : Conn) (env : Env) : Received → Call → Prop where
  | login (msg : Message) (hp : h.phase = .login) :
    Calls h c env (.message msg) (.login c msg.user h.ip)
  | lost (hp : h.phase = .commands) : Calls h c env .ioError (.lost h.user)
  | fileRequest (msg : Message) (file : File) (hp : h.phase = .commands)
    (htype : msg.type = some .FILE_REQUEST) (hfile : msg.file = some file) :
    Calls h c env (.message msg) (.useBuffer file.fileSize)
  | lookupSelf (msg : Message) (hp : h.phase = .commands)
    (htype : msg.type = some .LOOKUP_FILES_SELF) : Calls h c env (.message msg) (.getFileList h.user)
  | lookupOther (msg : Message) (hp : h.phase = .commands)
    (htype : msg.type = some .LOOKUP_FILES_OTHER) :
    Calls h c env (.message msg) (.getPublicFileList msg.text)
  | request (msg : Message) (hp : h.phase = .commands) (htype : msg.type = some .REQUEST) :
    Calls h c env (.message msg) (.addRequest h.user msg.request env.writeFails)
  | completed {file : File} (chunks : List Chunk) (chunk : Chunk)
    (hp : h.phase = .upload (some file) chunks) (hlast : chunk.chunkNo = chunk.totalChunks) :
    Calls h c env (.chunk chunk) (.addFile file.owner file)

theorem Handler.calls_of_command {h : Handler} {c : Conn} {env : Env} {msg : Message} {call : Call}
    (hp : h.phase = .commands) (hcall : h.commandCall msg env = call) (hne : call ≠ .nothing) :
    h.Calls c env (.message msg) call := by
  subst hcall
  unfold Handler.commandCall at hne ⊢
  split_ifs at hne ⊢ with hreq hself hother hrequest
  · cases hfile : msg.file with
    | none => simp [hfile] at hne
    | some file => exact .fileRequest msg file hp hreq hfile
  · exact .lookupSelf msg hp hself
  · exact .lookupOther msg hp hother
  · exact .request msg hp hrequest
  · exact absurd rfl hne

theorem Handler.calls_of_call {h : Handler} {s : Server} {c : Conn} {r : Received} {env : Env}
    {call : Call} (hcall : h.call s c r env = call) (hne : call ≠ .nothing) :
    h.Calls c env r call := by
  unfold Handler.call at hcall
  split at hcall
  · next msg hp =>
    unfold Handler.loginCall at hcall
    split_ifs at hcall
    · subst hcall
      exact .login msg hp
    · exact absurd hcall.symm hne
  · next msg hp => exact calls_of_command hp hcall hne
  · next hp =>
    subst hcall
    exact .lost hp
  · next file chunks hp =>
    unfold Handler.uploadCall at hcall
    split at hcall
    · next chunk =>
      split_ifs at hcall with hends
      · split at hcall
        · exact absurd hcall.symm hne
        · next f bytes hjoined =>
          subst hcall
          obtain ⟨rfl, -⟩ := joined_eq_some.1 hjoined
          exact .completed chunks chunk hp hends.2.1
      · exact absurd hcall.symm hne
    · exact absurd hcall.symm hne
  · exact absurd hcall.symm hne

namespace Sys
variable {s : Sys} {c : Conn} {h : Handler} {env : Env}

theorem step_command (hl : s.handlers.lookup c = some h) (hp : h.phase = .commands) (msg : Message)
    (env : Env) : s.step (.receive c (.message msg) env) = s.handleCommand c h (some msg) env := by
  simp only [Sys.step, hl, Sys.receive, hp, Sys.receiveCommand]

/-- An accessor is called when the file socket accepts a connection, or by a handler. -/
theorem call_cases {e : Event} {call : Call} (hcall : s.call e = call) (hne : call ≠ .nothing) :
    (∃ c ip, e = .accept c true ip ∧ call = .addFileStream c none) ∨
      ∃ c h r env, e = .receive c r env ∧ s.handlers.lookup c = some h ∧ h.Calls c env r call := by
  cases e with
  | accept c socketType ip =>
    simp only [Sys.call] at hcall
    split_ifs at hcall with hnew
    · cases socketType with
      | true => exact Or.inl ⟨c, ip, rfl, hcall.symm⟩
      | false => exact absurd hnew.2 (by simp)
    · exact absurd hcall.symm hne
  | receive c r env =>
    cases hl : s.handlers.lookup c with
    | none =>
      simp only [Sys.call, hl] at hcall
      exact absurd hcall.symm hne
    | some h =>
      simp only [Sys.call, hl] at hcall
      exact Or.inr ⟨c, h, r, env, rfl, hl, Handler.calls_of_call hcall hne⟩

@[simp] theorem write_server (msg : Message) : (s.write c msg env).server = s.server := by
  unfold write
  split_ifs <;> rfl

@[simp] theorem save_server (file : File) (bytes : Bytes) (outcome : SaveOutcome) :
    (s.save file bytes outcome).server = s.server := by
  cases outcome <;> rfl

/-- The `else` branch of the login check: nothing is entered when the answer cannot be written. -/
theorem acceptLogin_server (msg : Message) :
    (s.acceptLogin c h msg env).server =
      s.server.perform (if env.writeFails c then .nothing else .login c h.user h.ip) := by
  unfold acceptLogin
  split_ifs with hw
  · rfl
  · simp [setHandler, Server.perform]

theorem handleLogin_server (msg : Message) :
    (s.handleLogin c h msg env).server = s.server.perform (h.loginCall s.server c msg env) := by
  unfold handleLogin Handler.loginCall
  by_cases htype : msg.type = some .LOGIN_REQUEST
  · have haccept : (s.acceptLogin c { h with user := msg.user, phase := .commands } msg env).server
        = _ := acceptLogin_server msg
    by_cases hon : s.server.findUser msg.user
    · cases hip : s.server.getIP msg.user with
      | none =>
        simp only [htype, hon, hip, if_true, forall_const, reduceCtorEq, and_false, if_false]
        rfl
      | some known =>
        by_cases hne : known = h.ip
        · simp only [htype, hon, hip, hne, ne_eq, not_true, if_true, if_false, haccept]
          cases env.writeFails c <;> simp
        · simp only [htype, hon, hip, hne, ne_eq, not_false_eq_true, if_true, forall_const,
            Option.some.injEq, and_false, if_false]
          simp [setHandler, Server.perform]
    · simp only [htype, hon, if_true, Bool.false_eq_true, if_false, haccept]
      cases env.writeFails c <;> simp
  · simp only [htype, if_false, false_and]
    rfl

theorem handleFileUploadRequest_server (msg : Message) :
    (s.handleFileUploadRequest c h msg env).server = s.server.perform
      (match msg.file with
      | none => .nothing
      | some file => .useBuffer file.fileSize) := by
  unfold handleFileUploadRequest
  cases msg.file with
  | none => rfl
  | some file =>
    simp only [Server.perform, Server.useBuffer]
    by_cases hfits : file.fileSize > Server.MAX_BUFFER_SIZE - s.server.BUFFER_USED
    · simp [hfits]
    · simp [hfits]

theorem handleCommand_server (msg : Message) :
    (s.handleCommand c h (some msg) env).server = s.server.perform (h.commandCall msg env) := by
  unfold handleCommand Handler.commandCall
  by_cases h1 : msg.type = some .LOOKUP_STD
  · simp [h1, Server.perform]
  by_cases h2 : msg.type = some .FILE_REQUEST
  · simp only [h2, if_true]
    exact handleFileUploadRequest_server msg
  by_cases h3 : msg.type = some .FILE_INIT ∧ h.socketType
  · simp only [h3.1, h3.2]
    rfl
  by_cases h4 : msg.type = some .LOOKUP_FILES_SELF
  · simp [h4, Server.perform]
  by_cases h5 : msg.type = some .LOOKUP_FILES_OTHER
  · simp [h5, Server.perform]
  by_cases h6 : msg.type = some .REQUEST
  · cases hr : msg.request with
    | none =>
      simp only [h6, hr]
      rfl
    | some request =>
      simp only [h6, hr]
      rfl
  · simp [h1, h2, h3, h4, h5, h6, Server.perform]

theorem completeUpload_server (file : Option File) (chunks : List Chunk) :
    (s.completeUpload c h file chunks env).server = s.server.perform
      (match joined file chunks with
      | none => .nothing
      | some (file, _) => .addFile file.owner file) := by
  unfold completeUpload
  cases joined file chunks with
  | none => rfl
  | some p => simp [setHandler, Server.perform]

theorem handleFileUpload_server (file : Option File) (chunks : List Chunk) (r : Received) :
    (s.handleFileUpload c h file chunks r env).server =
      s.server.perform (Handler.uploadCall c file chunks r env) := by
  unfold handleFileUpload Handler.uploadCall
  cases r with
  | chunk chunk =>
    by_cases hw : env.writeFails c
    · simp [hw, setHandler, Server.perform]
    by_cases hlast : chunk.chunkNo = chunk.totalChunks
    · by_cases hc : env.completeFails
      · simp [hw, hlast, hc, setHandler, Server.perform]
      · simp [hw, hlast, hc, completeUpload_server]
    · simp [hw, hlast, setHandler, Server.perform]
  | null =>
    by_cases hw : env.writeFails c <;> simp [hw, setHandler, kill, Server.perform]
  | _ => rfl

theorem step_server (s : Sys) (e : Event) : (s.step e).server = s.server.perform (s.call e) := by
  cases e with
  | accept c socketType ip =>
    simp only [step, call]
    cases s.handlers.lookup c with
    | some h => simp [Server.perform]
    | none => cases socketType <;> simp [handleFSLogin, setHandler, Server.perform]
  | receive c r env =>
    cases hl : s.handlers.lookup c with
    | none => simp only [step, call, hl, Server.perform]
    | some h =>
      simp only [step, call, hl, receive, Handler.call]
      cases hp : h.phase with
      | login =>
        cases r with
        | message msg => exact handleLogin_server msg
        | _ => rfl
      | commands =>
        cases r with
        | message msg => exact handleCommand_server msg
        | _ => rfl
      | upload file chunks => exact handleFileUpload_server file chunks r
      | ended => cases r <;> rfl

end Sys

def File.path (f : File) : String := "files/" ++ f.owner.text ++ "/" ++ f.fileName.text

namespace Sys
variable {s : Sys} {c : Conn} {h : Handler} {env : Env}

@[simp] theorem write_disk (msg : Message) : (s.write c msg env).disk = s.disk := by
  unfold write
  split_ifs <;> rfl

/-- A login sets the handler. Before that it may answer, with `LOGIN_OK` or `LOGIN_FAIL`, and enter the
connection into the tables. -/
theorem handleLogin_cases (s : Sys) (c : Conn) (h : Handler) (msg : Message) (env : Env) :
    (∃ k, s.handleLogin c h msg env = s.setHandler c k) ∨
      ∃ type server k, (type = .LOGIN_OK ∨ type = .LOGIN_FAIL) ∧
        server.requests = s.server.requests ∧ s.handleLogin c h msg env =
          { s.write c { msg with type := some type } env with server }.setHandler c k := by
  have haccept : ∀ k : Handler, (∃ k', s.acceptLogin c k msg env = s.setHandler c k') ∨
      ∃ type server k', (type = .LOGIN_OK ∨ type = .LOGIN_FAIL) ∧
        server.requests = s.server.requests ∧ s.acceptLogin c k msg env =
          { s.write c { msg with type := some type } env with server }.setHandler c k' := by
    intro k
    unfold acceptLogin
    split_ifs
    · exact Or.inl ⟨_, rfl⟩
    · refine Or.inr ⟨.LOGIN_OK, _, _, Or.inl rfl, ?_, rfl⟩
      simp [Server.addUser, Server.addStream, Server.addIP]
  unfold handleLogin
  extract_lets user k
  split_ifs
  · cases s.server.getIP user with
    | none => exact Or.inl ⟨_, rfl⟩
    | some known =>
      dsimp only
      split_ifs
      · have hserver : (s.write c { msg with type := some .LOGIN_FAIL } env).server = s.server :=
          write_server _
        exact Or.inr ⟨.LOGIN_FAIL, _, _, Or.inr rfl, congrArg Server.requests hserver, rfl⟩
      · exact haccept k
  · exact haccept k
  · exact Or.inl ⟨_, rfl⟩

theorem handleLogin_disk (msg : Message) : (s.handleLogin c h msg env).disk = s.disk := by
  rcases handleLogin_cases s c h msg env with ⟨k, hset⟩ | ⟨type, server, k, -, -, hset⟩
  · rw [hset]
    rfl
  · rw [hset]
    exact write_disk _

theorem handleCommand_disk (msg : Option Message) :
    (s.handleCommand c h msg env).disk = s.disk := by
  cases msg with
  | none => rfl
  | some msg =>
    have hupload : (s.handleFileUploadRequest c h msg env).disk = s.disk := by
      unfold handleFileUploadRequest
      split
      · rfl
      · dsimp only
        split_ifs
        · exact write_disk _
        · exact write_disk _
    unfold handleCommand
    dsimp only
    split_ifs
    · exact write_disk _
    · exact hupload
    · rfl
    · exact write_disk _
    · exact write_disk _
    · split <;> rfl
    · exact write_disk _

theorem save_disk (file : File) (bytes : Bytes) (outcome : SaveOutcome) :
    (s.save file bytes outcome).disk = s.disk ∨
      ∃ bytes', (s.save file bytes outcome).disk = s.disk.insert file.path bytes' := by
  cases outcome with
  | ok => exact Or.inr ⟨bytes, rfl⟩
  | notFound => exact Or.inl rfl
  | partly n => exact Or.inr ⟨bytes.take n, rfl⟩

theorem handleFileUpload_disk (file : Option File) (chunks : List Chunk) (r : Received) :
    (s.handleFileUpload c h file chunks r env).disk = s.disk ∨
      ∃ f bytes, Handler.uploadCall c file chunks r env = .addFile f.owner f ∧
        (s.handleFileUpload c h file chunks r env).disk = s.disk.insert f.path bytes := by
  cases r with
  | chunk chunk =>
    unfold handleFileUpload Handler.uploadCall
    by_cases hw : env.writeFails c
    · simp [hw, setHandler]
    by_cases hlast : chunk.chunkNo = chunk.totalChunks
    · by_cases hc : env.completeFails
      · simp [hw, hlast, hc, setHandler]
      · cases hj : joined file (chunks ++ [chunk]) with
        | none => simp [hw, hlast, hc, completeUpload, hj, kill, setHandler]
        | some p =>
          obtain ⟨f, all⟩ := p
          simp only [hw, hlast, hc, hj, Bool.false_eq_true, if_false, if_true, not_false_eq_true,
            and_self, completeUpload, setHandler]
          refine (save_disk f _ env.save).imp (fun h => h.trans (write_disk _)) ?_
          rintro ⟨bytes, hbytes⟩
          refine ⟨f, bytes, rfl, hbytes.trans ?_⟩
          exact congrArg (fun disk => AList.insert f.path bytes disk) (write_disk _)
    · simp [hw, hlast, setHandler]
  | null =>
    left
    unfold handleFileUpload
    dsimp only
    split_ifs
    · rfl
    · exact write_disk _
  | _ => exact Or.inl rfl

theorem step_disk (s : Sys) (e : Event) : (s.step e).disk = s.disk ∨
    ∃ file bytes, s.call e = .addFile file.owner file ∧
      (s.step e).disk = s.disk.insert file.path bytes := by
  cases e with
  | accept c socketType ip =>
    left
    simp only [step]
    split_ifs <;> rfl
  | receive c r env =>
    cases hl : s.handlers.lookup c with
    | none =>
      left
      simp only [step, hl]
    | some h =>
      simp only [step, call, hl, receive, Handler.call]
      cases hp : h.phase with
      | login =>
        left
        cases r with
        | message msg => exact handleLogin_disk msg
        | _ => rfl
      | commands =>
        left
        cases r with
        | message msg => exact handleCommand_disk (some msg)
        | _ => rfl
      | upload file chunks => exact handleFileUpload_disk file chunks r
      | ended => exact Or.inl rfl

theorem receive_of_addFile {e : Event} {user : Name} {file : File}
    (hcall : s.call e = .addFile user file) :
    ∃ c h chunks chunk env, e = .receive c (.chunk chunk) env ∧ s.handlers.lookup c = some h ∧
      h.phase = .upload (some file) chunks ∧ user = file.owner ∧
      chunk.chunkNo = chunk.totalChunks := by
  obtain ⟨c, ip, rfl, hstream⟩ | ⟨c, h, r, env, rfl, hl, hcalls⟩ := call_cases hcall nofun
  · cases hstream
  · cases hcalls with
    | completed chunks chunk hp hlast => exact ⟨c, h, chunks, chunk, env, rfl, hl, hp, rfl, hlast⟩

end Sys

theorem perform_buffer (s : Server) (call : Call) :
    (s.perform call).BUFFER_USED =
      match call with
      | .useBuffer size => (s.useBuffer size).2.BUFFER_USED
      | _ => s.BUFFER_USED := by
  cases call with
  | addFile user file =>
    simp only [Server.perform, Server.addFile]
    split_ifs <;> rfl
  | addRequest user request writeFails =>
    simp only [Server.perform, Server.addRequest]
    cases request <;> cases (s.requests.lookup user).isNone <;> rfl
  | getFileList user =>
    simp only [Server.perform, Server.getFileList]
    split_ifs <;> rfl
  | getPublicFileList user =>
    simp only [Server.perform, Server.getPublicFileList, Server.getFileList]
    split_ifs <;> rfl
  | _ => rfl

theorem perform_requests (s : Server) (call : Call)
    (hne : ∀ user request writeFails, call ≠ .addRequest user request writeFails) :
    (s.perform call).requests = s.requests ∧
      (s.perform call).total_requests = s.total_requests := by
  cases call with
  | addRequest user request writeFails => exact absurd rfl (hne user request writeFails)
  | addFile user file =>
    simp only [Server.perform, Server.addFile]
    split_ifs <;> exact ⟨rfl, rfl⟩
  | useBuffer size =>
    simp only [Server.perform, Server.useBuffer]
    split_ifs <;> exact ⟨rfl, rfl⟩
  | getFileList user =>
    simp only [Server.perform, Server.getFileList]
    split_ifs <;> exact ⟨rfl, rfl⟩
  | getPublicFileList user =>
    simp only [Server.perform, Server.getPublicFileList, Server.getFileList]
    split_ifs <;> exact ⟨rfl, rfl⟩
  | _ => exact ⟨rfl, rfl⟩

/-- The access to the store of files that a call makes. -/
def Call.storeOp : Call → Option StoreOp
  | .addFile user file => some (.addFile user file)
  | .getFileList user => some (.lookupFilesSelf user)
  | .getPublicFileList user => some (.lookupFilesOther user)
  | _ => none

theorem perform_fileList (s : Server) (call : Call) (u : Name) :
    (s.perform call).fileList u =
      match call.storeOp with
      | none => s.fileList u
      | some op => (s.access op).fileList u := by
  cases call with
  | addRequest user request writeFails =>
    simp only [Server.perform, Server.addRequest, Call.storeOp, Server.fileList]
    cases request <;> cases (s.requests.lookup user).isNone <;> rfl
  | useBuffer size =>
    simp only [Server.perform, Server.useBuffer, Call.storeOp, Server.fileList]
    split_ifs <;> rfl
  | _ => rfl

def storeOps (s : Sys) : List Event → List StoreOp
  | [] => []
  | e :: evs => (s.call e).storeOp.toList ++ storeOps (s.step e) evs

theorem fileList_access {s s' : Server} (h : ∀ u, s.fileList u = s'.fileList u) (op : StoreOp)
    (u : Name) : (s.access op).fileList u = (s'.access op).fileList u := by
  cases op with
  | addFile user file => simp only [Server.access, Server.fileList_addFile, h]
  | lookupFilesSelf user => simp only [Server.access, Server.fileList_getFileList, h]
  | lookupFilesOther user => simp only [Server.access, Server.fileList_getPublicFileList, h]

theorem run_fileList (evs : List Event) (s : Sys) (t : Server)
    (h : ∀ u, s.server.fileList u = t.fileList u) (u : Name) :
    (Runs.run Sys.step s evs).server.fileList u =
      (Runs.run Server.access t (storeOps s evs)).fileList u := by
  induction evs generalizing s t with
  | nil => exact h u
  | cons e evs ih =>
    rw [Runs.run_cons, storeOps, Runs.run_append]
    refine ih _ _ fun v => ?_
    rw [Sys.step_server, perform_fileList]
    cases (s.call e).storeOp with
    | none => exact h v
    | some op => exact fileList_access h op v

section Lookups
variable {s : Sys} {c : Conn} {h : Handler} {env : Env}

theorem lookupSelf_step {msg : Message} (htype : msg.type = some .LOOKUP_FILES_SELF) :
    s.handleCommand c h (some msg) env =
      Sys.write { s with server := (s.server.getFileList h.user).1 } c
        { text := some (arrayListToString ((s.server.getFileList h.user).2.map File.toString))
          type := some .FILE_LIST } env := by
  unfold Sys.handleCommand
  simp only [htype]
  rfl

theorem lookupOther_step {msg : Message} (htype : msg.type = some .LOOKUP_FILES_OTHER) :
    s.handleCommand c h (some msg) env =
      Sys.write { s with server := (s.server.getPublicFileList msg.text).1 } c
        { text := some ("Files uploaded by " ++ msg.text.text ++ ":\n" ++
            arrayListToString ((s.server.getPublicFileList msg.text).2.map File.toString))
          type := some .SERVER_RESPONSE } env := by
  unfold Sys.handleCommand
  simp only [htype]
  rfl

end Lookups

end NetSessional.FileServer
