import NetSessional.FileServer.Server

/-! Class `Handler`: the thread that serves one connection, on the message socket or on the file
socket, and the system of all handlers over the shared statics. A step of the system is what one
handler does between two reads of its `ObjectInputStream`. Peers connect over IPv4. -/

namespace NetSessional.FileServer

/-- What `handleLogin` has told the peer so far. -/
inductive Login where
  /-- its read has not returned -/
  | pending
  /-- `LOGIN_OK` was written and the connection was entered into the tables -/
  | ok
  /-- `LOGIN_FAIL` -/
  | fail
  /-- the first object was no `LOGIN_REQUEST`: nothing is answered -/
  | notRequested
  /-- the read, or the write of `LOGIN_OK`, failed -/
  | broken
  deriving DecidableEq, Repr

/-- Where the thread waits for its next object. -/
inductive Phase where
  | login
  /-- the `while` loop of `run` -/
  | commands
  /-- the `while` loop of `handleFileUpload`, with its locals `file` and `chunks` -/
  | upload (file : Option File) (chunks : List Chunk)
  /-- `run` has returned, or an unchecked exception has ended the thread -/
  | ended
  deriving DecidableEq, Repr

structure Handler where
  socketType : Bool
  /-- `in4addr.toString()` of the remote address -/
  ip : String
  user : Name := none
  login : Login := .pending
  phase : Phase
  deriving DecidableEq, Repr

/-- How `FileOutputStream` fares in `save`: a failed write leaves a part of the bytes. -/
inductive SaveOutcome where
  | ok
  | notFound
  | partly (n : ℕ)

/-- The outcomes of the I/O operations of one step, and the random number it draws. -/
structure Env where
  /-- `writeObject` on the stream of this connection throws an `IOException` -/
  writeFails : Conn → Bool := fun _ => false
  /-- the same for the second write of a step, the completion message of an upload -/
  completeFails : Bool := false
  rand : Fin (Server.MAX_CHUNK_SIZE - Server.MIN_CHUNK_SIZE) := ⟨0, Server.chunkSizes_pos⟩
  save : SaveOutcome := .ok

/-- What `readObject` gives: an object of one of the known classes, null, or one of its two checked
exceptions. -/
inductive Received where
  | message (msg : Message)
  | chunk (chunk : Chunk)
  | null
  | classNotFound
  | ioError

structure Sys where
  server : Server := {}
  handlers : Table Conn Handler := ∅
  /-- every object written, at the time it was written, oldest first -/
  out : List (Conn × Message) := []
  /-- the contents of the written files, by path -/
  disk : Table String Bytes := ∅

inductive Event where
  /-- `listener.accept` on the message socket or on the file socket -/
  | accept (c : Conn) (socketType : Bool) (ip : String)
  /-- a read of the handler of `c` returns, and the handler runs up to its next read -/
  | receive (c : Conn) (r : Received) (env : Env)

def Event.conn : Event → Conn
  | .accept c _ _ => c
  | .receive c _ _ => c

namespace Sys

def setHandler (s : Sys) (c : Conn) (h : Handler) : Sys :=
  { s with handlers := s.handlers.insert c h }

/-- An unchecked exception: nothing in the handler catches it. -/
def kill (s : Sys) (c : Conn) (h : Handler) : Sys := s.setHandler c { h with phase := .ended }

/-- `writeObject`, its `IOException` caught and printed. -/
def write (s : Sys) (c : Conn) (msg : Message) (env : Env) : Sys :=
  if env.writeFails c then s else { s with out := s.out ++ [(c, msg)] }

/-- The `else` branch of the check in `handleLogin`. -/
def acceptLogin (s : Sys) (c : Conn) (h : Handler) (loginRequest : Message) (env : Env) : Sys :=
  if env.writeFails c then s.setHandler c { h with login := .broken }
  else
    let s := s.write c { loginRequest with type := some .LOGIN_OK } env
    let server := ((s.server.addIP h.user h.ip).addStream c h.user).addUser h.user
    { s with server := server }.setHandler c { h with login := .ok }

def handleLogin (s : Sys) (c : Conn) (h : Handler) (loginRequest : Message) (env : Env) : Sys :=
  let user := loginRequest.user
  let h := { h with user := user, phase := .commands }
  if loginRequest.type = some .LOGIN_REQUEST then
    if s.server.findUser user then
      match s.server.getIP user with
      | none => s.kill c h
      | some ip =>
        if ip ≠ h.ip then
          (s.write c { loginRequest with type := some .LOGIN_FAIL } env).setHandler c
            { h with login := .fail }
        else s.acceptLogin c h loginRequest env
    else s.acceptLogin c h loginRequest env
  else s.setHandler c { h with login := .notRequested }

def handleFSLogin (s : Sys) (c : Conn) (h : Handler) : Sys :=
  { s with server := s.server.addFileStream c h.user }.setHandler c h

def getStudentList (s : Server) : Message :=
  { text := some ("Users who logged in at least once:\n" ++
      arrayListToString (s.getAllUsers.map Name.text) ++ "\nUsers online:\n" ++
      arrayListToString (s.getOnlineUsers.map Name.text) ++ "\n") }

def handleFileUploadRequest (s : Sys) (c : Conn) (h : Handler) (msg : Message) (env : Env) : Sys :=
  match msg.file with
  | none => s.kill c h
  | some file =>
    let (fits, server) := s.server.useBuffer file.fileSize
    if fits then
      let size := Server.getChunkSize env.rand
      { s with server := server }.write c
        { msg with
          type := some .FILE_ACCEPT
          file := some { file with CHUNK_SIZE := size }
          text := some ("File upload request accepted.\nChunk Size: " ++ toString size.toInt) } env
    else s.write c { msg with type := some .BUFFER_FULL } env

/-- The call in the `REQUEST` branch lacks its arguments in the source; it is read as
`Server.addRequest(user, msg.getRequest())`. -/
def handleCommand (s : Sys) (c : Conn) (h : Handler) (msg : Option Message) (env : Env) : Sys :=
  match msg with
  | none => s.kill c h
  | some msg =>
    if msg.type = some .LOOKUP_STD then s.write c (getStudentList s.server) env
    else if msg.type = some .FILE_REQUEST then s.handleFileUploadRequest c h msg env
    else if msg.type = some .FILE_INIT ∧ h.socketType then
      s.setHandler c { h with phase := .upload msg.file [] }
    else if msg.type = some .LOOKUP_FILES_SELF then
      let (server, files) := s.server.getFileList h.user
      { s with server := server }.write c
        { text := some (arrayListToString (files.map File.toString))
          type := some .FILE_LIST } env
    else if msg.type = some .LOOKUP_FILES_OTHER then
      let (server, files) := s.server.getPublicFileList msg.text
      { s with server := server }.write c
        { text := some ("Files uploaded by " ++ msg.text.text ++ ":\n" ++
            arrayListToString (files.map File.toString))
          type := some .SERVER_RESPONSE } env
    else if msg.type = some .REQUEST then
      match s.server.addRequest h.user msg.request env.writeFails with
      | (server, none) => { s with server := server }.kill c h
      | (server, some broadcast) => { s with server := server, out := s.out ++ broadcast }
    else
      s.write c { text := some "Couldn't parse the request!", type := some .ERROR } env

/-- `save`: the file is truncated when it is opened, then written. -/
def save (s : Sys) (file : File) (bytes : Bytes) (outcome : SaveOutcome) : Sys :=
  let path := "files/" ++ file.owner.text ++ "/" ++ file.fileName.text
  match outcome with
  | .ok => { s with disk := s.disk.insert path bytes }
  | .notFound => s
  | .partly n => { s with disk := s.disk.insert path (bytes.take n) }

/-- The statements behind the completion message: at a null file, and at null bytes of a chunk, the
call of `join` throws. -/
def completeUpload (s : Sys) (c : Conn) (h : Handler) (file : Option File) (chunks : List Chunk)
    (env : Env) : Sys :=
  match joined file chunks with
  | none => s.kill c h
  | some (file, bytes) =>
    let s := { s with server := s.server.addFile file.owner file }
    (s.save file bytes env.save).setHandler c { h with phase := .commands }

/-- One round of the loop of `handleFileUpload`. -/
def handleFileUpload (s : Sys) (c : Conn) (h : Handler) (file : Option File) (chunks : List Chunk)
    (r : Received) (env : Env) : Sys :=
  let broken := s.setHandler c { h with phase := .commands }
  match r with
  | .ioError => broken
  | .classNotFound => s
  | .message _ => s.kill c h
  | .null =>
    if env.writeFails c then broken
    else (s.write c { type := some .CHUNK_RECEIVED } env).kill c h
  | .chunk chunk =>
    if env.writeFails c then broken
    else
      let s := s.write c { type := some .CHUNK_RECEIVED } env
      let chunks := chunks ++ [chunk]
      if chunk.chunkNo = chunk.totalChunks then
        if env.completeFails then s.setHandler c { h with phase := .commands }
        else
          let done : Message :=
            { text := some "File upload completed!", type := some .FILE_UL_COMPLETE }
          { s with out := s.out ++ [(c, done)] }.completeUpload c h file chunks env
      else s.setHandler c { h with phase := .upload file chunks }

/-- The read of `handleLogin`: its checked exceptions are caught, and the thread goes on. -/
def receiveLogin (s : Sys) (c : Conn) (h : Handler) (r : Received) (env : Env) : Sys :=
  match r with
  | .message msg => s.handleLogin c h msg env
  | .chunk _ => s.kill c { h with login := .notRequested }
  | .null => s.kill c { h with login := .notRequested }
  | .classNotFound => s.setHandler c { h with login := .notRequested, phase := .commands }
  | .ioError => s.setHandler c { h with login := .broken, phase := .commands }

/-- One round of the loop of `run`. -/
def receiveCommand (s : Sys) (c : Conn) (h : Handler) (r : Received) (env : Env) : Sys :=
  match r with
  | .message msg => s.handleCommand c h (some msg) env
  | .null => s.handleCommand c h none env
  | .chunk _ => s.kill c h
  | .classNotFound => s
  | .ioError =>
    let server := ((s.server.removeStream h.user).removeFileStream h.user).removeIP h.user
    { s with server := server }.setHandler c { h with phase := .ended }

def receive (s : Sys) (c : Conn) (h : Handler) (r : Received) (env : Env) : Sys :=
  match h.phase with
  | .login => s.receiveLogin c h r env
  | .commands => s.receiveCommand c h r env
  | .upload file chunks => s.handleFileUpload c h file chunks r env
  | .ended => s

/-- Connections have distinct names: accepting a known one, or a read on an unknown one, is no
step. -/
def step (s : Sys) : Event → Sys
  | .accept c socketType ip =>
    if (s.handlers.lookup c).isSome then s
    else if socketType then s.handleFSLogin c { socketType, ip, phase := .commands }
    else s.setHandler c { socketType, ip, phase := .login }
  | .receive c r env =>
    match s.handlers.lookup c with
    | none => s
    | some h => s.receive c h r env

end Sys

end NetSessional.FileServer
