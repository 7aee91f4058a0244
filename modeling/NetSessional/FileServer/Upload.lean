import NetSessional.Lib.Schedules
import NetSessional.FileServer.Chunking
import NetSessional.FileServer.FileStore

/-! Concurrent uploads, statement by statement: for each upload a `FileClient` and the handler of
its file connection, over two queues, and the file table that all handlers share. Every queue
operation and every access to the table is one step; no I/O operation fails. -/

namespace NetSessional.FileServer

open Schedules

/-- A file that a user has picked for an upload that the server accepts. -/
structure Job where
  file : File
  bytes : Bytes
  rand : Fin (Server.MAX_CHUNK_SIZE - Server.MIN_CHUNK_SIZE)
  nonempty : bytes ≠ []
  /-- it is a Java array -/
  small : bytes.length < 2 ^ 31

namespace Job

/-- The file in `FILE_ACCEPT`: its size was set by `load`, its chunk size by the server. -/
def accepted (job : Job) : File :=
  { (job.file.load (some job.bytes)).1 with CHUNK_SIZE := Server.getChunkSize job.rand }

/-- What `Client.handleServerResponse` gives the `FileClient`. -/
def chunks (job : Job) : List Chunk :=
  match job.accepted.split job.bytes with
  | .ok chunks => chunks
  | .error _ => []

end Job

inductive ClientPc where
  /-- before the `FILE_INIT` is written -/
  | start
  /-- at the head of the `for` loop -/
  | loop (i : ℕ)
  /-- waiting for the response to chunk `i` -/
  | reading (i : ℕ)
  /-- `run` has returned, with the socket closed -/
  | closed
  deriving DecidableEq

/-- Where the handler stands; `file` is the local of `handleFileUpload`. -/
inductive HandlerPc where
  /-- in `receiveMsg`, for the `FILE_INIT` -/
  | awaiting
  /-- at the read of the loop -/
  | reading (file : Option File)
  /-- before the write of `CHUNK_RECEIVED` -/
  | responding (file : Option File) (chunk : Chunk)
  /-- behind the test, before the write of `FILE_UL_COMPLETE` -/
  | completing (file : Option File)
  /-- before `join` and `Server.addFile` -/
  | adding (file : Option File)
  | saving (file : File) (bytes : Bytes)
  /-- `handleFileUpload` has returned -/
  | done
  /-- an unchecked exception has ended the thread -/
  | dead
  deriving DecidableEq

inductive Sent where
  | message (msg : Message)
  | chunk (chunk : Chunk)
  deriving DecidableEq

/-- The two ends of one upload, and the queues between them. -/
structure Proc where
  client : ClientPc := .start
  handler : HandlerPc := .awaiting
  toHandler : List Sent := []
  toClient : List Message := []
  /-- the responses that the client has read -/
  received : List Message := []
  /-- the list `chunks` of the handler -/
  chunks : List Chunk := []
  /-- `response` as it was when it was first written -/
  written : Option Message := none

namespace Proc

/-- `FileClient.run` -/
def clientStep (file : File) (chunks : List Chunk) (p : Proc) : Option Proc :=
  match p.client with
  | .start =>
    let uploadInitMsg : Message := { type := some .FILE_INIT, file := some file }
    some { p with client := .loop 0, toHandler := p.toHandler ++ [.message uploadInitMsg] }
  | .loop i =>
    match chunks[i]? with
    | some chunk => some { p with client := .reading i, toHandler := p.toHandler ++ [.chunk chunk] }
    | none => some { p with client := .closed }
  | .reading i =>
    match p.toClient with
    | [] => none
    | response :: toClient =>
      let p := { p with toClient, received := p.received ++ [response] }
      if response.type = some .ERROR then some { p with client := .loop chunks.length }
      else some { p with client := .loop (i + 1) }
  | .closed => none

/-- `writeObject(response)`: an object that the stream has written before is written as a reference
to it, so that the peer reads it as it was the first time. -/
def respond (p : Proc) (response : Message) : Proc :=
  let seen := p.written.getD response
  { p with toClient := p.toClient ++ [seen], written := some seen }

/-- The handler of the file connection, in `receiveMsg` and in `handleFileUpload`. The last
component is the call of `save`. -/
def handlerStep (server : Server) (p : Proc) : Option (Proc × Server × Option (File × Bytes)) :=
  match p.handler with
  | .awaiting =>
    match p.toHandler with
    | [] => none
    | .message msg :: toHandler =>
      -- another command would be served here; a `FileClient` sends none
      if msg.type = some .FILE_INIT then
        some ({ p with toHandler, handler := .reading msg.file }, server, none)
      else some ({ p with toHandler }, server, none)
    | .chunk _ :: toHandler => some ({ p with toHandler, handler := .dead }, server, none)
  | .reading file =>
    match p.toHandler with
    | [] => none
    | .chunk chunk :: toHandler =>
      some ({ p with toHandler, handler := .responding file chunk }, server, none)
    | .message _ :: toHandler => some ({ p with toHandler, handler := .dead }, server, none)
  | .responding file chunk =>
    let p := p.respond { type := some .CHUNK_RECEIVED }
    let p := { p with chunks := p.chunks ++ [chunk] }
    if chunk.chunkNo = chunk.totalChunks then
      some ({ p with handler := .completing file }, server, none)
    else some ({ p with handler := .reading file }, server, none)
  | .completing file =>
    let p := p.respond { text := some "File upload completed!", type := some .FILE_UL_COMPLETE }
    some ({ p with handler := .adding file }, server, none)
  | .adding file =>
    match joined file p.chunks with
    | none => some ({ p with handler := .dead }, server, none)
    | some (file, bytes) =>
      some ({ p with handler := .saving file bytes }, server.addFile file.owner file, none)
  | .saving file bytes => some ({ p with handler := .done }, server, some (file, bytes))
  | .done => none
  | .dead => none

end Proc

inductive Side where
  | client
  | handler
  deriving DecidableEq

structure Uploads (ι : Type) where
  procs : ι → Proc
  server : Server
  /-- the calls of `save` so far, and whose they were -/
  saves : List (ι × File × Bytes)

section System
variable {ι : Type} [DecidableEq ι]

def Uploads.start (server : Server) : Uploads ι := ⟨fun _ => {}, server, []⟩

def Uploads.step (jobs : ι → Job) (s : Uploads ι) : ι × Side → Option (Uploads ι)
  | (i, .client) =>
    ((s.procs i).clientStep (jobs i).accepted (jobs i).chunks).map fun p =>
      { s with procs := Function.update s.procs i p }
  | (i, .handler) =>
    ((s.procs i).handlerStep s.server).map fun (p, server, save) =>
      { procs := Function.update s.procs i p
        server
        saves := s.saves ++ (save.map fun (file, bytes) => (i, file, bytes)).toList }

end System

end NetSessional.FileServer
