import NetSessional.Lib.Tables
import NetSessional.FileServer.Utils

/-! The static state of class `Server` and its accessors. A `HashMap` is an association list with
distinct keys, `null` being a key like any other; the platform does not specify the order in which
a map or a set is traversed, and no statement below depends on the one the model uses. -/

namespace NetSessional.FileServer

/-- A connection stands for its `ObjectOutputStream` too. -/
abbrev Conn := ℕ

structure Server where
  users : List Name := []
  oos : Table Name Conn := ∅
  fos : Table Name Conn := ∅
  ip : Table Name String := ∅
  files : Table Name (List File) := ∅
  requests : Table Name (List Request) := ∅
  BUFFER_USED : Int32 := 0
  total_requests : Int32 := 0

namespace Server

def MAX_BUFFER_SIZE : Int32 := 100000000
def MAX_CHUNK_SIZE : ℕ := 100
def MIN_CHUNK_SIZE : ℕ := 10

def addUser (s : Server) (user : Name) : Server := { s with users := s.users.insert user }

def addStream (s : Server) (objectOutputStream : Conn) (user : Name) : Server :=
  { s with oos := s.oos.insert user objectOutputStream }

def removeStream (s : Server) (user : Name) : Server := { s with oos := s.oos.erase user }

def findUser (s : Server) (user : Name) : Bool := (s.oos.lookup user).isSome

def getIP (s : Server) (user : Name) : Option String := s.ip.lookup user

def addIP (s : Server) (user : Name) (IP : String) : Server := { s with ip := s.ip.insert user IP }

def removeIP (s : Server) (user : Name) : Server := { s with ip := s.ip.erase user }

def addFileStream (s : Server) (objectOutputStream : Conn) (user : Name) : Server :=
  { s with fos := s.fos.insert user objectOutputStream }

def removeFileStream (s : Server) (user : Name) : Server := { s with fos := s.fos.erase user }

def getAllUsers (s : Server) : List Name := s.users

def getOnlineUsers (s : Server) : List Name := s.oos.keys

def useBuffer (s : Server) (size : Int32) : Bool × Server :=
  if size > MAX_BUFFER_SIZE - s.BUFFER_USED then (false, s)
  else (true, { s with BUFFER_USED := s.BUFFER_USED + size })

def freeBuffer (s : Server) (size : Int32) : Server :=
  { s with BUFFER_USED := s.BUFFER_USED - size }

theorem chunkSizes_pos : 0 < MAX_CHUNK_SIZE - MIN_CHUNK_SIZE := by decide

/-- `rand.nextInt(MIN_CHUNK_SIZE, MAX_CHUNK_SIZE)` for the random number `r`. -/
def getChunkSize (r : Fin (MAX_CHUNK_SIZE - MIN_CHUNK_SIZE)) : Int32 :=
  Int32.ofNat (MIN_CHUNK_SIZE + r)

def addFile (s : Server) (user : Name) (file : File) : Server :=
  let s := if (s.files.lookup user).isNone then { s with files := s.files.insert user [] } else s
  { s with files := s.files.insert user ((s.files.lookup user).getD [] ++ [file]) }

def getFileList (s : Server) (user : Name) : Server × List File :=
  let s := if (s.files.lookup user).isNone then { s with files := s.files.insert user [] } else s
  (s, (s.files.lookup user).getD [])

/-- `removeIf` works on the very list that `getFileList` hands out, which is the stored one. -/
def getPublicFileList (s : Server) (user : Name) : Server × List File :=
  let (s, files) := s.getFileList user
  let files := files.filter File.isPublic
  ({ s with files := s.files.insert user files }, files)

/-- The second component is what is written, and to which streams: those whose write succeeds.
There is none when `request` is null: `request.setNumber(++total_requests)` then throws, after it
has counted. -/
def addRequest (s : Server) (user : Name) (request : Option Request)
    (writeFails : Conn → Bool) : Server × Option (List (Conn × Message)) :=
  let s := if (s.requests.lookup user).isNone then
    { s with requests := s.requests.insert user [] } else s
  let s := { s with total_requests := s.total_requests + 1 }
  match request with
  | none => (s, none)
  | some request =>
    let request := { request with number := s.total_requests }
    let s := { s with
      requests := s.requests.insert user ((s.requests.lookup user).getD [] ++ [request]) }
    let message : Message :=
      { text := some ("File requested by " ++ user.text ++ ": " ++ request.description.text)
        type := some .BROADCAST }
    let streams := (s.oos.entries.map Sigma.snd).filter fun stream => !writeFails stream
    (s, some (streams.map fun stream => (stream, message)))

def removeRequest (s : Server) (user : Name) (requestNumber : Int32) :
    Except JavaException Server :=
  match s.requests.lookup user with
  | none => .error .nullPointer
  | some rs => .ok
    { s with requests := s.requests.insert user (rs.filter fun r => r.number != requestNumber) }

end Server

end NetSessional.FileServer
