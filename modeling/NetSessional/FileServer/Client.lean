import NetSessional.FileServer.Utils

/-! Class `Client`: the messages of its menu. What it prints is left out. -/

namespace NetSessional.FileServer

structure Client where
  user : Name
  /-- the lines that are left on the standard input -/
  sc : List String
  bytes : Option Bytes := none
  deriving DecidableEq, Repr

namespace Client

/-- `sc.nextLine`: without a line it throws. -/
def nextLine (client : Client) : Option (String × Client) :=
  client.sc.head?.map fun line => (line, { client with sc := client.sc.tail })

def equalsIgnoreCaseY (s : String) : Bool := s = "Y" || s = "y"

/-- `file.load` of the named file, whose contents the disk gives if it is readable. `Paths.get`
refuses a name with a NUL. -/
def load (disk : String → Option Bytes) (file : File) (fileName : String) : Option (File × Bytes) :=
  if '\x00' ∈ fileName.toList then none else some (file.load (disk fileName))

/-- There is no message when an unchecked exception ends the client. -/
def handleCommand (client : Client) (disk : String → Option Bytes) (choice : Int32) :
    Option (Message × Client) := do
  let msg : Message := { user := client.user }
  if choice = 1 then
    return ({ msg with type := some .LOOKUP_STD }, client)
  else if choice = 2 then
    let (userName, client) ← client.nextLine
    return ({ msg with type := some .LOOKUP_FILES_OTHER, text := some userName }, client)
  else if choice = 3 then
    return ({ msg with type := some .LOOKUP_FILES_SELF }, client)
  else if choice = 4 then
    let (description, client) ← client.nextLine
    let request : Request := { description := some description }
    return ({ msg with type := some .FILE_REQUEST, request := some request }, client)
  else if choice = 5 then
    let (fileName, client) ← client.nextLine
    let (privacy, client) ← client.nextLine
    let file : File :=
      { isPublic := equalsIgnoreCaseY privacy, owner := client.user, fileName := some fileName }
    let (file, bytes) ← load disk file fileName
    return ({ msg with type := some .FILE_REQUEST, file := some file },
      { client with bytes := some bytes })
  else
    return (msg, client)

/-- Some client sends `msg` for this choice of its menu. -/
def Sends (choice : Int32) (msg : Message) : Prop :=
  ∃ client disk client', handleCommand client disk choice = some (msg, client')

/-- The menu asks for a list or a file, or for nothing that is known; a file is missing exactly from
the request of choice 4. -/
theorem Sends.spec {choice : Int32} {msg : Message} (h : Sends choice msg) :
    msg.type ∈ [none, some .LOOKUP_STD, some .LOOKUP_FILES_OTHER, some .LOOKUP_FILES_SELF,
      some .FILE_REQUEST] ∧ (msg.type = some .FILE_REQUEST ∧ msg.file = none ↔ choice = 4) := by
  obtain ⟨client, disk, client', h⟩ := h
  simp only [handleCommand, Option.pure_def, Option.bind_eq_bind] at h
  by_cases h1 : choice = 1
  · rw [if_pos h1] at h
    cases h
    simp [h1]
  by_cases h2 : choice = 2
  · rw [if_neg h1, if_pos h2] at h
    obtain ⟨⟨userName, rest⟩, -, hmsg⟩ := Option.bind_eq_some_iff.1 h
    cases hmsg
    simp [h2]
  by_cases h3 : choice = 3
  · rw [if_neg h1, if_neg h2, if_pos h3] at h
    cases h
    simp [h3]
  by_cases h4 : choice = 4
  · rw [if_neg h1, if_neg h2, if_neg h3, if_pos h4] at h
    obtain ⟨⟨description, rest⟩, -, hmsg⟩ := Option.bind_eq_some_iff.1 h
    cases hmsg
    simp [h4]
  by_cases h5 : choice = 5
  · rw [if_neg h1, if_neg h2, if_neg h3, if_neg h4, if_pos h5] at h
    obtain ⟨⟨fileName, rest⟩, -, h⟩ := Option.bind_eq_some_iff.1 h
    obtain ⟨⟨privacy, rest⟩, -, h⟩ := Option.bind_eq_some_iff.1 h
    obtain ⟨⟨file, bytes⟩, -, hmsg⟩ := Option.bind_eq_some_iff.1 h
    cases hmsg
    simp [h5]
  · rw [if_neg h1, if_neg h2, if_neg h3, if_neg h4, if_neg h5] at h
    cases h
    simp [h4]

theorem Sends.type_ne {choice : Int32} {msg : Message} (h : Sends choice msg) :
    msg.type ≠ some .FILE_INIT ∧ msg.type ≠ some .REQUEST := by
  have htype := h.spec.1
  constructor
  · intro heq
    rw [heq] at htype
    simp at htype
  · intro heq
    rw [heq] at htype
    simp at htype

end Client

end NetSessional.FileServer
