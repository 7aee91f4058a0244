import NetSessional.Lib.Binary64

/-! The package `Utils` of the file server: the objects the two sides exchange, and the chunking
of a file. A Java reference that may be null is an `Option`; `int` is `Int32`, with Java's
wrap-around. -/

namespace NetSessional.FileServer

/-- A reference to a `String`, null included: user names, texts, file names. -/
abbrev Name := Option String

abbrev Bytes := List UInt8

/-- The unchecked exceptions that modelled code can raise. -/
inductive JavaException where
  | nullPointer
  | classCast
  | negativeArraySize
  | illegalArgument
  | arrayIndexOutOfBounds
  deriving DecidableEq, Repr

/-- String concatenation prints a null reference as `null`. -/
def Name.text (n : Name) : String := n.getD "null"

inductive MessageType where
  | LOGIN_REQUEST | LOGIN_OK | LOGIN_FAIL | LOOKUP_STD | SERVER_RESPONSE | LOOKUP_FILES_OTHER
  | LOOKUP_FILES_SELF | FILE_REQUEST | FILE_LIST | REQUEST | FILE_ACCEPT | FILE_REJECT
  | FILE_UL_COMPLETE | BUFFER_FULL | UNREAD_MESSAGE | ANNOUNCE | LOGOUT | CHUNK_RECEIVED
  | FILE_TIMEOUT | FILE_INIT | FILE_DL | ERROR | BROADCAST
  deriving DecidableEq, Repr

structure Request where
  description : Name := none
  number : Int32 := 0
  deriving DecidableEq, Repr

structure Chunk where
  /-- the array, or null -/
  bytes : Option Bytes
  chunkNo : Int32
  totalChunks : Int32
  chunkSize : Int32
  deriving DecidableEq, Repr

structure File where
  fileName : Name := none
  owner : Name := none
  isPublic : Bool := false
  CHUNK_SIZE : Int32 := 0
  fileSize : Int32 := 0
  deriving DecidableEq, Repr

structure Message where
  type : Option MessageType := none
  user : Name := none
  file : Option File := none
  text : Name := none
  request : Option Request := none
  deriving DecidableEq, Repr

/-- `ArrayList.toString` over the elements' own `toString`. -/
def arrayListToString (items : List String) : String := "[" ++ ", ".intercalate items ++ "]"

def File.toString (f : File) : String :=
  "File\x7bfileName='" ++ f.fileName.text ++ "', owner='" ++ f.owner.text ++
    "', isPublic=" ++ (if f.isPublic then "true" else "false") ++
    ", CHUNK_SIZE=" ++ ToString.toString f.CHUNK_SIZE.toInt ++
    ", fileSize=" ++ ToString.toString f.fileSize.toInt ++ "\x7d\n"

/-- `load` of a file with these contents: an unreadable file loads as no bytes. -/
def File.load (f : File) (contents : Option Bytes) : File × Bytes :=
  let array := contents.getD []
  ({ f with fileSize := Int32.ofNat array.length }, array)

def Math.min (a b : Int32) : Int32 := if a ≤ b then a else b

/-- `(int) Math.ceil(a*1.0/b)`: the division is done in `double`, and the cast of a number out of
range saturates. Dividing by zero gives an infinity, or NaN, which casts to 0. -/
def ceilQuotient (a b : Int32) : Int32 :=
  if b = 0 then
    if a = 0 then 0 else if 0 < a then Int32.maxValue else Int32.minValue
  else Int32.ofIntClamp ⌈Binary64.round ((a.toInt : ℚ) / b.toInt)⌉

/-- `Arrays.copyOfRange`: the part past the end of the array is filled with zeros. -/
def copyOfRange (array : Bytes) (start stop : Int32) : Except JavaException Bytes :=
  if stop < start then .error .illegalArgument
  else if start < 0 ∨ Int32.ofNat array.length < start then .error .arrayIndexOutOfBounds
  else
    let len := (stop.toInt - start.toInt).toNat
    let part := (array.drop start.toInt.toNat).take len
    .ok (part ++ List.replicate (len - part.length) 0)

/-- The loop of `split`: `n` iterations are left, the next one has index `i`. -/
def File.splitLoop (f : File) (array : Bytes) (totalChunks : Int32) :
    ℕ → Int32 → Int32 → Except JavaException (List Chunk)
  | 0, _, _ => .ok []
  | n + 1, i, start =>
    let size := Math.min f.CHUNK_SIZE (Int32.ofNat array.length - i * f.CHUNK_SIZE)
    if size < 0 then .error .negativeArraySize
    else do
      let ret ← copyOfRange array start (start + size)
      let rest ← f.splitLoop array totalChunks n (i + 1) (start + f.CHUNK_SIZE)
      return ⟨some ret, i + 1, totalChunks, size⟩ :: rest

def File.split (f : File) (array : Bytes) : Except JavaException (List Chunk) :=
  let totalChunks := ceilQuotient f.fileSize f.CHUNK_SIZE
  if totalChunks < 0 then .error .negativeArraySize
  else f.splitLoop array totalChunks totalChunks.toInt.toNat 0 0

/-- `join` appends every chunk to a `ByteArrayOutputStream`; writing null bytes throws. -/
def File.join (_ : File) (chunkArray : List Chunk) : Except JavaException Bytes :=
  match chunkArray.mapM Chunk.bytes with
  | none => .error .nullPointer
  | some parts => .ok parts.flatten

/-- What `file.join(chunkArray)` gives, and the file, unless something is null. -/
def joined (file : Option File) (chunkArray : List Chunk) : Option (File × Bytes) :=
  match file with
  | none => none
  | some f =>
    match f.join chunkArray with
    | .error _ => none
    | .ok bytes => some (f, bytes)

theorem joined_eq_some {file : Option File} {chunkArray : List Chunk} {f : File} {bytes : Bytes} :
    joined file chunkArray = some (f, bytes) ↔ file = some f ∧ f.join chunkArray = .ok bytes := by
  unfold joined
  cases file with
  | none => simp
  | some g =>
    dsimp only
    refine ⟨fun h => ?_, ?_⟩
    · split at h
      · cases h
      · next hbytes =>
        cases h
        exact ⟨rfl, hbytes⟩
    · rintro ⟨⟨⟩, hbytes⟩
      simp only [hbytes]

end NetSessional.FileServer
