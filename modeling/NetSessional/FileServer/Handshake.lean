import NetSessional.FileServer.UploadSteps

/-! How the two loops of an upload end. The client leaves its loop after as many responses as it has
chunks, and closes the socket; the handler answers the last chunk twice. Of a file without bytes there
is no last chunk, and the handler reads on until the stream ends. -/

namespace NetSessional.FileServer

open Schedules

/-- A file that a user has picked for an upload that the server accepts, with bytes or without. -/
structure AcceptedUpload where
  file : File
  bytes : Bytes
  rand : Fin (Server.MAX_CHUNK_SIZE - Server.MIN_CHUNK_SIZE)
  /-- it is a Java array -/
  small : bytes.length < 2 ^ 31

namespace AcceptedUpload

/-- The file in `FILE_ACCEPT`, and what the client makes of it. -/
def accepted (u : AcceptedUpload) : File :=
  { (u.file.load (some u.bytes)).1 with CHUNK_SIZE := Server.getChunkSize u.rand }

def chunks (u : AcceptedUpload) : List Chunk :=
  match u.accepted.split u.bytes with
  | .ok chunks => chunks
  | .error _ => []

/-- With bytes it is one of the uploads that run side by side. -/
def job (u : AcceptedUpload) (h : u.bytes ≠ []) : Job := ⟨u.file, u.bytes, u.rand, h, u.small⟩

theorem chunks_of_empty {u : AcceptedUpload} (h : u.bytes = []) : u.chunks = [] := by
  have hsize : Server.getChunkSize u.rand = Int32.ofNat (Server.MIN_CHUNK_SIZE + u.rand) := rfl
  have hrand := u.rand.isLt
  have hsplit : u.accepted.split u.bytes = .ok (blockChunks u.bytes (Server.MIN_CHUNK_SIZE + u.rand)) := by
    apply split_eq rfl rfl
    · simp [Server.MIN_CHUNK_SIZE]
    · simp only [Server.MIN_CHUNK_SIZE, Server.MAX_CHUNK_SIZE] at *
      omega
    · exact u.small
  unfold chunks
  rw [hsplit, h]
  simp [blockChunks, chunkCount, Server.MIN_CHUNK_SIZE]

end AcceptedUpload

/-- One upload up to the return of `handleFileUpload`. -/
structure Transfer where
  proc : Proc := {}
  server : Server
  saves : List (File × Bytes) := []
  /-- the loop of the handler has ended on a closed stream -/
  endOfStream : Bool := false

namespace Transfer

def start (server : Server) : Transfer := { server }

/-- A step of the handler while the stream goes on. -/
def handle (t : Transfer) : Option Transfer :=
  (t.proc.handlerStep t.server).map fun r =>
    { t with proc := r.1, server := r.2.1, saves := t.saves ++ r.2.2.toList }

/-- The read of the loop throws when the client has closed the stream and everything is read; the
exception is caught, and the loop left. -/
def handlerStep (t : Transfer) : Option Transfer :=
  match t.proc.handler with
  | .reading _ =>
    if t.proc.client = .closed ∧ t.proc.toHandler = [] then
      some { t with proc := { t.proc with handler := .done }, endOfStream := true }
    else t.handle
  | _ => t.handle

def step (u : AcceptedUpload) (t : Transfer) : Side → Option Transfer
  | .client => (t.proc.clientStep u.accepted u.chunks).map fun p => { t with proc := p }
  | .handler => t.handlerStep

structure Completes (t : Transfer) : Prop where
  /-- the client has read every response -/
  read : t.proc.toClient = []
  reported : (∃ m ∈ t.proc.received, m.type = some .FILE_UL_COMPLETE) ↔ t.saves ≠ []
  client : t.proc.client = .closed
  handler : t.proc.handler = .done
  /-- no loop ended on a closed stream -/
  stream : t.endOfStream = false

section Bytes
variable {u : AcceptedUpload} {t t' : Transfer}

/-- The two sides of an upload with bytes are in step, and the stream is open. -/
structure Going (job : Job) (t : Transfer) : Prop where
  inStep : Proc.InStep job t.proc
  stream : t.endOfStream = false

theorem going_handle {job : Job} (h : Going job t) (hs : t.handle = some t') :
    Going job t' ∧ t'.proc.left job < t.proc.left job := by
  obtain ⟨⟨p, server, save⟩, hp, rfl⟩ := Option.map_eq_some_iff.1 hs
  have hm := Proc.handlerStep_move h.inStep hp
  exact ⟨⟨Proc.inStep_handlerMove h.inStep hm, h.stream⟩, Proc.left_handlerMove hm⟩

/-- A client that has closed the stream has sent all chunks, so the handler is not in its loop when
it has read everything. -/
theorem not_atEnd {job : Job} {p : Proc} (h : Proc.InStep job p) {file : Option File}
    (hc : p.handler = .reading file) : ¬ (p.client = .closed ∧ p.toHandler = []) := by
  rintro ⟨hclient, hqueue⟩
  have hup := h.up.length
  have hok := h.handler
  rw [hc] at hok
  rw [hqueue] at hup
  simp only [Proc.taken, Proc.sent, hc, hclient, List.length_nil] at hup
  have hlt : p.chunks.length < job.chunks.length := hok.2
  omega

theorem handlerStep_eq_handle {job : Job} (h : Proc.InStep job t.proc) :
    t.handlerStep = t.handle := by
  unfold handlerStep
  split
  · next file hc => exact if_neg (not_atEnd h hc)
  · rfl

theorem going_step (hbytes : u.bytes ≠ []) (t : Transfer) (a : Side) (t' : Transfer)
    (h : Going (u.job hbytes) t) (hs : step u t a = some t') :
    Going (u.job hbytes) t' ∧ t'.proc.left (u.job hbytes) < t.proc.left (u.job hbytes) := by
  cases a with
  | client =>
    obtain ⟨p, hp, rfl⟩ := Option.map_eq_some_iff.1 hs
    have hm : Proc.ClientMove (u.job hbytes) t.proc p := Proc.clientStep_move h.inStep hp
    exact ⟨⟨Proc.inStep_clientMove h.inStep hm, h.stream⟩, Proc.left_clientMove hm⟩
  | handler =>
    change t.handlerStep = some t' at hs
    rw [handlerStep_eq_handle h.inStep] at hs
    exact going_handle h hs

theorem going_start (hbytes : u.bytes ≠ []) (server : Server) :
    Going (u.job hbytes) (start server) :=
  ⟨Proc.inStep_start _, rfl⟩

/-- At the end one response has not been read: the message that the upload is completed. -/
theorem unread_of_stuck (hbytes : u.bytes ≠ []) (h : Going (u.job hbytes) t)
    (hstuck : Stuck (step u) t) : t.proc.toClient ≠ [] := by
  have hin := h.inStep
  have hhandler : t.handle = none := by
    rw [← handlerStep_eq_handle hin]
    exact hstuck .handler
  obtain ⟨hclosed, hdone⟩ := Proc.finished_of_blocked hin
    (Option.map_eq_none_iff.1 (hstuck .client)) (Option.map_eq_none_iff.1 hhandler)
  have hdown := congrArg List.length hin.down
  have hreceived := hin.received
  have hok := hin.handler
  rw [hdone] at hok
  have hall : t.proc.chunks.length = (u.job hbytes).chunks.length := hok
  simp only [Proc.responses, hdone, List.length_append, List.length_replicate] at hdown
  simp only [Proc.answered, hclosed] at hreceived
  intro hempty
  rw [hempty, List.length_nil] at hdown
  omega

end Bytes

section Empty
variable {u : AcceptedUpload} {t : Transfer}

def init (u : AcceptedUpload) : Sent :=
  .message { type := some .FILE_INIT, file := some u.accepted }

/-- The states of an upload without bytes: what the client has done but for closing, and where the
handler waits. -/
def EmptyStage (u : AcceptedUpload) (t : Transfer) : Prop :=
  t.proc.client = .start ∧ t.proc.handler = .awaiting ∧ t.proc.toHandler = [] ∧
      t.endOfStream = false ∨
    (t.proc.client = .loop 0 ∨ t.proc.client = .closed) ∧ t.endOfStream = false ∧
      (t.proc.handler = .awaiting ∧ t.proc.toHandler = [init u] ∨
        t.proc.handler = .reading (some u.accepted) ∧ t.proc.toHandler = []) ∨
    t.proc.client = .closed ∧ t.proc.handler = .done ∧ t.endOfStream = true

def emptyLeft (t : Transfer) : ℕ :=
  (match t.proc.client with
    | .start => 2
    | .loop _ => 1
    | _ => 0) +
  (match t.proc.handler with
    | .awaiting => 2
    | .reading _ => 1
    | _ => 0)

theorem emptyStage_client (hempty : u.bytes = []) {t' : Transfer} (h : EmptyStage u t)
    (hs : step u t .client = some t') : EmptyStage u t' ∧ emptyLeft t' < emptyLeft t := by
  have hchunks := AcceptedUpload.chunks_of_empty hempty
  obtain ⟨p, hp, rfl⟩ := Option.map_eq_some_iff.1 hs
  rcases h with ⟨hc, hh, hq, he⟩ | ⟨hc | hc, he, hrest⟩ | ⟨hc, -, -⟩
  · simp only [Proc.clientStep, hc, Option.some.injEq] at hp
    subst hp
    refine ⟨Or.inr (Or.inl ⟨Or.inl rfl, he, Or.inl ⟨hh, ?_⟩⟩), by simp [emptyLeft, hc, hh]⟩
    simp [hq, init]
  · simp only [Proc.clientStep, hc, hchunks, List.getElem?_nil, Option.some.injEq] at hp
    subst hp
    exact ⟨Or.inr (Or.inl ⟨Or.inr rfl, he, hrest⟩), by simp [emptyLeft, hc]⟩
  · simp only [Proc.clientStep, hc] at hp
    cases hp
  · simp only [Proc.clientStep, hc] at hp
    cases hp

/-- The handler reads the `FILE_INIT`, and then waits for a chunk until the stream is closed. -/
theorem emptyStage_handler {t' : Transfer} (h : EmptyStage u t)
    (hs : step u t .handler = some t') : EmptyStage u t' ∧ emptyLeft t' < emptyLeft t := by
  change t.handlerStep = some t' at hs
  rcases h with ⟨-, hh, hq, -⟩ | ⟨hc, he, ⟨hh, hq⟩ | ⟨hh, hq⟩⟩ | ⟨-, hh, -⟩
  · simp [handlerStep, handle, Proc.handlerStep, hh, hq] at hs
  · simp only [handlerStep, handle, Proc.handlerStep, hh, hq, init, if_true, Option.map_some,
      Option.some.injEq] at hs
    subst hs
    refine ⟨Or.inr (Or.inl ⟨hc, he, Or.inr ⟨rfl, rfl⟩⟩), ?_⟩
    rcases hc with hc | hc
    · simp [emptyLeft, hc, hh]
    · simp [emptyLeft, hc, hh]
  · rcases hc with hc | hc
    · simp [handlerStep, handle, Proc.handlerStep, hh, hq, hc] at hs
    · simp only [handlerStep, hh, hq, hc, and_self, if_true, Option.some.injEq] at hs
      subst hs
      exact ⟨Or.inr (Or.inr ⟨rfl, rfl, rfl⟩), by simp [emptyLeft, hc, hh]⟩
  · simp [handlerStep, handle, Proc.handlerStep, hh] at hs

theorem emptyStage_step (hempty : u.bytes = []) (t : Transfer) (a : Side) (t' : Transfer)
    (h : EmptyStage u t) (hs : step u t a = some t') :
    EmptyStage u t' ∧ emptyLeft t' < emptyLeft t := by
  cases a with
  | client => exact emptyStage_client hempty h hs
  | handler => exact emptyStage_handler h hs

theorem emptyStage_start (u : AcceptedUpload) (server : Server) : EmptyStage u (start server) :=
  Or.inl ⟨rfl, rfl, rfl, rfl⟩

theorem endOfStream_of_stuck (hempty : u.bytes = []) (h : EmptyStage u t)
    (hstuck : Stuck (step u) t) : t.endOfStream = true := by
  have hchunks := AcceptedUpload.chunks_of_empty hempty
  have hclient := Option.map_eq_none_iff.1 (hstuck .client)
  have hhandler : t.handlerStep = none := hstuck .handler
  rcases h with ⟨hc, -, -, -⟩ | ⟨hc, -, ⟨hh, hq⟩ | ⟨hh, hq⟩⟩ | ⟨-, -, he⟩
  · simp [Proc.clientStep, hc] at hclient
  · simp [handlerStep, handle, Proc.handlerStep, hh, hq, init] at hhandler
  · rcases hc with hc | hc
    · simp [Proc.clientStep, hc, hchunks] at hclient
    · simp [handlerStep, hh, hq, hc] at hhandler
  · exact he

end Empty

theorem exists_end (u : AcceptedUpload) (server : Server) :
    ∃ schedule t, exec (step u) (start server) schedule = some t ∧ Stuck (step u) t := by
  by_cases hbytes : u.bytes = []
  · exact exists_stuck (fun t a t' h hs => (emptyStage_step hbytes t a t' h hs).1)
      (fun t a t' h hs => (emptyStage_step hbytes t a t' h hs).2) (emptyStage_start u server)
  · exact exists_stuck (fun t a t' h hs => (going_step hbytes t a t' h hs).1)
      (fun t a t' h hs => (going_step hbytes t a t' h hs).2) (going_start hbytes server)

theorem not_completes_of_end {u : AcceptedUpload} {server : Server} {schedule : List Side}
    {t : Transfer} (h : exec (step u) (start server) schedule = some t)
    (hstuck : Stuck (step u) t) : ¬ Completes t := by
  intro hdone
  by_cases hbytes : u.bytes = []
  · have hstage := exec_invariant (fun t a t' h hs => (emptyStage_step hbytes t a t' h hs).1)
      (emptyStage_start u server) h
    have hend := endOfStream_of_stuck hbytes hstage hstuck
    rw [hdone.stream] at hend
    cases hend
  · have hgoing := exec_invariant (fun t a t' h hs => (going_step hbytes t a t' h hs).1)
      (going_start hbytes server) h
    exact unread_of_stuck hbytes hgoing hstuck hdone.read

/-- For no upload and no schedule do the two loops end as they should; and every upload comes to an
end. -/
theorem never_completes (u : AcceptedUpload) (server : Server) :
    (∃ schedule t, exec (step u) (start server) schedule = some t ∧ Stuck (step u) t) ∧
      ∀ schedule t, exec (step u) (start server) schedule = some t → Stuck (step u) t →
        ¬ Completes t :=
  ⟨exists_end u server, fun _ _ => not_completes_of_end⟩

def oneByte : AcceptedUpload := ⟨{ owner := some "u" }, [1], ⟨0, Server.chunkSizes_pos⟩, by decide⟩

def noBytes : AcceptedUpload := ⟨{ owner := some "u" }, [], ⟨0, Server.chunkSizes_pos⟩, by decide⟩

theorem uploads_not_completed :
    (¬ ∀ schedule t, exec (step oneByte) (start {}) schedule = some t → Stuck (step oneByte) t →
        Completes t) ∧
      ¬ ∀ schedule t, exec (step noBytes) (start {}) schedule = some t → Stuck (step noBytes) t →
        Completes t := by
  refine ⟨fun hall => ?_, fun hall => ?_⟩
  · obtain ⟨schedule, t, hexec, hstuck⟩ := exists_end oneByte {}
    exact not_completes_of_end hexec hstuck (hall schedule t hexec hstuck)
  · obtain ⟨schedule, t, hexec, hstuck⟩ := exists_end noBytes {}
    exact not_completes_of_end hexec hstuck (hall schedule t hexec hstuck)

end Transfer

end NetSessional.FileServer
