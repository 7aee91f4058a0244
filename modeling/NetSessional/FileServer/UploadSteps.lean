import NetSessional.FileServer.Upload

/-! One upload, step by step: its two sides keep in step because each read of the one waits for a
write of the other. -/

namespace NetSessional.FileServer

open Schedules

namespace Job
variable (job : Job)

def size : ℕ := Server.MIN_CHUNK_SIZE + job.rand

theorem size_pos : 0 < job.size := by
  simp [size, Server.MIN_CHUNK_SIZE]

theorem size_lt : job.size < 2 ^ 31 := by
  have := job.rand.isLt
  simp only [size, Server.MIN_CHUNK_SIZE, Server.MAX_CHUNK_SIZE] at *
  omega

theorem split_accepted : job.accepted.split job.bytes = .ok (blockChunks job.bytes job.size) :=
  split_eq rfl rfl job.size_pos job.size_lt job.small

theorem chunks_eq : job.chunks = blockChunks job.bytes job.size := by
  simp only [chunks, split_accepted]

theorem join_chunks (f : File) : f.join job.chunks = .ok job.bytes := by
  rw [chunks_eq]
  exact join_blockChunks f job.bytes job.size_pos

theorem length_chunks : job.chunks.length = chunkCount job.bytes.length job.size := by
  rw [chunks_eq, length_blockChunks]

theorem chunks_pos : 0 < job.chunks.length := by
  rw [length_chunks]
  exact chunkCount_pos job.size_pos (List.length_pos_of_ne_nil job.nonempty)

theorem last_chunk_iff {i : ℕ} {chunk : Chunk} (h : job.chunks[i]? = some chunk) :
    chunk.chunkNo = chunk.totalChunks ↔ i + 1 = job.chunks.length := by
  have hle := chunkCount_le (n := job.bytes.length) job.size_pos
  have hsmall := job.small
  rw [length_chunks]
  rw [chunks_eq, blockChunks, List.getElem?_map, Option.map_eq_some_iff] at h
  obtain ⟨j, hj, rfl⟩ := h
  obtain ⟨hlt, hji⟩ := List.getElem?_eq_some_iff.1 hj
  rw [List.getElem_range] at hji
  subst hji
  rw [List.length_range] at hlt
  exact chunkAt_last_iff hlt (by omega)

def sends : List Sent :=
  .message { type := some .FILE_INIT, file := some job.accepted } :: job.chunks.map .chunk

theorem sends_succ (i : ℕ) : job.sends[i + 1]? = job.chunks[i]?.map .chunk := by
  simp [sends]

end Job

def ack : Message := { type := some .CHUNK_RECEIVED }

def HandlerPc.added : HandlerPc → Bool
  | .saving _ _ => true
  | .done => true
  | _ => false

def HandlerPc.collects : HandlerPc → Bool
  | .awaiting => true
  | .reading _ => true
  | .responding _ _ => true
  | _ => false

namespace Proc

def sent (p : Proc) (k : ℕ) : ℕ :=
  match p.client with
  | .start => 0
  | .loop i => i + 1
  | .reading i => i + 2
  | .closed => k + 1

def answered (p : Proc) (k : ℕ) : ℕ :=
  match p.client with
  | .start => 0
  | .loop i => i
  | .reading i => i
  | .closed => k

def taken (p : Proc) : ℕ :=
  match p.handler with
  | .awaiting => 0
  | .responding _ _ => p.chunks.length + 2
  | _ => p.chunks.length + 1

def responses (p : Proc) : ℕ :=
  match p.handler with
  | .adding _ => p.chunks.length + 1
  | .saving _ _ => p.chunks.length + 1
  | .done => p.chunks.length + 1
  | _ => p.chunks.length

def ClientOk (k : ℕ) : ClientPc → Prop
  | .start => True
  | .loop i => i ≤ k
  | .reading i => i < k
  | .closed => True

/-- Where the handler of `job` can be when it has collected `n` chunks. -/
def HandlerOk (job : Job) (n : ℕ) : HandlerPc → Prop
  | .awaiting => n = 0
  | .reading file => file = some job.accepted ∧ n < job.chunks.length
  | .responding file chunk => file = some job.accepted ∧ job.chunks[n]? = some chunk
  | .completing file => file = some job.accepted ∧ n = job.chunks.length
  | .adding file => file = some job.accepted ∧ n = job.chunks.length
  | .saving file bytes => file = job.accepted ∧ bytes = job.bytes ∧ n = job.chunks.length
  | .done => n = job.chunks.length
  | .dead => False

structure InStep (job : Job) (p : Proc) : Prop where
  client : ClientOk job.chunks.length p.client
  handler : HandlerOk job p.chunks.length p.handler
  chunks : p.chunks = job.chunks.take p.chunks.length
  up : Fifo job.sends p.taken p.toHandler (p.sent job.chunks.length)
  down : p.received ++ p.toClient = List.replicate p.responses ack
  received : p.received.length = p.answered job.chunks.length
  written : p.written = if p.responses = 0 then none else some ack

theorem inStep_start (job : Job) : InStep job {} := by
  refine ⟨?_, ?_, ?_, ?_, ?_, ?_, ?_⟩ <;>
    simp [ClientOk, HandlerOk, taken, sent, responses, answered, Fifo]

theorem respond_eq {p : Proc} {n : ℕ} (hw : p.written = if n = 0 then none else some ack)
    {response : Message} (hfirst : n = 0 → response = ack) :
    p.respond response = { p with toClient := p.toClient ++ [ack], written := some ack } := by
  unfold respond
  by_cases hn : n = 0
  · rw [if_pos hn] at hw
    simp [hw, hfirst hn]
  · rw [if_neg hn] at hw
    simp [hw]

/-- What a step of the client is while the two sides are in step. -/
inductive ClientMove (job : Job) (p : Proc) : Proc → Prop
  | init (hc : p.client = .start) :
    ClientMove job p { p with
      client := .loop 0
      toHandler := p.toHandler ++ [.message { type := some .FILE_INIT, file := some job.accepted }] }
  | send {i : ℕ} {chunk : Chunk} (hc : p.client = .loop i) (hchunk : job.chunks[i]? = some chunk) :
    ClientMove job p { p with client := .reading i, toHandler := p.toHandler ++ [.chunk chunk] }
  | close {i : ℕ} (hc : p.client = .loop i) (hi : i = job.chunks.length) :
    ClientMove job p { p with client := .closed }
  | read {i : ℕ} {toClient : List Message} (hc : p.client = .reading i)
      (hi : i < job.chunks.length) (hq : p.toClient = ack :: toClient) :
    ClientMove job p { p with toClient, received := p.received ++ [ack], client := .loop (i + 1) }

theorem clientStep_move {job : Job} {p p' : Proc} (h : InStep job p)
    (hs : p.clientStep job.accepted job.chunks = some p') : ClientMove job p p' := by
  have hclient := h.client
  unfold clientStep at hs
  cases hc : p.client with
  | closed => simp [hc] at hs
  | start =>
    simp only [hc, Option.some.injEq] at hs
    subst hs
    exact .init hc
  | loop i =>
    cases hx : job.chunks[i]? with
    | some chunk =>
      simp only [hc, hx, Option.some.injEq] at hs
      subst hs
      exact .send hc hx
    | none =>
      simp only [hc, hx, Option.some.injEq] at hs
      subst hs
      rw [hc] at hclient
      exact .close hc (le_antisymm hclient (List.getElem?_eq_none_iff.1 hx))
  | reading i =>
    cases hq : p.toClient with
    | nil => simp [hc, hq] at hs
    | cons response toClient =>
      have hdown := h.down
      rw [hq] at hdown
      have hack : response = ack :=
        List.eq_of_mem_replicate (hdown ▸ List.mem_append_right _ List.mem_cons_self)
      have htype : ack.type ≠ some .ERROR := by decide
      subst hack
      simp only [hc, hq, htype, if_false, Option.some.injEq] at hs
      subst hs
      rw [hc] at hclient
      exact .read hc hclient hq

/-- What a step of the handler is while the two sides are in step: the new state, the server and
the call of `save`. -/
inductive HandlerMove (job : Job) (server : Server) (p : Proc) :
    Proc → Server → Option (File × Bytes) → Prop
  | init {toHandler : List Sent} (hc : p.handler = .awaiting) (hn : p.chunks.length = 0)
      (hq : p.toHandler =
        .message { type := some .FILE_INIT, file := some job.accepted } :: toHandler) :
    HandlerMove job server p { p with toHandler, handler := .reading (some job.accepted) } server
      none
  | read {chunk : Chunk} {toHandler : List Sent} (hc : p.handler = .reading (some job.accepted))
      (hchunk : job.chunks[p.chunks.length]? = some chunk)
      (hq : p.toHandler = .chunk chunk :: toHandler) :
    HandlerMove job server p { p with toHandler, handler := .responding (some job.accepted) chunk }
      server none
  | more {chunk : Chunk} (hc : p.handler = .responding (some job.accepted) chunk)
      (hchunk : job.chunks[p.chunks.length]? = some chunk)
      (hn : p.chunks.length + 1 < job.chunks.length) :
    HandlerMove job server p { p with
      toClient := p.toClient ++ [ack]
      written := some ack
      chunks := p.chunks ++ [chunk]
      handler := .reading (some job.accepted) } server none
  | last {chunk : Chunk} (hc : p.handler = .responding (some job.accepted) chunk)
      (hchunk : job.chunks[p.chunks.length]? = some chunk)
      (hn : p.chunks.length + 1 = job.chunks.length) :
    HandlerMove job server p { p with
      toClient := p.toClient ++ [ack]
      written := some ack
      chunks := p.chunks ++ [chunk]
      handler := .completing (some job.accepted) } server none
  | complete (hc : p.handler = .completing (some job.accepted))
      (hn : p.chunks.length = job.chunks.length) :
    HandlerMove job server p { p with
      toClient := p.toClient ++ [ack]
      written := some ack
      handler := .adding (some job.accepted) } server none
  | add (hc : p.handler = .adding (some job.accepted)) (hn : p.chunks.length = job.chunks.length) :
    HandlerMove job server p { p with handler := .saving job.accepted job.bytes }
      (server.addFile job.file.owner job.accepted) none
  | save (hc : p.handler = .saving job.accepted job.bytes)
      (hn : p.chunks.length = job.chunks.length) :
    HandlerMove job server p { p with handler := .done } server (some (job.accepted, job.bytes))

/-- The handler reads what the client wrote, in order, and each response is written as an
acknowledgement. -/
theorem handlerStep_move {job : Job} {p p' : Proc} {server server' : Server}
    {save : Option (File × Bytes)} (h : InStep job p)
    (hs : p.handlerStep server = some (p', server', save)) :
    HandlerMove job server p p' server' save := by
  have hhandler := h.handler
  have hup := h.up
  have hwritten := h.written
  unfold handlerStep at hs
  cases hc : p.handler with
  | done => simp [hc] at hs
  | dead => simp [hc] at hs
  | awaiting =>
    rw [hc] at hhandler
    cases hq : p.toHandler with
    | nil => simp [hc, hq] at hs
    | cons x toHandler =>
      simp only [taken, hc, hq] at hup
      obtain rfl : _ = x := Option.some.inj hup.read.1
      simp only [hc, hq, if_true, Option.some.injEq, Prod.mk.injEq] at hs
      obtain ⟨rfl, rfl, rfl⟩ := hs
      exact .init hc hhandler hq
  | reading file =>
    rw [hc] at hhandler
    obtain ⟨rfl, -⟩ := hhandler
    cases hq : p.toHandler with
    | nil => simp [hc, hq] at hs
    | cons x toHandler =>
      simp only [taken, hc, hq] at hup
      have hx := hup.read.1
      rw [job.sends_succ, Option.map_eq_some_iff] at hx
      obtain ⟨chunk, hchunk, rfl⟩ := hx
      simp only [hc, hq, Option.some.injEq, Prod.mk.injEq] at hs
      obtain ⟨rfl, rfl, rfl⟩ := hs
      exact .read hc hchunk hq
  | responding file chunk =>
    simp only [responses, hc] at hwritten
    rw [hc] at hhandler
    obtain ⟨rfl, hchunk⟩ := hhandler
    have hlast := job.last_chunk_iff hchunk
    have hlt := (List.getElem?_eq_some_iff.1 hchunk).1
    have hack : p.respond { type := some .CHUNK_RECEIVED } = _ := respond_eq hwritten fun _ => rfl
    simp only [hc, hack] at hs
    split_ifs at hs with htest
    · obtain ⟨rfl, rfl, rfl⟩ := Option.some.inj hs
      exact .last hc hchunk (hlast.1 htest)
    · obtain ⟨rfl, rfl, rfl⟩ := Option.some.inj hs
      exact .more hc hchunk (lt_of_le_of_ne hlt fun heq => htest (hlast.2 heq))
  | completing file =>
    simp only [responses, hc] at hwritten
    rw [hc] at hhandler
    obtain ⟨rfl, hn⟩ := hhandler
    have hpos := job.chunks_pos
    -- there was a chunk, so this is not the first response
    have hack : p.respond { text := some "File upload completed!", type := some .FILE_UL_COMPLETE }
        = _ := respond_eq hwritten fun hzero => absurd hzero (by omega)
    simp only [hc, hack, Option.some.injEq, Prod.mk.injEq] at hs
    obtain ⟨rfl, rfl, rfl⟩ := hs
    exact .complete hc hn
  | adding file =>
    rw [hc] at hhandler
    obtain ⟨rfl, hn⟩ := hhandler
    have hjoin : joined (some job.accepted) p.chunks = some (job.accepted, job.bytes) := by
      refine joined_eq_some.2 ⟨rfl, ?_⟩
      rw [h.chunks, hn, List.take_length, job.join_chunks]
    simp only [hc, hjoin, Option.some.injEq, Prod.mk.injEq] at hs
    obtain ⟨rfl, rfl, rfl⟩ := hs
    exact .add hc hn
  | saving file bytes =>
    rw [hc] at hhandler
    obtain ⟨rfl, rfl, hn⟩ := hhandler
    simp only [hc, Option.some.injEq, Prod.mk.injEq] at hs
    obtain ⟨rfl, rfl, rfl⟩ := hs
    exact .save hc hn

theorem inStep_clientMove {job : Job} {p p' : Proc} (h : InStep job p) (hm : ClientMove job p p') :
    InStep job p' := by
  have hup := h.up
  have hreceived := h.received
  cases hm with
  | init hc =>
    simp only [sent, hc] at hup
    simp only [answered, hc] at hreceived
    exact ⟨Nat.zero_le _, h.handler, h.chunks, hup.write rfl, h.down, hreceived, h.written⟩
  | @send i chunk hc hchunk =>
    simp only [sent, hc] at hup
    simp only [answered, hc] at hreceived
    have hsend : job.sends[i + 1]? = some (.chunk chunk) := by
      rw [job.sends_succ, hchunk]
      rfl
    exact ⟨(List.getElem?_eq_some_iff.1 hchunk).1, h.handler, h.chunks, hup.write hsend, h.down,
      hreceived, h.written⟩
  | close hc hi =>
    subst hi
    simp only [sent, hc] at hup
    simp only [answered, hc] at hreceived
    exact ⟨trivial, h.handler, h.chunks, hup, h.down, hreceived, h.written⟩
  | @read i toClient hc hi hq =>
    simp only [sent, hc] at hup
    simp only [answered, hc] at hreceived
    have hread : p.received ++ [ack] ++ toClient = List.replicate p.responses ack := by
      rw [← h.down, hq, List.append_assoc]
      rfl
    exact ⟨hi, h.handler, h.chunks, hup, hread, by simp [hreceived, answered], h.written⟩

theorem collected {job : Job} {p : Proc} (h : InStep job p) {chunk : Chunk}
    (hc : p.handler = .responding (some job.accepted) chunk)
    (hchunk : job.chunks[p.chunks.length]? = some chunk) :
    p.chunks ++ [chunk] = job.chunks.take (p.chunks ++ [chunk]).length ∧
      Fifo job.sends ((p.chunks ++ [chunk]).length + 1) p.toHandler (p.sent job.chunks.length) ∧
      p.received ++ (p.toClient ++ [ack]) = List.replicate (p.chunks ++ [chunk]).length ack ∧
      some ack = if (p.chunks ++ [chunk]).length = 0 then none else some ack := by
  have hup := h.up
  have hdown := h.down
  simp only [taken, hc] at hup
  simp only [responses, hc] at hdown
  have hlen : (p.chunks ++ [chunk]).length = p.chunks.length + 1 := List.length_append
  rw [hlen]
  refine ⟨?_, hup, ?_, (if_neg (Nat.succ_ne_zero _)).symm⟩
  · rw [List.take_add_one, hchunk, ← h.chunks]
    rfl
  · rw [← List.append_assoc, hdown, List.replicate_succ']

theorem inStep_handlerMove {job : Job} {p p' : Proc} {server server' : Server}
    {save : Option (File × Bytes)} (h : InStep job p)
    (hm : HandlerMove job server p p' server' save) : InStep job p' := by
  have hup := h.up
  have hdown := h.down
  have hwritten := h.written
  cases hm with
  | @init toHandler hc hn hq =>
    simp only [taken, hc, hq] at hup
    simp only [responses, hc] at hdown hwritten
    have hrest : Fifo job.sends (p.chunks.length + 1) toHandler (p.sent job.chunks.length) := by
      rw [hn]
      exact hup.read.2
    exact ⟨h.client, ⟨rfl, hn ▸ job.chunks_pos⟩, h.chunks, hrest, hdown, h.received, hwritten⟩
  | read hc hchunk hq =>
    simp only [taken, hc, hq] at hup
    simp only [responses, hc] at hdown hwritten
    exact ⟨h.client, ⟨rfl, hchunk⟩, h.chunks, hup.read.2, hdown, h.received, hwritten⟩
  | more hc hchunk hn =>
    obtain ⟨hchunks, hup', hdown', hwritten'⟩ := collected h hc hchunk
    exact ⟨h.client, ⟨rfl, by simpa using hn⟩, hchunks, hup', hdown', h.received, hwritten'⟩
  | last hc hchunk hn =>
    obtain ⟨hchunks, hup', hdown', hwritten'⟩ := collected h hc hchunk
    exact ⟨h.client, ⟨rfl, by simpa using hn⟩, hchunks, hup', hdown', h.received, hwritten'⟩
  | complete hc hn =>
    simp only [taken, hc] at hup
    simp only [responses, hc] at hdown
    have hdown' : p.received ++ (p.toClient ++ [ack]) =
        List.replicate (p.chunks.length + 1) ack := by
      rw [← List.append_assoc, hdown, List.replicate_succ']
    exact ⟨h.client, ⟨rfl, hn⟩, h.chunks, hup, hdown', h.received, by simp [responses]⟩
  | add hc hn =>
    simp only [taken, hc] at hup
    simp only [responses, hc] at hdown hwritten
    exact ⟨h.client, ⟨rfl, rfl, hn⟩, h.chunks, hup, hdown, h.received, hwritten⟩
  | save hc hn =>
    simp only [taken, hc] at hup
    simp only [responses, hc] at hdown hwritten
    exact ⟨h.client, hn, h.chunks, hup, hdown, h.received, hwritten⟩

def clientLeft (k : ℕ) : ClientPc → ℕ
  | .start => 2 * k + 2
  | .loop i => 2 * (k - i) + 1
  | .reading i => 2 * (k - i)
  | .closed => 0

def handlerLeft (k n : ℕ) : HandlerPc → ℕ
  | .awaiting => 2 * k + 4
  | .reading _ => 2 * (k - n) + 3
  | .responding _ _ => 2 * (k - n) + 2
  | .completing _ => 3
  | .adding _ => 2
  | .saving _ _ => 1
  | .done => 0
  | .dead => 0

def left (job : Job) (p : Proc) : ℕ :=
  clientLeft job.chunks.length p.client + handlerLeft job.chunks.length p.chunks.length p.handler

theorem left_clientMove {job : Job} {p p' : Proc} (hm : ClientMove job p p') :
    p'.left job < p.left job := by
  cases hm with
  | init hc => simp [left, clientLeft, hc]
  | send hc hchunk => simp [left, clientLeft, hc]
  | close hc hi => simp [left, clientLeft, hc]
  | read hc hi hq =>
    simp only [left, clientLeft, hc]
    omega

theorem left_handlerMove {job : Job} {p p' : Proc} {server server' : Server}
    {save : Option (File × Bytes)} (hm : HandlerMove job server p p' server' save) :
    p'.left job < p.left job := by
  cases hm with
  | init hc hn hq => simp [left, handlerLeft, hc]
  | read hc hchunk hq => simp [left, handlerLeft, hc]
  | more hc hchunk hn =>
    simp only [left, handlerLeft, hc, List.length_append, List.length_singleton]
    omega
  | last hc hchunk hn =>
    simp only [left, handlerLeft, hc]
    omega
  | complete hc hn => simp [left, handlerLeft, hc]
  | add hc hn => simp [left, handlerLeft, hc]
  | save hc hn => simp [left, handlerLeft, hc]

/-- What a step of a handler does to what it shares with the others: it enters its own file into
the table, or saves its own bytes, or leaves everything alone. -/
theorem handlerMove_shared {job : Job} {p p' : Proc} {server server' : Server}
    {save : Option (File × Bytes)} (hm : HandlerMove job server p p' server' save) :
    (p.handler.added = false ∧ p'.handler = .saving job.accepted job.bytes ∧
        server' = server.addFile job.file.owner job.accepted ∧ save = none) ∨
      (p.handler = .saving job.accepted job.bytes ∧ p'.handler = .done ∧ server' = server ∧
        save = some (job.accepted, job.bytes)) ∨
      (p.handler.added = false ∧ p'.handler.added = false ∧ server' = server ∧ save = none) := by
  cases hm with
  | add hc hn => exact Or.inl ⟨by rw [hc]; rfl, rfl, rfl, rfl⟩
  | save hc hn => exact Or.inr (Or.inl ⟨hc, rfl, rfl, rfl⟩)
  | _ hc => exact Or.inr (Or.inr ⟨by rw [hc]; rfl, rfl, rfl, rfl⟩)

theorem clientMove_handler {job : Job} {p p' : Proc} (hm : ClientMove job p p') :
    p'.handler = p.handler := by
  cases hm <;> rfl

theorem clientStep_eq_none {file : File} {chunks : List Chunk} {p : Proc}
    (h : p.clientStep file chunks = none) :
    p.client = .closed ∨ ∃ i, p.client = .reading i ∧ p.toClient.length = 0 := by
  unfold clientStep at h
  cases hc : p.client with
  | start => simp [hc] at h
  | loop i => cases hx : chunks[i]? <;> simp [hc, hx] at h
  | closed => exact Or.inl rfl
  | reading i =>
    cases hq : p.toClient with
    | nil => exact Or.inr ⟨i, rfl, rfl⟩
    | cons response toClient =>
      simp only [hc, hq] at h
      split_ifs at h

theorem handlerStep_eq_none {job : Job} {p : Proc} {server : Server} (h : InStep job p)
    (hnone : p.handlerStep server = none) :
    p.handler = .done ∨ p.toHandler.length = 0 ∧
      (p.handler = .awaiting ∨ ∃ file, p.handler = .reading file) := by
  have hok := h.handler
  unfold handlerStep at hnone
  cases hc : p.handler with
  | done => exact Or.inl rfl
  | dead =>
    rw [hc] at hok
    exact hok.elim
  | awaiting =>
    cases hq : p.toHandler with
    | nil => exact Or.inr ⟨rfl, Or.inl rfl⟩
    | cons x toHandler =>
      cases x <;> simp only [hc, hq] at hnone <;> try split_ifs at hnone
      all_goals cases hnone
  | reading file =>
    cases hq : p.toHandler with
    | nil => exact Or.inr ⟨rfl, Or.inr ⟨file, rfl⟩⟩
    | cons x toHandler => cases x <;> simp [hc, hq] at hnone
  | responding file chunk =>
    simp only [hc] at hnone
    split_ifs at hnone
  | completing file => simp [hc] at hnone
  | adding file => cases hj : joined file p.chunks <;> simp [hc, hj] at hnone
  | saving file bytes => simp [hc] at hnone

/-- When neither side can step, both are through: the counts of objects written and read leave no
room for two sides that wait for each other. -/
theorem finished_of_blocked {job : Job} {p : Proc} {server : Server} (h : InStep job p)
    (hclient : p.clientStep job.accepted job.chunks = none)
    (hhandler : p.handlerStep server = none) :
    p.client = .closed ∧ p.handler = .done := by
  have hpos := job.chunks_pos
  have hup := h.up.length
  have hdown := congrArg List.length h.down
  have hreceived := h.received
  have hok := h.client
  have hok' := h.handler
  rw [List.length_append, List.length_replicate] at hdown
  have hh := handlerStep_eq_none h hhandler
  rcases clientStep_eq_none hclient with hc | ⟨i, hc, hempty⟩
  · refine ⟨hc, ?_⟩
    simp only [sent, answered, hc] at hup hreceived
    rcases hh with hh | ⟨hnone, hh | ⟨file, hh⟩⟩
    · exact hh
    · simp only [taken, hh] at hup
      omega
    · rw [hh] at hok'
      have hlt : p.chunks.length < job.chunks.length := hok'.2
      simp only [taken, hh] at hup
      omega
  · rw [hc] at hok
    have hi : i < job.chunks.length := hok
    simp only [sent, answered, hc] at hup hreceived
    rcases hh with hh | ⟨hnone, hh | ⟨file, hh⟩⟩
    · rw [hh] at hok'
      have hn : p.chunks.length = job.chunks.length := hok'
      simp only [responses, hh] at hdown
      omega
    · simp only [taken, hh] at hup
      omega
    · simp only [taken, hh] at hup
      simp only [responses, hh] at hdown
      omega

end Proc

end NetSessional.FileServer
