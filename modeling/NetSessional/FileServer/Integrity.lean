import NetSessional.FileServer.Sessions

/-! What a peer can make the loop of `handleFileUpload` store. The loop looks at one chunk at a time:
whatever comes before it, a chunk whose number is its own total ends the upload, and nothing is
compared with the announced size. -/

namespace NetSessional.FileServer

open Runs

/-- The chunks `1, .., n` of one file in order, with as many bytes as the file was said to have. -/
structure WellFormed (file : File) (chunks : List Chunk) : Prop where
  numbered : ∀ i (hi : i < chunks.length), chunks[i].chunkNo.toInt = i + 1
  total : ∀ chunk ∈ chunks, chunk.totalChunks.toInt = chunks.length
  size : ∃ bytes, file.join chunks = .ok bytes ∧ (bytes.length : ℤ) = file.fileSize.toInt

def chunkEvents (c : Conn) (sent : List (Chunk × Env)) : List Event :=
  sent.map fun p => .receive c (.chunk p.1) p.2

/-- The chunk that a step of the loop of `handleFileUpload` on `c` reads. -/
def readChunk (c : Conn) (s : Sys) (e : Event) : Option Chunk :=
  match (s.handlers.lookup c).map Handler.phase, e with
  | some (.upload _ _), .receive _ (.chunk chunk) _ => some chunk
  | _, _ => none

structure Untouched (s s' : Sys) : Prop where
  lists : ∀ u, s'.server.fileList u = s.server.fileList u
  disk : s'.disk = s.disk

/-- Nothing is listed and nothing written, unless the chunks that the loop has read are well
formed. -/
def StoresWellFormed (s : Sys) (c : Conn) (file : Option File) (sent : List (Chunk × Env)) : Prop :=
  Untouched s (run Sys.step s (chunkEvents c sent)) ∨
    ∃ f, file = some f ∧ WellFormed f (collect Sys.step (readChunk c) s (chunkEvents c sent))

/-- The chunks of an upload up to the first one with the last number, if each of them is answered.
The list has `chunks` before these. -/
def closing (c : Conn) (chunks : List Chunk) : List (Chunk × Env) → Option (List Chunk)
  | [] => none
  | (chunk, env) :: sent =>
    if env.writeFails c then none
    else if chunk.chunkNo = chunk.totalChunks then
      if env.completeFails then none else some (chunks ++ [chunk])
    else closing c (chunks ++ [chunk]) sent

section Loop
variable {s : Sys} {c : Conn} {h : Handler} {file : Option File} {chunks : List Chunk}

theorem Untouched.refl (s : Sys) : Untouched s s := ⟨fun _ => rfl, rfl⟩

theorem Untouched.trans {a b d : Sys} (h1 : Untouched a b) (h2 : Untouched b d) : Untouched a d :=
  ⟨fun u => (h2.lists u).trans (h1.lists u), h2.disk.trans h1.disk⟩

theorem untouched_of_nothing {e : Event} (hcall : s.call e = .nothing) :
    Untouched s (s.step e) := by
  refine ⟨fun u => ?_, ?_⟩
  · rw [Sys.step_server, hcall]
    rfl
  · rcases Sys.step_disk s e with hsame | ⟨f, bytes, hadd, -⟩
    · exact hsame
    · rw [hcall] at hadd
      cases hadd

def BehindLoop (c : Conn) (s : Sys) : Prop :=
  ∃ h, s.handlers.lookup c = some h ∧ (h.phase = .commands ∨ h.phase = .ended)

theorem behindLoop_step (hs : BehindLoop c s) (chunk : Chunk) (env : Env) :
    BehindLoop c (s.step (.receive c (.chunk chunk) env)) ∧
      Untouched s (s.step (.receive c (.chunk chunk) env)) ∧
      readChunk c s (.receive c (.chunk chunk) env) = none := by
  obtain ⟨h, hl, hp⟩ := hs
  have hnext := Sys.step_handler hl (.chunk chunk) env
  refine ⟨⟨_, hnext, Or.inr ?_⟩, untouched_of_nothing ?_, ?_⟩
  · rcases hp with hp | hp
    · simp only [Handler.next, hp]
    · simp only [Handler.next, hp]
  · rcases hp with hp | hp
    · simp only [Sys.call, hl, Handler.call, hp]
    · simp only [Sys.call, hl, Handler.call, hp]
  · rcases hp with hp | hp
    · simp [readChunk, hl, hp]
    · simp [readChunk, hl, hp]

theorem behindLoop_run (hs : BehindLoop c s) (sent : List (Chunk × Env)) :
    Untouched s (run Sys.step s (chunkEvents c sent)) ∧
      collect Sys.step (readChunk c) s (chunkEvents c sent) = [] := by
  induction sent generalizing s with
  | nil => exact ⟨Untouched.refl s, rfl⟩
  | cons p sent ih =>
    obtain ⟨hs', hsame, hread⟩ := behindLoop_step hs p.1 p.2
    obtain ⟨hrest, hnone⟩ := ih hs'
    exact ⟨hsame.trans hrest, (collect_cons_none hread).trans hnone⟩

/-- The outcome of an upload: with all its chunks closed and joined the file is listed, and else
nothing is touched. -/
structure Outcome (s s' : Sys) (file : Option File) (closed : Option (List Chunk))
    (read : List Chunk) : Prop where
  stored : ∀ all, closed = some all → ∀ f bytes, joined file all = some (f, bytes) →
    read = all ∧ ∀ u, s'.server.fileList u = (s.server.addFile f.owner f).fileList u
  untouched : (∀ all, closed = some all → joined file all = none) → Untouched s s'

theorem outcome_broken {s' : Sys} (hs : BehindLoop c s') (h : Untouched s s')
    (sent : List (Chunk × Env)) (read : List Chunk) :
    Outcome s (run Sys.step s' (chunkEvents c sent)) file none read :=
  ⟨fun _ hall => (by cases hall), fun _ => h.trans (behindLoop_run hs sent).1⟩

theorem upload_call (hl : s.handlers.lookup c = some h) (hp : h.phase = .upload file chunks)
    (chunk : Chunk) (env : Env) :
    s.call (.receive c (.chunk chunk) env) = Handler.uploadCall c file chunks (.chunk chunk) env ∧
      readChunk c s (.receive c (.chunk chunk) env) = some chunk := by
  refine ⟨?_, ?_⟩
  · simp only [Sys.call, hl, Handler.call, hp]
  · simp [readChunk, hl, hp]

/-- Nothing is called before the last chunk, for a lost answer, or when `join` throws. -/
theorem uploadCall_eq_nothing {chunk : Chunk} {env : Env}
    (h : env.writeFails c ∨ chunk.chunkNo ≠ chunk.totalChunks ∨ env.completeFails ∨
      joined file (chunks ++ [chunk]) = none) :
    Handler.uploadCall c file chunks (.chunk chunk) env = .nothing := by
  simp only [Handler.uploadCall]
  split_ifs with hends
  · rcases h with h | h | h | h
    · exact absurd h hends.1
    · exact absurd hends.2.1 h
    · exact absurd h hends.2.2
    · simp only [h]
  · rfl

theorem upload_untouched (hl : s.handlers.lookup c = some h) (hp : h.phase = .upload file chunks)
    (chunk : Chunk) (env : Env)
    (hno : env.writeFails c ∨ chunk.chunkNo ≠ chunk.totalChunks ∨ env.completeFails ∨
      joined file (chunks ++ [chunk]) = none) :
    Untouched s (s.step (.receive c (.chunk chunk) env)) :=
  untouched_of_nothing ((upload_call hl hp chunk env).1.trans (uploadCall_eq_nothing hno))

theorem upload_leaves (hl : s.handlers.lookup c = some h) (hp : h.phase = .upload file chunks)
    {chunk : Chunk} {env : Env} (hends : env.writeFails c ∨ chunk.chunkNo = chunk.totalChunks) :
    BehindLoop c (s.step (.receive c (.chunk chunk) env)) := by
  have hnext := Sys.step_handler hl (.chunk chunk) env
  simp only [Handler.next, hp, Handler.afterUploadRead] at hnext
  refine ⟨_, hnext, ?_⟩
  split_ifs with hw hlast hstays
  · exact Or.inl rfl
  · exact Or.inl rfl
  · exact Or.inr rfl
  · exact absurd hends (not_or.2 ⟨hw, hlast⟩)

theorem upload_run (hl : s.handlers.lookup c = some h) (hp : h.phase = .upload file chunks)
    (sent : List (Chunk × Env)) :
    Outcome s (run Sys.step s (chunkEvents c sent)) file (closing c chunks sent)
      (chunks ++ collect Sys.step (readChunk c) s (chunkEvents c sent)) := by
  induction sent generalizing s h chunks with
  | nil => exact ⟨fun _ hall => (by cases hall), fun _ => Untouched.refl s⟩
  | cons p sent ih =>
    obtain ⟨chunk, env⟩ := p
    obtain ⟨hcall, hread⟩ := upload_call hl hp chunk env
    change Outcome s (run Sys.step (s.step (.receive c (.chunk chunk) env)) (chunkEvents c sent))
      file _ (chunks ++ collect Sys.step (readChunk c) s
        (.receive c (.chunk chunk) env :: chunkEvents c sent))
    rw [collect_cons_some hread]
    unfold closing
    split_ifs with hw hlast hlost
    · have hsame := upload_untouched hl hp chunk env (Or.inl hw)
      exact outcome_broken (upload_leaves hl hp (Or.inl hw)) hsame sent _
    · have hsame := upload_untouched hl hp chunk env (Or.inr (Or.inr (Or.inl hlost)))
      exact outcome_broken (upload_leaves hl hp (Or.inr hlast)) hsame sent _
    · have hbehind : BehindLoop c (s.step (.receive c (.chunk chunk) env)) :=
        upload_leaves hl hp (Or.inr hlast)
      obtain ⟨hrest, hnone⟩ := behindLoop_run hbehind sent
      rw [hnone]
      refine ⟨?_, fun hno => ?_⟩
      · rintro all ⟨⟩ f bytes hjoined
        refine ⟨rfl, fun u => (hrest.lists u).trans ?_⟩
        rw [Sys.step_server, hcall]
        simp [Handler.uploadCall, hw, hlast, hlost, hjoined, Server.perform]
      · have hnull : joined file (chunks ++ [chunk]) = none := hno _ rfl
        exact (upload_untouched hl hp chunk env (Or.inr (Or.inr (Or.inr hnull)))).trans hrest
    · have hnext := Sys.step_handler hl (.chunk chunk) env
      simp only [Handler.next, hp, Handler.afterUploadRead] at hnext
      rw [if_neg hw, if_neg hlast] at hnext
      have hsame : Untouched s (s.step (.receive c (.chunk chunk) env)) :=
        upload_untouched hl hp chunk env (Or.inr (Or.inl hlast))
      obtain ⟨hstored, huntouched⟩ := ih hnext rfl
      rw [List.append_assoc] at hstored
      refine ⟨fun all hall f bytes hjoined => ?_, fun hno => hsame.trans (huntouched hno)⟩
      obtain ⟨hall', hlists⟩ := hstored all hall f bytes hjoined
      refine ⟨hall', fun u => (hlists u).trans ?_⟩
      simp only [Server.fileList_addFile, hsame.lists]

end Loop

/-- Whatever chunks a peer sends after a `FILE_INIT`, nothing is stored unless they are well formed,
exactly if the first chunk with the last number, should it be answered and the chunks so far be
joined, closes a well formed list. -/
theorem stores_wellFormed_iff {s : Sys} {c : Conn} {h : Handler} {file : Option File}
    (hl : s.handlers.lookup c = some h) (hp : h.phase = .upload file [])
    (sent : List (Chunk × Env)) :
    StoresWellFormed s c file sent ↔
      ∀ chunks, closing c [] sent = some chunks →
        ∀ f bytes, joined file chunks = some (f, bytes) → WellFormed f chunks := by
  obtain ⟨hstored, huntouched⟩ := upload_run hl hp sent
  rw [List.nil_append] at hstored
  refine ⟨fun hsound chunks hclosed f bytes hjoined => ?_, fun hwell => ?_⟩
  · obtain ⟨hread, hlists⟩ := hstored chunks hclosed f bytes hjoined
    rcases hsound with hsame | ⟨f', hf', hwell⟩
    · -- the list of the owner has grown
      have hgrown := (hsame.lists f.owner).symm.trans (hlists f.owner)
      rw [Server.fileList_addFile, if_pos rfl] at hgrown
      simp at hgrown
    · obtain ⟨rfl, -⟩ := joined_eq_some.1 hjoined
      obtain rfl := Option.some.inj hf'
      exact hread ▸ hwell
  · by_cases hnone : ∀ chunks, closing c [] sent = some chunks → joined file chunks = none
    · exact Or.inl (huntouched hnone)
    · push Not at hnone
      obtain ⟨chunks, hclosed, hjoined⟩ := hnone
      obtain ⟨⟨f, bytes⟩, hjoined⟩ := Option.ne_none_iff_exists'.1 hjoined
      obtain ⟨hread, -⟩ := hstored chunks hclosed f bytes hjoined
      exact Or.inr ⟨f, (joined_eq_some.1 hjoined).1, hread ▸ hwell chunks hclosed f bytes hjoined⟩

def announcedFile : File := { fileName := some "a", owner := some "u", fileSize := 100 }

/-- A handler that has received the `FILE_INIT` of a file of 100 bytes. -/
def awaitingChunks : Sys :=
  ({} : Sys).setHandler 1
    { socketType := true, ip := "/10.0.0.1", phase := .upload (some announcedFile) [] }

/-- It comes in two chunks. -/
theorem whole_file_stored :
    StoresWellFormed awaitingChunks 1 (some announcedFile)
      [(⟨some (List.replicate 60 0), 1, 2, 60⟩, {}), (⟨some (List.replicate 40 0), 2, 2, 40⟩, {})] := by
  refine (stores_wellFormed_iff (by rfl) rfl _).2 fun chunks hclosed f bytes hjoined => ?_
  obtain rfl := Option.some.inj hclosed
  obtain ⟨hf, hbytes⟩ := joined_eq_some.1 hjoined
  obtain rfl := Option.some.inj hf
  refine ⟨fun i hi => ?_, by simp, bytes, hbytes, ?_⟩
  · have hlt : i < 2 := hi
    interval_cases i
    · exact (by decide : (1 : Int32).toInt = ((0 : ℕ) : ℤ) + 1)
    · exact (by decide : (2 : Int32).toInt = ((1 : ℕ) : ℤ) + 1)
  · obtain rfl := Except.ok.inj hbytes
    decide

/-- Ten bytes of it are stored when they come as the last chunk of five. -/
theorem last_chunk_alone_stored :
    ¬ StoresWellFormed awaitingChunks 1 (some announcedFile)
      [(⟨some (List.replicate 10 0), 5, 5, 10⟩, {})] := by
  rintro (hsame | ⟨f, hf, hwell⟩)
  · exact absurd (hsame.lists (some "u")) (by decide +kernel)
  · obtain rfl := Option.some.inj hf
    obtain ⟨bytes, hbytes, hsize⟩ := hwell.size
    obtain rfl := Except.ok.inj hbytes
    exact absurd hsize (by decide +kernel)

end NetSessional.FileServer
