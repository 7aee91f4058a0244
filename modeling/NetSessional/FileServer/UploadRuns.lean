import NetSessional.FileServer.UploadSteps

/-! What holds of concurrent uploads under every schedule, and that each of them completes. The
uploads do not disturb each other because the shared table only grows. -/

namespace NetSessional.FileServer

open Schedules

namespace Uploads
variable {ι : Type} [DecidableEq ι]

/-- What holds of all uploads together; `before` is the server when they start. -/
structure Good (jobs : ι → Job) (before : Server) (s : Uploads ι) : Prop where
  inStep : ∀ i, Proc.InStep (jobs i) (s.procs i)
  saves : ∀ i, s.saves.filter (fun save => save.1 = i) =
    if (s.procs i).handler = .done then [(i, (jobs i).accepted, (jobs i).bytes)] else []
  /-- each upload that has reached the table has added its file once, in some order -/
  files : ∃ order : List ι, order.Nodup ∧ (∀ i, i ∈ order ↔ (s.procs i).handler.added = true) ∧
    ∀ u, s.server.fileList u = before.fileList u ++
      (order.filter fun i => (jobs i).file.owner = u).map fun i => (jobs i).accepted

theorem good_start (jobs : ι → Job) (before : Server) : Good jobs before (start before) := by
  refine ⟨fun i => Proc.inStep_start _, fun i => rfl, [], List.nodup_nil, fun i => ?_, fun u => ?_⟩
  · simp [start, HandlerPc.added]
  · simp [start]

/-- What holds of the uploads is changed by a step of one of them only if it changes there. -/
theorem update_iff (q : ι → Proc → Prop) {procs : ι → Proc} {i : ι} {p : Proc}
    (hp : q i (procs i) ↔ q i p) (j : ι) :
    q j (Function.update procs i p j) ↔ q j (procs j) := by
  by_cases hj : j = i
  · subst hj
    rw [Function.update_self]
    exact hp.symm
  · rw [Function.update_of_ne hj]

theorem inStep_update {jobs : ι → Job} {s : Uploads ι} (h : ∀ i, Proc.InStep (jobs i) (s.procs i))
    {i : ι} {p : Proc} (hp : Proc.InStep (jobs i) p) (j : ι) :
    Proc.InStep (jobs j) (Function.update s.procs i p j) :=
  (update_iff (fun j => Proc.InStep (jobs j)) (iff_of_true (h i) hp) j).2 (h j)

theorem good_clientStep {jobs : ι → Job} {before : Server} {s : Uploads ι} (h : Good jobs before s)
    {i : ι} {p : Proc} (hm : Proc.ClientMove (jobs i) (s.procs i) p) :
    Good jobs before { s with procs := Function.update s.procs i p } := by
  have hhandler : p.handler = (s.procs i).handler := Proc.clientMove_handler hm
  have hsame : ∀ j, (Function.update s.procs i p j).handler = (s.procs j).handler := fun j =>
    (update_iff (fun j (q : Proc) => q.handler = (s.procs j).handler) (iff_of_true rfl hhandler) j).2 rfl
  refine ⟨inStep_update h.inStep (Proc.inStep_clientMove (h.inStep i) hm), fun j => ?_, ?_⟩
  · rw [hsame]
    exact h.saves j
  · simp only [hsame]
    exact h.files

theorem saves_quiet {jobs : ι → Job} {before : Server} {s : Uploads ι} (h : Good jobs before s)
    {i : ι} {p : Proc} (hnot : (s.procs i).handler ≠ .done) (hnot' : p.handler ≠ .done) (j : ι) :
    (s.saves ++ []).filter (fun save => save.1 = j) =
      if (Function.update s.procs i p j).handler = .done then
        [(j, (jobs j).accepted, (jobs j).bytes)] else [] := by
  have hdone := update_iff (fun _ (q : Proc) => q.handler = .done) (iff_of_false hnot hnot') j
  rw [List.append_nil, h.saves j]
  simp only [hdone]

theorem not_done_of_not_added {pc : HandlerPc} (h : pc.added = false) : pc ≠ .done := by
  rintro rfl
  cases h

omit [DecidableEq ι] in
theorem fileList_added {jobs : ι → Job} {before server : Server} {order : List ι}
    (hfiles : ∀ u, server.fileList u = before.fileList u ++
      (order.filter fun i => (jobs i).file.owner = u).map fun i => (jobs i).accepted) (i : ι)
    (u : Name) : (server.addFile (jobs i).file.owner (jobs i).accepted).fileList u =
      before.fileList u ++ ((order ++ [i]).filter fun i => (jobs i).file.owner = u).map fun i =>
        (jobs i).accepted := by
  rw [Server.fileList_addFile, List.filter_append, List.map_append, ← List.append_assoc,
    ← hfiles u]
  by_cases hu : u = (jobs i).file.owner
  · subst hu
    simp
  · have hu' : (jobs i).file.owner ≠ u := fun h' => hu h'.symm
    simp [hu, hu']

theorem good_handlerStep {jobs : ι → Job} {before : Server} {s : Uploads ι}
    (h : Good jobs before s) {i : ι} {p : Proc} {server : Server} {save : Option (File × Bytes)}
    (hm : Proc.HandlerMove (jobs i) s.server (s.procs i) p server save) :
    Good jobs before
      { procs := Function.update s.procs i p
        server
        saves := s.saves ++ (save.map fun (file, bytes) => (i, file, bytes)).toList } := by
  have hin := inStep_update h.inStep (Proc.inStep_handlerMove (h.inStep i) hm)
  obtain ⟨order, hnodup, hmem, hfiles⟩ := h.files
  have hkept : (s.procs i).handler.added = p.handler.added →
      ∀ j, j ∈ order ↔ (Function.update s.procs i p j).handler.added = true := fun hadded j =>
    (hmem j).trans (update_iff (fun _ (q : Proc) => q.handler.added = true) (by rw [hadded]) j).symm
  rcases Proc.handlerMove_shared hm with
    ⟨hbefore, hafter, rfl, rfl⟩ | ⟨hbefore, hafter, rfl, rfl⟩ | ⟨hbefore, hafter, rfl, rfl⟩
  · have hnot : i ∉ order := fun hi => by
      rw [hmem, hbefore] at hi
      cases hi
    refine ⟨hin, saves_quiet h (not_done_of_not_added hbefore) (by simp [hafter]), order ++ [i],
      hnodup.append (List.nodup_singleton i) (by simpa using hnot), fun j => ?_,
      fileList_added hfiles i⟩
    rw [List.mem_append, List.mem_singleton]
    by_cases hj : j = i
    · subst hj
      simp [hafter, HandlerPc.added]
    · simp [hmem, hj]
  · refine ⟨hin, fun j => ?_, order, hnodup, hkept (by rw [hbefore, hafter]; rfl), hfiles⟩
    simp only [Option.map_some, Option.toList_some, List.filter_append, h.saves j]
    by_cases hj : j = i
    · subst hj
      simp [hafter, hbefore]
    · have hj' : i ≠ j := fun h' => hj h'.symm
      simp [Function.update_of_ne hj, hj']
  · exact ⟨hin, saves_quiet h (not_done_of_not_added hbefore) (not_done_of_not_added hafter), order,
      hnodup, hkept (hbefore.trans hafter.symm), hfiles⟩

theorem good_step {jobs : ι → Job} {before : Server} (s : Uploads ι) (a : ι × Side)
    (s' : Uploads ι) (h : Good jobs before s) (hs : step jobs s a = some s') :
    Good jobs before s' := by
  obtain ⟨i, side⟩ := a
  cases side with
  | client =>
    obtain ⟨p, hp, rfl⟩ := Option.map_eq_some_iff.1 hs
    exact good_clientStep h (Proc.clientStep_move (h.inStep i) hp)
  | handler =>
    obtain ⟨⟨p, server, save⟩, hp, rfl⟩ := Option.map_eq_some_iff.1 hs
    exact good_handlerStep h (Proc.handlerStep_move (h.inStep i) hp)

def left [Fintype ι] (jobs : ι → Job) (s : Uploads ι) : ℕ := ∑ i, (s.procs i).left (jobs i)

theorem left_step [Fintype ι] {jobs : ι → Job} {before : Server} (s : Uploads ι) (a : ι × Side)
    (s' : Uploads ι) (h : Good jobs before s) (hs : step jobs s a = some s') :
    left jobs s' < left jobs s := by
  obtain ⟨i, side⟩ := a
  have hless : ∃ p, s'.procs = Function.update s.procs i p ∧
      p.left (jobs i) < (s.procs i).left (jobs i) := by
    cases side with
    | client =>
      obtain ⟨p, hp, rfl⟩ := Option.map_eq_some_iff.1 hs
      exact ⟨p, rfl, Proc.left_clientMove (Proc.clientStep_move (h.inStep i) hp)⟩
    | handler =>
      obtain ⟨⟨p, server, save⟩, hp, rfl⟩ := Option.map_eq_some_iff.1 hs
      exact ⟨p, rfl, Proc.left_handlerMove (Proc.handlerStep_move (h.inStep i) hp)⟩
  obtain ⟨p, hprocs, hp⟩ := hless
  unfold left
  rw [hprocs]
  refine Finset.sum_lt_sum (fun j _ => ?_) ⟨i, Finset.mem_univ i, ?_⟩
  · by_cases hj : j = i
    · subst hj
      rw [Function.update_self]
      exact hp.le
    · rw [Function.update_of_ne hj]
  · rwa [Function.update_self]

def Names (job : Job) (f : File) : Bool := f.owner = job.file.owner && f.fileName = job.file.fileName

structure OnTrack (jobs : ι → Job) (s : Uploads ι) (i : ι) : Prop where
  /-- the client has read one acknowledgement for each chunk it has sent, but for the last one -/
  received : (s.procs i).received = List.replicate ((s.procs i).answered (jobs i).chunks.length) ack
  /-- the handler still collects while a chunk is missing, and not any longer -/
  collected : (s.procs i).chunks = (jobs i).chunks.take (s.procs i).chunks.length
  collecting : (s.procs i).handler.collects = true ↔
    (s.procs i).chunks.length < (jobs i).chunks.length
  alive : (s.procs i).handler ≠ .dead

structure Finished (jobs : ι → Job) (before : Server) (s : Uploads ι) (i : ι) : Prop where
  client : (s.procs i).client = .closed
  received : (s.procs i).received = List.replicate (jobs i).chunks.length ack
  handler : (s.procs i).handler = .done
  chunks : (s.procs i).chunks = (jobs i).chunks
  /-- the owner's list has one new entry of that name -/
  entry : (s.server.fileList (jobs i).file.owner).filter (Names (jobs i)) =
    (before.fileList (jobs i).file.owner).filter (Names (jobs i)) ++ [(jobs i).accepted]
  saved : s.saves.filter (fun save => save.1 = i) = [(i, (jobs i).accepted, (jobs i).bytes)]

theorem Good.onTrack {jobs : ι → Job} {before : Server} {s : Uploads ι} (h : Good jobs before s)
    (i : ι) : OnTrack jobs s i := by
  have hin := h.inStep i
  have hok := hin.handler
  refine ⟨?_, hin.chunks, ?_, fun hdead => by rw [hdead] at hok; exact hok⟩
  · have hread : (s.procs i).received <+: List.replicate (s.procs i).responses ack :=
      ⟨_, hin.down⟩
    rw [← hin.received]
    exact List.eq_replicate_of_mem fun m hm => List.eq_of_mem_replicate (hread.subset hm)
  · have hpos := (jobs i).chunks_pos
    cases hc : (s.procs i).handler with
    | awaiting =>
      rw [hc] at hok
      have hn : (s.procs i).chunks.length = 0 := hok
      exact iff_of_true rfl (by omega)
    | reading file =>
      rw [hc] at hok
      exact iff_of_true rfl hok.2
    | responding file chunk =>
      rw [hc] at hok
      exact iff_of_true rfl (List.getElem?_eq_some_iff.1 hok.2).1
    | completing file =>
      rw [hc] at hok
      exact iff_of_false (by simp [HandlerPc.collects]) hok.2.not_lt
    | adding file =>
      rw [hc] at hok
      exact iff_of_false (by simp [HandlerPc.collects]) hok.2.not_lt
    | saving file bytes =>
      rw [hc] at hok
      exact iff_of_false (by simp [HandlerPc.collects]) hok.2.2.not_lt
    | done =>
      rw [hc] at hok
      have hn : (s.procs i).chunks.length = (jobs i).chunks.length := hok
      exact iff_of_false (by simp [HandlerPc.collects]) hn.not_lt
    | dead =>
      rw [hc] at hok
      exact hok.elim

/-- Among the files that the uploads add for one owner, those with the name of upload `i` are its
own. -/
theorem filter_names {jobs : ι → Job}
    (hdistinct : Function.Injective fun i => ((jobs i).file.owner, (jobs i).file.fileName))
    {order : List ι} (hnodup : order.Nodup) {i : ι} (hi : i ∈ order) :
    ((order.filter fun j => (jobs j).file.owner = (jobs i).file.owner).map fun j =>
      (jobs j).accepted).filter (Names (jobs i)) = [(jobs i).accepted] := by
  have hsame : ∀ j, (Names (jobs i) (jobs j).accepted && decide ((jobs j).file.owner =
      (jobs i).file.owner)) = decide (j = i) := by
    intro j
    rw [Bool.eq_iff_iff]
    simp only [Names, Bool.and_eq_true, decide_eq_true_eq]
    refine ⟨fun h => hdistinct (Prod.ext h.2 h.1.2), ?_⟩
    rintro rfl
    exact ⟨⟨rfl, rfl⟩, rfl⟩
  rw [List.filter_map, List.filter_filter]
  simp only [Function.comp_apply, hsame]
  rw [List.filter_eq, List.count_eq_one_of_mem hnodup hi]
  rfl

theorem Good.finished {jobs : ι → Job} {before : Server} {s : Uploads ι} (h : Good jobs before s)
    (hdistinct : Function.Injective fun i => ((jobs i).file.owner, (jobs i).file.fileName))
    (hstuck : Stuck (step jobs) s) (i : ι) : Finished jobs before s i := by
  have hin := h.inStep i
  have hblocked : ∀ j, (s.procs j).client = .closed ∧ (s.procs j).handler = .done := fun j =>
    Proc.finished_of_blocked (h.inStep j) (Option.map_eq_none_iff.1 (hstuck (j, .client)))
      (Option.map_eq_none_iff.1 (hstuck (j, .handler)))
  obtain ⟨hclient, hhandler⟩ := hblocked i
  have hok := hin.handler
  have hreceived := (h.onTrack i).received
  obtain ⟨order, hnodup, hmem, hfiles⟩ := h.files
  have hi : i ∈ order := (hmem i).2 (by rw [hhandler]; rfl)
  rw [hhandler] at hok
  have hlen : (s.procs i).chunks.length = (jobs i).chunks.length := hok
  simp only [Proc.answered, hclient] at hreceived
  refine ⟨hclient, hreceived, hhandler, ?_, ?_, ?_⟩
  · rw [hin.chunks, hlen, List.take_length]
  · rw [hfiles, List.filter_append, filter_names hdistinct hnodup hi]
  · rw [h.saves i, if_pos hhandler]

end Uploads

/-- Alone between two of its reads, a handler does in four steps what `Sys.handleFileUpload` does in
one: here for the last chunk. -/
theorem last_chunk_as_handleFileUpload {p : Proc} {file : File} {chunk : Chunk}
    (hresponding : p.handler = .responding (some file) chunk)
    (hlast : chunk.chunkNo = chunk.totalChunks) {bytes : Bytes}
    (hjoin : file.join (p.chunks ++ [chunk]) = .ok bytes) (s : Sys) (c : Conn) (h : Handler) :
    let s' := s.handleFileUpload c h (some file) p.chunks (.chunk chunk) {}
    ∃ p₁ p₂ p₃ p₄, p.handlerStep s.server = some (p₁, s.server, none) ∧
      p₁.handlerStep s.server = some (p₂, s.server, none) ∧
      p₂.handlerStep s.server = some (p₃, s'.server, none) ∧
      p₃.handlerStep s'.server = some (p₄, s'.server, some (file, bytes)) ∧
      s'.disk = (s.save file bytes .ok).disk := by
  intro s'
  have hjoined : joined (some file) (p.chunks ++ [chunk]) = some (file, bytes) :=
    joined_eq_some.2 ⟨rfl, hjoin⟩
  have hserver : s'.server = s.server.addFile file.owner file := by
    simp [s', Sys.handleFileUpload, Sys.completeUpload, Sys.save, Sys.setHandler, Sys.write, hlast,
      hjoined]
  have hdisk : s'.disk = (s.save file bytes .ok).disk := by
    simp [s', Sys.handleFileUpload, Sys.completeUpload, Sys.save, Sys.setHandler, Sys.write, hlast,
      hjoined]
  have hfirst : p.handlerStep s.server =
      some ({ p.respond { type := some .CHUNK_RECEIVED } with
        chunks := p.chunks ++ [chunk], handler := .completing (some file) }, s.server, none) := by
    simp only [Proc.handlerStep, hresponding, hlast, if_true]
    rfl
  have hadd : ∀ q : Proc, q.handler = .adding (some file) → q.chunks = p.chunks ++ [chunk] →
      q.handlerStep s.server = some ({ q with handler := .saving file bytes },
        s.server.addFile file.owner file, none) := by
    intro q hq hchunks
    simp only [Proc.handlerStep, hq, hchunks, hjoined]
  rw [hserver]
  exact ⟨_, _, _, _, hfirst, rfl, hadd _ rfl rfl, rfl, hdisk⟩

open Uploads in
/-- Concurrent uploads of differently named files: under every schedule each upload is on track at
any time, no schedule goes on for ever, and one that cannot go on has completed every upload. -/
theorem uploads_complete {ι : Type} [Fintype ι] [DecidableEq ι] (jobs : ι → Job)
    (hdistinct : Function.Injective fun i => ((jobs i).file.owner, (jobs i).file.fileName))
    (before : Server) (schedule : List (ι × Side)) (s : Uploads ι)
    (h : exec (Uploads.step jobs) (Uploads.start before) schedule = some s) :
    (∀ i, OnTrack jobs s i) ∧
      schedule.length ≤ ∑ i, (4 * (jobs i).chunks.length + 6) ∧
      (Stuck (Uploads.step jobs) s → ∀ i, Finished jobs before s i) := by
  have hstep : ∀ t a t', Good jobs before t → Uploads.step jobs t a = some t' →
      Good jobs before t' := good_step
  have hless : ∀ t a t', Good jobs before t → Uploads.step jobs t a = some t' →
      left jobs t' < left jobs t := left_step
  have hgood := exec_invariant hstep (good_start jobs before) h
  have hlength := exec_length_le hstep hless (good_start jobs before) h
  have htotal : left jobs (start before) = ∑ i, (4 * (jobs i).chunks.length + 6) := by
    refine Finset.sum_congr rfl fun i _ => ?_
    simp only [start, Proc.left, Proc.clientLeft, Proc.handlerLeft]
    omega
  exact ⟨hgood.onTrack, by omega, hgood.finished hdistinct⟩

def twoJobs (i : Bool) : Job :=
  { file := { fileName := some "notes", owner := some (if i then "u" else "v") }
    bytes := if i then [1] else [2, 3]
    rand := ⟨0, Server.chunkSizes_pos⟩
    nonempty := by cases i <;> decide
    small := by cases i <;> decide }

/-- A schedule of the two uploads that takes turns, to the end. -/
def twoToTheEnd : List (Bool × Side) :=
  [(true, .client), (false, .client), (true, .client), (true, .handler), (false, .client),
    (true, .handler), (false, .handler), (true, .handler), (false, .handler), (false, .handler),
    (true, .client), (false, .client), (true, .handler), (false, .handler), (true, .handler),
    (true, .client), (false, .handler), (false, .client), (false, .handler), (true, .handler)]

open Uploads in
theorem uploads_complete_two : ∃ s,
    exec (Uploads.step twoJobs) (Uploads.start {}) twoToTheEnd = some s ∧
      Stuck (Uploads.step twoJobs) s ∧ ∀ i, OnTrack twoJobs s i ∧ Finished twoJobs {} s i := by
  have hsome : (exec (Uploads.step twoJobs) (Uploads.start {}) twoToTheEnd).isSome := by
    decide +kernel
  obtain ⟨s, hs⟩ := Option.isSome_iff_exists.1 hsome
  have hstuck : Stuck (Uploads.step twoJobs) s := by
    have hnone : ∀ a, ((exec (Uploads.step twoJobs) (Uploads.start {}) twoToTheEnd).bind fun t =>
        Uploads.step twoJobs t a).isNone := by
      rintro ⟨i, side⟩
      cases i <;> cases side <;> decide +kernel
    intro a
    simpa [hs] using hnone a
  obtain ⟨htrack, -, hfinished⟩ := uploads_complete twoJobs (by decide) {} twoToTheEnd s hs
  exact ⟨s, hs, hstuck, fun i => ⟨htrack i, hfinished hstuck i⟩⟩

end NetSessional.FileServer
