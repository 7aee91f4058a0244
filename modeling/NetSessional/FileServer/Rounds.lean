import NetSessional.FileServer.Sessions

/-! The loop of `handleFileUpload` statement by statement: the reads and writes of different threads
interleave, every one of them can fail, and two threads can have the same file open. Beside what the
program keeps, a state records what has become of the uploads. -/

namespace NetSessional.FileServer

open Runs

/-- An upload replaces an earlier one of the same owner and file name. -/
def File.key (f : File) : Name × Name := (f.owner, f.fileName)

/-- The locals of a call of `handleFileUpload` in progress, and its handler. -/
structure Uploading where
  handler : Handler
  file : Option File
  chunks : List Chunk

def Sys.uploading (s : Sys) (c : Conn) : Option Uploading :=
  match s.handlers.lookup c with
  | none => none
  | some h =>
    match h.phase with
    | .upload file chunks => some ⟨h, file, chunks⟩
    | _ => none

theorem uploading_congr {s s' : Sys} {c : Conn} (h : s'.handlers.lookup c = s.handlers.lookup c) :
    s'.uploading c = s.uploading c := by
  unfold Sys.uploading
  rw [h]

inductive Statement where
  /-- the write of `CHUNK_RECEIVED`, and `chunks.add` -/
  | acknowledge (chunk : Chunk)
  /-- the write of `FILE_UL_COMPLETE` -/
  | report
  /-- `join`, and `Server.addFile` -/
  | addFile
  /-- `save` opens its `FileOutputStream`, which truncates the file -/
  | openFile (file : File) (bytes : Bytes)
  | writeFile (file : File) (bytes : Bytes)

/-- How a statement fares; a failed write of a file leaves the first bytes. -/
inductive Fate where
  | ok
  | fails (written : ℕ)

/-- What has become of an upload: what was written and entered for it, and whether a read, a write
or a file operation of it has failed. -/
structure Progress where
  reported : Bool := false
  listed : Bool := false
  failed : Bool := false
  deriving DecidableEq

structure Threads where
  sys : Sys := {}
  next : Conn → Option Statement := fun _ => none
  /-- of the latest call of `handleFileUpload` on the connection -/
  progress : Conn → Progress := fun _ => {}
  /-- the bytes joined for the latest upload of an owner and a file name -/
  latest : Name × Name → Option Bytes := fun _ => none

inductive Move where
  /-- anything a thread does outside the rounds below, from one read to the next -/
  | whole (e : Event)
  /-- the read of `handleFileUpload` returns a chunk -/
  | read (c : Conn) (chunk : Chunk)
  /-- the thread of `c` executes its next statement -/
  | advance (c : Conn) (fate : Fate)

namespace Threads

def start (disk : Table String Bytes) : Threads := { sys := { disk } }

/-- A thread in the midst of a round reads nothing, and a chunk that `handleFileUpload` reads starts
a round. -/
def busy (s : Threads) (e : Event) : Bool :=
  (s.next e.conn).isSome || (s.sys.uploading e.conn).isSome &&
    match e with
    | .receive _ (.chunk _) _ => true
    | _ => false

/-- In the loop, everything that a read gives but a chunk ends in an exception. -/
def progressAfter (s : Threads) : Event → Progress
  | .accept c _ _ => s.progress c
  | .receive c _ _ =>
    match s.sys.uploading c with
    | none => {}
    | some _ => { s.progress c with failed := true }

def setNext (s : Threads) (c : Conn) (statement : Option Statement) : Threads :=
  { s with next := Function.update s.next c statement }

def setProgress (s : Threads) (c : Conn) (p : Progress) : Threads :=
  { s with progress := Function.update s.progress c p }

def leave (s : Threads) (c : Conn) (u : Uploading) : Threads :=
  { s with sys := s.sys.setHandler c { u.handler with phase := .commands } }.setNext c none

def leaveFailed (s : Threads) (c : Conn) (u : Uploading) : Threads :=
  (s.setProgress c { s.progress c with failed := true }).leave c u

section Disk
variable (resolve : String → String)

/-- The file in which a name is saved under an owner. Names that resolve alike are one file. -/
def place (key : Name × Name) : String :=
  resolve ("files/" ++ key.1.text ++ "/" ++ key.2.text)

/-- A new `FileOutputStream` writes at the start of the file. -/
def put (s : Threads) (file : File) (bytes : Bytes) : Threads :=
  let path := place resolve file.key
  let rest := ((s.sys.disk.lookup path).getD []).drop bytes.length
  { s with sys := { s.sys with disk := s.sys.disk.insert path (bytes ++ rest) } }

def truncate (s : Threads) (file : File) : Threads :=
  { s with sys := { s.sys with disk := s.sys.disk.insert (place resolve file.key) [] } }

def addFile (s : Threads) (c : Conn) (file : File) (bytes : Bytes) : Threads :=
  { s with
    sys := { s.sys with server := s.sys.server.addFile file.owner file }
    latest := Function.update s.latest file.key (some bytes) }.setProgress c
      { s.progress c with listed := true }

def execute (s : Threads) (c : Conn) (u : Uploading) : Statement → Fate → Threads
  | .acknowledge _, .fails _ => s.leaveFailed c u
  | .acknowledge chunk, .ok =>
    let out := s.sys.out ++ [(c, { type := some .CHUNK_RECEIVED })]
    let chunks := u.chunks ++ [chunk]
    { s with
      sys := { s.sys with out }.setHandler c
        { u.handler with phase := .upload u.file chunks } }.setNext c
      (if chunk.chunkNo = chunk.totalChunks then some .report else none)
  | .report, .fails _ => s.leaveFailed c u
  | .report, .ok =>
    let done : Message := { text := some "File upload completed!", type := some .FILE_UL_COMPLETE }
    ({ s with sys := { s.sys with out := s.sys.out ++ [(c, done)] } }.setProgress c
      { s.progress c with reported := true }).setNext c (some .addFile)
  | .addFile, _ =>
    match joined u.file u.chunks with
    | none =>
      ({ s with sys := s.sys.kill c u.handler }.setProgress c
        { s.progress c with failed := true }).setNext c none
    | some (file, bytes) => (s.addFile c file bytes).setNext c (some (.openFile file bytes))
  | .openFile _ _, .fails _ => s.leaveFailed c u
  | .openFile file bytes, .ok => (s.truncate resolve file).setNext c (some (.writeFile file bytes))
  | .writeFile file bytes, .fails n => (s.put resolve file (bytes.take n)).leaveFailed c u
  | .writeFile file bytes, .ok => (s.put resolve file bytes).leave c u

/-- A move of a thread that is elsewhere is no step. -/
def step (s : Threads) : Move → Threads
  | .whole e =>
    if s.busy e then s
    else { s with sys := s.sys.step e }.setProgress e.conn (s.progressAfter e)
  | .read c chunk =>
    match s.sys.uploading c, s.next c with
    | some _, none => s.setNext c (some (.acknowledge chunk))
    | _, _ => s
  | .advance c fate =>
    match s.sys.uploading c, s.next c with
    | some u, some statement => s.execute resolve c u statement fate
    | _, _ => s

end Disk

end Threads

def SaveOutcome.fates : SaveOutcome → Fate × Fate
  | .ok => (.ok, .ok)
  | .notFound => (.fails 0, .ok)
  | .partly n => (.ok, .fails n)

def Fate.of (fails : Bool) : Fate := if fails then .fails 0 else .ok

/-- The moves that make up a step of the system, when no other thread moves in between. A thread
that has left the loop does not advance. -/
def Sys.moves (s : Sys) : Event → List Move
  | .receive c (.chunk chunk) env =>
    if (s.uploading c).isSome then
      .read c chunk :: [.of (env.writeFails c), .of env.completeFails, .ok, env.save.fates.1,
        env.save.fates.2].map (.advance c)
    else [.whole (.receive c (.chunk chunk) env)]
  | e => [.whole e]

theorem uploading_eq_some {s : Sys} {c : Conn} {u : Uploading} :
    s.uploading c = some u ↔
      s.handlers.lookup c = some u.handler ∧ u.handler.phase = .upload u.file u.chunks := by
  unfold Sys.uploading
  cases hl : s.handlers.lookup c with
  | none => simp
  | some h =>
    dsimp only
    split
    · next file chunks hp =>
      refine ⟨?_, ?_⟩
      · rintro ⟨⟩
        exact ⟨rfl, hp⟩
      · rintro ⟨heq, hu⟩
        obtain ⟨k, file', chunks'⟩ := u
        obtain rfl : h = k := Option.some.inj heq
        obtain ⟨rfl, rfl⟩ := Phase.upload.inj (hp.symm.trans hu)
        rfl
    · next hp =>
      refine ⟨fun h => (nomatch h), ?_⟩
      rintro ⟨heq, hu⟩
      obtain rfl : h = u.handler := Option.some.inj heq
      exact absurd hu (hp u.file u.chunks)

namespace Threads

variable {s : Threads} {c : Conn} {u : Uploading} {resolve : String → String}

theorem busy_eq_false {e : Event} (h : s.busy e = false) : s.next e.conn = none ∧
    ∀ d chunk env, e = .receive d (.chunk chunk) env → s.sys.uploading d = none := by
  simp only [busy, Bool.or_eq_false_iff, Option.isSome_eq_false_iff, Option.isNone_iff_eq_none] at h
  refine ⟨h.1, ?_⟩
  rintro d chunk env rfl
  simpa [Event.conn] using h.2

theorem step_whole {e : Event} (h : s.busy e = false) : s.step resolve (.whole e) =
    { s with sys := s.sys.step e }.setProgress e.conn (s.progressAfter e) := by
  simp only [step, h, Bool.false_eq_true, if_false]

theorem step_whole_busy {e : Event} (h : s.busy e = true) : s.step resolve (.whole e) = s := by
  simp only [step, h, if_true]

theorem step_read (resolve : String → String) (s : Threads) (c : Conn) (chunk : Chunk) :
    s.step resolve (.read c chunk) = s ∨ (∃ u, s.sys.uploading c = some u) ∧ s.next c = none ∧
      s.step resolve (.read c chunk) = s.setNext c (some (.acknowledge chunk)) := by
  cases hu : s.sys.uploading c with
  | none => exact Or.inl (by simp only [step, hu])
  | some u =>
    cases hn : s.next c with
    | none => exact Or.inr ⟨⟨u, rfl⟩, rfl, by simp only [step, hu, hn]⟩
    | some a => exact Or.inl (by simp only [step, hu, hn])

theorem step_advance_some (hu : s.sys.uploading c = some u) {a : Statement}
    (hn : s.next c = some a) (fate : Fate) :
    s.step resolve (.advance c fate) = s.execute resolve c u a fate := by
  simp only [step, hu, hn]

theorem step_advance_none (hn : s.next c = none) (fate : Fate) :
    s.step resolve (.advance c fate) = s := by
  cases hu : s.sys.uploading c <;> simp only [step, hu, hn]

theorem execute_frame (resolve : String → String) (s : Threads) (c : Conn) (u : Uploading)
    (a : Statement) (fate : Fate) {d : Conn} (hd : d ≠ c) :
    (s.execute resolve c u a fate).sys.uploading d = s.sys.uploading d ∧
      (s.execute resolve c u a fate).next d = s.next d ∧
        (s.execute resolve c u a fate).progress d = s.progress d := by
  have hset : ∀ (r : Sys) (h : Handler), (r.setHandler c h).uploading d = r.uploading d :=
    fun r h => uploading_congr (AList.lookup_insert_ne hd)
  have hnext : ∀ b : Option Statement, Function.update s.next c b d = s.next d :=
    fun b => Function.update_of_ne hd b s.next
  have hprogress : ∀ p : Progress, Function.update s.progress c p d = s.progress d :=
    fun p => Function.update_of_ne hd p s.progress
  cases a with
  | acknowledge chunk =>
    cases fate with
    | ok => exact ⟨hset _ _, hnext _, rfl⟩
    | fails n => exact ⟨hset _ _, hnext _, hprogress _⟩
  | report =>
    cases fate with
    | ok => exact ⟨rfl, hnext _, hprogress _⟩
    | fails n => exact ⟨hset _ _, hnext _, hprogress _⟩
  | addFile =>
    simp only [execute]
    cases joined u.file u.chunks with
    | none => exact ⟨hset _ _, hnext _, hprogress _⟩
    | some p => exact ⟨rfl, hnext _, hprogress _⟩
  | openFile file bytes =>
    cases fate with
    | ok => exact ⟨rfl, hnext _, rfl⟩
    | fails n => exact ⟨hset _ _, hnext _, hprogress _⟩
  | writeFile file bytes =>
    cases fate with
    | ok => exact ⟨hset _ _, hnext _, rfl⟩
    | fails n => exact ⟨hset _ _, hnext _, hprogress _⟩

theorem run_stopped (hn : s.next c = none) (fates : List Fate) :
    run (step resolve) s (fates.map (.advance c)) = s := by
  induction fates with
  | nil => rfl
  | cons fate fates ih => rw [List.map_cons, run_cons, step_advance_none hn, ih]

theorem run_advance_cons (hu : s.sys.uploading c = some u) {a : Statement} (hn : s.next c = some a)
    (fate : Fate) (fates : List Fate) :
    run (step resolve) s ((fate :: fates).map (.advance c)) =
      run (step resolve) (s.execute resolve c u a fate) (fates.map (.advance c)) := by
  rw [List.map_cons, run_cons, step_advance_some hu hn]

@[simp] theorem uploading_setHandler (s : Sys) (h : Handler) (file : Option File)
    (chunks : List Chunk) : (s.setHandler c { h with phase := .upload file chunks }).uploading c =
      some ⟨{ h with phase := .upload file chunks }, file, chunks⟩ :=
  uploading_eq_some.2 ⟨AList.lookup_insert _, rfl⟩

@[simp] theorem setNext_next (statement : Option Statement) :
    (s.setNext c statement).next = Function.update s.next c statement := rfl

@[simp] theorem leaveFailed_next : (s.leaveFailed c u).next = Function.update s.next c none := rfl

@[simp] theorem leave_next : (s.leave c u).next = Function.update s.next c none := rfl

theorem run_save (hu : s.sys.uploading c = some u) {file : File} {bytes : Bytes}
    (hn : s.next c = some (.openFile file bytes)) (outcome : SaveOutcome) :
    let t := run (step id) s ([outcome.fates.1, outcome.fates.2].map (.advance c))
    t.sys = (s.sys.save file bytes outcome).setHandler c { u.handler with phase := .commands } ∧
      t.next = Function.update s.next c none := by
  have hopened : (s.execute id c u (.openFile file bytes) .ok).next c =
      some (.writeFile file bytes) := Function.update_self c _ s.next
  have hu' : (s.execute id c u (.openFile file bytes) .ok).sys.uploading c = some u := hu
  rw [run_advance_cons hu hn]
  cases outcome with
  | notFound =>
    rw [run_stopped]
    · exact ⟨rfl, rfl⟩
    · exact Function.update_self c _ s.next
  | ok =>
    rw [SaveOutcome.fates, run_advance_cons hu' hopened]
    refine ⟨?_, ?_⟩
    · simp [execute, leave, setNext, put, truncate, place, File.key, Sys.save, Sys.setHandler]
    · simp [execute, leave, setNext, put, truncate]
  | partly n =>
    rw [SaveOutcome.fates, run_advance_cons hu' hopened]
    refine ⟨?_, ?_⟩
    · simp [execute, leave, leaveFailed, setProgress, setNext, put, truncate, place, File.key, Sys.save,
        Sys.setHandler]
    · simp [execute, leave, leaveFailed, setProgress, setNext, put, truncate]

theorem run_add (hu : s.sys.uploading c = some u) (hn : s.next c = some .addFile) (env : Env) :
    let t := run (step id) s ([.ok, env.save.fates.1, env.save.fates.2].map (.advance c))
    t.sys = s.sys.completeUpload c u.handler u.file u.chunks env ∧
      t.next = Function.update s.next c none := by
  rw [run_advance_cons hu hn]
  cases hj : joined u.file u.chunks with
  | none =>
    have hadd : s.execute id c u .addFile .ok =
        ({ s with sys := s.sys.kill c u.handler }.setProgress c
          { s.progress c with failed := true }).setNext c none := by simp only [execute, hj]
    rw [hadd, run_stopped (Function.update_self c none s.next)]
    refine ⟨?_, rfl⟩
    simp only [Sys.completeUpload, hj]
    rfl
  | some p =>
    obtain ⟨file, bytes⟩ := p
    have hadd : s.execute id c u .addFile .ok =
        (s.addFile c file bytes).setNext c (some (.openFile file bytes)) := by
      simp only [execute, hj]
    have hopen : ((s.addFile c file bytes).setNext c (some (.openFile file bytes))).next c =
        some (.openFile file bytes) := Function.update_self c _ _
    have hu' : ((s.addFile c file bytes).setNext c
        (some (.openFile file bytes))).sys.uploading c = some u := hu
    obtain ⟨hsys, hnext⟩ := run_save hu' hopen env.save
    rw [hadd]
    refine ⟨hsys.trans ?_, hnext.trans (Function.update_idem _ _ _)⟩
    simp only [Sys.completeUpload, hj]
    rfl

theorem run_complete (hu : s.sys.uploading c = some u) (hn : s.next c = some .report) (env : Env) :
    let t := run (step id) s ([.of env.completeFails, .ok, env.save.fates.1,
      env.save.fates.2].map (.advance c))
    (t.sys = if env.completeFails then s.sys.setHandler c { u.handler with phase := .commands }
      else
        let done : Message :=
          { text := some "File upload completed!", type := some .FILE_UL_COMPLETE }
        { s.sys with out := s.sys.out ++ [(c, done)] }.completeUpload c u.handler u.file
          u.chunks env) ∧ t.next = Function.update s.next c none := by
  rw [run_advance_cons hu hn]
  cases hc : env.completeFails with
  | true =>
    rw [run_stopped]
    · exact ⟨rfl, rfl⟩
    · exact Function.update_self c _ s.next
  | false =>
    have hu' : (s.execute id c u .report .ok).sys.uploading c = some u := hu
    obtain ⟨hsys, hnext⟩ := run_add hu' (Function.update_self c _ s.next) env
    exact ⟨hsys, hnext.trans (Function.update_idem _ _ _)⟩

theorem completeUpload_setHandler (s : Sys) (h h' : Handler) (p : Phase) (file : Option File)
    (chunks : List Chunk) (env : Env) :
    (s.setHandler c h').completeUpload c { h with phase := p } file chunks env =
      s.completeUpload c h file chunks env := by
  unfold Sys.completeUpload
  cases joined file chunks with
  | none => simp [Sys.kill, Sys.setHandler]
  | some p => cases henv : env.save <;> simp [Sys.setHandler, Sys.save]

theorem run_round (hu : s.sys.uploading c = some u) (hn : s.next c = none) (chunk : Chunk)
    (env : Env) :
    let t := run (step id) s (.read c chunk :: [.of (env.writeFails c), .of env.completeFails, .ok,
      env.save.fates.1, env.save.fates.2].map (.advance c))
    t.sys = s.sys.handleFileUpload c u.handler u.file u.chunks (.chunk chunk) env ∧
      t.next = Function.update s.next c none := by
  have hread : s.step id (.read c chunk) = s.setNext c (some (.acknowledge chunk)) := by
    simp only [step, hu, hn]
  have hu' : (s.setNext c (some (.acknowledge chunk))).sys.uploading c = some u := hu
  rw [run_cons, hread, run_advance_cons hu' (Function.update_self c _ s.next)]
  cases hw : env.writeFails c with
  | true =>
    rw [run_stopped]
    · refine ⟨?_, ?_⟩
      · simp [execute, Fate.of, leaveFailed, leave, setNext, setProgress, Sys.handleFileUpload, hw]
      · simp [execute, Fate.of, leaveFailed, leave, setNext, setProgress]
    · exact Function.update_self c _ _
  | false =>
    by_cases hlast : chunk.chunkNo = chunk.totalChunks
    · let t := (s.setNext c (some (.acknowledge chunk))).execute id c u (.acknowledge chunk) .ok
      have ht : t.sys.uploading c = some
          ⟨{ u.handler with phase := .upload u.file (u.chunks ++ [chunk]) }, u.file,
            u.chunks ++ [chunk]⟩ := uploading_setHandler _ u.handler u.file _
      have hreport : t.next c = some .report := by simp [t, execute, hlast]
      obtain ⟨hsys, hnext⟩ := run_complete ht hreport env
      refine ⟨hsys.trans ?_, hnext.trans ?_⟩
      · cases hc : env.completeFails with
        | true =>
          simp [t, execute, setNext, Sys.handleFileUpload, Sys.write, Sys.setHandler, hw, hlast, hc]
        | false =>
          simp only [Sys.handleFileUpload, Sys.write, hw, hlast, hc, if_true, Bool.false_eq_true,
            if_false]
          let done : Message :=
            { text := some "File upload completed!", type := some .FILE_UL_COMPLETE }
          exact completeUpload_setHandler
            { s.sys with out := s.sys.out ++ [(c, { type := some .CHUNK_RECEIVED })] ++ [(c, done)] }
            u.handler { u.handler with phase := .upload u.file (u.chunks ++ [chunk]) }
            (.upload u.file (u.chunks ++ [chunk])) u.file (u.chunks ++ [chunk]) env
      · simp [t, execute, setNext]
    · rw [run_stopped]
      · refine ⟨?_, ?_⟩
        · simp [execute, Fate.of, setNext, Sys.handleFileUpload, Sys.write, Sys.setHandler, hw,
            hlast]
        · simp [execute, Fate.of, setNext, hlast]
      · simp [execute, Fate.of, hlast]

theorem run_moves (hidle : ∀ d, s.next d = none) (e : Event) :
    (run (step id) s (s.sys.moves e)).sys = s.sys.step e ∧
      ∀ d, (run (step id) s (s.sys.moves e)).next d = none := by
  have hwhole : s.busy e = false → (run (step id) s [.whole e]).sys = s.sys.step e ∧
      ∀ d, (run (step id) s [.whole e]).next d = none := by
    intro hbusy
    rw [run_cons, run_nil, step_whole hbusy]
    exact ⟨rfl, hidle⟩
  cases e with
  | accept c socketType ip => exact hwhole (by simp [busy, hidle])
  | receive c r env =>
    cases r with
    | chunk chunk =>
      cases hu : s.sys.uploading c with
      | none =>
        have hmoves : s.sys.moves (.receive c (.chunk chunk) env) =
            [.whole (.receive c (.chunk chunk) env)] := by simp [Sys.moves, hu]
        rw [hmoves]
        exact hwhole (by simp [busy, hidle, Event.conn, hu])
      | some u =>
        obtain ⟨hl, hp⟩ := uploading_eq_some.1 hu
        obtain ⟨hsys, hnext⟩ := run_round hu (hidle c) chunk env
        have hstep : s.sys.step (.receive c (.chunk chunk) env) =
            s.sys.handleFileUpload c u.handler u.file u.chunks (.chunk chunk) env := by
          simp only [Sys.step, hl, Sys.receive, hp]
        simp only [Sys.moves, hu, Option.isSome_some, if_true]
        refine ⟨hsys.trans hstep.symm, fun d => ?_⟩
        rw [hnext, Function.update_apply]
        split_ifs
        · rfl
        · exact hidle d
    | _ => exact hwhole (by simp [busy, hidle])

/-- Every run of the system is a run of the threads that takes one round after the other. -/
theorem exists_moves (evs : List Event) : ∃ moves,
    (run (step id) {} moves).sys = run Sys.step {} evs ∧
      ∀ d, (run (step id) {} moves).next d = none := by
  induction evs using List.reverseRecOn with
  | nil => exact ⟨[], rfl, fun _ => rfl⟩
  | append_singleton evs e ih =>
    obtain ⟨moves, hsys, hidle⟩ := ih
    refine ⟨moves ++ (run Sys.step {} evs).moves e, ?_⟩
    rw [run_append, run_snoc, ← hsys]
    exact run_moves hidle e

end Threads

end NetSessional.FileServer
