import NetSessional.FileServer.Buffer
import NetSessional.FileServer.Rounds

/-! What is really buffered, beside what is reserved: the bytes in the chunk lists of the uploads in
progress, of which each was read by another thread. The reservations bound them in the runs in which
every upload keeps to a request of its own. -/

namespace NetSessional.FileServer

open Runs

def Chunk.held (chunk : Chunk) : ℕ := (chunk.bytes.getD []).length

def Phase.buffered : Phase → ℕ
  | .upload _ chunks => (chunks.map Chunk.held).sum
  | _ => 0

def Phase.declared : Phase → ℕ
  | .upload (some file) _ => file.fileSize.toInt.toNat
  | _ => 0

/-- The bytes in the chunk lists of all calls of `handleFileUpload` in progress. -/
def Sys.buffered (s : Sys) : ℕ := Table.total (fun h => h.phase.buffered) s.handlers

def Sys.declared (s : Sys) : ℕ := Table.total (fun h => h.phase.declared) s.handlers

structure Threads.Bounded (s : Threads) : Prop where
  buffered : (s.sys.buffered : ℤ) ≤ s.sys.server.BUFFER_USED.toInt
  used : s.sys.server.BUFFER_USED.toInt ≤ Server.MAX_BUFFER_SIZE.toInt

def started (s : Sys) : Event → Option (Option File)
  | .receive c (.message msg) _ =>
    if awaitsInit s c ∧ msg.type = some .FILE_INIT then some msg.file else none
  | _ => none

/-- The threads, and the sizes of the accepted requests with which no upload has started yet. -/
structure Grants where
  threads : Threads
  free : List Int32 := []

namespace Grants

/-- An upload takes a request of the size of its file, if there is one left. -/
def freeAfter (s : Sys) (free : List Int32) (e : Event) : List Int32 :=
  match started s e with
  | some (some file) => free.erase file.fileSize
  | _ => free ++ granted s e

def step (resolve : String → String) (g : Grants) (m : Move) : Grants :=
  { threads := g.threads.step resolve m
    free := match m with
      | .whole e => if g.threads.busy e then g.free else freeAfter g.threads.sys g.free e
      | _ => g.free }

/-- An upload starts with a request left that was accepted for a file of its size, and none of its
chunks takes it beyond that size; no request is accepted for a negative size. -/
def Kept (g : Grants) : Move → Prop
  | .whole e => g.threads.busy e = false →
      (∀ size ∈ granted g.threads.sys e, 0 ≤ size) ∧
        ∀ file, started g.threads.sys e = some file →
          ∃ f, file = some f ∧ f.fileSize ∈ g.free
  | .read _ _ => True
  | .advance c .ok => ∀ u chunk, g.threads.sys.uploading c = some u →
      g.threads.next c = some (.acknowledge chunk) →
        ∃ f, u.file = some f ∧
          ((u.chunks.map Chunk.held).sum + chunk.held : ℤ) ≤ f.fileSize.toInt
  | .advance _ (.fails _) => True

end Grants

section Handlers
variable {s : Sys} {e : Event}

/-- What a connection's handler is in the midst of after a step. -/
inductive AfterStep (s : Sys) (e : Event) (k : Handler) : Prop where
  /-- an upload that starts here -/
  | starts {file : Option File} (h : Handler) (hs : started s e = some file)
    (hl : s.handlers.lookup e.conn = some h) (hp : h.phase = .commands)
    (hk : k.phase = .upload file [])
  /-- the upload of before -/
  | stays (h : Handler) (hs : started s e = none) (hl : s.handlers.lookup e.conn = some h)
    (hk : k.phase = h.phase)
  | idle (hs : started s e = none) (hk : k.phase.buffered = 0 ∧ k.phase.declared = 0)

theorem awaitsInit_iff {c : Conn} : awaitsInit s c = true ↔
    ∃ h, s.handlers.lookup c = some h ∧ h.socketType = true ∧ h.phase = .commands := by
  simp [awaitsInit, Option.any_eq_true]

/-- A `FILE_INIT` starts an upload on a file connection in the command loop, and nothing else does. -/
theorem next_of_started {c : Conn} {h : Handler} {r : Received} {env : Env} {file : Option File}
    (hl : s.handlers.lookup c = some h) (hs : started s (.receive c r env) = some file) :
    h.phase = .commands ∧ (h.next s.server.sessions c r env).2.phase = .upload file [] := by
  cases r with
  | message msg =>
    simp only [started] at hs
    split_ifs at hs with hinit
    cases hs
    obtain ⟨h', hl', hsocket, hp⟩ := awaitsInit_iff.1 hinit.1
    obtain rfl := Option.some.inj (hl.symm.trans hl')
    simp [Handler.next, hp, Handler.afterCommand, hinit.2, hsocket]
  | _ => cases hs

theorem afterStep (he : ∀ c chunk env, e = .receive c (.chunk chunk) env → s.uploading c = none)
    {k : Handler} (hk : (s.step e).handlers.lookup e.conn = some k) : AfterStep s e k := by
  have hadv := (Sys.step_advance s e).2 e.conn
  rw [if_pos rfl, hk] at hadv
  cases e with
  | accept c socketType ip =>
    cases hl : s.handlers.lookup c with
    | some h =>
      simp only [Event.conn, hl, Sys.advance, Option.some.injEq] at hadv
      exact .stays h rfl hl (hadv ▸ rfl)
    | none =>
      simp only [Event.conn, hl, Sys.advance] at hadv
      refine .idle rfl ?_
      split_ifs at hadv <;> cases hadv <;> exact ⟨rfl, rfl⟩
  | receive c r env =>
    cases hl : s.handlers.lookup c with
    | none => simp [Event.conn, hl, Sys.advance] at hadv
    | some h =>
      simp only [Event.conn, hl, Sys.advance, Option.some.injEq] at hadv
      subst hadv
      cases hs : started s (.receive c r env) with
      | some file =>
        obtain ⟨hp, hnext⟩ := next_of_started hl hs
        exact .starts h hs hl hp hnext
      | none =>
        cases hp : (h.next s.server.sessions c r env).2.phase with
        | upload file chunks =>
          rcases Handler.next_upload hp with
            ⟨chunks', hup, ⟨chunk, rfl⟩ | rfl⟩ | ⟨msg, hcommands, rfl, htype, hsocket, rfl, rfl⟩
          · have hnone := he c chunk env rfl
            have hsome : s.uploading c = some ⟨h, file, chunks'⟩ := uploading_eq_some.2 ⟨hl, hup⟩
            cases hnone.symm.trans hsome
          · refine .stays h hs hl ?_
            simp only [Handler.next, hup, Handler.afterUploadRead]
          · have hinit : awaitsInit s c = true := awaitsInit_iff.2 ⟨h, hl, hsocket, hcommands⟩
            simp [started, hinit, htype] at hs
        | _ => exact .idle hs (by rw [hp]; exact ⟨rfl, rfl⟩)

theorem total_step (φ : Handler → ℕ) (s : Sys) (e : Event) :
    Table.total φ (s.step e).handlers + ((s.handlers.lookup e.conn).map φ).getD 0 =
      Table.total φ s.handlers + (((s.step e).handlers.lookup e.conn).map φ).getD 0 := by
  have hadv := (Sys.step_advance s e).2
  have hconn := hadv e.conn
  rw [if_pos rfl] at hconn
  rw [hconn]
  refine Table.total_update _ hadv fun hnone => ?_
  cases hl : s.handlers.lookup e.conn with
  | none => rfl
  | some h =>
    rw [hl] at hnone
    exact absurd hnone (Sys.advance_some s.server.sessions h e)

theorem declared_step (he : ∀ c chunk env, e = .receive c (.chunk chunk) env → s.uploading c = none) :
    (s.step e).declared ≤ s.declared + match started s e with
      | some (some file) => file.fileSize.toInt.toNat
      | _ => 0 := by
  have htotal := total_step (fun h => h.phase.declared) s e
  unfold Sys.declared
  cases hk : (s.step e).handlers.lookup e.conn with
  | none =>
    simp only [hk, Option.map_none, Option.getD_none] at htotal
    omega
  | some k =>
    simp only [hk, Option.map_some, Option.getD_some] at htotal
    cases afterStep he hk with
    | @starts file h hs hl hp hk =>
      simp only [hl, Option.map_some, Option.getD_some, hp, hk] at htotal
      rw [hs]
      cases file <;> simp only [Phase.declared] at htotal ⊢ <;> omega
    | stays h hs hl hk =>
      simp only [hl, Option.map_some, Option.getD_some, hk] at htotal
      rw [hs]
      dsimp only
      omega
    | idle hs hk =>
      simp only [hk.2] at htotal
      rw [hs]
      dsimp only
      omega

theorem granted_of_started {file : Option File} (hs : started s e = some file) :
    granted s e = [] := by
  refine List.eq_nil_iff_forall_not_mem.2 fun size hsize => ?_
  obtain ⟨c, msg, env, f, rfl, htype, -, -⟩ := call_useBuffer (granted_call hsize)
  simp [started, htype] at hs

end Handlers

namespace Grants

/-- The size of every accepted request is at the disposal of an upload, or taken by one, whose chunks
are within it. -/
structure Inv (g : Grants) : Prop where
  within : ∀ c h, g.threads.sys.handlers.lookup c = some h → h.phase.buffered ≤ h.phase.declared
  reserved : (g.free.map Int32.toInt).sum + g.threads.sys.declared ≤
    g.threads.sys.server.BUFFER_USED.toInt
  nonneg : ∀ size ∈ g.free, 0 ≤ size.toInt
  used : g.threads.sys.server.BUFFER_USED.toInt ≤ 100000000

variable {resolve : String → String} {g : Grants} {c : Conn} {u : Uploading}

theorem Inv.free_nonneg (h : Inv g) : 0 ≤ (g.free.map Int32.toInt).sum :=
  List.sum_nonneg (by simpa using h.nonneg)

theorem Inv.bounded (h : Inv g) : g.threads.Bounded := by
  have hle : g.threads.sys.buffered ≤ g.threads.sys.declared := Table.total_le_total h.within
  have hfree := h.free_nonneg
  have hreserved := h.reserved
  exact ⟨by omega, h.used⟩

theorem within_whole (h : Inv g) {e : Event} (hbusy : g.threads.busy e = false) (d : Conn)
    (k : Handler) (hk : (g.threads.sys.step e).handlers.lookup d = some k) :
    k.phase.buffered ≤ k.phase.declared := by
  by_cases hd : d = e.conn
  · subst hd
    cases afterStep (Threads.busy_eq_false hbusy).2 hk with
    | starts h' hs hl hp hk =>
      rw [hk]
      exact Nat.zero_le _
    | stays h' hs hl hk =>
      rw [hk]
      exact h.within e.conn h' hl
    | idle hs hk => omega
  · rw [Sys.step_frame _ e hd] at hk
    exact h.within d k hk

theorem inv_whole (h : Inv g) {e : Event} (hbusy : g.threads.busy e = false)
    (hkept : Kept g (.whole e)) : Inv (g.step resolve (.whole e)) := by
  obtain ⟨hsizes, hstarted⟩ := hkept hbusy
  have hfree := h.free_nonneg
  have hreserved := h.reserved
  have h0 : 0 ≤ g.threads.sys.server.BUFFER_USED.toInt := by omega
  obtain ⟨hused, hbound⟩ := step_used h0 h.used e
  have hdeclared := declared_step (Threads.busy_eq_false hbusy).2
  have hthreads : (g.step resolve (.whole e)).threads.sys = g.threads.sys.step e := by
    simp only [step, Threads.step_whole hbusy]
    rfl
  have hafter : (g.step resolve (.whole e)).free = freeAfter g.threads.sys g.free e := by
    simp [step, hbusy]
  refine ⟨?_, ?_, ?_, ?_⟩
  · rw [hthreads]
    exact within_whole h hbusy
  · rw [hthreads, hafter, hused]
    unfold freeAfter
    cases hs : started g.threads.sys e with
    | none =>
      simp only [hs, List.map_append, List.sum_append] at hdeclared ⊢
      omega
    | some file =>
      obtain ⟨f, rfl, hmem⟩ := hstarted file hs
      have herase := List.sum_map_erase Int32.toInt hmem
      obtain ⟨n, hn⟩ := Int.eq_ofNat_of_zero_le (h.nonneg f.fileSize hmem)
      simp only [hs, hn, Int.toNat_natCast, granted_of_started hs, List.map_nil, List.sum_nil]
        at hdeclared herase ⊢
      omega
  · rw [hafter]
    intro size hsize
    unfold freeAfter at hsize
    split at hsize
    · exact h.nonneg size (List.mem_of_mem_erase hsize)
    · rcases List.mem_append.1 hsize with hold | hnew
      · exact h.nonneg size hold
      · exact Int32.le_iff_toInt_le.1 (hsizes size hnew)
  · rw [hthreads]
    exact hbound

theorem inv_round (h : Inv g) {k : Handler} (hl : g.threads.sys.handlers.lookup c = some k)
    {t : Threads} (k' : Handler) (hhandlers : t.sys.handlers = g.threads.sys.handlers.insert c k')
    (hused : t.sys.server.BUFFER_USED = g.threads.sys.server.BUFFER_USED)
    (hwithin : k'.phase.buffered ≤ k'.phase.declared)
    (hdeclared : k'.phase.declared ≤ k.phase.declared) : Inv { g with threads := t } := by
  have htotal := Table.total_insert (fun h => h.phase.declared) g.threads.sys.handlers c k'
  rw [hl, ← hhandlers] at htotal
  simp only [Option.map_some, Option.getD_some] at htotal
  have hreserved := h.reserved
  refine ⟨fun d j hj => ?_, ?_, h.nonneg, hused ▸ h.used⟩
  · simp only [hhandlers, Table.lookup_insert] at hj
    split_ifs at hj
    · cases hj
      exact hwithin
    · exact h.within d j hj
  · simp only [hused]
    unfold Sys.declared at hreserved ⊢
    omega

theorem inv_leave (h : Inv g) (hu : g.threads.sys.uploading c = some u) {t : Threads}
    {p : Phase} (hp : p.buffered = 0 ∧ p.declared = 0)
    (hhandlers : t.sys.handlers = g.threads.sys.handlers.insert c { u.handler with phase := p })
    (hused : t.sys.server.BUFFER_USED = g.threads.sys.server.BUFFER_USED) :
    Inv { g with threads := t } := by
  apply inv_round h (uploading_eq_some.1 hu).1 { u.handler with phase := p } hhandlers hused
  · simp [hp]
  · simp [hp]

theorem inv_of_same (h : Inv g) {t : Threads} (hhandlers : t.sys.handlers = g.threads.sys.handlers)
    (hused : t.sys.server.BUFFER_USED = g.threads.sys.server.BUFFER_USED) :
    Inv { g with threads := t } := by
  refine ⟨?_, ?_, h.nonneg, hused ▸ h.used⟩
  · simp only [hhandlers]
    exact h.within
  · simp only [hused, Sys.declared, hhandlers]
    exact h.reserved

theorem inv_acknowledge (h : Inv g) (hu : g.threads.sys.uploading c = some u) {chunk : Chunk}
    {f : File} (hf : u.file = some f)
    (hsize : ((u.chunks.map Chunk.held).sum + chunk.held : ℤ) ≤ f.fileSize.toInt) :
    Inv { g with threads := g.threads.execute resolve c u (.acknowledge chunk) .ok } := by
  obtain ⟨hl, hp⟩ := uploading_eq_some.1 hu
  apply inv_round h hl { u.handler with phase := .upload u.file (u.chunks ++ [chunk]) }
  · rfl
  · rfl
  · simp only [Phase.buffered, Phase.declared, hf, List.map_append, List.sum_append, List.map_cons,
      List.map_nil, List.sum_cons, List.sum_nil]
    omega
  · rw [hp, hf]
    rfl

theorem inv_execute (h : Inv g) (hu : g.threads.sys.uploading c = some u) {a : Statement}
    {fate : Fate} (ha : ∀ chunk, a = .acknowledge chunk → fate = .ok →
      ∃ f, u.file = some f ∧ ((u.chunks.map Chunk.held).sum + chunk.held : ℤ) ≤ f.fileSize.toInt) :
    Inv { g with threads := g.threads.execute resolve c u a fate } := by
  have hleave : ∀ t : Threads, t.sys.handlers = g.threads.sys.handlers →
      t.sys.server.BUFFER_USED = g.threads.sys.server.BUFFER_USED →
        Inv { g with threads := t.leave c u } := fun t hhandlers hused =>
    inv_leave h hu (p := .commands) ⟨rfl, rfl⟩
      (by simp only [Threads.leave, Threads.setNext, Sys.setHandler, hhandlers]) hused
  cases a with
  | acknowledge chunk =>
    cases fate with
    | ok =>
      obtain ⟨f, hf, hsize⟩ := ha chunk rfl rfl
      exact inv_acknowledge h hu hf hsize
    | fails n => exact hleave _ rfl rfl
  | report =>
    cases fate with
    | ok => exact inv_of_same h rfl rfl
    | fails n => exact hleave _ rfl rfl
  | addFile =>
    simp only [Threads.execute]
    cases joined u.file u.chunks with
    | none => exact inv_leave h hu (p := .ended) ⟨rfl, rfl⟩ rfl rfl
    | some p => exact inv_of_same h rfl (perform_buffer g.threads.sys.server (.addFile p.1.owner p.1))
  | openFile file bytes =>
    cases fate with
    | ok => exact inv_of_same h rfl rfl
    | fails n => exact hleave _ rfl rfl
  | writeFile file bytes =>
    cases fate with
    | ok => exact hleave _ rfl rfl
    | fails n => exact hleave _ rfl rfl

theorem inv_step (h : Inv g) (m : Move) (hkept : Kept g m) : Inv (g.step resolve m) := by
  cases m with
  | whole e =>
    cases hbusy : g.threads.busy e with
    | true =>
      have hsame : g.step resolve (.whole e) = g := by
        simp only [step, hbusy, Threads.step_whole_busy hbusy, if_true]
      rwa [hsame]
    | false => exact inv_whole h hbusy hkept
  | read c chunk =>
    simp only [step]
    rcases Threads.step_read resolve g.threads c chunk with hsame | ⟨-, -, hread⟩
    · rwa [hsame]
    · rw [hread]
      exact inv_of_same h rfl rfl
  | advance c fate =>
    simp only [step]
    cases hn : g.threads.next c with
    | none => rwa [Threads.step_advance_none hn]
    | some a =>
      cases hu : g.threads.sys.uploading c with
      | none =>
        have hsame : g.threads.step resolve (.advance c fate) = g.threads := by
          simp only [Threads.step, hu]
        rwa [hsame]
      | some u =>
        rw [Threads.step_advance_some hu hn]
        refine inv_execute h hu ?_
        rintro chunk rfl rfl
        exact hkept u chunk hu hn

theorem run_threads (g : Grants) (moves : List Move) :
    (run (step resolve) g moves).threads = run (Threads.step resolve) g.threads moves := by
  induction moves generalizing g with
  | nil => rfl
  | cons m moves ih => exact ih (g.step resolve m)

end Grants

/-- In the runs in which every upload keeps to a request of its own, the bytes in the chunk lists are
within what is reserved, and that within the limit, in every state reached. -/
theorem buffered_bounded (resolve : String → String) (disk : Table String Bytes)
    (moves : List Move)
    (hkept : Along (Grants.step resolve) Grants.Kept { threads := .start disk } moves) :
    Throughout (Threads.step resolve) Threads.Bounded (.start disk) moves := by
  have hinit : Grants.Inv { threads := .start disk } :=
    ⟨nofun, le_refl 0, nofun, by change (0 : Int32).toInt ≤ _; decide⟩
  have hinv := throughout_of_along (I := Grants.Inv) (fun g m h hm => Grants.inv_step h m hm) hinit
    hkept
  intro pre hp
  have hbounded := (hinv pre hp).bounded
  rwa [Grants.run_threads] at hbounded

/-- A file of two bytes is requested over one connection, and comes over the other in two chunks. -/
def grantedUpload : List Move :=
  [.whole (.accept 0 false "/10.0.0.1"),
    .whole (.receive 0 (.message { type := some .LOGIN_REQUEST, user := some "u" }) {}),
    .whole (.receive 0 (.message { type := some .FILE_REQUEST, file := some { fileSize := 2 } }) {}),
    .whole (.accept 1 true "/10.0.0.1"),
    .whole (.receive 1 (.message { type := some .FILE_INIT, file := some { fileSize := 2 } }) {}),
    .read 1 ⟨some [0], 1, 2, 1⟩, .advance 1 .ok, .read 1 ⟨some [0], 2, 2, 1⟩, .advance 1 .ok]

theorem granted_upload_bounded :
    Throughout (Threads.step id) Threads.Bounded (.start ∅) grantedUpload := by
  refine buffered_bounded id ∅ _ ?_
  simp only [grantedUpload, along_cons, along_nil, and_true]
  refine ⟨?_, ?_, ?_, ?_, ?_, trivial, ?_, trivial, ?_⟩
  · exact fun _ => ⟨fun size hsize => (nomatch hsize), nofun⟩
  · exact fun _ => ⟨fun size hsize => (nomatch hsize), nofun⟩
  · refine fun _ => ⟨fun size hsize => ?_, nofun⟩
    obtain rfl : size = 2 := List.mem_singleton.1 hsize
    decide
  · exact fun _ => ⟨fun size hsize => (nomatch hsize), nofun⟩
  · refine fun _ => ⟨fun size hsize => (nomatch hsize), ?_⟩
    rintro file ⟨⟩
    exact ⟨_, rfl, List.mem_singleton.2 rfl⟩
  · rintro u chunk ⟨⟩ ⟨⟩
    exact ⟨_, rfl, by decide⟩
  · rintro u chunk ⟨⟩ ⟨⟩
    exact ⟨_, rfl, by decide⟩

/-- A file connection without a `FILE_REQUEST`, and a first chunk of one byte. -/
def ungrantedChunk : List Move :=
  [.whole (.accept 0 true "/10.0.0.1"),
    .whole (.receive 0 (.message { type := some .FILE_INIT, file := some {} }) {}),
    .read 0 ⟨some [0], 1, 2, 1⟩, .advance 0 .ok]

theorem ungranted_chunk_buffered :
    ¬ Throughout (Threads.step id) Threads.Bounded (.start ∅) ungrantedChunk := by
  intro h
  have hbound := (h _ List.prefix_rfl).buffered
  revert hbound
  decide

end NetSessional.FileServer
