import NetSessional.FileServer.Sessions

/-! Who adds files to a user's list. The file socket has no login, and neither a grant nor the owner
is checked there: an entry goes back to the `FILE_INIT` that named it, and to nothing else. -/

namespace NetSessional.FileServer

open Runs

def Sys.completed (s : Sys) (e : Event) : Option (Conn × File) :=
  match s.call e with
  | .addFile _ file => some (e.conn, file)
  | _ => none

def completions (s : Sys) (evs : List Event) : List (Conn × File) :=
  collect Sys.step Sys.completed s evs

/-- In these events `c` was accepted on the file socket and received a `FILE_INIT` with this file,
and since then only chunks, and objects of unknown classes. -/
def Announced (c : Conn) (file : Option File) (evs : List Event) : Prop :=
  ∃ pre msg env mid, evs = pre ++ .receive c (.message msg) env :: mid ∧
    (∃ ip, .accept c true ip ∈ pre) ∧ msg.type = some .FILE_INIT ∧ msg.file = file ∧
    ∀ r env, .receive c r env ∈ mid → (∃ chunk, r = .chunk chunk) ∨ r = .classNotFound

/-- A client that is logged in as the owner of the file, from the address of `c`, and has been sent
a `FILE_ACCEPT` for it. -/
def Granted (s : Sys) (c : Conn) (file : File) : Prop :=
  ∃ d h k msg, s.handlers.lookup d = some h ∧ h.socketType = false ∧ h.login = .ok ∧
    h.user = file.owner ∧ s.handlers.lookup c = some k ∧ k.ip = h.ip ∧ (d, msg) ∈ s.out ∧
    msg.type = some .FILE_ACCEPT ∧
    msg.file.map (fun f => (f.owner, f.fileName)) = some (file.owner, file.fileName)

section History
variable {c : Conn} {file : Option File} {evs : List Event}

theorem Announced.snoc (h : Announced c file evs) {e : Event}
    (he : ∀ r env, e = .receive c r env → (∃ chunk, r = .chunk chunk) ∨ r = .classNotFound) :
    Announced c file (evs ++ [e]) := by
  obtain ⟨pre, msg, env, mid, rfl, haccept, htype, hfile, hmid⟩ := h
  refine ⟨pre, msg, env, mid ++ [e], by simp, haccept, htype, hfile, fun r env hr => ?_⟩
  rcases List.mem_append.1 hr with hr | hr
  · exact hmid r env hr
  · exact he r env (List.mem_singleton.1 hr).symm

/-- What a handler owes to the history of its connection. -/
structure Accountable (evs : List Event) (c : Conn) (h : Handler) : Prop where
  socket : h.socketType = true → ∃ ip, .accept c true ip ∈ evs
  upload : ∀ file chunks, h.phase = .upload file chunks → Announced c file evs

theorem Accountable.snoc {h : Handler} (hc : Accountable evs c h) {e : Event}
    (he : ∀ r env, e ≠ .receive c r env) : Accountable (evs ++ [e]) c h := by
  refine ⟨fun hsocket => ?_, fun file chunks hup => ?_⟩
  · obtain ⟨ip, hip⟩ := hc.socket hsocket
    exact ⟨ip, List.mem_append_left [e] hip⟩
  · exact (hc.upload file chunks hup).snoc fun r env h => absurd h (he r env)

theorem Accountable.next {h : Handler} (hc : Accountable evs c h) (t : Sessions) (r : Received)
    (env : Env) : Accountable (evs ++ [.receive c r env]) c (h.next t c r env).2 := by
  refine ⟨fun hsocket => ?_, fun file chunks hup => ?_⟩
  · rw [Handler.next_socketType] at hsocket
    obtain ⟨ip, hip⟩ := hc.socket hsocket
    exact ⟨ip, List.mem_append_left _ hip⟩
  · rcases Handler.next_upload hup with ⟨chunks', hwas, hr⟩ | ⟨msg, -, rfl, htype, hsocket, hfile, -⟩
    · refine (hc.upload file chunks' hwas).snoc fun r' env' heq => ?_
      cases heq
      exact hr
    · exact ⟨evs, msg, env, [], rfl, hc.socket hsocket, htype, hfile,
        fun _ _ hr => absurd hr List.not_mem_nil⟩

theorem accountable_step {s : Sys}
    (hs : ∀ c h, s.handlers.lookup c = some h → Accountable evs c h) (e : Event) (c : Conn)
    (h : Handler) (hl : (s.step e).handlers.lookup c = some h) : Accountable (evs ++ [e]) c h := by
  rw [(Sys.step_advance s e).2 c] at hl
  split_ifs at hl with hconn
  · subst hconn
    cases e with
    | accept c socketType ip =>
      simp only [Event.conn] at hl
      cases hold : s.handlers.lookup c with
      | some k =>
        rw [hold] at hl
        obtain rfl := Option.some.inj hl
        exact (hs c k hold).snoc fun r env heq => by cases heq
      | none =>
        rw [hold] at hl
        cases socketType with
        | true =>
          obtain rfl := Option.some.inj hl
          exact ⟨fun _ => ⟨ip, List.mem_append_right evs (List.mem_singleton.2 rfl)⟩,
            fun file chunks hup => by cases hup⟩
        | false =>
          obtain rfl := Option.some.inj hl
          exact ⟨fun hsocket => (by cases hsocket), fun file chunks hup => by cases hup⟩
    | receive c r env =>
      simp only [Event.conn] at hl
      cases hold : s.handlers.lookup c with
      | none =>
        rw [hold] at hl
        cases hl
      | some k =>
        rw [hold] at hl
        obtain rfl := Option.some.inj hl
        exact (hs c k hold).next s.server.sessions r env
  · refine (hs c h hl).snoc fun r env heq => hconn ?_
    rw [heq]
    rfl

theorem run_accountable (evs : List Event) (c : Conn) (h : Handler)
    (hl : (run Sys.step {} evs).handlers.lookup c = some h) : Accountable evs c h := by
  induction evs using List.reverseRecOn generalizing c h with
  | nil =>
    simp at hl
  | append_singleton evs e ih =>
    rw [run_snoc] at hl
    exact accountable_step ih e c h hl

theorem announced_of_completed {e : Event} {a : Conn × File}
    (ha : (run Sys.step {} evs).completed e = some a) :
    Announced a.1 (some a.2) evs ∧
      ∃ chunk env, e = .receive a.1 (.chunk chunk) env ∧ chunk.chunkNo = chunk.totalChunks := by
  unfold Sys.completed at ha
  split at ha
  · next user file hcall =>
    obtain ⟨c, h, chunks, chunk, env, rfl, hl, hup, -, hlast⟩ := Sys.receive_of_addFile hcall
    obtain rfl := Option.some.inj ha
    exact ⟨(run_accountable evs c h hl).upload (some file) chunks hup, chunk, env, rfl, hlast⟩
  · cases ha

end History

def addedFor (u : Name) (uploads : List (Conn × File)) : List File :=
  (uploads.filter fun a => a.2.owner = u).map Prod.snd

theorem addedFor_append (u : Name) (as bs : List (Conn × File)) :
    addedFor u (as ++ bs) = addedFor u as ++ addedFor u bs := by
  simp [addedFor]

theorem step_fileList_sublist (s : Sys) (e : Event) (u : Name) :
    ((s.step e).server.fileList u).Sublist
      (s.server.fileList u ++ addedFor u (s.completed e).toList) := by
  rw [Sys.step_server, perform_fileList]
  unfold Sys.completed
  cases hcall : s.call e with
  | addFile user file =>
    obtain ⟨-, -, -, -, -, -, -, -, howner, -⟩ := Sys.receive_of_addFile hcall
    simp only [Call.storeOp, Server.access, Server.fileList_addFile, addedFor, howner]
    split_ifs with hu
    · subst hu
      simp
    · exact List.sublist_append_left _ _
  | getFileList user =>
    simp only [Call.storeOp, Server.access, Server.fileList_getFileList]
    exact List.sublist_append_left _ _
  | getPublicFileList user =>
    simp only [Call.storeOp, Server.access, Server.fileList_getPublicFileList]
    split_ifs with hu
    · subst hu
      exact List.filter_sublist.trans (List.sublist_append_left _ _)
    · exact List.sublist_append_left _ _
  | _ => exact List.sublist_append_left _ _

theorem run_fileList_sublist (evs : List Event) (u : Name) :
    ((run Sys.step {} evs).server.fileList u).Sublist (addedFor u (completions {} evs)) := by
  induction evs using List.reverseRecOn with
  | nil => exact List.Sublist.refl _
  | append_singleton evs e ih =>
    rw [run_snoc, completions, collect_snoc, addedFor_append]
    exact (step_fileList_sublist _ e u).trans (ih.append (List.Sublist.refl _))

theorem run_disk_written (evs : List Event) (path : String)
    (h : ((run Sys.step {} evs).disk.lookup path).isSome) :
    ∃ a ∈ completions {} evs, a.2.path = path := by
  induction evs using List.reverseRecOn with
  | nil => simp at h
  | append_singleton evs e ih =>
    rw [run_snoc] at h
    rw [completions, collect_snoc]
    have hbefore : ((run Sys.step {} evs).disk.lookup path).isSome →
        ∃ a ∈ completions {} evs ++ ((run Sys.step {} evs).completed e).toList, a.2.path = path := by
      intro hold
      obtain ⟨a, ha, hpath⟩ := ih hold
      exact ⟨a, List.mem_append_left _ ha, hpath⟩
    rcases Sys.step_disk (run Sys.step {} evs) e with hsame | ⟨file, bytes, hcall, hdisk⟩
    · rw [hsame] at h
      exact hbefore h
    · rw [hdisk, Table.lookup_insert] at h
      split_ifs at h with hpath
      · refine ⟨(e.conn, file), List.mem_append_right _ ?_, hpath.symm⟩
        simp [Sys.completed, hcall]
      · exact hbefore h

/-- Every entry of a list, counted as often as it is there, and every file on the disk goes back to a
completed upload over the file socket, to which the connection was entitled by its own `FILE_INIT`
with that file and its owner. -/
theorem entries_announced (evs : List Event) :
    (∀ u, ((run Sys.step {} evs).server.fileList u).Sublist (addedFor u (completions {} evs))) ∧
      (∀ path, ((run Sys.step {} evs).disk.lookup path).isSome →
        ∃ a ∈ completions {} evs, a.2.path = path) ∧
      ∀ pre e, pre ++ [e] <+: evs → ∀ a, (run Sys.step {} pre).completed e = some a →
        Announced a.1 (some a.2) pre ∧
          ∃ chunk env, e = .receive a.1 (.chunk chunk) env ∧ chunk.chunkNo = chunk.totalChunks :=
  ⟨run_fileList_sublist evs, run_disk_written evs, fun _ _ _ _ => announced_of_completed⟩

/-- A client that never logged in adds a file to the list of `u`. -/
def anonymousUpload : List Event :=
  [.accept 1 true "/10.0.0.1",
    .receive 1 (.message { type := some .FILE_INIT, file := some { owner := some "u" } }) {},
    .receive 1 (.chunk ⟨some [1], 1, 1, 1⟩) {}]

theorem anonymous_upload_added :
    ¬ ∀ pre e, pre ++ [e] <+: anonymousUpload → ∀ a, (run Sys.step {} pre).completed e = some a →
      Granted (run Sys.step {} pre) a.1 a.2 := by
  intro h
  obtain ⟨d, -, -, msg, -, -, -, -, -, -, hout, -⟩ :=
    h (anonymousUpload.take 2) (.receive 1 (.chunk ⟨some [1], 1, 1, 1⟩) {})
      (List.prefix_refl anonymousUpload) (1, { owner := some "u" }) rfl
  exact absurd hout List.not_mem_nil

end NetSessional.FileServer
