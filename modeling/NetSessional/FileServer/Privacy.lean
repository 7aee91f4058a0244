import NetSessional.FileServer.Calls

/-! What the lookups tell of a user's private files. `removeIf` takes the private files out of the
stored list itself, so the lists of two runs that differ in them are compared behind the filter. -/

namespace NetSessional.FileServer

open Runs

def StoreOp.hides (A : Name) : StoreOp → Bool
  | .addFile user file => decide (user = A) && !file.isPublic
  | _ => false

/-- A lookup of another user's files, or of the own ones by someone other than `A`. -/
def StoreOp.observed (A : Name) : StoreOp → Bool
  | .addFile _ _ => false
  | .lookupFilesSelf user => decide (user ≠ A)
  | .lookupFilesOther _ => true

/-- An access to the store, the connection it is made for, and whether the answer is lost. -/
structure Access where
  conn : Conn
  op : StoreOp
  lost : Bool
  deriving DecidableEq

namespace Sys

def access (s : Sys) : Event → Option Access
  | .accept _ _ _ => none
  | .receive c r env =>
    (s.call (.receive c r env)).storeOp.map fun op => ⟨c, op, env.writeFails c⟩

/-- The access of a step, unless it is a hidden one. -/
def shown (A : Name) (s : Sys) (e : Event) : Option Access :=
  (s.access e).filter fun a => !a.op.hides A

def written (s : Sys) (e : Event) : List (Conn × Message) := (s.step e).out.drop s.out.length

def observation (A : Name) (s : Sys) (e : Event) : Option (List (Conn × Message)) :=
  ((s.access e).filter fun a => a.op.observed A).map fun _ => s.written e

end Sys

/-- The accesses of a run but for the hidden ones, and the responses to its observed lookups. -/
def shownAccesses (A : Name) (s : Sys) (evs : List Event) : List Access :=
  collect Sys.step (Sys.shown A) s evs

def observations (A : Name) (s : Sys) (evs : List Event) : List (List (Conn × Message)) :=
  collect Sys.step (Sys.observation A) s evs

/-- The lists differ in private files of `A` only. -/
structure SameBut (A : Name) (s t : Server) : Prop where
  others : ∀ u, u ≠ A → s.fileList u = t.fileList u
  shared : ∀ u, (s.fileList u).filter File.isPublic = (t.fileList u).filter File.isPublic

def StoreOp.response (s : Server) : StoreOp → Message
  | .addFile _ _ => {}
  | .lookupFilesSelf user =>
    { text := some (arrayListToString ((s.fileList user).map File.toString))
      type := some .FILE_LIST }
  | .lookupFilesOther user =>
    { text := some ("Files uploaded by " ++ user.text ++ ":\n" ++
        arrayListToString (((s.fileList user).filter File.isPublic).map File.toString))
      type := some .SERVER_RESPONSE }

section Step
variable {A : Name} {s t : Sys} {e : Event} {a : Access}

theorem drop_write {server : Server} (c : Conn) (msg : Message) (env : Env) :
    ({ s with server := server }.write c msg env).out.drop s.out.length =
      if env.writeFails c then [] else [(c, msg)] := by
  unfold Sys.write
  split_ifs
  · exact List.drop_length
  · exact List.drop_left

theorem written_lookup (ha : s.access e = some a) (hobs : a.op.observed A = true) :
    s.written e = if a.lost then [] else [(a.conn, a.op.response s.server)] := by
  cases e with
  | accept c socketType ip => cases ha
  | receive c r env =>
    obtain ⟨op, hop, rfl⟩ := Option.map_eq_some_iff.1 ha
    have hne : s.call (.receive c r env) ≠ .nothing := by
      intro hnothing
      rw [hnothing] at hop
      cases hop
    obtain ⟨_, _, he, -⟩ | ⟨_, h, _, _, heq, hl, hcalls⟩ := Sys.call_cases rfl hne
    · cases he
    cases heq
    unfold Sys.written
    generalize hcall : s.call (.receive c r env) = call at hop hcalls
    cases hcalls with
    | lookupSelf msg hp htype =>
      obtain rfl := Option.some.inj hop
      rw [Sys.step_command hl hp, lookupSelf_step htype, drop_write, Server.getFileList_snd]
      rfl
    | lookupOther msg hp htype =>
      obtain rfl := Option.some.inj hop
      rw [Sys.step_command hl hp, lookupOther_step htype, drop_write, Server.getPublicFileList_snd]
      rfl
    | completed chunks chunk hp hlast =>
      obtain rfl := Option.some.inj hop
      cases hobs
    | _ => cases hop

theorem step_fileList (s : Sys) (e : Event) (u : Name) : (s.step e).server.fileList u =
    match s.access e with
    | none => s.server.fileList u
    | some a => (s.server.access a.op).fileList u := by
  rw [Sys.step_server, perform_fileList]
  cases e with
  | accept c socketType ip =>
    simp only [Sys.call, Sys.access]
    split_ifs <;> rfl
  | receive c r env =>
    simp only [Sys.access]
    cases (s.call (.receive c r env)).storeOp <;> rfl

end Step

section Relation
variable {A : Name} {s t s' t' : Server}

theorem SameBut.symm (h : SameBut A s t) : SameBut A t s :=
  ⟨fun u hu => (h.others u hu).symm, fun u => (h.shared u).symm⟩

theorem SameBut.congr (h : SameBut A s t) (hs : ∀ u, s'.fileList u = s.fileList u)
    (ht : ∀ u, t'.fileList u = t.fileList u) : SameBut A s' t' := by
  refine ⟨fun u hu => ?_, fun u => ?_⟩
  · rw [hs, ht]
    exact h.others u hu
  · rw [hs, ht]
    exact h.shared u

theorem SameBut.access (h : SameBut A s t) (op : StoreOp) :
    SameBut A (s.access op) (t.access op) := by
  cases op with
  | addFile user file =>
    refine ⟨fun u hu => ?_, fun u => ?_⟩
    · simp only [Server.access, Server.fileList_addFile]
      split_ifs with huser
      · rw [h.others user (huser ▸ hu)]
      · exact h.others u hu
    · simp only [Server.access, Server.fileList_addFile]
      split_ifs
      · rw [List.filter_append, List.filter_append, h.shared user]
      · exact h.shared u
  | lookupFilesSelf user =>
    exact h.congr (Server.fileList_getFileList s user) (Server.fileList_getFileList t user)
  | lookupFilesOther user =>
    refine ⟨fun u hu => ?_, fun u => ?_⟩
    · simp only [Server.access, Server.fileList_getPublicFileList]
      split_ifs
      · exact h.shared user
      · exact h.others u hu
    · simp only [Server.access, Server.fileList_getPublicFileList]
      split_ifs
      · rw [h.shared user]
      · exact h.shared u

theorem SameBut.hidden (h : SameBut A s t) {op : StoreOp} (hop : op.hides A = true) :
    SameBut A (s.access op) t := by
  cases op with
  | addFile user file =>
    have hboth : user = A ∧ file.isPublic = false := by simpa [StoreOp.hides] using hop
    obtain ⟨rfl, hprivate⟩ := hboth
    refine ⟨fun u hu => ?_, fun u => ?_⟩
    · simp only [Server.access, Server.fileList_addFile]
      rw [if_neg hu]
      exact h.others u hu
    · simp only [Server.access, Server.fileList_addFile]
      split_ifs with hu
      · have hnone : [file].filter File.isPublic = [] := by simp [hprivate]
        rw [List.filter_append, hnone, List.append_nil, hu]
        exact h.shared user
      · exact h.shared u
  | lookupFilesSelf user => cases hop
  | lookupFilesOther user => cases hop

theorem SameBut.response (h : SameBut A s t) {op : StoreOp} (hop : op.observed A = true) :
    op.response s = op.response t := by
  cases op with
  | addFile user file => cases hop
  | lookupFilesSelf user =>
    have hne : user ≠ A := by simpa [StoreOp.observed] using hop
    simp only [StoreOp.response, h.others user hne]
  | lookupFilesOther user => simp only [StoreOp.response, h.shared user]

theorem not_observed_of_hides {op : StoreOp} (h : op.hides A = true) : op.observed A = false := by
  cases op with
  | addFile user file => rfl
  | lookupFilesSelf user => cases h
  | lookupFilesOther user => cases h

end Relation

section Runs
variable {A : Name} {s t : Sys} {e e' : Event} {a : Access}

/-- A step without an access, or with a hidden one, changes nothing that is observed. -/
theorem hidden_step (h : SameBut A s.server t.server) (hnone : s.shown A e = none) :
    SameBut A (s.step e).server t.server ∧ s.observation A e = none := by
  have hlists := step_fileList s e
  unfold Sys.observation
  cases ha : s.access e with
  | none =>
    rw [ha] at hlists
    exact ⟨h.congr hlists fun _ => rfl, rfl⟩
  | some a =>
    rw [ha] at hlists
    have hhides : a.op.hides A = true := by simpa [Sys.shown, ha, Option.filter] using hnone
    refine ⟨(h.hidden hhides).congr hlists fun _ => rfl, ?_⟩
    simp [Option.filter, not_observed_of_hides hhides]

theorem shown_step (h : SameBut A s.server t.server) (hs : s.shown A e = some a)
    (ht : t.shown A e' = some a) :
    SameBut A (s.step e).server (t.step e').server ∧ s.observation A e = t.observation A e' := by
  have has : s.access e = some a := (Option.filter_eq_some_iff.1 hs).1
  have hat : t.access e' = some a := (Option.filter_eq_some_iff.1 ht).1
  have hlists := step_fileList s e
  have hlists' := step_fileList t e'
  rw [has] at hlists
  rw [hat] at hlists'
  refine ⟨(h.access a.op).congr hlists hlists', ?_⟩
  unfold Sys.observation
  rw [has, hat]
  by_cases hobs : a.op.observed A = true
  · have hw := written_lookup has hobs
    have hw' := written_lookup hat hobs
    rw [hw, hw', h.response hobs]
  · simp [Option.filter, hobs]

end Runs

/-- Runs of the server whose accesses to the store differ in private files added under `A` only, in
whatever number and at whatever places, answer alike every lookup of another user's files, and every
lookup of the own ones by anyone but `A`. -/
theorem private_files_hidden (A : Name) (evs evs' : List Event)
    (h : shownAccesses A {} evs = shownAccesses A {} evs') :
    observations A {} evs = observations A {} evs' :=
  collect_eq_of_unwinding (R := fun s t => SameBut A s.server t.server)
    (fun _ _ hst => hst.symm) (fun _ _ _ hst hnone => hidden_step hst hnone)
    (fun _ _ _ _ _ hst hs ht => shown_step hst hs ht) ⟨fun _ _ => rfl, fun _ => rfl⟩ h

/-- A lookup by `v`, before which `u` uploads this file or not. -/
def lookedUp (uploaded : List File) : List Event :=
  (.accept 1 true "/10.0.0.1" :: uploaded.flatMap fun file =>
    [.receive 1 (.message { type := some .FILE_INIT, file := some file }) {},
      .receive 1 (.chunk ⟨some [1], 1, 1, 1⟩) {}]) ++
  [.accept 2 false "/10.0.0.2",
    .receive 2 (.message { type := some .LOGIN_REQUEST, user := some "v" }) {},
    .receive 2 (.message { type := some .LOOKUP_FILES_OTHER, text := some "u" }) {}]

theorem private_file_hidden :
    observations (some "u") {} (lookedUp [{ fileName := some "a", owner := some "u" }]) =
      observations (some "u") {} (lookedUp []) :=
  private_files_hidden (some "u") _ _ (by decide +kernel)

end NetSessional.FileServer
