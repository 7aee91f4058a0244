import NetSessional.Lib.Registry
import NetSessional.FileServer.Rounds

/-! What is listed, what is stored and what is reported of the uploads. `FILE_UL_COMPLETE` is written
first, then the file is listed, then it is stored, and an exception in between is caught or ends the
thread. So a report is untrue when it is written; list, disk and reports agree again when the call
returns, in the runs in which this goes well. -/

namespace NetSessional.FileServer

open Runs

namespace Threads

def saving (s : Threads) (c : Conn) : Option File :=
  match s.next c with
  | some (.openFile file _) => some file
  | some (.writeFile file _) => some file
  | _ => none

/-- The disk holds the latest upload of every listed file. -/
def ListedStored (resolve : String → String) (s : Threads) : Prop :=
  ∀ u, ∀ f ∈ s.sys.server.fileList u, ∃ bytes, s.latest (u, f.fileName) = some bytes ∧
    s.sys.disk.lookup (place resolve (u, f.fileName)) = some bytes

/-- No thread is between `Server.addFile` and the return of `save`. -/
def AtRest (s : Threads) : Prop := ∀ c, s.saving c = none

/-- What is listed is stored while the threads are at rest, and an upload of which a step has failed
is neither listed nor reported. -/
structure Consistent (resolve : String → String) (s : Threads) : Prop where
  stored : s.AtRest → ListedStored resolve s
  failed : ∀ c, (s.progress c).failed = true →
    (s.progress c).reported = false ∧ (s.progress c).listed = false

/-- The upload of the call `u` is listed, and the disk holds what its chunks join to. -/
def UploadStored (resolve : String → String) (s : Threads) (u : Uploading) : Prop :=
  ∃ f bytes, joined u.file u.chunks = some (f, bytes) ∧ f ∈ s.sys.server.fileList f.owner ∧
    s.sys.disk.lookup (place resolve f.key) = some bytes

/-- The same, and while the threads are at rest an upload that has been reported is listed and
stored. -/
structure Truthful (resolve : String → String) (s : Threads) : Prop
    extends Consistent resolve s where
  reported : s.AtRest → ∀ c u, s.sys.uploading c = some u → (s.progress c).reported = true →
    UploadStored resolve s u

/-- When a call of `handleFileUpload` returns after it has reported an upload, the upload is listed
and stored. -/
def ReportsTruly (resolve : String → String) (s : Threads) (m : Move) : Prop :=
  let t := s.step resolve m
  ∀ c u, s.sys.uploading c = some u → t.sys.uploading c = none → (t.progress c).reported = true →
    UploadStored resolve t u

def Reports (s : Threads) (m : Move) : Prop :=
  ∃ c u, m = .advance c .ok ∧ s.sys.uploading c = some u ∧ s.next c = some .report

/-- An upload is reported when `join` will not throw and no step of it has failed; it is added when
no other thread saves to the same place, and nothing of another owner or name is listed there; and
saving it does not fail. -/
def SafeStatement (resolve : String → String) (s : Threads) (c : Conn) (u : Uploading) :
    Statement → Fate → Prop
  | .report, .ok => joined u.file u.chunks ≠ none ∧ (s.progress c).failed = false
  | .addFile, _ => ∀ f, u.file = some f →
      (∀ d g, s.saving d = some g → place resolve g.key ≠ place resolve f.key) ∧
        ∀ t, ∀ g ∈ s.sys.server.fileList t, place resolve g.key = place resolve f.key → g.key = f.key
  | .openFile _ _, .fails _ => False
  | .writeFile _ _, .fails _ => False
  | _, _ => True

/-- The same, and the public files of a user are not looked up while a private one is being saved:
the lookup would take it off the list. -/
def Safe (resolve : String → String) (s : Threads) : Move → Prop
  | .whole e => s.busy e = false → ∀ t, s.sys.call e = .getPublicFileList t →
      ∀ c f, s.saving c = some f → f.owner = t → f.isPublic = true
  | .read _ _ => True
  | .advance c fate => ∀ u a, s.sys.uploading c = some u → s.next c = some a →
      SafeStatement resolve s c u a fate

end Threads

/-- What a thread that is at a statement has listed and not yet stored. -/
def Statement.writing : Statement → Option (Writing File Bytes)
  | .openFile file bytes => some ⟨file, bytes, false⟩
  | .writeFile file bytes => some ⟨file, bytes, true⟩
  | _ => none

def Statement.reported : Statement → Bool
  | .acknowledge _ => false
  | .report => false
  | _ => true

def Statement.listed (a : Statement) : Bool := a.writing.isSome

/-- What a thread knows: where it stands, its call, and what has become of its upload. -/
structure Steady (a : Option Statement) (o : Option Uploading) (p : Progress) : Prop where
  inLoop : o = none → a = none
  joins : a = some .addFile → ∀ u, o = some u → joined u.file u.chunks ≠ none
  saves : ∀ x, a.bind Statement.writing = some x → ∀ u, o = some u →
    joined u.file u.chunks = some (x.entry, x.contents)
  reached : o ≠ none → p.reported = a.any Statement.reported ∧ p.listed = a.any Statement.listed
  truthful : p.failed = true → p.reported = false ∧ p.listed = false

theorem Steady.quiet {a : Option Statement} {o : Option Uploading} {p : Progress}
    (hadd : a ≠ some .addFile) (hwriting : a.bind Statement.writing = none)
    (hloop : o = none → a = none)
    (hreached : o ≠ none → p.reported = a.any Statement.reported ∧ p.listed = a.any Statement.listed)
    (htruthful : p.failed = true → p.reported = false ∧ p.listed = false) : Steady a o p :=
  ⟨hloop, fun ha => absurd ha hadd, fun _ hx => (nomatch hwriting.symm.trans hx), hreached,
    htruthful⟩

theorem Steady.idle {o : Option Uploading} {p : Progress}
    (hreached : o ≠ none → p.reported = false ∧ p.listed = false)
    (htruthful : p.failed = true → p.reported = false ∧ p.listed = false) : Steady none o p :=
  .quiet (Option.some_ne_none _).symm rfl (fun _ => rfl) hreached htruthful

namespace Threads

/-- The lists and the disk, as a registry that the threads write to. -/
def registry (s : Threads) : Registry Conn File (Name × Name) String Bytes where
  listed := {f | f ∈ s.sys.server.fileList f.owner}
  latest := s.latest
  stored path := s.sys.disk.lookup path
  writing c := (s.next c).bind Statement.writing

structure Inv (resolve : String → String) (s : Threads) : Prop where
  owned : ∀ u, ∀ f ∈ s.sys.server.fileList u, f.owner = u
  sound : s.registry.Sound File.key (place resolve) []
  steady : ∀ c, Steady (s.next c) (s.sys.uploading c) (s.progress c)

variable {resolve : String → String} {s : Threads} {c : Conn} {u : Uploading}

theorem saving_of_writing {x : Writing File Bytes} (hx : s.registry.writing c = some x) :
    s.saving c = some x.entry := by
  simp only [registry, Option.bind_eq_some_iff] at hx
  obtain ⟨a, ha, hwriting⟩ := hx
  unfold saving
  rw [ha]
  cases a with
  | openFile file bytes =>
    cases hwriting
    rfl
  | writeFile file bytes =>
    cases hwriting
    rfl
  | _ => cases hwriting

theorem Inv.consistent (h : Inv resolve s) : Consistent resolve s where
  stored hidle u f hf := by
    obtain rfl := h.owned u f hf
    refine h.sound.stored_of_idle (fun c => ?_) hf
    cases hx : s.registry.writing c with
    | none => rfl
    | some x => cases (hidle c).symm.trans (saving_of_writing hx)
  failed c := (h.steady c).truthful

section Whole
variable {e : Event}

theorem call_ne_addFile (hbusy : s.busy e = false) (v : Name) (g : File) :
    s.sys.call e ≠ .addFile v g := by
  intro hcall
  obtain ⟨d, h, chunks, chunk, env, he, hl, hp, -, -⟩ := Sys.receive_of_addFile hcall
  have hnone := (busy_eq_false hbusy).2 d chunk env he
  have hsome : s.sys.uploading d = some ⟨h, some g, chunks⟩ := uploading_eq_some.2 ⟨hl, hp⟩
  cases hnone.symm.trans hsome

theorem whole_mem_iff (hbusy : s.busy e = false) (v : Name) (f : File) :
    f ∈ (s.sys.step e).server.fileList v ↔ f ∈ s.sys.server.fileList v ∧
      (s.sys.call e = .getPublicFileList v → f.isPublic = true) := by
  rw [Sys.step_server, perform_fileList]
  cases hcall : s.sys.call e with
  | addFile w g => exact absurd hcall (call_ne_addFile hbusy w g)
  | getFileList w => simp [Call.storeOp, Server.access, Server.fileList_getFileList]
  | getPublicFileList w =>
    simp only [Call.storeOp, Server.access, Server.fileList_getPublicFileList,
      Call.getPublicFileList.injEq]
    split_ifs with hv
    · simp [hv]
    · simp [Ne.symm hv]
  | _ => simp [Call.storeOp]

theorem whole_disk (hbusy : s.busy e = false) : (s.sys.step e).disk = s.sys.disk := by
  rcases Sys.step_disk s.sys e with hdisk | ⟨f, -, hcall, -⟩
  · exact hdisk
  · exact absurd hcall (call_ne_addFile hbusy f.owner f)

theorem accept_uploading {socketType : Bool} {ip : String} (s : Sys) (c : Conn)
    (hu : (s.step (.accept c socketType ip)).uploading c ≠ none) : s.uploading c ≠ none := by
  intro hnone
  cases hl : s.handlers.lookup c with
  | some h => simp [Sys.step, hl, hnone] at hu
  | none =>
    cases socketType <;>
      simp [Sys.step, hl, Sys.uploading, Sys.handleFSLogin, Sys.setHandler] at hu

theorem progressAfter_of_some (hu : s.sys.uploading e.conn = some u) :
    (s.progressAfter e).reported = (s.progress e.conn).reported ∧
      (s.progressAfter e).listed = (s.progress e.conn).listed := by
  cases e with
  | accept c socketType ip => exact ⟨rfl, rfl⟩
  | receive c r env =>
    simp only [Event.conn] at hu
    simp only [progressAfter, hu, Event.conn, and_self]

theorem steady_whole (h : Steady (s.next e.conn) (s.sys.uploading e.conn) (s.progress e.conn))
    (hbusy : s.busy e = false) :
    Steady (s.next e.conn) ((s.sys.step e).uploading e.conn) (s.progressAfter e) := by
  have hnext := (busy_eq_false hbusy).1
  rw [hnext] at h ⊢
  have hquiet : ((s.sys.step e).uploading e.conn ≠ none ∨ (s.progressAfter e).failed = true) →
      (s.progressAfter e).reported = false ∧ (s.progressAfter e).listed = false := by
    intro hwhen
    cases hu : s.sys.uploading e.conn with
    | some u =>
      have hsame := progressAfter_of_some hu
      have hreached := h.reached (hu ▸ Option.some_ne_none u)
      exact ⟨hsame.1.trans hreached.1, hsame.2.trans hreached.2⟩
    | none =>
      cases e with
      | accept c socketType ip =>
        rcases hwhen with hloop | hfailed
        · exact absurd hu (accept_uploading s.sys c hloop)
        · exact h.truthful hfailed
      | receive c r env =>
        simp only [Event.conn] at hu
        simp only [progressAfter, hu, and_self]
  exact .idle (fun hloop => hquiet (Or.inl hloop)) fun hfailed => hquiet (Or.inr hfailed)

theorem inv_whole (h : Inv resolve s) (hbusy : s.busy e = false)
    (hsafe : Safe resolve s (.whole e)) : Inv resolve (s.step resolve (.whole e)) := by
  have hmem := whole_mem_iff hbusy
  rw [step_whole hbusy]
  refine ⟨fun v f hf => h.owned v f ((hmem v f).1 hf).1, ?_, fun d => ?_⟩
  · have hregistry : ({ s with sys := s.sys.step e }.setProgress e.conn (s.progressAfter e)).registry
        = { s.registry with listed := {f | f ∈ (s.sys.step e).server.fileList f.owner} } := by
      simp only [registry, setProgress, whole_disk hbusy]
    rw [hregistry]
    refine h.sound.delist (fun f hf => ((hmem f.owner f).1 hf).1) fun d x hx => ?_
    refine (hmem x.entry.owner x.entry).2 ⟨(h.sound.listed d x hx).1, fun hcall => ?_⟩
    exact hsafe hbusy x.entry.owner hcall d x.entry (saving_of_writing hx) rfl
  · by_cases hd : d = e.conn
    · subst hd
      simpa [setProgress] using steady_whole (h.steady e.conn) hbusy
    · have hu : (s.sys.step e).uploading d = s.sys.uploading d :=
        uploading_congr (Sys.step_frame s.sys e hd)
      simpa [setProgress, Function.update_of_ne hd, hu] using h.steady d

theorem whole_reportsTruly (h : Inv resolve s) (hbusy : s.busy e = false) :
    ReportsTruly resolve s (.whole e) := by
  intro c u hu hover hreported
  rw [step_whole hbusy] at hover hreported
  by_cases hc : c = e.conn
  · subst hc
    have hreached := (h.steady e.conn).reached (hu ▸ Option.some_ne_none u)
    rw [(busy_eq_false hbusy).1] at hreached
    have hnot : (s.progressAfter e).reported = false :=
      (progressAfter_of_some hu).1.trans hreached.1
    simp [setProgress, hnot] at hreported
  · have hsame : (s.sys.step e).uploading c = s.sys.uploading c :=
      uploading_congr (Sys.step_frame s.sys e hc)
    cases hu.symm.trans (hsame.symm.trans hover)

end Whole

section Execute

theorem writing_update (next : Conn → Option Statement) (c : Conn) (a : Option Statement) :
    (fun d => (Function.update next c a d).bind Statement.writing) =
      Function.update (fun d => (next d).bind Statement.writing) c (a.bind Statement.writing) :=
  Function.comp_update (fun b => Option.bind b Statement.writing) next c a

theorem stored_insert (disk : Table String Bytes) (path : String) (bytes : Bytes) :
    (fun p => (disk.insert path bytes).lookup p) =
      Function.update (fun p => disk.lookup p) path (some bytes) := by
  funext p
  rw [Table.lookup_insert, Function.update_apply]

theorem registry_setNext {a : Option Statement} (hnext : (s.next c).bind Statement.writing = none)
    (ha : a.bind Statement.writing = none) : (s.setNext c a).registry = s.registry := by
  have hsame : Function.update (fun d => (s.next d).bind Statement.writing) c none =
      fun d => (s.next d).bind Statement.writing := by
    rw [← hnext]
    exact Function.update_eq_self c _
  simp only [registry, setNext, writing_update, ha, hsame]

theorem registry_addFile (file : File) (bytes : Bytes) :
    ((s.addFile c file bytes).setNext c (some (.openFile file bytes))).registry =
      s.registry.announce File.key c file bytes := by
  have hlisted : {f | f ∈ (s.sys.server.addFile file.owner file).fileList f.owner} =
      insert file {f | f ∈ s.sys.server.fileList f.owner} := by
    ext f
    simp only [Server.fileList_addFile, Set.mem_ofPred_eq, Set.mem_insert_iff]
    split_ifs with howner
    · rw [List.mem_append, List.mem_singleton, howner, or_comm]
    · refine ⟨Or.inr, ?_⟩
      rintro (rfl | hf)
      · exact absurd rfl howner
      · exact hf
  simp only [registry, setNext, addFile, setProgress, writing_update, hlisted, Registry.announce]
  rfl

theorem registry_truncate (file : File) (bytes : Bytes) :
    ((s.truncate resolve file).setNext c (some (.writeFile file bytes))).registry =
      s.registry.openPlace File.key (place resolve) [] c ⟨file, bytes, false⟩ := by
  simp only [registry, setNext, truncate, writing_update, stored_insert, Registry.openPlace]
  rfl

theorem registry_put {file : File} {bytes : Bytes}
    (hopened : s.sys.disk.lookup (place resolve file.key) = some []) :
    ((s.put resolve file bytes).leave c u).registry =
      s.registry.finish File.key (place resolve) c ⟨file, bytes, true⟩ := by
  simp only [registry, leave, setNext, put, Sys.setHandler, writing_update, stored_insert, hopened,
    Registry.finish, Option.getD_some, List.drop_nil, List.append_nil]
  rfl

theorem leave_uploading (c : Conn) (u : Uploading) : (s.leave c u).sys.uploading c = none := by
  simp [leave, setNext, Sys.uploading, Sys.setHandler]

theorem steady_leaveFailed (hp : (s.progress c).reported = false ∧ (s.progress c).listed = false) :
    Steady ((s.leaveFailed c u).next c) ((s.leaveFailed c u).sys.uploading c)
      ((s.leaveFailed c u).progress c) := by
  have hnext : (s.leaveFailed c u).next c = none := by simp
  have hloop : (s.leaveFailed c u).sys.uploading c = none := leave_uploading c u
  have hprogress : (s.leaveFailed c u).progress c = { s.progress c with failed := true } :=
    Function.update_self c _ s.progress
  rw [hnext, hloop, hprogress]
  exact .idle (fun ho => absurd rfl ho) fun _ => hp

theorem execute_addFile {file : File} {bytes : Bytes}
    (hj : joined u.file u.chunks = some (file, bytes)) (fate : Fate) :
    s.execute resolve c u .addFile fate =
      (s.addFile c file bytes).setNext c (some (.openFile file bytes)) := by
  simp only [execute, hj]

theorem steady_execute (h : Steady (s.next c) (s.sys.uploading c) (s.progress c))
    (hu : s.sys.uploading c = some u) {a : Statement} (hn : s.next c = some a) {fate : Fate}
    (hsafe : SafeStatement resolve s c u a fate) :
    Steady ((s.execute resolve c u a fate).next c) ((s.execute resolve c u a fate).sys.uploading c)
      ((s.execute resolve c u a fate).progress c) := by
  have hreached := h.reached (hu ▸ Option.some_ne_none u)
  rw [hn] at hreached
  rw [hn, hu] at h
  cases a with
  | acknowledge chunk =>
    cases fate with
    | fails n => exact steady_leaveFailed hreached
    | ok =>
      have hloop : (s.execute resolve c u (.acknowledge chunk) .ok).sys.uploading c =
          some ⟨{ u.handler with phase := .upload u.file (u.chunks ++ [chunk]) }, u.file,
            u.chunks ++ [chunk]⟩ := uploading_setHandler _ u.handler u.file _
      have hnext : (s.execute resolve c u (.acknowledge chunk) .ok).next c =
          if chunk.chunkNo = chunk.totalChunks then some .report else none :=
        Function.update_self c _ s.next
      rw [hloop, hnext]
      split_ifs
      · exact .quiet nofun rfl nofun (fun _ => hreached) h.truthful
      · exact .idle (fun _ => hreached) h.truthful
  | report =>
    cases fate with
    | fails n => exact steady_leaveFailed hreached
    | ok =>
      have hnext : (s.execute resolve c u .report .ok).next c = some .addFile :=
        Function.update_self c _ s.next
      have hprogress : (s.execute resolve c u .report .ok).progress c =
          { s.progress c with reported := true } := Function.update_self c _ s.progress
      have hloop : (s.execute resolve c u .report .ok).sys.uploading c = some u := hu
      rw [hnext, hprogress, hloop]
      refine ⟨nofun, ?_, nofun, fun _ => ⟨rfl, hreached.2⟩, ?_⟩
      · rintro - u' ⟨⟩
        exact hsafe.1
      · intro hfailed
        cases hsafe.2.symm.trans hfailed
  | addFile =>
    cases hj : joined u.file u.chunks with
    | none => exact absurd hj (h.joins rfl u rfl)
    | some p =>
      obtain ⟨file, bytes⟩ := p
      have hnext : ((s.addFile c file bytes).setNext c (some (.openFile file bytes))).next c =
          some (.openFile file bytes) := Function.update_self c _ s.next
      have hprogress : ((s.addFile c file bytes).setNext c
          (some (.openFile file bytes))).progress c = { s.progress c with listed := true } :=
        Function.update_self c _ s.progress
      have hloop : ((s.addFile c file bytes).setNext c
          (some (.openFile file bytes))).sys.uploading c = some u := hu
      rw [execute_addFile hj, hnext, hprogress, hloop]
      refine ⟨nofun, nofun, ?_, fun _ => ⟨hreached.1, rfl⟩, ?_⟩
      · rintro x ⟨⟩ u' ⟨⟩
        exact hj
      · intro hfailed
        cases hreached.1.symm.trans (h.truthful hfailed).1
  | openFile file bytes =>
    cases fate with
    | fails n => exact hsafe.elim
    | ok =>
      have hnext : (s.execute resolve c u (.openFile file bytes) .ok).next c =
          some (.writeFile file bytes) := Function.update_self c _ s.next
      have hloop : (s.execute resolve c u (.openFile file bytes) .ok).sys.uploading c = some u := hu
      rw [hnext, hloop]
      refine ⟨nofun, nofun, ?_, fun _ => hreached, h.truthful⟩
      rintro x ⟨⟩
      exact h.saves ⟨file, bytes, false⟩ rfl
  | writeFile file bytes =>
    cases fate with
    | fails n => exact hsafe.elim
    | ok =>
      have hnext : (s.execute resolve c u (.writeFile file bytes) .ok).next c = none :=
        Function.update_self c _ s.next
      have hloop : (s.execute resolve c u (.writeFile file bytes) .ok).sys.uploading c = none :=
        leave_uploading c u
      rw [hnext, hloop]
      exact .idle (fun ho => absurd rfl ho) h.truthful

theorem sound_execute (h : Inv resolve s) (hu : s.sys.uploading c = some u) {a : Statement}
    (hn : s.next c = some a) {fate : Fate} (hsafe : SafeStatement resolve s c u a fate) :
    (s.execute resolve c u a fate).registry.Sound File.key (place resolve) [] := by
  have hwriting : s.registry.writing c = a.writing := by simp [registry, hn]
  have hquiet : a.writing = none → ∀ b : Option Statement, b.bind Statement.writing = none →
      (s.setNext c b).registry.Sound File.key (place resolve) [] := by
    intro ha b hb
    rw [registry_setNext (hwriting.trans ha) hb]
    exact h.sound
  cases a with
  | acknowledge chunk =>
    cases fate with
    | fails n => exact hquiet rfl none rfl
    | ok =>
      refine hquiet rfl (if chunk.chunkNo = chunk.totalChunks then some .report else none) ?_
      split_ifs <;> rfl
  | report =>
    cases fate with
    | fails n => exact hquiet rfl none rfl
    | ok => exact hquiet rfl (some .addFile) rfl
  | addFile =>
    cases hj : joined u.file u.chunks with
    | none => exact absurd hj ((h.steady c).joins hn u hu)
    | some p =>
      obtain ⟨file, bytes⟩ := p
      obtain ⟨hfree, hkey⟩ := hsafe file (joined_eq_some.1 hj).1
      rw [execute_addFile hj, registry_addFile]
      refine h.sound.announce hwriting (fun d x hx => ?_) (fun g hg => ?_) _
      · exact hfree d x.entry (saving_of_writing hx)
      · exact hkey g.owner g hg
  | openFile file bytes =>
    cases fate with
    | fails n => exact hsafe.elim
    | ok =>
      simp only [execute]
      rw [registry_truncate]
      exact h.sound.openPlace hwriting
  | writeFile file bytes =>
    cases fate with
    | fails n => exact hsafe.elim
    | ok =>
      simp only [execute]
      rw [registry_put (h.sound.opened c _ hwriting rfl)]
      exact h.sound.finish hwriting

theorem owned_execute (h : Inv resolve s) (u : Uploading) (a : Statement) (fate : Fate) :
    ∀ v, ∀ f ∈ (s.execute resolve c u a fate).sys.server.fileList v, f.owner = v := by
  cases a with
  | addFile =>
    intro v f hf
    cases hj : joined u.file u.chunks with
    | none =>
      simp only [execute, hj] at hf
      exact h.owned v f hf
    | some p =>
      obtain ⟨file, bytes⟩ := p
      rw [execute_addFile hj] at hf
      have hadd : f ∈ (s.sys.server.addFile file.owner file).fileList v := hf
      rw [Server.fileList_addFile] at hadd
      split_ifs at hadd with hv
      · rcases List.mem_append.1 hadd with hold | hnew
        · exact (h.owned file.owner f hold).trans hv.symm
        · rw [List.mem_singleton.1 hnew, hv]
      · exact h.owned v f hadd
  | _ => cases fate <;> exact h.owned

theorem inv_execute (h : Inv resolve s) (hu : s.sys.uploading c = some u) {a : Statement}
    (hn : s.next c = some a) {fate : Fate} (hsafe : SafeStatement resolve s c u a fate) :
    Inv resolve (s.execute resolve c u a fate) := by
  refine ⟨owned_execute h u a fate, sound_execute h hu hn hsafe, fun d => ?_⟩
  by_cases hd : d = c
  · subst hd
    exact steady_execute (h.steady d) hu hn hsafe
  · obtain ⟨hloop, hnext, hprogress⟩ := execute_frame resolve s c u a fate hd
    rw [hloop, hnext, hprogress]
    exact h.steady d

/-- The statement that returns from a call after it has reported its upload is the last one. -/
theorem eq_writeFile_of_reported (h : Inv resolve s) (hu : s.sys.uploading c = some u)
    {a : Statement} (hn : s.next c = some a) {fate : Fate}
    (hsafe : SafeStatement resolve s c u a fate)
    (hover : (s.execute resolve c u a fate).sys.uploading c = none)
    (hreported : ((s.execute resolve c u a fate).progress c).reported = true) :
    ∃ file bytes, a = .writeFile file bytes ∧ fate = .ok := by
  have hreached := (h.steady c).reached (hu ▸ Option.some_ne_none u)
  rw [hn] at hreached
  have hfailed : ((s.leaveFailed c u).progress c).reported = (s.progress c).reported :=
    by simp [leaveFailed, leave, setNext, setProgress]
  cases a with
  | acknowledge chunk =>
    cases fate with
    | fails n => cases hreported.symm.trans (hfailed.trans hreached.1)
    | ok => cases hover.symm.trans (uploading_setHandler _ u.handler u.file _)
  | report =>
    cases fate with
    | fails n => cases hreported.symm.trans (hfailed.trans hreached.1)
    | ok => cases hover.symm.trans hu
  | addFile =>
    cases hj : joined u.file u.chunks with
    | none => exact absurd hj ((h.steady c).joins hn u hu)
    | some p =>
      rw [execute_addFile hj] at hover
      cases hover.symm.trans hu
  | openFile file bytes =>
    cases fate with
    | fails n => exact hsafe.elim
    | ok => cases hover.symm.trans hu
  | writeFile file bytes =>
    cases fate with
    | fails n => exact hsafe.elim
    | ok => exact ⟨file, bytes, rfl, rfl⟩

theorem execute_reportsTruly (h : Inv resolve s) (hu : s.sys.uploading c = some u) {a : Statement}
    (hn : s.next c = some a) {fate : Fate} (hsafe : SafeStatement resolve s c u a fate) :
    ReportsTruly resolve s (.advance c fate) := by
  intro d u' hu' hover hreported
  rw [step_advance_some hu hn] at hover hreported ⊢
  by_cases hd : d = c
  · subst hd
    obtain rfl : u = u' := Option.some.inj (hu.symm.trans hu')
    obtain ⟨file, bytes, rfl, rfl⟩ := eq_writeFile_of_reported h hu hn hsafe hover hreported
    have hx : s.registry.writing d = some ⟨file, bytes, true⟩ := by
      simp [registry, hn, Statement.writing]
    have hopened : s.sys.disk.lookup (place resolve file.key) = some [] :=
      h.sound.opened d ⟨file, bytes, true⟩ hx rfl
    have hj : joined u.file u.chunks = some (file, bytes) :=
      (h.steady d).saves ⟨file, bytes, true⟩ hx u hu
    have hlisted : file ∈ s.sys.server.fileList file.owner := (h.sound.listed d _ hx).1
    have hdisk : (s.put resolve file bytes).sys.disk.lookup (place resolve file.key) =
        some bytes := by
      simp [put, hopened]
    exact ⟨file, bytes, hj, hlisted, hdisk⟩
  · obtain ⟨hloop, -, -⟩ := execute_frame resolve s c u a fate hd
    cases hu'.symm.trans (hloop.symm.trans hover)

end Execute

theorem inv_read (h : Inv resolve s) (hu : s.sys.uploading c = some u) (hn : s.next c = none)
    (chunk : Chunk) : Inv resolve (s.setNext c (some (.acknowledge chunk))) := by
  refine ⟨h.owned, ?_, fun d => ?_⟩
  · have hquiet : (s.next c).bind Statement.writing = none := by simp [hn]
    rw [registry_setNext hquiet rfl]
    exact h.sound
  · by_cases hd : d = c
    · subst hd
      have hsteady := h.steady d
      rw [hn] at hsteady
      rw [setNext_next, Function.update_self]
      refine .quiet nofun rfl (fun ho => ?_) hsteady.reached hsteady.truthful
      cases hu.symm.trans ho
    · rw [setNext_next, Function.update_of_ne hd]
      exact h.steady d

theorem inv_step (h : Inv resolve s) (m : Move) (hsafe : Safe resolve s m) :
    Inv resolve (s.step resolve m) ∧ ReportsTruly resolve s m := by
  have hsame : s.step resolve m = s → Inv resolve (s.step resolve m) ∧ ReportsTruly resolve s m := by
    intro hsame
    refine ⟨?_, fun c u hu hover _ => ?_⟩
    · rw [hsame]
      exact h
    · rw [hsame] at hover
      cases hu.symm.trans hover
  cases m with
  | whole e =>
    cases hbusy : s.busy e with
    | true => exact hsame (step_whole_busy hbusy)
    | false => exact ⟨inv_whole h hbusy hsafe, whole_reportsTruly h hbusy⟩
  | read c chunk =>
    rcases step_read resolve s c chunk with hstep | ⟨⟨u, hu⟩, hn, hstep⟩
    · exact hsame hstep
    · rw [ReportsTruly, hstep]
      exact ⟨inv_read h hu hn chunk, fun d u' hu' hover => (nomatch hu'.symm.trans hover)⟩
  | advance c fate =>
    cases hn : s.next c with
    | none => exact hsame (step_advance_none hn fate)
    | some a =>
      cases hu : s.sys.uploading c with
      | none => exact absurd ((h.steady c).inLoop hu) (hn ▸ Option.some_ne_none a)
      | some u =>
        have hstatement := hsafe u a hu hn
        refine ⟨?_, execute_reportsTruly h hu hn hstatement⟩
        rw [step_advance_some hu hn]
        exact inv_execute h hu hn hstatement

theorem inv_start (disk : Table String Bytes) : Inv resolve (start disk) where
  owned _ _ hf := nomatch hf
  sound :=
    have hidle : ∀ c x, (start disk).registry.writing c ≠ some x := fun _ _ => nofun
    ⟨fun _ hf => absurd hf List.not_mem_nil, fun c x hx => absurd hx (hidle c x),
      fun c _ x _ hx => absurd hx (hidle c x), fun c x hx => absurd hx (hidle c x),
      fun c x hx => absurd hx (hidle c x)⟩
  steady _ := .idle (fun ho => absurd rfl ho) nofun

/-- Nothing has been reported yet: nothing is listed, and no thread is past its report. -/
structure Unreported (s : Threads) : Prop where
  unlisted : ∀ v, s.sys.server.fileList v = []
  silent : ∀ c, (s.progress c).reported = false ∧ (s.progress c).listed = false
  before : ∀ c a, s.next c = some a → a.reported = false

theorem Unreported.atRest (h : Unreported s) : s.AtRest := by
  intro c
  unfold saving
  cases hn : s.next c with
  | none => rfl
  | some a =>
    have hbefore := h.before c a hn
    cases a with
    | openFile file bytes => cases hbefore
    | writeFile file bytes => cases hbefore
    | _ => rfl

theorem Unreported.truthful (h : Unreported s) : Truthful resolve s where
  stored _ v f hf := by
    rw [h.unlisted v] at hf
    cases hf
  failed c _ := h.silent c
  reported _ c u _ hreported := by
    cases (h.silent c).1.symm.trans hreported

theorem unreported_update (h : Unreported s) {t : Threads} {a : Option Statement} {p : Progress}
    (hserver : ∀ v, t.sys.server.fileList v = s.sys.server.fileList v)
    (hnext : t.next = Function.update s.next c a)
    (hprogress : t.progress = Function.update s.progress c p)
    (ha : ∀ b, a = some b → b.reported = false) (hp : p.reported = false ∧ p.listed = false) :
    Unreported t := by
  refine ⟨fun v => (hserver v).trans (h.unlisted v), fun d => ?_, fun d b hb => ?_⟩
  · rw [hprogress, Function.update_apply]
    split_ifs
    · exact hp
    · exact h.silent d
  · rw [hnext, Function.update_apply] at hb
    split_ifs at hb
    · exact ha b hb
    · exact h.before d b hb

theorem unreported_whole (h : Unreported s) {e : Event} (hbusy : s.busy e = false) :
    Unreported (s.step resolve (.whole e)) := by
  rw [step_whole hbusy]
  refine ⟨fun v => ?_, fun d => ?_, h.before⟩
  · refine List.eq_nil_iff_forall_not_mem.2 fun f hf => ?_
    have hold := ((whole_mem_iff hbusy v f).1 hf).1
    rw [h.unlisted v] at hold
    cases hold
  · have hafter : (s.progressAfter e).reported = false ∧ (s.progressAfter e).listed = false := by
      cases e with
      | accept c socketType ip => exact h.silent c
      | receive c r env =>
        cases hu : s.sys.uploading c with
        | none => simp only [progressAfter, hu, and_self]
        | some u => simpa only [progressAfter, hu] using h.silent c
    simp only [setProgress, Function.update_apply]
    split_ifs
    · exact hafter
    · exact h.silent d

theorem unreported_execute (h : Unreported s) {a : Statement} (hn : s.next c = some a) {fate : Fate}
    (hquiet : a = .report → fate ≠ .ok) : Unreported (s.execute resolve c u a fate) := by
  have hsame : Function.update s.progress c (s.progress c) = s.progress :=
    Function.update_eq_self c s.progress
  have hleave : Unreported (s.leaveFailed c u) :=
    unreported_update h (fun _ => rfl) (leaveFailed_next) rfl nofun (h.silent c)
  have hbefore := h.before c a hn
  cases a with
  | acknowledge chunk =>
    cases fate with
    | fails n => exact hleave
    | ok =>
      refine unreported_update h (fun _ => rfl) rfl hsame.symm ?_ (h.silent c)
      intro b hb
      split_ifs at hb
      cases hb
      rfl
  | report =>
    cases fate with
    | fails n => exact hleave
    | ok => exact absurd rfl (hquiet rfl)
  | _ => cases hbefore

theorem unreported_step (h : Unreported s) (m : Move) (hm : ¬ Reports s m) :
    Unreported (s.step resolve m) := by
  cases m with
  | whole e =>
    cases hbusy : s.busy e with
    | true => rwa [step_whole_busy hbusy]
    | false => exact unreported_whole h hbusy
  | read c chunk =>
    rcases step_read resolve s c chunk with hsame | ⟨-, -, hread⟩
    · rwa [hsame]
    · rw [hread]
      have hsame : s.progress = Function.update s.progress c (s.progress c) :=
        (Function.update_eq_self c s.progress).symm
      refine unreported_update h (fun _ => rfl) rfl hsame ?_ (h.silent c)
      rintro b ⟨⟩
      rfl
  | advance c fate =>
    cases hn : s.next c with
    | none => rwa [step_advance_none hn]
    | some a =>
      cases hu : s.sys.uploading c with
      | none => simpa only [step, hu] using h
      | some u =>
        rw [step_advance_some hu hn]
        refine unreported_execute h hn ?_
        rintro rfl rfl
        exact hm ⟨c, u, rfl, hu, hn⟩

theorem not_truthful_of_reports (h : Unreported s) {m : Move} (hm : Reports s m) :
    ¬ Truthful resolve (s.step resolve m) := by
  obtain ⟨c, u, rfl, hu, hn⟩ := hm
  rw [step_advance_some hu hn]
  intro htruthful
  have hrest : (s.execute resolve c u .report .ok).AtRest := by
    intro d
    by_cases hd : d = c
    · subst hd
      simp [saving, execute]
    · have hsame := (execute_frame resolve s c u .report .ok hd).2.1
      have hidle := h.atRest d
      simpa only [saving, hsame] using hidle
  have hreported : ((s.execute resolve c u .report .ok).progress c).reported = true := by
    simp [execute, setNext, setProgress]
  obtain ⟨f, bytes, -, hlisted, -⟩ := htruthful.reported hrest c u hu hreported
  have hnone : (s.execute resolve c u .report .ok).sys.server.fileList f.owner = [] :=
    h.unlisted f.owner
  rw [hnone] at hlisted
  cases hlisted

theorem unreported_of_truthful (h : Unreported s) {moves : List Move}
    (htruthful : Throughout (step resolve) (Truthful resolve) s moves) :
    Along (step resolve) (fun s m => ¬ Reports s m) s moves := by
  induction moves generalizing s with
  | nil => exact along_nil _ _ s
  | cons m moves ih =>
    have htail := ((throughout_cons _ _ s m moves).1 htruthful).2
    have hm : ¬ Reports s m := fun hreports =>
      not_truthful_of_reports h hreports (htail [] List.nil_prefix)
    exact (along_cons _ _ s m moves).2 ⟨hm, ih (unreported_step h m hm) htail⟩

theorem reportsTruly_of_unreported (h : Unreported s) {m : Move} (hm : ¬ Reports s m) :
    ReportsTruly resolve s m := by
  intro c u _ _ hreported
  cases ((unreported_step h m hm).silent c).1.symm.trans hreported

theorem unreported_start (disk : Table String Bytes) : Unreported (start disk) :=
  ⟨fun _ => rfl, fun _ => ⟨rfl, rfl⟩, nofun⟩

end Threads

open Threads in
/-- List, disk and reports agree at every moment at rest, and at the return of every call, exactly in
the runs in which nothing is reported. At the return of the calls they agree in all runs of safe
moves, and what is listed is stored at every moment at rest. -/
theorem listed_means_stored (resolve : String → String) (disk : Table String Bytes)
    (moves : List Move) :
    (Throughout (step resolve) (Truthful resolve) (start disk) moves ∧
        Along (step resolve) (ReportsTruly resolve) (start disk) moves ↔
      Along (step resolve) (fun s m => ¬ Reports s m) (start disk) moves) ∧
    (Along (step resolve) (Safe resolve) (start disk) moves →
      Throughout (step resolve) (Consistent resolve) (start disk) moves ∧
        Along (step resolve) (ReportsTruly resolve) (start disk) moves) := by
  refine ⟨⟨fun h => unreported_of_truthful (unreported_start disk) h.1, fun hquiet => ?_⟩,
    fun hsafe => ?_⟩
  · have hinv : Throughout (step resolve) Unreported (start disk) moves :=
      throughout_of_along (I := Unreported) (fun s m h hm => unreported_step h m hm)
        (unreported_start disk) hquiet
    refine ⟨fun pre hp => (hinv pre hp).truthful, ?_⟩
    exact hquiet.imp_of_throughout hinv fun s m h hm => reportsTruly_of_unreported h hm
  · have hinv : Throughout (step resolve) (Inv resolve) (start disk) moves :=
      throughout_of_along (I := Inv resolve) (fun s m h hm => (inv_step h m hm).1) (inv_start disk)
        hsafe
    refine ⟨fun pre hp => (hinv pre hp).consistent, ?_⟩
    exact hsafe.imp_of_throughout hinv fun s m h hm => (inv_step h m hm).2

/-- An upload of one byte, in one chunk, whose statements fare like this. -/
def uploadMoves (fates : List Fate) : List Move :=
  [.whole (.accept 0 true "/10.0.0.1"),
    .whole (.receive 0 (.message
      { type := some .FILE_INIT, file := some { fileName := some "a", owner := some "u" } }) {}),
    .read 0 ⟨some [7], 1, 1, 1⟩] ++ fates.map (.advance 0)

open Threads in
theorem upload_stored :
    Throughout (step id) (Consistent id) (start ∅) (uploadMoves [.ok, .ok, .ok, .ok, .ok]) ∧
      Along (step id) (ReportsTruly id) (start ∅) (uploadMoves [.ok, .ok, .ok, .ok, .ok]) := by
  refine (listed_means_stored id ∅ _).2 ?_
  simp only [uploadMoves, List.map_cons, List.map_nil, List.cons_append, List.nil_append, along_cons,
    along_nil, and_true]
  refine ⟨?_, ?_, trivial, ?_, ?_, ?_, ?_, ?_⟩
  · rintro - t ⟨⟩
  · rintro - t ⟨⟩
  · rintro u a - ⟨⟩
    trivial
  · rintro u a ⟨⟩ ⟨⟩
    exact ⟨nofun, rfl⟩
  · rintro u a ⟨⟩ ⟨⟩ f ⟨⟩
    refine ⟨fun d g hg => ?_, fun t g hg => (nomatch hg)⟩
    cases d with
    | zero => cases hg
    | succ d => cases hg
  · rintro u a - ⟨⟩
    trivial
  · rintro u a - ⟨⟩
    trivial

open Threads in
/-- The file cannot be opened, and this is only printed. -/
theorem unsaved_upload_reported :
    ¬ (Throughout (step id) (Truthful id) (start ∅) (uploadMoves [.ok, .ok, .ok, .fails 0]) ∧
      Along (step id) (ReportsTruly id) (start ∅) (uploadMoves [.ok, .ok, .ok, .fails 0])) := by
  rintro ⟨-, hreports⟩
  have hlast := hreports (uploadMoves [.ok, .ok, .ok]) (.advance 0 (.fails 0)) List.prefix_rfl
  obtain ⟨f, bytes, hf, -, hstored⟩ := hlast 0 _ rfl rfl rfl
  cases hf
  cases hstored

end NetSessional.FileServer
