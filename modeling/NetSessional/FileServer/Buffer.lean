import NetSessional.FileServer.Sessions

/-! The accounting of the upload buffer. Beside the server runs a ledger of the uploads it has
accepted: each waits for its client to turn to a file connection, is announced there and streamed,
and is over once it has completed or failed. -/

namespace NetSessional.FileServer

open Runs

inductive Stage where
  /-- `FILE_ACCEPT` was written, and its client has no file connection for it -/
  | pending
  /-- its client has a file connection for it, and has not sent the `FILE_INIT` -/
  | connected (c : Conn)
  /-- its `FILE_INIT` was received on this file connection -/
  | streaming (c : Conn)
  /-- completed, or failed -/
  | over
  deriving DecidableEq

/-- An upload whose `FILE_REQUEST` was accepted. -/
structure Upload where
  fileSize : Int32
  stage : Stage

/-- The event ends the command loop on the file connection `c`: the connection is lost, or what
arrives makes the handler throw. -/
def endsConnection (c : Conn) : Event → Bool
  | .accept _ _ _ => false
  | .receive d r _ =>
    d == c && match r with
      | .message msg => msg.type == some .FILE_REQUEST && msg.file == none ||
          msg.type == some .REQUEST && msg.request == none
      | .classNotFound => false
      | _ => true

def startsUpload (c : Conn) : Event → Bool
  | .receive d (.message msg) _ => d == c && msg.type == some .FILE_INIT
  | _ => false

/-- The event makes the loop of `handleFileUpload` on `c` stop: its last chunk arrives, or an I/O
operation fails, or what arrives is no chunk. -/
def endsUpload (c : Conn) : Event → Bool
  | .accept _ _ _ => false
  | .receive d r env =>
    d == c && match r with
      | .chunk chunk => env.writeFails c || chunk.chunkNo == chunk.totalChunks
      | .classNotFound => false
      | _ => true

namespace Upload

def conn (u : Upload) : Option Conn :=
  match u.stage with
  | .connected c => some c
  | .streaming c => some c
  | _ => none

/-- The event completes the upload, or makes it fail. -/
def ends (e : Event) (u : Upload) : Bool :=
  match u.stage with
  | .connected c => endsConnection c e
  | .streaming c => endsUpload c e
  | _ => false

def after (e : Event) (u : Upload) : Upload :=
  if u.ends e then { u with stage := .over }
  else
    match u.stage with
    | .connected c => if startsUpload c e then { u with stage := .streaming c } else u
    | _ => u

def connect (c : Conn) (u : Upload) : Upload :=
  if u.stage = .pending then { u with stage := .connected c } else u

def abandon (u : Upload) : Upload :=
  if u.stage = .pending then { u with stage := .over } else u

end Upload

def granted (s : Sys) (e : Event) : List Int32 :=
  match s.call e with
  | .useBuffer size => if (s.server.useBuffer size).1 then [size] else []
  | _ => []

/-- What the event is answered with cannot be written. -/
def unanswered : Event → Bool
  | .accept _ _ _ => false
  | .receive c _ env => env.writeFails c

/-- The upload that the event gets accepted. It has failed when `FILE_ACCEPT` cannot be written: the
exception is only printed, and the client is never told. -/
def accepted (s : Sys) (e : Event) : List Upload :=
  (granted s e).map fun size =>
    { fileSize := size, stage := if unanswered e then .over else .pending }

structure Ledger where
  sys : Sys := {}
  uploads : List Upload := []

inductive LedgerEvent where
  | server (e : Event)
  /-- the client of the `k`-th accepted upload turns to the file connection `c` for it -/
  | connect (k : ℕ) (c : Conn)
  /-- the client of the `k`-th accepted upload will never have a file connection for it: it is gone,
  or has not got the `FILE_ACCEPT`, or cannot connect -/
  | abandon (k : ℕ)

def awaitsInit (s : Sys) (c : Conn) : Bool :=
  (s.handlers.lookup c).any fun h => h.socketType && h.phase == .commands

namespace Ledger

def step (l : Ledger) : LedgerEvent → Ledger
  | .server e =>
    { sys := l.sys.step e
      uploads := l.uploads.map (Upload.after e) ++ accepted l.sys e }
  | .connect k c =>
    if awaitsInit l.sys c ∧ ∀ u ∈ l.uploads, u.conn ≠ some c then
      { l with uploads := l.uploads.modify k (Upload.connect c) }
    else l
  | .abandon k => { l with uploads := l.uploads.modify k Upload.abandon }

def sizes (uploads : List Upload) : ℤ := (uploads.map fun u => u.fileSize.toInt).sum

def inProgress (l : Ledger) : List Upload := l.uploads.filter fun u => u.stage ≠ .over

/-- The buffer holds what the uploads in progress have reserved, and an idle server takes every
file that fits the buffer. -/
def Accounted (l : Ledger) : Prop :=
  l.sys.server.BUFFER_USED.toInt = sizes l.inProgress ∧
    (l.inProgress = [] → ∀ size, size ≤ Server.MAX_BUFFER_SIZE →
      (l.sys.server.useBuffer size).1 = true)

def DeclaresSize : LedgerEvent → Prop
  | .server (.receive _ (.message msg) _) =>
    msg.type = some .FILE_REQUEST → ∀ file, msg.file = some file → 0 ≤ file.fileSize
  | _ => True

/-- No upload of a non-empty file completes or fails in this step. -/
def EndsEmpty (l : Ledger) : LedgerEvent → Prop
  | .server e => (∀ u ∈ l.uploads, u.ends e → u.fileSize = 0) ∧
      ∀ u ∈ accepted l.sys e, u.stage = .over → u.fileSize = 0
  | .connect _ _ => True
  | .abandon k => ∀ u ∈ l.uploads[k]?, u.stage = .pending → u.fileSize = 0

instance (l : Ledger) : DecidablePred (EndsEmpty l)
  | .server _ => inferInstanceAs (Decidable (_ ∧ _))
  | .connect _ _ => inferInstanceAs (Decidable True)
  | .abandon _ => inferInstanceAs (Decidable (∀ _ ∈ _, _))

end Ledger

section Reservation
variable {s : Server}

theorem useBuffer_fits (h0 : 0 ≤ s.BUFFER_USED.toInt) (hmax : s.BUFFER_USED.toInt ≤ 100000000)
    (size : Int32) :
    (s.useBuffer size).1 = true ↔ s.BUFFER_USED.toInt + size.toInt ≤ 100000000 := by
  have hfree : (Server.MAX_BUFFER_SIZE - s.BUFFER_USED).toInt =
      100000000 - s.BUFFER_USED.toInt := by
    have hle : s.BUFFER_USED ≤ Server.MAX_BUFFER_SIZE := Int32.le_iff_toInt_le.2 hmax
    exact Int32.toInt_sub_of_le _ _ (Int32.le_iff_toInt_le.2 h0) hle
  unfold Server.useBuffer
  by_cases hsize : size > Server.MAX_BUFFER_SIZE - s.BUFFER_USED
  · have hlt := Int32.lt_iff_toInt_lt.1 hsize
    simp only [hsize, if_true, Bool.false_eq_true, false_iff]
    omega
  · have hle : ¬ (Server.MAX_BUFFER_SIZE - s.BUFFER_USED).toInt < size.toInt :=
      fun h => hsize (Int32.lt_iff_toInt_lt.2 h)
    simp only [hsize, if_false, true_iff]
    omega

theorem useBuffer_used (h0 : 0 ≤ s.BUFFER_USED.toInt) (hmax : s.BUFFER_USED.toInt ≤ 100000000)
    (size : Int32) :
    (s.useBuffer size).2.BUFFER_USED.toInt =
      s.BUFFER_USED.toInt + if (s.useBuffer size).1 then size.toInt else 0 := by
  by_cases hf : (s.useBuffer size).1 = true
  · have hle := (useBuffer_fits h0 hmax size).1 hf
    have hsize := size.le_toInt
    have hused : (s.useBuffer size).2.BUFFER_USED = s.BUFFER_USED + size := by
      unfold Server.useBuffer at hf ⊢
      split_ifs at hf ⊢ with hgt
      rfl
    rw [if_pos hf, hused, Int32.toInt_add]
    rw [Int.bmod_eq_of_le] <;> omega
  · have hused : (s.useBuffer size).2 = s := by
      unfold Server.useBuffer at hf ⊢
      split_ifs at hf ⊢ with hgt
      · rfl
      · exact absurd rfl hf
    rw [if_neg hf, hused, add_zero]

end Reservation

theorem call_useBuffer {s : Sys} {e : Event} {size : Int32} (h : s.call e = .useBuffer size) :
    ∃ c msg env file, e = .receive c (.message msg) env ∧ msg.type = some .FILE_REQUEST ∧
      msg.file = some file ∧ file.fileSize = size := by
  obtain ⟨c, ip, rfl, hstream⟩ | ⟨c, k, r, env, rfl, -, hcalls⟩ := Sys.call_cases h nofun
  · cases hstream
  · cases hcalls with
    | fileRequest msg file hp htype hfile => exact ⟨c, msg, env, file, rfl, htype, hfile, rfl⟩

theorem granted_call {s : Sys} {e : Event} {size : Int32} (h : size ∈ granted s e) :
    s.call e = .useBuffer size := by
  unfold granted at h
  split at h
  · next hcall =>
    split_ifs at h
    · rw [List.mem_singleton.1 h, hcall]
    · cases h
  · cases h

theorem step_used {s : Sys} (h0 : 0 ≤ s.server.BUFFER_USED.toInt)
    (hmax : s.server.BUFFER_USED.toInt ≤ 100000000) (e : Event) :
    (s.step e).server.BUFFER_USED.toInt =
        s.server.BUFFER_USED.toInt + ((granted s e).map Int32.toInt).sum ∧
      (s.step e).server.BUFFER_USED.toInt ≤ 100000000 := by
  rw [Sys.step_server, perform_buffer]
  unfold granted
  cases hc : s.call e with
  | useBuffer size =>
    have hused := useBuffer_used h0 hmax size
    have hfits := useBuffer_fits h0 hmax size
    dsimp only
    split_ifs at hused ⊢ with hf
    · have hle := hfits.1 hf
      exact ⟨by simpa using hused, by omega⟩
    · exact ⟨by simpa using hused, by omega⟩
  | _ => exact ⟨by simp, hmax⟩

namespace Ledger

/-- What is known of the buffer whatever is released: it holds everything that was ever
accepted. -/
structure Reserved (l : Ledger) : Prop where
  used : l.sys.server.BUFFER_USED.toInt = sizes l.uploads
  nonneg : ∀ u ∈ l.uploads, 0 ≤ u.fileSize.toInt
  bound : l.sys.server.BUFFER_USED.toInt ≤ 100000000

theorem sizes_append (us vs : List Upload) : sizes (us ++ vs) = sizes us + sizes vs := by
  simp [sizes]

theorem sizes_nonneg {us : List Upload} (h : ∀ u ∈ us, 0 ≤ u.fileSize.toInt) : 0 ≤ sizes us :=
  List.sum_nonneg (by simpa using h)

theorem fileSize_eq_zero (u : Upload) : u.fileSize.toInt = 0 ↔ u.fileSize = 0 :=
  Int32.toInt_inj (y := 0)

theorem sizes_eq_zero_iff {us : List Upload} (h : ∀ u ∈ us, 0 ≤ u.fileSize.toInt) :
    sizes us = 0 ↔ ∀ u ∈ us, u.fileSize = 0 := by
  induction us with
  | nil => simp [sizes]
  | cons u us ih =>
    have hu := h u List.mem_cons_self
    have hus : ∀ v ∈ us, 0 ≤ v.fileSize.toInt := fun v hv => h v (List.mem_cons_of_mem u hv)
    have hrest := sizes_nonneg hus
    have hsplit : sizes (u :: us) = u.fileSize.toInt + sizes us := by simp [sizes]
    rw [hsplit, List.forall_mem_cons, ← ih hus, ← fileSize_eq_zero]
    omega

theorem sizes_split (us : List Upload) :
    sizes us = sizes (us.filter fun u => u.stage ≠ .over) +
      sizes (us.filter fun u => u.stage = .over) := by
  induction us with
  | nil => rfl
  | cons u us ih =>
    have hsplit : ∀ vs, sizes (u :: vs) = u.fileSize.toInt + sizes vs := by simp [sizes]
    by_cases hu : u.stage = .over
    · simp only [List.filter_cons, hu, ne_eq, not_true, decide_false, decide_true, if_true,
        Bool.false_eq_true, if_false, hsplit, ih]
      omega
    · simp only [List.filter_cons, hu, ne_eq, not_false_eq_true, decide_false, decide_true, if_true,
        Bool.false_eq_true, if_false, hsplit, ih]
      omega

/-- As nothing is released, the buffer is accounted for exactly if all that is over was empty. -/
theorem accounted_iff {l : Ledger} (h : Reserved l) :
    Accounted l ↔ ∀ u ∈ l.uploads, u.stage = .over → u.fileSize = 0 := by
  have hnonneg : ∀ u ∈ l.uploads.filter fun u => u.stage = .over, 0 ≤ u.fileSize.toInt :=
    fun u hu => h.nonneg u (List.mem_of_mem_filter hu)
  have hover : l.sys.server.BUFFER_USED.toInt = sizes l.inProgress ↔
      ∀ u ∈ l.uploads, u.stage = .over → u.fileSize = 0 := by
    have hzero := sizes_eq_zero_iff hnonneg
    simp only [List.mem_filter, decide_eq_true_eq, and_imp] at hzero
    rw [← hzero, h.used, inProgress, sizes_split l.uploads]
    omega
  rw [Accounted, hover, and_iff_left_iff_imp]
  intro hall hidle size hsize
  have hused : l.sys.server.BUFFER_USED.toInt = 0 := by
    rw [hover.2 hall, hidle]
    rfl
  have hmax : size.toInt ≤ 100000000 := Int32.le_iff_toInt_le.1 hsize
  rw [useBuffer_fits (by omega) h.bound, hused, zero_add]
  exact hmax

/-- What is true of all elements stays true when one of them is modified, if it is true of that
one. -/
theorem forall_mem_modify {α : Type} {P : α → Prop} {f : α → α} {l : List α} (h : ∀ a ∈ l, P a)
    (k : ℕ) : (∀ a ∈ l.modify k f, P a) ↔ ∀ a, l[k]? = some a → P (f a) := by
  induction l generalizing k with
  | nil => simp
  | cons b l ih =>
    obtain ⟨hb, hl⟩ := List.forall_mem_cons.1 h
    cases k with
    | zero => simpa using fun _ => hl
    | succ k => simpa [hb] using ih hl k

theorem map_modify_of_eq {α β : Type} {f : α → α} {g : α → β} (hg : ∀ a, g (f a) = g a)
    (l : List α) (k : ℕ) : (l.modify k f).map g = l.map g := by
  induction l generalizing k with
  | nil => simp
  | cons a l ih => cases k <;> simp [hg, ih]

section Stages
variable (e : Event) (c : Conn) (u : Upload)

theorem after_fileSize : (u.after e).fileSize = u.fileSize := by
  unfold Upload.after
  split_ifs
  · rfl
  · split
    · split_ifs <;> rfl
    · rfl

theorem after_over_iff : (u.after e).stage = .over ↔ u.stage = .over ∨ u.ends e := by
  unfold Upload.after
  split_ifs with hends
  · simp [hends]
  · cases hstage : u.stage with
    | connected c =>
      dsimp only
      split_ifs <;> simp [hstage, hends]
    | _ => simp [hstage, hends]

theorem connect_fileSize : (u.connect c).fileSize = u.fileSize := by
  unfold Upload.connect
  split_ifs <;> rfl

theorem connect_over_iff : (u.connect c).stage = .over ↔ u.stage = .over := by
  unfold Upload.connect
  split_ifs with hpending <;> simp [hpending]

theorem abandon_fileSize : u.abandon.fileSize = u.fileSize := by
  unfold Upload.abandon
  split_ifs <;> rfl

theorem abandon_over_iff : u.abandon.stage = .over ↔ u.stage = .over ∨ u.stage = .pending := by
  unfold Upload.abandon
  split_ifs with hpending <;> simp [hpending]

end Stages

theorem sizes_accepted (s : Sys) (e : Event) :
    sizes (accepted s e) = ((granted s e).map Int32.toInt).sum := by
  simp [sizes, accepted, Function.comp_def]

theorem declaresSize_granted {s : Sys} {e : Event} (he : DeclaresSize (.server e)) :
    ∀ size ∈ granted s e, 0 ≤ size.toInt := by
  intro size hmem
  obtain ⟨c, msg, env, file, rfl, htype, hfile, rfl⟩ := call_useBuffer (granted_call hmem)
  exact Int32.le_iff_toInt_le.1 (he htype file hfile)

theorem reserved_modify {l : Ledger} (h : Reserved l) {f : Upload → Upload}
    (hf : ∀ u, (f u).fileSize = u.fileSize) (k : ℕ) :
    Reserved { l with uploads := l.uploads.modify k f } := by
  have hsizes : (l.uploads.modify k f).map (fun u => u.fileSize.toInt) =
      l.uploads.map fun u => u.fileSize.toInt :=
    map_modify_of_eq (fun u => by rw [hf]) l.uploads k
  refine ⟨h.used.trans (congrArg List.sum hsizes.symm), ?_, h.bound⟩
  refine (forall_mem_modify h.nonneg k).2 fun u hu => ?_
  rw [hf]
  exact h.nonneg u (List.mem_of_getElem? hu)

theorem reserved_step (l : Ledger) (e : LedgerEvent) (he : DeclaresSize e) (h : Reserved l) :
    Reserved (l.step e) := by
  cases e with
  | server e =>
    have h0 : 0 ≤ l.sys.server.BUFFER_USED.toInt := h.used ▸ sizes_nonneg h.nonneg
    obtain ⟨hused, hbound⟩ := step_used h0 h.bound e
    have hkept : sizes (l.uploads.map (Upload.after e)) = sizes l.uploads := by
      simp [sizes, Function.comp_def, after_fileSize]
    refine ⟨?_, fun u hu => ?_, hbound⟩
    · simp only [step]
      rw [sizes_append, hkept, sizes_accepted, ← h.used]
      exact hused
    · rcases List.mem_append.1 hu with hu | hu
      · obtain ⟨v, hv, rfl⟩ := List.mem_map.1 hu
        rw [after_fileSize]
        exact h.nonneg v hv
      · obtain ⟨size, hsize, rfl⟩ := List.mem_map.1 hu
        exact declaresSize_granted he size hsize
  | connect k c =>
    simp only [step]
    split_ifs
    · exact reserved_modify h (connect_fileSize c) k
    · exact h
  | abandon k => exact reserved_modify h abandon_fileSize k

theorem over_server_iff {l : Ledger} (hover : ∀ u ∈ l.uploads, u.stage = .over → u.fileSize = 0)
    (e : Event) : (∀ u ∈ (l.step (.server e)).uploads, u.stage = .over → u.fileSize = 0) ↔
      EndsEmpty l (.server e) := by
  simp only [step, List.forall_mem_append, List.forall_mem_map, after_over_iff, after_fileSize,
    EndsEmpty]
  refine and_congr_left fun _ => forall₂_congr fun u hu => ?_
  exact ⟨fun h hends => h (Or.inr hends), fun h hends => hends.elim (hover u hu) h⟩

/-- A step keeps the buffer accounted for exactly if the uploads that it ends were empty. -/
theorem accounted_step (l : Ledger) (e : LedgerEvent) (he : DeclaresSize e) (h : Reserved l)
    (hacc : Accounted l) : Accounted (l.step e) ↔ EndsEmpty l e := by
  have hover := (accounted_iff h).1 hacc
  rw [accounted_iff (reserved_step l e he h)]
  cases e with
  | server e => exact over_server_iff hover e
  | connect k c =>
    simp only [step, EndsEmpty, iff_true]
    split_ifs
    · refine (forall_mem_modify hover k).2 fun u hu => ?_
      rw [connect_over_iff, connect_fileSize]
      exact hover u (List.mem_of_getElem? hu)
    · exact hover
  | abandon k =>
    simp only [step, EndsEmpty]
    rw [forall_mem_modify hover k]
    refine forall₂_congr fun u hu => ?_
    rw [abandon_over_iff, abandon_fileSize, or_imp]
    exact and_iff_right (hover u (List.mem_of_getElem? hu))

def InUpload (s : Sys) (c : Conn) : Prop :=
  ∃ h file chunks, s.handlers.lookup c = some h ∧ h.phase = .upload file chunks

theorem inUpload_step_iff {s : Sys} {c : Conn} (h : InUpload s c) (e : Event) :
    InUpload (s.step e) c ↔ endsUpload c e = false := by
  obtain ⟨k, file, chunks, hl, hp⟩ := h
  by_cases hc : c = e.conn
  · have hadv := (Sys.step_advance s e).2 c
    rw [if_pos hc, ← hc, hl] at hadv
    unfold InUpload
    rw [hadv]
    cases e with
    | accept d socketType ip =>
      exact iff_of_true ⟨k, file, chunks, rfl, hp⟩ rfl
    | receive d r env =>
      have hcd : c = d := hc
      subst hcd
      simp only [Sys.advance, Handler.next, hp, Handler.afterUploadRead, endsUpload]
      cases r with
      | chunk chunk =>
        by_cases hw : env.writeFails c
        · simp [hw]
        by_cases hlast : chunk.chunkNo = chunk.totalChunks
        · by_cases hdone : env.completeFails = true ∨
              (joined file (chunks ++ [chunk])).isSome = true <;> simp [hw, hlast, hdone]
        · simp [hw, hlast]
      | classNotFound => simp [hp]
      | null => by_cases hw : env.writeFails c <;> simp [hw]
      | message msg => simp
      | ioError => simp
  · have hends : endsUpload c e = false := by
      cases e with
      | accept d socketType ip => rfl
      | receive d r env =>
        have hd : (d == c) = false := beq_eq_false_iff_ne.2 fun hdc => hc hdc.symm
        simp [endsUpload, hd]
    refine iff_of_true ⟨k, file, chunks, ?_, hp⟩ hends
    rw [Sys.step_frame s e hc, hl]

/-- A handler that awaits its `FILE_INIT` goes on to do so, or takes it, or stops, exactly as the
ledger has it. -/
theorem awaitsInit_step {s : Sys} {c : Conn} (h : awaitsInit s c = true) (e : Event) :
    (endsConnection c e = true → awaitsInit (s.step e) c = false ∧ ¬ InUpload (s.step e) c) ∧
      (endsConnection c e = false → startsUpload c e = true → InUpload (s.step e) c) ∧
      (endsConnection c e = false → startsUpload c e = false → awaitsInit (s.step e) c = true) := by
  simp only [awaitsInit, Option.any_eq_true, Bool.and_eq_true, beq_iff_eq] at h
  obtain ⟨k, hl, hsocket, hp⟩ := h
  by_cases hc : c = e.conn
  · have hadv := (Sys.step_advance s e).2 c
    rw [if_pos hc, ← hc, hl] at hadv
    unfold InUpload awaitsInit
    rw [hadv]
    cases e with
    | accept d socketType ip => simp [Sys.advance, endsConnection, startsUpload, hsocket, hp]
    | receive d r env =>
      have hcd : c = d := hc
      subst hcd
      simp only [Sys.advance, Handler.next, hp, endsConnection, startsUpload]
      cases r with
      | message msg =>
        simp only [Handler.afterCommand]
        split_ifs with hbad hinit
        · rcases hbad with ⟨htype, hnull⟩ | ⟨htype, hnull⟩ <;> simp [htype, hnull]
        · simp [hinit]
        · have hno : msg.type ≠ some .FILE_INIT := fun hm => hinit ⟨hm, hsocket⟩
          simpa [hno, hsocket, hp] using hbad
      | classNotFound => simp [hsocket, hp]
      | _ => simp
  · have hsame : (s.step e).handlers.lookup c = some k := by rw [Sys.step_frame s e hc, hl]
    have hother : endsConnection c e = false ∧ startsUpload c e = false := by
      cases e with
      | accept d socketType ip => exact ⟨rfl, rfl⟩
      | receive d r env =>
        have hd : (d == c) = false := beq_eq_false_iff_ne.2 fun hdc => hc hdc.symm
        cases r <;> simp [endsConnection, startsUpload, hd]
    simp [hother, awaitsInit, hsame, hsocket, hp]

/-- What the ledger has of an upload that is on a file connection is what its handler does. -/
def Attached (s : Sys) (u : Upload) : Prop :=
  match u.stage with
  | .connected c => awaitsInit s c = true
  | .streaming c => InUpload s c
  | _ => True

theorem attached_after {s : Sys} {u : Upload} (h : Attached s u) (e : Event) :
    Attached (s.step e) (u.after e) := by
  unfold Attached at h
  unfold Upload.after
  cases hstage : u.stage with
  | connected c =>
    rw [hstage] at h
    obtain ⟨-, hinit, hstays⟩ := awaitsInit_step h e
    simp only [Upload.ends, hstage]
    split_ifs with hends hstarts
    · trivial
    · exact hinit (by simpa using hends) hstarts
    · simpa [Attached, hstage] using hstays (by simpa using hends) (by simpa using hstarts)
  | streaming c =>
    rw [hstage] at h
    simp only [Upload.ends, hstage]
    split_ifs with hends
    · trivial
    · simpa [Attached, hstage] using (inUpload_step_iff h e).2 (by simpa using hends)
  | _ => simp [Upload.ends, Attached, hstage]

theorem accepted_attached (s t : Sys) (e : Event) : ∀ u ∈ accepted s e, Attached t u := by
  intro u hu
  obtain ⟨size, -, rfl⟩ := List.mem_map.1 hu
  cases unanswered e <;> trivial

theorem attached_step (l : Ledger) (e : LedgerEvent) (h : ∀ u ∈ l.uploads, Attached l.sys u) :
    ∀ u ∈ (l.step e).uploads, Attached (l.step e).sys u := by
  cases e with
  | server e =>
    intro u hu
    rcases List.mem_append.1 hu with hu | hu
    · obtain ⟨v, hv, rfl⟩ := List.mem_map.1 hu
      exact attached_after (h v hv) e
    · exact accepted_attached l.sys _ e u hu
  | connect k c =>
    simp only [step]
    split_ifs with hfree
    · refine (forall_mem_modify h k).2 fun u hu => ?_
      unfold Upload.connect
      split_ifs
      · exact hfree.1
      · exact h u (List.mem_of_getElem? hu)
    · exact h
  | abandon k =>
    refine (forall_mem_modify h k).2 fun u hu => ?_
    unfold Upload.abandon
    split_ifs
    · trivial
    · exact h u (List.mem_of_getElem? hu)

theorem run_attached (evs : List LedgerEvent) :
    ∀ u ∈ (run step {} evs).uploads, Attached (run step {} evs).sys u :=
  run_invariant (I := fun l : Ledger => ∀ u ∈ l.uploads, Attached l.sys u) attached_step (by simp) evs

end Ledger

open Ledger in
/-- In the runs whose declared sizes are non-negative, the buffer is accounted for in every state
reached exactly if no upload of a non-empty file completes or fails: nothing ever frees. -/
theorem buffer_accounted_iff (evs : List LedgerEvent) (hevs : ∀ e ∈ evs, DeclaresSize e) :
    Throughout Ledger.step Accounted {} evs ↔ Along Ledger.step EndsEmpty {} evs := by
  have hinit : Reserved {} := ⟨rfl, by simp, by decide⟩
  have hacc : Accounted {} := (accounted_iff hinit).2 (by simp)
  exact throughout_iff_along reserved_step accounted_step hinit hacc hevs

/-- A login and an accepted `FILE_REQUEST` for one byte, which its client announces. -/
def requestedUpload : List LedgerEvent :=
  [.server (.accept 0 false "/10.0.0.1"),
    .server (.receive 0 (.message { type := some .LOGIN_REQUEST, user := some "u" }) {}),
    .server (.receive 0 (.message { type := some .FILE_REQUEST, file := some { fileSize := 1 } }) {}),
    .server (.accept 1 true "/10.0.0.1"), .connect 0 1,
    .server (.receive 1 (.message { type := some .FILE_INIT, file := some { fileSize := 1 } }) {})]

open Ledger in
theorem buffer_accounted_requested : Throughout Ledger.step Accounted {} requestedUpload := by
  refine (buffer_accounted_iff _ ?_).2 ?_
  · simp [requestedUpload, DeclaresSize]
  · simp only [requestedUpload, along_cons, along_nil, and_true]
    decide

/-- The upload completes over its file connection, and its byte stays reserved. -/
def completedUpload : List LedgerEvent :=
  requestedUpload ++ [.server (.receive 1 (.chunk ⟨some [0], 1, 1, 1⟩) {})]

open Ledger in
theorem buffer_accounted_completed : (∀ e ∈ completedUpload, DeclaresSize e) ∧
    ¬ Throughout Ledger.step Accounted {} completedUpload := by
  refine ⟨by simp [completedUpload, requestedUpload, DeclaresSize], fun h => ?_⟩
  have hused := (h _ List.prefix_rfl).1
  revert hused
  decide

end NetSessional.FileServer
