import NetSessional.FileServer.Client
import NetSessional.FileServer.Sessions

/-! How a handler leaves its loop, and what it leaves behind in the tables: `run` cleans up after an
`IOException` only, and by the name of the user. -/

namespace NetSessional.FileServer

open Runs

/-- What a handler reads of a client: a message of the menu, null, or the loss of the connection. -/
inductive FromClient : Received → Prop where
  | message {choice : Int32} {msg : Message} (sent : Client.Sends choice msg) :
    FromClient (.message msg)
  | null : FromClient .null
  | ioError : FromClient .ioError

/-- The handler dereferences null: the message, or the file of a `FILE_REQUEST`. -/
def NullReference (r : Received) : Prop :=
  r = .null ∨ ∃ msg, r = .message msg ∧ msg.type = some .FILE_REQUEST ∧ msg.file = none

/-- In the command loop, the handler `h` of `c` reads `r` of its client. -/
structure ReadsCommand (s : Sys) (e : Event) (c : Conn) (h : Handler) (r : Received) : Prop where
  event : ∃ env, e = .receive c r env
  handler : s.handlers.lookup c = some h
  phase : h.phase = .commands
  client : FromClient r

/-- `t'` is `t` less the entries of `c`. The entry of a user in `ip` is that of the connection which
`oos` has for the user. -/
structure CleanExit (c : Conn) (t t' : Sessions) : Prop where
  oos : Table.LessValue c t.oos t'.oos
  fos : Table.LessValue c t.fos t'.fos
  ip : ∀ u, t'.ip.lookup u = if t.oos.lookup u = some c then none else t.ip.lookup u

/-- The handler goes on in its loop, or leaves it without leaving entries. -/
def ExitsClean (s : Sys) (e : Event) : Prop :=
  ∀ c h r, ReadsCommand s e c h r → ∃ h', (s.step e).handlers.lookup c = some h' ∧
    (h'.phase = .commands ∨
      h'.phase = .ended ∧ CleanExit c s.server.sessions (s.step e).server.sessions)

namespace Sessions

def Free (t : Sessions) (c : Conn) : Prop :=
  ∀ u, t.oos.lookup u ≠ some c ∧ t.fos.lookup u ≠ some c

/-- The streams of `u`, if any, are those of `c`. -/
def Alone (t : Sessions) (c : Conn) (u : Name) : Prop :=
  ∀ d, t.oos.lookup u = some d ∨ t.fos.lookup u = some d → d = c

end Sessions

/-- Only a connection without entries gets a null reference to dereference, and only one whose user
has no other connection in the tables is lost. -/
def MayExit (s : Sys) (e : Event) : Prop :=
  ∀ c h r, ReadsCommand s e c h r →
    (NullReference r → s.server.sessions.Free c) ∧
      (r = .ioError → s.server.sessions.Alone c h.user)

def Serves (s : Sys) (c : Conn) (u : Name) : Prop :=
  ∃ h, s.handlers.lookup c = some h ∧ h.user = u ∧ h.phase ≠ .login

/-- A stream is entered under the user that its handler serves, an address next to a stream. -/
structure EntriesServed (s : Sys) : Prop where
  oos : ∀ u c, s.server.sessions.oos.lookup u = some c → Serves s c u
  fos : ∀ u c, s.server.sessions.fos.lookup u = some c → Serves s c u
  ip : ∀ u, (s.server.sessions.ip.lookup u).isSome → (s.server.sessions.oos.lookup u).isSome

section Steps
variable {s : Sys} {c : Conn} {u : Name}

theorem Serves.step (h : Serves s c u) (e : Event) : Serves (s.step e) c u := by
  obtain ⟨h, hl, huser, hp⟩ := h
  obtain ⟨h', hl', -, hkept, hp'⟩ := Sys.step_settled hl hp e
  exact ⟨h', hl', hkept.trans huser, hp'⟩

theorem step_tables (s : Sys) (e : Event) :
    (s.step e).server.sessions = s.server.sessions ∨
      (s.handlers.lookup e.conn = none ∧ Serves (s.step e) e.conn none ∧
        (s.step e).server.sessions =
          { s.server.sessions with fos := s.server.sessions.fos.insert none e.conn }) ∨
      (∃ h u ip, s.handlers.lookup e.conn = some h ∧ h.phase = .login ∧
        Serves (s.step e) e.conn u ∧
        (s.step e).server.sessions = s.server.sessions.add e.conn u ip) ∨
      ∃ u, (s.step e).server.sessions = s.server.sessions.remove u := by
  obtain ⟨htables, hhandlers⟩ := Sys.step_advance s e
  have hown := (hhandlers e.conn).trans (if_pos rfl)
  unfold Serves
  rw [htables, hown]
  cases hl : s.handlers.lookup e.conn with
  | none =>
    cases e with
    | accept c socketType ip =>
      cases socketType with
      | false => exact Or.inl rfl
      | true => exact Or.inr (Or.inl ⟨rfl, ⟨_, rfl, rfl, by simp⟩, rfl⟩)
    | receive c r env => exact Or.inl rfl
  | some h =>
    cases e with
    | accept c socketType ip => exact Or.inl rfl
    | receive c r env =>
      simp only [Sys.advance]
      rcases h.next_tables s.server.sessions c r env with hkept | ⟨hp, k, hadd, -, hk⟩ | ⟨-, -, hrem⟩
      · exact Or.inl hkept
      · refine Or.inr (Or.inr (Or.inl ⟨h, k.user, k.ip, rfl, hp, ⟨k, ?_, rfl, by simp [hk]⟩, ?_⟩))
        · rw [hadd]
        · rw [hadd]
          rfl
      · exact Or.inr (Or.inr (Or.inr ⟨h.user, hrem⟩))

/-- The step is the login of `c` as `u`, or its connection to the file socket. -/
structure Enters (s : Sys) (e : Event) (c : Conn) (u : Name) : Prop where
  serves : Serves (s.step e) c u
  before : ∀ h, s.handlers.lookup c = some h → h.phase = .login

/-- A stream that is in the tables after a step was there before, or is entered by it. -/
theorem stream_step (s : Sys) (e : Event) (u : Name) (c : Conn) :
    ((s.step e).server.sessions.oos.lookup u = some c →
        s.server.sessions.oos.lookup u = some c ∨ Enters s e c u) ∧
      ((s.step e).server.sessions.fos.lookup u = some c →
        s.server.sessions.fos.lookup u = some c ∨ Enters s e c u) := by
  rcases step_tables s e with hkept | ⟨hnone, hserves, hinsert⟩ |
    ⟨h, v, ip, hl, hp, hserves, hadd⟩ | ⟨v, hremove⟩
  · rw [hkept]
    exact ⟨Or.inl, Or.inl⟩
  · rw [hinsert]
    refine ⟨Or.inl, fun hu => ?_⟩
    rw [Table.lookup_insert] at hu
    split_ifs at hu with heq
    · cases hu
      exact Or.inr ⟨heq ▸ hserves, fun k hk => absurd (hnone.symm.trans hk) (by simp)⟩
    · exact Or.inl hu
  · rw [hadd]
    refine ⟨fun hu => ?_, Or.inl⟩
    rw [Sessions.add, Table.lookup_insert] at hu
    split_ifs at hu with heq
    · cases hu
      exact Or.inr ⟨heq ▸ hserves, fun k hk => Option.some.inj (hl.symm.trans hk) ▸ hp⟩
    · exact Or.inl hu
  · rw [hremove]
    simp only [Sessions.remove, Table.lookup_erase]
    refine ⟨fun hu => ?_, fun hu => ?_⟩
    · split_ifs at hu with heq
      exact Or.inl hu
    · split_ifs at hu with heq
      exact Or.inl hu

theorem address_step (hip : ∀ u, (s.server.sessions.ip.lookup u).isSome →
      (s.server.sessions.oos.lookup u).isSome) (e : Event) (u : Name)
    (hu : ((s.step e).server.sessions.ip.lookup u).isSome) :
    ((s.step e).server.sessions.oos.lookup u).isSome := by
  rcases step_tables s e with ht | ⟨-, -, ht⟩ | ⟨-, v, a, -, -, -, ht⟩ | ⟨v, ht⟩
  · rw [ht] at hu ⊢
    exact hip u hu
  · rw [ht] at hu ⊢
    exact hip u hu
  · rw [ht] at hu ⊢
    simp only [Sessions.add, Table.lookup_insert] at hu ⊢
    split_ifs at hu ⊢ with hv
    · rfl
    · exact hip u hu
  · rw [ht] at hu ⊢
    simp only [Sessions.remove, Table.lookup_erase] at hu ⊢
    split_ifs at hu ⊢ with hv
    · cases hu
    · exact hip u hu

theorem entriesServed_step (s : Sys) (e : Event) (hs : EntriesServed s) :
    EntriesServed (s.step e) := by
  constructor
  · intro u c hu
    rcases (stream_step s e u c).1 hu with hold | hnew
    · exact (hs.oos u c hold).step e
    · exact hnew.serves
  · intro u c hu
    rcases (stream_step s e u c).2 hu with hold | hnew
    · exact (hs.fos u c hold).step e
    · exact hnew.serves
  · exact address_step hs.ip e

end Steps

theorem entriesServed_start : EntriesServed {} := by
  constructor
  · intro u c hu
    cases hu
  · intro u c hu
    cases hu
  · intro u hu
    cases hu

section Exit
variable {s : Sys} {e : Event} {c : Conn} {h : Handler} {r : Received}

/-- The outcome of a read in the command loop: of what a client sends, nothing but a null reference
ends the thread. -/
theorem ReadsCommand.outcome (hread : ReadsCommand s e c h r) :
    (NullReference r ∧ r ≠ .ioError ∧
        (s.step e).handlers.lookup c = some { h with phase := .ended } ∧
        (s.step e).server.sessions = s.server.sessions) ∨
      (r = .ioError ∧ ¬ NullReference r ∧
        (s.step e).handlers.lookup c = some { h with phase := .ended } ∧
        (s.step e).server.sessions = s.server.sessions.remove h.user) ∨
      (¬ NullReference r ∧ r ≠ .ioError ∧ (s.step e).handlers.lookup c = some h) := by
  obtain ⟨⟨env, rfl⟩, hl, hp, hclient⟩ := hread
  have hhandler := Sys.step_handler hl r env
  have htables : (s.step (.receive c r env)).server.sessions =
      (h.next s.server.sessions c r env).1 := by
    rw [(Sys.step_advance s _).1]
    simp only [Event.conn, hl, Sys.advance]
  rw [hhandler, htables]
  simp only [Handler.next, hp]
  induction hclient with
  | @message choice msg sent =>
    have hnull : NullReference (.message msg) ↔ msg.type = some .FILE_REQUEST ∧ msg.file = none := by
      simp [NullReference]
    obtain ⟨hinit, hrequest⟩ := sent.type_ne
    rw [hnull]
    by_cases hfile : msg.type = some .FILE_REQUEST ∧ msg.file = none
    · left
      simp [Handler.afterCommand, hfile]
    · right
      right
      simp [Handler.afterCommand, hfile, hrequest, hinit]
  | null => exact Or.inl ⟨Or.inl rfl, by simp, rfl, rfl⟩
  | ioError => exact Or.inr (Or.inl ⟨rfl, by simp [NullReference], rfl, rfl⟩)

theorem cleanExit_self_iff (t : Sessions) (c : Conn) : CleanExit c t t ↔ t.Free c := by
  refine ⟨fun hclean u => ?_, fun hfree => ?_⟩
  · have hoos := (Table.lessValue_self_iff c t.oos).1 hclean.oos
    have hfos := (Table.lessValue_self_iff c t.fos).1 hclean.fos
    exact ⟨hoos u, hfos u⟩
  · constructor
    · exact (Table.lessValue_self_iff c t.oos).2 fun u => (hfree u).1
    · exact (Table.lessValue_self_iff c t.fos).2 fun u => (hfree u).2
    · intro u
      rw [if_neg (hfree u).1]

/-- `run` removes the entries of the user, which are those of the connection unless another one has
taken them. -/
theorem cleanExit_remove_iff (hs : EntriesServed s) (hl : s.handlers.lookup c = some h) :
    CleanExit c s.server.sessions (s.server.sessions.remove h.user) ↔
      s.server.sessions.Alone c h.user := by
  have huser : ∀ u, Serves s c u → u = h.user := by
    intro u hserves
    obtain ⟨k, hk, hku, -⟩ := hserves
    cases hl.symm.trans hk
    exact hku.symm
  have hoos : Table.LessValue c s.server.sessions.oos (s.server.sessions.remove h.user).oos ↔ _ :=
    Table.lessValue_erase_iff fun u hu => huser u (hs.oos u c hu)
  have hfos : Table.LessValue c s.server.sessions.fos (s.server.sessions.remove h.user).fos ↔ _ :=
    Table.lessValue_erase_iff fun u hu => huser u (hs.fos u c hu)
  refine ⟨fun hclean d hd => ?_, fun halone => ?_⟩
  · rcases hd with hd | hd
    · exact hoos.1 hclean.oos d hd
    · exact hfos.1 hclean.fos d hd
  · refine ⟨hoos.2 fun d hd => halone d (Or.inl hd), hfos.2 fun d hd => halone d (Or.inr hd), ?_⟩
    intro u
    simp only [Sessions.remove, Table.lookup_erase]
    by_cases hu : u = h.user
    · subst hu
      rw [if_pos rfl]
      cases hon : s.server.sessions.oos.lookup h.user with
      | none =>
        have hoff : ¬ (s.server.sessions.ip.lookup h.user).isSome := by
          intro hip
          have honline := hs.ip h.user hip
          rw [hon] at honline
          cases honline
        rw [if_neg (by simp), Option.not_isSome_iff_eq_none.1 hoff]
      | some d => rw [halone d (Or.inl hon), if_pos rfl]
    · rw [if_neg hu, if_neg fun hc => hu (huser u (hs.oos u c hc))]

theorem exitsClean_iff (s : Sys) (e : Event) (hs : EntriesServed s) :
    ExitsClean s e ↔ MayExit s e := by
  refine forall_congr' fun c => forall_congr' fun h => forall_congr' fun r => ?_
  refine imp_congr_right fun hread => ?_
  rcases hread.outcome with ⟨hnull, hne, hl, ht⟩ | ⟨hio, hnull, hl, ht⟩ | ⟨hnull, hne, hl⟩
  · rw [hl, ht]
    simp [hnull, hne, cleanExit_self_iff]
  · subst hio
    rw [hl, ht]
    simp [hnull, cleanExit_remove_iff hs hread.handler]
  · rw [hl]
    simp [hnull, hne, hread.phase]

/-- The thread of `c` has ended, and no stream is that of `c`. -/
structure Gone (c : Conn) (s : Sys) : Prop where
  ended : ∃ h, s.handlers.lookup c = some h ∧ h.phase = .ended
  free : s.server.sessions.Free c

/-- An ended thread does not come back, and the streams that others enter are their own. -/
theorem gone_step (s : Sys) (e : Event) (hs : Gone c s) : Gone c (s.step e) := by
  obtain ⟨⟨h, hl, hp⟩, hfree⟩ := hs
  have hnot : ∀ u, ¬ Enters s e c u := by
    intro u henters
    cases hp.symm.trans (henters.before h hl)
  refine ⟨⟨h, ?_, hp⟩, fun u => ⟨fun hu => ?_, fun hu => ?_⟩⟩
  · by_cases hc : c = e.conn
    · subst hc
      rw [(Sys.step_advance s e).2, if_pos rfl, hl]
      cases e with
      | accept c socketType ip => rfl
      | receive c r env => simp only [Sys.advance, Handler.next, hp]
    · rw [Sys.step_frame s e hc, hl]
  · exact ((stream_step s e u c).1 hu).elim (hfree u).1 (hnot u)
  · exact ((stream_step s e u c).2 hu).elim (hfree u).2 (hnot u)

theorem gone_of_exit (hread : ReadsCommand s e c h r) (hclean : ExitsClean s e)
    (hended : ∀ h', (s.step e).handlers.lookup c = some h' → h'.phase = .ended)
    (evs : List Event) : Gone c (run Sys.step (s.step e) evs) := by
  obtain ⟨h', hl, hexit⟩ := hclean c h r hread
  have hp := hended h' hl
  refine run_invariant gone_step ⟨⟨h', hl, hp⟩, fun u => ?_⟩ evs
  rcases hexit with hloop | ⟨-, hexit⟩
  · cases hp.symm.trans hloop
  · exact ⟨hexit.oos.ne u, hexit.fos.ne u⟩

/-- In every run, each handler that reads of its client goes on or leaves no entries, exactly if null
references and losses find the tables as `MayExit` says. -/
theorem exits_clean_iff (evs : List Event) :
    Along Sys.step ExitsClean {} evs ↔ Along Sys.step MayExit {} evs := by
  exact along_congr entriesServed_step exitsClean_iff entriesServed_start evs

def askForFile : Message where
  type := some .FILE_REQUEST
  user := some "u"
  request := some { description := some "d" }

def fileAskedFor : List Event :=
  [.accept 0 false "/10.0.0.1",
    .receive 0 (.message { type := some .LOGIN_REQUEST, user := some "u" }) {}]

/-- The thread is gone, and `u` stays online. -/
theorem registered_without_thread :
    ¬ Along Sys.step ExitsClean {} (fileAskedFor ++ [.receive 0 (.message askForFile) {}]) := by
  intro hclean
  have hlast := ((along_snoc Sys.step ExitsClean {} fileAskedFor _).1 hclean).2
  have hsent : Client.Sends 4 askForFile :=
    ⟨⟨some "u", ["d"], none⟩, fun _ => none, ⟨some "u", [], none⟩, by decide⟩
  have hread : ReadsCommand (run Sys.step {} fileAskedFor) (.receive 0 (.message askForFile) {}) 0
      ⟨false, "/10.0.0.1", some "u", .ok, .commands⟩ (.message askForFile) :=
    ⟨⟨_, rfl⟩, by decide, rfl, .message hsent⟩
  obtain ⟨h', hl, hexit⟩ := hlast _ _ _ hread
  have hended : (Sys.step (run Sys.step {} fileAskedFor)
      (.receive 0 (.message askForFile) {})).handlers.lookup 0 =
      some ⟨false, "/10.0.0.1", some "u", .ok, .ended⟩ := by decide
  cases hl.symm.trans hended
  obtain hloop | ⟨-, hexit⟩ := hexit
  · cases hloop
  · have honline := hexit.oos (some "u")
    revert honline
    decide

end Exit

end NetSessional.FileServer
