import NetSessional.FileServer.Sessions

/-! Requests and responses on the message socket. A client writes a request, then reads an object,
whatever it is, as the response; the handlers serve the requests in any order. The response to a
request is the object `response` of `handleCommand`, whether it is written or not. -/

namespace NetSessional.FileServer

open Runs

/-- The response that `handleCommand` builds to a request on the message socket; there is none when
the request throws. -/
def Sys.response (s : Sys) (h : Handler) (msg : Message) (env : Env) : Option Message :=
  if msg.type = some .LOOKUP_STD then some (getStudentList s.server)
  else if msg.type = some .FILE_REQUEST then
    msg.file.map fun file =>
      if (s.server.useBuffer file.fileSize).1 then
        let size := Server.getChunkSize env.rand
        { msg with
          type := some .FILE_ACCEPT
          file := some { file with CHUNK_SIZE := size }
          text := some ("File upload request accepted.\nChunk Size: " ++ toString size.toInt) }
      else { msg with type := some .BUFFER_FULL }
  else if msg.type = some .LOOKUP_FILES_SELF then
    some { text := some (arrayListToString ((s.server.getFileList h.user).2.map File.toString))
           type := some .FILE_LIST }
  else if msg.type = some .LOOKUP_FILES_OTHER then
    some { text := some ("Files uploaded by " ++ msg.text.text ++ ":\n" ++
             arrayListToString ((s.server.getPublicFileList msg.text).2.map File.toString))
           type := some .SERVER_RESPONSE }
  else if msg.type = some .REQUEST then
    some { text := some "Request saved and sent to all other online students "
           type := some .SERVER_RESPONSE }
  else some { text := some "Couldn't parse the request!", type := some .ERROR }

/-- The server and its clients on the message socket. -/
structure Dialogue where
  sys : Sys
  /-- the requests that a client has written and its handler has not read -/
  pending : Conn → List Message := fun _ => []
  asked : Conn → List Message := fun _ => []
  /-- the responses to the requests that were served, or null -/
  answers : Conn → List (Option Message) := fun _ => []
  /-- the objects that a client has read -/
  read : Conn → List Message := fun _ => []

inductive DialogueEvent where
  | request (c : Conn) (msg : Message)
  | serve (c : Conn) (env : Env)
  | read (c : Conn)

namespace Dialogue

def written (d : Dialogue) (c : Conn) : List Message :=
  (d.sys.out.filter fun a => a.1 = c).map Prod.snd

def Waiting (d : Dialogue) (c : Conn) : Prop := (d.read c).length < (d.asked c).length

instance (d : Dialogue) (c : Conn) : Decidable (d.Waiting c) := inferInstanceAs (Decidable (_ < _))

/-- The handler of `c` waits for a command on the message socket. -/
def listening (d : Dialogue) (c : Conn) : Bool :=
  (d.sys.handlers.lookup c).any fun h => !h.socketType && decide (h.phase = .commands)

def step (d : Dialogue) : DialogueEvent → Dialogue
  | .request c msg =>
    if d.listening c ∧ ¬ d.Waiting c then
      { d with
        pending := Function.update d.pending c (d.pending c ++ [msg])
        asked := Function.update d.asked c (d.asked c ++ [msg]) }
    else d
  | .serve c env =>
    if d.listening c then
      match d.pending c, d.sys.handlers.lookup c with
      | msg :: rest, some h =>
        { d with
          sys := d.sys.step (.receive c (.message msg) env)
          pending := Function.update d.pending c rest
          answers := Function.update d.answers c (d.answers c ++ [d.sys.response h msg env]) }
      | _, _ => d
    else d
  | .read c =>
    if d.Waiting c then
      match (d.written c)[(d.read c).length]? with
      | none => d
      | some msg => { d with read := Function.update d.read c (d.read c ++ [msg]) }
    else d

/-- The dialogue of a server with handlers in any state. -/
def start (s : Sys) : Dialogue := { sys := { s with out := [] } }

/-- Requests, objects and responses correspond. -/
structure Paired (d : Dialogue) : Prop where
  /-- one object for each request that was served, its response -/
  one_each : ∀ c, (d.written c).map some = d.answers c
  in_order : ∀ c (k : ℕ) msg, (d.read c)[k]? = some msg → (d.answers c)[k]? = some (some msg)
  /-- no client waits for nothing -/
  served : ∀ c, d.Waiting c → (d.read c).length < (d.written c).length ∨
    d.pending c ≠ [] ∧ d.listening c = true

/-- The request that is served is no `REQUEST`, carries a file if it is a `FILE_REQUEST`, and its
answer is not lost. -/
def Answered (d : Dialogue) (e : DialogueEvent) : Prop :=
  ∀ c env msg rest, e = .serve c env → d.pending c = msg :: rest →
    msg.type ≠ some .REQUEST ∧ (msg.type = some .FILE_REQUEST → msg.file ≠ none) ∧
      env.writeFails c = false

structure Coherent (d : Dialogue) : Prop where
  count : ∀ c, (d.asked c).length = (d.answers c).length + (d.pending c).length
  read : ∀ c, d.read c <+: d.written c
  alternates : ∀ c, (d.asked c).length ≤ (d.read c).length + 1

section Commands
variable {s : Sys} {c : Conn} {h : Handler} {msg : Message} {env : Env}

theorem out_write (server : Server) (msg : Message) :
    ({ s with server := server }.write c msg env).out =
      s.out ++ if env.writeFails c then [] else [(c, msg)] := by
  unfold Sys.write
  split_ifs
  · exact (List.append_nil _).symm
  · rfl

/-- What reaches the stream of `c` of a response. -/
def delivered (c : Conn) (env : Env) : Option Message → List (Conn × Message)
  | none => []
  | some response => if env.writeFails c then [] else [(c, response)]

theorem handleCommand_out (s : Sys) (c : Conn) (env : Env) (hsocket : h.socketType = false)
    (htype : msg.type ≠ some .REQUEST) :
    (s.handleCommand c h (some msg) env).out = s.out ++ delivered c env (s.response h msg env) := by
  by_cases hstd : msg.type = some .LOOKUP_STD
  · unfold Sys.handleCommand Sys.response
    simp only [hstd]
    exact out_write s.server _
  by_cases hfile : msg.type = some .FILE_REQUEST
  · have hstep : s.handleCommand c h (some msg) env = s.handleFileUploadRequest c h msg env := by
      unfold Sys.handleCommand
      simp only [hfile]
      rfl
    unfold Sys.response
    rw [hstep, Sys.handleFileUploadRequest, if_neg hstd, if_pos hfile]
    cases msg.file with
    | none => exact (List.append_nil _).symm
    | some file =>
      dsimp only [Option.map_some]
      split_ifs
      · exact out_write _ _
      · exact out_write s.server _
  by_cases hself : msg.type = some .LOOKUP_FILES_SELF
  · unfold Sys.response
    rw [lookupSelf_step hself]
    simp only [hself]
    exact out_write _ _
  by_cases hother : msg.type = some .LOOKUP_FILES_OTHER
  · unfold Sys.response
    rw [lookupOther_step hother]
    simp only [hother]
    exact out_write _ _
  · unfold Sys.handleCommand Sys.response
    simp only [hstd, hfile, hself, hother, htype, hsocket]
    simp only [Bool.false_eq_true, and_false, if_false]
    exact out_write s.server _

theorem request_out (s : Sys) (c : Conn) (h : Handler) (env : Env)
    (htype : msg.type = some .REQUEST) :
    ∃ objects : List (Conn × Message), (∀ a ∈ objects, a.2.type = some .BROADCAST) ∧
      (s.handleCommand c h (some msg) env).out = s.out ++ objects := by
  unfold Sys.handleCommand
  simp only [htype]
  cases msg.request with
  | none => exact ⟨[], by simp, (List.append_nil _).symm⟩
  | some request =>
    refine ⟨_, fun a ha => ?_, rfl⟩
    obtain ⟨stream, -, rfl⟩ := List.mem_map.1 ha
    rfl

theorem response_eq_none_iff :
    s.response h msg env = none ↔ msg.type = some .FILE_REQUEST ∧ msg.file = none := by
  refine ⟨fun hnone => ?_, fun hbad => ?_⟩
  · unfold Sys.response at hnone
    split_ifs at hnone with hstd hfile
    exact ⟨hfile, Option.map_eq_none_iff.1 hnone⟩
  · simp [Sys.response, hbad.1, hbad.2]

theorem response_request (s : Sys) (h : Handler) (env : Env) (htype : msg.type = some .REQUEST) :
    ∃ response, s.response h msg env = some response ∧ response.type ≠ some .BROADCAST := by
  unfold Sys.response
  simp only [htype]
  exact ⟨_, rfl, by simp⟩

end Commands

section Steps
variable {d : Dialogue} {c : Conn} {msg : Message} {rest : List Message}

theorem listening_iff : d.listening c = true ↔
    ∃ k, d.sys.handlers.lookup c = some k ∧ k.socketType = false ∧ k.phase = .commands := by
  unfold listening
  cases d.sys.handlers.lookup c with
  | none => simp
  | some k => simp

/-- With the counts, the correspondence of objects and responses is most of what there is to say. -/
theorem paired_of (h : Coherent d) (hone : ∀ c, (d.written c).map some = d.answers c)
    (hlistening : ∀ c, d.pending c ≠ [] → d.listening c = true) : Paired d := by
  refine ⟨hone, fun c k msg hk => ?_, fun c hwait => ?_⟩
  · obtain ⟨unread, hunread⟩ := h.read c
    have hlt : k < (d.read c).length := (List.getElem?_eq_some_iff.1 hk).1
    have hobject : (d.written c)[k]? = some msg := by
      rw [← hunread, List.getElem?_append_left hlt, hk]
    rw [← hone, List.getElem?_map, hobject]
    rfl
  · have hcount := h.count c
    have hlen := congrArg List.length (hone c)
    rw [List.length_map] at hlen
    unfold Waiting at hwait
    by_cases hp : d.pending c = []
    · left
      rw [hp, List.length_nil] at hcount
      omega
    · exact Or.inr ⟨hp, hlistening c hp⟩

/-- A client has one request under way at most, and its handler is there to serve it. -/
theorem Paired.underWay (hpaired : Paired d) (h : Coherent d) (hp : d.pending c ≠ []) :
    (d.pending c).length = 1 ∧ d.listening c = true := by
  have hcount := h.count c
  have hlen := congrArg List.length (hpaired.one_each c)
  have hread := (h.read c).length_le
  have halternates := h.alternates c
  have hpos := List.length_pos_of_ne_nil hp
  rw [List.length_map] at hlen
  have hwait : d.Waiting c := by
    unfold Waiting
    omega
  refine ⟨by omega, ?_⟩
  rcases hpaired.served c hwait with hunread | ⟨-, hlistening⟩
  · omega
  · exact hlistening

theorem serve_step (hl : d.listening c = true) (hp : d.pending c = msg :: rest) (env : Env) :
    ∃ k, d.sys.handlers.lookup c = some k ∧ k.socketType = false ∧
      d.sys.step (.receive c (.message msg) env) = d.sys.handleCommand c k (some msg) env ∧
      d.step (.serve c env) = { d with
        sys := d.sys.step (.receive c (.message msg) env)
        pending := Function.update d.pending c rest
        answers := Function.update d.answers c (d.answers c ++ [d.sys.response k msg env]) } := by
  obtain ⟨k, hk, hsocket, hphase⟩ := listening_iff.1 hl
  refine ⟨k, hk, hsocket, Sys.step_command hk hphase msg env, ?_⟩
  simp only [step, hl, if_true, hp, hk]

/-- The objects for the one stream and the response, when both lists corresponded before. -/
theorem one_each_append {s : Sys} {objects : List (Conn × Message)}
    {pending : Conn → List Message} {response : Option Message}
    (hone : ∀ b, (d.written b).map some = d.answers b) (hout : s.out = d.sys.out ++ objects) :
    (∀ b, (written { d with
        sys := s
        pending := pending
        answers := Function.update d.answers c (d.answers c ++ [response]) } b).map some =
      Function.update d.answers c (d.answers c ++ [response]) b) ↔
    ∀ b, (objects.filter fun a => a.1 = b).map (fun a => some a.2) =
      if b = c then [response] else [] := by
  refine forall_congr' fun b => ?_
  have happend : (written { d with
      sys := s
      pending := pending
      answers := Function.update d.answers c (d.answers c ++ [response]) } b).map some =
        d.answers b ++ (objects.filter fun a => a.1 = b).map (fun a => some a.2) := by
    rw [← hone b]
    simp only [written, hout, List.filter_append, List.map_append, List.map_map]
    rfl
  rw [happend]
  by_cases hb : b = c
  · subst hb
    rw [Function.update_self, if_pos rfl, List.append_cancel_left_eq]
  · rw [Function.update_of_ne hb, if_neg hb]
    exact List.append_right_eq_self

theorem serve_one_each (hl : d.listening c = true)
    (hone : ∀ b, (d.written b).map some = d.answers b) (hp : d.pending c = msg :: rest)
    (env : Env) :
    (∀ b, ((d.step (.serve c env)).written b).map some = (d.step (.serve c env)).answers b) ↔
      msg.type ≠ some .REQUEST ∧ (msg.type = some .FILE_REQUEST → msg.file ≠ none) ∧
        env.writeFails c = false := by
  obtain ⟨k, -, hsocket, hstep, hserve⟩ := serve_step hl hp env
  rw [hserve, hstep]
  by_cases htype : msg.type = some .REQUEST
  · obtain ⟨objects, hbroadcast, hout⟩ := request_out d.sys c k env htype
    obtain ⟨response, hresponse, hother⟩ := response_request d.sys k env htype
    refine iff_of_false (fun hall => ?_) fun hans => hans.1 htype
    have hc := (one_each_append hone hout).1 hall c
    rw [if_pos rfl, hresponse] at hc
    have hmem : some response ∈ (objects.filter fun a => a.1 = c).map (fun a => some a.2) := by
      rw [hc]
      exact List.mem_singleton.2 rfl
    obtain ⟨a, ha, heq⟩ := List.mem_map.1 hmem
    obtain rfl := Option.some.inj heq
    exact hother (hbroadcast a (List.mem_of_mem_filter ha))
  · have hout := handleCommand_out d.sys c env hsocket htype
    refine (one_each_append hone hout).trans ?_
    cases hresponse : d.sys.response k msg env with
    | none =>
      obtain ⟨hfile, hnone⟩ := response_eq_none_iff.1 hresponse
      refine iff_of_false (fun hall => ?_) fun hans => hans.2.1 hfile hnone
      have hc := hall c
      simp [delivered] at hc
    | some response =>
      have hfile : msg.type = some .FILE_REQUEST → msg.file ≠ none := by
        intro hreq hnone
        rw [response_eq_none_iff.2 ⟨hreq, hnone⟩] at hresponse
        cases hresponse
      by_cases hw : env.writeFails c = true
      · refine iff_of_false (fun hall => ?_) fun hans => by simp [hans.2.2] at hw
        have hc := hall c
        simp [delivered, hw] at hc
      · refine iff_of_true (fun b => ?_) ⟨htype, hfile, by simpa using hw⟩
        by_cases hb : b = c
        · subst hb
          simp [delivered, hw]
        · have hcb : c ≠ b := fun hcb => hb hcb.symm
          simp [delivered, hw, hb, hcb]

theorem coherent_request (h : Coherent d) (hw : ¬ d.Waiting c) (msg : Message) :
    Coherent { d with
      pending := Function.update d.pending c (d.pending c ++ [msg])
      asked := Function.update d.asked c (d.asked c ++ [msg]) } := by
  refine ⟨fun b => ?_, h.read, fun b => ?_⟩
  · have hcount := h.count b
    by_cases hb : b = c
    · subst hb
      simp only [Function.update_self, List.length_append, List.length_singleton]
      omega
    · simpa only [Function.update_of_ne hb] using hcount
  · by_cases hb : b = c
    · subst hb
      unfold Waiting at hw
      simp only [Function.update_self, List.length_append, List.length_singleton]
      omega
    · simpa only [Function.update_of_ne hb] using h.alternates b

theorem coherent_serve (h : Coherent d) (hl : d.listening c = true)
    (hp : d.pending c = msg :: rest) (env : Env) : Coherent (d.step (.serve c env)) := by
  obtain ⟨k, -, hsocket, hstep, hserve⟩ := serve_step hl hp env
  rw [hserve, hstep]
  refine ⟨fun b => ?_, fun b => ?_, h.alternates⟩
  · have hcount := h.count b
    by_cases hb : b = c
    · subst hb
      rw [hp, List.length_cons] at hcount
      simp only [Function.update_self, List.length_append, List.length_singleton]
      omega
    · simpa only [Function.update_of_ne hb] using hcount
  · have hout : ∃ objects, (d.sys.handleCommand c k (some msg) env).out = d.sys.out ++ objects := by
      by_cases htype : msg.type = some .REQUEST
      · obtain ⟨objects, -, hout⟩ := request_out d.sys c k env htype
        exact ⟨objects, hout⟩
      · exact ⟨_, handleCommand_out d.sys c env hsocket htype⟩
    obtain ⟨objects, hout⟩ := hout
    refine (h.read b).trans ?_
    simp only [written, hout, List.filter_append, List.map_append]
    exact List.prefix_append _ _

theorem coherent_read (h : Coherent d) (hw : d.Waiting c)
    (hobject : (d.written c)[(d.read c).length]? = some msg) :
    Coherent { d with read := Function.update d.read c (d.read c ++ [msg]) } := by
  refine ⟨h.count, fun b => ?_, fun b => ?_⟩
  · change Function.update d.read c (d.read c ++ [msg]) b <+: d.written b
    by_cases hb : b = c
    · subst hb
      obtain ⟨unread, hunread⟩ := h.read b
      rw [← hunread, List.getElem?_append_right (le_refl _), Nat.sub_self] at hobject
      obtain ⟨tail, rfl⟩ : ∃ tail, unread = msg :: tail := by
        cases unread with
        | nil => cases hobject
        | cons a tail => exact ⟨tail, by rw [Option.some.inj hobject]⟩
      rw [Function.update_self]
      exact ⟨tail, by rw [List.append_assoc]; exact hunread⟩
    · rw [Function.update_of_ne hb]
      exact h.read b
  · change (d.asked b).length ≤ (Function.update d.read c (d.read c ++ [msg]) b).length + 1
    by_cases hb : b = c
    · subst hb
      have halternates := h.alternates b
      simp only [Function.update_self, List.length_append, List.length_singleton]
      omega
    · rw [Function.update_of_ne hb]
      exact h.alternates b

theorem coherent_step (h : Coherent d) (e : DialogueEvent) : Coherent (d.step e) := by
  cases e with
  | request c msg =>
    simp only [step]
    split_ifs with hasks
    · exact coherent_request h hasks.2 msg
    · exact h
  | serve c env =>
    by_cases hl : d.listening c = true
    · cases hp : d.pending c with
      | nil =>
        simp only [step, hl, if_true, hp]
        exact h
      | cons msg rest => exact coherent_serve h hl hp env
    · simp only [step, hl]
      exact h
  | read c =>
    simp only [step]
    split_ifs with hw
    · cases hobject : (d.written c)[(d.read c).length]? with
      | none => exact h
      | some msg => exact coherent_read h hw hobject
    · exact h

/-- The other handlers are where they were, and this client has no further request under way. -/
theorem serve_listening (h : Coherent d) (hpaired : Paired d) (hl : d.listening c = true)
    (hp : d.pending c = msg :: rest) (env : Env) {b : Conn}
    (hb : (d.step (.serve c env)).pending b ≠ []) :
    (d.step (.serve c env)).listening b = true := by
  obtain ⟨k, -, -, -, hserve⟩ := serve_step hl hp env
  rw [hserve] at hb ⊢
  by_cases hbc : b = c
  · subst hbc
    have hone := (hpaired.underWay h (c := b) (by rw [hp]; simp)).1
    rw [hp, List.length_cons] at hone
    have hrest : rest = [] := List.length_eq_zero_iff.1 (by omega)
    exact absurd (by simp [hrest]) hb
  · simp only [Function.update_of_ne hbc] at hb
    have hwas := (hpaired.underWay h hb).2
    unfold listening at hwas ⊢
    rw [Sys.step_frame d.sys _ hbc]
    exact hwas

theorem paired_step_iff (h : Coherent d) (hpaired : Paired d) (e : DialogueEvent) :
    Paired (d.step e) ↔ Answered d e := by
  have hcoherent := coherent_step h e
  have hlistening : ∀ b, d.pending b ≠ [] → d.listening b = true := fun b hb =>
    (hpaired.underWay h hb).2
  cases e with
  | request c msg =>
    refine iff_of_true (paired_of hcoherent ?_ fun b hb => ?_) fun c env msg rest heq => by cases heq
    · simp only [step]
      split_ifs
      · exact hpaired.one_each
      · exact hpaired.one_each
    · simp only [step] at hb ⊢
      split_ifs at hb ⊢ with hasks
      · by_cases hbc : b = c
        · subst hbc
          exact hasks.1
        · simp only [Function.update_of_ne hbc] at hb
          exact hlistening b hb
      · exact hlistening b hb
  | read c =>
    have hsame : (d.step (.read c)).sys = d.sys ∧ (d.step (.read c)).pending = d.pending ∧
        (d.step (.read c)).answers = d.answers := by
      simp only [step]
      split_ifs
      · split
        · exact ⟨rfl, rfl, rfl⟩
        · exact ⟨rfl, rfl, rfl⟩
      · exact ⟨rfl, rfl, rfl⟩
    obtain ⟨hsys, hpending, hanswers⟩ := hsame
    refine iff_of_true (paired_of hcoherent (fun b => ?_) fun b hb => ?_) fun c env msg rest heq => by
      cases heq
    · unfold written
      rw [hsys, hanswers]
      exact hpaired.one_each b
    · rw [hpending] at hb
      unfold listening
      rw [hsys]
      exact hlistening b hb
  | serve c env =>
    cases hp : d.pending c with
    | nil =>
      have hstep : d.step (.serve c env) = d := by
        simp only [step]
        split_ifs
        · rw [hp]
        · rfl
      rw [hstep]
      refine iff_of_true hpaired ?_
      intro c' env' msg rest heq hp'
      cases heq
      rw [hp] at hp'
      cases hp'
    | cons msg rest =>
      have hl := hlistening c (by rw [hp]; simp)
      have hiff := serve_one_each hl hpaired.one_each hp env
      refine ⟨fun h' => ?_, fun hans => ?_⟩
      · intro c' env' msg' rest' heq hp'
        cases heq
        rw [hp] at hp'
        cases hp'
        exact hiff.1 h'.one_each
      · exact paired_of hcoherent (hiff.2 (hans c env msg rest rfl hp)) fun b hb =>
          serve_listening h hpaired hl hp env hb

end Steps

/-- From any state of the server, and under any interleaving of its clients, requests, objects and
responses correspond in every state reached exactly if no request is a `REQUEST`, every
`FILE_REQUEST` carries a file, and no answer to the client that asked is lost. -/
theorem paired_iff_answered (s : Sys) (evs : List DialogueEvent) :
    Throughout step Paired (start s) evs ↔ Along step Answered (start s) evs := by
  have hcoherent : Coherent (start s) :=
    ⟨fun _ => rfl, fun _ => List.nil_prefix, fun _ => Nat.zero_le _⟩
  have hpaired : Paired (start s) :=
    paired_of hcoherent (fun _ => rfl) fun _ hne => absurd rfl hne
  exact throughout_iff_along (I := Paired) (J := Coherent) (E := fun _ => True)
    (fun _ e _ h => coherent_step h e) (fun _ e _ h hp => paired_step_iff h hp e) hcoherent hpaired
    fun _ _ => trivial

def twoClients : Sys :=
  run Sys.step {}
    [.accept 1 false "/10.0.0.1", .accept 2 false "/10.0.0.2",
      .receive 1 (.message { type := some .LOGIN_REQUEST, user := some "u" }) {},
      .receive 2 (.message { type := some .LOGIN_REQUEST, user := some "v" }) {}]

/-- One of them sends a `REQUEST`: it reads the broadcast instead of a response. -/
theorem request_not_paired :
    ¬ Throughout step Paired (start twoClients)
      [.request 1 { type := some .REQUEST, request := some { description := some "notes" } },
        .serve 1 {}] := by
  intro h
  have hlast := (h _ (List.prefix_refl _)).one_each 1
  exact absurd hlast (by decide +kernel)

end Dialogue

end NetSessional.FileServer
