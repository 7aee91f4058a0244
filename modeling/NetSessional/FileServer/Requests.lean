import NetSessional.FileServer.Exits
import NetSessional.FileServer.RefusedLogin
import NetSessional.Lib.Docket

/-! The registry of requests: `Server.addRequest` and `Server.removeRequest`, called by handlers or by
anyone else, in any order. A docket records what the users have asked for and not withdrawn, and the
lists of the server are compared with it. -/

namespace NetSessional.FileServer

open Runs

namespace Server

def pending (s : Server) : List Request := s.requests.entries.flatMap fun e => e.2

structure Removes (user : Name) (k : Int32) (s s' : Server) : Prop where
  found : ∀ r ∈ s.requestList user, r.number = k →
    s'.requestList user = (s.requestList user).erase r
  notFound : (∀ r ∈ s.requestList user, r.number ≠ k) →
    s'.requests.lookup user = s.requests.lookup user
  others : ∀ v, v ≠ user → s'.requests.lookup v = s.requests.lookup v
  rest : { s' with requests := s.requests } = s

/-- `msg` is written once to each registered stream whose write succeeds, and to no other. -/
structure Delivers (s : Server) (writeFails : Conn → Bool) (msg : Message)
    (written : List (Conn × Message)) : Prop where
  once : ∀ u d, s.oos.lookup u = some d → ¬ writeFails d →
    written.filter (fun m => m.1 = d) = [(d, msg)]
  nowhereElse : ∀ d, (∀ u, s.oos.lookup u ≠ some d) ∨ writeFails d →
    written.filter (fun m => m.1 = d) = []

section Accessors
variable {s : Server} {user : Name}

theorem addRequest_total (s : Server) (user : Name) (request : Option Request)
    (writeFails : Conn → Bool) :
    (s.addRequest user request writeFails).1.total_requests = s.total_requests + 1 := by
  unfold addRequest
  cases request <;> cases s.requests.lookup user <;> rfl

theorem addRequest_lookup_isSome (s : Server) (user : Name) (request : Option Request)
    (writeFails : Conn → Bool) (u : Name) :
    ((s.addRequest user request writeFails).1.requests.lookup u).isSome ↔
      u = user ∨ (s.requests.lookup u).isSome := by
  unfold addRequest
  by_cases hu : u = user
  · subst hu
    cases request <;> cases hl : s.requests.lookup u <;> simp [hl]
  · cases request <;> cases hl : s.requests.lookup user <;> simp [hl, hu]

theorem requestList_addRequest (s : Server) (user : Name) (request : Request)
    (writeFails : Conn → Bool) (u : Name) :
    (s.addRequest user (some request) writeFails).1.requestList u = s.requestList u ++
      if u = user then [{ request with number := s.total_requests + 1 }] else [] := by
  split_ifs with hu
  · rw [hu]
    exact requestList_addRequest_some s user request writeFails
  · unfold addRequest requestList
    cases hl : s.requests.lookup user <;> simp [hl, hu]

theorem addRequest_written (s : Server) (user : Name) (request : Request)
    (writeFails : Conn → Bool) : ∃ msg : Message, msg.type = some .BROADCAST ∧
      (s.addRequest user (some request) writeFails).2 =
        some (((s.oos.entries.map Sigma.snd).filter fun d => !writeFails d).map fun d => (d, msg)) := by
  unfold addRequest
  cases s.requests.lookup user with
  | none => exact ⟨_, rfl, rfl⟩
  | some rs => exact ⟨_, rfl, rfl⟩

theorem filter_written (streams : List Conn) (writeFails : Conn → Bool) (msg : Message) (d : Conn) :
    (((streams.filter fun c => !writeFails c).map fun c => (c, msg)).filter fun m => m.1 = d) =
      ((streams.filter fun c => c = d).filter fun c => !writeFails c).map fun c => (c, msg) := by
  rw [List.filter_map, List.filter_filter, List.filter_filter]
  apply congrArg (List.map fun c => (c, msg))
  apply List.filter_congr
  intro c _
  simp [Bool.and_comm]

/-- When no stream is registered under two names, `addRequest` delivers once to each. -/
theorem addRequest_delivers {msg : Message}
    (hone : ∀ u v d, s.oos.lookup u = some d → s.oos.lookup v = some d → u = v)
    (writeFails : Conn → Bool) : s.Delivers writeFails msg
      (((s.oos.entries.map Sigma.snd).filter fun d => !writeFails d).map fun d => (d, msg)) := by
  constructor
  · intro u d hu hw
    rw [filter_written, Table.filter_values_of_lookup hu fun v hv => hone v u d hv hu]
    simp [hw]
  · intro d hd
    rw [filter_written]
    rcases hd with hnone | hw
    · rw [Table.filter_values_of_ne hnone]
      rfl
    · rw [List.filter_filter]
      have hnone : ∀ c ∈ s.oos.entries.map Sigma.snd, ¬ (!writeFails c && decide (c = d)) := by
        intro c _ hc
        simp only [Bool.and_eq_true, Bool.not_eq_true', decide_eq_true_eq] at hc
        rw [hc.2, hw] at hc
        cases hc.1
      rw [List.filter_eq_nil_iff.2 hnone]
      rfl

theorem removeRequest_of_none (h : s.requests.lookup user = none) (k : Int32) :
    s.removeRequest user k = .error .nullPointer := by
  unfold removeRequest
  rw [h]

theorem removeRequest_of_isSome (h : (s.requests.lookup user).isSome) (k : Int32) :
    s.removeRequest user k = .ok { s with
      requests := s.requests.insert user ((s.requestList user).filter fun r => r.number != k) } := by
  unfold removeRequest requestList
  obtain ⟨rs, hrs⟩ := Option.isSome_iff_exists.1 h
  rw [hrs]
  rfl

/-- When no two requests of the user have one number, the filter removes the request asked for. -/
theorem removes_filter (h : (s.requests.lookup user).isSome)
    (hnodup : ((s.requestList user).map Request.number).Nodup) (k : Int32) :
    s.Removes user k { s with
      requests := s.requests.insert user ((s.requestList user).filter fun r => r.number != k) } where
  found r hr hk := by
    unfold requestList at hr hnodup ⊢
    rw [Table.lookup_insert, if_pos rfl, hnodup.of_map.erase_eq_filter]
    apply List.filter_congr
    intro r' hr'
    have hiff : r'.number = k ↔ r' = r := by
      constructor
      · intro hk'
        exact List.inj_on_of_nodup_map hnodup hr' hr (hk'.trans hk.symm)
      · rintro rfl
        exact hk
    rw [Bool.eq_iff_iff, bne_iff_ne, bne_iff_ne]
    exact not_congr hiff
  notFound hne := by
    have hall : (s.requestList user).filter (fun r => r.number != k) = s.requestList user := by
      apply List.filter_eq_self.2
      intro r hr
      exact bne_iff_ne.2 (hne r hr)
    obtain ⟨rs, hrs⟩ := Option.isSome_iff_exists.1 h
    rw [hall, Table.lookup_insert, if_pos rfl]
    unfold requestList
    rw [hrs]
    rfl
  others v hv := by
    rw [Table.lookup_insert, if_neg hv]
  rest := rfl

end Accessors

end Server

namespace Sys

def addRequest (s : Sys) (user : Name) (request : Request) (writeFails : Conn → Bool) : Sys :=
  match s.server.addRequest user (some request) writeFails with
  | (server, written) => { s with server, out := s.out ++ written.getD [] }

/-- `Server.removeRequest`: when it throws, nothing has changed. -/
def removeRequest (s : Sys) (user : Name) (requestNumber : Int32) : Sys :=
  match s.server.removeRequest user requestNumber with
  | .error _ => s
  | .ok server => { s with server }

theorem addRequest_out (s : Sys) (user : Name) (request : Request) (writeFails : Conn → Bool) :
    (s.addRequest user request writeFails).out =
      s.out ++ (s.server.addRequest user (some request) writeFails).2.getD [] := rfl

theorem removeRequest_of_error {s : Sys} {user : Name} {k : Int32} {ex : JavaException}
    (h : s.server.removeRequest user k = .error ex) : s.removeRequest user k = s := by
  unfold removeRequest
  rw [h]

theorem removeRequest_of_ok {s : Sys} {user : Name} {k : Int32} {server : Server}
    (h : s.server.removeRequest user k = .ok server) :
    s.removeRequest user k = { s with server } := by
  unfold removeRequest
  rw [h]

theorem step_of_addRequest {s : Sys} {e : Event} {user : Name} {request : Request}
    {writeFails : Conn → Bool} (hcall : s.call e = .addRequest user (some request) writeFails) :
    s.step e = s.addRequest user request writeFails := by
  obtain ⟨c, ip, rfl, hstream⟩ | ⟨c, h, r, env, rfl, hl, hcalls⟩ := call_cases hcall nofun
  · cases hstream
  · generalize hrequest : some request = o at hcalls
    cases hcalls with
    | request msg hp htype =>
      rw [step_command hl hp]
      unfold handleCommand
      simp only [htype, ← hrequest]
      rfl

end Sys

theorem EntriesServed.of_same {s s' : Sys} (h : EntriesServed s)
    (hsessions : s'.server.sessions = s.server.sessions) (hhandlers : s'.handlers = s.handlers) :
    EntriesServed s' := by
  obtain ⟨hoos, hfos, hip⟩ := h
  unfold Serves at hoos hfos
  constructor
  · unfold Serves
    rw [hsessions, hhandlers]
    exact hoos
  · unfold Serves
    rw [hsessions, hhandlers]
    exact hfos
  · rw [hsessions]
    exact hip

theorem EntriesServed.oos_inj {s : Sys} (h : EntriesServed s) {u v : Name} {d : Conn}
    (hu : s.server.oos.lookup u = some d) (hv : s.server.oos.lookup v = some d) : u = v := by
  obtain ⟨hd, hl, huser, -⟩ := h.oos u d hu
  obtain ⟨hd', hl', huser', -⟩ := h.oos v d hv
  cases hl.symm.trans hl'
  exact huser.symm.trans huser'

inductive RequestEvent where
  /-- a step of the system, which may be a `REQUEST` -/
  | system (e : Event)
  | add (user : Name) (request : Request) (writeFails : Conn → Bool)
  | remove (user : Name) (requestNumber : Int32)

/-- The system, with the docket of what the users have asked for and not withdrawn, and the users of
all calls of `addRequest`. -/
structure Recorded where
  sys : Sys := {}
  docket : Docket Name Request := .empty
  makers : List Name := []

namespace Recorded

def record (w : Recorded) : Call → Recorded
  | .addRequest user (some request) _ =>
    { w with docket := w.docket.file user request, makers := user :: w.makers }
  | .addRequest user none _ => { w with docket := w.docket.skip, makers := user :: w.makers }
  | _ => w

/-- A negative number is taken for 0, which is the number of no entry. -/
def step (w : Recorded) : RequestEvent → Recorded
  | .system e => { w.record (w.sys.call e) with sys := w.sys.step e }
  | .add user request writeFails =>
    { w.record (.addRequest user (some request) writeFails) with
      sys := w.sys.addRequest user request writeFails }
  | .remove user requestNumber =>
    { w with
      sys := w.sys.removeRequest user requestNumber
      docket := w.docket.withdraw user requestNumber.toNatClampNeg }

def call (w : Recorded) : RequestEvent → Call
  | .system e => w.sys.call e
  | .add user request writeFails => .addRequest user (some request) writeFails
  | .remove _ _ => .nothing

def stored (e : Docket.Entry Name Request) : Request :=
  { e.item with number := Int32.ofNat e.number }

/-- No two pending requests have one number, and the list of a user holds what the user has asked for
and not withdrawn. -/
structure Sound (w : Recorded) : Prop where
  distinct : (w.sys.server.pending.map Request.number).Nodup
  placed : ∀ u, w.sys.server.requestList u = (w.docket.ofOwner u).map stored

/-- A call of `removeRequest` returns, having removed the request it names; a call of `addRequest`
sends one broadcast to each registered stream. -/
structure Exact (w : Recorded) (e : RequestEvent) : Prop where
  removes : ∀ user k, e = .remove user k → ∃ server,
    w.sys.server.removeRequest user k = .ok server ∧ (w.step e).sys = { w.sys with server } ∧
      w.sys.server.Removes user k server
  delivers : ∀ user request writeFails, w.call e = .addRequest user (some request) writeFails →
    ∃ written msg, (w.step e).sys.out = w.sys.out ++ written ∧ msg.type = some .BROADCAST ∧
      w.sys.server.Delivers writeFails msg written

/-- Requests are removed for a user only after some call of `addRequest` for that user. -/
def RemovesAfterAdd (w : Recorded) (e : RequestEvent) : Prop :=
  ∀ user k, e = .remove user k → user ∈ w.makers

end Recorded

section Numbers
variable {m n : ℕ} {k : Int32}

theorem ofNat_inj (hm : m < 2 ^ 31) (hn : n < 2 ^ 31) (h : Int32.ofNat m = Int32.ofNat n) :
    m = n := by
  have hint := congrArg Int32.toInt h
  rw [Int32.toInt_ofNat_of_lt hm, Int32.toInt_ofNat_of_lt hn] at hint
  omega

theorem ofNat_eq_iff (hpos : 0 < n) (hn : n < 2 ^ 31) :
    Int32.ofNat n = k ↔ n = k.toNatClampNeg := by
  constructor
  · rintro rfl
    exact (Int32.toNatClampNeg_ofNat_of_lt hn).symm
  · intro h
    have hk : 0 ≤ k := by
      apply Int32.le_iff_toInt_le.2
      have hclamp : k.toNatClampNeg = k.toInt.toNat := rfl
      rw [Int32.toInt_zero]
      omega
    rw [h, Int32.ofNat_toNatClampNeg k hk]

end Numbers

namespace Recorded

/-- The statics agree with the docket, as long as the numbers fit. -/
structure Matches (s : Server) (l : Docket Name Request) (makers : List Name) : Prop where
  lists : ∀ u, (s.requests.lookup u).isSome ↔ u ∈ makers
  total : s.total_requests = Int32.ofNat l.count
  counted : l.count = makers.length
  placed : l.count < 2 ^ 31 → ∀ u, s.requestList u = (l.ofOwner u).map stored

section Matches
variable {s : Server} {l : Docket Name Request} {makers : List Name}

theorem Matches.add (h : Matches s l makers) (user : Name) (request : Option Request)
    (writeFails : Conn → Bool) {l' : Docket Name Request} (hcount : l'.count = l.count + 1)
    (hplaced : l.count < 2 ^ 31 → ∀ u,
      (s.addRequest user request writeFails).1.requestList u = (l'.ofOwner u).map stored) :
    Matches (s.addRequest user request writeFails).1 l' (user :: makers) := by
  constructor
  · intro u
    rw [Server.addRequest_lookup_isSome, List.mem_cons, h.lists]
  · rw [Server.addRequest_total, h.total, hcount]
    exact (Int32.ofNat_add l.count 1).symm
  · rw [List.length_cons, ← h.counted, hcount]
  · intro hlt
    apply hplaced
    omega

theorem Matches.addRequest (h : Matches s l makers) (user : Name) (request : Request)
    (writeFails : Conn → Bool) :
    Matches (s.addRequest user (some request) writeFails).1 (l.file user request)
      (user :: makers) := by
  refine h.add user (some request) writeFails rfl fun hlt u => ?_
  have htotal : s.total_requests + 1 = Int32.ofNat (l.count + 1) := by
    rw [h.total, Int32.ofNat_add]
    rfl
  rw [Server.requestList_addRequest, Docket.ofOwner_file, List.map_append, h.placed hlt u, htotal]
  split_ifs
  · rfl
  · rfl

theorem Matches.addNull (h : Matches s l makers) (user : Name) (writeFails : Conn → Bool) :
    Matches (s.addRequest user none writeFails).1 l.skip (user :: makers) := by
  refine h.add user none writeFails rfl fun hlt u => ?_
  rw [requestList_addRequest_none, Docket.ofOwner_skip]
  exact h.placed hlt u

theorem filter_stored (hlt : l.count < 2 ^ 31) (u : Name) (k : Int32) :
    ((l.ofOwner u).map stored).filter (fun r => r.number != k) =
      ((l.ofOwner u).filter fun e => e.number ≠ k.toNatClampNeg).map stored := by
  rw [List.filter_map]
  apply congrArg (List.map stored)
  apply List.filter_congr
  intro e he
  obtain ⟨hpos, hle⟩ := l.issued e (Docket.mem_ofOwner.1 he).1
  have hiff : Int32.ofNat e.number = k ↔ _ := ofNat_eq_iff hpos (lt_of_le_of_lt hle hlt)
  rw [Bool.eq_iff_iff, decide_eq_true_eq]
  exact bne_iff_ne.trans (not_congr hiff)

theorem Matches.remove (h : Matches s l makers) {user : Name} (hmade : user ∈ makers) (k : Int32) :
    Matches { s with
      requests := s.requests.insert user ((s.requestList user).filter fun r => r.number != k) }
      (l.withdraw user k.toNatClampNeg) makers := by
  refine ⟨fun u => ?_, h.total, h.counted, fun (hlt : l.count < 2 ^ 31) u => ?_⟩
  · rw [← h.lists, Table.lookup_insert]
    split_ifs with hu
    · rw [hu, h.lists]
      exact iff_of_true rfl hmade
    · exact Iff.rfl
  · rw [Docket.ofOwner_withdraw, Server.requestList, Table.lookup_insert]
    split_ifs with hu
    · rw [hu, ← filter_stored hlt, ← h.placed hlt user]
      rfl
    · exact h.placed hlt u

theorem Matches.remove_none (h : Matches s l makers) {user : Name} (hmade : user ∉ makers)
    (k : Int32) : Matches s (l.withdraw user k.toNatClampNeg) makers := by
  refine ⟨h.lists, h.total, h.counted, fun hlt u => ?_⟩
  have hnone : s.requests.lookup user = none :=
    Option.not_isSome_iff_eq_none.1 fun hsome => hmade ((h.lists user).1 hsome)
  have hempty : l.ofOwner user = [] := by
    have hplaced := h.placed hlt user
    rw [Server.requestList, hnone] at hplaced
    exact List.map_eq_nil_iff.1 hplaced.symm
  rw [Docket.ofOwner_withdraw_of_nil hempty]
  exact h.placed hlt u

theorem eq_of_ofNat {d e : Docket.Entry Name Request} (hlt : l.count < 2 ^ 31) (hd : d ∈ l.entries)
    (he : e ∈ l.entries) (h : Int32.ofNat d.number = Int32.ofNat e.number) : d = e := by
  have hdle := lt_of_le_of_lt (l.issued d hd).2 hlt
  have hele := lt_of_le_of_lt (l.issued e he).2 hlt
  exact Docket.eq_of_number hd he (ofNat_inj hdle hele h)

theorem Matches.numbers (h : Matches s l makers) (hlt : l.count < 2 ^ 31) (u : Name) :
    (s.requestList u).map Request.number =
      (l.ofOwner u).map fun e => Int32.ofNat e.number := by
  rw [h.placed hlt u, List.map_map]
  rfl

theorem Matches.nodup_numbers (h : Matches s l makers) (hlt : l.count < 2 ^ 31) (u : Name) :
    ((s.requestList u).map Request.number).Nodup := by
  rw [h.numbers hlt]
  apply (l.nodup_ofOwner u).map_on
  intro d hd e he hnumber
  exact eq_of_ofNat hlt (Docket.mem_ofOwner.1 hd).1 (Docket.mem_ofOwner.1 he).1 hnumber

theorem Matches.distinct (h : Matches s l makers) (hlt : l.count < 2 ^ 31) :
    (s.pending.map Request.number).Nodup := by
  have hlist : ∀ u rs, s.requests.lookup u = some rs → s.requestList u = rs := by
    intro u rs hu
    rw [Server.requestList, hu]
    rfl
  unfold Server.pending
  rw [List.map_flatMap]
  apply Table.nodup_flatMap
  · intro u rs hu
    rw [← hlist u rs hu]
    exact h.nodup_numbers hlt u
  · intro u v rs rs' hu hv huv n hn hn'
    rw [← hlist u rs hu, h.numbers hlt] at hn
    rw [← hlist v rs' hv, h.numbers hlt] at hn'
    obtain ⟨d, hd, rfl⟩ := List.mem_map.1 hn
    obtain ⟨e, he, hnumber⟩ := List.mem_map.1 hn'
    obtain ⟨hdmem, rfl⟩ := Docket.mem_ofOwner.1 hd
    obtain ⟨hemem, rfl⟩ := Docket.mem_ofOwner.1 he
    have hsame : e = d := eq_of_ofNat hlt hemem hdmem hnumber
    exact huv (congrArg Docket.Entry.owner hsame.symm)

end Matches

structure Kept (w : Recorded) : Prop where
  served : EntriesServed w.sys
  recorded : Matches w.sys.server w.docket w.makers

section Steps
variable {w : Recorded}

theorem record_cases (w : Recorded) (call : Call) :
    (∃ user request writeFails, call = .addRequest user request writeFails) ∨
      (w.record call = w ∧ (w.sys.server.perform call).requests = w.sys.server.requests ∧
        (w.sys.server.perform call).total_requests = w.sys.server.total_requests) := by
  by_cases hadd : ∃ user request writeFails, call = .addRequest user request writeFails
  · exact Or.inl hadd
  · right
    have hne : ∀ user request writeFails, call ≠ .addRequest user request writeFails := by
      intro user request writeFails heq
      exact hadd ⟨user, request, writeFails, heq⟩
    refine ⟨?_, perform_requests w.sys.server call hne⟩
    cases call with
    | addRequest user request writeFails => exact absurd rfl (hne user request writeFails)
    | _ => rfl

theorem matches_call (h : Matches w.sys.server w.docket w.makers) (call : Call) :
    Matches (w.sys.server.perform call) (w.record call).docket (w.record call).makers := by
  rcases w.record_cases call with ⟨user, request, writeFails, rfl⟩ | ⟨hrecord, hrequests, htotal⟩
  · cases request with
    | none => exact h.addNull user writeFails
    | some request => exact h.addRequest user request writeFails
  · rw [hrecord]
    constructor
    · rw [hrequests]
      exact h.lists
    · rw [htotal]
      exact h.total
    · exact h.counted
    · unfold Server.requestList
      rw [hrequests]
      exact h.placed

theorem Matches.removeRequest (h : Matches w.sys.server w.docket w.makers) (user : Name)
    (k : Int32) :
    (user ∉ w.makers ∧ w.sys.server.removeRequest user k = .error .nullPointer) ∨
      (user ∈ w.makers ∧ w.sys.server.removeRequest user k = .ok { w.sys.server with
        requests := w.sys.server.requests.insert user
          ((w.sys.server.requestList user).filter fun r => r.number != k) }) := by
  by_cases hmade : user ∈ w.makers
  · exact Or.inr ⟨hmade, Server.removeRequest_of_isSome ((h.lists user).2 hmade) k⟩
  · left
    refine ⟨hmade, Server.removeRequest_of_none ?_ k⟩
    exact Option.not_isSome_iff_eq_none.1 fun hsome => hmade ((h.lists user).1 hsome)

theorem kept_step (w : Recorded) (e : RequestEvent) (h : Kept w) : Kept (w.step e) := by
  obtain ⟨hserved, hmatches⟩ := h
  cases e with
  | system e =>
    refine ⟨entriesServed_step w.sys e hserved, ?_⟩
    have hcall := matches_call hmatches (w.sys.call e)
    rw [← Sys.step_server] at hcall
    exact hcall
  | add user request writeFails =>
    refine ⟨hserved.of_same ?_ rfl, ?_⟩
    · exact sessions_addRequest w.sys.server user (some request) writeFails
    · exact matches_call hmatches (.addRequest user (some request) writeFails)
  | remove user k =>
    rcases hmatches.removeRequest user k with ⟨hmade, hremove⟩ | ⟨hmade, hremove⟩
    · constructor
      · rw [step, Sys.removeRequest_of_error hremove]
        exact hserved
      · rw [step, Sys.removeRequest_of_error hremove]
        exact hmatches.remove_none hmade k
    · constructor
      · rw [step, Sys.removeRequest_of_ok hremove]
        exact hserved.of_same rfl rfl
      · rw [step, Sys.removeRequest_of_ok hremove]
        exact hmatches.remove hmade k

theorem Matches.sound (h : Matches w.sys.server w.docket w.makers)
    (hlt : w.docket.count < 2 ^ 31) : Sound w :=
  ⟨h.distinct hlt, h.placed hlt⟩

theorem step_of_call {e : RequestEvent} {user : Name} {request : Request}
    {writeFails : Conn → Bool} (hcall : w.call e = .addRequest user (some request) writeFails) :
    (w.step e).sys = w.sys.addRequest user request writeFails := by
  cases e with
  | system e => exact Sys.step_of_addRequest hcall
  | add user' request' writeFails' =>
    cases hcall
    rfl
  | remove user' k => cases hcall

theorem exact_iff (w : Recorded) (e : RequestEvent) (h : Kept w) (hlt : w.docket.count < 2 ^ 31) :
    Exact w e ↔ RemovesAfterAdd w e := by
  obtain ⟨hserved, hmatches⟩ := h
  constructor
  · intro hexact user k he
    obtain ⟨server, hok, -⟩ := hexact.removes user k he
    rcases hmatches.removeRequest user k with ⟨-, hfails⟩ | ⟨hmade, -⟩
    · cases hfails.symm.trans hok
    · exact hmade
  · intro hafter
    constructor
    · rintro user k rfl
      rcases hmatches.removeRequest user k with ⟨hnot, -⟩ | ⟨hmade, hok⟩
      · exact absurd (hafter user k rfl) hnot
      · refine ⟨_, hok, Sys.removeRequest_of_ok hok, ?_⟩
        · apply Server.removes_filter ((hmatches.lists user).2 hmade)
          exact hmatches.nodup_numbers hlt user
    · intro user request writeFails hcall
      obtain ⟨msg, hmsg, hwritten⟩ :=
        Server.addRequest_written w.sys.server user request writeFails
      have hone : ∀ u v d, w.sys.server.oos.lookup u = some d →
          w.sys.server.oos.lookup v = some d → u = v := fun u v d => hserved.oos_inj
      refine ⟨_, msg, ?_, hmsg, Server.addRequest_delivers hone writeFails⟩
      rw [step_of_call hcall, Sys.addRequest_out, hwritten]
      rfl

end Steps

theorem kept_start : Kept {} := by
  refine ⟨entriesServed_start, fun u => ?_, rfl, rfl, fun _ u => rfl⟩
  simp

theorem makers_run (w : Recorded) (evs : List RequestEvent) :
    w.makers.length ≤ (run step w evs).makers.length := by
  have hrecord : ∀ (w' : Recorded) call, w'.makers.length ≤ (w'.record call).makers.length := by
    intro w' call
    rcases w'.record_cases call with ⟨user, request, writeFails, rfl⟩ | ⟨hsame, -⟩
    · cases request <;> exact Nat.le_succ _
    · rw [hsame]
  have hstep : ∀ (w' : Recorded) e, w.makers.length ≤ w'.makers.length →
      w.makers.length ≤ (w'.step e).makers.length := by
    intro w' e hle
    cases e with
    | system e => exact hle.trans (hrecord w' _)
    | add user request writeFails => exact hle.trans (hrecord w' _)
    | remove user k => exact hle
  exact run_invariant hstep le_rfl evs

/-- In every run with fewer than `2 ^ 31` calls of `addRequest`, the lists hold what the users have
asked for and not withdrawn, under distinct numbers; and each call does just what it should, exactly
if requests are removed only for users for whom there was a call of `addRequest`. -/
theorem request_registry_iff (evs : List RequestEvent)
    (hfew : (run step {} evs).makers.length < 2 ^ 31) :
    (Throughout step Sound {} evs ∧ Along step Exact {} evs) ↔
      Along step RemovesAfterAdd {} evs := by
  have hkept : ∀ pre, Kept (run step {} pre) := run_invariant kept_step kept_start
  have hsmall : ∀ pre, pre <+: evs → (run step {} pre).docket.count < 2 ^ 31 := by
    rintro pre ⟨post, rfl⟩
    rw [run_append] at hfew
    rw [(hkept pre).recorded.counted]
    exact lt_of_le_of_lt (makers_run _ post) hfew
  have hsound : Throughout step Sound {} evs := by
    intro pre hp
    exact (hkept pre).recorded.sound (hsmall pre hp)
  have hexact : Along step Exact {} evs ↔ Along step RemovesAfterAdd {} evs := by
    refine forall_congr' fun pre => forall_congr' fun e => imp_congr_right fun hp => ?_
    exact exact_iff _ e (hkept pre) (hsmall pre ((List.prefix_append pre [e]).trans hp))
  rw [hexact]
  exact and_iff_right hsound

/-- `u` logs in and asks for a file, someone asks for another one in the name of `v`, and the request
of `u` is removed. -/
def requestWithdrawn : List RequestEvent :=
  [.system (.accept 0 false "/10.0.0.1"),
    .system (.receive 0 (.message { type := some .LOGIN_REQUEST, user := some "u" }) {}),
    .system (.receive 0 (.message { type := some .REQUEST, request := some {} }) {}),
    .add (some "v") { description := some "d" } fun _ => false,
    .remove (some "u") 1]

theorem request_withdrawn_exact :
    Throughout step Sound {} requestWithdrawn ∧ Along step Exact {} requestWithdrawn := by
  refine (request_registry_iff requestWithdrawn (by decide)).2 ?_
  iterate 4
    refine (along_cons _ _ _ _ _).2 ⟨?_, ?_⟩
    · rintro user k ⟨⟩
  refine (along_cons _ _ _ _ _).2 ⟨?_, along_nil _ _ _⟩
  rintro user k ⟨⟩
  decide

/-- Nobody has asked for anything, and the call does not return. -/
theorem remove_before_add :
    (run step {} [.remove (some "u") 1]).makers.length < 2 ^ 31 ∧
      ¬ (Throughout step Sound {} [.remove (some "u") 1] ∧
        Along step Exact {} [.remove (some "u") 1]) := by
  refine ⟨by decide, fun h => ?_⟩
  obtain ⟨server, hok, -⟩ := (h.2 [] _ List.prefix_rfl).removes (some "u") 1 rfl
  have hfails : ({} : Server).removeRequest (some "u") 1 = .error .nullPointer := rfl
  cases hfails.symm.trans hok

end Recorded

end NetSessional.FileServer
