import Mathlib.Tactic

/-! Concurrent systems under every schedule. A step of an agent may be blocked; an execution is a
list of agents none of which is blocked when its turn comes. Safety follows from an invariant of
the steps, termination from a measure that every step lowers. -/

namespace NetSessional.Schedules

variable {σ α : Type*} {step : σ → α → Option σ}

/-- The state after the agents of a schedule have stepped in turn, unless one of them was
blocked. -/
def exec (step : σ → α → Option σ) (s : σ) : List α → Option σ
  | [] => some s
  | a :: as => (step s a).bind fun s' => exec step s' as

def Stuck (step : σ → α → Option σ) (s : σ) : Prop := ∀ a, step s a = none

theorem exec_cons {s s' : σ} {a : α} {as : List α} (h : exec step s (a :: as) = some s') :
    ∃ t, step s a = some t ∧ exec step t as = some s' := by
  simpa [exec, Option.bind_eq_some_iff] using h

theorem exec_invariant {I : σ → Prop} (hstep : ∀ s a t, I s → step s a = some t → I t)
    {as : List α} {s s' : σ} (hI : I s) (h : exec step s as = some s') : I s' := by
  induction as generalizing s with
  | nil =>
    obtain rfl := Option.some.inj h
    exact hI
  | cons a as ih =>
    obtain ⟨t, ht, hrest⟩ := exec_cons h
    exact ih (hstep s a t hI ht) hrest

theorem exec_length_le {I : σ → Prop} {measure : σ → ℕ}
    (hstep : ∀ s a t, I s → step s a = some t → I t)
    (hless : ∀ s a t, I s → step s a = some t → measure t < measure s)
    {as : List α} {s s' : σ} (hI : I s) (h : exec step s as = some s') :
    as.length + measure s' ≤ measure s := by
  induction as generalizing s with
  | nil =>
    obtain rfl := Option.some.inj h
    simp
  | cons a as ih =>
    obtain ⟨t, ht, hrest⟩ := exec_cons h
    have htail := ih (hstep s a t hI ht) hrest
    have hhead := hless s a t hI ht
    rw [List.length_cons]
    omega

theorem exists_stuck {I : σ → Prop} {measure : σ → ℕ}
    (hstep : ∀ s a t, I s → step s a = some t → I t)
    (hless : ∀ s a t, I s → step s a = some t → measure t < measure s) {s : σ} (hI : I s) :
    ∃ as t, exec step s as = some t ∧ Stuck step t := by
  induction hn : measure s using Nat.strong_induction_on generalizing s with
  | _ n ih =>
    by_cases hstuck : Stuck step s
    · exact ⟨[], s, rfl, hstuck⟩
    · obtain ⟨a, ha⟩ := not_forall.1 hstuck
      obtain ⟨t, ht⟩ := Option.ne_none_iff_exists'.1 ha
      obtain ⟨as, u, hexec, hu⟩ := ih (measure t) (hn ▸ hless s a t hI ht) (hstep s a t hI ht) rfl
      exact ⟨a :: as, u, by simp [exec, ht, hexec], hu⟩

/-! A queue between a writer that goes through the list `l` and its reader, which has
taken `r` of the `w` elements put in. -/

section Queue
variable {β : Type*} {l q : List β} {x : β} {r w : ℕ}

def Fifo (l : List β) (r : ℕ) (q : List β) (w : ℕ) : Prop :=
  r ≤ l.length ∧ w ≤ l.length ∧ l.take r ++ q = l.take w

theorem Fifo.length (h : Fifo l r q w) : r + q.length = w := by
  have hlen := congrArg List.length h.2.2
  rw [List.length_append, List.length_take_of_le h.1, List.length_take_of_le h.2.1] at hlen
  exact hlen

theorem Fifo.write (h : Fifo l r q w) (hx : l[w]? = some x) :
    Fifo l r (q ++ [x]) (w + 1) := by
  obtain ⟨hlt, -⟩ := List.getElem?_eq_some_iff.1 hx
  refine ⟨h.1, hlt, ?_⟩
  rw [← List.append_assoc, h.2.2, List.take_add_one, hx]
  rfl

theorem Fifo.read (h : Fifo l r (x :: q) w) :
    l[r]? = some x ∧ Fifo l (r + 1) q w := by
  have hlen := h.length
  rw [List.length_cons] at hlen
  have hx : l[r]? = some x := by
    have hget := congrArg (fun m => m[r]?) h.2.2
    simp only [List.getElem?_take_of_lt (show r < w by omega)] at hget
    rw [← hget, List.getElem?_append_right (by rw [List.length_take_of_le h.1]),
      List.length_take_of_le h.1, Nat.sub_self]
    rfl
  obtain ⟨hlt, -⟩ := List.getElem?_eq_some_iff.1 hx
  refine ⟨hx, hlt, h.2.1, ?_⟩
  rw [List.take_add_one, hx, ← h.2.2]
  simp

end Queue

end NetSessional.Schedules
