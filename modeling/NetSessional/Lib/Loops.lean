import Mathlib.Tactic

/-! A `while` loop that is given so many rounds at most. A measure that every round lowers shows that the
rounds suffice; what holds at the end is read off the round that ends it. -/

namespace NetSessional.Loops

inductive Round (σ : Type*) where
  | done (s : σ)
  | again (s : σ)

variable {σ : Type*} {body : σ → Round σ}

def loop (body : σ → Round σ) : ℕ → σ → σ
  | 0, s => s
  | rounds + 1, s =>
    match body s with
    | .done t => t
    | .again t => loop body rounds t

@[simp] theorem loop_zero (s : σ) : loop body 0 s = s := rfl

theorem loop_done {s t : σ} (h : body s = .done t) (rounds : ℕ) :
    loop body (rounds + 1) s = t := by
  simp [loop, h]

theorem loop_again {s t : σ} (h : body s = .again t) (rounds : ℕ) :
    loop body (rounds + 1) s = loop body rounds t := by
  simp [loop, h]

/-- Where the invariant holds, a round that goes on keeps it and lowers the measure; with nothing left of
the measure, the loop is over. -/
structure Lowers (body : σ → Round σ) (I : σ → Prop) (measure : σ → ℕ) : Prop where
  keeps : ∀ s t, I s → body s = .again t → I t
  lowers : ∀ s t, I s → body s = .again t → measure t < measure s
  rests : ∀ s, I s → measure s = 0 → body s = .done s

variable {I : σ → Prop} {measure : σ → ℕ} {s : σ}

theorem Lowers.ends (h : Lowers body I measure) (hs : I s) {rounds : ℕ} (hn : measure s ≤ rounds) :
    ∃ t, I t ∧ body t = .done (loop body rounds s) := by
  induction rounds generalizing s with
  | zero => exact ⟨s, hs, h.rests s hs (Nat.le_zero.1 hn)⟩
  | succ rounds ih =>
    cases hb : body s with
    | done t =>
      rw [loop_done hb]
      exact ⟨s, hs, hb⟩
    | again t =>
      have hless := h.lowers s t hs hb
      rw [loop_again hb]
      exact ih (h.keeps s t hs hb) (by omega)

theorem Lowers.loop_eq (h : Lowers body I measure) (hs : I s) {rounds : ℕ}
    (hn : measure s ≤ rounds) : loop body rounds s = loop body (measure s) s := by
  suffices hall : ∀ n m, measure s ≤ n → measure s ≤ m → loop body n s = loop body m s from
    hall rounds (measure s) hn le_rfl
  intro n
  induction n generalizing s with
  | zero =>
    intro m hn hm
    cases m with
    | zero => rfl
    | succ m =>
      rw [loop_done (h.rests s hs (Nat.le_zero.1 hn))]
      rfl
  | succ n ih =>
    intro m hn hm
    cases hb : body s with
    | done t =>
      rw [loop_done hb]
      cases m with
      | zero =>
        have hrest := h.rests s hs (Nat.le_zero.1 hm)
        rw [hb] at hrest
        exact Round.done.inj hrest
      | succ m => rw [loop_done hb]
    | again t =>
      have hless := h.lowers s t hs hb
      cases m with
      | zero => omega
      | succ m =>
        rw [loop_again hb, loop_again hb]
        exact ih (h.keeps s t hs hb) (by omega) m (by omega) (by omega)

end NetSessional.Loops
