import Mathlib.Tactic

/-! Runs of a deterministic event-driven system: the state after a list of events, what holds in
every state reached, and what every step of a run is required to meet. The rules below turn a
statement about one step into one about all runs; nothing here names a particular system. -/

namespace NetSessional.Runs

variable {σ τ ε : Type*}

def run (step : σ → ε → σ) (s : σ) (evs : List ε) : σ := evs.foldl step s

/-- `P` holds in every state of the run, the first one included. -/
def Throughout (step : σ → ε → σ) (P : σ → Prop) (s : σ) (evs : List ε) : Prop :=
  ∀ pre, pre <+: evs → P (run step s pre)

/-- Every step of the run meets `G`, a condition on the state before the step and its event. -/
def Along (step : σ → ε → σ) (G : σ → ε → Prop) (s : σ) (evs : List ε) : Prop :=
  ∀ pre e, pre ++ [e] <+: evs → G (run step s pre) e

section Basic
variable (step : σ → ε → σ)

@[simp] theorem run_nil (s : σ) : run step s [] = s := rfl

@[simp] theorem run_cons (s : σ) (e : ε) (evs : List ε) :
    run step s (e :: evs) = run step (step s e) evs := rfl

theorem run_append (s : σ) (as bs : List ε) :
    run step s (as ++ bs) = run step (run step s as) bs := by
  simp [run]

@[simp] theorem run_snoc (s : σ) (evs : List ε) (e : ε) :
    run step s (evs ++ [e]) = step (run step s evs) e := by
  simp [run]

theorem throughout_nil (P : σ → Prop) (s : σ) : Throughout step P s [] ↔ P s := by
  simp [Throughout]

theorem throughout_cons (P : σ → Prop) (s : σ) (e : ε) (evs : List ε) :
    Throughout step P s (e :: evs) ↔ P s ∧ Throughout step P (step s e) evs := by
  refine ⟨fun h => ?_, ?_⟩
  · refine ⟨h [] List.nil_prefix, fun pre hp => ?_⟩
    exact h (e :: pre) ((List.prefix_cons_inj e).2 hp)
  · rintro ⟨h0, h⟩ pre hp
    cases pre with
    | nil => exact h0
    | cons a pre =>
      obtain ⟨rfl, htl⟩ := List.cons_prefix_cons.1 hp
      exact h pre htl

theorem along_nil (G : σ → ε → Prop) (s : σ) : Along step G s [] := by
  intro pre e hp
  simp at hp

theorem along_cons (G : σ → ε → Prop) (s : σ) (e : ε) (evs : List ε) :
    Along step G s (e :: evs) ↔ G s e ∧ Along step G (step s e) evs := by
  refine ⟨fun h => ?_, ?_⟩
  · refine ⟨h [] e (by simp), fun pre a hp => ?_⟩
    exact h (e :: pre) a (by simpa using hp)
  · rintro ⟨h0, h⟩ pre a hp
    cases pre with
    | nil =>
      obtain ⟨rfl, -⟩ := List.cons_prefix_cons.1 hp
      exact h0
    | cons b pre =>
      obtain ⟨rfl, htl⟩ := List.cons_prefix_cons.1 hp
      exact h pre a htl

theorem along_snoc (G : σ → ε → Prop) (s : σ) (evs : List ε) (e : ε) :
    Along step G s (evs ++ [e]) ↔ Along step G s evs ∧ G (run step s evs) e := by
  refine ⟨fun h => ⟨fun pre a hp => ?_, h evs e (List.prefix_refl _)⟩, ?_⟩
  · exact h pre a (hp.trans (List.prefix_append evs [e]))
  · rintro ⟨hall, hlast⟩ pre a hp
    rcases List.prefix_concat_iff.1 hp with heq | hp
    · obtain ⟨rfl, rfl⟩ := List.append_singleton_inj.1 heq
      exact hlast
    · exact hall pre a hp

end Basic

section Rules
variable {step : σ → ε → σ} {I J : σ → Prop} {G : σ → ε → Prop}

theorem run_invariant (hstep : ∀ s e, I s → I (step s e)) {s : σ} (h : I s) (evs : List ε) :
    I (run step s evs) := by
  induction evs generalizing s with
  | nil => exact h
  | cons e evs ih => exact ih (hstep s e h)

theorem run_invariant_of {E : ε → Prop} (hstep : ∀ s e, E e → I s → I (step s e)) {s : σ}
    (h : I s) {evs : List ε} (hE : ∀ e ∈ evs, E e) : I (run step s evs) := by
  induction evs generalizing s with
  | nil => exact h
  | cons e evs ih =>
    exact ih (hstep s e (hE e (by simp)) h) (fun e' he' => hE e' (by simp [he']))

theorem throughout_invariant_of {E : ε → Prop} (hstep : ∀ s e, E e → I s → I (step s e)) {s : σ}
    (h : I s) {evs : List ε} (hE : ∀ e ∈ evs, E e) : Throughout step I s evs :=
  fun _ hp => run_invariant_of hstep h fun e he => hE e (hp.subset he)

/-- The events of one kind count up, the others leave the count as it is. -/
theorem run_counted {E : ε → Prop} {p : ε → Bool} {C : ℕ → σ → Prop}
    (hother : ∀ r s e, E e → p e = false → C r s → C r (step s e))
    (hcount : ∀ r s e, E e → p e = true → C r s → C (r + 1) (step s e)) {r : ℕ} {s : σ} (h : C r s)
    {evs : List ε} (hE : ∀ e ∈ evs, E e) : C (r + evs.countP p) (run step s evs) := by
  induction evs generalizing s r with
  | nil => exact h
  | cons e evs ih =>
    have hrest : ∀ e' ∈ evs, E e' := fun e' he' => hE e' (by simp [he'])
    rw [run_cons, List.countP_cons, Nat.add_comm (evs.countP p), ← Nat.add_assoc]
    cases hp : p e with
    | false => exact ih (hother r s e (hE e (by simp)) hp h) hrest
    | true => exact ih (hcount r s e (hE e (by simp)) hp h) hrest

/-- The events of one kind count up to `n`; with the next one something else begins, for good. -/
theorem run_counted_to {E : ε → Prop} {p : ε → Bool} {C : ℕ → σ → Prop} {n : ℕ}
    (hother : ∀ r s e, E e → p e = false → C r s → C r (step s e))
    (hcount : ∀ r s e, E e → p e = true → r < n → C r s → C (r + 1) (step s e))
    (hend : ∀ s e, E e → p e = true → C n s → J (step s e))
    (hstay : ∀ s e, E e → J s → J (step s e)) {r : ℕ} {s : σ} (hr : r ≤ n) (h : C r s)
    {evs : List ε} (hE : ∀ e ∈ evs, E e) :
    (r + evs.countP p ≤ n → C (r + evs.countP p) (run step s evs)) ∧
      (n < r + evs.countP p → J (run step s evs)) := by
  have hall : r + evs.countP p ≤ n ∧ C (r + evs.countP p) (run step s evs) ∨
      n < r + evs.countP p ∧ J (run step s evs) := by
    refine run_counted (C := fun r s => r ≤ n ∧ C r s ∨ n < r ∧ J s) ?_ ?_ (.inl ⟨hr, h⟩) hE
    · rintro r s e he hp (⟨hle, hc⟩ | ⟨hlt, hj⟩)
      · exact .inl ⟨hle, hother r s e he hp hc⟩
      · exact .inr ⟨hlt, hstay s e he hj⟩
    · rintro r s e he hp (⟨hle, hc⟩ | ⟨hlt, hj⟩)
      · rcases hle.lt_or_eq with hlt | rfl
        · exact .inl ⟨hlt, hcount r s e he hp hlt hc⟩
        · exact .inr ⟨Nat.lt_succ_self r, hend s e he hp hc⟩
      · exact .inr ⟨Nat.lt_succ_of_lt hlt, hstay s e he hj⟩
  rcases hall with ⟨hle, hc⟩ | ⟨hlt, hj⟩
  · exact ⟨fun _ => hc, fun hlt => absurd hlt (not_lt.2 hle)⟩
  · exact ⟨fun hle => absurd hlt (not_lt.2 hle), fun _ => hj⟩

/-- When a property of the history so far, true of the empty one, survives an event exactly if
the event meets `G`, it is true of all histories of a run exactly if every event meets `G`. -/
theorem prefixes_iff {P : List ε → Prop} {G : List ε → ε → Prop} {evs : List ε} (h0 : P [])
    (hstep : ∀ pre e, pre ++ [e] <+: evs → P pre → (P (pre ++ [e]) ↔ G pre e)) :
    (∀ pre, pre <+: evs → P pre) ↔ ∀ pre e, pre ++ [e] <+: evs → G pre e := by
  refine ⟨fun h pre e hp => ?_, fun h pre => ?_⟩
  · exact (hstep pre e hp (h pre ((List.prefix_append pre [e]).trans hp))).1 (h _ hp)
  · induction pre using List.reverseRecOn with
    | nil => exact fun _ => h0
    | append_singleton pre e ih =>
      intro hp
      exact (hstep pre e hp (ih ((List.prefix_append pre [e]).trans hp))).2 (h pre e hp)

/-- When `J` is kept by every step, and a step from a `J` state in which `I` holds keeps `I`
exactly if it meets `G`, then `I` holds throughout a run exactly if every step meets `G`. -/
theorem throughout_iff_along {E : ε → Prop} (hJ : ∀ s e, E e → J s → J (step s e))
    (hI : ∀ s e, E e → J s → I s → (I (step s e) ↔ G s e)) {s : σ} (h0 : J s) (h1 : I s)
    {evs : List ε} (hE : ∀ e ∈ evs, E e) :
    Throughout step I s evs ↔ Along step G s evs := by
  refine prefixes_iff h1 fun pre e hp hpre => ?_
  have hreach : J (run step s pre) :=
    throughout_invariant_of hJ h0 hE pre ((List.prefix_append pre [e]).trans hp)
  rw [run_snoc]
  exact hI _ e (hE e (hp.subset (by simp))) hreach hpre

/-- An invariant of the steps that meet `G` holds throughout a run whose steps all meet it. -/
theorem throughout_of_along (hstep : ∀ s e, I s → G s e → I (step s e)) {s : σ} (h : I s)
    {evs : List ε} (hG : Along step G s evs) : Throughout step I s evs := by
  induction evs generalizing s with
  | nil => exact (throughout_nil step I s).2 h
  | cons e evs ih =>
    obtain ⟨hg, hG⟩ := (along_cons step G s e evs).1 hG
    exact (throughout_cons step I s e evs).2 ⟨h, ih (hstep s e h hg) hG⟩

theorem Along.imp_of_throughout {H : σ → ε → Prop} {s : σ} {evs : List ε}
    (hG : Along step G s evs) (hI : Throughout step I s evs)
    (himp : ∀ s e, I s → G s e → H s e) : Along step H s evs := by
  intro pre e hp
  exact himp _ e (hI pre ((List.prefix_append pre [e]).trans hp)) (hG pre e hp)

/-- Two properties of a step that agree in the states of an invariant agree along every run. -/
theorem along_congr {H : σ → ε → Prop} (hstep : ∀ s e, I s → I (step s e))
    (hGH : ∀ s e, I s → (G s e ↔ H s e)) {s : σ} (h : I s) (evs : List ε) :
    Along step G s evs ↔ Along step H s evs := by
  refine forall_congr' fun pre => forall_congr' fun e => imp_congr_right fun _ => ?_
  exact hGH _ e (run_invariant hstep h pre)

/-- The same of runs whose steps all meet `E`, where the property keeps the invariant. -/
theorem along_congr_of_kept {E H : σ → ε → Prop} (hGH : ∀ s e, I s → E s e → (G s e ↔ H s e))
    (hstep : ∀ s e, I s → E s e → H s e → I (step s e)) {s : σ} (h : I s) {evs : List ε}
    (hE : Along step E s evs) : Along step G s evs ↔ Along step H s evs := by
  induction evs generalizing s with
  | nil => exact ⟨fun _ => along_nil step H s, fun _ => along_nil step G s⟩
  | cons e evs ih =>
    obtain ⟨he, hE⟩ := (along_cons step E s e evs).1 hE
    rw [along_cons, along_cons, hGH s e h he]
    exact and_congr_right fun hH => ih (hstep s e h he hH) hE

/-- Lock-step simulation: a relation kept by every pair of steps relates the two runs. -/
theorem run_simulation {step' : τ → ε → τ} {R : σ → τ → Prop} {G : σ → ε → Prop}
    (hstep : ∀ s t e, R s t → G s e → R (step s e) (step' t e)) {s : σ} {t : τ} (h : R s t)
    {evs : List ε} (hG : Along step G s evs) : R (run step s evs) (run step' t evs) := by
  induction evs generalizing s t with
  | nil => exact h
  | cons e evs ih =>
    obtain ⟨hg, hG⟩ := (along_cons step G s e evs).1 hG
    exact ih (hstep s t e h hg) hG

theorem Along.getElem {s : σ} {evs : List ε} (h : Along step G s evs) {i : ℕ}
    (hi : i < evs.length) : G (run step s (evs.take i)) evs[i] := by
  apply h
  rw [List.take_append_getElem hi]
  exact List.take_prefix (i + 1) evs

theorem Along.of_prefix {s : σ} {as bs : List ε} (hp : as <+: bs) (h : Along step G s bs) :
    Along step G s as :=
  fun pre e he => h pre e (he.trans hp)

theorem Throughout.of_prefix {s : σ} {as bs : List ε} (hp : as <+: bs)
    (h : Throughout step I s bs) : Throughout step I s as :=
  fun pre he => h pre (he.trans hp)

end Rules

section TwoRuns
variable {step : σ → ε → σ}

def both (step : σ → ε → σ) (p : σ × σ) (e : ε) : σ × σ := (step p.1 e, step p.2 e)

@[simp] theorem run_both (s t : σ) (evs : List ε) :
    run (both step) (s, t) evs = (run step s evs, run step t evs) := by
  induction evs generalizing s t with
  | nil => rfl
  | cons e evs ih => exact ih (step s e) (step t e)

theorem throughout_both_self {V : σ → σ → Prop} (hV : ∀ s, V s s) (s : σ) (evs : List ε) :
    Throughout (both step) (fun p => V p.1 p.2) (s, s) evs := by
  intro pre _
  rw [run_both]
  exact hV _

/-- Two states that differ in a hidden part only (`R`) look the same (`V`). Of the events, some are
decisive (`D`): they bring the states together if they meet `A`, and else show the difference; the
others keep it hidden. Then the two runs look the same throughout exactly if the first decisive
event, if any, meets `A`. -/
theorem throughout_both_iff {V R : σ → σ → Prop} {D : ε → Prop} {A : σ → σ → ε → Prop}
    (hV : ∀ s, V s s) (hR : ∀ s t, R s t → V s t)
    (hhide : ∀ s t e, R s t → ¬ D e → R (step s e) (step t e))
    (hmeet : ∀ s t e, R s t → D e → A s t e → step s e = step t e)
    (hshow : ∀ s t e, R s t → D e → ¬ A s t e → ¬ V (step s e) (step t e))
    {s t : σ} (h : R s t) {evs : List ε} :
    Throughout (both step) (fun p => V p.1 p.2) (s, t) evs ↔
      ∀ pre e, pre ++ [e] <+: evs → (∀ a ∈ pre, ¬ D a) → D e →
        A (run step s pre) (run step t pre) e := by
  induction evs generalizing s t with
  | nil =>
    rw [throughout_nil]
    exact ⟨fun _ pre e hp => absurd hp (by simp), fun _ => hR s t h⟩
  | cons e evs ih =>
    rw [throughout_cons]
    by_cases hD : D e
    · -- the first decisive event
      refine ⟨fun hrun pre a hp hpre ha => ?_, fun hfirst => ⟨hR s t h, ?_⟩⟩
      · cases pre with
        | nil =>
          obtain ⟨rfl, -⟩ := List.cons_prefix_cons.1 hp
          by_contra hA
          exact hshow s t a h hD hA (hrun.2 [] List.nil_prefix)
        | cons b pre =>
          obtain ⟨rfl, -⟩ := List.cons_prefix_cons.1 hp
          exact absurd hD (hpre b (by simp))
      · have hsame := hmeet s t e h hD (hfirst [] e (by simp) (by simp) hD)
        rw [both, hsame]
        exact throughout_both_self hV _ evs
    · have hrest := ih (hhide s t e h hD)
      refine ⟨fun hrun pre a hp hpre ha => ?_, fun hfirst => ⟨hR s t h, hrest.2 ?_⟩⟩
      · cases pre with
        | nil =>
          obtain ⟨rfl, -⟩ := List.cons_prefix_cons.1 hp
          exact absurd ha hD
        | cons b pre =>
          obtain ⟨rfl, htl⟩ := List.cons_prefix_cons.1 hp
          exact hrest.1 hrun.2 pre a htl (fun c hc => hpre c (by simp [hc])) ha
      · intro pre a hp hpre ha
        refine hfirst (e :: pre) a (by simpa using hp) ?_ ha
        intro c hc
        rcases List.mem_cons.1 hc with rfl | hc
        · exact hD
        · exact hpre c hc

end TwoRuns

section Views
variable {α β : Type*} {step : σ → ε → σ}

def collect (step : σ → ε → σ) (view : σ → ε → Option α) (s : σ) : List ε → List α
  | [] => []
  | e :: evs => (view s e).toList ++ collect step view (step s e) evs

theorem collect_cons_none {view : σ → ε → Option α} {s : σ} {e : ε} {evs : List ε}
    (h : view s e = none) : collect step view s (e :: evs) = collect step view (step s e) evs := by
  simp [collect, h]

theorem collect_cons_some {view : σ → ε → Option α} {s : σ} {e : ε} {evs : List ε} {a : α}
    (h : view s e = some a) :
    collect step view s (e :: evs) = a :: collect step view (step s e) evs := by
  simp [collect, h]

theorem collect_snoc (view : σ → ε → Option α) (s : σ) (evs : List ε) (e : ε) :
    collect step view s (evs ++ [e]) =
      collect step view s evs ++ (view (run step s evs) e).toList := by
  induction evs generalizing s with
  | nil => simp [collect]
  | cons a evs ih => simp [collect, ih]

/-- Unwinding, for two runs that need not have equally many steps: a step that shows no label keeps
the relation and puts out nothing, whichever run makes it, and two steps with one label keep it and
put out the same. Then runs with the same labels put out the same. -/
theorem collect_eq_of_unwinding {label : σ → ε → Option α} {out : σ → ε → Option β}
    {R : σ → σ → Prop} (hsymm : ∀ s t, R s t → R t s)
    (hhidden : ∀ s t e, R s t → label s e = none → R (step s e) t ∧ out s e = none)
    (hshown : ∀ s t e e' a, R s t → label s e = some a → label t e' = some a →
      R (step s e) (step t e') ∧ out s e = out t e')
    {s t : σ} (h : R s t) {evs evs' : List ε}
    (hlabels : collect step label s evs = collect step label t evs') :
    collect step out s evs = collect step out t evs' := by
  induction evs generalizing s t evs' with
  | nil =>
    induction evs' generalizing t with
    | nil => rfl
    | cons e' evs' ih' =>
      cases hl : label t e' with
      | none =>
        obtain ⟨hR, hout⟩ := hhidden t s e' (hsymm s t h) hl
        rw [collect_cons_none hl] at hlabels
        rw [collect_cons_none hout]
        exact ih' (hsymm _ _ hR) hlabels
      | some a =>
        rw [collect_cons_some hl] at hlabels
        cases hlabels
  | cons e evs ih =>
    cases hl : label s e with
    | none =>
      obtain ⟨hR, hout⟩ := hhidden s t e h hl
      rw [collect_cons_none hl] at hlabels
      rw [collect_cons_none hout]
      exact ih hR hlabels
    | some a =>
      rw [collect_cons_some hl] at hlabels
      -- the other run comes to the same label after steps that show none
      induction evs' generalizing t with
      | nil => cases hlabels
      | cons e' evs' ih' =>
        cases hl' : label t e' with
        | none =>
          obtain ⟨hR, hout⟩ := hhidden t s e' (hsymm s t h) hl'
          rw [collect_cons_none hl'] at hlabels
          rw [collect_cons_none hout]
          exact ih' (hsymm _ _ hR) hlabels
        | some a' =>
          rw [collect_cons_some hl'] at hlabels
          obtain ⟨rfl, hrest⟩ := List.cons.inj hlabels
          obtain ⟨hR, hout⟩ := hshown s t e e' a h hl hl'
          have htail := ih hR hrest
          simp only [collect, hout, htail]

end Views

end NetSessional.Runs
