import Mathlib.Data.List.Basic
import Mathlib.Tactic

/-! A docket numbers what its owners file, in the order of filing, and strikes off what an owner
withdraws. No number is used twice. -/

namespace NetSessional

structure Docket.Entry (ω α : Type*) where
  number : ℕ
  owner : ω
  item : α

structure Docket (ω α : Type*) where
  /-- the number used last -/
  count : ℕ
  /-- what has not been withdrawn, oldest first -/
  entries : List (Docket.Entry ω α)
  increasing : entries.Pairwise fun d e => d.number < e.number
  issued : ∀ e ∈ entries, 0 < e.number ∧ e.number ≤ count

namespace Docket

variable {ω α : Type*}

def empty : Docket ω α where
  count := 0
  entries := []
  increasing := .nil
  issued := by simp

def skip (l : Docket ω α) : Docket ω α where
  count := l.count + 1
  entries := l.entries
  increasing := l.increasing
  issued e he := ⟨(l.issued e he).1, Nat.le_succ_of_le (l.issued e he).2⟩

theorem increasing_file (l : Docket ω α) (e : Entry ω α) (he : e.number = l.count + 1) :
    (l.entries ++ [e]).Pairwise fun d e => d.number < e.number := by
  apply List.pairwise_append.2
  refine ⟨l.increasing, List.pairwise_singleton _ e, fun d hd e' he' => ?_⟩
  obtain rfl := List.mem_singleton.1 he'
  have hle := (l.issued d hd).2
  omega

theorem issued_file (l : Docket ω α) (e : Entry ω α) (he : e.number = l.count + 1) :
    ∀ d ∈ l.entries ++ [e], 0 < d.number ∧ d.number ≤ l.count + 1 := by
  intro d hd
  rcases List.mem_append.1 hd with hold | hnew
  · exact l.skip.issued d hold
  · obtain rfl := List.mem_singleton.1 hnew
    omega

def file (l : Docket ω α) (owner : ω) (item : α) : Docket ω α where
  count := l.count + 1
  entries := l.entries ++ [⟨l.count + 1, owner, item⟩]
  increasing := l.increasing_file _ rfl
  issued := l.issued_file _ rfl

section Owners
variable [DecidableEq ω]

/-- Strikes off the entry `number`, if it is one of the owner's. -/
def withdraw (l : Docket ω α) (owner : ω) (number : ℕ) : Docket ω α where
  count := l.count
  entries := l.entries.filter fun e => ¬ (e.owner = owner ∧ e.number = number)
  increasing := l.increasing.filter _
  issued e he := l.issued e (List.mem_of_mem_filter he)

def ofOwner (l : Docket ω α) (owner : ω) : List (Entry ω α) :=
  l.entries.filter fun e => e.owner = owner

theorem mem_ofOwner {l : Docket ω α} {owner : ω} {e : Entry ω α} :
    e ∈ l.ofOwner owner ↔ e ∈ l.entries ∧ e.owner = owner := by
  simp [ofOwner]

@[simp] theorem ofOwner_skip (l : Docket ω α) (owner : ω) :
    l.skip.ofOwner owner = l.ofOwner owner := rfl

theorem ofOwner_file (l : Docket ω α) (owner : ω) (item : α) (o : ω) :
    (l.file owner item).ofOwner o =
      l.ofOwner o ++ if o = owner then [⟨l.count + 1, owner, item⟩] else [] := by
  unfold ofOwner
  by_cases ho : o = owner
  · simp [file, ho]
  · simp [file, ho, Ne.symm ho]

theorem ofOwner_withdraw (l : Docket ω α) (owner : ω) (number : ℕ) (o : ω) :
    (l.withdraw owner number).ofOwner o =
      if o = owner then (l.ofOwner o).filter fun e => e.number ≠ number else l.ofOwner o := by
  unfold ofOwner withdraw
  dsimp only
  rw [List.filter_filter]
  split_ifs with ho
  · rw [List.filter_filter]
    apply List.filter_congr
    intro e _
    by_cases he : e.owner = o
    · simp [he, ho]
    · simp [he]
  · apply List.filter_congr
    intro e _
    by_cases he : e.owner = o
    · simp [he, ho]
    · simp [he]

theorem ofOwner_withdraw_of_nil {l : Docket ω α} {owner : ω} (h : l.ofOwner owner = [])
    (number : ℕ) (o : ω) : (l.withdraw owner number).ofOwner o = l.ofOwner o := by
  rw [ofOwner_withdraw]
  split_ifs with ho
  · rw [ho, h]
    rfl
  · rfl

end Owners

section Numbers
variable {l : Docket ω α} {d e : Entry ω α}

theorem nodup_numbers (l : Docket ω α) : (l.entries.map Entry.number).Nodup := by
  apply List.pairwise_map.2
  exact l.increasing.imp fun hlt => hlt.ne

theorem eq_of_number (hd : d ∈ l.entries) (he : e ∈ l.entries) (h : d.number = e.number) : d = e :=
  List.inj_on_of_nodup_map l.nodup_numbers hd he h

theorem nodup_ofOwner [DecidableEq ω] (l : Docket ω α) (owner : ω) : (l.ofOwner owner).Nodup :=
  l.nodup_numbers.of_map.filter _

end Numbers

end Docket

end NetSessional
