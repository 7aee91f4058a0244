import Mathlib.Data.List.AList
import Mathlib.Tactic

/-! Finite maps with one type of values: what a lookup finds after an insertion or a removal, and what
the lookups say about the values as a whole. -/

namespace NetSessional

abbrev Table (κ ν : Type) := AList fun _ : κ => ν

namespace Table
variable {κ ν : Type} [DecidableEq κ]

theorem lookup_insert (m : Table κ ν) (k j : κ) (v : ν) :
    (m.insert k v).lookup j = if j = k then some v else m.lookup j := by
  split_ifs with h
  · rw [h, AList.lookup_insert]
  · exact AList.lookup_insert_ne h

theorem lookup_erase (m : Table κ ν) (k j : κ) :
    (m.erase k).lookup j = if j = k then none else m.lookup j := by
  split_ifs with h
  · rw [h, AList.lookup_erase]
  · exact AList.lookup_erase_ne h

theorem erase_of_lookup_none {m : Table κ ν} {k : κ} (h : m.lookup k = none) : m.erase k = m := by
  apply AList.ext
  exact List.kerase_of_notMem_keys (AList.lookup_eq_none.1 h)

section LessValue
variable [DecidableEq ν]

/-- `m'` is `m` less the entries with the value `v`. -/
def LessValue (v : ν) (m m' : Table κ ν) : Prop :=
  ∀ k, m'.lookup k = if m.lookup k = some v then none else m.lookup k

theorem LessValue.ne {v : ν} {m m' : Table κ ν} (h : LessValue v m m') (k : κ) :
    m'.lookup k ≠ some v := by
  rw [h k]
  split_ifs with hv
  · simp
  · exact hv

theorem lessValue_self_iff (v : ν) (m : Table κ ν) :
    LessValue v m m ↔ ∀ k, m.lookup k ≠ some v := by
  refine ⟨fun h k hk => ?_, fun h k => (if_neg (h k)).symm⟩
  have hless := h k
  rw [if_pos hk, hk] at hless
  cases hless

/-- When no key but `k` has the value `v`, removing `k` removes just that entry, unless `k` has
another value. -/
theorem lessValue_erase_iff {v : ν} {m : Table κ ν} {k : κ}
    (hk : ∀ j, m.lookup j = some v → j = k) :
    LessValue v m (m.erase k) ↔ ∀ w, m.lookup k = some w → w = v := by
  refine ⟨fun h w hw => ?_, fun h j => ?_⟩
  · have hless := h k
    rw [lookup_erase, if_pos rfl, hw] at hless
    by_contra hne
    simp [hne] at hless
  · rw [lookup_erase]
    by_cases hj : j = k
    · subst hj
      rw [if_pos rfl]
      cases hw : m.lookup j with
      | none => rfl
      | some w => rw [h w hw, if_pos rfl]
    · rw [if_neg hj, if_neg fun hv => hj (hk j hv)]

end LessValue

section Values
variable {m : Table κ ν}

theorem lookup_of_mem {e : Sigma fun _ : κ => ν} (he : e ∈ m.entries) :
    m.lookup e.1 = some e.2 :=
  AList.mem_lookup_iff.2 he

theorem filter_values_of_lookup [DecidableEq ν] {k : κ} {v : ν} (hk : m.lookup k = some v)
    (hone : ∀ j, m.lookup j = some v → j = k) :
    (m.entries.map Sigma.snd).filter (fun w => w = v) = [v] := by
  have hmem : (⟨k, v⟩ : Sigma fun _ : κ => ν) ∈ m.entries := AList.mem_lookup_iff.1 hk
  have hsame : m.entries.filter (fun e => e.2 = v) = m.entries.filter (fun e => e = ⟨k, v⟩) := by
    apply List.filter_congr
    intro e he
    obtain ⟨j, w⟩ := e
    by_cases hw : w = v
    · subst hw
      have hj : j = k := hone j (lookup_of_mem he)
      simp [hj]
    · simp [hw]
  have hcount : m.entries.count ⟨k, v⟩ = 1 := List.count_eq_one_of_mem m.nodupKeys.nodup hmem
  calc (m.entries.map Sigma.snd).filter (fun w => w = v)
      = (m.entries.filter fun e => e.2 = v).map Sigma.snd := List.filter_map
    _ = [v] := by
        rw [hsame, List.filter_eq, hcount]
        rfl

theorem filter_values_of_ne [DecidableEq ν] {v : ν} (hv : ∀ k, m.lookup k ≠ some v) :
    (m.entries.map Sigma.snd).filter (fun w => w = v) = [] := by
  apply List.filter_eq_nil_iff.2
  intro w hw
  obtain ⟨e, he, rfl⟩ := List.mem_map.1 hw
  simp only [decide_eq_true_eq]
  rintro rfl
  exact hv e.1 (lookup_of_mem he)

/-- What the values of different keys give is different, when it is for any two lookups. -/
theorem nodup_flatMap {β : Type} {f : ν → List β}
    (hown : ∀ k v, m.lookup k = some v → (f v).Nodup)
    (hapart : ∀ j k v w, m.lookup j = some v → m.lookup k = some w → j ≠ k →
      (f v).Disjoint (f w)) : (m.entries.flatMap fun e => f e.2).Nodup := by
  apply List.nodup_flatMap.2
  constructor
  · intro e he
    exact hown e.1 e.2 (lookup_of_mem he)
  · have hkeys := List.nodupKeys_iff_pairwise.1 m.nodupKeys
    apply hkeys.imp_of_mem
    intro d e hd he hne
    exact hapart d.1 e.1 d.2 e.2 (lookup_of_mem hd) (lookup_of_mem he) hne

end Values

def total (f : ν → ℕ) (m : Table κ ν) : ℕ := (m.entries.map fun e => f e.2).sum

theorem sum_kerase (f : ν → ℕ) (k : κ) (l : List (Sigma fun _ : κ => ν)) :
    ((l.kerase k).map fun e => f e.2).sum + ((l.dlookup k).map f).getD 0 =
      (l.map fun e => f e.2).sum := by
  induction l with
  | nil => rfl
  | cons e l ih =>
    obtain ⟨j, v⟩ := e
    by_cases h : k = j
    · subst h
      simp [Nat.add_comm]
    · rw [List.kerase_cons_ne h, List.dlookup_cons_ne l ⟨j, v⟩ h]
      simp only [List.map_cons, List.sum_cons]
      omega

theorem total_congr (f : ν → ℕ) {m m' : Table κ ν} (h : ∀ k, m.lookup k = m'.lookup k) :
    total f m = total f m' := by
  have hperm : m.entries.Perm m'.entries :=
    List.lookup_ext m.nodupKeys m'.nodupKeys fun k v => by rw [← AList.lookup, h k, AList.lookup]
  exact (hperm.map _).sum_eq

theorem total_le_total {f g : ν → ℕ} {m : Table κ ν}
    (h : ∀ k v, m.lookup k = some v → f v ≤ g v) : total f m ≤ total g m := by
  apply List.sum_le_sum
  intro e he
  exact h e.1 e.2 (lookup_of_mem he)

theorem total_insert (f : ν → ℕ) (m : Table κ ν) (k : κ) (v : ν) :
    total f (m.insert k v) + ((m.lookup k).map f).getD 0 = total f m + f v := by
  have h := sum_kerase f k m.entries
  simp only [total, AList.lookup, AList.entries_insert, List.map_cons, List.sum_cons]
  omega

theorem total_update (f : ν → ℕ) {m m' : Table κ ν} {k : κ} {o : Option ν}
    (h : ∀ j, m'.lookup j = if j = k then o else m.lookup j) (ho : o = none → m.lookup k = none) :
    total f m' + ((m.lookup k).map f).getD 0 = total f m + (o.map f).getD 0 := by
  cases o with
  | some v =>
    rw [total_congr f fun j => (h j).trans (lookup_insert m k j v).symm]
    exact total_insert f m k v
  | none =>
    have hsame : ∀ j, m'.lookup j = m.lookup j := by
      intro j
      rw [h j]
      split_ifs with hj
      · rw [hj, ho rfl]
      · rfl
    rw [total_congr f hsame, ho rfl]

@[simp] theorem lookup_empty (k : κ) : (∅ : Table κ ν).lookup k = none := AList.lookup_empty k

end Table

end NetSessional
