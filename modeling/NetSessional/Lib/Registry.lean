import Mathlib.Data.Set.Insert
import Mathlib.Logic.Function.Basic

/-! A registry whose entries are listed before their contents are stored. A writer lists an entry,
then opens the place of the entry, which clears it, and then writes the contents. In between the
place does not hold what the entry stands for; the rules below keep that to the places that are being
written. -/

namespace NetSessional

structure Writing (ε ν : Type*) where
  entry : ε
  contents : ν
  opened : Bool

structure Registry (ω ε κ π ν : Type*) where
  listed : Set ε
  /-- the contents listed last under a key -/
  latest : κ → Option ν
  stored : π → Option ν
  writing : ω → Option (Writing ε ν)

namespace Registry

variable {ω ε κ π ν : Type*} {key : ε → κ} {place : κ → π} {blank : ν}
variable {r : Registry ω ε κ π ν} {w : ω} {x : Writing ε ν} {e : ε} {v : ν}

/-- What is listed is stored, except where a writer is at work, and no two writers are at work at one
place. -/
structure Sound (key : ε → κ) (place : κ → π) (blank : ν) (r : Registry ω ε κ π ν) : Prop where
  stored : ∀ e ∈ r.listed, (∀ w x, r.writing w = some x → place (key x.entry) ≠ place (key e)) →
    ∃ v, r.latest (key e) = some v ∧ r.stored (place (key e)) = some v
  listed : ∀ w x, r.writing w = some x →
    x.entry ∈ r.listed ∧ r.latest (key x.entry) = some x.contents
  alone : ∀ w w' x x', r.writing w = some x → r.writing w' = some x' →
    place (key x.entry) = place (key x'.entry) → w = w'
  keyed : ∀ w x, r.writing w = some x →
    ∀ e ∈ r.listed, place (key e) = place (key x.entry) → key e = key x.entry
  opened : ∀ w x, r.writing w = some x → x.opened = true →
    r.stored (place (key x.entry)) = some blank

theorem Sound.stored_of_idle (h : Sound key place blank r) (hidle : ∀ w, r.writing w = none)
    (he : e ∈ r.listed) : ∃ v, r.latest (key e) = some v ∧ r.stored (place (key e)) = some v := by
  apply h.stored e he
  intro w x hx
  cases (hidle w).symm.trans hx

theorem Sound.delist (h : Sound key place blank r) {listed : Set ε} (hsub : listed ⊆ r.listed)
    (hkept : ∀ w x, r.writing w = some x → x.entry ∈ listed) :
    Sound key place blank { r with listed } where
  stored e he := h.stored e (hsub he)
  listed w x hx := ⟨hkept w x hx, (h.listed w x hx).2⟩
  alone := h.alone
  keyed w x hx e he := h.keyed w x hx e (hsub he)
  opened := h.opened

theorem Sound.place_ne (h : Sound key place blank r) (hx : r.writing w = some x) {w' : ω}
    {x' : Writing ε ν} (hw' : w' ≠ w) (hx' : r.writing w' = some x') :
    place (key x'.entry) ≠ place (key x.entry) :=
  fun hplace => hw' (h.alone w' w x' x hx' hx hplace)

theorem update_eq_some [DecidableEq ω] {o : Option (Writing ε ν)} {w' : ω}
    (h : Function.update r.writing w o w' = some x) :
    (w' = w ∧ o = some x) ∨ (w' ≠ w ∧ r.writing w' = some x) := by
  rw [Function.update_apply] at h
  split_ifs at h with hw
  · exact Or.inl ⟨hw, h⟩
  · exact Or.inr ⟨hw, h⟩

def announce [DecidableEq ω] [DecidableEq κ] (key : ε → κ) (r : Registry ω ε κ π ν) (w : ω) (e : ε)
    (v : ν) : Registry ω ε κ π ν :=
  { r with
    listed := insert e r.listed
    latest := Function.update r.latest (key e) (some v)
    writing := Function.update r.writing w (some ⟨e, v, false⟩) }

def openPlace [DecidableEq ω] [DecidableEq π] (key : ε → κ) (place : κ → π) (blank : ν)
    (r : Registry ω ε κ π ν) (w : ω) (x : Writing ε ν) : Registry ω ε κ π ν :=
  { r with
    stored := Function.update r.stored (place (key x.entry)) (some blank)
    writing := Function.update r.writing w (some { x with opened := true }) }

def finish [DecidableEq ω] [DecidableEq π] (key : ε → κ) (place : κ → π)
    (r : Registry ω ε κ π ν) (w : ω) (x : Writing ε ν) : Registry ω ε κ π ν :=
  { r with
    stored := Function.update r.stored (place (key x.entry)) (some x.contents)
    writing := Function.update r.writing w none }

/-- An entry is listed where nobody is at work, and where no entry of another key is stored. -/
theorem Sound.announce [DecidableEq ω] [DecidableEq κ] (h : Sound key place blank r)
    (hidle : r.writing w = none)
    (hfree : ∀ w x, r.writing w = some x → place (key x.entry) ≠ place (key e))
    (hkey : ∀ e' ∈ r.listed, place (key e') = place (key e) → key e' = key e) (v : ν) :
    Sound key place blank (r.announce key w e v) where
  stored e' he' hwriters := by
    have hne : place (key e) ≠ place (key e') := by
      apply hwriters w ⟨e, v, false⟩
      exact Function.update_self w _ r.writing
    have hlisted : e' ∈ r.listed := by
      rcases Set.mem_insert_iff.1 he' with rfl | he'
      · exact absurd rfl hne
      · exact he'
    have hkeys : key e' ≠ key e := fun heq => hne (congrArg place heq.symm)
    obtain ⟨v', hlatest, hstored⟩ := h.stored e' hlisted fun w' x hx => by
      have hw' : w' ≠ w := by
        rintro rfl
        cases hidle.symm.trans hx
      exact hwriters w' x ((Function.update_of_ne hw' _ _).trans hx)
    exact ⟨v', (Function.update_of_ne hkeys _ _).trans hlatest, hstored⟩
  listed w' x hx := by
    rcases update_eq_some hx with ⟨rfl, ⟨⟩⟩ | ⟨-, hx⟩
    · exact ⟨Set.mem_insert e r.listed, Function.update_self _ _ _⟩
    · have hkeys : key x.entry ≠ key e := fun heq => hfree w' x hx (congrArg place heq)
      refine ⟨Set.mem_insert_of_mem e (h.listed w' x hx).1, ?_⟩
      exact (Function.update_of_ne hkeys _ _).trans (h.listed w' x hx).2
  alone w₁ w₂ x₁ x₂ h₁ h₂ hplace := by
    rcases update_eq_some h₁ with ⟨rfl, ⟨⟩⟩ | ⟨-, h₁⟩
    · rcases update_eq_some h₂ with ⟨rfl, -⟩ | ⟨-, h₂⟩
      · rfl
      · exact absurd hplace.symm (hfree w₂ x₂ h₂)
    · rcases update_eq_some h₂ with ⟨-, ⟨⟩⟩ | ⟨-, h₂⟩
      · exact absurd hplace (hfree w₁ x₁ h₁)
      · exact h.alone w₁ w₂ x₁ x₂ h₁ h₂ hplace
  keyed w' x hx e' he' hplace := by
    rcases update_eq_some hx with ⟨rfl, ⟨⟩⟩ | ⟨-, hx⟩
    · rcases Set.mem_insert_iff.1 he' with rfl | he'
      · rfl
      · exact hkey e' he' hplace
    · rcases Set.mem_insert_iff.1 he' with heq | he'
      · rw [heq] at hplace
        exact absurd hplace.symm (hfree w' x hx)
      · exact h.keyed w' x hx e' he' hplace
  opened w' x hx hopened := by
    rcases update_eq_some hx with ⟨rfl, ⟨⟩⟩ | ⟨-, hx⟩
    · cases hopened
    · exact h.opened w' x hx hopened

theorem Sound.openPlace [DecidableEq ω] [DecidableEq π] (h : Sound key place blank r)
    (hx : r.writing w = some x) :
    Sound key place blank (r.openPlace key place blank w x) where
  stored e he hwriters := by
    have hne : place (key x.entry) ≠ place (key e) := by
      apply hwriters w { x with opened := true }
      exact Function.update_self w _ r.writing
    obtain ⟨v, hlatest, hstored⟩ := h.stored e he fun w' x' hx' => by
      by_cases hw' : w' = w
      · subst hw'
        obtain rfl : x = x' := Option.some.inj (hx.symm.trans hx')
        exact hne
      · exact hwriters w' x' ((Function.update_of_ne hw' _ _).trans hx')
    exact ⟨v, hlatest, (Function.update_of_ne hne.symm _ _).trans hstored⟩
  listed w' x' hx' := by
    rcases update_eq_some hx' with ⟨rfl, ⟨⟩⟩ | ⟨-, hx'⟩
    · exact h.listed w' x hx
    · exact h.listed w' x' hx'
  alone w₁ w₂ x₁ x₂ h₁ h₂ hplace := by
    rcases update_eq_some h₁ with ⟨rfl, ⟨⟩⟩ | ⟨-, h₁⟩
    · rcases update_eq_some h₂ with ⟨rfl, -⟩ | ⟨-, h₂⟩
      · rfl
      · exact h.alone w₁ w₂ x x₂ hx h₂ hplace
    · rcases update_eq_some h₂ with ⟨hw, ⟨⟩⟩ | ⟨-, h₂⟩
      · exact h.alone w₁ w₂ x₁ x h₁ (hw ▸ hx) hplace
      · exact h.alone w₁ w₂ x₁ x₂ h₁ h₂ hplace
  keyed w' x' hx' := by
    rcases update_eq_some hx' with ⟨rfl, ⟨⟩⟩ | ⟨-, hx'⟩
    · exact h.keyed w' x hx
    · exact h.keyed w' x' hx'
  opened w' x' hx' hopened := by
    rcases update_eq_some hx' with ⟨rfl, ⟨⟩⟩ | ⟨hw', hx'⟩
    · exact Function.update_self _ _ _
    · exact (Function.update_of_ne (h.place_ne hx hw' hx') _ _).trans (h.opened w' x' hx' hopened)

theorem Sound.finish [DecidableEq ω] [DecidableEq π] (h : Sound key place blank r)
    (hx : r.writing w = some x) :
    Sound key place blank (r.finish key place w x) where
  stored e he hwriters := by
    by_cases hplace : place (key e) = place (key x.entry)
    · have hkey := h.keyed w x hx e he hplace
      refine ⟨x.contents, ?_, ?_⟩
      · rw [hkey]
        exact (h.listed w x hx).2
      · rw [hplace]
        exact Function.update_self _ _ _
    · obtain ⟨v, hlatest, hstored⟩ := h.stored e he fun w' x' hx' => by
        by_cases hw' : w' = w
        · subst hw'
          obtain rfl : x = x' := Option.some.inj (hx.symm.trans hx')
          exact fun heq => hplace heq.symm
        · exact hwriters w' x' ((Function.update_of_ne hw' _ _).trans hx')
      exact ⟨v, hlatest, (Function.update_of_ne hplace _ _).trans hstored⟩
  listed w' x' hx' := by
    rcases update_eq_some hx' with ⟨-, ⟨⟩⟩ | ⟨-, hx'⟩
    exact h.listed w' x' hx'
  alone w₁ w₂ x₁ x₂ h₁ h₂ := by
    rcases update_eq_some h₁ with ⟨-, ⟨⟩⟩ | ⟨-, h₁⟩
    rcases update_eq_some h₂ with ⟨-, ⟨⟩⟩ | ⟨-, h₂⟩
    exact h.alone w₁ w₂ x₁ x₂ h₁ h₂
  keyed w' x' hx' := by
    rcases update_eq_some hx' with ⟨-, ⟨⟩⟩ | ⟨-, hx'⟩
    exact h.keyed w' x' hx'
  opened w' x' hx' hopened := by
    rcases update_eq_some hx' with ⟨-, ⟨⟩⟩ | ⟨hw', hx'⟩
    exact (Function.update_of_ne (h.place_ne hx hw' hx') _ _).trans (h.opened w' x' hx' hopened)

end Registry

end NetSessional
