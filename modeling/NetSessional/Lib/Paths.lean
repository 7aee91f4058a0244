import Mathlib.Tactic
import Mathlib.Data.List.DropRight

/-! Resolution of textual paths. A path is cut at its separators; an empty component and a dot stay
where they are, two dots lead to the parent (the root is its own), any other component to the entry of
that name. Links are not followed. -/

namespace NetSessional.Paths

variable {α : Type*} [DecidableEq α] (sep dot : α)

def components : List α → List (List α)
  | [] => [[]]
  | c :: cs => if c = sep then [] :: components cs else (components cs).modifyHead (c :: ·)

def enter (dir : List (List α)) (c : List α) : List (List α) :=
  if c = [] ∨ c = [dot] then dir
  else if c = [dot, dot] then dir.dropLast
  else dir ++ [c]

def resolve (dir : List (List α)) (path : List α) : List (List α) :=
  (components sep path).foldl (enter dot) dir

/-- A path in normal form: first so many steps to the parent, then only names. -/
structure Normal (α : Type*) where
  ups : ℕ := 0
  names : List (List α) := []

def Normal.enter (p : Normal α) (c : List α) : Normal α :=
  if c = [] ∨ c = [dot] then p
  else if c = [dot, dot] then
    if p.names = [] then { p with ups := p.ups + 1 } else { p with names := p.names.dropLast }
  else { p with names := p.names ++ [c] }

def normal (path : List α) : Normal α := (components sep path).foldl (Normal.enter dot) {}

section Components

theorem components_ne_nil (path : List α) : components sep path ≠ [] := by
  induction path with
  | nil => simp [components]
  | cons c cs ih =>
    unfold components
    split_ifs
    · simp
    · simpa using ih

theorem components_append_sep (as bs : List α) :
    components sep (as ++ sep :: bs) = components sep as ++ components sep bs := by
  induction as with
  | nil => simp [components]
  | cons a as ih =>
    rw [List.cons_append, components, components, ih]
    split_ifs
    · rfl
    · obtain ⟨p, ps, hps⟩ := List.exists_cons_of_ne_nil (components_ne_nil sep as)
      rw [hps]
      rfl

theorem components_of_not_mem {path : List α} (h : sep ∉ path) : components sep path = [path] := by
  induction path with
  | nil => rfl
  | cons c cs ih =>
    rw [List.mem_cons, not_or] at h
    rw [components, if_neg (Ne.symm h.1), ih h.2]
    rfl

end Components

section Resolve
variable (dir : List (List α)) (path : List α)

theorem resolve_append_sep (as bs : List α) :
    resolve sep dot dir (as ++ sep :: bs) =
      resolve sep dot (resolve sep dot dir as) bs := by
  rw [resolve, components_append_sep, List.foldl_append]
  rfl

theorem enter_rdrop (p : Normal α) (c : List α) :
    enter dot (dir.rdrop p.ups ++ p.names) c =
      dir.rdrop (p.enter dot c).ups ++ (p.enter dot c).names := by
  unfold enter Normal.enter
  split_ifs with hstay hup hnames
  · rfl
  · rw [hnames, List.append_nil]
    simp only [List.append_nil, List.rdrop, List.dropLast_eq_take, List.take_take, List.length_take]
    congr 1
    omega
  · exact List.dropLast_append_of_ne_nil hnames
  · exact List.append_assoc _ _ _

theorem resolve_eq : resolve sep dot dir path =
    dir.rdrop (normal sep dot path).ups ++ (normal sep dot path).names := by
  have hfold : ∀ (cs : List (List α)) (p : Normal α),
      cs.foldl (enter dot) (dir.rdrop p.ups ++ p.names) =
        dir.rdrop (cs.foldl (Normal.enter dot) p).ups ++
          (cs.foldl (Normal.enter dot) p).names := by
    intro cs
    induction cs with
    | nil => exact fun _ => rfl
    | cons c cs ih =>
      intro p
      rw [List.foldl_cons, List.foldl_cons, enter_rdrop]
      exact ih _
  have h := hfold (components sep path) {}
  rw [List.rdrop_zero, List.append_nil] at h
  exact h

/-- A path leads below a directory exactly if the names in its normal form enter the directories again
that the steps to the parent have left. -/
theorem resolve_eq_append_iff (rest : List (List α)) :
    resolve sep dot dir path = dir ++ rest ↔
      (normal sep dot path).names = dir.rtake (normal sep dot path).ups ++ rest := by
  have hsplit : dir.rdrop (normal sep dot path).ups ++ dir.rtake (normal sep dot path).ups = dir := by
    rw [List.rdrop, List.rtake, List.take_append_drop]
  have hdir : dir ++ rest = dir.rdrop (normal sep dot path).ups ++
      (dir.rtake (normal sep dot path).ups ++ rest) := by
    rw [← List.append_assoc, hsplit]
  rw [resolve_eq, hdir, List.append_right_inj]

theorem normal_of_name {name : List α} (hsep : sep ∉ name) (hempty : name ≠ [])
    (hdot : name ≠ [dot]) (hup : name ≠ [dot, dot]) :
    normal sep dot name = ⟨0, [name]⟩ := by
  rw [normal, components_of_not_mem sep hsep]
  simp [Normal.enter, hempty, hdot, hup]

end Resolve

end NetSessional.Paths
