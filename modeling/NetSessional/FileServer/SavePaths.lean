import NetSessional.Lib.Paths
import NetSessional.FileServer.Rounds

/-! Where `save` writes. The text of the path is resolved from the working directory; `cwd` is that
directory, from the root on. -/

namespace NetSessional.FileServer

/-- A place in the file system: the names on the way to it from the root. -/
abbrev Place := List (List Char)

def resolvePath (cwd : Place) (path : String) : Place := Paths.resolve '/' '.' cwd path.toList

def filesDir (cwd : Place) : Place := cwd ++ ["files".toList]

namespace File

def ownerDir (cwd : Place) (f : File) : Place := resolvePath cwd ("files/" ++ f.owner.text)

def place (cwd : Place) (f : File) : Place := resolvePath cwd f.path

/-- The owner's directory is a child of `files`, and the file is below it. -/
structure Confined (cwd : Place) (f : File) : Prop where
  child : ∃ d, f.ownerDir cwd = filesDir cwd ++ [d]
  below : ∃ rest, rest ≠ [] ∧ f.place cwd = f.ownerDir cwd ++ rest

end File

def Name.normal (n : Name) : Paths.Normal Char := Paths.normal '/' '.' n.text.toList

/-- The normal form of a name enters the directories again that it leaves, and then `rest`. -/
def Name.Enters (n : Name) (dir rest : Place) : Prop :=
  n.normal.names = dir.rtake n.normal.ups ++ rest

/-- In normal form, owner and file name go down from `files` to `d` and on to `rest`. -/
structure File.GoesTo (cwd : Place) (f : File) (d : List Char) (rest : Place) : Prop where
  owner : f.owner.Enters (filesDir cwd) [d]
  fileName : f.fileName.Enters (filesDir cwd ++ [d]) rest
  ne : rest ≠ []

section Resolve
variable (cwd : Place) (f : File)

theorem resolvePath_files (s : String) :
    resolvePath cwd ("files/" ++ s) = resolvePath (filesDir cwd) s := by
  have htext : ("files/" ++ s).toList = "files".toList ++ '/' :: s.toList := by
    rw [String.toList_append]
    rfl
  have hfiles : Paths.resolve '/' '.' cwd "files".toList = filesDir cwd := by
    have hnormal : Paths.normal '/' '.' "files".toList = ⟨0, ["files".toList]⟩ :=
      Paths.normal_of_name '/' '.' (by decide) (by decide) (by decide) (by decide)
    rw [Paths.resolve_eq, hnormal, List.rdrop_zero]
    rfl
  rw [resolvePath, htext, Paths.resolve_append_sep, hfiles]
  rfl

theorem ownerDir_eq : f.ownerDir cwd = resolvePath (filesDir cwd) f.owner.text :=
  resolvePath_files cwd f.owner.text

theorem place_eq : f.place cwd = resolvePath (f.ownerDir cwd) f.fileName.text := by
  have htext : f.path.toList =
      ("files/" ++ f.owner.text).toList ++ '/' :: f.fileName.text.toList := by
    rw [File.path, String.toList_append, String.toList_append, List.append_assoc]
    rfl
  rw [File.place, resolvePath, htext, Paths.resolve_append_sep]
  rfl

theorem resolvePath_eq_append_iff (dir : Place) (n : Name) (rest : Place) :
    resolvePath dir n.text = dir ++ rest ↔ n.Enters dir rest :=
  Paths.resolve_eq_append_iff '/' '.' dir n.text.toList rest

theorem goesTo_iff (d : List Char) (rest : Place) : f.GoesTo cwd d rest ↔
    f.ownerDir cwd = filesDir cwd ++ [d] ∧ f.place cwd = filesDir cwd ++ [d] ++ rest ∧
      rest ≠ [] := by
  rw [place_eq]
  refine ⟨fun h => ?_, ?_⟩
  · have hdir : f.ownerDir cwd = filesDir cwd ++ [d] := by
      rw [ownerDir_eq]
      exact (resolvePath_eq_append_iff _ _ _).2 h.owner
    refine ⟨hdir, ?_, h.ne⟩
    rw [hdir]
    exact (resolvePath_eq_append_iff _ _ _).2 h.fileName
  · rintro ⟨hdir, hplace, hne⟩
    refine ⟨(resolvePath_eq_append_iff _ _ _).1 (ownerDir_eq cwd f ▸ hdir), ?_, hne⟩
    rw [hdir] at hplace
    exact (resolvePath_eq_append_iff _ _ _).1 hplace

theorem confined_iff : f.Confined cwd ↔ ∃ d rest, f.GoesTo cwd d rest := by
  simp only [goesTo_iff]
  refine ⟨?_, ?_⟩
  · rintro ⟨⟨d, hdir⟩, rest, hne, hplace⟩
    exact ⟨d, rest, hdir, hdir ▸ hplace, hne⟩
  · rintro ⟨d, rest, hdir, hplace, hne⟩
    exact ⟨⟨d, hdir⟩, rest, hne, hdir.symm ▸ hplace⟩

end Resolve

/-- Two files are both confined, and at two places if they have different owners or names, exactly if
the normal forms of both go down from `files`, and do not go to the same names for different files. -/
theorem save_paths_iff (cwd : Place) (f g : File) :
    (f.Confined cwd ∧ g.Confined cwd ∧ (f.key ≠ g.key → f.place cwd ≠ g.place cwd)) ↔
      ∃ d rest d' rest', f.GoesTo cwd d rest ∧ g.GoesTo cwd d' rest' ∧
        (f.key ≠ g.key → d ≠ d' ∨ rest ≠ rest') := by
  have hplaces : ∀ {d rest d' rest'}, f.GoesTo cwd d rest → g.GoesTo cwd d' rest' →
      (f.place cwd ≠ g.place cwd ↔ d ≠ d' ∨ rest ≠ rest') := by
    intro d rest d' rest' hf hg
    rw [((goesTo_iff cwd f d rest).1 hf).2.1, ((goesTo_iff cwd g d' rest').1 hg).2.1]
    simp only [List.append_assoc, ne_eq, List.append_cancel_left_eq, List.cons_append,
      List.nil_append, List.cons.injEq]
    tauto
  simp only [confined_iff]
  refine ⟨?_, ?_⟩
  · rintro ⟨⟨d, rest, hf⟩, ⟨d', rest', hg⟩, hsep⟩
    exact ⟨d, rest, d', rest', hf, hg, fun hkey => (hplaces hf hg).1 (hsep hkey)⟩
  · rintro ⟨d, rest, d', rest', hf, hg, hsep⟩
    exact ⟨⟨d, rest, hf⟩, ⟨d', rest', hg⟩, fun hkey => (hplaces hf hg).2 (hsep hkey)⟩

/-- A text that is a name to the file system: a component, and not one of the special ones. -/
structure IsName (s : String) : Prop where
  sep : '/' ∉ s.toList
  empty : s.toList ≠ []
  dot : s.toList ≠ ['.']
  up : s.toList ≠ ['.', '.']

theorem goesTo_of_names (cwd : Place) (f : File) (howner : IsName f.owner.text)
    (hname : IsName f.fileName.text) :
    f.GoesTo cwd f.owner.text.toList [f.fileName.text.toList] := by
  have hnormal : ∀ n : Name, IsName n.text → n.normal = ⟨0, [n.text.toList]⟩ :=
    fun n h => Paths.normal_of_name '/' '.' h.sep h.empty h.dot h.up
  refine ⟨?_, ?_, by simp⟩
  · rw [Name.Enters, hnormal _ howner, List.rtake_zero, List.nil_append]
  · rw [Name.Enters, hnormal _ hname, List.rtake_zero, List.nil_append]

theorem place_shared (cwd : Place) (f : File) :
    ∃ g : File, g.key ≠ f.key ∧ g.place cwd = f.place cwd := by
  refine ⟨{ f with fileName := some ("./" ++ f.fileName.text) }, fun hkey => ?_, ?_⟩
  · have hname : some ("./" ++ f.fileName.text) = f.fileName := congrArg Prod.snd hkey
    have hlen := congrArg (fun n : Name => n.text.length) hname
    simp only [Name.text, Option.getD_some, String.length_append] at hlen
    have htwo : "./".length = 2 := by decide
    omega
  · have htext : ("./" ++ f.fileName.text).toList = ['.'] ++ '/' :: f.fileName.text.toList := by
      rw [String.toList_append]
      rfl
    have hstay : ∀ dir, Paths.resolve '/' '.' dir ['.'] = dir := fun dir => rfl
    rw [place_eq, place_eq, resolvePath, resolvePath]
    change Paths.resolve '/' '.' (f.ownerDir cwd) ("./" ++ f.fileName.text).toList = _
    rw [htext, Paths.resolve_append_sep, hstay]

/-- A file of the owner `..` leaves `files`; and two files of one owner share a place, within it. -/
theorem saved_outside_and_twice :
    ¬ File.Confined [] { owner := some "..", fileName := some "x" } ∧
      (let f : File := { owner := some "a", fileName := some "x" }
       let g : File := { owner := some "a", fileName := some "./x" }
       f.Confined [] ∧ g.Confined [] ∧ f.key ≠ g.key ∧ f.place [] = g.place []) := by
  refine ⟨?_, ?_, ?_, by decide, by decide⟩
  · rintro ⟨⟨d, hdir⟩, -⟩
    have hroot : File.ownerDir [] { owner := some "..", fileName := some "x" } = [] := by decide
    rw [hroot] at hdir
    cases hdir
  · exact ⟨⟨"a".toList, by decide⟩, ["x".toList], by decide, by decide⟩
  · exact ⟨⟨"a".toList, by decide⟩, ["x".toList], by decide, by decide⟩

end NetSessional.FileServer
