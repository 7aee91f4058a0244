import NetSessional.Lib.Runs
import NetSessional.FileServer.Handler

/-! The store of uploaded files: the lists `Server.files` keeps for each owner, under completed
uploads and the two lookups of the file menu. -/

namespace NetSessional.FileServer

open Runs

/-- An access to the shared table of files. -/
inductive StoreOp where
  | addFile (user : Name) (file : File)
  /-- `LOOKUP_FILES_SELF`, issued by `user` -/
  | lookupFilesSelf (user : Name)
  /-- `LOOKUP_FILES_OTHER`, naming `user` -/
  | lookupFilesOther (user : Name)
  deriving DecidableEq

namespace Server

def access (s : Server) : StoreOp → Server
  | .addFile user file => s.addFile user file
  | .lookupFilesSelf user => (s.getFileList user).1
  | .lookupFilesOther user => (s.getPublicFileList user).1

/-- The stored list of a user, which is empty before the first access. -/
def fileList (s : Server) (user : Name) : List File := (s.files.lookup user).getD []

theorem getFileList_snd (s : Server) (u : Name) : (s.getFileList u).2 = s.fileList u := by
  unfold getFileList fileList
  cases h : s.files.lookup u <;> simp [h]

theorem getPublicFileList_snd (s : Server) (u : Name) :
    (s.getPublicFileList u).2 = (s.fileList u).filter File.isPublic := by
  simp only [getPublicFileList, ← getFileList_snd]

theorem fileList_getFileList (s : Server) (t u : Name) :
    (s.getFileList t).1.fileList u = s.fileList u := by
  unfold getFileList fileList
  cases h : s.files.lookup t with
  | some files => simp
  | none =>
    simp only [Option.isNone_none, if_true, Table.lookup_insert]
    split_ifs with hu
    · rw [hu, h]
      rfl
    · rfl

theorem addFile_files (s : Server) (user : Name) (file : File) :
    (s.addFile user file).files =
      (s.getFileList user).1.files.insert user ((s.getFileList user).1.fileList user ++ [file]) :=
  rfl

theorem fileList_addFile (s : Server) (user : Name) (file : File) (u : Name) :
    (s.addFile user file).fileList u =
      if u = user then s.fileList user ++ [file] else s.fileList u := by
  have h := fileList_getFileList s user
  unfold fileList
  rw [addFile_files, Table.lookup_insert]
  split_ifs with hu
  · exact congrArg (· ++ [file]) (h user)
  · exact h u

theorem fileList_getPublicFileList (s : Server) (t u : Name) :
    (s.getPublicFileList t).1.fileList u =
      if u = t then (s.fileList t).filter File.isPublic else s.fileList u := by
  have h := fileList_getFileList s t u
  have h2 := getFileList_snd s t
  unfold fileList at h h2 ⊢
  simp only [getPublicFileList, Table.lookup_insert]
  split_ifs with hu
  · simp only [Option.getD_some, h2]
  · exact h

end Server

/-- The files that `ops` uploads under owner `u`, in upload order. -/
def uploads (u : Name) (ops : List StoreOp) : List File :=
  ops.filterMap fun
    | .addFile user file => if u = user then some file else none
    | _ => none

@[simp] theorem uploads_nil (u : Name) : uploads u [] = [] := rfl

theorem uploads_snoc (u : Name) (ops : List StoreOp) (op : StoreOp) :
    uploads u (ops ++ [op]) = uploads u ops ++ uploads u [op] := by
  simp [uploads]

/-- The server after `ops`, started with no files. -/
def served (ops : List StoreOp) : Server := run Server.access {} ops

theorem served_snoc (ops : List StoreOp) (op : StoreOp) :
    served (ops ++ [op]) = (served ops).access op := by
  simp [served]

/-- What either lookup returns after `ops` is what was uploaded. -/
def ListsFaithful (ops : List StoreOp) : Prop :=
  ∀ u, ((served ops).getFileList u).2 = uploads u ops ∧
    ((served ops).getPublicFileList u).2 = (uploads u ops).filter File.isPublic

theorem listsFaithful_iff (ops : List StoreOp) :
    ListsFaithful ops ↔ ∀ u, (served ops).fileList u = uploads u ops := by
  simp only [ListsFaithful, Server.getFileList_snd, Server.getPublicFileList_snd]
  exact forall_congr' fun u => ⟨And.left, fun h => ⟨h, by rw [h]⟩⟩

/-- An access keeps the lists faithful, unless it is a lookup of another user's files that finds a
private one: `removeIf` then removes it from the store. -/
theorem listsFaithful_snoc {ops : List StoreOp} (h : ListsFaithful ops) (op : StoreOp) :
    ListsFaithful (ops ++ [op]) ↔
      ∀ t, op = .lookupFilesOther t → ∀ f ∈ uploads t ops, f.isPublic := by
  rw [listsFaithful_iff] at h ⊢
  simp only [served_snoc, uploads_snoc]
  cases op with
  | addFile user file =>
    have hadd : ∀ u, ((served ops).access (.addFile user file)).fileList u =
        uploads u ops ++ uploads u [.addFile user file] := by
      intro u
      simp only [Server.access, Server.fileList_addFile, h, uploads, List.filterMap_cons,
        List.filterMap_nil]
      split_ifs with hu
      · rw [hu]
      · simp
    simp [hadd]
  | lookupFilesSelf user =>
    simp [Server.access, Server.fileList_getFileList, h, uploads]
  | lookupFilesOther user =>
    have hnone : ∀ u, uploads u [.lookupFilesOther user] = [] := fun u => rfl
    simp only [Server.access, Server.fileList_getPublicFileList, h, hnone, List.append_nil]
    refine ⟨?_, fun hpub u => ?_⟩
    · rintro hall t ht f hf
      cases ht
      have hkept : (uploads user ops).filter File.isPublic = uploads user ops := by
        simpa using hall user
      rw [← hkept] at hf
      exact (List.mem_filter.1 hf).2
    · split_ifs with hu
      · rw [hu]
        exact List.filter_eq_self.2 (hpub user rfl)
      · rfl

/-- The lookups are faithful in every state reached exactly if no lookup of another user's files
is made after that user has uploaded a private one. -/
theorem file_lists_faithful_iff (ops : List StoreOp) :
    (∀ pre, pre <+: ops → ListsFaithful pre) ↔
      ∀ pre t, pre ++ [.lookupFilesOther t] <+: ops → ∀ f ∈ uploads t pre, f.isPublic := by
  have hempty : ListsFaithful [] := (listsFaithful_iff []).2 fun u => rfl
  refine (prefixes_iff hempty fun pre op _ h => listsFaithful_snoc h op).trans ?_
  refine ⟨fun h pre t hp => h pre _ hp t rfl, fun h pre op hp t hop => ?_⟩
  subst hop
  exact h pre t hp

/-- A private upload, a lookup by someone else, and the owner's list has lost the file. -/
theorem file_list_loses_private :
    ¬ ∀ pre, pre <+: [.addFile (some "u") { fileName := some "a", owner := some "u" },
        .lookupFilesOther (some "u")] → ListsFaithful pre := by
  intro h
  have hlost := (h _ List.prefix_rfl (some "u")).1
  revert hlost
  decide

end NetSessional.FileServer
