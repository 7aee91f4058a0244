import NetSessional.FileServer.Buffer

/-! The arithmetic of `useBuffer` over any sequence of sizes, as clients declare them. -/

namespace NetSessional.FileServer
open Runs

def Server.reserve (s : Server) (size : Int32) : Server := (s.useBuffer size).2

structure BufferInRange (s : Server) : Prop where
  nonneg : 0 ≤ s.BUFFER_USED.toInt
  le_max : s.BUFFER_USED.toInt ≤ Server.MAX_BUFFER_SIZE.toInt

/-- The call is answered, and `BUFFER_USED` kept, as in the arithmetic of the integers. -/
structure AdmitsExactly (s : Server) (size : Int32) : Prop where
  fits : (s.useBuffer size).1 = true ↔ 0 ≤ size.toInt ∧
    s.BUFFER_USED.toInt + size.toInt ≤ Server.MAX_BUFFER_SIZE.toInt
  grows : (s.useBuffer size).1 = true →
    (s.reserve size).BUFFER_USED.toInt = s.BUFFER_USED.toInt + size.toInt
  kept : (s.useBuffer size).1 = false → (s.reserve size).BUFFER_USED = s.BUFFER_USED

def Call.reservation : Call → Option Int32
  | .useBuffer size => some size
  | _ => none

/-- The sizes for which a run of the whole server calls `useBuffer`, in order. -/
def reservations (s : Sys) (evs : List Event) : List Int32 :=
  collect Sys.step (fun s e => (s.call e).reservation) s evs

section Call
variable {s : Server} {size : Int32}

/-- A call within the range is exact unless the size is negative: such a size always fits. -/
theorem admitsExactly_iff (h : BufferInRange s) : AdmitsExactly s size ↔ 0 ≤ size.toInt := by
  have hfits : (s.useBuffer size).1 = true ↔
      s.BUFFER_USED.toInt + size.toInt ≤ Server.MAX_BUFFER_SIZE.toInt :=
    useBuffer_fits h.nonneg h.le_max size
  have hused := useBuffer_used h.nonneg h.le_max size
  refine ⟨fun hexact => ?_, fun h0 => ⟨?_, fun hf => ?_, fun hf => ?_⟩⟩
  · by_contra hneg
    have hle := h.le_max
    exact hneg (hexact.fits.1 (hfits.2 (by omega))).1
  · rw [hfits]
    exact ⟨fun hle => ⟨h0, hle⟩, And.right⟩
  · rw [Server.reserve, hused, if_pos hf]
  · apply Int32.toInt.inj
    rw [Server.reserve, hused, if_neg (by simp [hf]), add_zero]

theorem bufferInRange_reserve (h : BufferInRange s) (h0 : 0 ≤ size.toInt) :
    BufferInRange (s.reserve size) := by
  have hexact := (admitsExactly_iff h).2 h0
  by_cases hf : (s.useBuffer size).1 = true
  · have hsum := (hexact.fits.1 hf).2
    have hnonneg := h.nonneg
    constructor
    · rw [hexact.grows hf]
      omega
    · rw [hexact.grows hf]
      exact hsum
  · have hkept := hexact.kept (by simpa using hf)
    exact ⟨hkept ▸ h.nonneg, hkept ▸ h.le_max⟩

end Call

/-- Over any sequence of sizes `BUFFER_USED` stays in range and every call is exact, exactly if no
size is negative. -/
theorem admission_exact_iff (sizes : List Int32) :
    (Throughout Server.reserve BufferInRange {} sizes ∧
        Along Server.reserve AdmitsExactly {} sizes) ↔
      ∀ size ∈ sizes, 0 ≤ size.toInt := by
  have hstart : BufferInRange {} := ⟨by decide, by decide⟩
  refine ⟨?_, fun hsizes => ?_⟩
  · rintro ⟨hrange, hexact⟩ size hmem
    obtain ⟨before, after, rfl⟩ := List.append_of_mem hmem
    have hp : before ++ [size] <+: before ++ size :: after := ⟨after, by simp⟩
    have hbefore := hrange before ((List.prefix_append before [size]).trans hp)
    exact (admitsExactly_iff hbefore).1 (hexact before size hp)
  · have hrun : Throughout Server.reserve BufferInRange {} sizes :=
      throughout_invariant_of (I := BufferInRange) (E := fun size => 0 ≤ size.toInt)
        (fun s size h0 h => bufferInRange_reserve h h0) hstart hsizes
    refine ⟨hrun, fun pre size hp => ?_⟩
    have hbefore := hrun pre ((List.prefix_append pre [size]).trans hp)
    exact (admitsExactly_iff hbefore).2 (hsizes size (hp.subset (by simp)))

/-- A file of minus one byte is accepted. -/
theorem negative_size_admitted :
    ¬ (Throughout Server.reserve BufferInRange {} [-1] ∧
      Along Server.reserve AdmitsExactly {} [-1]) := by
  rintro ⟨hrange, -⟩
  exact absurd (hrange [-1] (List.prefix_refl _)).nonneg (by decide)

/-- The buffer of the whole server goes through the sizes of its `FILE_REQUEST`s and nothing else. -/
theorem run_bufferUsed (evs : List Event) (s : Sys) (t : Server)
    (h : s.server.BUFFER_USED = t.BUFFER_USED) :
    (run Sys.step s evs).server.BUFFER_USED =
      (run Server.reserve t (reservations s evs)).BUFFER_USED := by
  have hreserve : ∀ {s t : Server} (size : Int32), s.BUFFER_USED = t.BUFFER_USED →
      (s.reserve size).BUFFER_USED = (t.reserve size).BUFFER_USED := by
    intro s t size hst
    simp only [Server.reserve, Server.useBuffer, hst]
    split_ifs
    · exact hst
    · rfl
  induction evs generalizing s t with
  | nil => exact h
  | cons e evs ih =>
    have hstep : (s.step e).server.BUFFER_USED = _ :=
      (congrArg Server.BUFFER_USED (Sys.step_server s e)).trans (perform_buffer s.server (s.call e))
    cases hcall : s.call e with
    | useBuffer size =>
      have hview : reservations s (e :: evs) = size :: reservations (s.step e) evs :=
        collect_cons_some (by rw [hcall]; rfl)
      rw [hview, run_cons, run_cons]
      apply ih
      rw [hstep, hcall]
      exact hreserve size h
    | _ =>
      have hview : reservations s (e :: evs) = reservations (s.step e) evs :=
        collect_cons_none (by rw [hcall]; rfl)
      rw [hview, run_cons]
      apply ih
      rw [hstep, hcall]
      exact h

/-- A run of the whole server whose requests declare no negative size keeps the buffer in range. -/
theorem run_bufferInRange (evs : List Event)
    (hevs : ∀ size ∈ reservations {} evs, 0 ≤ size.toInt) :
    BufferInRange (run Sys.step {} evs).server := by
  have hrange := run_invariant_of (E := fun size : Int32 => 0 ≤ size.toInt)
    (fun s size h0 h => bufferInRange_reserve h h0)
    (show BufferInRange {} from ⟨by decide, by decide⟩) hevs
  have hused := run_bufferUsed evs {} {} rfl
  exact ⟨hused ▸ hrange.nonneg, hused ▸ hrange.le_max⟩

end NetSessional.FileServer
