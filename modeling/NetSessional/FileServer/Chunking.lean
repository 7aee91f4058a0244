import NetSessional.FileServer.Utils
import Mathlib.Data.Rat.Floor

/-! `split` cuts an array into consecutive blocks and `join` puts them back. The loop of `split`
advances two indices, `i * CHUNK_SIZE` and `start`, in 32-bit arithmetic; they agree, and neither
wraps while the loop still reads the array. -/

namespace NetSessional.FileServer

section Blocks
variable {α : Type*}

/-- The blocks `0, .., k - 1` of length `c` of a list are its first `k * c` elements. -/
theorem flatten_blocks (l : List α) (c k : ℕ) :
    ((List.range k).map fun i => (l.drop (i * c)).take c).flatten = l.take (k * c) := by
  induction k with
  | zero => simp
  | succ k ih =>
    rw [List.range_succ, List.map_append, List.flatten_append, ih, Nat.succ_mul, List.take_add]
    simp

end Blocks

/-- The number of blocks of length `c` that cover `n` elements. -/
def chunkCount (n c : ℕ) : ℕ := (n + c - 1) / c

theorem chunkCount_mul_ge {n c : ℕ} (hc : 0 < c) : n ≤ chunkCount n c * c := by
  unfold chunkCount
  have h := Nat.div_add_mod (n + c - 1) c
  have hm := Nat.mod_lt (n + c - 1) hc
  rw [mul_comm] at h
  omega

theorem chunkCount_mul_lt {n c : ℕ} (hc : 0 < c) : chunkCount n c * c < n + c := by
  have := Nat.div_mul_le_self (n + c - 1) c
  unfold chunkCount
  omega

theorem lt_chunkCount_iff {n c i : ℕ} (hc : 0 < c) : i < chunkCount n c ↔ i * c < n := by
  unfold chunkCount
  rw [Nat.lt_iff_add_one_le, Nat.le_div_iff_mul_le hc, Nat.succ_mul]
  omega

theorem chunkCount_pos {n c : ℕ} (hc : 0 < c) (hn : 0 < n) : 0 < chunkCount n c := by
  rw [lt_chunkCount_iff hc]
  omega

theorem chunkCount_le {n c : ℕ} (hc : 0 < c) : chunkCount n c ≤ n := by
  by_contra h
  have hlt : n * c < n := (lt_chunkCount_iff hc).1 (by omega)
  have := Nat.le_mul_of_pos_right n hc
  omega

theorem ceil_div_eq_chunkCount (n : ℕ) {c : ℕ} (hc : 0 < c) :
    ⌈(n : ℚ) / c⌉ = (chunkCount n c : ℤ) := by
  have hcq : (0 : ℚ) < c := by exact_mod_cast hc
  rw [Int.ceil_eq_iff, lt_div_iff₀ hcq, div_le_iff₀ hcq, sub_mul, one_mul, sub_lt_iff_lt_add]
  exact ⟨by exact_mod_cast chunkCount_mul_lt hc, by exact_mod_cast chunkCount_mul_ge hc⟩

theorem ceilQuotient_ofNat {n c : ℕ} (hn : n < 2 ^ 31) (hc : 0 < c) (hc' : c < 2 ^ 31) :
    ceilQuotient (Int32.ofNat n) (Int32.ofNat c) = Int32.ofNat (chunkCount n c) := by
  have hcint : (Int32.ofNat c).toInt = c := Int32.toInt_ofNat_of_lt hc'
  have hnint : (Int32.ofNat n).toInt = n := Int32.toInt_ofNat_of_lt hn
  have hne : Int32.ofNat c ≠ 0 := by
    intro h
    rw [h] at hcint
    simp at hcint
    omega
  have hceil : ⌈Binary64.round (((n : ℤ) : ℚ) / (c : ℕ))⌉ = (chunkCount n c : ℤ) := by
    rw [Binary64.ceil_round_div hc (by rw [Nat.abs_cast]; omega), Int.cast_natCast]
    exact ceil_div_eq_chunkCount n hc
  have hle := chunkCount_le (n := n) hc
  have hmin : Int32.minValue.toInt = -2147483648 := by decide
  have hmax : Int32.maxValue.toInt = 2147483647 := by decide
  unfold ceilQuotient
  rw [if_neg hne, hcint, hnint, Int.cast_natCast (R := ℚ) c, hceil]
  apply Int32.toInt.inj
  rw [Int32.toInt_ofIntClamp (by omega) (by omega), Int32.toInt_ofNat_of_lt (by omega)]

def chunkAt (array : Bytes) (c k i : ℕ) : Chunk :=
  ⟨some ((array.drop (i * c)).take c), Int32.ofNat (i + 1), Int32.ofNat k,
    Int32.ofNat (min c (array.length - i * c))⟩

def blockChunks (array : Bytes) (c : ℕ) : List Chunk :=
  (List.range (chunkCount array.length c)).map (chunkAt array c (chunkCount array.length c))

@[simp] theorem length_blockChunks (array : Bytes) (c : ℕ) :
    (blockChunks array c).length = chunkCount array.length c := by
  simp [blockChunks]

theorem join_map (f : File) {α : Type} (chunk : α → Chunk) (part : α → Bytes) (is : List α)
    (h : ∀ i, (chunk i).bytes = some (part i)) :
    f.join (is.map chunk) = .ok (is.map part).flatten := by
  have hparts : (is.map chunk).mapM Chunk.bytes = some (is.map part) := by
    induction is with
    | nil => rfl
    | cons i is ih => simp [h i, ih]
  unfold File.join
  rw [hparts]

theorem join_blockChunks (f : File) (array : Bytes) {c : ℕ} (hc : 0 < c) :
    f.join (blockChunks array c) = .ok array := by
  have h := flatten_blocks array c (chunkCount array.length c)
  rw [List.take_of_length_le (chunkCount_mul_ge hc)] at h
  rw [blockChunks, join_map f _ (fun i => (array.drop (i * c)).take c) _ fun _ => rfl, h]

/-- The test that ends an upload, `chunkNo == totalChunks`, singles out the last block. -/
theorem chunkAt_last_iff {array : Bytes} {c k i : ℕ} (hi : i < k) (hk : k < 2 ^ 31) :
    (chunkAt array c k i).chunkNo = (chunkAt array c k i).totalChunks ↔ i + 1 = k := by
  refine ⟨fun h => ?_, fun h => ?_⟩
  · have hint := congrArg Int32.toInt h
    simp only [chunkAt] at hint
    rw [Int32.toInt_ofNat_of_lt (by omega), Int32.toInt_ofNat_of_lt hk] at hint
    exact_mod_cast hint
  · simp only [chunkAt, h]

theorem not_ofNat_neg {n : ℕ} (h : n < 2 ^ 31) : ¬ Int32.ofNat n < 0 := by
  change ¬ Int32.ofNat n < Int32.ofNat 0
  rw [Int32.ofNat_lt_iff_lt h (by decide)]
  omega

theorem copyOfRange_ofNat {array : Bytes} {a s : ℕ} (hn : array.length < 2 ^ 31)
    (h : a + s ≤ array.length) :
    copyOfRange array (Int32.ofNat a) (Int32.ofNat a + Int32.ofNat s) =
      .ok ((array.drop a).take s) := by
  have hord : ¬ Int32.ofNat (a + s) < Int32.ofNat a := by
    rw [Int32.ofNat_lt_iff_lt (by omega) (by omega)]
    omega
  have hin : ¬ Int32.ofNat array.length < Int32.ofNat a := by
    rw [Int32.ofNat_lt_iff_lt hn (by omega)]
    omega
  have hlen : ((a + s : ℕ) - (a : ℕ) : ℤ).toNat = s := by omega
  have hfull : s - ((array.drop a).take s).length = 0 := by
    rw [List.length_take, List.length_drop]
    omega
  rw [← Int32.ofNat_add]
  unfold copyOfRange
  rw [if_neg hord, if_neg (not_or.2 ⟨not_ofNat_neg (by omega), hin⟩), Int32.toInt_ofNat_of_lt (by omega),
    Int32.toInt_ofNat_of_lt (by omega)]
  simp only [hlen, Int.toNat_natCast, hfull, List.replicate_zero, List.append_nil]

theorem math_min_ofNat {a b : ℕ} (ha : a < 2 ^ 31) (hb : b < 2 ^ 31) :
    Math.min (Int32.ofNat a) (Int32.ofNat b) = Int32.ofNat (min a b) := by
  unfold Math.min
  simp only [Int32.ofNat_le_iff_le ha hb, min_def]
  split_ifs <;> rfl

/-- One round of the loop: while blocks remain, both index computations stay inside the array. -/
theorem splitLoop_succ {f : File} {array : Bytes} {c i m : ℕ} (hf : f.CHUNK_SIZE = Int32.ofNat c)
    (hc' : c < 2 ^ 31) (hn : array.length < 2 ^ 31) (hi : i * c < array.length) (total start : Int32)
    (hstart : start = Int32.ofNat (i * c)) :
    f.splitLoop array total (m + 1) (Int32.ofNat i) start =
      (f.splitLoop array total m (Int32.ofNat (i + 1)) (Int32.ofNat ((i + 1) * c))).map
        (⟨some ((array.drop (i * c)).take c), Int32.ofNat (i + 1), total,
          Int32.ofNat (min c (array.length - i * c))⟩ :: ·) := by
  have hsize : Math.min f.CHUNK_SIZE (Int32.ofNat array.length - Int32.ofNat i * f.CHUNK_SIZE) =
      Int32.ofNat (min c (array.length - i * c)) := by
    rw [hf, ← Int32.ofNat_mul, ← Int32.ofNat_sub _ _ hi.le, math_min_ofNat hc' (by omega)]
  have hnonneg : ¬ Int32.ofNat (min c (array.length - i * c)) < 0 := not_ofNat_neg (by omega)
  have htake : (array.drop (i * c)).take (min c (array.length - i * c)) =
      (array.drop (i * c)).take c := by
    rw [← List.length_drop, ← List.take_eq_take_min]
  have hcopy : copyOfRange array start (start + Int32.ofNat (min c (array.length - i * c))) =
      .ok ((array.drop (i * c)).take c) := by
    rw [hstart, copyOfRange_ofNat hn (by omega), htake]
  have hnext : start + f.CHUNK_SIZE = Int32.ofNat ((i + 1) * c) := by
    rw [hstart, hf, ← Int32.ofNat_add, Nat.succ_mul]
  have hone : Int32.ofNat i + 1 = Int32.ofNat (i + 1) := by
    rw [Int32.ofNat_add]
    rfl
  rw [File.splitLoop]
  simp only [hsize]
  rw [if_neg hnonneg, hcopy, hnext, hone]
  rfl

theorem splitLoop_eq {f : File} {array : Bytes} {c : ℕ} (hf : f.CHUNK_SIZE = Int32.ofNat c)
    (hc : 0 < c) (hc' : c < 2 ^ 31) (hn : array.length < 2 ^ 31) (m i : ℕ)
    (hm : i + m = chunkCount array.length c) (total : Int32)
    (htotal : total = Int32.ofNat (chunkCount array.length c)) :
    f.splitLoop array total m (Int32.ofNat i) (Int32.ofNat (i * c)) =
      .ok ((List.range' i m).map (chunkAt array c (chunkCount array.length c))) := by
  induction m generalizing i with
  | zero => rfl
  | succ m ih =>
    have hi : i * c < array.length := (lt_chunkCount_iff hc).1 (by omega)
    rw [splitLoop_succ hf hc' hn hi total _ rfl, ih (i + 1) (by omega), htotal]
    rfl

/-- `split` with the array's own length as file size and a positive chunk size does not fail, and
returns the blocks of the array. -/
theorem split_eq {f : File} {array : Bytes} {c : ℕ} (hsize : f.fileSize = Int32.ofNat array.length)
    (hf : f.CHUNK_SIZE = Int32.ofNat c) (hc : 0 < c) (hc' : c < 2 ^ 31)
    (hn : array.length < 2 ^ 31) : f.split array = .ok (blockChunks array c) := by
  have hle := chunkCount_le (n := array.length) hc
  have htotal : ceilQuotient f.fileSize f.CHUNK_SIZE = Int32.ofNat (chunkCount array.length c) := by
    rw [hsize, hf, ceilQuotient_ofNat hn hc hc']
  have hnonneg : ¬ Int32.ofNat (chunkCount array.length c) < 0 := not_ofNat_neg (by omega)
  have hloop := splitLoop_eq hf hc hc' hn (chunkCount array.length c) 0 (by omega) _ rfl
  unfold File.split
  simp only [htotal]
  rw [if_neg hnonneg, Int32.toInt_ofNat_of_lt (by omega), Int.toNat_natCast]
  rw [Nat.zero_mul] at hloop
  rw [blockChunks, List.range_eq_range']
  exact hloop

section Sizes
variable {array : Bytes} {c i : ℕ}

theorem length_block : ((array.drop (i * c)).take c).length = min c (array.length - i * c) := by
  rw [List.length_take, List.length_drop]

theorem length_block_full (hc : 0 < c) (hi : i + 1 < chunkCount array.length c) :
    ((array.drop (i * c)).take c).length = c := by
  have hnext : (i + 1) * c < array.length := (lt_chunkCount_iff hc).1 hi
  rw [length_block, Nat.min_eq_left]
  rw [Nat.succ_mul] at hnext
  omega

theorem length_block_pos (hc : 0 < c) (hi : i < chunkCount array.length c) :
    1 ≤ ((array.drop (i * c)).take c).length := by
  have hin : i * c < array.length := (lt_chunkCount_iff hc).1 hi
  rw [length_block, le_min_iff]
  omega

theorem chunkSize_chunkAt (hc' : c < 2 ^ 31) (k : ℕ) :
    (chunkAt array c k i).chunkSize.toInt = ((array.drop (i * c)).take c).length := by
  rw [length_block]
  exact Int32.toInt_ofNat_of_lt (by omega)

end Sizes

/-- `split` of an array with its own length as file size, and any positive chunk size: the chunks
that it returns, and `join` of them. -/
theorem split_round_trip (f : File) (array : Bytes) (hsize : f.fileSize.toInt = array.length)
    (hchunk : 1 ≤ f.CHUNK_SIZE) :
    ∃ chunks, f.split array = .ok chunks ∧
      (chunks.length : ℤ) = ⌈(array.length : ℚ) / f.CHUNK_SIZE.toInt⌉ ∧
      f.join chunks = .ok array ∧
      ∀ i (hi : i < chunks.length), ∃ bytes, chunks[i].bytes = some bytes ∧
        chunks[i].chunkNo.toInt = i + 1 ∧
          chunks[i].totalChunks.toInt = chunks.length ∧
          chunks[i].chunkSize.toInt = bytes.length ∧
          (i + 1 < chunks.length → (bytes.length : ℤ) = f.CHUNK_SIZE.toInt) ∧
          (i + 1 = chunks.length → 1 ≤ bytes.length ∧
            (bytes.length : ℤ) ≤ f.CHUNK_SIZE.toInt) ∧
          (chunks[i].chunkNo = chunks[i].totalChunks ↔ i + 1 = chunks.length) := by
  have hone : (1 : ℤ) ≤ f.CHUNK_SIZE.toInt := Int32.le_iff_toInt_le.1 hchunk
  obtain ⟨c, hc⟩ : ∃ c : ℕ, f.CHUNK_SIZE.toInt = c := Int.eq_ofNat_of_zero_le (by omega)
  have hn : array.length < 2 ^ 31 := by
    have := f.fileSize.toInt_lt
    omega
  have hc' : c < 2 ^ 31 := by
    have := f.CHUNK_SIZE.toInt_lt
    omega
  have hpos : 0 < c := by omega
  have hsize' : f.fileSize = Int32.ofNat array.length := by
    apply Int32.toInt.inj
    rw [hsize, Int32.toInt_ofNat_of_lt hn]
  have hf : f.CHUNK_SIZE = Int32.ofNat c := by
    apply Int32.toInt.inj
    rw [hc, Int32.toInt_ofNat_of_lt hc']
  have hle := chunkCount_le (n := array.length) hpos
  refine ⟨blockChunks array c, split_eq hsize' hf hpos hc' hn, ?_, join_blockChunks f array hpos,
    fun i hi => ?_⟩
  · rw [length_blockChunks, hc, Int.cast_natCast, ceil_div_eq_chunkCount _ hpos]
  · rw [length_blockChunks] at hi ⊢
    have hget : (blockChunks array c)[i] = chunkAt array c (chunkCount array.length c) i := by
      simp [blockChunks]
    rw [hget, hc]
    refine ⟨_, rfl, ?_, ?_, chunkSize_chunkAt hc' _, fun hnext => ?_, fun _ => ⟨?_, ?_⟩, ?_⟩
    · exact Int32.toInt_ofNat_of_lt (by omega)
    · exact Int32.toInt_ofNat_of_lt (by omega)
    · rw [length_block_full hpos hnext]
    · exact length_block_pos hpos hi
    · rw [length_block]
      omega
    · exact chunkAt_last_iff hi (by omega)

/-- Five bytes in chunks of two: the last of the three chunks has one byte. -/
theorem split_round_trip_five :
    ∃ chunks, ({ CHUNK_SIZE := 2, fileSize := 5 } : File).split [1, 2, 3, 4, 5] = .ok chunks ∧
      File.join {} chunks = .ok [1, 2, 3, 4, 5] := by
  obtain ⟨chunks, hsplit, -, hjoin, -⟩ :=
    split_round_trip { CHUNK_SIZE := 2, fileSize := 5 } [1, 2, 3, 4, 5] rfl (by decide)
  exact ⟨chunks, hsplit, hjoin⟩

end NetSessional.FileServer
