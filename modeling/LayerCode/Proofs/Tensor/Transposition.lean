import LayerCode.Proofs.Tensor.Permutation

/-!
# Two ways to transpose a matrix

A matrix can be transposed by swapping its axes, which moves bit patterns, or by way of double
precision, which makes NaNs quiet. The two agree but for that.

* `Permuted.transposed`: from swapped axes to the transposed matrix;
* `Transposed.unique`, `Transposed.again`: the transposed matrix is determined, and transposing it
  gives back the matrix with NaNs made quiet;
* **`transpose_agrees`**: the two ways compared.
-/

namespace LayerCode.Tensor

variable {name : String} {shape : List Int64} {data : Array UInt32} {t : Tensor} {l k : Layout}

/-- Swapping the axes and then making NaNs quiet transposes a matrix. -/
theorem Permuted.transposed (hr : t.rank = 2) (hk : Permuted [1, 0] t k) :
    Transposed t ⟨k.shape, k.data.map quiet⟩ := by
  obtain ⟨rows, cols, hs⟩ := List.length_eq_two.mp hr
  have hshape : k.shape = [cols, rows] := by
    rw [hk.shape, hs]
    rfl
  refine ⟨⟨rows, cols, hs, hshape⟩, ?_, fun i j hij => ?_⟩
  · rw [Array.size_map, hk.size]
  · rw [Array.getElem?_map]
    exact congrArg (Option.map quiet) (hk.moved [i, j] hij)

/-- **The transposed matrix is determined.** -/
theorem Transposed.unique (hv : t.Valid) (hl : Transposed t l) (hk : Transposed t k) : l = k := by
  obtain ⟨rows, cols, hs, hls⟩ := hl.shape
  obtain ⟨_, _, hs', hks⟩ := hk.shape
  obtain ⟨rfl, rfl⟩ : rows = _ ∧ cols = _ := by simpa [hs] using hs'
  have hvolume : volume (extents [cols, rows]) = t.data.size := by
    rw [← hv.count, hs]
    simp [extents, volume, Nat.mul_comm]
  apply Layout.ext_value? (hls.trans hks.symm)
  · rw [hls, hvolume, hl.size]
  · rw [hks, hvolume, hk.size]
  · intro index hin
    rw [hls] at hin
    obtain ⟨j, i, rfl⟩ := List.length_eq_two.mp (List.Forall₂.length_eq hin)
    have hij : InRange (extents t.shape) [i, j] := by
      rw [hs]
      exact inRange_pair.mpr (inRange_pair.mp hin).symm
    exact (hl.moved i j hij).trans (hk.moved i j hij).symm

/-- Transposing a transposed matrix gives back the matrix, with NaNs made quiet. -/
theorem Transposed.again (hl : Transposed t l) :
    Transposed (t.replace l) ⟨t.shape, t.data.map quiet⟩ := by
  obtain ⟨rows, cols, hs, hls⟩ := hl.shape
  refine ⟨⟨cols, rows, hls, hs⟩, ?_, fun j i hji => ?_⟩
  · rw [Array.size_map]
    exact hl.size.symm
  · have hij : InRange (extents t.shape) [i, j] := by
      rw [replace, hls] at hji
      rw [hs]
      exact inRange_pair.mpr (inRange_pair.mp hji).symm
    have htwice : quiet ∘ quiet = quiet := by
      funext b
      exact quiet_quiet b
    rw [Array.getElem?_map, replace, hl.moved i j hij, Option.map_map, htwice]

theorem map_quiet_eq_self_iff (data : Array UInt32) :
    data.map quiet = data ↔ ∀ v ∈ data, isSignalling v = false := by
  constructor
  · intro heq v hv
    obtain ⟨o, ho, rfl⟩ := Array.mem_iff_getElem.mp hv
    rw [← quiet_eq_self_iff]
    have hat : (data.map quiet)[o]? = data[o]? := by rw [heq]
    rw [Array.getElem?_map, Array.getElem?_eq_getElem ho] at hat
    exact Option.some.inj hat
  · intro hall
    rw [Array.map_congr_left fun v hv => (quiet_eq_self_iff v).mpr (hall v hv), Array.map_id']

/-- **Two ways to transpose a matrix.** By way of double precision and by swapping the axes it gets
the same shape and the same values, but that the first way sets the quiet bit of every NaN. So the
two agree if and only if no NaN is signalling, and transposing twice gives back the matrix but for
that bit. A tensor that is no matrix is refused. -/
theorem transpose_agrees (h : make name shape data = .ok t) :
    (t.rank = 2 → ∃ l k, t.transpose = .ok l ∧ t.permute [1, 0] = .ok k ∧ l.shape = k.shape ∧
      l.data = k.data.map (fun v => if isNaN v then v ||| 0x00400000 else v) ∧
      (l = k ↔ ∀ v ∈ t.data, isSignalling v = false) ∧
      (t.replace l).transpose = .ok ⟨t.shape, t.data.map quiet⟩) ∧
    (t.rank ≠ 2 → t.transpose = .error (.notMatrix t.name t.rank)) := by
  have hv := (make_eq_ok_iff.mp h).2
  refine ⟨fun hr => ?_, transpose_of_rank_ne⟩
  obtain ⟨l, hl, htl⟩ := transpose_eq_ok hv hr
  have hswap : isPermutation t.rank [1, 0] = true := by
    rw [hr]
    decide
  obtain ⟨k, hk, hpk⟩ := permute_eq_ok hv hswap
  have hlk : l = ⟨k.shape, k.data.map quiet⟩ := htl.unique hv (hpk.transposed hr)
  refine ⟨l, k, hl, hk, by rw [hlk], by rw [hlk]; rfl, ?_, ?_⟩
  · have hmem : ∀ v, v ∈ k.data ↔ v ∈ t.data := fun v => by
      rw [← Array.mem_toList_iff, ← Array.mem_toList_iff, (hpk.perm hv hswap).mem_iff]
    have hsame : l = k ↔ k.data.map quiet = k.data := by
      rw [hlk]
      exact ⟨fun heq => congrArg Layout.data heq, fun heq => by rw [heq]⟩
    rw [hsame, map_quiet_eq_self_iff]
    exact forall_congr' fun v => by rw [hmem]
  · have hr' : (t.replace l).rank = 2 := by
      rw [rank, replace, hlk, hpk.shape, (pick_perm hswap).length_eq]
      exact hr
    have hvl := htl.valid hv
    obtain ⟨m, hm, htm⟩ := transpose_eq_ok hvl hr'
    rw [hm, htm.unique hvl htl.again]

/-- A matrix of two rows and three columns: a signalling NaN, a quiet NaN, a negative zero, a number
without a leading one, an infinity and one. -/
def specials : Tensor :=
  ⟨"weight", [2, 3], #[0x7fa00001, 0xffc00000, 0x80000000, 0x00000001, 0xff800000, 0x3f800000]⟩

/-- Of these values only the signalling NaN is changed. -/
theorem transpose_agrees_specials :
    make "weight" [2, 3] specials.data = .ok specials ∧ specials.rank = 2 ∧
      ∃ l k, specials.transpose = .ok l ∧ specials.permute [1, 0] = .ok k ∧ l.shape = k.shape ∧
        l ≠ k ∧ (specials.replace l).transpose = .ok ⟨[2, 3],
          #[0x7fe00001, 0xffc00000, 0x80000000, 0x00000001, 0xff800000, 0x3f800000]⟩ := by
  have hmake : make "weight" [2, 3] specials.data = .ok specials := by decide +kernel
  obtain ⟨l, k, hl, hk, hshape, -, hsame, htwice⟩ := (transpose_agrees hmake).1 rfl
  refine ⟨hmake, rfl, l, k, hl, hk, hshape, fun heq => ?_, ?_⟩
  · exact absurd (hsame.mp heq 0x7fa00001 (by simp [specials])) (by decide)
  · rw [htwice]
    decide +kernel

end LayerCode.Tensor
