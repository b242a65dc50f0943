import Mathlib.Data.UInt
import Mathlib.Tactic

/-!
Byte-addressed memory with the block operations of C.

A memory gives a byte at every address.  `memcpy`, `memset` and the store of a
64-bit word each replace one block of it; they are instances of `patch`, so one
pair of lemmas (`patch_apply_of_mem`, `patch_apply_of_notMem`) says what every
store does.  Words are little endian: `loadWord_of_bytes` reads back what
`storeWord` stored.
-/

/-- A memory: a byte at every address. -/
abbrev ByteMem := ℕ → UInt8

namespace ByteMem

/-- The block of `n` bytes from address `d` on is replaced by `f`. -/
def patch (m : ByteMem) (d n : ℕ) (f : ℕ → UInt8) : ByteMem :=
  fun i => if d ≤ i ∧ i < d + n then f (i - d) else m i

lemma patch_apply_of_mem {m : ByteMem} {d n i : ℕ} {f : ℕ → UInt8} (h : d ≤ i) (h' : i < d + n) :
    patch m d n f i = f (i - d) := if_pos ⟨h, h'⟩

lemma patch_apply_of_notMem {m : ByteMem} {d n i : ℕ} {f : ℕ → UInt8}
    (h : ¬ (d ≤ i ∧ i < d + n)) : patch m d n f i = m i := if_neg h

/-- An empty block leaves the memory as it is. -/
@[simp] lemma patch_zero (m : ByteMem) (d : ℕ) (f : ℕ → UInt8) : patch m d 0 f = m := by
  funext i
  exact patch_apply_of_notMem (by omega)

/-- `memcpy(dst + d, src + s, n)`. -/
def memcpy (dst : ByteMem) (d : ℕ) (src : ByteMem) (s n : ℕ) : ByteMem :=
  patch dst d n fun i => src (s + i)

/-- `memset(dst + d, c, n)`. -/
def memset (dst : ByteMem) (d : ℕ) (c : UInt8) (n : ℕ) : ByteMem :=
  patch dst d n fun _ => c

/-- The bytes of the block `[a, a + n)`. -/
def slice (m : ByteMem) (a n : ℕ) : List UInt8 := (List.range n).map fun i => m (a + i)

@[simp] lemma slice_length (m : ByteMem) (a n : ℕ) : (slice m a n).length = n := by
  simp [slice]

lemma slice_getElem (m : ByteMem) {a n i : ℕ} (h : i < (slice m a n).length) :
    (slice m a n)[i] = m (a + i) := by
  simp [slice]

/-- A block equals a list once it agrees with it byte by byte. -/
lemma slice_eq_of_getElem {m : ByteMem} {a n : ℕ} {l : List UInt8} (hlen : l.length = n)
    (h : ∀ i (hi : i < l.length), m (a + i) = l[i]) : slice m a n = l := by
  refine List.ext_getElem (by simp [hlen]) fun i h₁ h₂ => ?_
  rw [slice_getElem]
  exact h i h₂

lemma slice_congr {m m' : ByteMem} {a a' n : ℕ} (h : ∀ i < n, m (a + i) = m' (a' + i)) :
    slice m a n = slice m' a' n := by
  refine List.ext_getElem (by simp) fun i h₁ h₂ => ?_
  rw [slice_getElem, slice_getElem]
  exact h i (by simpa using h₁)

lemma slice_take (m : ByteMem) {a n k : ℕ} (h : k ≤ n) :
    (slice m a n).take k = slice m a k := by
  rw [slice, ← List.map_take, List.take_range, min_eq_left h, slice]

/-! ### Words -/

/-- The byte `i` of a 64-bit word, the lowest first. -/
def byteOf (v : UInt64) (i : ℕ) : UInt8 := UInt8.ofNat (v.toNat / 256 ^ i)

@[simp] lemma byteOf_zero (i : ℕ) : byteOf 0 i = 0 := by simp [byteOf]

/-- The store of a 64-bit word. -/
def storeWord (m : ByteMem) (a : ℕ) (v : UInt64) : ByteMem := patch m a 8 (byteOf v)

/-- The load of a 64-bit word. -/
def loadWord (m : ByteMem) (a : ℕ) : UInt64 :=
  UInt64.ofNat ((m a).toNat + 2 ^ 8 * (m (a + 1)).toNat + 2 ^ 16 * (m (a + 2)).toNat
    + 2 ^ 24 * (m (a + 3)).toNat + 2 ^ 32 * (m (a + 4)).toNat + 2 ^ 40 * (m (a + 5)).toNat
    + 2 ^ 48 * (m (a + 6)).toNat + 2 ^ 56 * (m (a + 7)).toNat)

lemma byteOf_toNat (v : UInt64) (i : ℕ) : (byteOf v i).toNat = v.toNat / 256 ^ i % 256 := by
  simp [byteOf]

/-- A word is loaded from the eight bytes that make it up. -/
lemma loadWord_of_bytes {m : ByteMem} {a : ℕ} {v : UInt64}
    (h : ∀ i < 8, m (a + i) = byteOf v i) : loadWord m a = v := by
  have h0 : m a = byteOf v 0 := h 0 (by omega)
  have hv := v.toNat_lt
  rw [loadWord, h0, h 1 (by omega), h 2 (by omega), h 3 (by omega), h 4 (by omega),
    h 5 (by omega), h 6 (by omega), h 7 (by omega), ← UInt64.toNat_inj]
  simp only [byteOf_toNat, UInt64.toNat_ofNat']
  omega

@[simp] lemma loadWord_storeWord (m : ByteMem) (a : ℕ) (v : UInt64) :
    loadWord (storeWord m a v) a = v := by
  refine loadWord_of_bytes fun i hi => ?_
  rw [storeWord, patch_apply_of_mem (by omega) (by omega), Nat.add_sub_cancel_left]

/-- A block of eight zero bytes is the zero word. -/
lemma loadWord_eq_zero {m : ByteMem} {a : ℕ} (h : ∀ i < 8, m (a + i) = 0) :
    loadWord m a = 0 :=
  loadWord_of_bytes fun i hi => by rw [h i hi, byteOf_zero]

end ByteMem
