import DpaProvider.Library.Vectors

/-!
Histories of several memories.

A history lists the accesses to a family of memories, the newest first.

* `newest`: the byte that the newest store to an address has left there;
* `newest_store`: as a memory, the history after a store is the one before it with the list stored;
* `Serial`: every load of a history has got the newest bytes; `serial_load` says it of blocks.
-/

namespace ByteMem

variable {ι : Type*} [DecidableEq ι]

/-- An access to a memory: a list is stored, or was loaded, from an address on; or somebody else has
changed the memories. -/
inductive MemAccess (ι : Type*) where
  | store (t : ι) (a : ℕ) (l : List UInt8)
  | load (t : ι) (a : ℕ) (l : List UInt8)
  | change (mems : ι → ByteMem)

/-- The newest byte at an address of a memory. -/
def newest (mems : ι → ByteMem) : List (MemAccess ι) → ι → ByteMem
  | [], t, i => mems t i
  | .store t' a l :: log, t, i =>
      if t = t' ∧ a ≤ i ∧ i < a + l.length then l.getD (i - a) 0 else newest mems log t i
  | .load .. :: log, t, i => newest mems log t i
  | .change mems' :: _, t, i => mems' t i

/-- Every byte that was loaded was the newest one. -/
def Serial (mems : ι → ByteMem) : List (MemAccess ι) → Prop
  | [] => True
  | .load t a l :: log =>
      (∀ i (h : i < l.length), l[i] = newest mems log t (a + i)) ∧ Serial mems log
  | .store .. :: log | .change _ :: log => Serial mems log

variable (mems : ι → ByteMem) (log : List (MemAccess ι))

lemma newest_store (t : ι) (a : ℕ) (l : List UInt8) :
    newest mems (.store t a l :: log)
      = Function.update (newest mems log) t (store (newest mems log t) a l) := by
  funext t' i
  by_cases ht : t' = t
  · subst ht
    rw [Function.update_self, newest]
    by_cases hi : a ≤ i ∧ i < a + l.length
    · rw [if_pos ⟨rfl, hi⟩, store_of_mem hi.1 hi.2]
    · rw [if_neg fun h => hi h.2, store_of_notMem hi]
  · rw [Function.update_of_ne ht, newest, if_neg fun h => ht h.1]

/-- A block that is loaded is what the history has left there. -/
lemma serial_load {t : ι} {a : ℕ} {l : List UInt8} (h : slice (newest mems log t) a l.length = l) :
    Serial mems (.load t a l :: log) ↔ Serial mems log := by
  refine and_iff_right fun i hi => ?_
  rw [← slice_getElem (newest mems log t) (n := l.length) (by rwa [slice_length])]
  simp only [h]

end ByteMem
