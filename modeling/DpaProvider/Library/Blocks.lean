import DpaProvider.Library.ByteMem

/-!
Blocks of memory, and the bytes that a block operation accesses.

* `Block`, `Covers`: a block, and the addresses in a list of blocks;
* `memcpy_of_notMem`, `memset_of_notMem`, `storeWord_of_notMem`: an operation leaves the bytes
  outside its block as they are;
* `memcpy_congr`, `loadWord_congr`: it depends on no byte outside the block that it reads.
-/

namespace ByteMem

/-- A block of memory: its first address, and how many bytes it has. -/
structure Block where
  start : ℕ
  size : ℕ
  deriving DecidableEq, Repr

/-- An address in a block. -/
def Block.Mem (b : Block) (a : ℕ) : Prop := b.start ≤ a ∧ a < b.start + b.size

instance (b : Block) (a : ℕ) : Decidable (b.Mem a) := inferInstanceAs (Decidable (_ ∧ _))

/-- An address in one of the blocks. -/
def Covers (bs : List Block) (a : ℕ) : Prop := ∃ b ∈ bs, b.Mem a

lemma covers_nil (a : ℕ) : ¬ Covers [] a := fun ⟨_, hb, _⟩ => absurd hb List.not_mem_nil

@[simp] lemma covers_cons (b : Block) (bs : List Block) (a : ℕ) :
    Covers (b :: bs) a ↔ b.Mem a ∨ Covers bs a := by
  simp [Covers]

@[simp] lemma covers_append (bs cs : List Block) (a : ℕ) :
    Covers (bs ++ cs) a ↔ Covers bs a ∨ Covers cs a := by
  simp [Covers, or_and_right, exists_or]

/-- The blocks of a list that is there only if `c` holds. -/
lemma covers_ite {c : Prop} [Decidable c] (b : Block) (a : ℕ) :
    Covers (if c then [b] else []) a ↔ c ∧ b.Mem a := by
  split <;> simp_all [Covers]

/-! ### What an operation leaves alone, and what it depends on -/

variable {m m' : ByteMem} {a d s n : ℕ}

lemma memcpy_of_notMem (dst src : ByteMem) (h : ¬ (⟨d, n⟩ : Block).Mem a) :
    memcpy dst d src s n a = dst a := patch_apply_of_notMem h

lemma memset_of_notMem (dst : ByteMem) (c : UInt8) (h : ¬ (⟨d, n⟩ : Block).Mem a) :
    memset dst d c n a = dst a := patch_apply_of_notMem h

lemma storeWord_of_notMem (dst : ByteMem) (v : UInt64) (h : ¬ (⟨d, 8⟩ : Block).Mem a) :
    storeWord dst d v a = dst a := patch_apply_of_notMem h

lemma memcpy_congr (dst : ByteMem) (h : ∀ a, (⟨s, n⟩ : Block).Mem a → m a = m' a) :
    memcpy dst d m s n = memcpy dst d m' s n := by
  funext i
  rw [memcpy, memcpy, patch, patch]
  split
  case isTrue hi => exact h _ ⟨Nat.le_add_right _ _, by simp only; omega⟩
  case isFalse => rfl

lemma loadWord_congr (h : ∀ a, (⟨s, 8⟩ : Block).Mem a → m a = m' a) :
    loadWord m s = loadWord m' s := by
  have hbyte (i : ℕ) (hi : i < 8) : m (s + i) = m' (s + i) :=
    h _ ⟨Nat.le_add_right _ _, Nat.add_lt_add_left hi s⟩
  rw [loadWord, loadWord, hbyte 1 (by omega), hbyte 2 (by omega), hbyte 3 (by omega),
    hbyte 4 (by omega), hbyte 5 (by omega), hbyte 6 (by omega), hbyte 7 (by omega),
    show m s = m' s from hbyte 0 (by omega)]

end ByteMem
