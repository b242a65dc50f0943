import Mathlib.Data.Nat.Bitwise
import Mathlib.Tactic

/-!
Words of bits as sets.

* `Mask.ext`, `Mask.and_eq_left_iff`: words are equal, or one names no bits that the other does not,
  if so it is bit by bit;
* `Mask.fill`: a word that names nothing of a group but its first bit stands for the whole group;
* `and_fill_self`, `fill_and`, `fill_fill`, `fill_comm`: it names what it did, nothing else outside
  the group, is then the same again, and groups apart do not interfere.
-/

namespace Mask

variable {w m full bit group : UInt64}

lemma ext {a b : UInt64} (h : ∀ i, a.toNat.testBit i = b.toNat.testBit i) : a = b :=
  UInt64.toNat_inj.1 (Nat.eq_of_testBit_eq h)

/-- No bits are named that the mask does not name. -/
lemma and_eq_left_iff : w &&& m = w ↔ ∀ i, w.toNat.testBit i → m.toNat.testBit i := by
  constructor
  · intro h i hi
    rw [← h, UInt64.toNat_and, Nat.testBit_and, Bool.and_eq_true] at hi
    exact hi.2
  · intro h
    refine ext fun i => ?_
    rw [UInt64.toNat_and, Nat.testBit_and]
    cases hi : w.toNat.testBit i with
    | false => rfl
    | true => exact h i hi

lemma and_eq_left_trans (hwm : w &&& m = w) (hm : m &&& full = m) : w &&& full = w := by
  rw [← hwm, UInt64.and_assoc, hm]

lemma or_eq_right_iff : m ||| w = m ↔ w &&& m = w := by
  rw [and_eq_left_iff]
  constructor
  · intro h i hi
    rw [← h, UInt64.toNat_or, Nat.testBit_or, hi, Bool.or_true]
  · intro h
    refine ext fun i => ?_
    rw [UInt64.toNat_or, Nat.testBit_or]
    cases hi : w.toNat.testBit i with
    | false => rw [Bool.or_false]
    | true => rw [h i hi, Bool.or_true]

lemma and_le (w m : UInt64) : (w &&& m).toNat ≤ m.toNat := by
  rw [UInt64.toNat_and]
  exact Nat.and_le_right

/-- A single bit is named or not. -/
lemma and_bit (w : UInt64) (k : ℕ) (hk : k < 64) :
    w &&& UInt64.ofNat (2 ^ k) = 0 ∨ w &&& UInt64.ofNat (2 ^ k) = UInt64.ofNat (2 ^ k) := by
  have hbit : (UInt64.ofNat (2 ^ k)).toNat = 2 ^ k :=
    UInt64.toNat_ofNat_of_lt' (Nat.pow_lt_pow_right (by simp) hk)
  have hand : (w &&& UInt64.ofNat (2 ^ k)).toNat = (w.toNat.testBit k).toNat * 2 ^ k := by
    rw [UInt64.toNat_and, hbit, Nat.and_two_pow]
  cases h : w.toNat.testBit k with
  | false => exact .inl (UInt64.toNat_inj.1 (by rw [hand, h]; simp))
  | true => exact .inr (UInt64.toNat_inj.1 (by rw [hand, h, hbit]; simp))

lemma or_and_distrib (a b m : UInt64) : (a ||| b) &&& m = a &&& m ||| b &&& m := by
  refine ext fun i => ?_
  simp only [UInt64.toNat_and, UInt64.toNat_or, Nat.testBit_and, Nat.testBit_or,
    Bool.and_or_distrib_right]

lemma and_or_distrib (a b : UInt64) : w &&& (a ||| b) = w &&& a ||| w &&& b := by
  rw [UInt64.and_comm, or_and_distrib, UInt64.and_comm a, UInt64.and_comm b]

/-- A word that names `bit` and no more of a group names all of it then. -/
def fill (full bit w : UInt64) : UInt64 := if w &&& full = bit then w ||| full else w

lemma fill_of_eq (h : w &&& full = bit) : fill full bit w = w ||| full := if_pos h

lemma fill_of_ne (h : w &&& full ≠ bit) : fill full bit w = w := if_neg h

/-- Nothing is lost. -/
lemma and_fill_self (full bit w : UInt64) : w &&& fill full bit w = w := by
  rw [and_eq_left_iff, fill]
  intro i hi
  split
  · rw [UInt64.toNat_or, Nat.testBit_or, hi, Bool.true_or]
  · exact hi

/-- No more is named than the word and the group do. -/
lemma fill_and (hw : w &&& m = w) (hfull : full &&& m = full) :
    fill full bit w &&& m = fill full bit w := by
  rw [fill]
  split
  · rw [or_and_distrib, hw, hfull]
  · exact hw

/-- Another group is not affected. -/
lemma fill_and_group (hdisjoint : full &&& group = 0) :
    fill full bit w &&& group = w &&& group := by
  rw [fill]
  split
  · rw [or_and_distrib, hdisjoint, UInt64.or_zero]
  · rfl

/-- Nor is the bit itself. -/
lemma fill_and_bit (hbit : bit &&& full = bit) : fill full bit w &&& bit = w &&& bit := by
  by_cases h : w &&& full = bit
  · have hnamed : w &&& bit = bit := by
      rw [← h, ← UInt64.and_assoc, UInt64.and_self]
    rw [fill_of_eq h, or_and_distrib, hnamed, UInt64.and_comm full, hbit, UInt64.or_self]
  · rw [fill_of_ne h]

/-- What is filled names all of the group. -/
lemma fill_and_ne_zero (h : w &&& full = bit) (hgroup : full &&& group ≠ 0) :
    fill full bit w &&& group ≠ 0 := by
  rw [fill_of_eq h, or_and_distrib, ne_eq, UInt64.or_eq_zero_iff]
  exact fun hzero => hgroup hzero.2

lemma fill_fill (full bit w : UInt64) : fill full bit (fill full bit w) = fill full bit w := by
  by_cases h : w &&& full = bit
  · have hfull : (w ||| full) &&& full = full := by
      refine ext fun i => ?_
      rw [UInt64.toNat_and, UInt64.toNat_or, Nat.testBit_and, Nat.testBit_or]
      cases w.toNat.testBit i <;> cases full.toNat.testBit i <;> rfl
    rw [fill_of_eq h, fill, hfull, UInt64.or_assoc, UInt64.or_self, ite_self]
  · rw [fill_of_ne h, fill_of_ne h]

/-- Groups that have nothing in common are filled in any order. -/
lemma fill_comm {full' bit' : UInt64} (hdisjoint : full &&& full' = 0) :
    fill full bit (fill full' bit' w) = fill full' bit' (fill full bit w) := by
  have hdisjoint' : full' &&& full = 0 := by rw [UInt64.and_comm, hdisjoint]
  by_cases h : w &&& full = bit <;> by_cases h' : w &&& full' = bit'
  · rw [fill_of_eq (by rw [fill_and_group hdisjoint', h]), fill_of_eq h',
      fill_of_eq (by rw [fill_and_group hdisjoint, h']), fill_of_eq h, UInt64.or_assoc,
      UInt64.or_comm full', ← UInt64.or_assoc]
  · rw [fill_of_ne h']
    exact (fill_of_ne (by rwa [fill_and_group hdisjoint])).symm
  · rw [fill_of_ne h]
    exact fill_of_ne (by rwa [fill_and_group hdisjoint'])
  · rw [fill_of_ne h, fill_of_ne h', fill_of_ne h]

end Mask
