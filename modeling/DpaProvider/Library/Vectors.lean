import Mathlib.Data.List.GetD
import DpaProvider.Library.ByteMem

/-!
Lists of buffers that are read and written as one sequence of bytes.

* `store`: a list of bytes is stored at an address; `store_append` splits it, `slice_store`
  reads it back;
* `gather`, `scatter`: the bytes of a list of buffers, one after the other, and how a list of
  bytes is spread over them;
* `gather_scatter`: the buffers then begin with the list, and go on with what they held;
* `scatter_beyond`: behind its length no buffer is changed.
-/

namespace ByteMem

variable {m : ByteMem} {a n : ℕ} {l : List UInt8}

/-! ### Lists of bytes in memory -/

/-- The bytes of a list, from the address `a` on. -/
def store (m : ByteMem) (a : ℕ) (l : List UInt8) : ByteMem :=
  patch m a l.length fun i => l.getD i 0

@[simp] lemma store_nil (m : ByteMem) (a : ℕ) : store m a [] = m := patch_zero m a _

lemma store_of_notMem (h : ¬ (a ≤ n ∧ n < a + l.length)) : store m a l n = m n :=
  patch_apply_of_notMem h

lemma store_of_mem (h : a ≤ n) (h' : n < a + l.length) : store m a l n = l.getD (n - a) 0 :=
  patch_apply_of_mem h h'

/-- A list is stored in two parts. -/
lemma store_append (m : ByteMem) (a : ℕ) (l l' : List UInt8) :
    store m a (l ++ l') = store (store m a l) (a + l.length) l' := by
  funext i
  have hlen : (l ++ l').length = l.length + l'.length := List.length_append
  by_cases hlast : a + l.length ≤ i ∧ i < a + l.length + l'.length
  · rw [store_of_mem (by omega) (by omega), store_of_mem hlast.1 hlast.2,
      List.getD_append_right _ _ _ _ (by omega), Nat.sub_sub]
  · rw [store_of_notMem hlast]
    by_cases hfirst : a ≤ i ∧ i < a + l.length
    · rw [store_of_mem (by omega) (by omega), store_of_mem hfirst.1 hfirst.2,
        List.getD_append _ _ _ _ (by omega)]
    · rw [store_of_notMem (by omega), store_of_notMem hfirst]

/-- What `memcpy` stores is the block that it reads. -/
lemma memcpy_eq_store (dst : ByteMem) (d : ℕ) (src : ByteMem) (s n : ℕ) :
    memcpy dst d src s n = store dst d (slice src s n) := by
  funext i
  by_cases hi : d ≤ i ∧ i < d + n
  · rw [store_of_mem hi.1 (by simpa using hi.2), memcpy, patch_apply_of_mem hi.1 hi.2,
      List.getD_eq_getElem _ _ (by simp; omega), slice_getElem]
  · rw [store_of_notMem (by simpa using hi), memcpy, patch_apply_of_notMem hi]

lemma slice_store (m : ByteMem) (a : ℕ) (l : List UInt8) : slice (store m a l) a l.length = l := by
  refine slice_eq_of_getElem rfl fun i hi => ?_
  rw [store_of_mem (Nat.le_add_right a i) (Nat.add_lt_add_left hi a), Nat.add_sub_cancel_left,
    List.getD_eq_getElem _ _ hi]

lemma slice_take_min (m : ByteMem) (a n k : ℕ) : (slice m a n).take k = slice m a (min k n) := by
  rw [slice, slice, ← List.map_take, List.take_range]

lemma slice_drop (m : ByteMem) (a n k : ℕ) : (slice m a n).drop k = slice m (a + k) (n - k) := by
  refine List.ext_getElem (by simp) fun i h₁ h₂ => ?_
  rw [List.getElem_drop, slice_getElem, slice_getElem, Nat.add_assoc]

lemma slice_slice (m : ByteMem) (a : ℕ) {n j k : ℕ} (h : j + k ≤ n) :
    slice m (a + j) k = ((slice m a n).drop j).take k := by
  rw [slice_drop, slice_take_min, Nat.min_eq_left (by omega)]

/-- One of several entries of the same size is read back. -/
lemma slice_store_entry {α : Type*} (m : ByteMem) (a : ℕ) {f : α → List UInt8} {n : ℕ}
    (hsize : ∀ x, (f x).length = n) {l : List α} {i : ℕ} {x : α} (hx : l[i]? = some x) :
    slice (store m a (l.flatMap f)) (a + n * i) n = f x := by
  induction l generalizing m a i with
  | nil => simp at hx
  | cons y rest ih =>
      rw [List.flatMap_cons, store_append, hsize]
      cases i with
      | zero =>
          obtain rfl : y = x := by simpa using hx
          refine slice_eq_of_getElem (hsize y) fun j hj => ?_
          rw [store_of_notMem (by rw [hsize] at hj; omega), store_of_mem (by omega) (by omega),
            List.getD_eq_getElem _ _ (by omega)]
          congr 1
          omega
      | succ i =>
          rw [show a + n * (i + 1) = a + n + n * i by rw [Nat.mul_succ]; omega]
          exact ih _ _ (by simpa using hx)

/-! ### Buffers -/

/-- A buffer: a memory of its own, and how many bytes of it are meant. -/
structure Buffer where
  mem : ByteMem
  len : ℕ

namespace Buffer

/-- The bytes of a buffer. -/
def bytes (b : Buffer) : List UInt8 := slice b.mem 0 b.len

/-- The buffer takes the bytes of a list, as many as it has room for. -/
def fill (b : Buffer) (l : List UInt8) : Buffer := { b with mem := store b.mem 0 (l.take b.len) }

@[simp] lemma bytes_length (b : Buffer) : b.bytes.length = b.len := slice_length b.mem 0 b.len

@[simp] lemma fill_len (b : Buffer) (l : List UInt8) : (b.fill l).len = b.len := rfl

@[simp] lemma fill_nil (b : Buffer) : b.fill [] = b := by simp [fill]

/-- A filled buffer begins with the list and goes on with what it held. -/
lemma fill_bytes (b : Buffer) (l : List UInt8) :
    (b.fill l).bytes = l.take b.len ++ b.bytes.drop l.length := by
  refine slice_eq_of_getElem (by simp; omega) fun i hi => ?_
  have hlen : (l.take b.len).length = min b.len l.length := List.length_take
  simp only [List.length_append, List.length_drop, bytes_length, hlen] at hi
  rw [Nat.zero_add, fill]
  by_cases htaken : i < (l.take b.len).length
  · rw [List.getElem_append_left htaken]
    exact (store_of_mem (Nat.zero_le i) (by omega)).trans (List.getD_eq_getElem _ _ htaken)
  · rw [List.getElem_append_right (by omega), List.getElem_drop]
    refine (store_of_notMem (by omega)).trans (Eq.trans ?_ (slice_getElem b.mem _).symm)
    congr 1
    omega

lemma fill_beyond (b : Buffer) (l : List UInt8) (h : b.len ≤ n) : (b.fill l).mem n = b.mem n :=
  store_of_notMem (by simp; omega)

end Buffer

/-! ### Scatter and gather -/

/-- The bytes of the buffers, one buffer after the other. -/
def gather (bs : List Buffer) : List UInt8 := bs.flatMap Buffer.bytes

/-- The bytes of a list are spread over the buffers. -/
def scatter : List Buffer → List UInt8 → List Buffer
  | [], _ => []
  | b :: bs, l => b.fill l :: scatter bs (l.drop b.len)

@[simp] lemma gather_nil : gather [] = [] := rfl

@[simp] lemma gather_cons (b : Buffer) (bs : List Buffer) :
    gather (b :: bs) = b.bytes ++ gather bs := rfl

@[simp] lemma scatter_nil (bs : List Buffer) : scatter bs [] = bs := by
  induction bs with
  | nil => rfl
  | cons b bs ih => rw [scatter, Buffer.fill_nil, List.drop_nil, ih]

lemma scatter_len (bs : List Buffer) (l : List UInt8) :
    (scatter bs l).map Buffer.len = bs.map Buffer.len := by
  induction bs generalizing l with
  | nil => rfl
  | cons b bs ih => rw [scatter, List.map_cons, List.map_cons, ih, Buffer.fill_len]

/-- The buffers hold the list, as much of it as they have room for, and behind it what they
held. -/
lemma gather_scatter (bs : List Buffer) (l : List UInt8) :
    gather (scatter bs l) = l.take (gather bs).length ++ (gather bs).drop l.length := by
  induction bs generalizing l with
  | nil => simp [scatter]
  | cons b bs ih =>
      rw [scatter, gather_cons, gather_cons, ih, Buffer.fill_bytes, List.length_append,
        Buffer.bytes_length, List.drop_append, Buffer.bytes_length, List.length_drop]
      rcases Nat.le_total b.len l.length with hle | hle
      · -- the first buffer is full
        rw [List.drop_of_length_le (by simpa using hle), List.append_nil, List.nil_append,
          ← List.append_assoc, ← List.take_add]
      · rw [List.drop_of_length_le hle, List.take_nil, List.nil_append,
          List.take_of_length_le hle, List.take_of_length_le (by omega), List.append_assoc,
          Nat.sub_eq_zero_of_le hle]

lemma scatter_beyond (bs : List Buffer) (l : List UInt8) :
    List.Forall₂ (fun b b' => ∀ a, b.len ≤ a → b'.mem a = b.mem a) bs (scatter bs l) := by
  induction bs generalizing l with
  | nil => exact .nil
  | cons b bs ih => exact .cons (fun _ h => b.fill_beyond l h) (ih _)

end ByteMem
