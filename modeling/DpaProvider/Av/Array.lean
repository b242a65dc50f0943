import DpaProvider.Av.Table

/-!
Growable arrays.

An `array` has entries of one size, which its header says; `array_request_size` is asked for room
and may reallocate the block.  When it does, it computes the size of the new block from the size of
the field `value_size` and from a count that it never updates.

* `Contract`: what a request should do, and `ArrayUse`: an array, its requests, and what has been
  stored in it;
* `grown_hasRoom_iff`, `grown_size_le_iff`: when a reallocated block has the room that it was
  allocated for, and when it has not shrunk;
* `requests_contract_iff`: the requests of a run meet the contract as long as none has to grow the
  array;
* `view_arrayRequestSize`: the table of an address vector is such an array.
-/

namespace DpaProvider

open ByteMem

/-- An `array`: its header, how many bytes its block has behind the header, and these bytes. -/
structure ArrayBlock where
  valueSize : UInt64
  count : UInt64
  size : ℕ
  entries : ByteMem

namespace ArrayBlock

/-- `_array_create_priv`, once `malloc` has given a block that holds `fresh`. -/
def arrayCreatePriv (count valueSize : UInt64) (fresh : ByteMem) : ArrayBlock where
  valueSize
  count
  size := (16 + valueSize * count).toNat - 16
  entries := fresh

/-- `array_count`. -/
def arrayCount (a : ArrayBlock) : UInt64 := a.count

/-- `array_request_size`, once `realloc` has given a block: it begins with what the old one held,
and goes on with `fresh`.  The 8 is `sizeof(arr->value_size)`. -/
def arrayRequestSize (a : ArrayBlock) (count : UInt64) (fresh : ByteMem) : ArrayBlock :=
  if count ≤ a.count then a
  else
    let newcount := 2 * a.count + count
    let size := (16 + newcount * 8).toNat - 16
    { a with size, entries := memcpy fresh 0 a.entries 0 (min a.size size) }

/-- The bytes of an element. -/
def element (a : ArrayBlock) (i : ℕ) : List UInt8 :=
  slice a.entries (a.valueSize.toNat * i) a.valueSize.toNat

/-- The block has room for so many elements. -/
def HasRoom (a : ArrayBlock) (n : ℕ) : Prop := a.valueSize.toNat * n ≤ a.size

instance (a : ArrayBlock) (n : ℕ) : Decidable (a.HasRoom n) := Nat.decLe _ _

/-- An element is stored by the owner of the array. -/
def setElement (a : ArrayBlock) (i : ℕ) (value : List UInt8) : ArrayBlock :=
  { a with entries := store a.entries (a.valueSize.toNat * i) value }

variable {a : ArrayBlock} {count valueSize : UInt64} {fresh : ByteMem} {i j n : ℕ}
  {value : List UInt8}

lemma HasRoom.mono (h : a.HasRoom n) {m : ℕ} (hm : m ≤ n) : a.HasRoom m :=
  (Nat.mul_le_mul_left _ hm).trans h

/-- A new array has the room that its header says. -/
lemma hasRoom_create (hfits : 16 + valueSize.toNat * count.toNat < 2 ^ 64) (fresh : ByteMem) :
    (arrayCreatePriv count valueSize fresh).HasRoom count.toNat := by
  have hmul : (valueSize * count).toNat = valueSize.toNat * count.toNat := by
    rw [UInt64.toNat_mul, Nat.mod_eq_of_lt (by omega)]
  have hsize : (16 + valueSize * count).toNat = 16 + valueSize.toNat * count.toNat := by
    rw [UInt64.toNat_add, hmul]
    exact Nat.mod_eq_of_lt hfits
  rw [HasRoom, arrayCreatePriv, hsize, Nat.add_sub_cancel_left]

/-- A stored element is there. -/
lemma element_setElement (hvalue : value.length = a.valueSize.toNat) :
    (a.setElement i value).element i = value := by
  rw [element, setElement, ← hvalue]
  exact slice_store _ _ _

/-- The other elements stay. -/
lemma element_setElement_of_ne (hvalue : value.length = a.valueSize.toNat) (hne : j ≠ i) :
    (a.setElement i value).element j = a.element j := by
  refine slice_congr fun k hk => store_of_notMem ?_
  rw [hvalue]
  have hk : k < a.valueSize.toNat := hk
  rcases lt_or_gt_of_ne hne with hlt | hlt
  · have hle : a.valueSize.toNat * (j + 1) ≤ a.valueSize.toNat * i := Nat.mul_le_mul_left _ hlt
    rw [Nat.mul_succ] at hle
    show ¬ (a.valueSize.toNat * i ≤ a.valueSize.toNat * j + k ∧ _)
    omega
  · have hle : a.valueSize.toNat * (i + 1) ≤ a.valueSize.toNat * j := Nat.mul_le_mul_left _ hlt
    rw [Nat.mul_succ] at hle
    show ¬ (_ ∧ a.valueSize.toNat * j + k < a.valueSize.toNat * i + a.valueSize.toNat)
    omega

/-! ### A request -/

/-- An array that is large enough by its count stays. -/
lemma arrayRequestSize_of_le (h : count ≤ a.count) : a.arrayRequestSize count fresh = a := if_pos h

/-- The count is never updated. -/
lemma arrayCount_arrayRequestSize (a : ArrayBlock) (count : UInt64) (fresh : ByteMem) :
    (a.arrayRequestSize count fresh).arrayCount = a.arrayCount := by
  rw [arrayRequestSize]
  split <;> rfl

lemma valueSize_arrayRequestSize (a : ArrayBlock) (count : UInt64) (fresh : ByteMem) :
    (a.arrayRequestSize count fresh).valueSize = a.valueSize := by
  rw [arrayRequestSize]
  split <;> rfl

/-- The size of a reallocated block. -/
lemma size_arrayRequestSize (hgrows : a.count < count)
    (hfits : 16 + 8 * (2 * a.count.toNat + count.toNat) < 2 ^ 64) (fresh : ByteMem) :
    (a.arrayRequestSize count fresh).size = 8 * (2 * a.count.toNat + count.toNat) := by
  have hcount : (2 * a.count + count).toNat = 2 * a.count.toNat + count.toNat := by
    rw [UInt64.toNat_add, UInt64.toNat_mul]
    show (2 * a.count.toNat % 2 ^ 64 + count.toNat) % 2 ^ 64 = _
    omega
  have hsize : (16 + (2 * a.count + count) * 8).toNat
      = 16 + 8 * (2 * a.count.toNat + count.toNat) := by
    rw [UInt64.toNat_add, UInt64.toNat_mul, hcount]
    show (16 + (2 * a.count.toNat + count.toNat) * 8 % 2 ^ 64) % 2 ^ 64 = _
    omega
  rw [arrayRequestSize, if_neg (UInt64.not_le.2 hgrows)]
  show (16 + (2 * a.count + count) * 8).toNat - 16 = _
  rw [hsize, Nat.add_sub_cancel_left]

/-- A reallocated block has the room that it was allocated for, unless the elements are larger than
a `size_t` and the request is large. -/
theorem grown_hasRoom_iff (hgrows : a.count < count)
    (hfits : 16 + 8 * (2 * a.count.toNat + count.toNat) < 2 ^ 64) (fresh : ByteMem) :
    (a.arrayRequestSize count fresh).HasRoom count.toNat
      ↔ a.valueSize.toNat * count.toNat ≤ 8 * (2 * a.count.toNat + count.toNat) := by
  rw [HasRoom, valueSize_arrayRequestSize, size_arrayRequestSize hgrows hfits]

/-- It has shrunk if an earlier request was larger. -/
theorem grown_size_le_iff (hgrows : a.count < count)
    (hfits : 16 + 8 * (2 * a.count.toNat + count.toNat) < 2 ^ 64) (fresh : ByteMem) :
    a.size ≤ (a.arrayRequestSize count fresh).size
      ↔ a.size ≤ 8 * (2 * a.count.toNat + count.toNat) := by
  rw [size_arrayRequestSize hgrows hfits]

end ArrayBlock

/-! ### An array in use -/

/-- An array, and what has been stored in it. -/
structure ArrayUse where
  array : ArrayBlock
  stored : ℕ → Option (List UInt8)

/-- What is done with an array: it is asked for room, which `realloc` answers with a block, or an
element is stored. -/
inductive ArrayCall where
  | arrayRequestSize (count : UInt64) (fresh : ByteMem)
  | setElement (i : ℕ) (value : List UInt8)

namespace ArrayUse

/-- A new array. -/
def create (count valueSize : UInt64) (fresh : ByteMem) : ArrayUse :=
  ⟨.arrayCreatePriv count valueSize fresh, fun _ => none⟩

/-- Elements are stored within the block. -/
def step (u : ArrayUse) : ArrayCall → Option ArrayUse
  | .arrayRequestSize count fresh => some { u with array := u.array.arrayRequestSize count fresh }
  | .setElement i value =>
      if value.length = u.array.valueSize.toNat ∧ u.array.HasRoom (i + 1) then
        some ⟨u.array.setElement i value, Function.update u.stored i (some value)⟩
      else none

/-- What a request does to the array by its contract. -/
structure Contract (u : ArrayUse) (count : UInt64) (after : ArrayBlock) : Prop where
  /-- There is room for the elements asked for, and for as many as before. -/
  room : ∀ n, n ≤ count.toNat ∨ u.array.HasRoom n → after.HasRoom n
  /-- The count is one that there is room for. -/
  counted : after.HasRoom after.arrayCount.toNat
  /-- It is not below the one asked for. -/
  requested : count ≤ after.arrayCount
  kept : ∀ i value, u.stored i = some value → after.element i = value
  size_le : u.array.size ≤ after.size

/-- The call meets the contract. -/
def Honours (u : ArrayUse) : ArrayCall → Prop
  | .arrayRequestSize count fresh => Contract u count (u.array.arrayRequestSize count fresh)
  | .setElement _ _ => True

end ArrayUse

/-- A request that the header of an array with so many elements satisfies. -/
def ArrayCall.Within (count : UInt64) : ArrayCall → Prop
  | .arrayRequestSize requested _ => requested ≤ count
  | .setElement _ _ => True

namespace ArrayUse

variable {count : UInt64} {u v : ArrayUse} {c : ArrayCall}

/-- What holds of an array of `count` elements until it has to grow. -/
structure Intact (count : UInt64) (u : ArrayUse) : Prop where
  header : u.array.count = count
  room : u.array.HasRoom count.toNat
  stored : ∀ i value, u.stored i = some value → u.array.element i = value

lemma intact_create {valueSize : UInt64} (hfits : 16 + valueSize.toNat * count.toNat < 2 ^ 64)
    (fresh : ByteMem) : Intact count (create count valueSize fresh) where
  header := rfl
  room := ArrayBlock.hasRoom_create hfits fresh
  stored := fun _ _ h => absurd h (by simp [create])

/-- A call that does not ask for more than the header says keeps that. -/
lemma Intact.step (h : Intact count u) (hc : c.Within count) (hstep : u.step c = some v) :
    Intact count v := by
  cases c with
  | arrayRequestSize requested fresh =>
      obtain rfl := Option.some.inj hstep
      have hsame : u.array.arrayRequestSize requested fresh = u.array :=
        ArrayBlock.arrayRequestSize_of_le (by rw [h.header]; exact hc)
      rwa [hsame]
  | setElement i value =>
      rw [ArrayUse.step] at hstep
      split at hstep
      case isFalse => exact absurd hstep (by simp)
      case isTrue hvalue =>
          obtain rfl := Option.some.inj hstep
          refine ⟨h.header, h.room, fun j w hj => ?_⟩
          by_cases hji : j = i
          · subst hji
            obtain rfl : value = w := by simpa using hj
            exact ArrayBlock.element_setElement hvalue.1
          · have hj : u.stored j = some w := by simpa [hji] using hj
            exact (ArrayBlock.element_setElement_of_ne hvalue.1 hji).trans (h.stored j w hj)

/-- Such a call meets the contract, and no other does: the count that a request leaves is never
larger than the one that it has found. -/
lemma Intact.honours_iff (h : Intact count u) (c : ArrayCall) :
    u.Honours c ↔ c.Within count := by
  cases c with
  | setElement i value => exact Iff.rfl
  | arrayRequestSize requested fresh =>
      constructor
      case mp =>
          intro hcontract
          calc requested
              ≤ (u.array.arrayRequestSize requested fresh).arrayCount := hcontract.requested
            _ = count := (ArrayBlock.arrayCount_arrayRequestSize _ _ _).trans h.header
      case mpr =>
          intro hle
          have hle' : requested ≤ u.array.count := by rw [h.header]; exact hle
          rw [Honours, ArrayBlock.arrayRequestSize_of_le hle']
          refine ⟨fun n hn => hn.elim (fun hn => ?_) id, ?_, hle', h.stored, le_rfl⟩
          · exact h.room.mono (hn.trans (UInt64.le_iff_toNat_le.1 hle))
          · rw [ArrayBlock.arrayCount, h.header]
            exact h.room

end ArrayUse

/-- Along every run on an array, the requests meet the contract if and only if none of them is for
more elements than the array has been created with. -/
theorem requests_contract_iff (count valueSize : UInt64) (fresh : ByteMem)
    (hfits : 16 + valueSize.toNat * count.toNat < 2 ^ 64) (calls : List ArrayCall) (u : ArrayUse)
    (hrun : Stepper.run ArrayUse.step (.create count valueSize fresh) calls = some u) :
    Stepper.Meets ArrayUse.step ArrayUse.Honours (.create count valueSize fresh) calls
      ↔ ∀ c ∈ calls, c.Within count := by
  rw [← Stepper.meets_forall_iff hrun]
  exact Stepper.meets_iff (fun _ c _ h _ => ArrayUse.Intact.honours_iff h c)
    (fun _ _ _ h hc hstep => h.step hc hstep) (ArrayUse.intact_create hfits fresh) hrun

/-- Of an array of three elements of 24 bytes the third is stored, and there is still room for
it. -/
theorem requests_contract_iff_three :
    Stepper.Meets ArrayUse.step ArrayUse.Honours (.create 3 24 fun _ => 0)
      [.setElement 2 (List.replicate 24 7), .arrayRequestSize 3 fun _ => 0] := by
  refine (requests_contract_iff 3 24 (fun _ => 0) (by simp) _ _ rfl).2 fun c hc => ?_
  rcases List.mem_cons.1 hc with rfl | hc
  · trivial
  · obtain rfl := List.mem_singleton.1 hc
    exact UInt64.le_refl 3

/-- An array of one element is asked for 100.  The new block has no room for them if they have 24
bytes; if they have eight, a second request for two shrinks it again; the count is one. -/
theorem requests_break_contract :
    ¬ Stepper.Meets ArrayUse.step ArrayUse.Honours (.create 1 24 fun _ => 0)
        [.arrayRequestSize 100 fun _ => 0]
      ∧ ¬ ((ArrayBlock.arrayCreatePriv 1 24 fun _ => 0).arrayRequestSize 100 fun _ => 0).HasRoom 100
      ∧ ¬ Stepper.Meets ArrayUse.step ArrayUse.Honours (.create 1 8 fun _ => 0)
        [.arrayRequestSize 100 fun _ => 0, .arrayRequestSize 2 fun _ => 0]
      ∧ (((ArrayBlock.arrayCreatePriv 1 8
            fun _ => 0).arrayRequestSize 100 fun _ => 0).arrayRequestSize
          2 fun _ => 0).size = 32
      ∧ ((ArrayBlock.arrayCreatePriv 1 8 fun _ => 0).arrayRequestSize 100 fun _ => 0).size = 816
      ∧ ((ArrayBlock.arrayCreatePriv 1 8 fun _ => 0).arrayRequestSize 100 fun _ => 0).arrayCount
        = 1 := by
  refine ⟨fun h => ?_, by decide, fun h => ?_, rfl, rfl, rfl⟩
  · exact absurd (ArrayUse.Contract.requested h.1) (by decide)
  · exact absurd (ArrayUse.Contract.requested h.1) (by decide)

/-! ### The table of an address vector -/

/-- The array that a table is, in the memory. -/
def DpaArray.view (arr : DpaArray) (mem : ByteMem) : ArrayBlock where
  valueSize := 8
  count := arr.count
  size := arr.size
  entries := fun i => mem (arr.entries + i)

/-- A request for room in a table is one on the array. -/
theorem view_arrayRequestSize {arr arr' : DpaArray} {mem mem' : ByteMem} {count : UInt64}
    {answer : Option ℕ} (h : arrayRequestSize mem arr count answer = some (arr', mem')) :
    ∃ fresh, arr'.view mem' = (arr.view mem).arrayRequestSize count fresh := by
  rw [arrayRequestSize] at h
  split at h
  case isTrue hle =>
      obtain ⟨rfl, rfl⟩ := Prod.mk.inj (Option.some.inj h)
      exact ⟨fun _ => 0, (ArrayBlock.arrayRequestSize_of_le hle).symm⟩
  case isFalse hgrows =>
      obtain ⟨a, -, hpair⟩ := Option.map_eq_some_iff.1 h
      obtain ⟨rfl, rfl⟩ := Prod.mk.inj hpair
      refine ⟨fun i => mem (a + 16 + i), ?_⟩
      rw [ArrayBlock.arrayRequestSize, if_neg (show ¬ count ≤ (arr.view mem).count from hgrows)]
      refine congrArg (ArrayBlock.mk 8 arr.count _) (funext fun i => ?_)
      show store mem (a + 16) _ (a + 16 + i) = _
      -- the bytes that `realloc` copies, and those behind them
      by_cases hi : i < min arr.size ((16 + (2 * arr.count + count) * 8).toNat - 16)
      · rw [store_of_mem (by omega) (by rw [slice_length]; omega), Nat.add_sub_cancel_left,
          List.getD_eq_getElem _ _ (by rwa [slice_length]), slice_getElem, memcpy,
          patch_apply_of_mem (Nat.zero_le i) (by rw [Nat.zero_add]; exact hi), Nat.zero_add,
          Nat.sub_zero]
        rfl
      · rw [store_of_notMem (by rw [slice_length]; omega), memcpy, patch_apply_of_notMem]
        rw [Nat.zero_add]
        exact fun h => hi h.2

end DpaProvider
