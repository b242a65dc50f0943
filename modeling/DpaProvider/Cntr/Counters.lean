import DpaProvider.Msg.Endpoint

/-!
The two kinds of counters.

A counter counts in a `uint64_t` if its domain is used by one thread at a time, and in
an `atomic_t`, that is in an `int` behind a lock, else.  Both are driven by the same calls.

* `DpaFidCntr`, `dpaCntrOpen`, `call`: `dpa_cntr.c`, with the `atomic_t` of `locks.h`;
* `Count`: what is to be counted, as a natural number;
* `outputs_direct`, `outputs_atomic`: what the counters of either kind return, along every
  sequence of calls;
* `counters_agree`: they return the same exactly as long as every count that is read, modulo
  `2 ^ 64`, is the value of an `int`.
-/

namespace DpaProvider

/-! ### Conversions between `int` and `uint64_t` -/

/-- A `uint64_t` converted to an `int`. -/
def toInt (v : UInt64) : Int32 := v.toUInt32.toInt32

/-- An `int` converted to a `uint64_t`. -/
def ofInt (v : Int32) : UInt64 := v.toInt64.toUInt64

lemma toInt_add (v w : UInt64) : toInt (v + w) = toInt v + toInt w := by simp [toInt]

/-- The low half is kept, and the high half filled with its sign. -/
lemma toNat_ofInt_toInt (v : UInt64) :
    (ofInt (toInt v)).toNat
      = v.toNat % 2 ^ 32 + if 2 ^ 31 ≤ v.toNat % 2 ^ 32 then 2 ^ 64 - 2 ^ 32 else 0 := by
  have hword : (ofInt (toInt v)).toBitVec = (v.toBitVec.setWidth 32).signExtend 64 := rfl
  have hlow : v.toNat % 2 ^ 32 % 2 ^ 64 = v.toNat % 2 ^ 32 := by omega
  rw [← UInt64.toNat_toBitVec, hword, BitVec.toNat_signExtend, BitVec.toNat_setWidth,
    BitVec.msb_eq_decide, BitVec.toNat_setWidth, UInt64.toNat_toBitVec, hlow]
  simp only [decide_eq_true_eq]

/-- The values that an `int` can hold, as a `uint64_t`: the small ones, and the negative ones. -/
def IsInt (v : UInt64) : Prop := v.toNat < 2 ^ 31 ∨ 2 ^ 64 - 2 ^ 31 ≤ v.toNat

lemma ofInt_toInt_iff (v : UInt64) : ofInt (toInt v) = v ↔ IsInt v := by
  have hlt := v.toNat_lt
  rw [← UInt64.toNat_inj, toNat_ofInt_toInt, IsInt]
  split <;> omega

/-! ### The counters -/

/-- The `dpa_fid_cntr`: `direct` says which of the two tables of operations it has. -/
structure DpaFidCntr where
  waitObj : WaitObj
  direct : Bool
  counter : UInt64
  err : UInt64
  counterAtomic : Int32
  errAtomic : Int32
  deriving DecidableEq, Repr

/-- What the progress of a queue does to a counter. -/
inductive Tick where
  | inc
  | errInc
  deriving DecidableEq, Repr

/-- The calls on a counter; a read first makes progress. -/
inductive CntrCall where
  | read (progress : List Tick)
  | readerr (progress : List Tick)
  | add (value : UInt64)
  | set (value : UInt64)
  | tick (t : Tick)
  deriving DecidableEq, Repr

namespace DpaFidCntr

/-- `dpa_cntr_open`; `direct` is `threading >= FI_THREAD_COMPLETION`, and there is no
`waitObj` if there are no attributes. -/
def dpaCntrOpen (waitObj : Option WaitObj) (direct : Bool) : DpaFidCntr where
  waitObj := waitObj.getD .fiWaitUnspec
  direct
  counter := 0
  err := 0
  counterAtomic := 0
  errAtomic := 0

/-- `atomic_add`: the sum of two `int`s wraps, as the addition of the machine does. -/
def atomicAdd (val value : Int32) : Int32 := val + value

/-- `atomic_inc`. -/
def atomicInc (val : Int32) : Int32 := atomicAdd val 1

/-- `dpa_cntr_inc_unsafe` and `dpa_cntr_err_inc_unsafe`. -/
def tickDirect (c : DpaFidCntr) : Tick → DpaFidCntr
  | .inc => { c with counter := c.counter + 1 }
  | .errInc => { c with err := c.err + 1 }

/-- `dpa_cntr_inc_safe` and `dpa_cntr_err_inc_safe`. -/
def tickAtomic (c : DpaFidCntr) : Tick → DpaFidCntr
  | .inc => { c with counterAtomic := atomicInc c.counterAtomic }
  | .errInc => { c with errAtomic := atomicInc c.errAtomic }

/-- `dpa_cntr_inc` and `dpa_cntr_err_inc`. -/
def tick (c : DpaFidCntr) (t : Tick) : DpaFidCntr :=
  if c.direct then c.tickDirect t else c.tickAtomic t

/-- `make_queue_progress`, as far as the counter is concerned. -/
def makeQueueProgress (c : DpaFidCntr) (progress : List Tick) : DpaFidCntr :=
  progress.foldl tick c

/-- The operations `unsafe`: what a call returns, if it is a read, and the counter. -/
def callDirect (c : DpaFidCntr) : CntrCall → Option UInt64 × DpaFidCntr
  | .read progress =>
      let c := c.makeQueueProgress progress
      (some c.counter, c)
  | .readerr progress =>
      let c := c.makeQueueProgress progress
      (some c.err, c)
  | .add value => (none, { c with counter := c.counter + value })
  | .set value => (none, { c with counter := value })
  | .tick t => (none, c.tick t)

/-- The operations `safe`: a value goes through the `int` parameter of `atomic_add` and
`atomic_set`, and comes back through the `int` that `atomic_get` returns. -/
def callAtomic (c : DpaFidCntr) : CntrCall → Option UInt64 × DpaFidCntr
  | .read progress =>
      let c := c.makeQueueProgress progress
      (some (ofInt c.counterAtomic), c)
  | .readerr progress =>
      let c := c.makeQueueProgress progress
      (some (ofInt c.errAtomic), c)
  | .add value => (none, { c with counterAtomic := atomicAdd c.counterAtomic (toInt value) })
  | .set value => (none, { c with counterAtomic := toInt value })
  | .tick t => (none, c.tick t)

/-- A call, through the table of operations. -/
def call (c : DpaFidCntr) (a : CntrCall) : Option UInt64 × DpaFidCntr :=
  if c.direct then c.callDirect a else c.callAtomic a

/-- What the reads of a sequence of calls return. -/
def outputs : DpaFidCntr → List CntrCall → List UInt64
  | _, [] => []
  | c, a :: rest => (c.call a).1.toList ++ outputs (c.call a).2 rest

end DpaFidCntr

/-! ### What is to be counted -/

/-- The events and the errors counted so far. -/
structure Count where
  counter : ℕ
  err : ℕ
  deriving DecidableEq, Repr

namespace Count

def zero : Count := ⟨0, 0⟩

def tick (n : Count) : Tick → Count
  | .inc => { n with counter := n.counter + 1 }
  | .errInc => { n with err := n.err + 1 }

def call (n : Count) : CntrCall → Option ℕ × Count
  | .read progress => (some (progress.foldl tick n).counter, progress.foldl tick n)
  | .readerr progress => (some (progress.foldl tick n).err, progress.foldl tick n)
  | .add value => (none, { n with counter := n.counter + value.toNat })
  | .set value => (none, { n with counter := value.toNat })
  | .tick t => (none, n.tick t)

/-- What the reads of a sequence of calls should return. -/
def outputs : Count → List CntrCall → List ℕ
  | _, [] => []
  | n, a :: rest => (n.call a).1.toList ++ outputs (n.call a).2 rest

end Count

namespace DpaFidCntr

variable {c : DpaFidCntr} {n : Count}

/-- If every call returns `f` of the count and keeps a relation to the counts, the reads return
`f` of the counts. -/
lemma outputs_map {R : DpaFidCntr → Count → Prop} {f : ℕ → UInt64}
    (hcall : ∀ c n a, R c n → (c.call a).1 = (n.call a).1.map f ∧ R (c.call a).2 (n.call a).2)
    (h : R c n) (calls : List CntrCall) : c.outputs calls = (n.outputs calls).map f := by
  induction calls generalizing c n with
  | nil => rfl
  | cons a rest ih =>
      obtain ⟨hret, hnext⟩ := hcall c n a h
      have hlist : ((n.call a).1.map f).toList = (n.call a).1.toList.map f := by
        cases (n.call a).1 <;> rfl
      calc c.outputs (a :: rest)
          = (c.call a).1.toList ++ (c.call a).2.outputs rest := rfl
        _ = (n.call a).1.toList.map f ++ ((n.call a).2.outputs rest).map f := by
              rw [hret, hlist, ih hnext]
        _ = (n.outputs (a :: rest)).map f := List.map_append.symm

/-! ### The counter in a `uint64_t` -/

/-- The counter holds the counts modulo `2 ^ 64`. -/
structure Direct (c : DpaFidCntr) (n : Count) : Prop where
  direct : c.direct = true
  counter : c.counter = UInt64.ofNat n.counter
  err : c.err = UInt64.ofNat n.err

lemma Direct.tick (h : Direct c n) (t : Tick) : Direct (c.tick t) (n.tick t) := by
  rw [DpaFidCntr.tick, if_pos h.direct]
  cases t with
  | inc => exact { h with counter := by simp [tickDirect, Count.tick, h.counter] }
  | errInc => exact { h with err := by simp [tickDirect, Count.tick, h.err] }

lemma Direct.progress (h : Direct c n) (progress : List Tick) :
    Direct (c.makeQueueProgress progress) (progress.foldl Count.tick n) := by
  induction progress generalizing c n with
  | nil => exact h
  | cons t rest ih => exact ih (h.tick t)

lemma Direct.call (h : Direct c n) (a : CntrCall) :
    (c.call a).1 = (n.call a).1.map UInt64.ofNat ∧ Direct (c.call a).2 (n.call a).2 := by
  rw [DpaFidCntr.call, if_pos h.direct]
  cases a with
  | read progress => exact ⟨congrArg some (h.progress progress).counter, h.progress progress⟩
  | readerr progress => exact ⟨congrArg some (h.progress progress).err, h.progress progress⟩
  | add value => exact ⟨rfl, { h with counter := by simp [callDirect, Count.call, h.counter] }⟩
  | set value => exact ⟨rfl, { h with counter := by simp [callDirect, Count.call] }⟩
  | tick t => exact ⟨rfl, h.tick t⟩

lemma outputs_direct (h : Direct c n) (calls : List CntrCall) :
    c.outputs calls = (n.outputs calls).map UInt64.ofNat :=
  outputs_map (fun _ _ a h => h.call a) h calls

/-! ### The counter in an `int` -/

/-- The counter holds the counts modulo `2 ^ 32`. -/
structure Atomic (c : DpaFidCntr) (n : Count) : Prop where
  direct : c.direct = false
  counter : c.counterAtomic = toInt (UInt64.ofNat n.counter)
  err : c.errAtomic = toInt (UInt64.ofNat n.err)

/-- What a count becomes in the counter. -/
def throughInt (n : ℕ) : UInt64 := ofInt (toInt (UInt64.ofNat n))

lemma Atomic.tick (h : Atomic c n) (t : Tick) : Atomic (c.tick t) (n.tick t) := by
  rw [DpaFidCntr.tick, if_neg (by simp [h.direct])]
  have hsucc (k : ℕ) : toInt (UInt64.ofNat (k + 1)) = toInt (UInt64.ofNat k) + 1 := by
    rw [UInt64.ofNat_add, toInt_add]
    rfl
  cases t with
  | inc => exact { h with counter := (congrArg atomicInc h.counter).trans (hsucc _).symm }
  | errInc => exact { h with err := (congrArg atomicInc h.err).trans (hsucc _).symm }

lemma Atomic.progress (h : Atomic c n) (progress : List Tick) :
    Atomic (c.makeQueueProgress progress) (progress.foldl Count.tick n) := by
  induction progress generalizing c n with
  | nil => exact h
  | cons t rest ih => exact ih (h.tick t)

lemma Atomic.call (h : Atomic c n) (a : CntrCall) :
    (c.call a).1 = (n.call a).1.map throughInt ∧ Atomic (c.call a).2 (n.call a).2 := by
  rw [DpaFidCntr.call, if_neg (by simp [h.direct])]
  cases a with
  | read progress =>
      exact ⟨congrArg some (congrArg ofInt (h.progress progress).counter), h.progress progress⟩
  | readerr progress =>
      exact ⟨congrArg some (congrArg ofInt (h.progress progress).err), h.progress progress⟩
  | add value =>
      refine ⟨rfl, { h with counter := ?_ }⟩
      simp only [callAtomic, Count.call, atomicAdd, h.counter, UInt64.ofNat_add, toInt_add,
        UInt64.ofNat_toNat]
  | set value => exact ⟨rfl, { h with counter := by simp [callAtomic, Count.call] }⟩
  | tick t => exact ⟨rfl, h.tick t⟩

lemma outputs_atomic (h : Atomic c n) (calls : List CntrCall) :
    c.outputs calls = (n.outputs calls).map throughInt :=
  outputs_map (fun _ _ a h => h.call a) h calls

/-! ### The two kinds -/

/-- The two counters return the same, namely the counts modulo `2 ^ 64`. -/
def Agree (waitObj : Option WaitObj) (calls : List CntrCall) : Prop :=
  (dpaCntrOpen waitObj false).outputs calls = (dpaCntrOpen waitObj true).outputs calls
    ∧ (dpaCntrOpen waitObj true).outputs calls = (Count.zero.outputs calls).map UInt64.ofNat

/-- The two kinds of counters agree along a sequence of calls exactly if every count that is
read in it is, modulo `2 ^ 64`, the value of an `int`. -/
theorem counters_agree (waitObj : Option WaitObj) (calls : List CntrCall) :
    Agree waitObj calls ↔ ∀ n ∈ Count.zero.outputs calls, IsInt (UInt64.ofNat n) := by
  have hdirect : (dpaCntrOpen waitObj true).outputs calls
      = (Count.zero.outputs calls).map UInt64.ofNat := outputs_direct ⟨rfl, rfl, rfl⟩ calls
  have hatomic : (dpaCntrOpen waitObj false).outputs calls
      = (Count.zero.outputs calls).map throughInt := outputs_atomic ⟨rfl, rfl, rfl⟩ calls
  rw [Agree, hdirect, hatomic, and_iff_left rfl, List.map_inj_left]
  exact forall₂_congr fun n _ => ofInt_toInt_iff _

/-- A counter that is set to `2 ^ 31` and then read. -/
theorem counters_differ :
    (dpaCntrOpen none true).outputs [.set (2 ^ 31), .read []] = [2 ^ 31]
      ∧ (dpaCntrOpen none false).outputs [.set (2 ^ 31), .read []] = [2 ^ 64 - 2 ^ 31]
      ∧ ¬ Agree none [.set (2 ^ 31), .read []] := by
  refine ⟨by decide, by decide, fun h => ?_⟩
  exact absurd h.1 (by decide)

end DpaFidCntr

end DpaProvider
