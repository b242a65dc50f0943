import DpaProvider.Eq.Sread
import DpaProvider.Library.Tickets

/-!
Blocking reads with spin locks.

With `PT_LOCK_SPIN` a condition variable is a pair of counters: `spin_wait` draws a number and
goes round until it has been called, and `spin_signal` calls the next one.  The critical sections
of readers and producers are those of `DpaFidCq.monitor` and `DpaFidEq.monitor`.
`spin_wakeups`: here no wake-up is lost.  A signal that finds nobody waiting is kept for the next
reader, so that while a reader waits, every event in the queue has a reader that has been called for
it or a signal that is due.
-/

namespace DpaProvider

open Monitor Monitor.Tickets

/-- The `spinlock_cond`, without its lock. -/
structure SpinlockCond where
  locked : UInt64
  released : UInt64
  deriving DecidableEq, Repr

namespace SpinlockCond

/-- `fastlock_cond_init`. -/
def init : SpinlockCond := ⟨0, 0⟩

/-- `spin_wait` up to its loop: its local variable `wait`. -/
def spinWait (cond : SpinlockCond) : UInt64 × SpinlockCond :=
  (cond.locked, { cond with locked := cond.locked + 1 })

/-- The test of the loop of `spin_wait`. -/
def spins (cond : SpinlockCond) (wait : UInt64) : Bool := cond.released ≤ wait

/-- `spin_signal`. -/
def spinSignal (cond : SpinlockCond) : SpinlockCond := { cond with released := cond.released + 1 }

/-- The operations on the counters. -/
def gate : Gate SpinlockCond UInt64 where
  draw := spinWait
  call := spinSignal
  called := fun cond wait => !cond.spins wait

/-- The numbers drawn and called. -/
def count (cond : SpinlockCond) : ℕ × ℕ := (cond.locked.toNat, cond.released.toNat)

lemma counts : Counts gate count UInt64.toNat (2 ^ 64 - 1) where
  draw := fun c hc => ⟨rfl, Prod.ext (by simp [gate, spinWait, count] at *; omega) rfl⟩
  call := fun c hc => Prod.ext rfl (by simp [gate, spinSignal, count] at *; omega)
  called := fun c wait => by
    rw [Bool.eq_iff_iff, decide_eq_true_iff]
    simp [gate, spins, count, UInt64.lt_iff_toNat_lt]

end SpinlockCond

/-! ### Completion queues -/

namespace DpaFidCq

/-- There are `n` events in the event queue. -/
def Queued (cq : DpaFidCq) (n : ℕ) : Prop := ∃ c, Contents cq c ∧ (c .eventQueue).length = n

/-- A read that waits asks for at least one event. -/
def Asks : Look → Prop
  | .dpaCqSreadfrom count _ _ => 0 < count
  | .dpaCqReaderr => False

lemma Queued.cqReadPriv {cq : DpaFidCq} {n : ℕ} (h : Queued cq n) {q : CqList} (hq : q ≠ .freeList)
    (entrySize count : ℕ) (srcAddr : Bool) :
    Queued (cq.cqReadPriv q entrySize count srcAddr).2
      (if q = .eventQueue then n - count else n) := by
  obtain ⟨c, hc, rfl⟩ := h
  refine ⟨_, (hc.cqReadPriv hq entrySize count srcAddr).contents, ?_⟩
  by_cases hevent : q = .eventQueue
  · rw [if_pos hevent, hevent, Function.update_self, List.length_drop]
  · rw [if_neg hevent, Function.update_of_ne (Ne.symm hevent)]

lemma counted (z : EntrySizes) : Counted (monitor z) Queued Asks where
  insert := by
    rintro event cq n ⟨c, hc, rfl⟩
    refine ⟨_, ?_, _, hc.cqAddSrc event, rfl⟩
    by_cases hevent : queueOf event.entry = .eventQueue
    · rw [hevent, Function.update_self, List.length_append, List.length_singleton]
    · rw [Function.update_of_ne (Ne.symm hevent)]
      exact Nat.le_succ _
  check := by
    intro r cq n h
    cases r with
    | dpaCqSreadfrom count srcAddr timeout =>
        exact ⟨_, Nat.sub_le _ _, h.cqReadPriv (by simp) cq.entrySize count srcAddr⟩
    | dpaCqReaderr => exact ⟨_, le_rfl, h.cqReadPriv (by simp) z.cqErrEntry 1 false⟩
  recheck := by
    intro r cq n hasks h
    cases r with
    | dpaCqSreadfrom count srcAddr timeout =>
        exact ⟨_, Nat.sub_le_sub_left hasks n, h.cqReadPriv (by simp) cq.entrySize count srcAddr⟩
    | dpaCqReaderr => exact hasks.elim

/-- A read that is ready to wait, and asks for at least one event. -/
lemma fine_of_asks (z : EntrySizes) {a : Tickets.Action DpaCqEvent Look}
    (h : ∀ count srcAddr timeout, a = .look (.dpaCqSreadfrom count srcAddr timeout) →
      timeout ≠ 0 → 0 < count) : Tickets.Fine (monitor z) Asks a := by
  cases a with
  | look r =>
      intro cq hwaits
      cases r with
      | dpaCqSreadfrom count srcAddr timeout =>
          refine h count srcAddr timeout rfl fun hzero => ?_
          simp only [monitor, check, hzero, decide_true] at hwaits
          split at hwaits <;> cases hwaits
      | dpaCqReaderr => cases hwaits
  | _ => trivial

lemma queued_dpaCqOpen (z : EntrySizes) (format : CqFormat) (size : ℕ) (events : ℕ → DpaCqEvent) :
    Queued (dpaCqOpen z format size events) 0 := by
  refine ⟨fun _ => [], (contents_createNodes size ?_).1, rfl⟩
  exact ⟨_, Pool.full_init CqList, fun _ _ => rfl⟩

end DpaFidCq

/-! ### Event queues -/

namespace DpaFidEq

/-- There are `n` events in the event queue. -/
def Queued (eq : DpaFidEq) (n : ℕ) : Prop :=
  ∃ xs, eq.lists.Within eq.created xs ∧ (xs .eventQueue).length = n

/-- A read that waits asks for an event. -/
def Asks : Look → Prop
  | .dpaEqSread _ _ _ => True
  | .dpaEqReaderr _ => False

lemma Queued.eqReadPriv {eq : DpaFidEq} {n : ℕ} (h : Queued eq n) (q : EqList) (len : ℕ)
    (event : Bool) (flags : UInt64) :
    Queued (eq.eqReadPriv q len event flags).2 (if q = .eventQueue then n - 1 else n) := by
  obtain ⟨xs, hwithin, rfl⟩ := h
  have hqueued : ∀ eq' : DpaFidEq, eq'.lists = (eq.lists.removeHead q).2 →
      eq'.created = eq.created →
      Queued eq' (if q = .eventQueue then (xs .eventQueue).length - 1
        else (xs .eventQueue).length) := by
    intro eq' hlists hcreated
    refine ⟨_, by rw [hlists, hcreated]; exact hwithin.removeHead q, ?_⟩
    by_cases hq : q = .eventQueue
    · rw [if_pos hq, hq, Function.update_self, List.length_tail]
    · rw [if_neg hq, Function.update_of_ne (Ne.symm hq)]
  rw [eqReadPriv_eq]
  cases (eq.lists.removeHead q).1 <;> exact hqueued _ rfl rfl

/-- A read of the error queue does not wait. -/
lemma fine (z : EqSizes) (a : Tickets.Action Add Look) : Tickets.Fine (monitor z) Asks a := by
  cases a with
  | look r =>
      intro eq hwaits
      cases r with
      | dpaEqSread len timeout flags => trivial
      | dpaEqReaderr flags => cases hwaits
  | _ => trivial

lemma queued_createNodes (n : ℕ) {eq : DpaFidEq} {k : ℕ} (h : Queued eq k) :
    Queued (createNodes n eq) k := by
  induction n generalizing eq with
  | zero => exact h
  | succ n ih =>
      obtain ⟨xs, hwithin, hlen⟩ := h
      exact ih ⟨_, hwithin.create .freeList, by rw [Function.update_of_ne (by simp), hlen]⟩

lemma queued_dpaEqOpen (size : ℕ) (events : ℕ → DpaEqEvent) : Queued (dpaEqOpen size events) 0 :=
  queued_createNodes size ⟨_, (Pool.full_init EqList).within, rfl⟩

lemma counted (z : EqSizes) : Counted (monitor z) Queued Asks where
  insert := by
    rintro a eq n ⟨xs, hwithin, rfl⟩
    obtain ⟨ys, hys, hself, hother, -⟩ := hwithin.alloc a.queue_ne_freeList.symm
    refine ⟨_, ?_, ys, hys, rfl⟩
    by_cases hevent : a.queue = .eventQueue
    · rw [← hevent, hself, List.length_append, List.length_singleton]
    · rw [hother _ (by simp) (Ne.symm hevent)]
      exact Nat.le_succ _
  check := by
    intro r eq n h
    cases r with
    | dpaEqSread len timeout flags =>
        simp only [monitor, check, readOrErr]
        split
        case isTrue => exact ⟨_, Nat.sub_le _ _, h.eqReadPriv .eventQueue len true flags⟩
        case isFalse => exact ⟨n, le_rfl, h⟩
    | dpaEqReaderr flags => exact ⟨n, le_rfl, h.eqReadPriv .errorQueue z.errEntry false flags⟩
  recheck := by
    intro r eq n hasks h
    cases r with
    | dpaEqSread len timeout flags => exact ⟨_, le_rfl, h.eqReadPriv .eventQueue len true flags⟩
    | dpaEqReaderr flags => exact hasks.elim

end DpaFidEq

/-! ### Waiting -/

/-- Nobody has looked at the queue, and no number is drawn. -/
def spinStart {σ Rd : Type} (queue : σ) : Tickets.State σ Rd SpinlockCond UInt64 :=
  ⟨queue, [], [], [], [], 0, .init⟩

/-- The readers asleep are as many as the numbers drawn and not called, and while there are any, the
queue holds no more events than readers are called and under way and signals due. -/
structure WakeupsKept {σ Rd : Type} (queued : σ → ℕ → Prop)
    (s : Tickets.State σ Rd SpinlockCond UInt64) : Prop where
  sleepers : (asleep SpinlockCond.gate s).length = s.gate.locked.toNat - s.gate.released.toNat
  covered : asleep SpinlockCond.gate s ≠ [] →
    ∃ n, queued s.shared n ∧ n ≤ underWay SpinlockCond.gate s + s.signalling

lemma wakeupsKept {σ Ins Rd : Type} {m : Monitor σ Ins Rd} {queued : σ → ℕ → Prop}
    {Asks : Rd → Prop} (hcounted : Counted m queued Asks) {queue : σ} (hempty : queued queue 0)
    {actions : List (Tickets.Action Ins Rd)} {s : Tickets.State σ Rd SpinlockCond UInt64}
    (hlen : actions.length < 2 ^ 64) (hfine : ∀ a ∈ actions, Tickets.Fine m Asks a)
    (hrun : Stepper.run (Tickets.step m SpinlockCond.gate) (spinStart queue) actions = some s) :
    WakeupsKept queued s := by
  have hinv :=
    run_inv SpinlockCond.counts hcounted hempty rfl (Nat.le_sub_one_of_lt hlen) hfine hrun
  have hasleep := asleep_counted SpinlockCond.counts s
  refine ⟨hasleep.symm.trans hinv.asleep, fun hsome => ?_⟩
  rw [← underWay_counted SpinlockCond.counts]
  refine hinv.covered (List.length_pos_iff.1 ?_)
  rw [hasleep]
  exact List.length_pos_iff.2 hsome

/-- With spin locks no wake-up is lost, on completion queues and on event queues: whatever the order
in which readers look, wait and look again, and producers insert and signal, a reader that waits
leaves no more events in the queue than there are readers called and signals due.  A read of a
completion queue that is ready to wait has to ask for an event; `dpa_cq_signal` is an alarm. -/
theorem spin_wakeups (z : EntrySizes) (z' : EqSizes) :
    (∀ format size events (actions : List (Tickets.Action DpaCqEvent DpaFidCq.Look)) s,
      actions.length < 2 ^ 64 →
      (∀ count srcAddr timeout, .look (.dpaCqSreadfrom count srcAddr timeout) ∈ actions →
        timeout ≠ 0 → 0 < count) →
      Stepper.run (Tickets.step (DpaFidCq.monitor z) SpinlockCond.gate)
        (spinStart (DpaFidCq.dpaCqOpen z format size events)) actions = some s →
      WakeupsKept DpaFidCq.Queued s)
    ∧ ∀ size events (actions : List (Tickets.Action DpaFidEq.Add DpaFidEq.Look)) s,
      actions.length < 2 ^ 64 →
      Stepper.run (Tickets.step (DpaFidEq.monitor z') SpinlockCond.gate)
        (spinStart (DpaFidEq.dpaEqOpen size events)) actions = some s →
      WakeupsKept DpaFidEq.Queued s := by
  constructor
  · intro format size events actions s hlen hasks
    refine wakeupsKept (DpaFidCq.counted z) (DpaFidCq.queued_dpaCqOpen z format size events) hlen ?_
    intro a ha
    exact DpaFidCq.fine_of_asks z fun count srcAddr timeout heq =>
      hasks count srcAddr timeout (heq ▸ ha)
  · intro size events actions s hlen
    exact wakeupsKept (DpaFidEq.counted z') (DpaFidEq.queued_dpaEqOpen size events) hlen
      fun a _ => DpaFidEq.fine z' a

/-- Two readers wait, and the first goes on with the first of two events. -/
def twoReaders : List (Tickets.Action DpaCqEvent DpaFidCq.Look) :=
  [.look (.dpaCqSreadfrom 1 false 10), .look (.dpaCqSreadfrom 1 false 10), .park 0, .park 0,
    .insert ⟨⟨List.replicate 72 1, 0⟩, 11⟩, .signal, .wake 0, .finish 0,
    .insert ⟨⟨List.replicate 72 2, 0⟩, 11⟩]

/-- The other one sleeps, and a signal is due for the second. -/
theorem spin_wakeups_twoReaders : ∃ s,
    Stepper.run (Tickets.step (DpaFidCq.monitor ⟨8, 24, 40, 48, 72⟩) SpinlockCond.gate)
        (spinStart (DpaFidCq.dpaCqOpen ⟨8, 24, 40, 48, 72⟩ .context 1 fun _ => ⟨⟨[], 0⟩, 0⟩))
        twoReaders = some s
      ∧ (asleep SpinlockCond.gate s).length = 1
      ∧ ∃ n, DpaFidCq.Queued s.shared n ∧ n ≤ 1 := by
  obtain ⟨s, hrun, hlocked, hreleased, hdue⟩ : ∃ s,
      Stepper.run (Tickets.step (DpaFidCq.monitor ⟨8, 24, 40, 48, 72⟩) SpinlockCond.gate)
          (spinStart (DpaFidCq.dpaCqOpen ⟨8, 24, 40, 48, 72⟩ .context 1 fun _ => ⟨⟨[], 0⟩, 0⟩))
          twoReaders = some s
        ∧ s.gate.locked = 2 ∧ s.gate.released = 1
        ∧ underWay SpinlockCond.gate s + s.signalling = 1 :=
    ⟨_, rfl, rfl, rfl, rfl⟩
  have hasks : ∀ count srcAddr timeout,
      .look (.dpaCqSreadfrom count srcAddr timeout) ∈ twoReaders → timeout ≠ 0 → 0 < count := by
    intro count srcAddr timeout hmem _
    simp only [twoReaders, List.mem_cons, Tickets.Action.look.injEq,
      DpaFidCq.Look.dpaCqSreadfrom.injEq, reduceCtorEq, List.not_mem_nil, or_false, or_self] at hmem
    omega
  have hkept := (spin_wakeups ⟨8, 24, 40, 48, 72⟩ ⟨24, 40⟩).1 .context 1 (fun _ => ⟨⟨[], 0⟩, 0⟩)
    twoReaders s (by decide) hasks hrun
  have hasleep : (asleep SpinlockCond.gate s).length = 1 := by
    rw [hkept.sleepers, hlocked, hreleased]
    rfl
  have hsome : asleep SpinlockCond.gate s ≠ [] := List.ne_nil_of_length_eq_add_one hasleep
  exact ⟨s, hrun, hasleep, hdue ▸ hkept.covered hsome⟩

/-- The reader that begins to wait behind a signal to nobody does not wait for another. -/
example : ∃ s, Stepper.run (Tickets.step (DpaFidCq.monitor ⟨8, 24, 40, 48, 72⟩) SpinlockCond.gate)
      (spinStart (DpaFidCq.dpaCqOpen ⟨8, 24, 40, 48, 72⟩ .context 1 fun _ => ⟨⟨[], 0⟩, 0⟩))
      [.look (.dpaCqSreadfrom 1 false 10), .insert ⟨⟨List.replicate 72 1, 0⟩, 11⟩, .signal, .park 0,
        .wake 0, .finish 0] = some s
    ∧ (s.shared.lists.lists .eventQueue).isEmpty = true :=
  ⟨_, rfl, rfl⟩

end DpaProvider
