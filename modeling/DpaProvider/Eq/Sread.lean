import DpaProvider.Cq.Events
import DpaProvider.Eq.Events
import DpaProvider.Library.Monitor

/-!
Blocking reads.

`dpa_cq_sreadfrom`, on a queue without progress function or interrupt, and `dpa_eq_sread`, on
one without progress function, wait for the signal that a producer sends behind its insertion.
`DpaFidCq.monitor` and `DpaFidEq.monitor` are their critical sections, and
`DpaFidCq.sread_eq` and `DpaFidEq.sread_eq` say that these make up the reads.
`parked_empty`: unless a reader begins to wait after an insertion that its first look has missed,
or a signal leaves a second reader waiting, the queue is empty while a reader waits.
-/

namespace DpaProvider

open Monitor

/-! ### Completion queues -/

namespace DpaFidCq

/-- The reads, without progress. -/
inductive Look where
  | dpaCqSreadfrom (count : ℕ) (srcAddr : Bool) (timeout : ℤ)
  | dpaCqReaderr
  deriving DecidableEq, Repr

/-- The first critical section of a read, and whether it is the only one. -/
def check (z : EntrySizes) (r : Look) (cq : DpaFidCq) : Bool × DpaFidCq :=
  match r with
  | .dpaCqSreadfrom count srcAddr timeout =>
      let r := cq.cqReadPriv .eventQueue cq.entrySize count srcAddr
      (match r.1.ret with
        | .ok _ => true
        | .error _ => timeout = 0, r.2)
  | .dpaCqReaderr => (true, (cq.cqReadPriv .errorQueue z.cqErrEntry 1 false).2)

/-- The critical section behind the wait. -/
def recheck (z : EntrySizes) (r : Look) (cq : DpaFidCq) : DpaFidCq :=
  match r with
  | .dpaCqSreadfrom count srcAddr _ => (cq.cqReadPriv .eventQueue cq.entrySize count srcAddr).2
  | .dpaCqReaderr => (cq.cqReadPriv .errorQueue z.cqErrEntry 1 false).2

/-- The two sections make up `dpa_cq_sreadfrom`. -/
lemma sread_eq (z : EntrySizes) (cq : DpaFidCq) (count : ℕ) (srcAddr : Bool) (timeout : ℤ) :
    (cq.dpaCqSreadfrom count srcAddr timeout [] []).2
      = if (cq.check z (.dpaCqSreadfrom count srcAddr timeout)).1
        then (cq.check z (.dpaCqSreadfrom count srcAddr timeout)).2
        else (cq.check z (.dpaCqSreadfrom count srcAddr timeout)).2.recheck z
          (.dpaCqSreadfrom count srcAddr timeout) := by
  obtain ⟨ret, hret⟩ : ∃ ret, (cq.cqReadPriv .eventQueue cq.entrySize count srcAddr).1.ret = ret :=
    ⟨_, rfl⟩
  simp only [dpaCqSreadfrom, check, recheck, List.foldl_nil, hret]
  cases ret with
  | ok n => rfl
  | error err => by_cases htimeout : timeout = 0 <;> simp [htimeout]

/-- Reading puts nothing in a queue. -/
lemma readLoop_isEmpty {k : CqList} (hk : k ≠ .freeList) (q : CqList) (count : ℕ)
    {cq : DpaFidCq} (h : (cq.lists.lists k).isEmpty = true) :
    ((readLoop q count cq).2.lists.lists k).isEmpty = true := by
  induction count generalizing cq with
  | zero => exact h
  | succ n ih =>
      have hremoved : ((cq.lists.removeHead q).2.lists k).isEmpty = true :=
        Pool.removeHead_isEmpty q h
      rw [readLoop]
      cases hhead : (cq.lists.removeHead q).1 with
      | none => exact hremoved
      | some node => exact ih ((Pool.insertTail_isEmpty _ _ _ _).2 ⟨hk, hremoved⟩)

/-- A completion queue whose readers wait for the event queue. -/
def monitor (z : EntrySizes) : Monitor DpaFidCq DpaCqEvent Look where
  insert := fun event cq => cq.cqAddSrc event
  check := check z
  recheck := recheck z
  Empty := fun cq => (cq.lists.lists .eventQueue).isEmpty = true
  check_empty := by
    intro r cq h
    cases r with
    | dpaCqSreadfrom count srcAddr timeout => exact readLoop_isEmpty (by simp) _ _ h
    | dpaCqReaderr => exact readLoop_isEmpty (by simp) _ _ h
  recheck_empty := by
    intro r cq h
    cases r with
    | dpaCqSreadfrom count srcAddr timeout => exact readLoop_isEmpty (by simp) _ _ h
    | dpaCqReaderr => exact readLoop_isEmpty (by simp) _ _ h

end DpaFidCq

/-! ### Event queues -/

namespace DpaFidEq

/-- The reads, without progress. -/
inductive Look where
  | dpaEqSread (len : ℕ) (timeout : ℤ) (flags : UInt64)
  | dpaEqReaderr (flags : UInt64)
  deriving DecidableEq, Repr

/-- The first critical section of a read, and whether it is the only one. -/
def check (z : EqSizes) (r : Look) (eq : DpaFidEq) : Bool × DpaFidEq :=
  match r with
  | .dpaEqSread len timeout flags =>
      let r := eq.readOrErr len flags
      (match r.1.ret with
        | .error .eagain => timeout = 0
        | _ => true, r.2)
  | .dpaEqReaderr flags => (true, (eq.eqReadPriv .errorQueue z.errEntry false flags).2)

/-- The critical section behind the wait. -/
def recheck (z : EqSizes) (r : Look) (eq : DpaFidEq) : DpaFidEq :=
  match r with
  | .dpaEqSread len _ flags => (eq.eqReadPriv .eventQueue len true flags).2
  | .dpaEqReaderr flags => (eq.eqReadPriv .errorQueue z.errEntry false flags).2

/-- The two sections make up `dpa_eq_sread`. -/
lemma sread_eq (z : EqSizes) (eq : DpaFidEq) (len : ℕ) (timeout : ℤ) (flags : UInt64) :
    (eq.dpaEqSread z len timeout flags [] []).2
      = if (eq.check z (.dpaEqSread len timeout flags)).1
        then (eq.check z (.dpaEqSread len timeout flags)).2
        else (eq.check z (.dpaEqSread len timeout flags)).2.recheck z
          (.dpaEqSread len timeout flags) := by
  obtain ⟨ret, hret⟩ : ∃ ret, (eq.readOrErr len flags).1.ret = ret := ⟨_, rfl⟩
  simp only [dpaEqSread, check, recheck, List.foldl_nil, hret]
  by_cases hagain : ret = .error .eagain
  · by_cases htimeout : timeout = 0 <;> simp [hagain, htimeout]
  · cases ret with
    | ok n => rfl
    | error err => cases err <;> first | rfl | exact absurd rfl hagain

/-- Reading puts nothing in a queue. -/
lemma eqReadPriv_isEmpty {k : EqList} (q : EqList) (len : ℕ) (event : Bool)
    (flags : UInt64) {eq : DpaFidEq} (h : (eq.lists.lists k).isEmpty = true) :
    ((eq.eqReadPriv q len event flags).2.lists.lists k).isEmpty = true := by
  have hremoved : ((eq.lists.removeHead q).2.lists k).isEmpty = true := Pool.removeHead_isEmpty q h
  rw [eqReadPriv_eq]
  cases (eq.lists.removeHead q).1 <;> exact hremoved

/-- An event queue whose readers wait for the event queue. -/
def monitor (z : EqSizes) : Monitor DpaFidEq Add Look where
  insert := fun a eq => eq.eqAdd z a
  check := check z
  recheck := recheck z
  Empty := fun eq => (eq.lists.lists .eventQueue).isEmpty = true
  check_empty := by
    intro r eq h
    cases r with
    | dpaEqSread len timeout flags =>
        simp only [check, readOrErr]
        split_ifs
        · exact eqReadPriv_isEmpty _ _ _ _ h
        · exact h
    | dpaEqReaderr flags => exact eqReadPriv_isEmpty _ _ _ _ h
  recheck_empty := by
    intro r eq h
    cases r with
    | dpaEqSread len timeout flags => exact eqReadPriv_isEmpty _ _ _ _ h
    | dpaEqReaderr flags => exact eqReadPriv_isEmpty _ _ _ _ h

end DpaFidEq

/-! ### Waiting -/

section Waiting

variable {σ Ins Rd : Type*} (m : Monitor σ Ins Rd)

/-- The readers and producers of a queue before the first of them does anything. -/
def atOutset (queue : σ) : State σ Rd := ⟨queue, [], [], [], 0⟩

/-- In every run from there whose steps are fine, the queue is empty in a state in which a reader
waits and no producer is between its insertion and its signal. -/
def ParkedEmpty : Prop :=
  ∀ (queue : σ) (actions : List (Action Ins Rd)) (s : State σ Rd),
    Stepper.Meets (State.step m) (State.Fine m) (atOutset queue) actions →
    Stepper.run (State.step m) (atOutset queue) actions = some s →
    s.parked ≠ [] → s.signalling = 0 → m.Empty s.shared

end Waiting

/-- While a reader waits for events of a completion queue or of an event queue and no producer is
between its insertion and its signal, the queue is empty: in every run in which no reader begins
to wait while there are events and no signal is due, and in which no last signal due leaves
another reader waiting while there are events. -/
theorem parked_empty (z : EntrySizes) (z' : EqSizes) :
    ParkedEmpty (DpaFidCq.monitor z) ∧ ParkedEmpty (DpaFidEq.monitor z') := by
  constructor
  · intro cq actions s hfine hrun
    exact State.awaits_run (m := DpaFidCq.monitor z) (fun h => absurd rfl h) hfine hrun
  · intro eq actions s hfine hrun
    exact State.awaits_run (m := DpaFidEq.monitor z') (fun h => absurd rfl h) hfine hrun

/-- A reader waits, gets the event of a producer that signals, and waits for the next one. -/
def waitsAgain : List (Action DpaCqEvent DpaFidCq.Look) :=
  [.look (.dpaCqSreadfrom 1 false 10), .park 0, .insert ⟨⟨List.replicate 72 1, 0⟩, 11⟩, .signal 0,
    .finish 0, .look (.dpaCqSreadfrom 1 false 10), .park 0]

theorem parked_empty_waitsAgain :
    ∃ s, Stepper.run (State.step (DpaFidCq.monitor ⟨8, 24, 40, 48, 72⟩))
        (atOutset (DpaFidCq.dpaCqOpen ⟨8, 24, 40, 48, 72⟩ .context 1 fun _ => ⟨⟨[], 0⟩, 0⟩))
        waitsAgain = some s
      ∧ (s.shared.lists.lists .eventQueue).isEmpty = true := by
  have hfine : Stepper.Meets (State.step (DpaFidCq.monitor ⟨8, 24, 40, 48, 72⟩))
      (State.Fine (DpaFidCq.monitor ⟨8, 24, 40, 48, 72⟩))
      (atOutset (DpaFidCq.dpaCqOpen ⟨8, 24, 40, 48, 72⟩ .context 1 fun _ => ⟨⟨[], 0⟩, 0⟩))
      waitsAgain := by
    refine (Stepper.meets_cons rfl).2 ⟨trivial, ?_⟩
    refine (Stepper.meets_cons rfl).2 ⟨fun _ => rfl, ?_⟩
    refine (Stepper.meets_cons rfl).2 ⟨trivial, ?_⟩
    refine (Stepper.meets_cons rfl).2 ⟨fun _ htwo => absurd htwo (by decide), ?_⟩
    refine (Stepper.meets_cons rfl).2 ⟨trivial, ?_⟩
    refine (Stepper.meets_cons rfl).2 ⟨trivial, ?_⟩
    exact (Stepper.meets_cons rfl).2 ⟨fun _ => rfl, trivial⟩
  exact ⟨_, rfl, (parked_empty _ ⟨32, 64⟩).1 _ _ _ hfine rfl (List.cons_ne_nil _ _) rfl⟩

/-- A reader finds nothing; a producer inserts an event and sends its signal to nobody; the reader
waits. -/
def lateReader : List (Action DpaCqEvent DpaFidCq.Look) :=
  [.look (.dpaCqSreadfrom 1 false 10), .insert ⟨⟨List.replicate 72 1, 0⟩, 11⟩, .signal 0, .park 0]

/-- It waits with an event queued. -/
theorem parked_late :
    ∃ s, Stepper.run (State.step (DpaFidCq.monitor ⟨8, 24, 40, 48, 72⟩))
        (atOutset (DpaFidCq.dpaCqOpen ⟨8, 24, 40, 48, 72⟩ .context 1 fun _ => ⟨⟨[], 0⟩, 0⟩))
        lateReader = some s
      ∧ s.parked ≠ [] ∧ s.signalling = 0 ∧ (s.shared.lists.lists .eventQueue).isEmpty = false :=
  ⟨_, rfl, by simp, rfl, rfl⟩

end DpaProvider
