import DpaProvider.Cntr.Counters
import DpaProvider.Cq.Progress
import DpaProvider.Library.Until

/-!
Waiting for a counter.

`dpa_cntr_wait` goes on making progress until the counter reaches a threshold, an error is counted,
or the time that `make_queue_progress` leaves is up.

* `dpaCntrWait`: the call, in surroundings that count events and leave it time (`WaitTrace`);
* `Truthful`: what its result should say of the counter;
* `wait_truthful`: when it does;
* `wait_ends`: when a wait whose counter does not change any more comes to an end, and when each of
  its rounds uses up time.
-/

namespace DpaProvider

namespace DpaFidCntr

/-! ### The call -/

/-- What a counter holds, as its operations return it. -/
def value (c : DpaFidCntr) : UInt64 := if c.direct then c.counter else ofInt c.counterAtomic

def errValue (c : DpaFidCntr) : UInt64 := if c.direct then c.err else ofInt c.errAtomic

/-- `ops->read`: the value, and the counter after the progress. -/
def opsRead (c : DpaFidCntr) (progress : List Tick) : UInt64 × DpaFidCntr :=
  let r := c.call (.read progress)
  (r.1.getD 0, r.2)

/-- `ops->readerr`. -/
def opsReaderr (c : DpaFidCntr) (progress : List Tick) : UInt64 × DpaFidCntr :=
  let r := c.call (.readerr progress)
  (r.1.getD 0, r.2)

/-- What happens in a round of the loop: the events counted while the two values are read and while
the round makes progress, and the time that this leaves of a timeout. -/
structure Round where
  read : List Tick
  readerr : List Tick
  progress : List Tick
  remaining : ℤ → ℤ

/-- What happens during a wait: the events counted while it first reads the errors, its rounds, and
the events counted between the loop and its last look at the counter. -/
structure WaitTrace where
  first : List Tick
  rounds : ℕ → Round
  last : List Tick

/-- The test with which a loop is left. -/
inductive Exit where
  | timeout
  | read
  | readerr
  deriving DecidableEq, Repr

/-- The end of a wait; `cntr` is the counter when the result is settled. -/
structure Waited where
  ret : FiErr
  exit : Exit
  timeout : ℤ
  cntr : DpaFidCntr
  deriving DecidableEq, Repr

/-- The three tests of the loop: the one with which it is left, if it is. -/
def waitTests (threshold : UInt64) (err : Int32) (r : Round) (s : ℤ × DpaFidCntr) :
    Option (Exit × ℤ × DpaFidCntr) :=
  if s.1 = 0 then some (.timeout, s.1, s.2)
  else
    let v := s.2.opsRead r.read
    if v.1 < threshold then
      let e := v.2.opsReaderr r.readerr
      if e.1 = ofInt err then none else some (.readerr, s.1, e.2)
    else some (.read, s.1, v.2)

/-- The loop goes on: the tests have read both values, and the body makes progress. -/
def waitBody (r : Round) (s : ℤ × DpaFidCntr) : ℤ × DpaFidCntr :=
  (r.remaining s.1,
    ((s.2.opsRead r.read).2.opsReaderr r.readerr).2.makeQueueProgress r.progress)

/-- The end of `dpa_cntr_wait`: it looks at the counter in the `uint64_t`, and only if the time is
up. -/
def settle (threshold : UInt64) (last : List Tick) (l : Exit × ℤ × DpaFidCntr) : Waited :=
  if l.2.1 = 0 then
    let c := l.2.2.makeQueueProgress last
    ⟨if c.counter < threshold then .etimedout else .success, l.1, l.2.1, c⟩
  else ⟨.success, l.1, l.2.1, l.2.2⟩

/-- `dpa_cntr_wait`; none if the fuel does not suffice.  The first count of errors goes through an
`int`. -/
def dpaCntrWait (c : DpaFidCntr) (threshold : UInt64) (timeout : ℤ) (t : WaitTrace) (fuel : ℕ) :
    Option Waited :=
  let e := c.opsReaderr t.first
  let err := toInt e.1
  (Until.run (fun k => waitBody (t.rounds k)) (fun k => waitTests threshold err (t.rounds k)) fuel 0
    (timeout, e.2)).map (settle threshold t.last)

variable {c : DpaFidCntr}

/-! ### Reading the values -/

@[simp] lemma tick_direct (c : DpaFidCntr) (t : Tick) : (c.tick t).direct = c.direct := by
  rw [tick]
  cases t <;> split <;> rfl

@[simp] lemma makeQueueProgress_direct (c : DpaFidCntr) (ticks : List Tick) :
    (c.makeQueueProgress ticks).direct = c.direct := by
  induction ticks generalizing c with
  | nil => rfl
  | cons t rest ih => exact (ih (c.tick t)).trans (tick_direct c t)

/-- The `uint64_t` of the other kind stays as it is. -/
lemma makeQueueProgress_counter (h : c.direct = false) (ticks : List Tick) :
    (c.makeQueueProgress ticks).counter = c.counter := by
  induction ticks generalizing c with
  | nil => rfl
  | cons t rest ih =>
      refine (ih ((tick_direct c t).trans h)).trans ?_
      rw [tick, h]
      cases t <;> rfl

lemma opsRead_eq (c : DpaFidCntr) (ticks : List Tick) :
    c.opsRead ticks = ((c.makeQueueProgress ticks).value, c.makeQueueProgress ticks) := by
  rw [opsRead, call, value, makeQueueProgress_direct]
  cases c.direct <;> rfl

lemma opsReaderr_eq (c : DpaFidCntr) (ticks : List Tick) :
    c.opsReaderr ticks = ((c.makeQueueProgress ticks).errValue, c.makeQueueProgress ticks) := by
  rw [opsReaderr, call, errValue, makeQueueProgress_direct]
  cases c.direct <;> rfl

/-! ### The course of a wait -/

/-- The arguments of a wait, with its surroundings. -/
structure Wait where
  cntr : DpaFidCntr
  threshold : UInt64
  timeout : ℤ
  trace : WaitTrace

namespace Wait

variable {w : Wait} {k : ℕ}

def run (w : Wait) (fuel : ℕ) : Option Waited :=
  w.cntr.dpaCntrWait w.threshold w.timeout w.trace fuel

/-- The counter when the errors are read first. -/
def start (w : Wait) : DpaFidCntr := w.cntr.makeQueueProgress w.trace.first

/-- The time left and the counter at the beginning of a round. -/
def moment (w : Wait) : ℕ → ℤ × DpaFidCntr :=
  Until.path (fun k => waitBody (w.trace.rounds k)) (w.timeout, w.start)

/-- The counter when the round reads it. -/
def counted (w : Wait) (k : ℕ) : DpaFidCntr :=
  (w.moment k).2.makeQueueProgress (w.trace.rounds k).read

/-- The counter when the round reads its errors. -/
def checked (w : Wait) (k : ℕ) : DpaFidCntr :=
  (w.counted k).makeQueueProgress (w.trace.rounds k).readerr

/-- The counter when the time is found to be up and the last test looks at it. -/
def expired (w : Wait) (k : ℕ) : DpaFidCntr := (w.moment k).2.makeQueueProgress w.trace.last

/-- A test of the round ends the loop. -/
def Stops (w : Wait) (k : ℕ) : Prop :=
  (w.moment k).1 = 0 ∨ w.threshold ≤ (w.counted k).value
    ∨ (w.checked k).errValue ≠ ofInt (toInt w.start.errValue)

instance (w : Wait) (k : ℕ) : Decidable (w.Stops k) := inferInstanceAs (Decidable (_ ∨ _ ∨ _))

/-- The loop ends in the round. -/
def StopsAt (w : Wait) (k : ℕ) : Prop := w.Stops k ∧ ∀ j < k, ¬ w.Stops j

lemma moment_succ (w : Wait) (k : ℕ) :
    w.moment (k + 1) = ((w.trace.rounds k).remaining (w.moment k).1,
      (w.checked k).makeQueueProgress (w.trace.rounds k).progress) := by
  rw [moment, Until.path, waitBody, opsRead_eq, opsReaderr_eq]
  rfl

lemma moment_direct (w : Wait) (k : ℕ) : (w.moment k).2.direct = w.cntr.direct := by
  induction k with
  | zero => exact makeQueueProgress_direct _ _
  | succ k ih =>
      rw [moment_succ, makeQueueProgress_direct, checked, makeQueueProgress_direct, counted,
        makeQueueProgress_direct, ih]

lemma moment_counter (h : w.cntr.direct = false) (k : ℕ) :
    (w.moment k).2.counter = w.cntr.counter := by
  induction k with
  | zero => exact makeQueueProgress_counter h _
  | succ k ih =>
      have hmoment : (w.moment k).2.direct = false := (moment_direct w k).trans h
      have hcounted : (w.counted k).direct = false :=
        (makeQueueProgress_direct _ _).trans hmoment
      have hchecked : (w.checked k).direct = false :=
        (makeQueueProgress_direct _ _).trans hcounted
      calc (w.moment (k + 1)).2.counter
          = (w.checked k).counter := by rw [moment_succ, makeQueueProgress_counter hchecked]
        _ = (w.counted k).counter := makeQueueProgress_counter hcounted _
        _ = (w.moment k).2.counter := makeQueueProgress_counter hmoment _
        _ = w.cntr.counter := ih

/-- What the tests of a round say: which of them ends the loop, and the counter then. -/
def left (w : Wait) (k : ℕ) : Exit × ℤ × DpaFidCntr :=
  if (w.moment k).1 = 0 then (.timeout, (w.moment k).1, (w.moment k).2)
  else if w.threshold ≤ (w.counted k).value then (.read, (w.moment k).1, w.counted k)
  else (.readerr, (w.moment k).1, w.checked k)

lemma waitTests_eq (w : Wait) (k : ℕ) :
    waitTests w.threshold (toInt w.start.errValue) (w.trace.rounds k) (w.moment k)
      = if w.Stops k then some (w.left k) else none := by
  have hread : (w.moment k).2.opsRead (w.trace.rounds k).read
      = ((w.counted k).value, w.counted k) := opsRead_eq _ _
  have herr : (w.counted k).opsReaderr (w.trace.rounds k).readerr
      = ((w.checked k).errValue, w.checked k) := opsReaderr_eq _ _
  simp only [waitTests, left, Stops, hread, herr, ← UInt64.not_le]
  by_cases htime : (w.moment k).1 = 0
  · simp [htime]
  · by_cases hvalue : w.threshold ≤ (w.counted k).value
    · simp [htime, hvalue]
    · by_cases hsame : (w.checked k).errValue = ofInt (toInt w.start.errValue) <;>
        simp [htime, hvalue, hsame]

/-- How a wait ends that is left in the round `k`. -/
def result (w : Wait) (k : ℕ) : Waited := settle w.threshold w.trace.last (w.left k)

/-- A wait that returns is left in the first round whose tests end the loop. -/
lemma run_eq_some_iff {fuel : ℕ} {r : Waited} :
    w.run fuel = some r ↔ ∃ k < fuel, w.StopsAt k ∧ w.result k = r := by
  have htests (k : ℕ) : waitTests w.threshold (toInt w.start.errValue) (w.trace.rounds k)
      (Until.path (fun k => waitBody (w.trace.rounds k)) (w.timeout, w.start) k)
        = if w.Stops k then some (w.left k) else none := waitTests_eq w k
  have hstop (k : ℕ) (l : Exit × ℤ × DpaFidCntr) :
      Until.FirstStop (fun k => waitBody (w.trace.rounds k))
          (fun k => waitTests w.threshold (toInt w.start.errValue) (w.trace.rounds k))
          (w.timeout, w.start) k l
        ↔ w.StopsAt k ∧ w.left k = l := by
    simp only [Until.FirstStop, htests, StopsAt]
    by_cases h : w.Stops k <;> simp [h, and_comm]
  rw [run, dpaCntrWait, opsReaderr_eq, Option.map_eq_some_iff]
  constructor
  · rintro ⟨l, hloop, rfl⟩
    obtain ⟨k, hk, hfirst⟩ := Until.run_eq_some_iff.1 hloop
    obtain ⟨hstops, rfl⟩ := (hstop k l).1 hfirst
    exact ⟨k, hk, hstops, rfl⟩
  · rintro ⟨k, hk, hstops, rfl⟩
    exact ⟨w.left k, Until.run_eq_some_iff.2 ⟨k, hk, (hstop k _).2 ⟨hstops, rfl⟩⟩, rfl⟩

lemma result_expired (h : (w.moment k).1 = 0) : w.result k
    = ⟨if (w.expired k).counter < w.threshold then .etimedout else .success, .timeout, 0,
      w.expired k⟩ := by
  rw [result, left, if_pos h, settle, h]
  rfl

lemma result_read (h : (w.moment k).1 ≠ 0) (hvalue : w.threshold ≤ (w.counted k).value) :
    w.result k = ⟨.success, .read, (w.moment k).1, w.counted k⟩ := by
  rw [result, left, if_neg h, if_pos hvalue, settle, if_neg h]

lemma result_readerr (h : (w.moment k).1 ≠ 0) (hvalue : ¬ w.threshold ≤ (w.counted k).value) :
    w.result k = ⟨.success, .readerr, (w.moment k).1, w.checked k⟩ := by
  rw [result, left, if_neg h, if_neg hvalue, settle, if_neg h]

/-! ### Truthful results -/

/-- A wait that succeeds has seen the threshold reached, one that times out has not when its time
is up, and one that is left for its errors has seen their count change. -/
structure Truthful (w : Wait) (r : Waited) : Prop where
  success : r.ret = .success → w.threshold ≤ r.cntr.value
  etimedout : r.ret = .etimedout → r.timeout = 0 ∧ r.cntr.value < w.threshold
  changed : r.exit = .readerr → r.cntr.errValue ≠ w.start.errValue

/-- What the round in which the loop ends should find.  If the time is up, the two fields of the
counter are on the same side of the threshold, unless there is only one.  Otherwise the counter has
reached the threshold, and if it was not seen to, the count of errors has changed. -/
def Fine (w : Wait) (k : ℕ) : Prop :=
  if (w.moment k).1 = 0 then
    w.cntr.direct = true ∨ (w.cntr.counter < w.threshold ↔ (w.expired k).value < w.threshold)
  else w.threshold ≤ (w.counted k).value
    ∨ w.threshold ≤ (w.checked k).value ∧ (w.checked k).errValue ≠ w.start.errValue

lemma truthful_expired (h : (w.moment k).1 = 0) :
    w.Truthful (w.result k) ↔ w.cntr.direct = true
      ∨ (w.cntr.counter < w.threshold ↔ (w.expired k).value < w.threshold) := by
  have hiff : w.Truthful (w.result k)
      ↔ ((w.expired k).counter < w.threshold ↔ (w.expired k).value < w.threshold) := by
    rw [result_expired h]
    by_cases hcounter : (w.expired k).counter < w.threshold
    · simp only [hcounter, if_true, true_iff]
      exact ⟨fun ht => (ht.etimedout rfl).2, fun hv => ⟨nofun, fun _ => ⟨rfl, hv⟩, nofun⟩⟩
    · simp only [hcounter, if_false, false_iff, UInt64.not_lt]
      exact ⟨fun ht => ht.success rfl, fun hv => ⟨fun _ => hv, nofun, nofun⟩⟩
  rw [hiff]
  have hdirect : (w.expired k).direct = w.cntr.direct :=
    (makeQueueProgress_direct _ _).trans (moment_direct w k)
  cases hd : w.cntr.direct with
  | true => simp [value, hdirect.trans hd]
  | false =>
      have hcounter : (w.expired k).counter = w.cntr.counter :=
        (makeQueueProgress_counter ((moment_direct w k).trans hd) _).trans (moment_counter hd k)
      rw [hcounter]
      simp

/-- For both kinds of counters, every threshold and timeout and all surroundings: whenever a wait
returns its result is truthful, if and only if the round in which the loop ends finds what it
should. -/
theorem wait_truthful (w : Wait) :
    (∀ fuel r, w.run fuel = some r → w.Truthful r) ↔ ∀ k, w.StopsAt k → w.Fine k := by
  have hround (k : ℕ) (hstops : w.StopsAt k) : w.Truthful (w.result k) ↔ w.Fine k := by
    rw [Fine]
    split
    case isTrue h => exact truthful_expired h
    case isFalse h =>
        by_cases hvalue : w.threshold ≤ (w.counted k).value
        · rw [result_read h hvalue]
          exact iff_of_true ⟨fun _ => hvalue, nofun, nofun⟩ (.inl hvalue)
        · rw [result_readerr h hvalue, or_iff_right hvalue]
          exact ⟨fun ht => ⟨ht.success rfl, ht.changed rfl⟩,
            fun hf => ⟨fun _ => hf.1, nofun, fun _ => hf.2⟩⟩
  constructor
  · intro htrue k hstops
    exact (hround k hstops).1
      (htrue (k + 1) _ (run_eq_some_iff.2 ⟨k, Nat.lt_succ_self k, hstops, rfl⟩))
  · intro hfine fuel r hrun
    obtain ⟨k, -, hstops, rfl⟩ := run_eq_some_iff.1 hrun
    exact (hround k hstops).2 (hfine k hstops)

/-- A round in which nothing is counted and all the time is left. -/
def quiet : Round := ⟨[], [], [], id⟩

/-- An error that is counted during the wait ends it with success, while the counter has not moved;
an atomic counter of five has not reached three when the time is up; and a wait with `2 ^ 31`
errors to begin with succeeds at once. -/
theorem wait_untruthful :
    let counted : Wait := ⟨dpaCntrOpen none true, 1, 5,
      ⟨[], fun _ => ⟨[], [.errInc], [], id⟩, []⟩⟩
    let reached : Wait := ⟨{ dpaCntrOpen none false with counterAtomic := 5 }, 3, 0,
      ⟨[], fun _ => quiet, []⟩⟩
    let many : Wait := ⟨{ dpaCntrOpen none true with err := 2 ^ 31 }, 1, 5,
      ⟨[], fun _ => quiet, []⟩⟩
    (∃ r, counted.run 1 = some r ∧ r.ret = .success ∧ ¬ counted.Truthful r)
      ∧ (∃ r, reached.run 1 = some r ∧ r.ret = .etimedout ∧ ¬ reached.Truthful r)
      ∧ ∃ r, many.run 1 = some r ∧ r.exit = .readerr ∧ ¬ many.Truthful r := by
  intro counted reached many
  refine ⟨⟨_, rfl, rfl, fun h => ?_⟩, ⟨_, rfl, rfl, fun h => ?_⟩, ⟨_, rfl, rfl, fun h => ?_⟩⟩
  · exact absurd (h.success rfl) (by decide)
  · exact absurd (h.etimedout rfl).2 (by decide)
  · exact h.changed rfl rfl

/-! ### Waits that come to an end -/

/-- A wait returns if the tests of some round end the loop. -/
lemma returns_iff : (∃ fuel r, w.run fuel = some r) ↔ ∃ k, w.Stops k := by
  have hloop : (∃ fuel l, Until.run (fun k => waitBody (w.trace.rounds k))
      (fun k => waitTests w.threshold (toInt w.start.errValue) (w.trace.rounds k)) fuel 0
      (w.timeout, w.start) = some l) ↔ _ := Until.returns_iff
  have htests (k : ℕ) : waitTests w.threshold (toInt w.start.errValue) (w.trace.rounds k)
      (Until.path (fun k => waitBody (w.trace.rounds k)) (w.timeout, w.start) k)
        = if w.Stops k then some (w.left k) else none := waitTests_eq w k
  simp only [htests, ite_eq_right_iff, reduceCtorEq, ne_eq, imp_false, not_not] at hloop
  rw [← hloop]
  simp only [run, dpaCntrWait, opsReaderr_eq, Option.map_eq_some_iff]
  constructor
  · rintro ⟨fuel, r, l, hl, -⟩
    exact ⟨fuel, l, hl⟩
  · rintro ⟨fuel, l, hl⟩
    exact ⟨fuel, _, l, hl, rfl⟩

/-- The wait returns, and every round of its loop uses up time. -/
structure InTime (w : Wait) : Prop where
  returns : ∃ fuel r, w.run fuel = some r
  consumes : ∀ k, (∀ j ≤ k, ¬ w.Stops j) → (w.moment (k + 1)).1 < (w.moment k).1

end Wait

/-- `wait_interrupt`, for what `DPAWaitForInterrupt` gives for a time, or for an infinite one. -/
def waitInterrupt (interrupt : Option Handle) (wait : Option ℤ → DpaError) (timeout : ℤ) :
    DpaError :=
  if interrupt.isNone then .ok else wait (if timeout < 0 then none else some timeout)

/-- A wait during which nothing is counted, with the progress function and the interrupts of an
endpoint, and what the waits for these give in each round. -/
def idle (c : DpaFidCntr) (threshold : UInt64) (timeout : ℤ) (p : QueueProgress)
    (interrupt : Direction → Option Handle) (waits : ℕ → Direction → Option ℤ → DpaError) :
    Wait where
  cntr := c
  threshold
  timeout
  trace :=
    { first := []
      rounds := fun k =>
        { read := []
          readerr := []
          progress := []
          remaining := fun timeout => (p.makeQueueProgress
            (fun dir => waitInterrupt (interrupt dir) (waits k dir)) timeout).1 }
      last := [] }

variable {timeout : ℤ}

lemma progressQueue_time (wait : ℤ → DpaError) (ep : Option ℕ) (dir : Direction) (timeout : ℤ) :
    (QueueProgress.progressQueue wait ep dir timeout).1
      = if wait timeout = .ok then timeout else 0 := by
  rw [QueueProgress.progressQueue]
  by_cases htime : timeout = 0
  · simp [htime]
  · rw [if_pos htime]
    cases wait timeout <;> simp

/-- The time is up for a progress function as soon as one of its waits does not succeed. -/
lemma makeQueueProgress_time (wait : Direction → ℤ → DpaError) (p : QueueProgress) (timeout : ℤ) :
    (p.makeQueueProgress wait timeout).1
      = if ∀ dir ∈ Bindings.directions p.func, wait dir timeout = .ok then timeout else 0 := by
  obtain ⟨func, arg⟩ := p
  cases func with
  | none => simp [QueueProgress.makeQueueProgress, Bindings.directions]
  | some func =>
      cases func with
      | progressSendQueue =>
          simp [QueueProgress.makeQueueProgress, QueueProgress.call, progressQueue_time,
            Bindings.directions]
      | progressRecvQueue =>
          simp [QueueProgress.makeQueueProgress, QueueProgress.call, progressQueue_time,
            Bindings.directions]
      | progressSendrecvQueues =>
          simp only [QueueProgress.makeQueueProgress, QueueProgress.call, progressQueue_time,
            Bindings.directions, List.forall_mem_cons, List.not_mem_nil, false_implies,
            implies_true, and_true]
          by_cases hsend : wait .send timeout = .ok
          · simp [hsend]
          · simp [hsend]

/-- A wait for an interrupt of the progress function ends without the interrupt. -/
def Elapses (p : QueueProgress) (interrupt : Direction → Option Handle)
    (wait : Direction → Option ℤ → DpaError) (timeout : ℤ) : Prop :=
  ∃ dir ∈ Bindings.directions p.func, (interrupt dir).isSome ∧ wait dir (some timeout) ≠ .ok

/-- The loop is not entered: the threshold is reached, or the count of errors is not that of an
`int`. -/
def Settled (c : DpaFidCntr) (threshold : UInt64) : Prop :=
  threshold ≤ c.value ∨ ¬ IsInt c.errValue

lemma waitInterrupt_eq_ok (interrupt : Option Handle) (wait : Option ℤ → DpaError)
    (hpos : 0 < timeout) :
    waitInterrupt interrupt wait timeout = .ok
      ↔ ¬ (interrupt.isSome ∧ wait (some timeout) ≠ .ok) := by
  rw [waitInterrupt, if_neg (not_lt.2 hpos.le)]
  cases interrupt <;> simp

section Idle

variable (c : DpaFidCntr) (threshold : UInt64) (p : QueueProgress)
  (interrupt : Direction → Option Handle) (waits : ℕ → Direction → Option ℤ → DpaError)

/-- Without an interrupt all the time is left, otherwise none. -/
lemma idle_remaining (hpos : 0 < timeout) (k : ℕ) :
    (((idle c threshold timeout p interrupt waits).trace.rounds k).remaining timeout = timeout
        ∧ ¬ Elapses p interrupt (waits k) timeout)
      ∨ ((idle c threshold timeout p interrupt waits).trace.rounds k).remaining timeout = 0
        ∧ Elapses p interrupt (waits k) timeout := by
  have hleft : ((idle c threshold timeout p interrupt waits).trace.rounds k).remaining timeout
      = if ∀ dir ∈ Bindings.directions p.func, waitInterrupt (interrupt dir) (waits k dir) timeout
          = .ok then timeout else 0 := makeQueueProgress_time _ p timeout
  have hiff : (∀ dir ∈ Bindings.directions p.func,
      waitInterrupt (interrupt dir) (waits k dir) timeout = .ok)
        ↔ ¬ Elapses p interrupt (waits k) timeout := by
    simp only [waitInterrupt_eq_ok _ _ hpos, Elapses, not_exists, not_and]
  rw [hleft]
  by_cases helapses : Elapses p interrupt (waits k) timeout
  · exact .inr ⟨if_neg (mt hiff.1 (not_not.2 helapses)), helapses⟩
  · exact .inl ⟨if_pos (hiff.2 helapses), helapses⟩

/-- Nothing is counted. -/
lemma idle_cntr (k : ℕ) : ((idle c threshold timeout p interrupt waits).moment k).2 = c := by
  induction k with
  | zero => rfl
  | succ k ih =>
      rw [Wait.moment_succ, Wait.checked, Wait.counted, ih]
      rfl

lemma idle_stops (k : ℕ) : (idle c threshold timeout p interrupt waits).Stops k
    ↔ ((idle c threshold timeout p interrupt waits).moment k).1 = 0 ∨ Settled c threshold := by
  have hcounted : (idle c threshold timeout p interrupt waits).counted k = c :=
    idle_cntr c threshold p interrupt waits k
  have hchecked : (idle c threshold timeout p interrupt waits).checked k = c := hcounted
  have hstart : (idle c threshold timeout p interrupt waits).start = c := rfl
  rw [Wait.Stops, Settled, hcounted, hchecked, hstart, ne_comm, ne_eq, ofInt_toInt_iff]
  rfl

/-- All the time is left until a wait ends without an interrupt. -/
lemma idle_time (hpos : 0 < timeout) (k : ℕ) :
    (((idle c threshold timeout p interrupt waits).moment k).1 = timeout
        ∧ ∀ j < k, ¬ Elapses p interrupt (waits j) timeout)
      ∨ (∃ j < k, Elapses p interrupt (waits j) timeout)
        ∧ ∃ j, ((idle c threshold timeout p interrupt waits).moment j).1 = 0 := by
  induction k with
  | zero => exact .inl ⟨rfl, nofun⟩
  | succ k ih =>
      rcases ih with ⟨htime, hbefore⟩ | ⟨⟨j, hj, helapses⟩, hzero⟩
      · rcases idle_remaining c threshold p interrupt waits hpos k with
          ⟨hkept, hnot⟩ | ⟨hnone, helapses⟩
        · refine .inl ⟨by rw [Wait.moment_succ, htime, hkept], fun j hj => ?_⟩
          obtain hlt | rfl := Nat.lt_succ_iff_lt_or_eq.1 hj
          · exact hbefore j hlt
          · exact hnot
        · exact .inr ⟨⟨k, Nat.lt_succ_self k, helapses⟩, k + 1,
            by rw [Wait.moment_succ, htime, hnone]⟩
      · exact .inr ⟨⟨j, hj.trans (Nat.lt_succ_self k), helapses⟩, hzero⟩

lemma idle_returns_iff (hpos : 0 < timeout) :
    (∃ fuel r, (idle c threshold timeout p interrupt waits).run fuel = some r)
      ↔ Settled c threshold ∨ ∃ k, Elapses p interrupt (waits k) timeout := by
  rw [Wait.returns_iff]
  simp only [idle_stops]
  constructor
  · rintro ⟨k, hzero | hsettled⟩
    · rcases idle_time c threshold p interrupt waits hpos k with ⟨htime, -⟩ | ⟨⟨j, -, helapses⟩, -⟩
      · exact absurd (htime.symm.trans hzero) hpos.ne'
      · exact .inr ⟨j, helapses⟩
    · exact .inl hsettled
  · rintro (hsettled | ⟨k, helapses⟩)
    · exact ⟨0, .inr hsettled⟩
    · rcases idle_time c threshold p interrupt waits hpos (k + 1) with ⟨-, hbefore⟩ | ⟨-, j, hzero⟩
      · exact absurd helapses (hbefore k (Nat.lt_succ_self k))
      · exact ⟨j, .inl hzero⟩

end Idle

/-- For every counter, progress function, interrupt, threshold and positive timeout: a wait during
which nothing is counted returns if and only if its loop is not entered or some wait for an
interrupt ends without it, and every round uses up time as well if and only if the first one
does. -/
theorem wait_ends (c : DpaFidCntr) (threshold : UInt64) (hpos : 0 < timeout) (p : QueueProgress)
    (interrupt : Direction → Option Handle) (waits : ℕ → Direction → Option ℤ → DpaError) :
    ((∃ fuel r, (idle c threshold timeout p interrupt waits).run fuel = some r)
        ↔ Settled c threshold ∨ ∃ k, Elapses p interrupt (waits k) timeout)
      ∧ ((idle c threshold timeout p interrupt waits).InTime
        ↔ Settled c threshold ∨ Elapses p interrupt (waits 0) timeout) := by
  refine ⟨idle_returns_iff c threshold p interrupt waits hpos, ?_⟩
  have hstops := @idle_stops timeout c threshold p interrupt waits
  have hreturns := idle_returns_iff c threshold p interrupt waits hpos
  have hfirst := idle_remaining c threshold p interrupt waits hpos 0
  have hnext : ((idle c threshold timeout p interrupt waits).moment 1).1
      = ((idle c threshold timeout p interrupt waits).trace.rounds 0).remaining timeout := rfl
  rw [← hnext] at hfirst
  constructor
  · intro htime
    by_contra hnot
    rw [not_or] at hnot
    rcases hfirst with ⟨hkept, -⟩ | ⟨-, helapses⟩
    · have hentered : ∀ j ≤ 0, ¬ (idle c threshold timeout p interrupt waits).Stops j := by
        intro j hj
        obtain rfl := Nat.le_zero.1 hj
        rw [hstops, not_or]
        exact ⟨hpos.ne', hnot.1⟩
      exact absurd (htime.consumes 0 hentered) hkept.not_lt
    · exact hnot.2 helapses
  · rintro (hsettled | helapses)
    · exact ⟨hreturns.2 (.inl hsettled),
        fun k hk => absurd ((hstops 0).2 (.inr hsettled)) (hk 0 (Nat.zero_le k))⟩
    · rcases hfirst with ⟨-, hnot⟩ | ⟨hzero, -⟩
      · exact absurd helapses hnot
      · refine ⟨hreturns.2 (.inr ⟨0, helapses⟩), fun k hk => ?_⟩
        cases k with
        | zero => rwa [hzero]
        | succ k => exact absurd ((hstops 1).2 (.inl hzero)) (hk 1 (by omega))

/-- With an interrupt for the sends, the wait for which times out. -/
theorem wait_ends_timedOut :
    (idle (dpaCntrOpen none true) 1 10 ⟨some .progressSendQueue, some 0⟩ (fun _ => some 0)
      fun _ _ _ => .timeout).InTime :=
  (wait_ends _ 1 (by simp) _ _ _).2.2
    (.inr ⟨.send, List.mem_singleton_self _, rfl, by simp⟩)

/-- Without a progress function a wait of ten milliseconds for the counter never returns. -/
theorem wait_endless :
    ¬ ∃ fuel r, (idle (dpaCntrOpen none true) 1 10 ⟨none, none⟩ (fun _ => none)
      fun _ _ _ => .timeout).run fuel = some r := by
  rw [idle_returns_iff _ _ _ _ _ (by simp)]
  rintro (hsettled | ⟨-, dir, hdir, -⟩)
  · rcases hsettled with hle | hint
    · exact absurd hle (by decide)
    · exact hint (.inl (by decide))
  · exact absurd hdir List.not_mem_nil

end DpaFidCntr

end DpaProvider
