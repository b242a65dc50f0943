import DpaProvider.Cq.Progress
import DpaProvider.Msg.Pair

/-!
Two applications that read their completion queues.

Each application posts operations to its endpoint and reads the completion queues that are bound to
it.  With manual progress a read processes the queues of the endpoint before it looks for entries.

* `Apps.step`: a call or a read on either side;
* `Act.calls`: the calls that an action makes on the endpoint;
* `run_shelved`: with the entries that have been read put back, a run of the applications is one of
  the two endpoints, which makes the calls of all actions.
-/

namespace DpaProvider

/-! ### The entries put back -/

namespace Host

variable {events errors : ℕ → List CqErrEntry}

/-- The endpoint with entries put back before those in its completion queues. -/
def shelved (h : Host) (events errors : ℕ → List CqErrEntry) : Host :=
  { h with
    cqs := fun q =>
      { h.cqs q with
        eventQueue := events q ++ (h.cqs q).eventQueue
        errorQueue := errors q ++ (h.cqs q).errorQueue } }

/-- New entries go to the end. -/
lemma complete_shelved (h : Host) (c : Completed) :
    (h.shelved events errors).complete c = (h.complete c).shelved events errors := by
  have hcqs : ((h.shelved events errors).complete c).cqs
      = ((h.complete c).shelved events errors).cqs := by
    funext q
    by_cases hq : h.ep.cq c.dir = some q <;> by_cases herr : c.err = .success <;>
      simp [complete_cqs, shelved, cqAdd, hq, herr]
  rw [show (h.shelved events errors).complete c
    = { (h.complete c).shelved events errors with
        cqs := ((h.shelved events errors).complete c).cqs } from rfl, hcqs]

lemma trySend_shelved (h : Host) (e : MsgQueueEntry) :
    (h.shelved events errors).trySend e
      = (h.trySend e).map fun r => (r.1, r.2.shelved events errors) := by
  rw [trySend, trySend, show (h.shelved events errors).ep = h.ep from rfl,
    show (h.shelved events errors).mem = h.mem from rfl]
  cases hstatus : h.ep.sendInfo.remoteStatus with
  | none => rfl
  | some status =>
      dsimp only
      split
      case isTrue => rfl
      case isFalse =>
          cases hbuffer : h.ep.sendInfo.remoteBuffer with
          | none => rfl
          | some buffer =>
              simp only [Except.map, ← complete_shelved]
              rfl

lemma tryRecv_shelved (h : Host) (e : MsgQueueEntry) :
    (h.shelved events errors).tryRecv e
      = (h.tryRecv e).map fun r => (r.1, r.2.shelved events errors) := by
  rw [tryRecv, tryRecv, show (h.shelved events errors).ep = h.ep from rfl,
    show (h.shelved events errors).mem = h.mem from rfl]
  cases hbuffer : h.ep.recvInfo.buffer with
  | none => rfl
  | some buffer =>
      dsimp only
      split
      case isTrue => rfl
      case isFalse =>
          cases hstatus : h.ep.recvInfo.remoteStatus with
          | none => rfl
          | some status =>
              simp only [Except.map, ← complete_shelved]
              rfl

/-- An attempt does not look at the completion queues. -/
lemma attempt_shelved (h : Host) (dir : Direction) (e : MsgQueueEntry) :
    (h.shelved events errors).attempt dir e
      = (h.attempt dir e).map fun r => (r.1, r.2.shelved events errors) := by
  cases dir with
  | send =>
      rw [attempt, attempt, trySend_shelved]
      cases h.trySend e <;> rfl
  | recv =>
      rw [attempt, attempt, tryRecv_shelved]
      cases h.tryRecv e <;> rfl

lemma lockIfNeeded_shelved (h : Host) (dir : Direction) :
    (h.shelved events errors).lockIfNeeded dir
      = (h.lockIfNeeded dir).map (·.shelved events errors) := by
  rw [lockIfNeeded, lockIfNeeded, show (h.shelved events errors).ep = h.ep from rfl,
    show (h.shelved events errors).queue dir = h.queue dir from rfl]
  split
  · split <;> rfl
  · rfl

lemma unlockIfNeeded_shelved (h : Host) (dir : Direction) :
    (h.shelved events errors).unlockIfNeeded dir
      = (h.unlockIfNeeded dir).shelved events errors := by
  rw [unlockIfNeeded, unlockIfNeeded, show (h.shelved events errors).ep = h.ep from rfl]
  split <;> rfl

lemma post_shelved (h : Host) (dir : Direction) (mayTry : Bool) (e : MsgQueueEntry) :
    (h.shelved events errors).post dir mayTry e
      = (h.post dir mayTry e).map (·.shelved events errors) := by
  rw [post, post, lockIfNeeded_shelved]
  cases h.lockIfNeeded dir with
  | error err => rfl
  | ok h₁ =>
      have hattempt : (h₁.shelved events errors).firstAttempt dir mayTry e
          = (h₁.firstAttempt dir mayTry e).map fun r => (r.1, r.2.shelved events errors) := by
        rw [firstAttempt, firstAttempt, attempt_shelved,
          show (h₁.shelved events errors).queue dir = h₁.queue dir from rfl]
        split <;> rfl
      simp only [Except.map, bind, Except.bind, hattempt]
      cases h₁.firstAttempt dir mayTry e with
      | error err => rfl
      | ok r =>
          dsimp only
          split
          · exact congrArg Except.ok
              (unlockIfNeeded_shelved (r.2.setQueue dir ((r.2.queue dir).enqueue e)) dir)
          · rfl

lemma drain_shelved (done : FiErr → Bool) (dir : Direction) (nodes : List ℕ) (h : Host) :
    drain done dir nodes (h.shelved events errors)
      = (drain done dir nodes h).map (·.shelved events errors) := by
  induction nodes generalizing h with
  | nil => rfl
  | cons node rest ih =>
      rw [drain, drain, attempt_shelved]
      change (Except.map _ (h.attempt dir ((h.queue dir).nodes node)) >>= _) = _
      cases h.attempt dir ((h.queue dir).nodes node) with
      | error err => rfl
      | ok r =>
          simp only [Except.map, bind, Except.bind]
          split
          · exact ih (r.2.setQueue dir (r.2.queue dir).pop)
          · rfl

lemma processQueue_shelved (h : Host) (done : FiErr → Bool) (dir : Direction) (locked : Bool) :
    (h.shelved events errors).processQueue done dir locked
      = (h.processQueue done dir locked).map (·.shelved events errors) := by
  rw [processQueue, processQueue, show (h.shelved events errors).ep = h.ep from rfl,
    show (h.shelved events errors).queue dir = h.queue dir from rfl]
  split
  · cases locked
    · rfl
    · exact congrArg Except.ok (unlockIfNeeded_shelved h dir)
  · split
    · rfl
    · have hlock : (h.shelved events errors).lockUnless locked dir
          = (h.lockUnless locked dir).map (·.shelved events errors) := by
        rw [lockUnless, lockUnless, lockIfNeeded_shelved]
        split <;> rfl
      rw [hlock]
      cases h.lockUnless locked dir with
      | error err => rfl
      | ok h₁ =>
          simp only [Except.map, bind, Except.bind]
          rw [show (h₁.shelved events errors).queue dir = h₁.queue dir from rfl, drain_shelved]
          cases drain done dir (h₁.queue dir).entries h₁ with
          | error err => rfl
          | ok h₂ => exact congrArg Except.ok (unlockIfNeeded_shelved h₂ dir)

/-- A call does with the entries put back what it does without them. -/
lemma call_shelved (h : Host) (c : Call) :
    (h.shelved events errors).call c = (h.call c).map (·.shelved events errors) := by
  have hact : (h.shelved events errors).act c.action
      = (h.act c.action).map (·.shelved events errors) := by
    cases c.action with
    | post dir e =>
        rw [act, show (h.shelved events errors).mayTry dir = h.mayTry dir by cases dir <;> rfl]
        exact post_shelved h dir _ e
    | process dir locked => exact processQueue_shelved h _ dir locked
    | reject => rfl
  rw [call_eq_act, call_eq_act, hact]
  cases h.act c.action <;> rfl

end Host

/-- Two endpoints, and the entries that the applications have read off their completion queues, the
successful ones and the others. -/
structure Apps where
  pair : Pair
  events : Bool → ℕ → List CqErrEntry
  errors : Bool → ℕ → List CqErrEntry

namespace Apps

open Host

/-- What an application does. -/
inductive Act where
  | call (side : Bool) (c : Call)
  /-- One pass of `dpa_cq_sreadfrom`, the first of which has no timeout.  `wait` gives the statuses
  of the interrupts. -/
  | read (side : Bool) (q count : ℕ) (wait : Direction → ℤ → DpaError) (timeout : ℤ)
  | readerr (side : Bool) (q : ℕ)

/-- The call of a `progress_queue`. -/
def processing : Direction → Call
  | .send => .processSendQueue false
  | .recv => .processRecvQueue false

/-- The calls of an action.  The completion queues make the progress of the endpoint of their
side. -/
def Act.calls (prog : Bool → ℕ → QueueProgress) : Act → List (Bool × Call)
  | .call side c => [(side, c)]
  | .read side q _ wait timeout =>
      ((prog side q).makeQueueProgress wait timeout).2.map fun c => (side, processing c.2)
  | .readerr .. => []

/-- The entries that a read of a completion queue returns, successful ones and others, and what it
leaves in the queue. -/
structure CqRead where
  events : List CqErrEntry
  errors : List CqErrEntry
  left : CompletionQueue

/-- `cq_read_priv` of the event queue. -/
def readEvents (count : ℕ) (cq : CompletionQueue) : CqRead where
  events := cq.eventQueue.take count
  errors := []
  left := { cq with eventQueue := cq.eventQueue.drop count }

/-- `cq_read_priv` of the error queue. -/
def readErrors (count : ℕ) (cq : CompletionQueue) : CqRead where
  events := []
  errors := cq.errorQueue.take count
  left := { cq with errorQueue := cq.errorQueue.drop count }

/-- A read of a completion queue. -/
def reading (a : Apps) (side : Bool) (q : ℕ) (read : CompletionQueue → CqRead) : Apps :=
  let h := a.pair.host side
  let r := read (h.cqs q)
  { pair :=
      { a.pair with
        host := Function.update a.pair.host side
          { h with cqs := Function.update h.cqs q r.left } }
    events := Function.update a.events side
      (Function.update (a.events side) q (a.events side q ++ r.events))
    errors := Function.update a.errors side
      (Function.update (a.errors side) q (a.errors side q ++ r.errors)) }

/-- What an action reads, after its calls. -/
def take (a : Apps) : Act → Apps
  | .call .. => a
  | .read side q count _ _ => a.reading side q (readEvents count)
  | .readerr side q => a.reading side q (readErrors 1)

/-- An action; none if a call of it does not return. -/
def step (prog : Bool → ℕ → QueueProgress) (a : Apps) (act : Act) : Option Apps :=
  (Stepper.run Pair.call a.pair (act.calls prog)).map fun pair => { a with pair }.take act

/-- The endpoints with the entries put back. -/
def shelved (a : Apps) : Pair where
  host side := (a.pair.host side).shelved (a.events side) (a.errors side)
  mem := a.pair.mem

variable {prog : Bool → ℕ → QueueProgress} {a b : Apps}

lemma call_shelved (a : Apps) (c : Bool × Call) :
    Pair.call a.shelved c = (Pair.call a.pair c).map fun pair => { a with pair }.shelved := by
  have hfocus : a.shelved.focus c.1 = (a.pair.focus c.1).shelved (a.events c.1) (a.errors c.1) :=
    rfl
  rw [Pair.call, Pair.call, hfocus, Host.call_shelved]
  cases (a.pair.focus c.1).call c.2 with
  | none => rfl
  | some h =>
      refine congrArg some (congrArg (Pair.mk · h.mem) (funext fun side => ?_))
      by_cases hside : side = c.1
      · subst hside
        simp only [shelved, Function.update_self]
      · simp only [shelved, Function.update_of_ne hside]

lemma calls_shelved (a : Apps) (calls : List (Bool × Call)) :
    Stepper.run Pair.call a.shelved calls
      = (Stepper.run Pair.call a.pair calls).map fun pair => { a with pair }.shelved := by
  induction calls generalizing a with
  | nil => rfl
  | cons c calls ih =>
      rw [Stepper.run_cons, Stepper.run_cons, call_shelved]
      cases Pair.call a.pair c with
      | none => rfl
      | some pair => exact ih { a with pair }

/-- A read moves entries from the head of a queue to what has been read. -/
lemma shelved_reading (a : Apps) (side : Bool) (q : ℕ) {read : CompletionQueue → CqRead}
    (hread : ∀ cq, (read cq).events ++ (read cq).left.eventQueue = cq.eventQueue
      ∧ (read cq).errors ++ (read cq).left.errorQueue = cq.errorQueue
      ∧ (read cq).left.waitObj = cq.waitObj) : (a.reading side q read).shelved = a.shelved := by
  refine congrArg (Pair.mk · a.pair.mem) (funext fun s => ?_)
  by_cases hs : s = side
  · subst hs
    simp only [reading, Function.update_self, Host.shelved]
    congr 1
    funext k
    by_cases hk : k = q
    · subst hk
      obtain ⟨hevents, herrors, hwait⟩ := hread ((a.pair.host s).cqs k)
      simp only [Function.update_self, List.append_assoc, hevents, herrors, hwait]
    · simp only [Function.update_of_ne hk]
  · simp only [reading, Function.update_of_ne hs]

lemma shelved_take (a : Apps) (act : Act) : (a.take act).shelved = a.shelved := by
  cases act with
  | call side c => rfl
  | read side q count wait timeout =>
      exact a.shelved_reading side q fun cq => ⟨List.take_append_drop _ _, rfl, rfl⟩
  | readerr side q =>
      exact a.shelved_reading side q fun cq => ⟨rfl, List.take_append_drop _ _, rfl⟩

/-- A run of the applications is one of the endpoints. -/
theorem run_shelved (a : Apps) (acts : List Act) :
    Stepper.run Pair.call a.shelved (acts.flatMap (Act.calls prog))
      = (Stepper.run (step prog) a acts).map shelved := by
  induction acts generalizing a with
  | nil => rfl
  | cons act acts ih =>
      rw [List.flatMap_cons, Stepper.run_append, Stepper.run_cons, calls_shelved, step]
      cases Stepper.run Pair.call a.pair (act.calls prog) with
      | none => rfl
      | some pair =>
          have hrest := ih ({ a with pair }.take act)
          rwa [shelved_take] at hrest

end Apps

end DpaProvider
