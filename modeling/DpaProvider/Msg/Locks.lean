import DpaProvider.Library.Stepper
import DpaProvider.Msg.Accounting

/-!
The lock of a message queue.

`lockIfNeeded` and `unlockIfNeeded` change the state of the lock; here they also leave a trace,
so that a release without an acquisition shows.

* `tracedPost`, `tracedProcess`: `_dpa_send`, `_dpa_recv`, `process_send_queue` and
  `process_recv_queue` with their traces; `snd_tracedAct` says that nothing else has changed;
* `attempt_cases`: when an attempt follows a null pointer, asks for a retry, or succeeds;
* `balanced_iff`: a call returns with the lock released exactly unless it is a post that succeeds
  at once, or it follows a null pointer;
* `lock_balance`: in every sequence of other calls none blocks.
-/

namespace DpaProvider

open ByteMem

/-- The operations on a lock. -/
inductive LockOp where
  | acquire
  | release
  deriving DecidableEq, Repr

/-- Whether the lock is held after a sequence of operations; none if a held lock is acquired, or a
free one released. -/
def LockOp.run : Bool → List LockOp → Option Bool
  | held, [] => some held
  | false, .acquire :: rest => run true rest
  | true, .release :: rest => run false rest
  | true, .acquire :: _ => none
  | false, .release :: _ => none

namespace Host

variable {h h' g : Host} {dir : Direction} {e : MsgQueueEntry}

/-! ### The calls with their traces -/

/-- The operation of a lock, if locks are needed. -/
def lockOps (h : Host) (op : LockOp) : List LockOp := if h.ep.lockNeeded then [op] else []

/-- `lock_if_needed`. -/
def tracedLock (h : Host) (dir : Direction) : Except Stuck (List LockOp × Host) :=
  (h.lockIfNeeded dir).map (h.lockOps .acquire, ·)

/-- `unlock_if_needed`. -/
def tracedUnlock (h : Host) (dir : Direction) : List LockOp × Host :=
  (h.lockOps .release, h.unlockIfNeeded dir)

/-- `_dpa_msg_enqueue`. -/
def tracedEnqueue (h : Host) (dir : Direction) (e : MsgQueueEntry) : List LockOp × Host :=
  (h.setQueue dir ((h.queue dir).enqueue e)).tracedUnlock dir

/-- `_dpa_send` and `_dpa_recv`. -/
def tracedPost (h : Host) (dir : Direction) (mayTry : Bool) (e : MsgQueueEntry) :
    Except Stuck (List LockOp × Host) := do
  let (locked, h) ← h.tracedLock dir
  let r ← h.firstAttempt dir mayTry e
  if r.1 = .eagain then
    let (unlocked, h) := r.2.tracedEnqueue dir e
    .ok (locked ++ unlocked, h)
  else .ok (locked, r.2)

/-- The lock that a caller may already hold. -/
def tracedLockUnless (h : Host) (locked : Bool) (dir : Direction) :
    Except Stuck (List LockOp × Host) :=
  if locked then .ok ([], h) else h.tracedLock dir

/-- `process_send_queue` and `process_recv_queue`. -/
def tracedProcess (h : Host) (done : FiErr → Bool) (dir : Direction) (locked : Bool) :
    Except Stuck (List LockOp × Host) :=
  if !h.ep.connected then .ok (if locked then h.tracedUnlock dir else ([], h))
  else if !locked && (h.queue dir).isEmpty then .ok ([], h)
  else do
    let (ops, h) ← h.tracedLockUnless locked dir
    let h ← drain done dir (h.queue dir).entries h
    let (unlocked, h) := h.tracedUnlock dir
    .ok (ops ++ unlocked, h)

/-- A call. -/
def tracedAct (h : Host) : Action → Except Stuck (List LockOp × Host)
  | .post dir e => h.tracedPost dir (h.mayTry dir) e
  | .process dir locked => h.tracedProcess (goesOn dir) dir locked
  | .reject => .ok ([], h)

/-- Without its trace, a call is the call. -/
lemma snd_tracedAct (h : Host) (a : Action) : (h.tracedAct a).map Prod.snd = h.act a := by
  cases a with
  | post dir e =>
      rw [tracedAct, act, tracedPost, post, tracedLock]
      cases h.lockIfNeeded dir with
      | error err => rfl
      | ok h₁ =>
          simp only [Except.map, bind, Except.bind]
          cases h₁.firstAttempt dir (h.mayTry dir) e with
          | error err => rfl
          | ok r =>
              dsimp only
              by_cases herr : r.1 = .eagain
              · simp only [herr, if_true]
                rfl
              · simp only [herr, if_false]
  | process dir locked =>
      rw [tracedAct, act, tracedProcess, processQueue]
      split
      case isTrue => cases locked <;> rfl
      case isFalse =>
          split
          case isTrue => rfl
          case isFalse =>
              rw [tracedLockUnless, lockUnless, tracedLock]
              have hloop (ops : List LockOp) (h₁ : Host) :
                  ((drain (goesOn dir) dir (h₁.queue dir).entries h₁).map
                      fun h₂ =>
                        (ops ++ (h₂.tracedUnlock dir).1, (h₂.tracedUnlock dir).2)).map Prod.snd
                    = (drain (goesOn dir) dir (h₁.queue dir).entries h₁).map
                      (·.unlockIfNeeded dir) := by
                cases drain (goesOn dir) dir (h₁.queue dir).entries h₁ <;> rfl
              cases locked with
              | true => exact hloop [] h
              | false =>
                  cases hlock : h.lockIfNeeded dir with
                  | error err => rfl
                  | ok h₁ => exact hloop (h.lockOps .acquire) h₁
  | reject => rfl

/-! ### What an attempt does -/

/-- There is no space for the message, or nothing to receive. -/
def Retries (h : Host) (e : MsgQueueEntry) : Direction → Prop
  | .send => ∃ status, h.ep.sendInfo.remoteStatus = some status
      ∧ remoteSpace (h.mem status).read h.ep.sendInfo.write h.ep.sendInfo.size < e.len + bufferWord
  | .recv => ∃ buffer, h.ep.recvInfo.buffer = some buffer
      ∧ loadWord (h.mem buffer.base).data
        (dataPtr h.ep.recvInfo.read buffer.recvBufferSize).toNat ≤ 0

/-- The pointers that an attempt follows are set: the first one always, the second one once there
is space, or something to receive. -/
def Reaches (h : Host) (e : MsgQueueEntry) : Direction → Prop
  | .send => h.ep.sendInfo.remoteStatus.isSome
      ∧ (h.Retries e .send ∨ h.ep.sendInfo.remoteBuffer.isSome)
  | .recv => h.ep.recvInfo.buffer.isSome
      ∧ (h.Retries e .recv ∨ h.ep.recvInfo.remoteStatus.isSome)

/-- Both pointers of a direction are set. -/
def Bound (h : Host) : Direction → Prop
  | .send => h.ep.sendInfo.remoteStatus.isSome ∧ h.ep.sendInfo.remoteBuffer.isSome
  | .recv => h.ep.recvInfo.buffer.isSome ∧ h.ep.recvInfo.remoteStatus.isSome

/-- The two states agree on the queues and on whether locks are needed. -/
structure SameLocks (h g : Host) : Prop where
  lockNeeded : g.ep.lockNeeded = h.ep.lockNeeded
  locked : ∀ d, (g.queue d).locked = (h.queue d).locked

lemma SameLocks.refl (h : Host) : SameLocks h h := ⟨rfl, fun _ => rfl⟩

lemma SameLocks.trans {k : Host} (h₁ : SameLocks h g) (h₂ : SameLocks g k) : SameLocks h k :=
  ⟨h₂.lockNeeded.trans h₁.lockNeeded, fun d => (h₂.locked d).trans (h₁.locked d)⟩

lemma Retries.reaches (hr : h.Retries e dir) : h.Reaches e dir := by
  cases dir with
  | send =>
      obtain ⟨status, hstatus, -⟩ := id hr
      exact ⟨by rw [hstatus]; rfl, .inl hr⟩
  | recv =>
      obtain ⟨buffer, hbuffer, -⟩ := id hr
      exact ⟨by rw [hbuffer]; rfl, .inl hr⟩

lemma Bound.reaches (hb : h.Bound dir) (e : MsgQueueEntry) : h.Reaches e dir := by
  cases dir with
  | send => exact ⟨hb.1, .inr hb.2⟩
  | recv => exact ⟨hb.1, .inr hb.2⟩

/-- An attempt that reaches its buffers asks for a retry, or succeeds. -/
lemma attempt_reaches (hreach : h.Reaches e dir) :
    (h.Retries e dir ∧ ∃ g, h.attempt dir e = .ok (.eagain, g) ∧ SameLocks h g)
      ∨ (¬ h.Retries e dir ∧ ∃ g, h.attempt dir e = .ok (.success, g) ∧ SameLocks h g
        ∧ g.Bound dir) := by
  cases dir with
  | send =>
      obtain ⟨status, hstatus⟩ := Option.isSome_iff_exists.1 hreach.1
      simp only [attempt, trySend, hstatus]
      by_cases hspace : remoteSpace (h.mem status).read h.ep.sendInfo.write h.ep.sendInfo.size
          < e.len + bufferWord
      · simp only [hspace, if_true]
        exact .inl ⟨⟨status, hstatus, hspace⟩, _, rfl, rfl, fun _ => rfl⟩
      · have hnot : ¬ h.Retries e .send := by
          rintro ⟨status', hstatus', hless⟩
          obtain rfl : status = status' := Option.some.inj (hstatus.symm.trans hstatus')
          exact hspace hless
        obtain ⟨buffer, hbuffer⟩ := Option.isSome_iff_exists.1 (hreach.2.resolve_left hnot)
        simp only [hspace, if_false, hbuffer]
        exact .inr ⟨hnot, _, rfl, ⟨rfl, fun _ => rfl⟩, hreach.1, by
          simp [complete, trigger, setRing,
          access, hbuffer]⟩
  | recv =>
      obtain ⟨buffer, hbuffer⟩ := Option.isSome_iff_exists.1 hreach.1
      simp only [attempt, tryRecv, hbuffer]
      by_cases hempty : loadWord (h.mem buffer.base).data
          (dataPtr h.ep.recvInfo.read buffer.recvBufferSize).toNat ≤ 0
      · simp only [hempty, if_true]
        exact .inl ⟨⟨buffer, hbuffer, hempty⟩, _, rfl, rfl, fun _ => rfl⟩
      · have hnot : ¬ h.Retries e .recv := by
          rintro ⟨buffer', hbuffer', hle⟩
          obtain rfl : buffer = buffer' := Option.some.inj (hbuffer.symm.trans hbuffer')
          exact hempty hle
        obtain ⟨status, hstatus⟩ := Option.isSome_iff_exists.1 (hreach.2.resolve_left hnot)
        simp only [hempty, if_false, hstatus]
        exact .inr ⟨hnot, _, rfl, ⟨rfl, fun _ => rfl⟩, hreach.1, by
          simp [complete, trigger, setRing,
          setStatus, access, hstatus]⟩

/-- Any other attempt follows a null pointer. -/
lemma attempt_dangles (hreach : ¬ h.Reaches e dir) : h.attempt dir e = .error .nullPointer := by
  cases dir with
  | send =>
      simp only [attempt, trySend]
      cases hstatus : h.ep.sendInfo.remoteStatus with
      | none => rfl
      | some status =>
          dsimp only
          have hnot : ¬ (h.Retries e .send ∨ h.ep.sendInfo.remoteBuffer.isSome = true) :=
            fun hor => hreach ⟨by rw [hstatus]; rfl, hor⟩
          have hspace : ¬ remoteSpace (h.mem status).read h.ep.sendInfo.write h.ep.sendInfo.size
              < e.len + bufferWord := fun hless => hnot (.inl ⟨status, hstatus, hless⟩)
          have hbuffer : h.ep.sendInfo.remoteBuffer = none := by
            simpa using fun hb => hnot (.inr hb)
          simp only [hspace, if_false, hbuffer]
          rfl
  | recv =>
      simp only [attempt, tryRecv]
      cases hbuffer : h.ep.recvInfo.buffer with
      | none => rfl
      | some buffer =>
          dsimp only
          have hnot : ¬ (h.Retries e .recv ∨ h.ep.recvInfo.remoteStatus.isSome = true) :=
            fun hor => hreach ⟨by rw [hbuffer]; rfl, hor⟩
          have hempty : ¬ loadWord (h.mem buffer.base).data
              (dataPtr h.ep.recvInfo.read buffer.recvBufferSize).toNat ≤ 0 :=
            fun hle => hnot (.inl ⟨buffer, hbuffer, hle⟩)
          have hstatus : h.ep.recvInfo.remoteStatus = none := by
            simpa using fun hb => hnot (.inr hb)
          simp only [hempty, if_false, hstatus]
          rfl

/-! ### The parts of a call -/

lemma sameLocks_setQueue (h : Host) (dir : Direction) {q : MsgQueue}
    (hq : q.locked = (h.queue dir).locked) : SameLocks h (h.setQueue dir q) where
  lockNeeded := rfl
  locked := by
    intro d
    by_cases hd : d = dir
    · subst hd
      rw [queue_setQueue, hq]
    · rw [queue_setQueue_of_ne h hd]

/-- A round of a loop whose head reaches its buffers ends the loop, or leaves an endpoint that is
bound to do the rest. -/
lemma drain_round {node : ℕ} (rest : List ℕ) (hreach : h.Reaches ((h.queue dir).nodes node) dir) :
    (∃ g, drain (goesOn dir) dir (node :: rest) h = .ok g ∧ SameLocks h g)
      ∨ ∃ g, drain (goesOn dir) dir (node :: rest) h = drain (goesOn dir) dir rest g
        ∧ SameLocks h g ∧ g.Bound dir := by
  rcases attempt_reaches hreach with ⟨-, g, hg, hsame⟩ | ⟨-, g, hg, hsame, hbound⟩
  · exact .inl ⟨g, by simp [drain, hg, bind, Except.bind, goesOn_eagain], hsame⟩
  · have hnext : (g.setQueue dir (g.queue dir).pop).Bound dir := by cases dir <;> exact hbound
    have hpop : SameLocks g (g.setQueue dir (g.queue dir).pop) := g.sameLocks_setQueue dir rfl
    exact .inr ⟨_, by simp [drain, hg, bind, Except.bind, goesOn_success], hsame.trans hpop, hnext⟩

/-- So a loop whose first attempt reaches its buffers returns. -/
lemma drain_returns {node : ℕ} (rest : List ℕ)
    (hreach : h.Reaches ((h.queue dir).nodes node) dir) :
    ∃ g, drain (goesOn dir) dir (node :: rest) h = .ok g ∧ SameLocks h g := by
  induction rest generalizing h node with
  | nil =>
      rcases drain_round [] hreach with hdone | ⟨g, hround, hsame, -⟩
      · exact hdone
      · exact ⟨g, hround, hsame⟩
  | cons next rest ih =>
      rcases drain_round (next :: rest) hreach with hdone | ⟨g, hround, hsame, hbound⟩
      · exact hdone
      · obtain ⟨k, hk, hsame'⟩ := ih (hbound.reaches _)
        exact ⟨k, hround.trans hk, hsame.trans hsame'⟩

/-- The endpoint that holds the lock of a queue. -/
def holding (h : Host) (dir : Direction) : Host := h.setQueue dir ((h.queue dir).setLocked true)

lemma tracedLock_free (hneed : h.ep.lockNeeded = true) (hfree : (h.queue dir).locked = false) :
    h.tracedLock dir = .ok ([.acquire], h.holding dir) := by
  simp [tracedLock, lockIfNeeded, lockOps, hneed, hfree, holding, Except.map]

/-- What an attempt finds does not depend on the locks. -/
lemma retries_holding (h : Host) (e : MsgQueueEntry) (dir : Direction) :
    (h.holding dir).Retries e dir ↔ h.Retries e dir := by cases dir <;> exact Iff.rfl

lemma reaches_holding (h : Host) (e : MsgQueueEntry) (dir : Direction) :
    (h.holding dir).Reaches e dir ↔ h.Reaches e dir := by cases dir <;> exact Iff.rfl

/-- The lock is released, and the other one is left as it is. -/
lemma locked_unlock (hneed : h.ep.lockNeeded = true) (dir d : Direction) :
    ((h.unlockIfNeeded dir).queue d).locked = if d = dir then false else (h.queue d).locked := by
  rw [unlockIfNeeded, if_pos hneed]
  split
  case isTrue hd => rw [hd, queue_setQueue, MsgQueue.locked_setLocked]
  case isFalse hd => rw [queue_setQueue_of_ne h hd]

/-! ### The balance of a call -/

/-- Whether a call expects that the lock of its queue is held. -/
def startsHeld : Action → Bool
  | .process _ locked => locked
  | _ => false

/-- The locks that a call expects to be held. -/
def heldAt : Action → Direction → Bool
  | .process dir locked, d => locked && d = dir
  | _, _ => false

/-- A call returns with both locks released, each acquisition is released once, and no lock is
released that is not held. -/
def Balanced (h : Host) (a : Action) : Prop :=
  ∃ ops g, h.tracedAct a = .ok (ops, g)
    ∧ LockOp.run (startsHeld a) ops = some false
    ∧ ∀ d, (g.queue d).locked = false

/-- The call is not a post that succeeds at once, and follows no null pointer. -/
def Releases (h : Host) : Action → Prop
  | .post dir e => (h.queue dir).isEmpty = true → h.mayTry dir = true → h.Retries e dir
  | .process dir _ => h.ep.connected = true →
      ∀ node ∈ (h.queue dir).entries.head?, h.Reaches ((h.queue dir).nodes node) dir
  | .reject => True

/-- A post that has to wait. -/
lemma tracedPost_waits (hneed : h.ep.lockNeeded = true) (hfree : ∀ d, (h.queue d).locked = false)
    {mayTry : Bool} (hwait : (h.queue dir).isEmpty = true → mayTry = true → h.Retries e dir) :
    ∃ g, h.tracedPost dir mayTry e = .ok ([.acquire, .release], g)
      ∧ ∀ d, (g.queue d).locked = false := by
  obtain ⟨g, hfirst, hsame⟩ : ∃ g, (h.holding dir).firstAttempt dir mayTry e = .ok (.eagain, g)
      ∧ SameLocks (h.holding dir) g := by
    rw [firstAttempt]
    split
    case isTrue htries =>
        rw [holding, queue_setQueue, Bool.and_eq_true] at htries
        have hretry := (retries_holding h e dir).2 (hwait htries.1 htries.2)
        rcases attempt_reaches hretry.reaches with ⟨-, g, hg, hsame⟩ | ⟨hnot, -⟩
        · exact ⟨g, hg, hsame⟩
        · exact absurd hretry hnot
    case isFalse => exact ⟨_, rfl, .refl _⟩
  have hneed' : g.ep.lockNeeded = true := hsame.lockNeeded.trans hneed
  refine ⟨g.enqueue dir e, ?_, fun d => ?_⟩
  · have hops : (g.setQueue dir ((g.queue dir).enqueue e)).lockOps .release = [.release] :=
      if_pos hneed'
    simp only [tracedPost, tracedLock_free hneed (hfree dir), bind, Except.bind, hfirst, if_true,
      tracedEnqueue, tracedUnlock, hops]
    rfl
  · rw [enqueue, locked_unlock (h := g.setQueue dir _) hneed']
    split
    case isTrue => rfl
    case isFalse hd =>
        rw [queue_setQueue_of_ne g hd, hsame.locked, holding, queue_setQueue_of_ne h hd, hfree]

/-- A post that succeeds at once, or follows a null pointer. -/
lemma tracedPost_tries (hneed : h.ep.lockNeeded = true) (hfree : (h.queue dir).locked = false)
    (hempty : (h.queue dir).isEmpty = true) (hnot : ¬ h.Retries e dir) :
    (∃ g, h.tracedPost dir true e = .ok ([.acquire], g))
      ∨ h.tracedPost dir true e = .error .nullPointer := by
  have hfirst : (h.holding dir).firstAttempt dir true e = (h.holding dir).attempt dir e := by
    rw [firstAttempt, if_pos]
    rw [holding, queue_setQueue, Bool.and_true]
    exact hempty
  simp only [tracedPost, tracedLock_free hneed hfree, bind, Except.bind, hfirst]
  by_cases hreach : (h.holding dir).Reaches e dir
  · rcases attempt_reaches hreach with ⟨hretry, -⟩ | ⟨-, g, hg, -⟩
    · exact absurd ((retries_holding h e dir).1 hretry) hnot
    · exact .inl ⟨g, by simp [hg]⟩
  · exact .inr (by rw [attempt_dangles hreach])

lemma balanced_post_iff (hneed : h.ep.lockNeeded = true) (hfree : ∀ d, (h.queue d).locked = false) :
    h.Balanced (.post dir e) ↔ h.Releases (.post dir e) := by
  constructor
  · rintro ⟨ops, g, hact, hrun, -⟩ hempty htry
    by_contra hnot
    rw [tracedAct, htry] at hact
    rcases tracedPost_tries hneed (hfree dir) hempty hnot with ⟨g', hpost⟩ | hpost
    · obtain ⟨rfl, -⟩ : [.acquire] = ops ∧ g' = g := by simpa [hpost] using hact
      exact absurd hrun (show LockOp.run false [.acquire] ≠ some false by decide)
    · exact absurd (hpost.symm.trans hact) (by simp)
  · intro hwait
    obtain ⟨g, hpost, hlocks⟩ := tracedPost_waits hneed hfree hwait
    exact ⟨_, g, hpost, rfl, hlocks⟩

/-- The part of a call that processes a queue after it has taken the lock. -/
lemma tracedProcess_locked (hneed : h.ep.lockNeeded = true) (hconn : h.ep.connected = true)
    (hheld : ∀ d, (h.queue d).locked = decide (d = dir)) :
    h.Balanced (.process dir true) ↔ h.Releases (.process dir true) := by
  have hact : h.tracedAct (.process dir true)
      = (drain (goesOn dir) dir (h.queue dir).entries h).map (·.tracedUnlock dir) := by
    simp only [tracedAct, tracedProcess, hconn, tracedLockUnless, Bool.not_true, Bool.false_and,
      Bool.false_eq_true, if_false, if_true, bind, Except.bind]
    cases drain (goesOn dir) dir (h.queue dir).entries h <;> rfl
  have hbalanced (g : Host) (hsame : SameLocks h g)
      (hdrain : drain (goesOn dir) dir (h.queue dir).entries h = .ok g) :
      h.Balanced (.process dir true) := by
    have hneed' : g.ep.lockNeeded = true := hsame.lockNeeded.trans hneed
    refine ⟨[.release], g.unlockIfNeeded dir, ?_, rfl, fun d => ?_⟩
    · rw [hact, hdrain]
      simp [Except.map, tracedUnlock, lockOps, hneed']
    · rw [locked_unlock hneed', hsame.locked, hheld]
      split <;> simp_all
  cases hentries : (h.queue dir).entries with
  | nil =>
      refine iff_of_true (hbalanced h (.refl h) (by rw [hentries]; rfl)) fun _ node hnode => ?_
      rw [hentries] at hnode
      exact absurd hnode (by simp)
  | cons node rest =>
      constructor
      · rintro ⟨ops, g, hok, -⟩ - node' hnode
        obtain rfl : node = node' := by simpa [hentries] using hnode
        by_contra hreach
        rw [hact, hentries, drain, attempt_dangles hreach] at hok
        exact absurd hok (by simp [bind, Except.bind, Except.map])
      · intro hreach
        obtain ⟨g, hdrain, hsame⟩ := drain_returns rest (hreach hconn node (by simp [hentries]))
        exact hbalanced g hsame (by rw [hentries]; exact hdrain)

/-- A call that takes the lock itself goes on like one that holds it. -/
lemma tracedProcess_unlocked (hneed : h.ep.lockNeeded = true) (hconn : h.ep.connected = true)
    (hfree : (h.queue dir).locked = false) (hne : (h.queue dir).isEmpty = false) :
    h.tracedAct (.process dir false)
      = ((h.holding dir).tracedAct (.process dir true)).map fun r => (.acquire :: r.1, r.2) := by
  have hconn' : (h.holding dir).ep.connected = true := hconn
  simp only [tracedAct, tracedProcess, hconn, hconn', hne, tracedLockUnless,
    tracedLock_free hneed hfree,
    Bool.not_true, Bool.not_false, Bool.and_false, Bool.false_and, Bool.false_eq_true, if_false,
    if_true, bind, Except.bind]
  cases drain (goesOn dir) dir ((h.holding dir).queue dir).entries (h.holding dir) <;> rfl

lemma locked_holding (hfree : ∀ d, (h.queue d).locked = false) (dir d : Direction) :
    ((h.holding dir).queue d).locked = decide (d = dir) := by
  rw [holding]
  by_cases hd : d = dir
  · subst hd
    rw [queue_setQueue, MsgQueue.locked_setLocked, decide_eq_true rfl]
  · rw [queue_setQueue_of_ne h hd, hfree, decide_eq_false hd]

/-- What a call that processes a queue finds does not depend on the locks. -/
lemma releases_holding (h : Host) (dir : Direction) (locked : Bool) :
    (h.holding dir).Releases (.process dir locked) ↔ h.Releases (.process dir locked) := by
  have hqueue : ((h.holding dir).queue dir).entries = (h.queue dir).entries
      ∧ ((h.holding dir).queue dir).nodes = (h.queue dir).nodes := by
    rw [holding, queue_setQueue]
    exact ⟨rfl, rfl⟩
  rw [Releases, Releases, hqueue.1, hqueue.2]
  exact forall₂_congr fun _ _ => forall_congr' fun _ => reaches_holding h _ dir

lemma balanced_process_iff (hneed : h.ep.lockNeeded = true)
    (hfree : ∀ d, (h.queue d).locked = false) :
    h.Balanced (.process dir false) ↔ h.Releases (.process dir false) := by
  cases hconn : h.ep.connected with
  | false =>
      refine iff_of_true ⟨[], h, ?_, rfl, hfree⟩ fun hc => absurd (hconn.symm.trans hc) (by simp)
      simp [tracedAct, tracedProcess, hconn]
  | true =>
      cases hempty : (h.queue dir).isEmpty with
      | true =>
          refine iff_of_true ⟨[], h, by simp [tracedAct, tracedProcess, hconn, hempty], rfl, hfree⟩
            fun _ node hnode => ?_
          rw [MsgQueue.isEmpty, List.isEmpty_iff] at hempty
          exact absurd (hempty ▸ hnode) (by simp)
      | false =>
          have hact := tracedProcess_unlocked hneed hconn (hfree dir) hempty
          have hlocked : (h.holding dir).Balanced (.process dir true)
              ↔ (h.holding dir).Releases (.process dir true) :=
            tracedProcess_locked (by exact hneed) (by exact hconn) (locked_holding hfree dir)
          rw [← releases_holding, Releases, ← Releases, ← hlocked]
          constructor
          · rintro ⟨ops, g, hok, hrun, hlocks⟩
            obtain ⟨⟨ops', g'⟩, hok', heq⟩ := Except.map_eq_ok (hact.symm.trans hok)
            obtain ⟨rfl, rfl⟩ := Prod.mk.inj heq
            exact ⟨ops', g', hok', hrun, hlocks⟩
          · rintro ⟨ops, g, hok, hrun, hlocks⟩
            exact ⟨.acquire :: ops, g, by rw [hact, hok]; rfl, hrun, hlocks⟩

/-- A call that finds the locks as it expects them is balanced exactly if it is not a post that
succeeds at once, and follows no null pointer. -/
lemma balanced_iff (hneed : h.ep.lockNeeded = true) {a : Action}
    (hstart : ∀ d, (h.queue d).locked = heldAt a d) : h.Balanced a ↔ h.Releases a := by
  cases a with
  | post dir e => exact balanced_post_iff hneed hstart
  | process dir locked =>
      cases locked with
      | false => exact balanced_process_iff hneed hstart
      | true =>
          cases hconn : h.ep.connected with
          | true => exact tracedProcess_locked hneed hconn hstart
          | false =>
              refine iff_of_true ⟨[.release], h.unlockIfNeeded dir, ?_, rfl, fun d => ?_⟩
                fun hc => absurd (hconn.symm.trans hc) (by simp)
              · simp [tracedAct, tracedProcess, hconn, tracedUnlock, lockOps, hneed]
              · rw [locked_unlock hneed, hstart]
                split <;> simp_all [heldAt]
  | reject => exact iff_of_true ⟨[], h, rfl, rfl, hstart⟩ trivial

/-! ### What every call keeps -/

section Keeps

variable {P : Host → Prop} (hqueue : ∀ h dir q, P h → P (h.setQueue dir q))
  (hattempt : ∀ h dir e r, P h → h.attempt dir e = .ok r → P r.2)

include hqueue in
lemma lockIfNeeded_keeps (hP : P h) (heq : h.lockIfNeeded dir = .ok g) : P g := by
  rw [lockIfNeeded] at heq
  split at heq
  · split at heq
    · exact absurd heq (by simp)
    · obtain rfl : _ = g := by simpa using heq
      exact hqueue h dir _ hP
  · obtain rfl : h = g := by simpa using heq
    exact hP

include hqueue in
lemma unlockIfNeeded_keeps (hP : P h) (dir : Direction) : P (h.unlockIfNeeded dir) := by
  rw [unlockIfNeeded]
  split
  · exact hqueue h dir _ hP
  · exact hP

include hqueue hattempt

lemma drain_keeps {done : FiErr → Bool} {nodes : List ℕ} (hP : P h)
    (heq : drain done dir nodes h = .ok g) : P g := by
  induction nodes generalizing h with
  | nil =>
      obtain rfl : h = g := by simpa [drain] using heq
      exact hP
  | cons node rest ih =>
      rw [drain] at heq
      obtain ⟨r, hr, heq⟩ := bind_eq_ok heq
      have hP' := hattempt h dir _ r hP hr
      split at heq
      · exact ih (hqueue r.2 dir _ hP') heq
      · obtain rfl : r.2 = g := by simpa using heq
        exact hP'

lemma post_keeps {mayTry : Bool} (hP : P h) (heq : h.post dir mayTry e = .ok g) : P g := by
  rw [post] at heq
  obtain ⟨h₁, hlock, heq⟩ := bind_eq_ok heq
  obtain ⟨r, hfirst, heq⟩ := bind_eq_ok heq
  have hP₁ := lockIfNeeded_keeps hqueue hP hlock
  have hP₂ : P r.2 := by
    rw [firstAttempt] at hfirst
    split at hfirst
    · exact hattempt h₁ dir e r hP₁ hfirst
    · obtain rfl : _ = r := by simpa using hfirst
      exact hP₁
  split at heq
  · obtain rfl : r.2.enqueue dir e = g := by simpa using heq
    exact unlockIfNeeded_keeps hqueue (hqueue r.2 dir _ hP₂) dir
  · obtain rfl : r.2 = g := by simpa using heq
    exact hP₂

lemma processQueue_keeps {done : FiErr → Bool} {locked : Bool} (hP : P h)
    (heq : h.processQueue done dir locked = .ok g) : P g := by
  rw [processQueue] at heq
  split at heq
  · obtain rfl : _ = g := by simpa using heq
    split
    · exact unlockIfNeeded_keeps hqueue hP dir
    · exact hP
  · split at heq
    · obtain rfl : h = g := by simpa using heq
      exact hP
    · obtain ⟨h₁, hlock, heq⟩ := bind_eq_ok heq
      obtain ⟨h₂, hdrain, heq⟩ := bind_eq_ok heq
      obtain rfl : h₂.unlockIfNeeded dir = g := by simpa using heq
      have hP₁ : P h₁ := by
        rw [lockUnless] at hlock
        split at hlock
        · obtain rfl : h = h₁ := by simpa using hlock
          exact hP
        · exact lockIfNeeded_keeps hqueue hP hlock
      exact unlockIfNeeded_keeps hqueue (drain_keeps hqueue hattempt hP₁ hdrain) dir

/-- What the queues do not matter for, and every attempt keeps, is kept by every call. -/
lemma act_keeps {a : Action} (hP : P h) (heq : h.act a = .ok g) : P g := by
  cases a with
  | post dir e => exact post_keeps hqueue hattempt hP heq
  | process dir locked => exact processQueue_keeps hqueue hattempt hP heq
  | reject =>
      obtain rfl : h = g := by simpa [act] using heq
      exact hP

end Keeps

/-! ### Sequences of calls -/

/-- A call of a thread, which takes the lock before a call that expects it to be held; none if the
thread waits for ever, or follows a null pointer. -/
def threadStep (h : Host) : Action → Option Host
  | .process dir true =>
      (h.lockIfNeeded dir >>= fun h => h.act (.process dir true)).toOption
  | a => (h.act a).toOption

/-- Between the calls of a thread the locks are free. -/
structure LocksFree (h : Host) : Prop where
  lockNeeded : h.ep.lockNeeded = true
  free : ∀ d, (h.queue d).locked = false

lemma act_lockNeeded {a : Action} (heq : h.act a = .ok g) : g.ep.lockNeeded = h.ep.lockNeeded := by
  refine act_keeps (P := fun k => k.ep.lockNeeded = h.ep.lockNeeded) (fun _ _ _ hk => hk) ?_ rfl heq
  intro k d e r hk hr
  by_cases hreach : k.Reaches e d
  · rcases attempt_reaches hreach with ⟨-, g, hg, hsame⟩ | ⟨-, g, hg, hsame, -⟩ <;>
    · obtain rfl : _ = r := by simpa [hg] using hr
      exact hsame.lockNeeded.trans hk
  · exact absurd ((attempt_dangles hreach).symm.trans hr) (by simp)

/-- A balanced call leaves the locks free. -/
lemma Balanced.locksFree (hneed : h.ep.lockNeeded = true) {a : Action} (hb : h.Balanced a) :
    ∃ g, h.act a = .ok g ∧ g.LocksFree := by
  obtain ⟨ops, g, hok, -, hfree⟩ := hb
  have hact : h.act a = .ok g := by rw [← snd_tracedAct, hok]; rfl
  exact ⟨g, hact, (act_lockNeeded hact).trans hneed, hfree⟩

lemma LocksFree.threadStep (hl : h.LocksFree) {a : Action} (hok : h.Releases a) :
    ∃ g, h.threadStep a = some g ∧ g.LocksFree := by
  have hfree (a : Action) (hok : h.Releases a) (hheld : ∀ d, heldAt a d = false) :
      ∃ g, h.act a = .ok g ∧ g.LocksFree :=
    Balanced.locksFree hl.lockNeeded
      ((balanced_iff hl.lockNeeded fun d => (hl.free d).trans (hheld d).symm).2 hok)
  cases a with
  | post dir e =>
      obtain ⟨g, hact, hg⟩ := hfree (.post dir e) hok fun _ => rfl
      exact ⟨g, congrArg Except.toOption hact, hg⟩
  | process dir locked =>
      cases locked with
      | false =>
          obtain ⟨g, hact, hg⟩ := hfree (.process dir false) hok fun _ => rfl
          exact ⟨g, congrArg Except.toOption hact, hg⟩
      | true =>
          have hlock : h.lockIfNeeded dir = .ok (h.holding dir) := by
            simp [lockIfNeeded, hl.lockNeeded, hl.free, holding]
          have hbalanced := (balanced_iff (h := h.holding dir) (a := .process dir true)
            hl.lockNeeded
            (locked_holding hl.free dir)).2 ((releases_holding h dir true).2 hok)
          obtain ⟨g, hact, hg⟩ := Balanced.locksFree (h := h.holding dir) hl.lockNeeded hbalanced
          refine ⟨g, ?_, hg⟩
          rw [Host.threadStep, hlock]
          exact congrArg Except.toOption hact
  | reject => exact ⟨h, rfl, hl⟩

/-- A sequence of calls by one thread returns with the locks free. -/
lemma LocksFree.run (hl : h.LocksFree) {calls : List Action}
    (hok : Stepper.Meets Host.threadStep Releases h calls) :
    ∃ g, Stepper.run Host.threadStep h calls = some g ∧ g.LocksFree := by
  induction calls generalizing h with
  | nil => exact ⟨h, rfl, hl⟩
  | cons a rest ih =>
      obtain ⟨g, hstep, hg⟩ := hl.threadStep hok.1
      obtain ⟨k, hrun, hk⟩ := ih hg (hok.2 g hstep)
      exact ⟨k, by rw [Stepper.run_cons, hstep]; exact hrun, hk⟩

/-- The lock of a message queue is balanced:

* a call that finds the locks as it expects them returns with the lock released, releasing it
  once for each acquisition and only when it is held, exactly if it is not a post that succeeds at
  once and follows no null pointer;
* in a sequence of such calls by one thread none blocks, and the locks are free at its end. -/
theorem lock_balance (h : Host) :
    (∀ a : Action, h.ep.lockNeeded = true → (∀ d, (h.queue d).locked = heldAt a d) →
        (h.Balanced a ↔ h.Releases a))
      ∧ ∀ calls : List Action, h.LocksFree →
        Stepper.Meets Host.threadStep Releases h calls →
        ∃ g, Stepper.run Host.threadStep h calls = some g ∧ g.LocksFree :=
  ⟨fun _ hneed hstart => balanced_iff hneed hstart, fun _ hl hok => hl.run hok⟩

/-- A connected endpoint whose queues are locked, with rings of three words. -/
def locking : Host := { established 24 ⟨0, 0, 0⟩ ⟨1, 0, 0⟩ with ep.lockNeeded := true }

/-- A posted operation of a given length. -/
def operation (len : UInt64) : MsgQueueEntry := { buf := fun _ => 1, len, flags := 0, context := 0 }

/-- A receive that finds nothing, and a send for which there is no space; then its queue is
processed. -/
theorem lock_balance_waiting :
    ∃ g, Stepper.run threadStep locking
        [.post .recv (operation 8), .post .send (operation 24), .process .send true] = some g
      ∧ g.LocksFree := by
  have hfree : locking.LocksFree := ⟨rfl, fun d => by cases d <;> rfl⟩
  refine (lock_balance locking).2 _ hfree
    ⟨fun _ _ => ⟨⟨⟨0, 0, 0⟩, 32⟩, rfl, by decide⟩, fun g hg => ?_⟩
  obtain rfl := Option.some.inj hg
  refine ⟨fun _ _ => ⟨⟨0, 0, 0⟩, rfl, by decide⟩, fun g hg => ?_⟩
  obtain rfl := Option.some.inj hg
  exact ⟨fun _ _ _ => ⟨rfl, .inr rfl⟩, fun _ _ => trivial⟩

/-- A send that succeeds at once leaves the lock held, and the next one waits for it for ever. -/
theorem second_send_blocks :
    ¬ locking.Balanced (.post .send (operation 3))
      ∧ ∃ g, locking.dpaSend (operation 3).buf 3 0 = .ok g
        ∧ (g.queue .send).locked = true
        ∧ g.dpaSend (operation 3).buf 3 0 = .error .blocked := by
  refine ⟨fun h => ?_, _, rfl, rfl, rfl⟩
  have hfree : ∀ d, (locking.queue d).locked = heldAt (.post .send (operation 3)) d :=
    fun d => by cases d <;> rfl
  obtain ⟨status, hstatus, hspace⟩ := (balanced_iff rfl hfree).1 h rfl rfl
  obtain rfl : ⟨0, 0, 0⟩ = status := Option.some.inj hstatus
  exact absurd hspace (by decide)

end Host

end DpaProvider
