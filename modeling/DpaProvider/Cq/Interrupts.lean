import DpaProvider.Dpa
import DpaProvider.Library.Stepper
import DpaProvider.Msg.Endpoint

/-!
The interrupts of completion queues.

`dpa_cq_wait_data` creates an interrupt for a completion queue, and a read that waits for it puts an
entry with its number at the end of the queue.

* `dpaCqWaitData`, `waitCqInterrupt`, `makeCqProgress`, `dpaCqSreadfrom`: the functions of
  `dpa_cq.c` on the entries of a queue;
* `sreadfrom_steps`: a read is made of additions, waits and one or two removals, between which other
  threads may act;
* `Sound`: what every sequence of such steps keeps; there is one entry for each wait that has
  succeeded, with the number and the flags of the interrupt it was for, and entries are read in the
  order in which they came.
-/

namespace DpaProvider

/-- The `queue_interrupt`, without its descriptor; the handle is that of the interrupt that the
library has created under a number. -/
structure QueueInterrupt where
  handle : Option UInt32
  eventFlags : UInt64
  id : UInt32
  deriving DecidableEq, Repr

/-- The entry of `wait_cq_interrupt`. -/
def QueueInterrupt.entry (i : QueueInterrupt) : CqErrEntry where
  opContext := 0
  flags := i.eventFlags
  len := 0
  data := i.id.toUInt64
  olen := 0
  err := .success
  provErrno := .ok

/-- Where an entry comes from. -/
inductive Origin where
  | operation
  | interrupt
  deriving DecidableEq, Repr

/-- The `dpa_fid_cq` of a process on a node, with its interrupt.  The history: the interrupts it has
been given, those for which a wait has succeeded, the entries added, and the entries read. -/
structure InterruptCq extends CompletionQueue where
  nodeId : UInt32
  interrupt : QueueInterrupt
  given : List QueueInterrupt
  waited : List QueueInterrupt
  added : List (Origin × CqErrEntry)
  read : List CqErrEntry
  deriving Repr

namespace InterruptCq

variable {cq : InterruptCq}

/-- `dpa_cq_open`, on a node. -/
def dpaCqOpen (nodeId : UInt32) (waitObj : WaitObj) : InterruptCq where
  waitObj
  eventQueue := []
  errorQueue := []
  nodeId
  interrupt := ⟨none, 0, 0⟩
  given := []
  waited := []
  added := []
  read := []

/-- `cq_add`. -/
def cqAdd (cq : InterruptCq) (origin : Origin) (entry : CqErrEntry) : InterruptCq :=
  { cq with
    toCompletionQueue := DpaProvider.cqAdd cq.toCompletionQueue entry
    added := cq.added ++ [(origin, entry)] }

/-- `dpa_cq_wait_data`, for the status of `DPAOpen` and the answer to `DPACreateInterrupt`: its
return value, what `data` then points to, and the queue.  The library picks a number if none is
asked for. -/
def dpaCqWaitData (cq : InterruptCq) (data : Option UInt64) (flags : UInt64) (opened : DpaError)
    (created : Reply) : (FiErr × Option UInt64) × InterruptCq :=
  match data with
  | none => ((.einval, none), cq)
  | some number =>
      let interruptId := number.toUInt32
      if interruptId.toUInt64 ≠ number then ((.einval, data), cq)
      else if opened ≠ .ok then ((.eother, data), cq)
      else if created.err ≠ .ok then ((.eother, data), cq)
      else
        let id := if interruptId = 0 then created.id else interruptId
        let interrupt := ⟨some id, flags, id⟩
        ((.success, some id.toUInt64), { cq with interrupt, given := cq.given ++ [interrupt] })

/-- `wait_cq_interrupt`, for the status of the wait. -/
def waitCqInterrupt (cq : InterruptCq) (status : DpaError) : InterruptCq :=
  if cq.interrupt.handle.isNone then cq
  else if status ≠ .ok then cq
  else { cq.cqAdd .interrupt cq.interrupt.entry with waited := cq.waited ++ [cq.interrupt] }

/-- `cq_read_priv` on the event queue: the return value and the entries. -/
def cqReadPriv (cq : InterruptCq) (count : ℕ) :
    (Except FiErr ℕ × List CqErrEntry) × InterruptCq :=
  let out := cq.eventQueue.take count
  ((if 0 < out.length then .ok out.length else .error .eagain, out),
    { cq with eventQueue := cq.eventQueue.drop count, read := cq.read ++ out })

/-- What happens while `make_cq_progress` runs: the entries that the progress function and other
threads add, and the status of the wait. -/
structure Meanwhile where
  entries : List CqErrEntry
  status : DpaError
  deriving DecidableEq, Repr

/-- The entries of operations. -/
def cqAdds (cq : InterruptCq) (entries : List CqErrEntry) : InterruptCq :=
  entries.foldl (fun cq entry => cq.cqAdd .operation entry) cq

/-- `make_cq_progress`. -/
def makeCqProgress (cq : InterruptCq) (m : Meanwhile) : InterruptCq :=
  (cq.cqAdds m.entries).waitCqInterrupt m.status

/-- `dpa_cq_sreadfrom`; `progress` is whether there is a progress function.  Without one and without
an interrupt the thread waits for the entries of others. -/
def dpaCqSreadfrom (cq : InterruptCq) (progress : Bool) (count : ℕ) (timeout : ℤ)
    (first second : Meanwhile) : (Except FiErr ℕ × List CqErrEntry) × InterruptCq :=
  let cq := cq.makeCqProgress first
  let (result, cq) := cq.cqReadPriv count
  match result.1 with
  | .ok _ => (result, cq)
  | .error _ =>
      if timeout = 0 then (result, cq)
      else if progress || cq.interrupt.handle.isSome then
        (cq.makeCqProgress second).cqReadPriv count
      else (cq.cqAdds second.entries).cqReadPriv count

/-! ### Steps -/

/-- What a thread does to a queue at a time. -/
inductive Step where
  | cqAdd (entry : CqErrEntry)
  | dpaCqWaitData (data : Option UInt64) (flags : UInt64) (opened : DpaError) (created : Reply)
  | waitCqInterrupt (status : DpaError)
  | cqReadPriv (count : ℕ)
  deriving DecidableEq, Repr

def step (cq : InterruptCq) : Step → InterruptCq
  | .cqAdd entry => cq.cqAdd .operation entry
  | .dpaCqWaitData data flags opened created => (cq.dpaCqWaitData data flags opened created).2
  | .waitCqInterrupt status => cq.waitCqInterrupt status
  | .cqReadPriv count => (cq.cqReadPriv count).2

/-- The queue after a list of steps. -/
def steps (cq : InterruptCq) (l : List Step) : InterruptCq := l.foldl step cq

/-- The steps of `make_cq_progress`. -/
def Meanwhile.steps (m : Meanwhile) : List Step :=
  m.entries.map .cqAdd ++ [.waitCqInterrupt m.status]

lemma steps_append (l l' : List Step) : cq.steps (l ++ l') = (cq.steps l).steps l' :=
  List.foldl_append

lemma cqAdds_eq_steps (entries : List CqErrEntry) :
    cq.cqAdds entries = cq.steps (entries.map .cqAdd) := by
  rw [cqAdds, steps, List.foldl_map]
  rfl

lemma makeCqProgress_eq_steps (m : Meanwhile) : cq.makeCqProgress m = cq.steps m.steps := by
  rw [makeCqProgress, cqAdds_eq_steps, Meanwhile.steps, steps_append]
  rfl

/-- The steps of a read: the first part, and the second one if there is need of it. -/
theorem sreadfrom_steps (cq : InterruptCq) (progress : Bool) (count : ℕ) (timeout : ℤ)
    (first second : Meanwhile) :
    ∃ l, (cq.dpaCqSreadfrom progress count timeout first second).2
        = cq.steps (first.steps ++ .cqReadPriv count :: l)
      ∧ (l = [] ∨ l = second.steps ++ [.cqReadPriv count]
        ∨ l = second.entries.map .cqAdd ++ [.cqReadPriv count]) := by
  have hfirst (l : List Step) : cq.steps (first.steps ++ .cqReadPriv count :: l)
      = ((cq.makeCqProgress first).cqReadPriv count).2.steps l := by
    rw [steps_append, ← makeCqProgress_eq_steps]
    rfl
  rw [dpaCqSreadfrom]
  dsimp only
  split
  case h_1 => exact ⟨[], hfirst [] ▸ rfl, .inl rfl⟩
  case h_2 =>
      split
      case isTrue => exact ⟨[], hfirst [] ▸ rfl, .inl rfl⟩
      case isFalse =>
          split
          case isTrue =>
              refine ⟨_, ?_, .inr (.inl rfl)⟩
              rw [hfirst, steps_append, ← makeCqProgress_eq_steps]
              rfl
          case isFalse =>
              refine ⟨_, ?_, .inr (.inr rfl)⟩
              rw [hfirst, steps_append, ← cqAdds_eq_steps]
              rfl

/-! ### What a queue keeps -/

/-- The interrupt is the last that was given, under its own number; the entries of interrupts are
those of the waits that have succeeded, each for an interrupt that was given; and the entries read,
followed by those in the queue, are the successful ones in the order in which they were added. -/
structure Sound (cq : InterruptCq) : Prop where
  last : ∀ id, cq.interrupt.handle = some id → cq.given.getLast? = some cq.interrupt
  given : ∀ i ∈ cq.given, i.handle = some i.id
  waited : ∀ i ∈ cq.waited, i ∈ cq.given
  entries : (cq.added.filter (·.1 = .interrupt)).map Prod.snd = cq.waited.map QueueInterrupt.entry
  order : cq.read ++ cq.eventQueue = (cq.added.map Prod.snd).filter (·.err = .success)

lemma sound_open (nodeId : UInt32) (waitObj : WaitObj) : (dpaCqOpen nodeId waitObj).Sound where
  last := nofun
  given := nofun
  waited := nofun
  entries := rfl
  order := rfl

/-- An entry goes to the end of the successful ones if it is one of them. -/
lemma cqAdd_order (h : cq.Sound) (origin : Origin) (entry : CqErrEntry) :
    (cq.cqAdd origin entry).read ++ (cq.cqAdd origin entry).eventQueue
      = ((cq.cqAdd origin entry).added.map Prod.snd).filter (·.err = .success) := by
  have hadded : (cq.cqAdd origin entry).added = cq.added ++ [(origin, entry)] := rfl
  have hread : (cq.cqAdd origin entry).read = cq.read := rfl
  have hqueue : (cq.cqAdd origin entry).eventQueue
      = (DpaProvider.cqAdd cq.toCompletionQueue entry).eventQueue := rfl
  rw [hadded, hread, hqueue, List.map_append, List.filter_append, ← h.order, List.append_assoc]
  refine congrArg (cq.read ++ ·) ?_
  rw [DpaProvider.cqAdd]
  split
  case isTrue hsuccess => simp [hsuccess]
  case isFalse hfails => simp [hfails]

lemma Sound.cqAdd (h : cq.Sound) (entry : CqErrEntry) : (cq.cqAdd .operation entry).Sound where
  last := h.last
  given := h.given
  waited := h.waited
  entries := by
    have hadded : (cq.cqAdd .operation entry).added = cq.added ++ [(.operation, entry)] := rfl
    have hwaited : (cq.cqAdd .operation entry).waited = cq.waited := rfl
    rw [hadded, hwaited, List.filter_append, List.map_append, h.entries]
    simp
  order := cqAdd_order h .operation entry

lemma Sound.waitCqInterrupt (h : cq.Sound) (status : DpaError) :
    (cq.waitCqInterrupt status).Sound := by
  rw [InterruptCq.waitCqInterrupt]
  split
  case isTrue => exact h
  case isFalse hsome =>
      split
      case isTrue => exact h
      case isFalse =>
          obtain ⟨id, hid⟩ : ∃ id, cq.interrupt.handle = some id := by
            rw [Option.isNone_iff_eq_none] at hsome
            exact Option.ne_none_iff_exists'.1 hsome
          refine ⟨h.last, h.given, fun i hi => ?_, ?_, cqAdd_order h .interrupt _⟩
          · rcases List.mem_append.1 hi with hi | hi
            · exact h.waited i hi
            · obtain rfl := List.mem_singleton.1 hi
              exact List.mem_of_getLast? (h.last id hid)
          · have hadded : (cq.cqAdd .interrupt cq.interrupt.entry).added
                = cq.added ++ [(.interrupt, cq.interrupt.entry)] := rfl
            dsimp only
            rw [hadded, List.filter_append, List.map_append, h.entries, List.map_append]
            rfl

lemma Sound.dpaCqWaitData (h : cq.Sound) (data : Option UInt64) (flags : UInt64)
    (opened : DpaError) (created : Reply) :
    (cq.dpaCqWaitData data flags opened created).2.Sound := by
  cases data with
  | none => exact h
  | some number =>
      simp only [InterruptCq.dpaCqWaitData]
      split_ifs
      case pos | pos | pos => exact h
      all_goals
        refine ⟨fun _ _ => List.getLast?_concat .., fun i hi => ?_, fun i hi => ?_, h.entries,
          h.order⟩
        · rcases List.mem_append.1 hi with hi | hi
          · exact h.given i hi
          · obtain rfl := List.mem_singleton.1 hi
            rfl
        · exact List.mem_append_left _ (h.waited i hi)

lemma Sound.cqReadPriv (h : cq.Sound) (count : ℕ) : (cq.cqReadPriv count).2.Sound where
  last := h.last
  given := h.given
  waited := h.waited
  entries := h.entries
  order := by
    have hread : (cq.cqReadPriv count).2.read ++ (cq.cqReadPriv count).2.eventQueue
        = cq.read ++ cq.eventQueue.take count ++ cq.eventQueue.drop count := rfl
    rw [hread, List.append_assoc, List.take_append_drop]
    exact h.order

lemma Sound.step (h : cq.Sound) (a : Step) : (cq.step a).Sound := by
  cases a with
  | cqAdd entry => exact h.cqAdd entry
  | dpaCqWaitData data flags opened created => exact h.dpaCqWaitData data flags opened created
  | waitCqInterrupt status => exact h.waitCqInterrupt status
  | cqReadPriv count => exact h.cqReadPriv count

/-- How many entries with a number have come from interrupts, whether they are read or not. -/
def notified (cq : InterruptCq) (id : UInt32) : ℕ :=
  cq.added.countP fun p => p.1 = .interrupt ∧ p.2.data = id.toUInt64

/-- How many waits for the interrupt with a number have succeeded. -/
def waits (cq : InterruptCq) (id : UInt32) : ℕ := cq.waited.countP (·.handle = some id)

/-- An entry of an interrupt is one of its waits. -/
lemma Sound.notified_eq (h : cq.Sound) (id : UInt32) : cq.notified id = cq.waits id := by
  calc cq.notified id
      = ((cq.added.filter (·.1 = .interrupt)).map Prod.snd).countP (·.data = id.toUInt64) := by
        rw [List.countP_map, List.countP_filter]
        refine List.countP_congr fun p _ => ?_
        simp [and_comm]
    _ = cq.waited.countP fun i => i.id = id := by
        rw [h.entries, List.countP_map]
        refine List.countP_congr fun i _ => ?_
        simp [QueueInterrupt.entry, UInt32.toUInt64_inj]
    _ = cq.waits id := by
        refine List.countP_congr fun i hi => ?_
        simp [h.given i (h.waited i hi)]

/-- A step stays on its node, and a wait is counted if it succeeds for an interrupt. -/
lemma step_waits (cq : InterruptCq) (a : Step) (id : UInt32) :
    (cq.step a).nodeId = cq.nodeId ∧ (cq.step a).waits id = cq.waits id
      + if a = .waitCqInterrupt .ok ∧ cq.interrupt.handle = some id then 1 else 0 := by
  cases a with
  | cqAdd | cqReadPriv => exact ⟨rfl, rfl⟩
  | dpaCqWaitData data flags opened created =>
      rw [if_neg (fun h => by cases h.1), step]
      cases data with
      | none => exact ⟨rfl, rfl⟩
      | some number =>
          simp only [InterruptCq.dpaCqWaitData]
          split_ifs <;> exact ⟨rfl, rfl⟩
  | waitCqInterrupt status =>
      rw [step, InterruptCq.waitCqInterrupt]
      split
      case isTrue hnone =>
          rw [Option.isNone_iff_eq_none] at hnone
          rw [hnone, if_neg (fun h => by cases h.2)]
          exact ⟨rfl, rfl⟩
      case isFalse =>
          split
          case isTrue hfails =>
              rw [if_neg (fun h => hfails (Step.waitCqInterrupt.inj h.1))]
              exact ⟨rfl, rfl⟩
          case isFalse hok =>
              rw [not_not] at hok
              refine ⟨rfl, ?_⟩
              rw [waits, List.countP_append, List.countP_singleton, hok]
              simp [waits]

end InterruptCq

end DpaProvider
