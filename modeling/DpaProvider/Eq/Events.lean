import DpaProvider.Cm.Site
import DpaProvider.Library.Slist
import DpaProvider.Library.Stepper

/-!
The events of an event queue, and peeking at them.

As in a completion queue, events lie in nodes that go round between a free list and two
queues.  A read may only look at the head of its queue (`FI_PEEK`).

* `eqAdd`, `eqReadPriv`: `eq_add` and `eq_read_priv` on the lists;
* `peek_eq_zero`: the variable that says whether to peek is too narrow for the flag, so that
  it is never set;
* `Lawful`: what a read should do, with `FI_PEEK` and without;
* `lawful_iff`: a read does it exactly when it finds its queue empty, for every other read takes
  a node off the queue and puts it nowhere;
* `conservation`: over every run whose reads find their queues empty no node is lost.
-/

namespace DpaProvider

/-- `FI_PEEK`. -/
def fiPeek : UInt64 := (1 : UInt64) <<< 19

/-- The `dpa_eq_event`, without its link; `entry` is the memory of the union. -/
structure DpaEqEvent where
  event : UInt32
  entry : List UInt8
  error : ℤ
  entrySize : ℕ
  deriving DecidableEq, Repr

/-- The lists of an event queue. -/
inductive EqList where
  | eventQueue
  | errorQueue
  | freeList
  deriving DecidableEq, Repr

/-- The `dpa_fid_eq` with its nodes: the contents of a node, and the number of nodes ever
created. -/
structure DpaFidEq where
  lists : Pool EqList
  events : ℕ → DpaEqEvent
  created : ℕ

/-- The sizes of the union in a `dpa_eq_event` and of a `fi_eq_err_entry`. -/
structure EqSizes where
  entry : ℕ
  errEntry : ℕ
  deriving DecidableEq, Repr

namespace DpaFidEq

variable {z : EqSizes} {eq eq' : DpaFidEq} {q : EqList}

/-- The loop of `dpa_eq_open` that creates the nodes. -/
def createNodes : ℕ → DpaFidEq → DpaFidEq
  | 0, eq => eq
  | n + 1, eq => createNodes n
      { eq with lists := eq.lists.insertTail .freeList eq.created, created := eq.created + 1 }

/-- `dpa_eq_open`; `events` is what the memory of the nodes holds. -/
def dpaEqOpen (size : ℕ) (events : ℕ → DpaEqEvent) : DpaFidEq :=
  createNodes size { lists := Pool.init EqList, events, created := 0 }

/-- The arguments of an `eq_add`. -/
structure Add where
  event : UInt32
  buf : List UInt8
  len : ℕ
  error : ℤ
  deriving DecidableEq, Repr

/-- The queue that an event is added to. -/
def Add.queue (a : Add) : EqList := if a.error ≠ 0 then .errorQueue else .eventQueue

/-- The node of an event, with what is left of the event before it. -/
def Add.store (z : EqSizes) (a : Add) (old : DpaEqEvent) : DpaEqEvent where
  event := a.event
  entry := a.buf.take (min a.len z.entry) ++ old.entry.drop (min a.len z.entry)
  error := a.error
  entrySize := min a.len z.entry

/-- `eq_add`, with `get_empty_event`. -/
def eqAdd (z : EqSizes) (eq : DpaFidEq) (a : Add) : DpaFidEq :=
  let (node, lists, created) := eq.lists.alloc .freeList eq.created
  { events := Function.update eq.events node (a.store z (eq.events node))
    lists := lists.insertTail a.queue node
    created }

/-- `get_head`. -/
def getHead (eq : DpaFidEq) (q : EqList) (peek : UInt8) : Option ℕ × DpaFidEq :=
  if peek ≠ 0 then ((eq.lists.lists q).head, eq)
  else ((eq.lists.removeHead q).1, { eq with lists := (eq.lists.removeHead q).2 })

/-- What a read returns: the number of bytes copied, the number of the event if it is asked for,
and the bytes. -/
structure Result where
  ret : Except FiErr ℕ
  event : Option UInt32
  out : List UInt8
  deriving DecidableEq

/-- The variable `peek`. -/
def peek (flags : UInt64) : UInt8 := (flags &&& fiPeek).toUInt8

/-- `eq_read_priv`; `event` says whether there is a pointer for the number of the event. -/
def eqReadPriv (eq : DpaFidEq) (q : EqList) (len : ℕ) (event : Bool) (flags : UInt64) :
    Result × DpaFidEq :=
  let r := eq.getHead q (peek flags)
  match r.1 with
  | none => (⟨.error .eagain, none, []⟩, r.2)
  | some node =>
      let head := r.2.events node
      let copySize := min head.entrySize len
      let eq := if peek flags ≠ 0 then { r.2 with lists := r.2.lists.insertTail .freeList node }
        else r.2
      (⟨.ok copySize, if event then some head.event else none, head.entry.take copySize⟩, eq)

/-- The reads.  `first` and `second` are the events added while the read makes progress at its
beginning, and while it waits. -/
inductive Read where
  | dpaEqRead (len : ℕ) (flags : UInt64) (first : List Add)
  | dpaEqSread (len : ℕ) (timeout : ℤ) (flags : UInt64) (first second : List Add)
  | dpaEqReaderr (flags : UInt64)
  deriving DecidableEq, Repr

/-- The flags of a read. -/
def Read.flags : Read → UInt64
  | .dpaEqRead _ flags _ => flags
  | .dpaEqSread _ _ flags _ _ => flags
  | .dpaEqReaderr flags => flags

/-- `_read_or_err`. -/
def readOrErr (eq : DpaFidEq) (len : ℕ) (flags : UInt64) : Result × DpaFidEq :=
  if (eq.lists.lists .errorQueue).isEmpty then eq.eqReadPriv .eventQueue len true flags
  else (⟨.error .eavail, none, []⟩, eq)

/-- `dpa_eq_sread`. -/
def dpaEqSread (z : EqSizes) (eq : DpaFidEq) (len : ℕ) (timeout : ℤ) (flags : UInt64)
    (first second : List Add) : Result × DpaFidEq :=
  let r := (first.foldl (eqAdd z) eq).readOrErr len flags
  match r.1.ret with
  | .error .eagain =>
      if timeout ≠ 0 then (second.foldl (eqAdd z) r.2).eqReadPriv .eventQueue len true flags else r
  | _ => r

/-- A read. -/
def read (z : EqSizes) (eq : DpaFidEq) : Read → Result × DpaFidEq
  | .dpaEqRead len flags first => eq.dpaEqSread z len 0 flags first []
  | .dpaEqSread len timeout flags first second => eq.dpaEqSread z len timeout flags first second
  | .dpaEqReaderr flags => eq.eqReadPriv .errorQueue z.errEntry false flags

/-! ### The flag is lost -/

/-- The flag is above the bits of the variable. -/
lemma peek_eq_zero (flags : UInt64) : peek flags = 0 := by
  rw [peek, UInt64.toUInt8_and, show fiPeek.toUInt8 = 0 by decide, UInt8.and_zero]

/-- A read takes the head off its queue, whatever its flags, and the node is put nowhere. -/
lemma eqReadPriv_eq (eq : DpaFidEq) (q : EqList) (len : ℕ) (event : Bool) (flags : UInt64) :
    eq.eqReadPriv q len event flags
      = match (eq.lists.removeHead q).1 with
        | none => (⟨.error .eagain, none, []⟩, { eq with lists := (eq.lists.removeHead q).2 })
        | some node =>
            (⟨.ok (min (eq.events node).entrySize len),
                if event then some (eq.events node).event else none,
                (eq.events node).entry.take (min (eq.events node).entrySize len)⟩,
              { eq with lists := (eq.lists.removeHead q).2 }) := by
  simp only [eqReadPriv, getHead, peek_eq_zero, ne_eq, not_true_eq_false, if_false]

/-! ### Additions -/

variable {xs ys : EqList → List ℕ}

/-- The nodes in the lists have been created, and each is in one list. -/
def Live (eq : DpaFidEq) : Prop := ∃ xs, eq.lists.Within eq.created xs

/-- The nodes in the lists are those created, each in one list. -/
def Conserved (eq : DpaFidEq) : Prop := ∃ xs, eq.lists.Full eq.created xs

lemma Conserved.live (h : Conserved eq) : Live eq := by
  obtain ⟨xs, hfull⟩ := h
  exact ⟨xs, hfull.within⟩

lemma Add.queue_ne_freeList (a : Add) : a.queue ≠ .freeList := by
  rw [Add.queue]
  split <;> decide

lemma Live.eqAdd (h : Live eq) (a : Add) : Live (eq.eqAdd z a) := by
  obtain ⟨xs, hwithin⟩ := h
  obtain ⟨ys, hys, -⟩ := hwithin.alloc a.queue_ne_freeList.symm
  exact ⟨ys, hys⟩

lemma Live.addAll (h : Live eq) (adds : List Add) : Live (adds.foldl (DpaFidEq.eqAdd z) eq) := by
  induction adds generalizing eq with
  | nil => exact h
  | cons a rest ih => exact ih (h.eqAdd a)

lemma Conserved.eqAdd (h : Conserved eq) (a : Add) : Conserved (eq.eqAdd z a) := by
  obtain ⟨xs, hfull⟩ := h
  obtain ⟨ys, hys, -⟩ := hfull.alloc a.queue_ne_freeList.symm
  exact ⟨ys, hys⟩

lemma Conserved.addAll (h : Conserved eq) (adds : List Add) :
    Conserved (adds.foldl (DpaFidEq.eqAdd z) eq) := by
  induction adds generalizing eq with
  | nil => exact h
  | cons a rest ih => exact ih (h.eqAdd a)

lemma conserved_createNodes (n : ℕ) (h : Conserved eq) : Conserved (createNodes n eq) := by
  induction n generalizing eq with
  | zero => exact h
  | succ n ih =>
      obtain ⟨xs, hfull⟩ := h
      exact ih ⟨_, hfull.create .freeList⟩

lemma conserved_dpaEqOpen (size : ℕ) (events : ℕ → DpaEqEvent) :
    Conserved (dpaEqOpen size events) :=
  conserved_createNodes size ⟨_, Pool.full_init EqList⟩

/-! ### What a read should do -/

namespace Read

/-- The queue that a read takes its event from. -/
def queue : Read → EqList
  | .dpaEqReaderr _ => .errorQueue
  | _ => .eventQueue

/-- The size of the buffer of a read. -/
def len (z : EqSizes) : Read → ℕ
  | .dpaEqRead len _ _ => len
  | .dpaEqSread len _ _ _ _ => len
  | .dpaEqReaderr _ => z.errEntry

/-- Whether a read asks for the number of the event. -/
def wantsEvent : Read → Bool
  | .dpaEqReaderr _ => false
  | _ => true

/-- The same read with other flags. -/
def withFlags (flags : UInt64) : Read → Read
  | .dpaEqRead len _ first => .dpaEqRead len flags first
  | .dpaEqSread len timeout _ first second => .dpaEqSread len timeout flags first second
  | .dpaEqReaderr _ => .dpaEqReaderr flags

end Read

/-- The event queue of `dpa_eq_sread` at its last step: after the events of `second` if it has
waited. -/
def waited (z : EqSizes) (eq : DpaFidEq) (timeout : ℤ) (first second : List Add) : DpaFidEq :=
  let eq := first.foldl (eqAdd z) eq
  if (eq.lists.lists .errorQueue).isEmpty ∧ (eq.lists.lists .eventQueue).isEmpty ∧ timeout ≠ 0 then
    second.foldl (eqAdd z) eq
  else eq

/-- The event queue at the last step of a read. -/
def settled (z : EqSizes) (eq : DpaFidEq) : Read → DpaFidEq
  | .dpaEqRead _ _ first => eq.waited z 0 first []
  | .dpaEqSread _ timeout _ first second => eq.waited z timeout first second
  | .dpaEqReaderr _ => eq

/-- A read that finds an error queued gives up. -/
def refused (z : EqSizes) (eq : DpaFidEq) : Read → Bool
  | .dpaEqRead _ _ first => !((first.foldl (eqAdd z) eq).lists.lists .errorQueue).isEmpty
  | .dpaEqSread _ _ _ first _ => !((first.foldl (eqAdd z) eq).lists.lists .errorQueue).isEmpty
  | .dpaEqReaderr _ => false

/-- A read with `FI_PEEK` returns what the read without it would, and leaves both queues as they
are.  A read without it returns the node at the head of its queue to the free list, or leaves the
queues as they are if it returns no event. -/
structure Lawful (z : EqSizes) (eq : DpaFidEq) (r : Read) (xs ys : EqList → List ℕ) : Prop where
  before : (eq.settled z r).lists.Full (eq.settled z r).created xs
  after : (eq.read z r).2.lists.Full (eq.read z r).2.created ys
  events : (eq.read z r).2.events = (eq.settled z r).events
  peek : r.flags &&& fiPeek ≠ 0 → (∀ q, q ≠ .freeList → ys q = xs q)
    ∧ (eq.read z r).1 = (eq.read z (r.withFlags (r.flags &&& ~~~fiPeek))).1
  take : r.flags &&& fiPeek = 0 → match (eq.read z r).1.ret with
    | .error _ => ys = xs
    | .ok _ => xs r.queue ≠ [] ∧ ys = Pool.moved xs r.queue .freeList

/-- A read finds its queue empty, or gives up before. -/
def Idle (z : EqSizes) (eq : DpaFidEq) (r : Read) : Prop :=
  eq.refused z r = true ∨ ((eq.settled z r).lists.lists r.queue).isEmpty = true

/-! ### What a read does -/

/-- A read of an empty queue changes nothing. -/
lemma eqReadPriv_nil (howns : eq.lists.Owns xs) (hq : xs q = []) (len : ℕ)
    (event : Bool) (flags : UInt64) :
    eq.eqReadPriv q len event flags = (⟨.error .eagain, none, []⟩, eq) := by
  obtain ⟨hnone, hsame⟩ := howns.removeHead_nil hq
  rw [eqReadPriv_eq, hnone, hsame]

/-- A read of another queue returns an event. -/
lemma eqReadPriv_cons (howns : eq.lists.Owns xs) {node : ℕ} {rest : List ℕ}
    (hq : xs q = node :: rest) (len : ℕ) (event : Bool) (flags : UInt64) :
    eq.eqReadPriv q len event flags
      = (⟨.ok (min (eq.events node).entrySize len),
          if event then some (eq.events node).event else none,
          (eq.events node).entry.take (min (eq.events node).entrySize len)⟩,
        { eq with lists := (eq.lists.removeHead q).2 }) := by
  obtain ⟨hhead, -⟩ := howns.removeHead q
  rw [hq, List.head?_cons] at hhead
  rw [eqReadPriv_eq, hhead]

lemma isEmpty_iff (howns : eq.lists.Owns xs) (q : EqList) :
    (eq.lists.lists q).isEmpty = true ↔ xs q = [] := by
  rw [(howns.holds q).isEmpty_eq, List.isEmpty_iff]

/-- The last step of `dpa_eq_sread` is a read of the event queue, unless it has given up. -/
lemma dpaEqSread_eq (h : Live eq) (len : ℕ) (timeout : ℤ) (flags : UInt64)
    (first second : List Add) :
    eq.dpaEqSread z len timeout flags first second
      = if ((first.foldl (DpaFidEq.eqAdd z) eq).lists.lists .errorQueue).isEmpty then
          (eq.waited z timeout first second).eqReadPriv .eventQueue len true flags
        else (⟨.error .eavail, none, []⟩, eq.waited z timeout first second) := by
  obtain ⟨xs, howns, -⟩ := h.addAll (z := z) first
  rw [dpaEqSread, readOrErr, waited]
  by_cases herror : ((first.foldl (DpaFidEq.eqAdd z) eq).lists.lists .errorQueue).isEmpty
  · simp only [herror, if_true, true_and]
    cases hxs : xs .eventQueue with
    | nil =>
        rw [eqReadPriv_nil howns hxs, (isEmpty_iff howns .eventQueue).2 hxs]
        by_cases htimeout : timeout = 0
        · simp only [htimeout, ne_eq, not_true_eq_false, and_false, if_false]
          rw [eqReadPriv_nil howns hxs]
        · simp only [htimeout, ne_eq, not_false_eq_true, and_self, if_true]
    | cons node rest =>
        have hread := eqReadPriv_cons howns hxs len true flags
        have hne : ¬ ((first.foldl (DpaFidEq.eqAdd z) eq).lists.lists .eventQueue).isEmpty := by
          rw [isEmpty_iff howns, hxs]
          simp
        simp only [hread, hne, Bool.false_eq_true, false_and, if_false]
  · simp only [herror, Bool.false_eq_true, if_false, false_and]

/-- A read gives up, or it ends with a read of its queue. -/
lemma read_eq (h : Live eq) (r : Read) :
    eq.read z r = if eq.refused z r then (⟨.error .eavail, none, []⟩, eq.settled z r)
      else (eq.settled z r).eqReadPriv r.queue (r.len z) r.wantsEvent r.flags := by
  cases r with
  | dpaEqRead len flags first =>
      rw [read, dpaEqSread_eq h]
      cases hempty : ((first.foldl (DpaFidEq.eqAdd z) eq).lists.lists .errorQueue).isEmpty <;>
        simp [refused, settled, hempty, Read.queue, Read.len, Read.wantsEvent, Read.flags]
  | dpaEqSread len timeout flags first second =>
      rw [read, dpaEqSread_eq h]
      cases hempty : ((first.foldl (DpaFidEq.eqAdd z) eq).lists.lists .errorQueue).isEmpty <;>
        simp [refused, settled, hempty, Read.queue, Read.len, Read.wantsEvent, Read.flags]
  | dpaEqReaderr flags => rfl

lemma Conserved.settled (h : Conserved eq) (r : Read) : Conserved (eq.settled z r) := by
  have hwaited (timeout : ℤ) (first second : List Add) :
      Conserved (eq.waited z timeout first second) := by
    rw [waited]
    split
    · exact (h.addAll first).addAll second
    · exact h.addAll first
  cases r with
  | dpaEqRead len flags first => exact hwaited 0 first []
  | dpaEqSread len timeout flags first second => exact hwaited timeout first second
  | dpaEqReaderr flags => exact h

/-- A read that finds its queue empty returns an error, and nothing changes. -/
lemma read_idle (h : Conserved eq) {r : Read} (hidle : eq.Idle z r) :
    ∃ err, eq.read z r = (⟨.error err, none, []⟩, eq.settled z r) := by
  rw [read_eq h.live]
  split
  case isTrue => exact ⟨.eavail, rfl⟩
  case isFalse hrefused =>
      obtain ⟨xs, hfull⟩ := h.settled (z := z) r
      have hempty := (isEmpty_iff hfull.owns r.queue).1 (hidle.resolve_left hrefused)
      exact ⟨.eagain, eqReadPriv_nil hfull.owns hempty _ _ _⟩

/-- Any other read loses a node. -/
lemma read_busy (h : Conserved eq) {r : Read} (hbusy : ¬ eq.Idle z r) :
    ¬ Conserved (eq.read z r).2 := by
  rw [read_eq h.live, if_neg fun hrefused => hbusy (.inl hrefused)]
  obtain ⟨xs, hfull⟩ := h.settled (z := z) r
  cases hxs : xs r.queue with
  | nil => exact absurd (.inr ((isEmpty_iff hfull.owns r.queue).2 hxs)) hbusy
  | cons node rest =>
      rw [eqReadPriv_cons hfull.owns hxs]
      rintro ⟨ys, hys⟩
      exact hfull.not_full_removeHead hxs hys

@[simp] lemma settled_withFlags (eq : DpaFidEq) (r : Read) (flags : UInt64) :
    eq.settled z (r.withFlags flags) = eq.settled z r := by cases r <;> rfl

@[simp] lemma refused_withFlags (eq : DpaFidEq) (r : Read) (flags : UInt64) :
    eq.refused z (r.withFlags flags) = eq.refused z r := by cases r <;> rfl

@[simp] lemma queue_withFlags (r : Read) (flags : UInt64) :
    (r.withFlags flags).queue = r.queue := by cases r <;> rfl

/-- The flags do not change what a read returns. -/
lemma read_withFlags (h : Conserved eq) (r : Read) (flags : UInt64) :
    eq.read z (r.withFlags flags) = eq.read z r := by
  have hargs : (r.withFlags flags).len z = r.len z ∧ (r.withFlags flags).wantsEvent = r.wantsEvent
      := by cases r <;> exact ⟨rfl, rfl⟩
  rw [read_eq h.live, read_eq h.live, refused_withFlags, settled_withFlags, queue_withFlags,
    hargs.1,
    hargs.2, eqReadPriv_eq, eqReadPriv_eq]

/-- A read does what it should exactly when it finds its queue empty. -/
lemma lawful_iff (h : Conserved eq) (r : Read) :
    (∃ xs ys, eq.Lawful z r xs ys) ↔ eq.Idle z r := by
  constructor
  · rintro ⟨xs, ys, hlawful⟩
    by_contra hbusy
    exact read_busy h hbusy ⟨ys, hlawful.after⟩
  · intro hidle
    obtain ⟨err, hread⟩ := read_idle h hidle
    obtain ⟨xs, hfull⟩ := h.settled (z := z) r
    refine ⟨xs, xs, hfull, by rwa [hread], by rw [hread], fun _ => ⟨fun _ _ => rfl, ?_⟩,
      fun _ => ?_⟩
    · rw [read_withFlags h]
    · rw [hread]

/-! ### Runs of additions and reads -/

inductive Event where
  | eqAdd (a : Add)
  | read (r : Read)
  deriving DecidableEq, Repr

def step (z : EqSizes) (eq : DpaFidEq) : Event → Option DpaFidEq
  | .eqAdd a => some (eq.eqAdd z a)
  | .read r => some (eq.read z r).2

/-- A read finds its queue empty. -/
def Fine (z : EqSizes) (eq : DpaFidEq) : Event → Prop
  | .eqAdd _ => True
  | .read r => eq.Idle z r

lemma Conserved.step (h : Conserved eq) {a : Event} (hfine : eq.Fine z a)
    (hstep : eq.step z a = some eq') : Conserved eq' := by
  cases a with
  | eqAdd a =>
      obtain rfl := Option.some.inj hstep
      exact h.eqAdd a
  | read r =>
      obtain rfl := Option.some.inj hstep
      obtain ⟨err, hread⟩ := read_idle h hfine
      rw [hread]
      exact h.settled r

/-- In every run whose reads find their queues empty, every node created is in exactly one of the
three lists, and the next read does what it should exactly when it finds its queue empty. -/
theorem conservation (size : ℕ) (events : ℕ → DpaEqEvent) {run : List Event}
    (hfine : Stepper.Meets (step z) (Fine z) (dpaEqOpen size events) run)
    (hrun : Stepper.run (step z) (dpaEqOpen size events) run = some eq) :
    (∃ xs, eq.lists.Owns xs ∧ ∀ n, n < eq.created → ∃! i, n ∈ xs i)
      ∧ ∀ r, (∃ xs ys, eq.Lawful z r xs ys) ↔ eq.Idle z r := by
  have h : Conserved eq := Stepper.run_induction (I := Conserved)
    (fun _ _ _ h hc hs => h.step hc hs) (conserved_dpaEqOpen size events) hfine hrun
  refine ⟨?_, lawful_iff h⟩
  obtain ⟨xs, hfull⟩ := h
  exact ⟨xs, hfull.owns, fun n hn => hfull.existsUnique hn⟩

/-- An event of eight bytes. -/
def oneEvent : Add := ⟨2, List.replicate 8 1, 8, 0⟩

/-- The event queue is read before its only event is added. -/
theorem conservation_oneEvent :
    ∃ eq, Stepper.run (step ⟨32, 64⟩) (dpaEqOpen 1 fun _ => ⟨0, [], 0, 0⟩)
        [.read (.dpaEqRead 8 fiPeek []), .eqAdd oneEvent] = some eq
      ∧ ∃ xs, eq.lists.Owns xs ∧ ∀ n, n < eq.created → ∃! i, n ∈ xs i := by
  have hfine : Stepper.Meets (step ⟨32, 64⟩) (Fine ⟨32, 64⟩) (dpaEqOpen 1 fun _ => ⟨0, [], 0, 0⟩)
      [.read (.dpaEqRead 8 fiPeek []), .eqAdd oneEvent] :=
    ⟨.inr rfl, fun _ _ => ⟨trivial, fun _ _ => trivial⟩⟩
  exact ⟨_, rfl, (conservation 1 (fun _ => ⟨0, [], 0, 0⟩) hfine rfl).1⟩

/-- With one event queued, a read with `FI_PEEK` returns it and the next read finds nothing; and
whatever its flags a read leaves the node, which is the only one, in none of the lists. -/
theorem peek_removes :
    let eq := (dpaEqOpen 1 fun _ => ⟨0, [], 0, 0⟩).eqAdd ⟨32, 64⟩ oneEvent
    ((eq.read ⟨32, 64⟩ (.dpaEqRead 8 fiPeek [])).1 = ⟨.ok 8, some 2, List.replicate 8 1⟩
        ∧ ((eq.read ⟨32, 64⟩ (.dpaEqRead 8 fiPeek [])).2.read ⟨32, 64⟩ (.dpaEqRead 8 0 [])).1
          = ⟨.error .eagain, none, []⟩)
      ∧ eq.created = 1 ∧ ∀ flags xs, (eq.read ⟨32, 64⟩ (.dpaEqRead 8 flags [])).2.lists.Owns xs →
        ∀ i, xs i = [] := by
  intro eq
  refine ⟨⟨rfl, rfl⟩, rfl, fun flags xs howns i => ?_⟩
  have hconserved : Conserved eq := (conserved_dpaEqOpen 1 _).eqAdd oneEvent
  have hread : eq.read ⟨32, 64⟩ (.dpaEqRead 8 flags []) = eq.read ⟨32, 64⟩ (.dpaEqRead 8 0 []) :=
    read_withFlags hconserved (.dpaEqRead 8 0 []) flags
  rw [hread] at howns
  refine List.head?_eq_none_iff.1 ((howns.holds i).head.symm.trans ?_)
  cases i <;> rfl

end DpaFidEq

end DpaProvider
