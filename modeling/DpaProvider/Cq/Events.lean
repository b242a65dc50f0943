import DpaProvider.Library.Slist
import DpaProvider.Library.Stepper
import DpaProvider.Msg.Endpoint

/-!
The events of a completion queue.

Events lie in nodes that go round between three lists: from the free list, or from the
heap, to one of the two queues, and back when the event is read.

* `cqAddSrc`, `cqReadPriv`: `cq_add_src` and `cq_read_priv` on the lists;
* `Contents`: what the two queues hold, with every node in exactly one list;
* `Contents.cqAddSrc`, `Contents.cqReadPriv`: on the contents these are a push at the end and
  a removal from the front;
* `fifo`: over every run of additions and reads, what was returned, followed by what is still
  queued, is what was added.
-/

namespace DpaProvider

/-- The `fi_cq_err_entry` as it lies in memory: its bytes, and the field `err` among them. -/
structure CqEntry where
  bytes : List UInt8
  err : ℤ
  deriving DecidableEq, Repr

/-- The `dpa_cq_event`, without its link. -/
structure DpaCqEvent where
  entry : CqEntry
  srcAddr : UInt64
  deriving DecidableEq, Repr

/-- The lists of a completion queue. -/
inductive CqList where
  | eventQueue
  | errorQueue
  | freeList
  deriving DecidableEq, Repr

/-- The `fi_cq_format`. -/
inductive CqFormat where
  | unspec
  | context
  | msg
  | data
  | tagged
  deriving DecidableEq, Repr

/-- The sizes of the entry types. -/
structure EntrySizes where
  cqEntry : ℕ
  cqMsgEntry : ℕ
  cqDataEntry : ℕ
  cqTaggedEntry : ℕ
  cqErrEntry : ℕ
  deriving DecidableEq, Repr

/-- `format_size`. -/
def formatSize (z : EntrySizes) : CqFormat → ℕ
  | .context => z.cqEntry
  | .data => z.cqDataEntry
  | .tagged => z.cqTaggedEntry
  | .unspec | .msg => z.cqMsgEntry

/-- The `dpa_fid_cq` with its nodes: the contents of a node, and the number of nodes ever
created.  `added` records the history. -/
structure DpaFidCq where
  entrySize : ℕ
  lists : Pool CqList
  events : ℕ → DpaCqEvent
  created : ℕ
  added : List DpaCqEvent

namespace DpaFidCq

variable {z : EntrySizes} {cq : DpaFidCq} {c : CqList → List DpaCqEvent} {q : CqList}

/-- The loop of `dpa_cq_open` that creates the nodes. -/
def createNodes : ℕ → DpaFidCq → DpaFidCq
  | 0, cq => cq
  | n + 1, cq => createNodes n
      { cq with lists := cq.lists.insertTail .freeList cq.created, created := cq.created + 1 }

/-- `dpa_cq_open`; `events` is what the memory of the nodes holds. -/
def dpaCqOpen (z : EntrySizes) (format : CqFormat) (size : ℕ) (events : ℕ → DpaCqEvent) :
    DpaFidCq :=
  createNodes size
    { entrySize := formatSize z format
      lists := Pool.init CqList
      events
      created := 0
      added := [] }

/-- The queue that an entry belongs to. -/
def queueOf (entry : CqEntry) : CqList := if entry.err ≠ 0 then .errorQueue else .eventQueue

/-- `cq_add_src`, between the lock and the unlock, with `get_empty_event`. -/
def cqAddSrc (cq : DpaFidCq) (event : DpaCqEvent) : DpaFidCq :=
  let (node, lists, created) := cq.lists.alloc .freeList cq.created
  { cq with
    events := Function.update cq.events node event
    lists := lists.insertTail (queueOf event.entry) node
    created
    added := cq.added ++ [event] }

/-- The loop of `cq_read_priv`: the events it copies out. -/
def readLoop (q : CqList) : ℕ → DpaFidCq → List DpaCqEvent × DpaFidCq
  | 0, cq => ([], cq)
  | n + 1, cq =>
      let r := cq.lists.removeHead q
      match r.1 with
      | none => ([], { cq with lists := r.2 })
      | some node =>
          let rest := readLoop q n { cq with lists := r.2.insertTail .freeList node }
          (cq.events node :: rest.1, rest.2)

/-- What is copied to the user for an event: the leading bytes of the entry, and the source
address if it is asked for. -/
def copied (entrySize : ℕ) (srcAddr : Bool) (event : DpaCqEvent) : List UInt8 × Option UInt64 :=
  (event.entry.bytes.take entrySize, if srcAddr then some event.srcAddr else none)

/-- The return value of a read, and what it copies to the user. -/
structure Result where
  ret : Except FiErr ℕ
  out : List (List UInt8 × Option UInt64)

/-- `cq_read_priv`. -/
def cqReadPriv (cq : DpaFidCq) (q : CqList) (entrySize count : ℕ) (srcAddr : Bool) :
    Result × DpaFidCq :=
  let r := readLoop q count cq
  (⟨if 0 < r.1.length then .ok r.1.length else .error .eagain, r.1.map (copied entrySize srcAddr)⟩,
    r.2)

/-- The reads.  `first` and `second` are the events added while the read makes progress at its
beginning, and while it waits. -/
inductive Read where
  | dpaCqRead (count : ℕ) (first : List DpaCqEvent)
  | dpaCqReadfrom (count : ℕ) (srcAddr : Bool) (first : List DpaCqEvent)
  | dpaCqSreadfrom (count : ℕ) (srcAddr : Bool) (timeout : ℤ) (first second : List DpaCqEvent)
  | dpaCqReaderr
  deriving DecidableEq, Repr

/-- `dpa_cq_sreadfrom`. -/
def dpaCqSreadfrom (cq : DpaFidCq) (count : ℕ) (srcAddr : Bool) (timeout : ℤ)
    (first second : List DpaCqEvent) : Result × DpaFidCq :=
  let cq := first.foldl cqAddSrc cq
  let (result, cq) := cq.cqReadPriv .eventQueue cq.entrySize count srcAddr
  match result.ret with
  | .ok _ => (result, cq)
  | .error _ =>
      if timeout ≠ 0 then
        let cq := second.foldl cqAddSrc cq
        cq.cqReadPriv .eventQueue cq.entrySize count srcAddr
      else (result, cq)

/-- A read. -/
def read (z : EntrySizes) (cq : DpaFidCq) : Read → Result × DpaFidCq
  | .dpaCqRead count first => cq.dpaCqSreadfrom count false 0 first []
  | .dpaCqReadfrom count srcAddr first => cq.dpaCqSreadfrom count srcAddr 0 first []
  | .dpaCqSreadfrom count srcAddr timeout first second =>
      cq.dpaCqSreadfrom count srcAddr timeout first second
  | .dpaCqReaderr => cq.cqReadPriv .errorQueue z.cqErrEntry 1 false

/-! ### What the lists hold -/

/-- The two queues hold the events `c`, from the oldest. -/
def Contents (cq : DpaFidCq) (c : CqList → List DpaCqEvent) : Prop :=
  ∃ xs, cq.lists.Full cq.created xs ∧ ∀ q, q ≠ .freeList → (xs q).map cq.events = c q

variable {xs : CqList → List ℕ}

lemma queueOf_ne_freeList (entry : CqEntry) : queueOf entry ≠ .freeList := by
  rw [queueOf]
  split <;> decide

lemma Contents.cqAddSrc (h : Contents cq c) (event : DpaCqEvent) :
    Contents (cq.cqAddSrc event)
      (Function.update c (queueOf event.entry) (c (queueOf event.entry) ++ [event])) := by
  obtain ⟨xs, hfull, hc⟩ := h
  have hq := queueOf_ne_freeList event.entry
  obtain ⟨ys, hfull', hys, hother, hfresh⟩ := hfull.alloc hq.symm
  refine ⟨ys, hfull', fun q hq' => ?_⟩
  have hmap (k : CqList) (hk : k ≠ .freeList) :
      (xs k).map (cq.cqAddSrc event).events = (xs k).map cq.events :=
    List.map_congr_left fun n hn =>
      Function.update_of_ne (ne_of_mem_of_not_mem hn (hfresh k hk)) _ _
  by_cases hqe : q = queueOf event.entry
  · subst hqe
    rw [Function.update_self, hys, List.map_append, hmap _ hq, hc _ hq]
    exact congrArg (c (queueOf event.entry) ++ [·]) (Function.update_self _ _ _)
  · rw [Function.update_of_ne hqe, hother q hq' hqe, hmap q hq', hc q hq']

/-- The queue of an endpoint's completions, with entries laid out by `encode`, is represented
by the lists. -/
def Represents (encode : CqErrEntry → DpaCqEvent) (cq : DpaFidCq) (queue : CompletionQueue) :
    Prop :=
  ∃ c, Contents cq c ∧ c .eventQueue = queue.eventQueue.map encode
    ∧ c .errorQueue = queue.errorQueue.map encode

/-- `cq_add` on the lists does what the calls of an endpoint take it to do. -/
lemma Represents.cqAdd {encode : CqErrEntry → DpaCqEvent} {queue : CompletionQueue}
    (herr : ∀ e, (encode e).entry.err ≠ 0 ↔ e.err ≠ .success) (h : Represents encode cq queue)
    (e : CqErrEntry) : Represents encode (cq.cqAddSrc (encode e)) (DpaProvider.cqAdd queue e) := by
  obtain ⟨c, hc, hevents, herrors⟩ := h
  refine ⟨_, hc.cqAddSrc (encode e), ?_⟩
  rw [DpaProvider.cqAdd, queueOf]
  by_cases hsuccess : e.err = .success
  · rw [if_pos hsuccess, if_neg fun h => (herr e).1 h hsuccess]
    refine ⟨?_, ?_⟩
    · rw [Function.update_self, hevents, List.map_append, List.map_singleton]
    · rwa [Function.update_of_ne (by simp)]
  · rw [if_neg hsuccess, if_pos ((herr e).2 hsuccess)]
    refine ⟨?_, ?_⟩
    · rwa [Function.update_of_ne (by simp)]
    · rw [Function.update_self, herrors, List.map_append, List.map_singleton]

/-- Reading adds nothing. -/
lemma readLoop_added (q : CqList) (count : ℕ) (cq : DpaFidCq) :
    (DpaFidCq.readLoop q count cq).2.added = cq.added := by
  induction count generalizing cq with
  | zero => rfl
  | succ n ih =>
      rw [DpaFidCq.readLoop]
      split
      · rfl
      · exact ih _

/-- The loop takes the first `count` events off the queue. -/
lemma Contents.readLoop (h : Contents cq c) (hq : q ≠ .freeList) (count : ℕ) :
    (DpaFidCq.readLoop q count cq).1 = (c q).take count
      ∧ Contents (DpaFidCq.readLoop q count cq).2 (Function.update c q ((c q).drop count))
      ∧ (DpaFidCq.readLoop q count cq).2.entrySize = cq.entrySize := by
  induction count generalizing cq c with
  | zero =>
      rw [List.drop_zero, Function.update_eq_self]
      exact ⟨rfl, h, rfl⟩
  | succ n ih =>
      obtain ⟨xs, hfull, hc⟩ := h
      obtain ⟨hhead, howns⟩ := hfull.owns.removeHead q
      cases hxs : xs q with
      | nil =>
          have hempty : c q = [] := by rw [← hc q hq, hxs, List.map_nil]
          rw [hxs, List.tail_nil, ← hxs, Function.update_eq_self] at howns
          rw [hxs] at hhead
          simp only [DpaFidCq.readLoop, hhead, List.head?_nil, hempty, List.take_nil,
            List.drop_nil]
          rw [← hempty, Function.update_eq_self]
          exact ⟨trivial, ⟨xs, ⟨howns, hfull.created⟩, hc⟩, trivial⟩
      | cons node rest =>
          rw [hxs] at hhead
          simp only [DpaFidCq.readLoop, hhead, List.head?_cons]
          have hnext : Contents
              { cq with lists := (cq.lists.removeHead q).2.insertTail .freeList node }
              (Function.update c q (c q).tail) := by
            refine ⟨_, hfull.move hq hxs, fun k hk => ?_⟩
            by_cases hkq : k = q
            · subst hkq
              rw [Pool.moved_source xs hk, Function.update_self, ← hc k hk, List.map_tail]
            · rw [Pool.moved_of_ne xs hkq hk, Function.update_of_ne hkq, hc k hk]
          have hcq : c q = cq.events node :: (c q).tail := by
            rw [← hc q hq, hxs, List.map_cons, List.tail_cons]
          obtain ⟨hout, hcontents, hsize⟩ := ih hnext
          rw [Function.update_self] at hout hcontents
          rw [Function.update_idem] at hcontents
          refine ⟨?_, ?_, hsize⟩
          · rw [hout, hcq, List.take_succ_cons, List.tail_cons]
          · rwa [hcq, List.drop_succ_cons]

/-! ### Reads -/

/-- The events of a queue among those added. -/
def ofQueue (q : CqList) (events : List DpaCqEvent) : List DpaCqEvent :=
  events.filter fun e => queueOf e.entry = q

lemma ofQueue_append (q : CqList) (l l' : List DpaCqEvent) :
    ofQueue q (l ++ l') = ofQueue q l ++ ofQueue q l' := List.filter_append _ _

lemma addAll_added (cq : DpaFidCq) (events : List DpaCqEvent) :
    (events.foldl DpaFidCq.cqAddSrc cq).added = cq.added ++ events := by
  induction events generalizing cq with
  | nil => rw [List.foldl_nil, List.append_nil]
  | cons e rest ih =>
      rw [List.foldl_cons, ih, List.append_cons]
      rfl

/-- Events that are added one after the other go to the ends of their queues. -/
lemma Contents.addAll (h : Contents cq c) (events : List DpaCqEvent) :
    Contents (events.foldl DpaFidCq.cqAddSrc cq) (fun q => c q ++ ofQueue q events)
      ∧ (events.foldl DpaFidCq.cqAddSrc cq).entrySize = cq.entrySize := by
  induction events generalizing cq c with
  | nil => simpa [ofQueue] using h
  | cons e rest ih =>
      obtain ⟨hnext, hsize⟩ := ih (h.cqAddSrc e)
      refine ⟨cast (congrArg _ (funext fun q => ?_)) hnext, hsize⟩
      by_cases hq : queueOf e.entry = q
      · subst hq
        simp [ofQueue]
      · simp [ofQueue, hq, Function.update_of_ne (Ne.symm hq)]

namespace Read

/-- The queue that a read takes events from. -/
def queue : Read → CqList
  | .dpaCqReaderr => .errorQueue
  | _ => .eventQueue

/-- How many events a read asks for. -/
def count : Read → ℕ
  | .dpaCqRead count _ => count
  | .dpaCqReadfrom count _ _ => count
  | .dpaCqSreadfrom count _ _ _ _ => count
  | .dpaCqReaderr => 1

/-- What a read copies for an event. -/
def copied (z : EntrySizes) (entrySize : ℕ) : Read → DpaCqEvent → List UInt8 × Option UInt64
  | .dpaCqRead _ _ => DpaFidCq.copied entrySize false
  | .dpaCqReadfrom _ srcAddr _ => DpaFidCq.copied entrySize srcAddr
  | .dpaCqSreadfrom _ srcAddr _ _ _ => DpaFidCq.copied entrySize srcAddr
  | .dpaCqReaderr => DpaFidCq.copied z.cqErrEntry false

lemma queue_ne_freeList (r : Read) : r.queue ≠ .freeList := by cases r <;> simp [queue]

/-- The events that are added during a read. -/
def adds (cq : DpaFidCq) : Read → List DpaCqEvent
  | .dpaCqRead _ first => first
  | .dpaCqReadfrom _ _ first => first
  | .dpaCqSreadfrom count srcAddr timeout first second =>
      -- it waits only if it has found nothing
      let cq := first.foldl cqAddSrc cq
      match (cq.cqReadPriv .eventQueue cq.entrySize count srcAddr).1.ret with
      | .ok _ => first
      | .error _ => if timeout ≠ 0 then first ++ second else first
  | .dpaCqReaderr => []

end Read

/-- Nothing else is added. -/
lemma read_added (z : EntrySizes) (cq : DpaFidCq) (r : Read) :
    (cq.read z r).2.added = cq.added ++ r.adds cq := by
  have hread (cq : DpaFidCq) (q : CqList) (entrySize count : ℕ) (srcAddr : Bool) :
      (cq.cqReadPriv q entrySize count srcAddr).2.added = cq.added := readLoop_added q count cq
  have hnowait (cq : DpaFidCq) (count : ℕ) (srcAddr : Bool) (first : List DpaCqEvent) :
      (cq.dpaCqSreadfrom count srcAddr 0 first []).2.added = cq.added ++ first := by
    simp only [DpaFidCq.dpaCqSreadfrom, ne_eq, not_true_eq_false, if_false]
    split <;> rw [hread, addAll_added]
  cases r with
  | dpaCqRead count first => exact hnowait cq count false first
  | dpaCqReadfrom count srcAddr first => exact hnowait cq count srcAddr first
  | dpaCqSreadfrom count srcAddr timeout first second =>
      simp only [read, DpaFidCq.dpaCqSreadfrom, Read.adds]
      split
      · rw [hread, addAll_added]
      · split <;> simp only [hread, addAll_added, List.append_assoc]
  | dpaCqReaderr => exact (hread cq .errorQueue z.cqErrEntry 1 false).trans (List.append_nil _).symm

/-- What a read that takes `taken` returns. -/
def returns (taken : List DpaCqEvent) : Except FiErr ℕ :=
  if 0 < taken.length then .ok taken.length else .error .eagain

/-- A read of the queue `q`, which asks for `count` events and copies `f` of each, takes `taken`
while `new` is added. -/
structure Takes (cq cq' : DpaFidCq) (c c' : CqList → List DpaCqEvent) (q : CqList) (count : ℕ)
    (f : DpaCqEvent → List UInt8 × Option UInt64) (res : Result)
    (taken new : List DpaCqEvent) : Prop where
  contents : Contents cq' c'
  added : cq'.added = cq.added ++ new
  entrySize : cq'.entrySize = cq.entrySize
  out : res.out = taken.map f
  ret : res.ret = returns taken
  order : ∀ k, k ≠ .freeList → (if k = q then taken else []) ++ c' k = c k ++ ofQueue k new
  most : taken.length = min count (taken.length + (c' q).length)

lemma Contents.cqReadPriv (h : Contents cq c) (hq : q ≠ .freeList) (entrySize count : ℕ)
    (srcAddr : Bool) :
    Takes cq (cq.cqReadPriv q entrySize count srcAddr).2 c (Function.update c q ((c q).drop count))
      q count (DpaFidCq.copied entrySize srcAddr) (cq.cqReadPriv q entrySize count srcAddr).1
      ((c q).take count) [] := by
  obtain ⟨hout, hcontents, hsize⟩ := h.readLoop hq count
  have hadded := readLoop_added q count cq
  refine ⟨hcontents, hadded.trans (List.append_nil _).symm, hsize, ?_, ?_, fun k _ => ?_, ?_⟩
  · exact congrArg (List.map _) hout
  · rw [returns, ← hout]
    rfl
  · by_cases hk : k = q
    · subst hk
      simp [ofQueue]
    · simp [ofQueue, hk]
  · rw [Function.update_self, List.length_take, List.length_drop]
    omega

/-- What was added before a read counts as added by it. -/
lemma Takes.addAll {cq' : DpaFidCq} {c' : CqList → List DpaCqEvent} {count : ℕ}
    {f : DpaCqEvent → List UInt8 × Option UInt64} {res : Result} {taken new : List DpaCqEvent}
    (h : Contents cq c) (first : List DpaCqEvent)
    (ht : Takes (first.foldl DpaFidCq.cqAddSrc cq) cq' (fun q => c q ++ ofQueue q first) c' q count
      f res taken new) : Takes cq cq' c c' q count f res taken (first ++ new) where
  contents := ht.contents
  added := by rw [ht.added, addAll_added, List.append_assoc]
  entrySize := ht.entrySize.trans (h.addAll first).2
  out := ht.out
  ret := ht.ret
  order := fun k hk => by rw [ht.order k hk, ofQueue_append, List.append_assoc]
  most := ht.most

/-- A read that takes nothing leaves the queues alone. -/
lemma Takes.contents_of_nil {cq' : DpaFidCq} {count : ℕ}
    {f : DpaCqEvent → List UInt8 × Option UInt64} {res : Result} {err : FiErr}
    (ht : Takes cq cq' c (Function.update c q ((c q).drop count)) q count f res
      ((c q).take count) []) (hret : res.ret = .error err) : Contents cq' c := by
  have hnone : (c q).take count = [] := by
    by_contra hne
    rw [ht.ret, returns, if_pos (List.length_pos_of_ne_nil hne)] at hret
    exact absurd hret (by simp)
  have hall : (c q).drop count = c q := by
    calc (c q).drop count = (c q).take count ++ (c q).drop count := by rw [hnone, List.nil_append]
      _ = c q := List.take_append_drop count (c q)
  have hcontents := ht.contents
  rwa [hall, Function.update_eq_self] at hcontents

lemma Contents.dpaCqSreadfrom (h : Contents cq c) (count : ℕ) (srcAddr : Bool) (timeout : ℤ)
    (first second : List DpaCqEvent) : ∃ c' taken new,
      Takes cq (cq.dpaCqSreadfrom count srcAddr timeout first second).2 c c' .eventQueue count
        (DpaFidCq.copied cq.entrySize srcAddr)
        (cq.dpaCqSreadfrom count srcAddr timeout first second).1 taken new := by
  have hfirst := h.addAll first
  have hq : CqList.eventQueue ≠ .freeList := by simp
  have ht := hfirst.1.cqReadPriv hq cq.entrySize count srcAddr
  rw [DpaFidCq.dpaCqSreadfrom]
  simp only [hfirst.2]
  cases hret : ((first.foldl DpaFidCq.cqAddSrc cq).cqReadPriv .eventQueue cq.entrySize count
      srcAddr).1.ret with
  | ok n => exact ⟨_, _, _, ht.addAll h first⟩
  | error err =>
      dsimp only
      split
      case isFalse => exact ⟨_, _, _, ht.addAll h first⟩
      case isTrue =>
          -- nothing was taken, and the read begins again
          have hsecond := (ht.contents_of_nil hret).addAll second
          have ht₂ := (hsecond.1.cqReadPriv hq cq.entrySize count srcAddr).addAll
            (ht.contents_of_nil hret) second
          have hbase : Takes (first.foldl DpaFidCq.cqAddSrc cq) _ _ _ _ _ _ _ _ _ :=
            { ht₂ with
              added := by rw [ht₂.added, ht.added, List.append_nil]
              entrySize := ht₂.entrySize.trans ht.entrySize }
          have hsize : (second.foldl DpaFidCq.cqAddSrc
              ((first.foldl DpaFidCq.cqAddSrc cq).cqReadPriv
              .eventQueue cq.entrySize count srcAddr).2).entrySize = cq.entrySize :=
            hsecond.2.trans (ht.entrySize.trans hfirst.2)
          rw [hsize]
          exact ⟨_, _, _, hbase.addAll h first⟩

/-- Every read takes the events at the front of its queue, as many as it asks for or all. -/
lemma Contents.read (h : Contents cq c) (z : EntrySizes) (r : Read) : ∃ c' taken new,
    Takes cq (cq.read z r).2 c c' r.queue r.count (r.copied z cq.entrySize) (cq.read z r).1 taken
      new := by
  cases r with
  | dpaCqRead count first => exact h.dpaCqSreadfrom count false 0 first []
  | dpaCqReadfrom count srcAddr first => exact h.dpaCqSreadfrom count srcAddr 0 first []
  | dpaCqSreadfrom count srcAddr timeout first second =>
      exact h.dpaCqSreadfrom count srcAddr timeout first second
  | dpaCqReaderr => exact ⟨_, _, _, h.cqReadPriv (by simp) z.cqErrEntry 1 false⟩

/-! ### Runs of additions and reads -/

/-- A completion queue, with the reads so far and what they gave. -/
structure Log where
  cq : DpaFidCq
  reads : List (Read × Result)

inductive Event where
  | cqAddSrc (event : DpaCqEvent)
  | read (r : Read)
  deriving DecidableEq, Repr

def step (z : EntrySizes) (l : Log) : Event → Option Log
  | .cqAddSrc event => some { l with cq := l.cq.cqAddSrc event }
  | .read r => some ⟨(l.cq.read z r).2, l.reads ++ [(r, (l.cq.read z r).1)]⟩

/-- The events that a step adds. -/
def Event.adds (l : Log) : Event → List DpaCqEvent
  | .cqAddSrc event => [event]
  | .read r => r.adds l.cq

/-- The events that a run adds, in order. -/
def additions (z : EntrySizes) : Log → List Event → List DpaCqEvent
  | _, [] => []
  | l, e :: run => e.adds l ++ ((step z l e).map fun l' => additions z l' run).getD []

/-- What the reads of a queue have copied, each entry with its read. -/
def Log.returned (q : CqList) (l : Log) : List (Read × List UInt8 × Option UInt64) :=
  l.reads.flatMap fun r => if r.1.queue = q then r.2.out.map (r.1, ·) else []

/-- An event was returned by a read, with its leading bytes and its source address. -/
def Returned (z : EntrySizes) (entrySize : ℕ) (event : DpaCqEvent)
    (out : Read × List UInt8 × Option UInt64) : Prop := out.2 = out.1.copied z entrySize event

/-- What was returned of a queue, followed by what is in it, is what was added to it. -/
structure Fifo (z : EntrySizes) (entrySize : ℕ) (l : Log) (c : CqList → List DpaCqEvent) :
    Prop where
  contents : Contents l.cq c
  size : l.cq.entrySize = entrySize
  order : ∀ q, q ≠ .freeList → ∃ taken, taken ++ c q = ofQueue q l.cq.added
    ∧ List.Forall₂ (Returned z entrySize) taken (l.returned q)

variable {l l' : Log} {entrySize : ℕ}

/-- What is recorded as added is what the run has added. -/
lemma added_run {run : List Event} (hrun : Stepper.run (step z) l run = some l') :
    l'.cq.added = l.cq.added ++ additions z l run := by
  induction run generalizing l with
  | nil =>
      obtain rfl : l = l' := Option.some.inj hrun
      exact (List.append_nil _).symm
  | cons e run ih =>
      obtain ⟨l₁, hstep, hrest⟩ := Stepper.run_cons_some _ hrun
      have hadds : l₁.cq.added = l.cq.added ++ e.adds l := by
        cases e with
        | cqAddSrc event =>
            obtain rfl := Option.some.inj hstep
            rfl
        | read r =>
            obtain rfl := Option.some.inj hstep
            exact read_added z l.cq r
      rw [ih hrest, hadds, additions, hstep, List.append_assoc]
      rfl

lemma Fifo.step (hf : Fifo z entrySize l c) {a : Event} (hstep : step z l a = some l') :
    ∃ c', Fifo z entrySize l' c' := by
  cases a with
  | cqAddSrc event =>
      obtain rfl := Option.some.inj hstep
      have hadd := hf.contents.addAll [event]
      refine ⟨_, hadd.1, hf.size, fun q hq => ?_⟩
      obtain ⟨taken, horder, hreturned⟩ := hf.order q hq
      refine ⟨taken, ?_, hreturned⟩
      rw [← List.append_assoc, horder, ← ofQueue_append]
      rfl
  | read r =>
      obtain rfl := Option.some.inj hstep
      obtain ⟨c', taken, new, ht⟩ := hf.contents.read z r
      refine ⟨c', ht.contents, ht.entrySize.trans hf.size, fun q hq => ?_⟩
      obtain ⟨before, horder, hreturned⟩ := hf.order q hq
      refine ⟨before ++ if q = r.queue then taken else [], ?_, ?_⟩
      · rw [List.append_assoc, ht.order q hq, ← List.append_assoc, horder, ht.added,
          ofQueue_append]
      · rw [Log.returned, List.flatMap_append]
        refine List.rel_append hreturned ?_
        rw [List.flatMap_singleton]
        by_cases hqr : q = r.queue
        · rw [if_pos hqr, if_pos hqr.symm, ht.out, List.map_map, List.forall₂_map_right_iff,
            List.forall₂_same]
          exact fun e _ => by rw [← hf.size]; rfl
        · rw [if_neg hqr, if_neg (Ne.symm hqr)]
          exact .nil

lemma contents_createNodes (n : ℕ) (h : Contents cq fun _ => []) :
    Contents (createNodes n cq) (fun _ => []) ∧ (createNodes n cq).added = cq.added
      ∧ (createNodes n cq).entrySize = cq.entrySize := by
  induction n generalizing cq with
  | zero => exact ⟨h, rfl, rfl⟩
  | succ n ih =>
      obtain ⟨xs, hfull, hc⟩ := h
      refine ih ⟨_, hfull.create .freeList, fun q hq => ?_⟩
      rw [Function.update_of_ne hq]
      exact hc q hq

/-- A new completion queue. -/
def opened (z : EntrySizes) (format : CqFormat) (size : ℕ) (events : ℕ → DpaCqEvent) : Log :=
  ⟨dpaCqOpen z format size events, []⟩

lemma fifo_opened (z : EntrySizes) (format : CqFormat) (size : ℕ) (events : ℕ → DpaCqEvent) :
    Fifo z (formatSize z format) (opened z format size events) fun _ => [] := by
  have hempty : Contents (dpaCqOpen z format 0 events) fun _ => [] :=
    ⟨_, Pool.full_init CqList, fun _ _ => rfl⟩
  obtain ⟨hcontents, hadded, hsize⟩ := contents_createNodes size hempty
  refine ⟨hcontents, hsize, fun q _ => ⟨[], ?_, .nil⟩⟩
  rw [show (opened z format size events).cq.added = [] from hadded]
  rfl

/-- For every format and size, and every run of additions and reads:

* for each of the two queues, the events that its reads have returned, each with its leading
  bytes and, where it was asked for, its source address, followed by those still in the queue
  are the events added to it, in order;
* every node created is in exactly one of the three lists;
* a read that comes next returns as many events as it asks for, or all, and `-FI_EAGAIN` where
  it has returned none;
* the events added are those of the run: of its additions, and of its reads while they make progress
  or wait. -/
theorem fifo (z : EntrySizes) (format : CqFormat) (size : ℕ) (events : ℕ → DpaCqEvent)
    {run : List Event} (hrun : Stepper.run (step z) (opened z format size events) run = some l) :
    (∃ xs, l.cq.lists.Owns xs ∧ (∀ n, n < l.cq.created → ∃! i, n ∈ xs i)
        ∧ ∀ q, q ≠ .freeList → ∃ taken,
          taken ++ (xs q).map l.cq.events = ofQueue q l.cq.added
          ∧ List.Forall₂ (Returned z (formatSize z format)) taken (l.returned q))
      ∧ (∀ r, ∃ xs, (l.cq.read z r).2.lists.Owns xs
        ∧ (l.cq.read z r).1.out.length
          = min r.count ((l.cq.read z r).1.out.length + (xs r.queue).length)
        ∧ (l.cq.read z r).1.ret = if 0 < (l.cq.read z r).1.out.length
          then .ok (l.cq.read z r).1.out.length else .error .eagain)
      ∧ l.cq.added = additions z (opened z format size events) run := by
  obtain ⟨c, hf⟩ : ∃ c, Fifo z (formatSize z format) l c :=
    Stepper.run_invariant (I := fun l => ∃ c, Fifo z (formatSize z format) l c)
      (fun _ _ _ ⟨_, hf⟩ hs => hf.step hs) ⟨_, fifo_opened z format size events⟩ hrun
  refine ⟨?_, ?_, ?_⟩
  · obtain ⟨xs, hfull, hc⟩ := hf.contents
    refine ⟨xs, hfull.owns, fun n hn => hfull.existsUnique hn, fun q hq => ?_⟩
    rw [hc q hq]
    exact hf.order q hq
  · intro r
    obtain ⟨c', taken, new, ht⟩ := hf.contents.read z r
    obtain ⟨xs, hfull, hc⟩ := ht.contents
    refine ⟨xs, hfull.owns, ?_, ?_⟩
    · have hlen : (xs r.queue).length = (c' r.queue).length := by
        rw [← hc _ r.queue_ne_freeList, List.length_map]
      rw [ht.out, List.length_map, hlen]
      exact ht.most
    · rw [ht.out, List.length_map]
      exact ht.ret
  · have hempty : (opened z format size events).cq.added = [] :=
      (contents_createNodes size ⟨_, Pool.full_init CqList, fun _ _ => rfl⟩).2.1
    rw [added_run hrun, hempty, List.nil_append]

/-- Two successes and a failure are added to a queue with one node, and read from the two queues;
another success comes while a read waits. -/
def fourEvents : List Event :=
  [.cqAddSrc ⟨⟨List.replicate 72 1, 0⟩, 11⟩, .cqAddSrc ⟨⟨List.replicate 72 2, 5⟩, 12⟩,
    .cqAddSrc ⟨⟨List.replicate 72 3, 0⟩, 13⟩, .read (.dpaCqReadfrom 1 true []),
    .read .dpaCqReaderr, .read (.dpaCqSreadfrom 4 true 10 [] []),
    .read (.dpaCqSreadfrom 4 true 10 [] [⟨⟨List.replicate 72 4, 0⟩, 14⟩])]

theorem fifo_fourEvents :
    ∃ l, Stepper.run (step ⟨8, 24, 40, 48, 72⟩)
        (opened ⟨8, 24, 40, 48, 72⟩ .context 1 fun _ => ⟨⟨[], 0⟩, 0⟩) fourEvents = some l
      ∧ (l.returned .eventQueue).map Prod.snd = [(List.replicate 8 1, some 11),
        (List.replicate 8 3, some 13), (List.replicate 8 4, some 14)]
      ∧ (l.returned .errorQueue).map Prod.snd = [(List.replicate 72 2, none)]
      ∧ (∃ xs, l.cq.lists.Owns xs ∧ ∀ n, n < l.cq.created → ∃! i, n ∈ xs i)
      ∧ l.cq.added.map DpaCqEvent.srcAddr = [11, 12, 13, 14] := by
  have hview : (Stepper.run (step ⟨8, 24, 40, 48, 72⟩)
      (opened ⟨8, 24, 40, 48, 72⟩ .context 1 fun _ => ⟨⟨[], 0⟩, 0⟩) fourEvents).map
      (fun l => ((l.returned .eventQueue).map Prod.snd, (l.returned .errorQueue).map Prod.snd))
      = some ([(List.replicate 8 1, some 11), (List.replicate 8 3, some 13),
        (List.replicate 8 4, some 14)], [(List.replicate 72 2, none)]) := by decide +kernel
  obtain ⟨l, hrun, hreturned⟩ := Option.map_eq_some_iff.1 hview
  obtain ⟨hevents, herrors⟩ := Prod.mk.inj hreturned
  obtain ⟨⟨xs, howns, hunique, -⟩, -, hadded⟩ := fifo _ _ _ _ hrun
  refine ⟨l, hrun, hevents, herrors, ⟨xs, howns, hunique⟩, ?_⟩
  rw [hadded]
  decide +kernel

end DpaFidCq

end DpaProvider
