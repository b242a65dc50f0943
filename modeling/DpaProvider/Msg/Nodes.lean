import DpaProvider.Library.Search
import DpaProvider.Library.Stepper
import DpaProvider.Msg.Accounting

/-!
The nodes of the message queues, and their links.

A `msg_queue_entry` carries its own link.  Those of an endpoint come in batches, each for one
direction, and are in the `msg_queue` or the `free_entries` of it; the batches are linked too, in
`free_entries_ptrs`, which `dpa_ep_close` frees.

* `NodeState`: the functions on nodes and links, and `NodeHost`: the calls of `dpa_msg.c` over them;
* `Conserved`: every node is in one list of its direction, and every batch is on
  `free_entries_ptrs`;
* `call_refines`: the calls do what they do with queues that are lists;
* `nodes_conserved`: what holds of the nodes after every sequence of calls, whatever changes around
  the endpoint between them.
-/

namespace DpaProvider

/-- The lists through the nodes of an endpoint. -/
inductive NodeList where
  | msgQueue (dir : Direction)
  | freeEntries (dir : Direction)
  deriving DecidableEq, Repr

/-- The nodes of an endpoint: the entry `i` of the batch `b` has the number
`MSG_QUEUE_ENTRIES_BATCH_SIZE * b + i`.  `ptrs` are the links of the batches with
`free_entries_ptrs`, and `batches` are the directions that they were created for.  `msg` says
whether the endpoint has a `fi_ops_msg`. -/
structure NodeState where
  pool : Pool NodeList
  nodes : ℕ → MsgQueueEntry
  ptrs : Pool Unit
  batches : List Direction
  msg : Bool

namespace NodeState

/-- `create_msg_queue_entries`, for the free list of the direction. -/
def createMsgQueueEntries (s : NodeState) (dir : Direction) : NodeState :=
  let newentries := s.batches.length
  { s with
    ptrs := s.ptrs.insertHead () newentries
    pool := (List.range' (msgQueueEntriesBatchSize * newentries) msgQueueEntriesBatchSize).foldl
      (fun p entry => p.insertHead (.freeEntries dir) entry) s.pool
    batches := s.batches ++ [dir] }

/-- The test of `get_free_entry`. -/
def refill (s : NodeState) (dir : Direction) : NodeState :=
  if (s.pool.lists (.freeEntries dir)).isEmpty then s.createMsgQueueEntries dir else s

/-- `get_free_entry`: the node, if the pointer is one. -/
def getFreeEntry (s : NodeState) (dir : Direction) : Option ℕ × NodeState :=
  let s := s.refill dir
  let r := s.pool.removeHead (.freeEntries dir)
  (r.1, { s with pool := r.2 })

/-- The `memcpy` of a whole entry over a node.  The entry is a local variable, whose link is
null. -/
def copyEntry (s : NodeState) (node : ℕ) (entry : MsgQueueEntry) : NodeState :=
  { s with
    nodes := Function.update s.nodes node entry
    pool := { s.pool with links := Function.update s.pool.links node none } }

/-- `_dpa_msg_enqueue`, without the unlock. -/
def enqueue (s : NodeState) (dir : Direction) (entry : MsgQueueEntry) : Except Stuck NodeState :=
  match s.getFreeEntry dir with
  | (none, _) => .error .nullPointer
  | (some node, s) =>
      let s := s.copyEntry node entry
      .ok { s with pool := s.pool.insertTail (.msgQueue dir) node }

/-- The head of the queue, a completed operation, goes to the free list. -/
def recycle (s : NodeState) (dir : Direction) (head : ℕ) : NodeState :=
  { s with
    pool := (s.pool.removeHead (.msgQueue dir)).2.insertHead (.freeEntries dir) head }

/-- The queues that `dpa_ep_open` sets up for the capabilities of the endpoint, in memory of any
contents. -/
def opened (caps : UInt64) (links ptrs : Links) (nodes : ℕ → MsgQueueEntry) : NodeState :=
  let s : NodeState :=
    { pool := ⟨links, fun _ => Slist.init⟩
      nodes
      ptrs := ⟨ptrs, fun _ => Slist.init⟩
      batches := []
      msg := hasAny caps fiMsg }
  if s.msg then (s.createMsgQueueEntries .send).createMsgQueueEntries .recv else s

lemma opened_msg (caps : UInt64) (links ptrs : Links) (nodes : ℕ → MsgQueueEntry) :
    (opened caps links ptrs nodes).msg = hasAny caps fiMsg := by
  rw [opened]
  split <;> rfl

/-- The batches that `dpa_ep_close` frees, in order. -/
def dpaEpClose (s : NodeState) : Option (List ℕ) :=
  if s.msg then Slist.destroy s.ptrs.links s.batches.length none (s.ptrs.lists ()).head else some []

end NodeState

/-! ### The calls -/

/-- An endpoint over its nodes.  Of the queues in `host` only the locks are used. -/
structure NodeHost where
  host : Host
  nodes : NodeState

namespace NodeHost

open Host

/-- The attempt that a post makes if the queue is empty and `mayTry` holds. -/
def firstAttempt (h : NodeHost) (dir : Direction) (mayTry : Bool) (entry : MsgQueueEntry) :
    Except Stuck (FiErr × Host) :=
  if (h.nodes.pool.lists (.msgQueue dir)).isEmpty && mayTry then h.host.attempt dir entry
  else .ok (.eagain, h.host)

/-- The part that `_dpa_send` and `_dpa_recv` share. -/
def post (h : NodeHost) (dir : Direction) (mayTry : Bool) (entry : MsgQueueEntry) :
    Except Stuck NodeHost := do
  let host ← h.host.lockIfNeeded dir
  let r ← firstAttempt ⟨host, h.nodes⟩ dir mayTry entry
  if r.1 = .eagain then
    (h.nodes.enqueue dir entry).map fun nodes => ⟨r.2.unlockIfNeeded dir, nodes⟩
  else .ok ⟨r.2, h.nodes⟩

/-- The loop of `process_send_queue` and of `process_recv_queue`, of at most so many rounds. -/
def rounds (done : FiErr → Bool) (dir : Direction) : ℕ → NodeHost → Except Stuck NodeHost
  | 0, h =>
      match (h.nodes.pool.lists (.msgQueue dir)).head with
      | none => .ok h
      | some _ => .error .endless
  | fuel + 1, h =>
      match (h.nodes.pool.lists (.msgQueue dir)).head with
      | none => .ok h
      | some head => do
          let r ← h.host.attempt dir (h.nodes.nodes head)
          if done r.1 then rounds done dir fuel ⟨r.2, h.nodes.recycle dir head⟩
          else .ok ⟨r.2, h.nodes⟩

/-- The frame that `process_send_queue` and `process_recv_queue` share.  The rounds are at most as
many as there are nodes. -/
def processQueue (h : NodeHost) (done : FiErr → Bool) (dir : Direction) (locked : Bool) :
    Except Stuck NodeHost :=
  if !h.host.ep.connected then
    .ok { h with host := if locked then h.host.unlockIfNeeded dir else h.host }
  else if !locked && (h.nodes.pool.lists (.msgQueue dir)).isEmpty then .ok h
  else do
    let host ← h.host.lockUnless locked dir
    let h ← rounds done dir (msgQueueEntriesBatchSize * h.nodes.batches.length) { h with host }
    .ok { h with host := h.host.unlockIfNeeded dir }

/-- `dpa_sendmsg` and `dpa_recvmsg`. -/
def postmsg (h : NodeHost) (dir : Direction) (mayTry : Bool) (msg : Option FiMsg) (flags : UInt64) :
    Except Stuck NodeHost :=
  match checkMsg msg with
  | none => .ok h
  | some (buf, len, context) => h.post dir mayTry { buf, len, flags, context }

/-- The endpoint after a call; none if it does not return. -/
def call (h : NodeHost) : Call → Option NodeHost
  | .dpaSend buf len context =>
      (h.post .send true { buf, len, flags := 0, context }).toOption
  | .dpaRecv buf len context =>
      (h.post .recv h.host.ep.connected { buf, len, flags := 0, context }).toOption
  | .dpaSendmsg msg _ => (h.postmsg .send true msg 0).toOption
  | .dpaRecvmsg msg flags => (h.postmsg .recv h.host.ep.connected msg flags).toOption
  | .processSendQueue locked => (h.processQueue (fun err => err ≠ .eagain) .send locked).toOption
  | .processRecvQueue locked => (h.processQueue (fun err => err = .success) .recv locked).toOption

/-- The calls that go through the `fi_ops_msg`. -/
def isPost : Call → Bool
  | .dpaSend .. | .dpaRecv .. | .dpaSendmsg .. | .dpaRecvmsg .. => true
  | .processSendQueue _ | .processRecvQueue _ => false

/-- A call that can be made. -/
def step (h : NodeHost) (c : Call) : Option NodeHost :=
  if isPost c && !h.nodes.msg then none else h.call c

/-- Such a call, or a change of what is around the endpoint. -/
def event (h : NodeHost) : Host.Event → Option NodeHost
  | .call c => h.step c
  | .environment connected sendInfo recvInfo mem =>
      (h.host.event (.environment connected sendInfo recvInfo mem)).map fun host => { h with host }

end NodeHost

/-! ### Every node in one list -/

/-- The lists are `xs`: no node is in two of them or twice in one, the nodes of a direction are
those of its batches, and every batch is on `free_entries_ptrs` once. -/
structure Conserved (s : NodeState) (xs : NodeList → List ℕ) : Prop where
  owns : s.pool.Owns xs
  nodes : ∀ dir n, s.batches[n / msgQueueEntriesBatchSize]? = some dir
    ↔ n ∈ xs (.msgQueue dir) ++ xs (.freeEntries dir)
  ptrs : s.ptrs.Owns fun _ => (List.range s.batches.length).reverse

namespace Conserved

variable {s : NodeState} {xs : NodeList → List ℕ} {dir : Direction} {n : ℕ}

/-- The nodes in the lists are those of the batches. -/
lemma mem_batch (h : Conserved s xs) {l : NodeList} (hn : n ∈ xs l) :
    n / msgQueueEntriesBatchSize < s.batches.length := by
  cases l with
  | msgQueue dir =>
      exact (List.getElem?_eq_some_iff.1 ((h.nodes dir n).2 (List.mem_append_left _ hn))).1
  | freeEntries dir =>
      exact (List.getElem?_eq_some_iff.1 ((h.nodes dir n).2 (List.mem_append_right _ hn))).1

/-- So a list is not longer than there are nodes. -/
lemma length_le (h : Conserved s xs) (l : NodeList) :
    (xs l).length ≤ msgQueueEntriesBatchSize * s.batches.length := by
  have hsub : xs l ⊆ List.range (msgQueueEntriesBatchSize * s.batches.length) := fun n hn => by
    rw [List.mem_range, Nat.mul_comm]
    exact (Nat.div_lt_iff_lt_mul (by decide)).1 (h.mem_batch hn)
  have hle := ((h.owns.holds l).nodup.subperm hsub).length_le
  rwa [List.length_range] at hle

/-- The nodes of a new batch. -/
lemma mem_newBatch (b n : ℕ) :
    n ∈ List.range' (msgQueueEntriesBatchSize * b) msgQueueEntriesBatchSize
      ↔ n / msgQueueEntriesBatchSize = b := by
  rw [List.mem_range'_1, Nat.div_eq_iff (by decide), msgQueueEntriesBatchSize]
  omega

lemma createMsgQueueEntries (h : Conserved s xs) (dir : Direction) :
    Conserved (s.createMsgQueueEntries dir) (Function.update xs (.freeEntries dir)
      ((List.range' (msgQueueEntriesBatchSize * s.batches.length) msgQueueEntriesBatchSize).reverse
        ++ xs (.freeEntries dir))) where
  owns := by
    have hnodup : (List.range' (msgQueueEntriesBatchSize * s.batches.length)
      msgQueueEntriesBatchSize).Nodup := List.nodup_range'
    have hput := h.owns.insertHeads (.freeEntries dir) hnodup fun n hn l hl => by
      have hlt := h.mem_batch hl
      rw [(mem_newBatch _ _).1 hn] at hlt
      exact lt_irrefl _ hlt
    simpa only [NodeState.createMsgQueueEntries] using hput
  nodes := by
    intro d n
    have hbatch : (s.batches ++ [dir])[n / msgQueueEntriesBatchSize]? = some d
        ↔ s.batches[n / msgQueueEntriesBatchSize]? = some d
          ∨ n / msgQueueEntriesBatchSize = s.batches.length ∧ dir = d := by
      rw [List.getElem?_append]
      split
      case isTrue hlt => exact (or_iff_left fun hnew => by omega).symm
      case isFalse hge =>
          rw [List.getElem?_eq_none (Nat.le_of_not_lt hge), List.getElem?_singleton]
          split
          case isTrue hzero => simp; omega
          case isFalse hne => simp; omega
    rw [NodeState.createMsgQueueEntries, hbatch, h.nodes d n]
    by_cases hd : d = dir
    · subst hd
      rw [Function.update_self, Function.update_of_ne (by simp)]
      simp only [List.mem_append, List.mem_reverse, mem_newBatch]
      tauto
    · rw [Function.update_of_ne (by simp), Function.update_of_ne (by simpa using hd)]
      exact or_iff_left fun hnew => hd hnew.2.symm
  ptrs := by
    have hfresh : s.batches.length ∉ (List.range s.batches.length).reverse := by simp
    have hptrs := h.ptrs.insertHead () fun _ => hfresh
    rw [NodeState.createMsgQueueEntries, List.length_append, List.length_singleton,
      List.range_succ, List.reverse_append, List.reverse_singleton, List.singleton_append]
    convert hptrs using 1
    funext u
    rw [Function.update_self]

/-- The queues of a new endpoint are empty. -/
lemma opened (caps : UInt64) (links ptrs : Links) (nodes : ℕ → MsgQueueEntry) :
    ∃ xs, Conserved (.opened caps links ptrs nodes) xs ∧ (∀ d, xs (.msgQueue d) = [])
      ∧ ((NodeState.opened caps links ptrs nodes).msg = false →
        (NodeState.opened caps links ptrs nodes).batches = []) := by
  have hempty : Conserved ⟨⟨links, fun _ => Slist.init⟩, nodes, ⟨ptrs, fun _ => Slist.init⟩, [],
      hasAny caps fiMsg⟩ fun _ => [] :=
    { owns := ⟨fun _ => Slist.holds_init _, fun _ _ _ h => absurd h List.not_mem_nil⟩
      nodes := fun d n => by simp
      ptrs := ⟨fun _ => Slist.holds_init _, fun _ _ _ h => absurd h List.not_mem_nil⟩ }
  rw [NodeState.opened]
  split
  case isTrue hmsg =>
      refine ⟨_, (hempty.createMsgQueueEntries .send).createMsgQueueEntries .recv, fun d => ?_,
        fun hnot => absurd (hnot.symm.trans hmsg) (by simp)⟩
      rw [Function.update_of_ne (by simp), Function.update_of_ne (by simp)]
  case isFalse => exact ⟨_, hempty, fun _ => rfl, fun _ => rfl⟩

/-- `dpa_ep_close` frees every batch once. -/
lemma dpaEpClose (h : Conserved s xs) (hidle : s.msg = false → s.batches = []) :
    ∃ freed, s.dpaEpClose = some freed ∧ freed.Perm (List.range s.batches.length) := by
  cases hmsg : s.msg with
  | false =>
      rw [hidle hmsg]
      exact ⟨[], by rw [NodeState.dpaEpClose, hmsg]; rfl, .refl _⟩
  | true =>
      have hholds := h.ptrs.holds ()
      refine ⟨_, ?_, List.reverse_perm _⟩
      rw [NodeState.dpaEpClose, if_pos hmsg, hholds.head]
      exact hholds.chained.destroy (by simp) none

/-- What a refilled free list is. -/
lemma refill (h : Conserved s xs) (dir : Direction) :
    ∃ ys, Conserved (s.refill dir) ys ∧ ys (.freeEntries dir) ≠ []
      ∧ (∀ d, ys (.msgQueue d) = xs (.msgQueue d)) ∧ (s.refill dir).nodes = s.nodes
      ∧ (s.refill dir).msg = s.msg := by
  rw [NodeState.refill, (h.owns.holds _).isEmpty_eq]
  split
  case isTrue =>
      refine ⟨_, h.createMsgQueueEntries dir, ?_,
        fun d => Function.update_of_ne (by simp) _ _, ?_, ?_⟩
      · rw [Function.update_self]
        refine List.append_ne_nil_of_left_ne_nil (fun hnil => ?_) _
        rw [List.reverse_eq_nil_iff, List.range'_eq_nil_iff] at hnil
        exact absurd hnil (by decide)
      · rw [NodeState.createMsgQueueEntries]
      · rw [NodeState.createMsgQueueEntries]
  case isFalse hne => exact ⟨xs, h, fun hnil => hne (by rw [hnil]; rfl), fun _ => rfl, rfl, rfl⟩

/-- `get_free_entry` gives a node that is not queued. -/
lemma getFreeEntry (h : Conserved s xs) (dir : Direction) :
    ∃ node rest ys, Conserved (s.refill dir) ys ∧ ys (.freeEntries dir) = node :: rest
      ∧ (∀ d, ys (.msgQueue d) = xs (.msgQueue d))
      ∧ s.getFreeEntry dir = (some node, { s.refill dir with
        pool := ((s.refill dir).pool.removeHead (.freeEntries dir)).2 }) := by
  obtain ⟨ys, hys, hne, hqueues, -, -⟩ := h.refill dir
  obtain ⟨node, rest, hfree⟩ := List.exists_cons_of_ne_nil hne
  refine ⟨node, rest, ys, hys, hfree, hqueues, ?_⟩
  rw [NodeState.getFreeEntry, (hys.owns.removeHead (.freeEntries dir)).1, hfree, List.head?_cons]

/-- A free node is in no queue. -/
lemma free_notMem (h : Conserved s xs) {rest : List ℕ} (hfree : xs (.freeEntries dir) = n :: rest)
    (d : Direction) : n ∉ xs (.msgQueue d) := fun hmem =>
  nomatch h.owns.disjoint _ _ n hmem (hfree ▸ List.mem_cons_self : n ∈ xs (.freeEntries dir))

/-- A change of the lists that moves nodes of one direction only. -/
lemma move (h : Conserved s xs) {pool : Pool NodeList} {f : ℕ → MsgQueueEntry}
    {ys : NodeList → List ℕ} (hpool : pool.Owns ys)
    (hmoved : ∀ d n, n ∈ ys (.msgQueue d) ++ ys (.freeEntries d)
      ↔ n ∈ xs (.msgQueue d) ++ xs (.freeEntries d)) :
    Conserved { s with pool, nodes := f } ys where
  owns := hpool
  nodes := fun d n => (h.nodes d n).trans (hmoved d n).symm
  ptrs := h.ptrs

/-- `_dpa_msg_enqueue` puts a node that is not queued at the end of the queue, and stores the
operation in it. -/
lemma enqueue (h : Conserved s xs) (dir : Direction) (entry : MsgQueueEntry) :
    ∃ node s' ys, s.enqueue dir entry = .ok s' ∧ Conserved s' ys
      ∧ ys (.msgQueue dir) = xs (.msgQueue dir) ++ [node]
      ∧ (∀ d, d ≠ dir → ys (.msgQueue d) = xs (.msgQueue d)) ∧ (∀ d, node ∉ xs (.msgQueue d))
      ∧ s'.nodes = Function.update s.nodes node entry ∧ s'.msg = s.msg := by
  obtain ⟨node, rest, ys, hys, hfree, hqueues, hget⟩ := h.getFreeEntry dir
  obtain ⟨-, -, -, -, hnodes, hmsg⟩ := h.refill dir
  have hnot (d : Direction) : node ∉ ys (.msgQueue d) := hys.free_notMem hfree d
  -- the node is in no list while it is overwritten
  have htaken := (hys.owns.removeHead (.freeEntries dir)).2
  have hloose := hys.owns.notMem_tail hfree
  have hput := (htaken.relink hloose none).insertTail (.msgQueue dir) hloose
  rw [Function.update_of_ne (show NodeList.msgQueue dir ≠ .freeEntries dir by simp)] at hput
  have hmoved := fun hsame =>
    hys.move (f := Function.update (s.refill dir).nodes node entry) hput hsame
  refine ⟨node, _, _, ?_, hmoved fun d n => ?_, ?_, fun d hd => ?_, fun d => hqueues d ▸ hnot d,
    by rw [← hnodes], hmsg⟩
  · rw [NodeState.enqueue, hget]
    rfl
  · by_cases hd : d = dir
    · subst hd
      rw [Function.update_self, Function.update_of_ne (by simp), Function.update_self, hfree]
      simp
    · rw [Function.update_of_ne (by simpa using hd), Function.update_of_ne (by simp),
        Function.update_of_ne (by simp), Function.update_of_ne (by simpa using hd)]
  · rw [Function.update_self, hqueues]
  · rw [Function.update_of_ne (by simpa using hd), Function.update_of_ne (by simp), hqueues]

/-- A completed operation leaves the queue, and its node is free. -/
lemma recycle (h : Conserved s xs) {rest : List ℕ} (hqueue : xs (.msgQueue dir) = n :: rest) :
    ∃ ys, Conserved (s.recycle dir n) ys ∧ ys (.msgQueue dir) = rest
      ∧ ∀ d, d ≠ dir → ys (.msgQueue d) = xs (.msgQueue d) := by
  have htaken := (h.owns.removeHead (.msgQueue dir)).2
  have hput := htaken.insertHead (.freeEntries dir) (h.owns.notMem_tail hqueue)
  rw [Function.update_of_ne (show NodeList.freeEntries dir ≠ .msgQueue dir by simp)] at hput
  refine ⟨_, h.move hput fun d m => ?_, ?_, fun d hd => ?_⟩
  · by_cases hd : d = dir
    · subst hd
      rw [Function.update_of_ne (by simp), Function.update_self, Function.update_self, hqueue]
      simp
      tauto
    · rw [Function.update_of_ne (by simp), Function.update_of_ne (by simpa using hd),
        Function.update_of_ne (by simpa using hd), Function.update_of_ne (by simp)]
  · rw [Function.update_of_ne (by simp), Function.update_self, hqueue, List.tail_cons]
  · rw [Function.update_of_ne (by simp), Function.update_of_ne (by simpa using hd)]

end Conserved

/-! ### The queues as lists -/

namespace Host

/-- The endpoint with other queues. -/
def withQueues (g : Host) (f : Direction → MsgQueue) : Host := { g with ep.queue := f }

variable {g : Host} {dir : Direction} {e : MsgQueueEntry}

lemma trySend_withQueues (g : Host) (f : Direction → MsgQueue) (e : MsgQueueEntry) :
    (g.withQueues f).trySend e = (g.trySend e).map fun r => (r.1, r.2.withQueues f) := by
  have hinfo : (g.withQueues f).ep.sendInfo = g.ep.sendInfo := rfl
  have hmem : (g.withQueues f).mem = g.mem := rfl
  rw [trySend, trySend, hinfo, hmem]
  cases hstatus : g.ep.sendInfo.remoteStatus with
  | none => rfl
  | some status =>
      dsimp only
      split
      case isTrue => rfl
      case isFalse =>
          cases hbuffer : g.ep.sendInfo.remoteBuffer with
          | none => rfl
          | some buffer => rfl

lemma tryRecv_withQueues (g : Host) (f : Direction → MsgQueue) (e : MsgQueueEntry) :
    (g.withQueues f).tryRecv e = (g.tryRecv e).map fun r => (r.1, r.2.withQueues f) := by
  have hinfo : (g.withQueues f).ep.recvInfo = g.ep.recvInfo := rfl
  have hmem : (g.withQueues f).mem = g.mem := rfl
  rw [tryRecv, tryRecv, hinfo, hmem]
  cases hbuffer : g.ep.recvInfo.buffer with
  | none => rfl
  | some buffer =>
      dsimp only
      split
      case isTrue => rfl
      case isFalse =>
          cases hstatus : g.ep.recvInfo.remoteStatus with
          | none => rfl
          | some status => rfl

/-- An attempt does not look at the queues, and keeps them. -/
lemma attempt_withQueues (g : Host) (f : Direction → MsgQueue) (dir : Direction)
    (e : MsgQueueEntry) :
    (g.withQueues f).attempt dir e = (g.attempt dir e).map fun r => (r.1, r.2.withQueues f) := by
  cases dir with
  | send =>
      rw [attempt, attempt, trySend_withQueues]
      cases g.trySend e <;> rfl
  | recv =>
      rw [attempt, attempt, tryRecv_withQueues]
      cases g.tryRecv e <;> rfl

lemma queue_of_attempt {g' : Host} {err : FiErr} (h : g.attempt dir e = .ok (err, g')) :
    g'.ep.queue = g.ep.queue := by
  have hsame := attempt_withQueues g g.ep.queue dir e
  have hg : g.withQueues g.ep.queue = g := rfl
  rw [hg, h] at hsame
  exact congrArg (fun r : FiErr × Host => r.2.ep.queue) (Except.ok.inj hsame)

end Host

/-- The nodes, and an endpoint whose queues are lists: they differ in the queues only, which have
the same contents and locks. -/
structure Represents (h : NodeHost) (xs : NodeList → List ℕ) (g : Host) : Prop where
  conserved : Conserved h.nodes xs
  host : ∃ f, h.host = g.withQueues f ∧ ∀ d, (f d).locked = (g.queue d).locked
  contents : ∀ d, (g.queue d).contents = (xs (.msgQueue d)).map h.nodes.nodes

/-- What a call does to the nodes: those queued before hold what they held. -/
structure Kept (s : NodeState) (xs : NodeList → List ℕ) (s' : NodeState) : Prop where
  nodes : ∀ d, ∀ n ∈ xs (.msgQueue d), s'.nodes n = s.nodes n
  msg : s'.msg = s.msg

/-- Two computations that get stuck alike, or give results that `R` relates. -/
inductive Follows {α β : Type} (R : α → β → Prop) : Except Stuck α → Except Stuck β → Prop where
  | returns {a : α} {b : β} (h : R a b) : Follows R (.ok a) (.ok b)
  | stuck (e : Stuck) : Follows R (.error e) (.error e)

namespace Follows

variable {α β γ δ : Type} {R : α → β → Prop} {T : γ → δ → Prop} {x : Except Stuck α}
  {y : Except Stuck β}

lemma bind (h : Follows R x y) {k : α → Except Stuck γ} {l : β → Except Stuck δ}
    (hnext : ∀ a b, R a b → Follows T (k a) (l b)) : Follows T (x >>= k) (y >>= l) := by
  cases h with
  | returns h => exact hnext _ _ h
  | stuck e => exact .stuck e

lemma mono (h : Follows R x y) {R' : α → β → Prop} (himp : ∀ a b, R a b → R' a b) :
    Follows R' x y := by
  cases h with
  | returns h => exact .returns (himp _ _ h)
  | stuck e => exact .stuck e

lemma returned {a : α} (h : Follows R (.ok a) y) : ∃ b, y = .ok b ∧ R a b := by
  cases h with
  | returns h => exact ⟨_, rfl, h⟩

lemma toOption (h : Follows R x y) : Option.Rel R x.toOption y.toOption := by
  cases h with
  | returns h => exact .some h
  | stuck e => exact .none

end Follows

namespace Represents

variable {h : NodeHost} {xs : NodeList → List ℕ} {g : Host} {dir : Direction}

lemma isEmpty (h' : Represents h xs g) (dir : Direction) :
    (h.nodes.pool.lists (.msgQueue dir)).isEmpty = (g.queue dir).isEmpty := by
  rw [(h'.conserved.owns.holds _).isEmpty_eq, MsgQueue.isEmpty_eq, h'.contents, List.isEmpty_map]

lemma connected (h' : Represents h xs g) : h.host.ep.connected = g.ep.connected := by
  obtain ⟨f, hf, -⟩ := h'.host
  rw [hf]
  rfl

lemma done (h' : Represents h xs g) (dir : Direction) : h.host.done dir = g.done dir := by
  obtain ⟨f, hf, -⟩ := h'.host
  rw [hf]
  rfl

lemma setLocked (h' : Represents h xs g) (dir : Direction) (b : Bool) :
    Represents ⟨h.host.setQueue dir ((h.host.queue dir).setLocked b), h.nodes⟩ xs
      (g.setQueue dir ((g.queue dir).setLocked b)) := by
  obtain ⟨f, hf, hlocked⟩ := h'.host
  refine ⟨h'.conserved, ⟨Function.update f dir ((f dir).setLocked b), by rw [hf]; rfl, ?_⟩, ?_⟩
  · intro d
    by_cases hd : d = dir
    · subst hd
      rw [Function.update_self, Host.queue_setQueue]
      rfl
    · rw [Function.update_of_ne hd, Host.queue_setQueue_of_ne g hd]
      exact hlocked d
  · intro d
    rw [← h'.contents d]
    by_cases hd : d = dir
    · subst hd
      rw [Host.queue_setQueue]
      rfl
    · rw [Host.queue_setQueue_of_ne g hd]

/-- The locks are taken and released alike. -/
lemma lockIfNeeded (h' : Represents h xs g) (dir : Direction) :
    Follows (fun host g' => Represents ⟨host, h.nodes⟩ xs g') (h.host.lockIfNeeded dir)
      (g.lockIfNeeded dir) := by
  obtain ⟨f, hf, hlocked⟩ := h'.host
  have hneeded : h.host.ep.lockNeeded = g.ep.lockNeeded := by rw [hf]; rfl
  have hheld : (h.host.queue dir).locked = (g.queue dir).locked := by
    rw [hf]
    exact hlocked dir
  rw [Host.lockIfNeeded, Host.lockIfNeeded, hneeded, hheld]
  split
  case isTrue =>
      split
      case isTrue => exact .stuck _
      case isFalse => exact .returns (h'.setLocked dir true)
  case isFalse => exact .returns h'

lemma lockUnless (h' : Represents h xs g) (locked : Bool) (dir : Direction) :
    Follows (fun host g' => Represents ⟨host, h.nodes⟩ xs g') (h.host.lockUnless locked dir)
      (g.lockUnless locked dir) := by
  cases locked with
  | true => exact .returns h'
  | false => exact h'.lockIfNeeded dir

lemma unlockIfNeeded (h' : Represents h xs g) (dir : Direction) :
    Represents ⟨h.host.unlockIfNeeded dir, h.nodes⟩ xs (g.unlockIfNeeded dir) := by
  obtain ⟨f, hf, -⟩ := h'.host
  have hneeded : h.host.ep.lockNeeded = g.ep.lockNeeded := by rw [hf]; rfl
  rw [Host.unlockIfNeeded, Host.unlockIfNeeded, hneeded]
  split
  · exact h'.setLocked dir false
  · exact h'

/-- An attempt goes the same way. -/
lemma attempt (h' : Represents h xs g) (dir : Direction) (e : MsgQueueEntry) :
    Follows (fun r r' => r.1 = r'.1 ∧ Represents ⟨r.2, h.nodes⟩ xs r'.2
      ∧ r'.2.ep.queue = g.ep.queue) (h.host.attempt dir e) (g.attempt dir e) := by
  obtain ⟨f, hf, hlocked⟩ := h'.host
  rw [hf, Host.attempt_withQueues]
  cases hg : g.attempt dir e with
  | error s => exact .stuck s
  | ok r =>
      have hqueue : ∀ d, r.2.queue d = g.queue d := fun d => congrFun (Host.queue_of_attempt hg) d
      refine .returns ⟨rfl, ⟨h'.conserved, ⟨f, rfl, fun d => ?_⟩, fun d => ?_⟩,
        Host.queue_of_attempt hg⟩
      · rw [hqueue d, hlocked d]
      · rw [hqueue d, h'.contents d]

lemma firstAttempt (h' : Represents h xs g) (dir : Direction) (mayTry : Bool) (e : MsgQueueEntry) :
    Follows (fun r r' => r.1 = r'.1 ∧ Represents ⟨r.2, h.nodes⟩ xs r'.2
      ∧ r'.2.ep.queue = g.ep.queue) (h.firstAttempt dir mayTry e)
      (g.firstAttempt dir mayTry e) := by
  rw [NodeHost.firstAttempt, Host.firstAttempt, h'.isEmpty dir]
  split
  · exact h'.attempt dir e
  · exact .returns ⟨rfl, h', rfl⟩

/-- One queue is replaced, and the nodes of the other one hold what they held. -/
lemma setQueue (h' : Represents h xs g) {q : MsgQueue} {s : NodeState} {ys : NodeList → List ℕ}
    (hys : Conserved s ys) (hlocked : q.locked = (g.queue dir).locked)
    (hself : q.contents = (ys (.msgQueue dir)).map s.nodes)
    (hother : ∀ d, d ≠ dir →
      (ys (.msgQueue d)).map s.nodes = (xs (.msgQueue d)).map h.nodes.nodes) :
    Represents ⟨h.host, s⟩ ys (g.setQueue dir q) := by
  obtain ⟨f, hf, hheld⟩ := h'.host
  refine ⟨hys, ⟨f, by rw [hf]; rfl, ?_⟩, ?_⟩
  · intro d
    by_cases hd : d = dir
    · subst hd
      rw [Host.queue_setQueue, hheld, hlocked]
    · rw [Host.queue_setQueue_of_ne g hd, hheld]
  · intro d
    by_cases hd : d = dir
    · subst hd
      rw [Host.queue_setQueue, hself]
    · rw [Host.queue_setQueue_of_ne g hd, hother d hd, h'.contents]

/-- An operation that has to wait is enqueued alike. -/
lemma enqueue (h' : Represents h xs g) (dir : Direction) (e : MsgQueueEntry) :
    ∃ s ys, h.nodes.enqueue dir e = .ok s ∧ Kept h.nodes xs s
      ∧ Represents ⟨h.host, s⟩ ys (g.setQueue dir ((g.queue dir).enqueue e)) := by
  obtain ⟨node, s, ys, henqueue, hys, hself, hother, hfresh, hnodes, hmsg⟩ :=
    h'.conserved.enqueue dir e
  have hkept (d : Direction) : ∀ n ∈ xs (.msgQueue d), s.nodes n = h.nodes.nodes n := by
    intro n hn
    rw [hnodes, Function.update_of_ne (ne_of_mem_of_not_mem hn (hfresh d))]
  refine ⟨s, ys, henqueue, ⟨hkept, hmsg⟩, h'.setQueue hys rfl ?_ fun d hd => ?_⟩
  · rw [MsgQueue.contents_enqueue, hself, List.map_append, List.map_congr_left (hkept dir),
      h'.contents, List.map_singleton, hnodes, Function.update_self]
  · rw [hother d hd, List.map_congr_left (hkept d)]

/-- A completed operation leaves the queue alike. -/
lemma recycle (h' : Represents h xs g) {n : ℕ} {rest : List ℕ}
    (hqueue : xs (.msgQueue dir) = n :: rest) :
    ∃ ys, Represents ⟨h.host, h.nodes.recycle dir n⟩ ys (g.setQueue dir (g.queue dir).pop)
      ∧ ys (.msgQueue dir) = rest ∧ ∀ d, d ≠ dir → ys (.msgQueue d) = xs (.msgQueue d) := by
  obtain ⟨ys, hys, hself, hother⟩ := h'.conserved.recycle hqueue
  refine ⟨ys, h'.setQueue hys rfl ?_ fun d hd => ?_, hself, hother⟩
  · rw [MsgQueue.contents_pop, h'.contents, hqueue, hself, List.map_cons, List.tail_cons]
    rfl
  · rw [hother d hd]
    rfl

/-! ### The calls do the same -/

/-- A post. -/
lemma post (h' : Represents h xs g) (dir : Direction) (mayTry : Bool) (e : MsgQueueEntry) :
    Follows (fun h₁ g₁ => ∃ ys, Represents h₁ ys g₁ ∧ Kept h.nodes xs h₁.nodes)
      (h.post dir mayTry e) (g.post dir mayTry e) := by
  refine (h'.lockIfNeeded dir).bind fun host g' hlocked => ?_
  refine (hlocked.firstAttempt dir mayTry e).bind fun r r' hr => ?_
  obtain ⟨herr, hrep, -⟩ := hr
  rw [herr]
  split
  case isTrue =>
      obtain ⟨s, ys, hs, hkept, hys⟩ := hrep.enqueue dir e
      rw [show h.nodes.enqueue dir e = .ok s from hs]
      exact .returns ⟨ys, hys.unlockIfNeeded dir, hkept⟩
  case isFalse => exact .returns ⟨xs, hrep, fun _ _ _ => rfl, rfl⟩

/-- The loop, over the nodes of the one queue and over the list of the other. -/
lemma rounds (done : FiErr → Bool) {nodes : List ℕ} {fuel : ℕ} (h' : Represents h xs g)
    (hentries : (g.queue dir).entries = nodes) (hfuel : nodes.length ≤ fuel) :
    Follows (fun h₁ g₁ => (∃ ys, Represents h₁ ys g₁) ∧ h₁.nodes.nodes = h.nodes.nodes
      ∧ h₁.nodes.msg = h.nodes.msg ∧ h₁.nodes.batches = h.nodes.batches)
      (NodeHost.rounds done dir fuel h) (Host.drain done dir nodes g) := by
  induction nodes generalizing fuel h xs g with
  | nil =>
      have hnone : xs (.msgQueue dir) = [] := by
        have hcontents := h'.contents dir
        rw [MsgQueue.contents, hentries, List.map_nil] at hcontents
        exact List.map_eq_nil_iff.1 hcontents.symm
      have hhead : (h.nodes.pool.lists (.msgQueue dir)).head = none := by
        rw [(h'.conserved.owns.holds _).head, hnone, List.head?_nil]
      cases fuel with
      | zero =>
          rw [NodeHost.rounds, hhead]
          exact .returns ⟨⟨xs, h'⟩, rfl, rfl, rfl⟩
      | succ fuel =>
          rw [NodeHost.rounds, hhead]
          exact .returns ⟨⟨xs, h'⟩, rfl, rfl, rfl⟩
  | cons node rest ih =>
      obtain ⟨fuel, rfl⟩ := Nat.exists_eq_add_of_le' (Nat.one_le_of_lt hfuel)
      -- the first node of the queue holds what the first of the list does
      have hcontents := h'.contents dir
      rw [MsgQueue.contents, hentries, List.map_cons] at hcontents
      obtain ⟨n, ns, hxs, hn, -⟩ := List.map_eq_cons_iff.1 hcontents.symm
      rw [NodeHost.rounds, (h'.conserved.owns.holds _).head, hxs, List.head?_cons, Host.drain]
      dsimp only
      rw [hn]
      refine (h'.attempt dir _).bind fun r r' hr => ?_
      obtain ⟨herr, hrep, hqueue⟩ := hr
      rw [herr]
      split
      case isTrue =>
          obtain ⟨ys, hys, hself, -⟩ := hrep.recycle hxs
          refine ih hys ?_ (Nat.le_of_succ_le_succ hfuel)
          rw [Host.queue_setQueue, MsgQueue.entries_pop,
            show r'.2.queue dir = g.queue dir from congrFun hqueue dir, hentries, List.tail_cons]
      case isFalse => exact .returns ⟨⟨xs, hrep⟩, rfl, rfl, rfl⟩

/-- The processing of a queue keeps the contents of all nodes, and makes no batch. -/
lemma processQueue (h' : Represents h xs g) (done : FiErr → Bool) (dir : Direction)
    (locked : Bool) :
    Follows (fun h₁ g₁ => (∃ ys, Represents h₁ ys g₁) ∧ h₁.nodes.nodes = h.nodes.nodes
      ∧ h₁.nodes.msg = h.nodes.msg ∧ h₁.nodes.batches = h.nodes.batches)
      (h.processQueue done dir locked) (g.processQueue done dir locked) := by
  rw [NodeHost.processQueue, Host.processQueue, h'.connected, h'.isEmpty dir]
  split
  case isTrue =>
      refine .returns ⟨⟨xs, ?_⟩, rfl, rfl, rfl⟩
      cases locked with
      | true => exact h'.unlockIfNeeded dir
      | false => exact h'
  case isFalse =>
      split
      case isTrue => exact .returns ⟨⟨xs, h'⟩, rfl, rfl, rfl⟩
      case isFalse =>
          refine (h'.lockUnless locked dir).bind fun host g' hrep => ?_
          -- the loop ends before the fuel does, since the queue has no more nodes than there are
          have hfuel : (g'.queue dir).entries.length
              ≤ msgQueueEntriesBatchSize * h.nodes.batches.length := by
            have hlen := congrArg List.length (hrep.contents dir)
            rw [MsgQueue.contents, List.length_map, List.length_map] at hlen
            exact hlen.trans_le (hrep.conserved.length_le _)
          refine (hrep.rounds done rfl hfuel).bind fun h₁ g₁ hr => ?_
          obtain ⟨⟨ys, hys⟩, hnodes, hmsg, hbatches⟩ := hr
          exact .returns ⟨⟨ys, hys.unlockIfNeeded dir⟩, hnodes, hmsg, hbatches⟩

end Represents

/-- The result of a post is `FI_SUCCESS`, or it is left out. -/
lemma map_snd_map (x : Except Stuck Host) :
    (x.map fun g => (FiErr.success, g)).map Prod.snd = x := by
  cases x <;> rfl

/-- A call on the nodes returns if and only if the call on queues that are lists does, and does the
same. -/
theorem call_refines {h : NodeHost} {xs : NodeList → List ℕ} {g : Host} (h' : Represents h xs g)
    (c : Host.Call) :
    Option.Rel (fun h₁ g₁ => ∃ ys, Represents h₁ ys g₁ ∧ Kept h.nodes xs h₁.nodes)
      (h.call c) (g.call c) := by
  have hprocess (done : FiErr → Bool) (dir : Direction) (locked : Bool) :
      Option.Rel (fun h₁ g₁ => ∃ ys, Represents h₁ ys g₁ ∧ Kept h.nodes xs h₁.nodes)
        (h.processQueue done dir locked).toOption (g.processQueue done dir locked).toOption := by
    refine ((h'.processQueue done dir locked).mono fun h₁ g₁ hr => ?_).toOption
    obtain ⟨⟨ys, hys⟩, hnodes, hmsg, -⟩ := hr
    exact ⟨ys, hys, fun _ n _ => congrFun hnodes n, hmsg⟩
  cases c with
  | dpaSend buf len context => exact (h'.post .send true _).toOption
  | dpaRecv buf len context =>
      rw [NodeHost.call, h'.connected]
      exact (h'.post .recv g.ep.connected _).toOption
  | dpaSendmsg msg flags =>
      rw [NodeHost.call, Host.call, Host.dpaSendmsg, NodeHost.postmsg]
      cases Host.checkMsg msg with
      | none => exact .some ⟨xs, h', fun _ _ _ => rfl, rfl⟩
      | some r =>
          rw [map_snd_map]
          exact (h'.post .send true _).toOption
  | dpaRecvmsg msg flags =>
      rw [NodeHost.call, Host.call, Host.dpaRecvmsg, NodeHost.postmsg, h'.connected]
      cases Host.checkMsg msg with
      | none => exact .some ⟨xs, h', fun _ _ _ => rfl, rfl⟩
      | some r =>
          rw [map_snd_map]
          exact (h'.post .recv g.ep.connected _).toOption
  | processSendQueue locked => exact hprocess _ .send locked
  | processRecvQueue locked => exact hprocess _ .recv locked

/-! ### Whole runs -/

/-- What changes around an endpoint changes alike, and does not touch its nodes. -/
lemma environment_refines {h : NodeHost} {xs : NodeList → List ℕ} {g : Host}
    (h' : Represents h xs g) (connected : Bool) (sendInfo : SendInfo) (recvInfo : RecvInfo)
    (mem : BufferLoc → RingBuffer) :
    Option.Rel (fun h₁ g₁ => ∃ ys, Represents h₁ ys g₁ ∧ Kept h.nodes xs h₁.nodes)
      (h.event (.environment connected sendInfo recvInfo mem))
      (g.event (.environment connected sendInfo recvInfo mem)) := by
  obtain ⟨f, hf, hlocked⟩ := h'.host
  refine .some ⟨xs, ⟨h'.conserved, ⟨f, ?_, hlocked⟩, h'.contents⟩, fun _ _ _ => rfl, rfl⟩
  rw [hf]
  rfl

/-- An event on the nodes of an endpoint that has a `fi_ops_msg` is carried out if and only if it
is on lists, and does the same. -/
lemma event_refines {h : NodeHost} {xs : NodeList → List ℕ} {g : Host} (h' : Represents h xs g)
    (hmsg : h.nodes.msg = true) (a : Host.Event) :
    Option.Rel (fun h₁ g₁ => ∃ ys, Represents h₁ ys g₁ ∧ Kept h.nodes xs h₁.nodes)
      (h.event a) (g.event a) := by
  cases a with
  | call c =>
      have hstep : h.step c = h.call c := by
        rw [NodeHost.step, hmsg, Bool.not_true, Bool.and_false]
        rfl
      rw [NodeHost.event, hstep]
      exact call_refines h' c
  | environment connected sendInfo recvInfo mem => exact environment_refines h' _ _ _ _

/-- The sequences of calls that return on the nodes of an endpoint that has a `fi_ops_msg` are those
that return on lists, whatever happens around it. -/
theorem run_refines {h : NodeHost} {xs : NodeList → List ℕ} {g : Host} (h' : Represents h xs g)
    (hmsg : h.nodes.msg = true) (events : List Host.Event) :
    Option.Rel (fun h₁ g₁ => ∃ ys, Represents h₁ ys g₁) (Stepper.run NodeHost.event h events)
      (Stepper.run Host.event g events) := by
  induction events generalizing h xs g with
  | nil => exact .some ⟨xs, h'⟩
  | cons a events ih =>
      rw [Stepper.run_cons, Stepper.run_cons]
      match h.event a, g.event a, event_refines h' hmsg a with
      | _, _, .none => exact .none
      | _, _, .some ⟨ys, hys, hkept⟩ => exact ih hys (hkept.msg.trans hmsg)

lemma run_isSome {h : NodeHost} {xs : NodeList → List ℕ} {g : Host} (h' : Represents h xs g)
    (hmsg : h.nodes.msg = true) (events : List Host.Event) :
    (Stepper.run NodeHost.event h events).isSome = (Stepper.run Host.event g events).isSome := by
  match Stepper.run NodeHost.event h events, Stepper.run Host.event g events,
    run_refines h' hmsg events with
  | _, _, .none => rfl
  | _, _, .some _ => rfl

/-- The queues of a new endpoint. -/
lemma Represents.opened (host : Host) (caps : UInt64) (links ptrs : Links)
    (nodes : ℕ → MsgQueueEntry) :
    ∃ xs, Represents ⟨host, .opened caps links ptrs nodes⟩ xs
        (host.withQueues fun d => (MsgQueue.new nodes).setLocked (host.queue d).locked)
      ∧ ((NodeState.opened caps links ptrs nodes).msg = false →
        (NodeState.opened caps links ptrs nodes).batches = []) := by
  obtain ⟨xs, hxs, hqueues, hidle⟩ := Conserved.opened caps links ptrs nodes
  refine ⟨xs, ⟨hxs, ⟨host.ep.queue, rfl, fun _ => rfl⟩, fun d => ?_⟩, hidle⟩
  rw [hqueues d, List.map_nil]
  exact MsgQueue.contents_new nodes

/-- What holds of an endpoint between two calls, after the events `events` from the lists `g₀`: its
nodes are those of the lists after these events, and without a `fi_ops_msg` it has no batch. -/
structure Accounted (g₀ : Host) (events : List Host.Event) (h : NodeHost) : Prop where
  represents : ∃ xs g, Represents h xs g ∧ Stepper.run Host.event g₀ events = some g
  idle : h.nodes.msg = false → h.nodes.batches = []

namespace Accounted

variable {g₀ : Host} {events : List Host.Event}

/-- The processing of a queue makes no batch. -/
lemma batches_call {h h' : NodeHost} {xs : NodeList → List ℕ} {g : Host} (hrep : Represents h xs g)
    {c : Host.Call} (hpost : NodeHost.isPost c = false) (hcall : h.call c = some h') :
    h'.nodes.batches = h.nodes.batches := by
  have hprocess {done : FiErr → Bool} {dir : Direction} {locked : Bool}
      (hrun : (h.processQueue done dir locked).toOption = some h') :
      h'.nodes.batches = h.nodes.batches := by
    have hfollows := hrep.processQueue done dir locked
    rw [toOption_eq_some hrun] at hfollows
    exact hfollows.returned.choose_spec.2.2.2.2
  cases c with
  | processSendQueue locked => exact hprocess hcall
  | processRecvQueue locked => exact hprocess hcall
  | dpaSend | dpaRecv | dpaSendmsg | dpaRecvmsg => exact absurd hpost (by simp [NodeHost.isPost])

/-- An event that is carried out on the nodes is carried out on lists, and does the same. -/
lemma refined {h h' : NodeHost} {xs : NodeList → List ℕ} {g : Host} (hrep : Represents h xs g)
    {a : Host.Event} (hstep : h.event a = some h') :
    ∃ ys g', Represents h' ys g' ∧ g.event a = some g' ∧ Kept h.nodes xs h'.nodes := by
  have hrel : Option.Rel (fun h₁ g₁ => ∃ ys, Represents h₁ ys g₁ ∧ Kept h.nodes xs h₁.nodes)
      (some h') (g.event a) := by
    rw [← hstep]
    cases a with
    | environment connected sendInfo recvInfo mem => exact environment_refines hrep _ _ _ _
    | call c =>
        have hcall : h.event (.call c) = h.call c := by
          rw [NodeHost.event, NodeHost.step] at hstep ⊢
          split at hstep
          case isTrue => exact absurd hstep (by simp)
          case isFalse hallowed => rw [if_neg hallowed]
        rw [hcall]
        exact call_refines hrep c
  cases hg : g.event a with
  | none => rw [hg] at hrel; exact nomatch hrel
  | some g' =>
      rw [hg] at hrel
      cases hrel with
      | some hrel =>
          obtain ⟨ys, hys, hkept⟩ := hrel
          exact ⟨ys, g', hys, rfl, hkept⟩

/-- An endpoint without a `fi_ops_msg` gets no batch. -/
lemma idle_event {h h' : NodeHost} {xs : NodeList → List ℕ} {g : Host} (hrep : Represents h xs g)
    (hidle : h.nodes.batches = []) (hmsg : h.nodes.msg = false) {a : Host.Event}
    (hstep : h.event a = some h') : h'.nodes.batches = [] := by
  cases a with
  | environment connected sendInfo recvInfo mem =>
      obtain rfl : _ = h' := by simpa only [NodeHost.event, Host.event, Option.map_some,
        Option.some.injEq] using hstep
      exact hidle
  | call c =>
      rw [NodeHost.event, NodeHost.step] at hstep
      split at hstep
      case isTrue => exact absurd hstep (by simp)
      case isFalse hallowed =>
          have hpost : NodeHost.isPost c = false := by simpa [hmsg] using hallowed
          rw [batches_call hrep hpost hstep, hidle]

lemma event {h h' : NodeHost} (ha : Accounted g₀ events h) {a : Host.Event}
    (hstep : h.event a = some h') : Accounted g₀ (events ++ [a]) h' := by
  obtain ⟨xs, g, hrep, hrun⟩ := ha.represents
  obtain ⟨ys, g', hys, hg, hkept⟩ := refined hrep hstep
  refine ⟨⟨ys, g', hys, ?_⟩, fun hmsg => ?_⟩
  · rw [Stepper.run_append, hrun, Option.bind_some, Stepper.run_cons, hg]
    rfl
  · rw [hkept.msg] at hmsg
    exact idle_event hrep (ha.idle hmsg) hmsg hstep

lemma run {h h' : NodeHost} (ha : Accounted g₀ [] h)
    (hrun : Stepper.run NodeHost.event h events = some h') : Accounted g₀ events h' :=
  Stepper.run_history (I := Accounted g₀) (fun _ _ _ _ ha hstep => ha.event hstep) ha hrun

end Accounted

/-- After every sequence of calls on an endpoint, with any changes around it between them: the nodes
are in the lists that they should be in; the operations completed, followed by what the nodes of
`msg_queue` hold, are those posted; `get_free_entry` gives a node, which is not queued; no event
changes the contents of a node that is queued before it; and `dpa_ep_close` frees every batch
once. -/
theorem nodes_conserved (host : Host) (caps : UInt64) (links ptrs : Links)
    (nodes : ℕ → MsgQueueEntry) (events : List Host.Event) (h : NodeHost)
    (hrun : Stepper.run NodeHost.event ⟨host, .opened caps links ptrs nodes⟩ events = some h) :
    ∃ xs, Conserved h.nodes xs
      ∧ (host.completed = [] → ∀ dir,
        h.host.done dir ++ (xs (.msgQueue dir)).map h.nodes.nodes
          = events.flatMap (Host.Event.posted dir))
      ∧ (∀ dir, ∃ node s, h.nodes.getFreeEntry dir = (some node, s)
        ∧ ∀ d, node ∉ xs (.msgQueue d))
      ∧ (∀ a h', h.event a = some h' → ∀ d, ∀ n ∈ xs (.msgQueue d),
        h'.nodes.nodes n = h.nodes.nodes n)
      ∧ ∃ freed, h.nodes.dpaEpClose = some freed
        ∧ freed.Perm (List.range h.nodes.batches.length) := by
  obtain ⟨xs₀, hrep₀, hidle⟩ := Represents.opened host caps links ptrs nodes
  have ha := Accounted.run ⟨⟨xs₀, _, hrep₀, rfl⟩, hidle⟩ hrun
  obtain ⟨xs, g, hrep, hg⟩ := ha.represents
  refine ⟨xs, hrep.conserved, fun hcompleted dir => ?_, fun dir => ?_, fun a h' hstep => ?_,
    hrep.conserved.dpaEpClose ha.idle⟩
  · have hfresh : Host.Fresh (host.withQueues fun d =>
        (MsgQueue.new nodes).setLocked (host.queue d).locked) :=
      ⟨fun _ => MsgQueue.contents_new nodes, hcompleted⟩
    rw [← hrep.contents dir, hrep.done dir]
    exact (hfresh.books_run hg).order dir
  · obtain ⟨node, rest, ys, hys, hfree, hqueues, hget⟩ := hrep.conserved.getFreeEntry dir
    exact ⟨node, _, hget, fun d => hqueues d ▸ hys.free_notMem hfree d⟩
  · obtain ⟨-, -, -, -, hkept⟩ := Accounted.refined hrep hstep
    exact hkept.nodes

/-- A receive before the connection is there, an attempt at it, and two sends, of which the second
finds no space. -/
def waitingPosts : List Host.Event :=
  let ep := (Host.established 24 ⟨4, 4, 0⟩ ⟨8, 4, 0⟩).ep
  [.environment false ep.sendInfo ep.recvInfo fun _ => ⟨3, fun _ => 0⟩,
    .call (.dpaRecv (fun _ => 0) 16 7),
    .environment true ep.sendInfo ep.recvInfo fun _ => ⟨0, fun _ => 0⟩,
    .call (.processRecvQueue false), .call (.dpaSend (fun _ => 1) 8 2),
    .call (.dpaSend (fun _ => 1) 8 3)]

theorem nodes_conserved_posts :
    ∃ h xs, Stepper.run NodeHost.event
        ⟨.established 24 ⟨4, 4, 0⟩ ⟨8, 4, 0⟩, .opened fiMsg (fun _ => some 3) (fun _ => some 5)
          fun _ => ⟨fun _ => 0, 0, 0, 0⟩⟩ waitingPosts = some h
      ∧ Conserved h.nodes xs
      ∧ (h.host.done .recv ++ (xs (.msgQueue .recv)).map h.nodes.nodes).map MsgQueueEntry.context
        = [7]
      ∧ (h.host.done .send ++ (xs (.msgQueue .send)).map h.nodes.nodes).map MsgQueueEntry.context
        = [2, 3]
      ∧ ∃ freed, h.nodes.dpaEpClose = some freed
        ∧ freed.Perm (List.range h.nodes.batches.length) := by
  obtain ⟨_, hrep, -⟩ := Represents.opened (.established 24 ⟨4, 4, 0⟩ ⟨8, 4, 0⟩) fiMsg
    (fun _ => some 3) (fun _ => some 5) fun _ => ⟨fun _ => 0, 0, 0, 0⟩
  have hreturns := run_isSome hrep (by rw [NodeState.opened_msg]; decide) waitingPosts
  obtain ⟨h, hrun⟩ := Option.isSome_iff_exists.1 (hreturns.trans (by rfl))
  obtain ⟨xs, hxs, hposted, -, -, hfreed⟩ := nodes_conserved _ _ _ _ _ _ h hrun
  refine ⟨h, xs, hrun, hxs, ?_, ?_, hfreed⟩
  · rw [hposted rfl]
    rfl
  · rw [hposted rfl]
    rfl

end DpaProvider
