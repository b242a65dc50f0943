import DpaProvider.Msg.Ring

/-!
The queue of posted operations of one direction of an endpoint.

A posted operation that cannot be carried out at once is copied into a node
taken from a free list; a completed one gives its node back.  `MsgQueue` keeps
the nodes of one direction and carries in its fields that no node is in both
lists or twice in one, so that a node is never overwritten while it is queued.

* `MsgQueue.enqueue`: `_dpa_msg_enqueue`, with `get_free_entry` and
  `create_msg_queue_entries`;
* `MsgQueue.pop`: the head of the queue goes back to the free list;
* `contents_enqueue`, `contents_pop`: on the contents these are a push at the
  tail and a removal at the head.
-/

namespace DpaProvider

/-- `MSG_QUEUE_ENTRIES_BATCH_SIZE`. -/
def msgQueueEntriesBatchSize : ℕ := 512

/-- The `msg_queue` and the `free_entries` of one direction, as the numbers of
their nodes from head to tail, with the contents of the nodes, the number of
nodes ever created and the state of the lock of `msg_queue`. -/
structure MsgQueue where
  entries : List ℕ
  freeEntries : List ℕ
  nodes : ℕ → MsgQueueEntry
  created : ℕ
  locked : Bool
  nodup : (entries ++ freeEntries).Nodup
  lt_created : ∀ n ∈ entries ++ freeEntries, n < created

namespace MsgQueue

variable {q : MsgQueue} {e : MsgQueueEntry}

/-- The posted operations that are queued, the oldest first. -/
def contents (q : MsgQueue) : List MsgQueueEntry := q.entries.map q.nodes

/-- `slist_empty`. -/
def isEmpty (q : MsgQueue) : Bool := q.entries.isEmpty

/-- `create_msg_queue_entries`: a batch of new nodes, each put at the head of the
free list. -/
def createEntries (q : MsgQueue) : MsgQueue where
  entries := q.entries
  freeEntries := (List.range' q.created msgQueueEntriesBatchSize).reverse ++ q.freeEntries
  nodes := q.nodes
  created := q.created + msgQueueEntriesBatchSize
  locked := q.locked
  nodup := by
    have hold := List.nodup_append.1 q.nodup
    have hnew : ∀ n ∈ (List.range' q.created msgQueueEntriesBatchSize).reverse, q.created ≤ n :=
      fun n hn => (List.mem_range'_1.1 (List.mem_reverse.1 hn)).1
    have hlt := q.lt_created
    refine List.nodup_append.2 ⟨hold.1, List.nodup_append.2
      ⟨List.nodup_reverse.2 List.nodup_range', hold.2.1, fun a ha b hb => ?_⟩, fun a ha b hb => ?_⟩
    · have := hnew a ha
      have := hlt b (List.mem_append_right _ hb)
      omega
    · rcases List.mem_append.1 hb with hb | hb
      · have := hnew b hb
        have := hlt a (List.mem_append_left _ ha)
        omega
      · exact hold.2.2 a ha b hb
  lt_created := by
    intro n hn
    have hlt := q.lt_created
    rcases List.mem_append.1 hn with hn | hn
    · have := hlt n (List.mem_append_left _ hn)
      omega
    · rcases List.mem_append.1 hn with hn | hn
      · exact (List.mem_range'_1.1 (List.mem_reverse.1 hn)).2
      · have := hlt n (List.mem_append_right _ hn)
        omega

/-- The queue with at least one free node. -/
def refill (q : MsgQueue) : MsgQueue := if q.freeEntries.isEmpty then q.createEntries else q

lemma refill_freeEntries_ne_nil (q : MsgQueue) : q.refill.freeEntries ≠ [] := by
  rw [refill]
  split
  · refine List.ne_nil_of_length_pos ?_
    rw [createEntries, List.length_append, List.length_reverse, List.length_range',
      msgQueueEntriesBatchSize]
    omega
  case isFalse h => simpa using h

lemma refill_frame (q : MsgQueue) :
    q.refill.entries = q.entries ∧ q.refill.nodes = q.nodes ∧ q.refill.locked = q.locked := by
  rw [refill]
  split
  · refine ⟨?_, ?_, ?_⟩ <;> rw [createEntries]
  · exact ⟨rfl, rfl, rfl⟩

/-- `get_free_entry`. -/
def getFreeEntry (q : MsgQueue) : ℕ := q.refill.freeEntries.head q.refill_freeEntries_ne_nil

lemma freeEntries_eq (q : MsgQueue) :
    q.getFreeEntry :: q.refill.freeEntries.tail = q.refill.freeEntries :=
  List.cons_head_tail q.refill_freeEntries_ne_nil

/-- The free node is not queued. -/
lemma getFreeEntry_notMem (q : MsgQueue) : q.getFreeEntry ∉ q.entries := by
  have h := q.refill.nodup
  rw [q.refill_frame.1, ← q.freeEntries_eq] at h
  exact fun hmem => (List.nodup_append.1 h).2.2 _ hmem _ List.mem_cons_self rfl

/-- `_dpa_msg_enqueue`, without the unlock: the operation is copied into a free
node, which goes to the tail of the queue. -/
def enqueue (q : MsgQueue) (e : MsgQueueEntry) : MsgQueue where
  entries := q.entries ++ [q.getFreeEntry]
  freeEntries := q.refill.freeEntries.tail
  nodes := Function.update q.nodes q.getFreeEntry e
  created := q.refill.created
  locked := q.locked
  nodup := by
    have h := q.refill.nodup
    rw [q.refill_frame.1, ← q.freeEntries_eq] at h
    rw [List.append_assoc]
    exact h
  lt_created := by
    have h := q.refill.lt_created
    rw [q.refill_frame.1, ← q.freeEntries_eq] at h
    rw [List.append_assoc]
    exact h

/-- The head of the queue goes to the head of the free list. -/
def pop (q : MsgQueue) : MsgQueue where
  entries := q.entries.tail
  freeEntries := q.entries.head?.toList ++ q.freeEntries
  nodes := q.nodes
  created := q.created
  locked := q.locked
  nodup := by
    have h := q.nodup
    cases hentries : q.entries with
    | nil => simpa [hentries] using h
    | cons n rest =>
        rw [hentries] at h
        refine (List.Perm.nodup_iff ?_).1 h
        simpa using List.perm_middle.symm
  lt_created := by
    intro n hn
    refine q.lt_created n ?_
    cases hentries : q.entries with
    | nil => simpa [hentries] using hn
    | cons m rest =>
        simp only [hentries, List.tail_cons, List.head?_cons, Option.toList_some, List.mem_append,
          List.mem_cons, List.not_mem_nil, or_false] at hn ⊢
        tauto

/-- The lock of the queue is taken or released. -/
def setLocked (q : MsgQueue) (locked : Bool) : MsgQueue := { q with locked }

@[simp] lemma contents_setLocked (b : Bool) : (q.setLocked b).contents = q.contents := rfl

@[simp] lemma locked_setLocked (b : Bool) : (q.setLocked b).locked = b := rfl

@[simp] lemma locked_enqueue : (q.enqueue e).locked = q.locked := rfl

@[simp] lemma locked_pop : q.pop.locked = q.locked := rfl

lemma entries_pop : q.pop.entries = q.entries.tail := rfl

@[simp] lemma contents_enqueue : (q.enqueue e).contents = q.contents ++ [e] := by
  simp only [contents, enqueue, List.map_append, List.map_singleton, Function.update_self]
  congr 1
  refine List.map_congr_left fun n hn => Function.update_of_ne ?_ _ _
  rintro rfl
  exact q.getFreeEntry_notMem hn

@[simp] lemma contents_pop : q.pop.contents = q.contents.tail := by
  simp [contents, pop]

lemma isEmpty_eq : q.isEmpty = q.contents.isEmpty := by simp [isEmpty, contents]

/-- A direction without posted operations, with its first batch of nodes, whose
memory holds anything. -/
def new (nodes : ℕ → MsgQueueEntry) : MsgQueue :=
  createEntries
    { entries := [], freeEntries := [], nodes, created := 0, locked := false
      nodup := by simp
      lt_created := by simp }

@[simp] lemma contents_new (nodes : ℕ → MsgQueueEntry) : (new nodes).contents = [] := by
  rw [new, createEntries, contents, List.map_nil]

end MsgQueue

end DpaProvider
