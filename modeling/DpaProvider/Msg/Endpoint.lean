import DpaProvider.Dpa
import DpaProvider.Library.Effect
import DpaProvider.Msg.Queue

/-!
The data transfer side of an endpoint.

`Host` is an endpoint with the memory, the completion queues and the counters its
calls reach.  The calls of `dpa_msg.c` are functions on it: the posts `dpaSend` and
`dpaRecv` (and their `msg` and `v` forms), and `processSendQueue` and
`processRecvQueue`.  A call can also fail to return: it waits for a lock that
nobody will release, or it follows a null pointer (`Stuck`).

`triggered`, `accesses`, `tried` and `completed` record the history; no call reads
them.
-/

namespace DpaProvider

open ByteMem

/-- The two directions of data transfer. -/
inductive Direction where
  | send
  | recv
  deriving DecidableEq, Repr

/-- Where a message buffer is: node, data segment, and offset in the segment.  A
pointer to a `buffer_status`, local or mapped, is the place it points to. -/
structure BufferLoc where
  node : UInt32
  segment : UInt32
  offset : UInt64
  deriving DecidableEq, Repr

/-- A `buffer_status`: the cursor that the peer publishes, and the ring. -/
structure RingBuffer where
  read : UInt64
  data : ByteMem

/-- The `local_buffer_info` of a reserved buffer. -/
structure LocalBuffer where
  base : BufferLoc
  size : UInt64
  deriving DecidableEq, Repr

/-- `recv_buffer_size`. -/
def LocalBuffer.recvBufferSize (b : LocalBuffer) : UInt64 := b.size - 8

/-- The `ep_recv_info`, without its queue. -/
structure RecvInfo where
  sd : Option Handle
  buffer : Option LocalBuffer
  interrupt : Option Handle
  remoteInterrupt : Option Handle
  remoteStatus : Option BufferLoc
  read : UInt64
  deriving DecidableEq, Repr

/-- The `ep_send_info`, without its queue. -/
structure SendInfo where
  sd : Option Handle
  remoteSegment : Option Handle
  remoteMap : Option Handle
  sequence : Option Handle
  remoteBuffer : Option BufferLoc
  interrupt : Option Handle
  remoteInterrupt : Option Handle
  remoteStatus : Option BufferLoc
  size : UInt64
  write : UInt64
  deriving DecidableEq, Repr

/-- The `remote_mr_cache`: the mapping of the last remote segment accessed, and the
last remote interrupt triggered. -/
structure RemoteMrCache where
  target : DpaAddr
  sd : Option Handle
  segment : Option Handle
  map : Option Handle
  interruptId : UInt32
  interrupt : Option Handle
  sequence : Option Handle
  base : Option DpaAddr
  len : UInt64
  deriving DecidableEq, Repr

/-- The cache of a new endpoint. -/
def RemoteMrCache.empty : RemoteMrCache where
  target := ⟨0, 0⟩
  sd := none
  segment := none
  map := none
  interruptId := 0
  interrupt := none
  sequence := none
  base := none
  len := 0

/-- The `dpa_fid_ep`.  It has the number `fid`; event queues, completion queues,
counters and address vectors are numbered too.  `autoProgress` is
`domain->data_progress == FI_PROGRESS_AUTO`. -/
structure Endpoint where
  fid : ℕ
  caps : UInt64
  autoProgress : Bool
  eq : Option ℕ
  sendCq : Option ℕ
  recvCq : Option ℕ
  readCq : Option ℕ
  writeCq : Option ℕ
  sendCntr : Option ℕ
  recvCntr : Option ℕ
  readCntr : Option ℕ
  writeCntr : Option ℕ
  av : Option ℕ
  sendInfo : SendInfo
  recvInfo : RecvInfo
  queue : Direction → MsgQueue
  lastRemoteMr : RemoteMrCache
  peerAddr : DpaAddr
  connectData : SegmentData
  connectSd : Option Handle
  connectInterrupt : Option Handle
  connected : Bool
  lockNeeded : Bool

/-- The completion queue bound for a direction. -/
def Endpoint.cq (ep : Endpoint) : Direction → Option ℕ
  | .send => ep.sendCq
  | .recv => ep.recvCq

/-- The counter bound for a direction. -/
def Endpoint.cntr (ep : Endpoint) : Direction → Option ℕ
  | .send => ep.sendCntr
  | .recv => ep.recvCntr

/-- `dpa_ep_open`, for the endpoint that gets the number `fid`; the nodes of its queues hold
`entries`. -/
def dpaEpOpen (fid : ℕ) (caps : UInt64) (destAddr : DpaAddr) (autoProgress lockNeeded : Bool)
    (entries : ℕ → MsgQueueEntry) : Except FiErr Endpoint :=
  let caps := checkEpCaps caps
  if caps = 0 then .error .einval
  else .ok
    { fid
      caps
      autoProgress
      eq := none
      sendCq := none
      recvCq := none
      readCq := none
      writeCq := none
      sendCntr := none
      recvCntr := none
      readCntr := none
      writeCntr := none
      av := none
      sendInfo :=
        { sd := none, remoteSegment := none, remoteMap := none, sequence := none
          remoteBuffer := none, interrupt := none, remoteInterrupt := none
          remoteStatus := none, size := 0, write := 0 }
      recvInfo :=
        { sd := none, buffer := none, interrupt := none, remoteInterrupt := none
          remoteStatus := none, read := 0 }
      queue := fun _ => .new entries
      lastRemoteMr := .empty
      peerAddr := destAddr
      connectData := .ofNode 0
      connectSd := none
      connectInterrupt := none
      connected := false
      lockNeeded }

/-! ### Completion queues and counters -/

/-- The `fi_cq_err_entry`; the pointers to the user buffer and to provider data
are left out. -/
structure CqErrEntry where
  opContext : ℕ
  flags : UInt64
  len : UInt64
  data : UInt64
  olen : UInt64
  err : FiErr
  provErrno : DpaError
  deriving DecidableEq, Repr

/-- The `wait_obj` of a queue or counter. -/
inductive WaitObj where
  | fiWaitNone
  | fiWaitUnspec
  deriving DecidableEq, Repr

/-- The `dpa_fid_cq`: the successful entries and the others, the oldest first. -/
structure CompletionQueue where
  waitObj : WaitObj
  eventQueue : List CqErrEntry
  errorQueue : List CqErrEntry
  deriving DecidableEq, Repr

/-- `cq_add`. -/
def cqAdd (cq : CompletionQueue) (entry : CqErrEntry) : CompletionQueue :=
  if entry.err = .success then { cq with eventQueue := cq.eventQueue ++ [entry] }
  else { cq with errorQueue := cq.errorQueue ++ [entry] }

/-- The `dpa_fid_cntr`: how often its `inc` and its `err_inc` were called. -/
structure Cntr where
  waitObj : WaitObj
  counter : ℕ
  err : ℕ
  deriving DecidableEq, Repr

/-- `dpa_cntr_inc`. -/
def dpaCntrInc (c : Cntr) : Cntr := { c with counter := c.counter + 1 }

/-- `dpa_cntr_err_inc`. -/
def dpaCntrErrInc (c : Cntr) : Cntr := { c with err := c.err + 1 }

/-- A completed operation: as it was posted, the size of the message, how much of
it was copied, and for a receive the bytes then in the user buffer. -/
structure Completed where
  dir : Direction
  op : MsgQueueEntry
  msgSize : UInt64
  copied : UInt64
  data : List UInt8

namespace Completed

/-- The `err` of a completion: only a receive can be too small. -/
def err (c : Completed) : FiErr :=
  match c.dir with
  | .send => .success
  | .recv => if c.copied < c.msgSize then .etoosmall else .success

/-- The completion entry of `try_send` and of `try_recv`. -/
def entry (c : Completed) : CqErrEntry :=
  match c.dir with
  | .send => { opContext := c.op.context, flags := fiMsg ||| fiSend, len := 0, data := 0, olen := 0,
               err := c.err, provErrno := .ok }
  | .recv => { opContext := c.op.context, flags := fiMsg ||| fiRecv, len := c.copied, data := 0,
               olen := c.msgSize - c.copied, err := c.err, provErrno := .ok }

end Completed

/-! ### The state of the calls -/

/-- Why a call does not return. -/
inductive Stuck where
  /-- It waits for a lock that is held and that nobody releases. -/
  | blocked
  | nullPointer
  /-- It goes round a loop more often than it is given. -/
  | endless
  deriving DecidableEq, Repr

/-- A bind returns only if its first part does. -/
lemma bind_eq_ok {ε : Type*} {α β : Type} {x : Except ε α} {f : α → Except ε β} {b : β}
    (h : (x >>= f) = .ok b) : ∃ a, x = .ok a ∧ f a = .ok b := by
  cases x with
  | error err => exact absurd h (by simp [bind, Except.bind])
  | ok a => exact ⟨a, rfl, h⟩

/-- A result that is there is that of a call that returns. -/
lemma toOption_eq_some {α : Type} {x : Except Stuck α} {a : α} (hx : x.toOption = some a) :
    x = .ok a := by
  cases x with
  | error err => exact absurd hx (by simp [Except.toOption])
  | ok b => simpa [Except.toOption] using hx

/-- The accesses to the buffer of this endpoint and to that of its peer; `clean` is
the cleaning of a buffer before it is made available. -/
inductive AccessKind where
  | clean
  | readStatus
  | writeRing
  | readRing
  | clearRing
  | writeStatus
  deriving DecidableEq, Repr

/-- An access, with the `connected` field at that moment. -/
structure Access where
  kind : AccessKind
  connected : Bool
  deriving DecidableEq, Repr

/-- An endpoint and what its calls reach. -/
structure Host where
  ep : Endpoint
  mem : BufferLoc → RingBuffer
  cqs : ℕ → CompletionQueue
  cntrs : ℕ → Cntr
  triggered : List Handle
  accesses : List Access
  tried : List (Direction × FiErr)
  completed : List Completed

namespace Host

/-- The buffer is cleaned before it is made available: the cursor and the first
header word are zeroed. -/
def clean (h : Host) (loc : BufferLoc) : Host :=
  { h with
    mem := Function.update h.mem loc ⟨0, storeWord (h.mem loc).data 0 0⟩
    accesses := h.accesses ++ [⟨.clean, h.ep.connected⟩] }

/-- The queue of a direction. -/
def queue (h : Host) (dir : Direction) : MsgQueue := h.ep.queue dir

def setQueue (h : Host) (dir : Direction) (q : MsgQueue) : Host :=
  { h with ep.queue := Function.update h.ep.queue dir q }

def access (h : Host) (kind : AccessKind) : Host :=
  { h with accesses := h.accesses ++ [⟨kind, h.ep.connected⟩] }

/-- `DPATriggerInterrupt`, if there is an interrupt. -/
def trigger (h : Host) (interrupt : Option Handle) : Host :=
  { h with triggered := h.triggered ++ interrupt.toList }

/-- The ring behind a pointer is stored to. -/
def setRing (h : Host) (loc : BufferLoc) (data : ByteMem) : Host :=
  { h with mem := Function.update h.mem loc { h.mem loc with data } }

/-- A cursor is published. -/
def setStatus (h : Host) (loc : BufferLoc) (read : UInt64) : Host :=
  { h with mem := Function.update h.mem loc { h.mem loc with read } }

/-- The end of `try_send` and of `try_recv`: a completion entry if a queue is
bound, an increment if a counter is. -/
def complete (h : Host) (c : Completed) : Host :=
  { h with
    completed := h.completed ++ [c]
    cqs := match h.ep.cq c.dir with
      | none => h.cqs
      | some q => Function.update h.cqs q (cqAdd (h.cqs q) c.entry)
    cntrs := match h.ep.cntr c.dir with
      | none => h.cntrs
      | some k => Function.update h.cntrs k
          (if c.err = .success then dpaCntrInc (h.cntrs k) else dpaCntrErrInc (h.cntrs k)) }

/-! ### One attempt -/

/-- `try_send`. -/
def trySend (h : Host) (entry : MsgQueueEntry) : Except Stuck (FiErr × Host) :=
  let info := h.ep.sendInfo
  match info.remoteStatus with
  | none => .error .nullPointer
  | some status =>
      let neededSpace := entry.len + bufferWord
      let availSpace := remoteSpace (h.mem status).read info.write info.size
      let h := h.access .readStatus
      if availSpace < neededSpace then .ok (.eagain, h)
      else
        match info.remoteBuffer with
        | none => .error .nullPointer
        | some buffer =>
            let w := writeMsg info.write info.size (h.mem buffer).data entry
            let h := (h.access .writeRing).setRing buffer w.2
            let h := { h with ep.sendInfo.write := w.1 }.trigger info.remoteInterrupt
            .ok (.success, h.complete ⟨.send, entry, entry.len, entry.len, []⟩)

/-- `try_recv`, with `read_msg`. -/
def tryRecv (h : Host) (entry : MsgQueueEntry) : Except Stuck (FiErr × Host) :=
  let info := h.ep.recvInfo
  match info.buffer with
  | none => .error .nullPointer
  | some buffer =>
      let size := buffer.recvBufferSize
      let ring := (h.mem buffer.base).data
      let msgSize := loadWord ring (dataPtr info.read size).toNat
      let h := h.access .readRing
      if msgSize ≤ 0 then .ok (.eagain, h)
      else
        match info.remoteStatus with
        | none => .error .nullPointer
        | some status =>
            let r := readMsg info.read size ring entry
            let h := (h.access .clearRing).setRing buffer.base r.ring
            let h := ({ h with ep.recvInfo.read := r.read }.access .writeStatus).setStatus status
              r.read
            let h := h.trigger info.remoteInterrupt
            let data := slice r.buf 0 r.readSize.toNat
            .ok (.success, h.complete ⟨.recv, entry, msgSize, r.readSize, data⟩)

/-- The attempt of a direction, noted in the history. -/
def attempt (h : Host) (dir : Direction) (entry : MsgQueueEntry) : Except Stuck (FiErr × Host) :=
  let result := match dir with
    | .send => h.trySend entry
    | .recv => h.tryRecv entry
  result.map fun r => (r.1, { r.2 with tried := r.2.tried ++ [(dir, r.1)] })

lemma attempt_send {h g : Host} {entry : MsgQueueEntry} {err : FiErr}
    (htry : h.trySend entry = .ok (err, g)) :
    h.attempt .send entry = .ok (err, { g with tried := g.tried ++ [(.send, err)] }) := by
  unfold attempt
  simp only [htry]
  rfl

lemma attempt_recv {h g : Host} {entry : MsgQueueEntry} {err : FiErr}
    (htry : h.tryRecv entry = .ok (err, g)) :
    h.attempt .recv entry = .ok (err, { g with tried := g.tried ++ [(.recv, err)] }) := by
  unfold attempt
  simp only [htry]
  rfl

/-! ### The lock of a queue -/

/-- `lock_if_needed`. -/
def lockIfNeeded (h : Host) (dir : Direction) : Except Stuck Host :=
  if h.ep.lockNeeded then
    if (h.queue dir).locked then .error .blocked
    else .ok (h.setQueue dir ((h.queue dir).setLocked true))
  else .ok h

/-- `unlock_if_needed`. -/
def unlockIfNeeded (h : Host) (dir : Direction) : Host :=
  if h.ep.lockNeeded then h.setQueue dir ((h.queue dir).setLocked false) else h

/-! ### Posts -/

/-- `_dpa_msg_enqueue`. -/
def enqueue (h : Host) (dir : Direction) (entry : MsgQueueEntry) : Host :=
  (h.setQueue dir ((h.queue dir).enqueue entry)).unlockIfNeeded dir

/-- The attempt that a post makes if the queue is empty and `mayTry` holds. -/
def firstAttempt (h : Host) (dir : Direction) (mayTry : Bool) (entry : MsgQueueEntry) :
    Except Stuck (FiErr × Host) :=
  if (h.queue dir).isEmpty && mayTry then h.attempt dir entry else .ok (.eagain, h)

/-- The part that `_dpa_send` and `_dpa_recv` share: an operation that has to wait
is enqueued.  The call returns `FI_SUCCESS` either way; an operation that succeeds
at once leaves the lock held. -/
def post (h : Host) (dir : Direction) (mayTry : Bool) (entry : MsgQueueEntry) :
    Except Stuck Host := do
  let h ← h.lockIfNeeded dir
  let r ← h.firstAttempt dir mayTry entry
  if r.1 = .eagain then .ok (r.2.enqueue dir entry) else .ok r.2

/-- `_dpa_send`: it does not look at `connected`, and it drops the flags. -/
def dpaSendEntry (h : Host) (buf : ByteMem) (len _flags : UInt64) (context : ℕ) :
    Except Stuck Host :=
  h.post .send true { buf, len, flags := 0, context }

/-- `_dpa_recv`. -/
def dpaRecvEntry (h : Host) (buf : ByteMem) (len flags : UInt64) (context : ℕ) :
    Except Stuck Host :=
  h.post .recv h.ep.connected { buf, len, flags, context }

/-- `dpa_send`. -/
def dpaSend (h : Host) (buf : ByteMem) (len : UInt64) (context : ℕ) : Except Stuck Host :=
  h.dpaSendEntry buf len 0 context

/-- `dpa_recv`. -/
def dpaRecv (h : Host) (buf : ByteMem) (len : UInt64) (context : ℕ) : Except Stuck Host :=
  h.dpaRecvEntry buf len 0 context

/-- The `iovec`. -/
structure Iovec where
  base : ByteMem
  len : UInt64

/-- The `fi_msg`: `msgIov` is the first element behind the pointer. -/
structure FiMsg where
  msgIov : Option Iovec
  iovCount : UInt64
  context : ℕ

/-- The check that `dpa_sendmsg` and `dpa_recvmsg` start with, and the buffer and
length they go on with. -/
def checkMsg (msg : Option FiMsg) : Option (ByteMem × UInt64 × ℕ) :=
  match msg with
  | none => none
  | some m =>
      if m.iovCount = 0 then some (fun _ => 0, 0, m.context)
      else
        match m.msgIov with
        | none => none
        | some iov => if 1 < m.iovCount then none else some (iov.base, iov.len, m.context)

/-- `dpa_sendmsg`: the return value, and the endpoint. -/
def dpaSendmsg (h : Host) (msg : Option FiMsg) (flags : UInt64) : Except Stuck (FiErr × Host) :=
  match checkMsg msg with
  | none => .ok (.einval, h)
  | some (buf, len, context) => (h.dpaSendEntry buf len flags context).map (.success, ·)

/-- `dpa_recvmsg`. -/
def dpaRecvmsg (h : Host) (msg : Option FiMsg) (flags : UInt64) : Except Stuck (FiErr × Host) :=
  match checkMsg msg with
  | none => .ok (.einval, h)
  | some (buf, len, context) => (h.dpaRecvEntry buf len flags context).map (.success, ·)

/-! ### Processing a queue -/

/-- The loop of `process_send_queue` and of `process_recv_queue` over the queued
nodes: the head is tried, and goes to the free list if the attempt counts as
`done`; else the loop ends. -/
def drain (done : FiErr → Bool) (dir : Direction) : List ℕ → Host → Except Stuck Host
  | [], h => .ok h
  | node :: rest, h => do
      let r ← h.attempt dir ((h.queue dir).nodes node)
      if done r.1 then drain done dir rest (r.2.setQueue dir (r.2.queue dir).pop) else .ok r.2

/-- The lock that a caller may already hold. -/
def lockUnless (h : Host) (locked : Bool) (dir : Direction) : Except Stuck Host :=
  if locked then .ok h else h.lockIfNeeded dir

/-- The frame that `process_send_queue` and `process_recv_queue` share. -/
def processQueue (h : Host) (done : FiErr → Bool) (dir : Direction) (locked : Bool) :
    Except Stuck Host :=
  if !h.ep.connected then .ok (if locked then h.unlockIfNeeded dir else h)
  else if !locked && (h.queue dir).isEmpty then .ok h
  else do
    let h ← h.lockUnless locked dir
    let h ← drain done dir (h.queue dir).entries h
    .ok (h.unlockIfNeeded dir)

/-- `process_send_queue`: it goes on while the result is not `-FI_EAGAIN`. -/
def processSendQueue (h : Host) (locked : Bool) : Except Stuck Host :=
  h.processQueue (fun err => err ≠ .eagain) .send locked

/-- `process_recv_queue`: it goes on while the result is `FI_SUCCESS`. -/
def processRecvQueue (h : Host) (locked : Bool) : Except Stuck Host :=
  h.processQueue (fun err => err = .success) .recv locked

/-! ### The calls -/

/-- A call on the endpoint. -/
inductive Call where
  | dpaSend (buf : ByteMem) (len : UInt64) (context : ℕ)
  | dpaRecv (buf : ByteMem) (len : UInt64) (context : ℕ)
  | dpaSendmsg (msg : Option FiMsg) (flags : UInt64)
  | dpaRecvmsg (msg : Option FiMsg) (flags : UInt64)
  | processSendQueue (locked : Bool)
  | processRecvQueue (locked : Bool)

/-- The endpoint after a call; none if it does not return. -/
def call (h : Host) : Call → Option Host
  | .dpaSend buf len context => (h.dpaSend buf len context).toOption
  | .dpaRecv buf len context => (h.dpaRecv buf len context).toOption
  | .dpaSendmsg msg flags => ((h.dpaSendmsg msg flags).map Prod.snd).toOption
  | .dpaRecvmsg msg flags => ((h.dpaRecvmsg msg flags).map Prod.snd).toOption
  | .processSendQueue locked => (h.processSendQueue locked).toOption
  | .processRecvQueue locked => (h.processRecvQueue locked).toOption

/-- A connected endpoint before its first call: its own buffer and that of its
peer are zeroed and have rings of `size` bytes, and completion queue 0 and counter
0 are bound to it. -/
def established (size : UInt64) (own peer : BufferLoc) : Host where
  ep :=
    { fid := 0
      caps := fiMsg ||| fiSend ||| fiRecv
      autoProgress := true
      eq := none
      sendCq := some 0
      recvCq := some 0
      readCq := none
      writeCq := none
      sendCntr := some 0
      recvCntr := some 0
      readCntr := none
      writeCntr := none
      av := none
      sendInfo :=
        { sd := some 1, remoteSegment := some 2, remoteMap := some 3, sequence := some 4
          remoteBuffer := some peer, interrupt := some 5, remoteInterrupt := some 6
          remoteStatus := some own, size, write := 0 }
      recvInfo :=
        { sd := some 7, buffer := some ⟨own, size + 8⟩, interrupt := some 8
          remoteInterrupt := some 9, remoteStatus := some peer, read := 0 }
      queue := fun _ => .new fun _ => { buf := fun _ => 0, len := 0, flags := 0, context := 0 }
      lastRemoteMr := .empty
      peerAddr := ⟨peer.node, 0⟩
      connectData := .ofNode 0
      connectSd := none
      connectInterrupt := none
      connected := true
      lockNeeded := false }
  mem := fun _ => ⟨0, fun _ => 0⟩
  cqs := fun _ => ⟨.fiWaitUnspec, [], []⟩
  cntrs := fun _ => ⟨.fiWaitUnspec, 0, 0⟩
  triggered := []
  accesses := []
  tried := []
  completed := []

end Host

end DpaProvider
