import DpaProvider.Fabric
import DpaProvider.Library.Stepper
import DpaProvider.Msg.Frames

/-!
The two sides of one ring, one memory step at a time.

`Channel` is a sender and a receiver that share the bytes of the ring and the
published read cursor.  Each side runs through the memory accesses of its call
in program order: `sendStep` those of `try_send` and `write_msg`, `recvStep`
those of `try_recv` and `read_msg`.  `step` interleaves the two.  A `dpa_barrier`
stands between the payload and the header word, so remote stores take effect in
this order.

`accepted`, `sent`, `taken`, `published` and `completed` record the history; no
step reads them.
-/

namespace DpaProvider

open ByteMem

/-- Where the sender is in `try_send`. -/
inductive SendPc where
  | idle
  | storeFirst (msg : MsgQueueEntry)
  | storeSecond (msg : MsgQueueEntry)
  | advance (msg : MsgQueueEntry)
  | storeSize (msg : MsgQueueEntry) (data : UInt64)

/-- The message a call in progress is writing. -/
def SendPc.msg : SendPc → Option MsgQueueEntry
  | idle => none
  | storeFirst msg | storeSecond msg | advance msg | storeSize msg _ => some msg

/-- The local variables of a `try_recv` in progress: the posted receive, the
size word it tested, those of `read_msg`, and the user buffer as filled so far. -/
structure RecvCall where
  entry : MsgQueueEntry
  probed : UInt64
  locals : ReadLocals
  buf : ByteMem

/-- Where the receiver is in `try_recv`. -/
inductive RecvPc where
  | idle
  | load (entry : MsgQueueEntry) (probed : UInt64)
  | copyFirst (c : RecvCall)
  | zeroFirst (c : RecvCall)
  | copySecond (c : RecvCall)
  | zeroSecond (c : RecvCall)
  | advance (c : RecvCall)
  | publish (c : RecvCall)
  | complete (c : RecvCall)

/-- What a completed receive reports: the bytes in the user buffer, and the
fields of its completion entry. -/
structure RecvCompletion where
  context : ℕ
  data : List UInt8
  len : UInt64
  olen : UInt64
  err : FiErr
  deriving DecidableEq

/-- The completion entry of `try_recv`. -/
def RecvCall.completion (c : RecvCall) : RecvCompletion where
  context := c.entry.context
  data := slice c.buf 0 c.locals.readSize.toNat
  len := c.locals.readSize
  olen := c.probed - c.locals.readSize
  err := if c.locals.readSize < c.probed then .etoosmall else .success

/-- A sender and a receiver over one ring. -/
structure Channel where
  ring : ByteMem
  /-- The receiver's cursor as published in the sender's `buffer_status`. -/
  remoteRead : UInt64
  write : UInt64
  read : UInt64
  sendPc : SendPc
  recvPc : RecvPc
  /-- The messages `try_send` has found space for. -/
  accepted : List (List UInt8)
  /-- The messages whose header word has been stored. -/
  sent : List (List UInt8)
  /-- The bytes copied from each message the receiver has moved past. -/
  taken : List ℕ
  /-- The number of times the receiver has published its cursor. -/
  published : ℕ
  completed : List RecvCompletion

namespace Channel

/-- A connected pair before its first message. -/
def init (ring : ByteMem) : Channel where
  ring
  remoteRead := 0
  write := 0
  read := 0
  sendPc := .idle
  recvPc := .idle
  accepted := []
  sent := []
  taken := []
  published := 0
  completed := []

/-- The space test of `try_send`. -/
def hasSpace (S : UInt64) (s : Channel) (msg : MsgQueueEntry) : Bool :=
  !decide (remoteSpace s.remoteRead s.write S < msg.len + bufferWord)

/-- The head of `try_send`: loads the published cursor and tests the space;
without space the call ends with `-FI_EAGAIN`. -/
def beginSend (S : UInt64) (s : Channel) (msg : MsgQueueEntry) : Channel :=
  if s.hasSpace S msg then
    { s with sendPc := .storeFirst msg, accepted := s.accepted ++ [msg.bytes] }
  else s

/-- The next memory step of the sender. -/
def sendStep (S : UInt64) (s : Channel) : Option Channel :=
  match s.sendPc with
  | .idle => none
  | .storeFirst msg =>
      some { s with
        ring := DpaProvider.storeFirst s.write S s.ring msg
        sendPc := .storeSecond msg }
  | .storeSecond msg =>
      some { s with ring := DpaProvider.storeSecond s.write S s.ring msg, sendPc := .advance msg }
  | .advance msg =>
      some { s with write := newOffset s.write msg.len S,
                    sendPc := .storeSize msg (dataPtr s.write S) }
  | .storeSize msg data =>
      some { s with ring := storeWord s.ring data.toNat msg.len, sendPc := .idle,
                    sent := s.sent ++ [msg.bytes] }

/-- The head of `try_recv`: loads the size word; a zero word ends the call with
`-FI_EAGAIN`. -/
def beginRecv (S : UInt64) (s : Channel) (entry : MsgQueueEntry) : Channel :=
  let msgSize := loadWord s.ring (dataPtr s.read S).toNat
  if msgSize ≤ 0 then s else { s with recvPc := .load entry msgSize }

/-- The next memory step of the receiver. -/
def recvStep (S : UInt64) (s : Channel) : Option Channel :=
  match s.recvPc with
  | .idle => none
  | .load entry probed =>
      let locals := readLocals s.read S s.ring entry
      some { s with recvPc := .copyFirst { entry, probed, locals, buf := entry.buf } }
  | .copyFirst c =>
      some { s with recvPc := .zeroFirst { c with buf := copyFirst c.locals s.ring c.buf } }
  | .zeroFirst c =>
      some { s with ring := DpaProvider.zeroFirst c.locals s.ring, recvPc := .copySecond c }
  | .copySecond c =>
      some { s with recvPc := .zeroSecond { c with buf := copySecond c.locals s.ring c.buf } }
  | .zeroSecond c =>
      some { s with ring := DpaProvider.zeroSecond c.locals s.ring, recvPc := .advance c }
  | .advance c =>
      some { s with read := newOffset s.read c.locals.msgSize S, recvPc := .publish c,
                    taken := s.taken ++ [c.locals.readSize.toNat] }
  | .publish c =>
      some { s with remoteRead := s.read, published := s.published + 1, recvPc := .complete c }
  | .complete c =>
      some { s with completed := s.completed ++ [c.completion], recvPc := .idle }

/-- The actions of the two sides. -/
inductive Act where
  /-- The sender, between calls, calls `try_send`. -/
  | trySend (msg : MsgQueueEntry)
  | sendStep
  /-- The receiver, between calls, calls `try_recv` for a posted receive. -/
  | tryRecv (entry : MsgQueueEntry)
  | recvStep

/-- One action of either side. -/
def step (S : UInt64) (s : Channel) : Act → Option Channel
  | .trySend msg => match s.sendPc with
      | .idle => some (s.beginSend S msg)
      | _ => none
  | .sendStep => s.sendStep S
  | .tryRecv entry => match s.recvPc with
      | .idle => some (s.beginRecv S entry)
      | _ => none
  | .recvStep => s.recvStep S

/-! ### The bytes the sender stores and the bytes it must not touch -/

/-- The addresses the next memory step of the sender stores to. -/
def Stores (S : UInt64) (s : Channel) (a : ℕ) : Prop :=
  let data := dataPtr s.write S
  let buftop := buftopSize data S
  match s.sendPc with
  | .idle | .advance _ => False
  | .storeFirst msg => (data + bufferWord).toNat ≤ a
      ∧ a < (data + bufferWord).toNat + (min msg.len buftop).toNat
  | .storeSecond msg => buftop < msg.len ∧ a < (msg.len - buftop).toNat
  | .storeSize _ data => data.toNat ≤ a ∧ a < data.toNat + 8

/-- The sender changes the ring at these addresses only. -/
theorem sendStep_ring {S : UInt64} {s t : Channel} (hstep : s.sendStep S = some t) {a : ℕ}
    (ha : ¬ Stores S s a) : t.ring a = s.ring a := by
  simp only [Stores] at ha
  rw [sendStep] at hstep
  cases hpc : s.sendPc with
  | idle =>
      rw [hpc] at hstep
      cases hstep
  | storeFirst msg =>
      simp only [hpc] at hstep ha
      obtain rfl := Option.some.inj hstep
      dsimp only [DpaProvider.storeFirst, memcpy]
      exact patch_apply_of_notMem ha
  | storeSecond msg =>
      simp only [hpc] at hstep ha
      obtain rfl := Option.some.inj hstep
      dsimp only [DpaProvider.storeSecond, memcpy]
      split
      case isTrue hwraps => exact patch_apply_of_notMem fun h => ha ⟨hwraps, by omega⟩
      case isFalse => rfl
  | advance msg =>
      simp only [hpc] at hstep
      obtain rfl := Option.some.inj hstep
      rfl
  | storeSize msg data =>
      simp only [hpc] at hstep ha
      obtain rfl := Option.some.inj hstep
      exact patch_apply_of_notMem ha

/-- The addresses of the frames the receiver has not released: those the sender
has completed, from the published read cursor on. -/
def Unreleased (S : UInt64) (s : Channel) (a : ℕ) : Prop :=
  ∃ i < ((s.sent.drop s.published).map fun m => frameLen m.length).sum,
    a = (s.remoteRead.toNat + i) % S.toNat

end Channel

end DpaProvider
