import DpaProvider.Msg.Accounting
import DpaProvider.Msg.Receivable

/-!
Two connected endpoints.

Each endpoint receives in its own buffer and publishes its read cursor in the
buffer of the other (`Wired`), so two endpoints hold two independent channels, one
for each direction (`outFlow`, `inFlow`).  An attempt of `try_send` or `try_recv`
is a call on one of them and leaves the other alone: `trySend_flow`,
`tryRecv_flow`.  `Pair.call` lets either side make a call.
-/

namespace DpaProvider

open ByteMem

/-- The completion of a receive, as the channel records it. -/
def Completed.report (c : Completed) : RecvCompletion where
  context := c.op.context
  data := c.data
  len := c.copied
  olen := c.msgSize - c.copied
  err := c.err

namespace Host

/-- The messages sent. -/
def sentMsgs (h : Host) : List (List UInt8) := (h.done .send).map MsgQueueEntry.bytes

/-- The receives completed. -/
def received (h : Host) : List Completed := h.completed.filter fun c => c.dir = .recv

/-- The channel from `s` to `r`, between calls: the ring is that of `r`, the
published cursor that in the buffer of `s`. -/
def flow (ring : ByteMem) (status : UInt64) (s r : Host) : Channel where
  ring
  remoteRead := status
  write := s.ep.sendInfo.write
  read := r.ep.recvInfo.read
  sendPc := .idle
  recvPc := .idle
  accepted := s.sentMsgs
  sent := s.sentMsgs
  taken := r.received.map fun c => c.copied.toNat
  published := r.received.length
  completed := r.received.map Completed.report

/-- The channel from `h` to the other endpoint `o`; the memory is that of `h`. -/
def outFlow (own peer : BufferLoc) (h o : Host) : Channel :=
  flow (h.mem peer).data (h.mem own).read h o

/-- The channel from the other endpoint `o` to `h`. -/
def inFlow (own peer : BufferLoc) (h o : Host) : Channel :=
  flow (h.mem own).data (h.mem peer).read o h

/-- A connected endpoint with the ring buffer `own`, whose peer has `peer`; `cap`
gives the ring sizes. -/
structure Wired (cap : BufferLoc → UInt64) (own peer : BufferLoc) (h : Host) : Prop where
  connected : h.ep.connected = true
  status : h.ep.sendInfo.remoteStatus = some own
  remoteBuffer : h.ep.sendInfo.remoteBuffer = some peer
  size : h.ep.sendInfo.size = cap peer
  buffer : h.ep.recvInfo.buffer = some ⟨own, cap own + 8⟩
  remoteStatus : h.ep.recvInfo.remoteStatus = some peer

variable {cap : BufferLoc → UInt64} {own peer : BufferLoc} {h o g : Host} {e : MsgQueueEntry}

lemma Wired.congr (hw : Wired cap own peer h) (hep : g.ep = h.ep) : Wired cap own peer g := by
  obtain ⟨h₁, h₂, h₃, h₄, h₅, h₆⟩ := hw
  constructor <;> rwa [hep]

/-- What an attempt leaves alone, besides the channel it does not work on. -/
structure Steady (h g : Host) : Prop where
  lockNeeded : g.ep.lockNeeded = h.ep.lockNeeded
  queue : g.ep.queue = h.ep.queue
  tried : g.tried = h.tried

/-- An attempt has completed the operation of `c`. -/
structure Did (cap : BufferLoc → UInt64) (own peer : BufferLoc) (h g : Host) (c : Completed) :
    Prop where
  steady : Steady h g
  wired : Wired cap own peer g
  completed : g.completed = h.completed ++ [c]

lemma sentMsgs_append {c : Completed} (hc : g.completed = h.completed ++ [c]) :
    g.sentMsgs = h.sentMsgs ++ if c.dir = .send then [c.op.bytes] else [] := by
  rw [sentMsgs, sentMsgs, done, done, hc]
  by_cases hdir : c.dir = .send <;> simp [hdir]

lemma received_append {c : Completed} (hc : g.completed = h.completed ++ [c]) :
    g.received = h.received ++ if c.dir = .recv then [c] else [] := by
  rw [received, received, hc]
  by_cases hdir : c.dir = .recv <;> simp [hdir]

/-- `try_send` asks for a retry when the outgoing channel has no space. -/
lemma trySend_noSpace (hw : Wired cap own peer h) (o : Host)
    (hspace : (outFlow own peer h o).hasSpace (cap peer) e = false) :
    h.trySend e = .ok (.eagain, h.access .readStatus) := by
  have hlt : remoteSpace (h.mem own).read h.ep.sendInfo.write (cap peer) < e.len + bufferWord :=
    of_decide_eq_true (Bool.not_eq_false' _ ▸ hspace)
  simp only [trySend, hw.status, hw.size, if_pos hlt]

/-- With space `try_send` is a call on the outgoing channel. -/
lemma trySend_space (hw : Wired cap own peer h) (hne : own ≠ peer) (o : Host)
    (hspace : (outFlow own peer h o).hasSpace (cap peer) e = true) :
    ∃ g, h.trySend e = .ok (.success, g) ∧ Did cap own peer h g ⟨.send, e, e.len, e.len, []⟩
      ∧ outFlow own peer g o = (outFlow own peer h o).wrote (cap peer) e
      ∧ inFlow own peer g o = inFlow own peer h o := by
  have hlt : ¬ remoteSpace (h.mem own).read h.ep.sendInfo.write (cap peer) < e.len + bufferWord :=
    of_decide_eq_false (Bool.not_eq_true' _ ▸ hspace)
  simp only [trySend, hw.status, hw.remoteBuffer, hw.size, if_neg hlt]
  refine ⟨_, rfl, ⟨⟨rfl, rfl, rfl⟩, ⟨hw.connected, hw.status, hw.remoteBuffer, hw.size, hw.buffer,
      hw.remoteStatus⟩, rfl⟩, ?_, ?_⟩
  · rw [outFlow, flow, sentMsgs_append (h := h) rfl]
    simp only [complete, trigger, setRing, access, Function.update_self,
      Function.update_of_ne hne]
    rfl
  · rw [inFlow, flow, received_append (h := h) rfl]
    simp only [complete, trigger, setRing, access, Function.update_self,
      Function.update_of_ne hne]
    simp only [reduceCtorEq, if_false, List.append_nil]
    rfl

/-- `try_recv` asks for a retry when the incoming channel has nothing to receive. -/
lemma tryRecv_nothing (hw : Wired cap own peer h) (o : Host)
    (hzero : loadWord (inFlow own peer h o).ring
      (dataPtr (inFlow own peer h o).read (cap own)).toNat ≤ 0) :
    h.tryRecv e = .ok (.eagain, h.access .readRing) := by
  have hsize : (⟨own, cap own + 8⟩ : LocalBuffer).recvBufferSize = cap own :=
    UInt64.add_sub_cancel (cap own) 8
  have hle : loadWord (h.mem own).data (dataPtr h.ep.recvInfo.read (cap own)).toNat ≤ 0 := hzero
  simp only [tryRecv, hw.buffer, hsize, if_pos hle]

/-- With a message there `try_recv` is a call on the incoming channel. -/
lemma tryRecv_message (hw : Wired cap own peer h) (hne : own ≠ peer) (o : Host)
    (hsize : ¬ loadWord (inFlow own peer h o).ring
      (dataPtr (inFlow own peer h o).read (cap own)).toNat ≤ 0) :
    ∃ g c, h.tryRecv e = .ok (.success, g) ∧ Did cap own peer h g c ∧ c.dir = .recv ∧ c.op = e
      ∧ c.msgSize = loadWord (inFlow own peer h o).ring
        (dataPtr (inFlow own peer h o).read (cap own)).toNat
      ∧ inFlow own peer g o = (inFlow own peer h o).received (cap own) e
      ∧ outFlow own peer g o = outFlow own peer h o := by
  have hring : (⟨own, cap own + 8⟩ : LocalBuffer).recvBufferSize = cap own :=
    UInt64.add_sub_cancel (cap own) 8
  have hle : ¬ loadWord (h.mem own).data (dataPtr h.ep.recvInfo.read (cap own)).toNat ≤ 0 :=
    hsize
  simp only [tryRecv, hw.buffer, hw.remoteStatus, hring, if_neg hle]
  refine ⟨_, _, rfl, ⟨⟨rfl, rfl, rfl⟩, ⟨hw.connected, hw.status, hw.remoteBuffer, hw.size,
      hw.buffer, hw.remoteStatus⟩, rfl⟩, rfl, rfl, rfl, ?_, ?_⟩
  · rw [inFlow, flow, received_append (h := h) rfl]
    simp only [complete, trigger, setRing, setStatus, access, Function.update_self,
      Function.update_of_ne hne, Function.update_of_ne hne.symm]
    simp only [if_true, List.map_append, List.length_append]
    rfl
  · rw [outFlow, flow, sentMsgs_append (h := h) rfl]
    simp only [complete, trigger, setRing, setStatus, access, Function.update_self,
      Function.update_of_ne hne, Function.update_of_ne hne.symm]
    simp only [reduceCtorEq, if_false, List.append_nil]
    rfl

end Host

/-- Two endpoints over one memory. -/
structure Pair where
  host : Bool → Host
  mem : BufferLoc → RingBuffer

namespace Pair

open Host

/-- One endpoint, with the memory. -/
def focus (p : Pair) (side : Bool) : Host := { p.host side with mem := p.mem }

/-- A call on one side. -/
def call (p : Pair) (c : Bool × Call) : Option Pair :=
  ((p.focus c.1).call c.2).map fun h => { host := Function.update p.host c.1 h, mem := h.mem }

/-- Two endpoints just connected: nothing is completed, and the cursors and the
rings are zero.  Operations may be queued. -/
structure Start (cap : BufferLoc → UInt64) (loc : Bool → BufferLoc) (p : Pair) : Prop where
  wired : ∀ side, Wired cap (loc side) (loc !side) (p.host side)
  write : ∀ side, (p.host side).ep.sendInfo.write = 0
  read : ∀ side, (p.host side).ep.recvInfo.read = 0
  zeroed : ∀ side, ∀ a < (cap (loc side)).toNat, (p.mem (loc side)).data a = 0
  status : ∀ side, (p.mem (loc side)).read = 0
  completed : ∀ side, (p.host side).completed = []

/-- The operations posted on a side: those queued at first, and those of the calls. -/
def posts (p : Pair) (side : Bool) (calls : List (Bool × Call)) (dir : Direction) :
    List MsgQueueEntry :=
  ((p.host side).queue dir).contents
    ++ calls.flatMap fun c => if c.1 = side then c.2.action.posted dir else []

/-- The messages posted on a side. -/
def messages (p : Pair) (side : Bool) (calls : List (Bool × Call)) : List (List UInt8) :=
  (p.posts side calls .send).map MsgQueueEntry.bytes

end Pair

end DpaProvider
