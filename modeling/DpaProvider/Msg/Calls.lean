import DpaProvider.Msg.Steps

/-!
The calls of the two sides, run without interruption.

A call of `try_send` or `try_recv` that no step of the other side interrupts does
what `write_msg` and `read_msg` compute: `run_sendCall`, `run_recvCall`.
-/

namespace DpaProvider

open ByteMem

namespace Channel

variable {S : UInt64} {s : Channel}

/-- The actions of a call of `try_send` that finds space. -/
def sendCall (msg : MsgQueueEntry) : List Act := .trySend msg :: List.replicate 4 .sendStep

/-- The actions of a call of `try_recv` that finds a message. -/
def recvCall (entry : MsgQueueEntry) : List Act := .tryRecv entry :: List.replicate 8 .recvStep

/-- The channel after a call of `try_send` that finds space. -/
def wrote (S : UInt64) (s : Channel) (msg : MsgQueueEntry) : Channel :=
  let w := writeMsg s.write S s.ring msg
  { s with write := w.1, ring := w.2, accepted := s.accepted ++ [msg.bytes],
           sent := s.sent ++ [msg.bytes] }

/-- The completion of a call of `try_recv` that finds a message. -/
def completionOf (S : UInt64) (s : Channel) (entry : MsgQueueEntry) : RecvCompletion :=
  let probed := loadWord s.ring (dataPtr s.read S).toNat
  let r := readMsg s.read S s.ring entry
  { context := entry.context, data := slice r.buf 0 r.readSize.toNat, len := r.readSize
    olen := probed - r.readSize, err := if r.readSize < probed then .etoosmall else .success }

/-- The channel after a call of `try_recv` that finds a message. -/
def received (S : UInt64) (s : Channel) (entry : MsgQueueEntry) : Channel :=
  let r := readMsg s.read S s.ring entry
  { s with ring := r.ring, read := r.read, remoteRead := r.read
           taken := s.taken ++ [r.readSize.toNat], published := s.published + 1
           completed := s.completed ++ [s.completionOf S entry] }

/-- A posted operation of a given length over the bytes 1, 2, 3, …. -/
def countingEntry (len : UInt64) : MsgQueueEntry :=
  { buf := fun i => UInt8.ofNat (i + 1), len, flags := 0, context := 0 }

lemma run_sendCall {msg : MsgQueueEntry} (hpc : s.sendPc = .idle) (hspace : s.hasSpace S msg) :
    Stepper.run (step S) s (sendCall msg) = some (s.wrote S msg) := by
  obtain ⟨ring, remoteRead, write, read, sendPc, recvPc, accepted, sent, taken, published,
    completed⟩ := s
  subst hpc
  simp [sendCall, Stepper.run_cons, step, beginSend, hspace, sendStep, wrote, writeMsg]

lemma run_recvCall {entry : MsgQueueEntry} (hpc : s.recvPc = .idle)
    (hsize : ¬ loadWord s.ring (dataPtr s.read S).toNat ≤ 0) :
    Stepper.run (step S) s (recvCall entry) = some (s.received S entry) := by
  obtain ⟨ring, remoteRead, write, read, sendPc, recvPc, accepted, sent, taken, published,
    completed⟩ := s
  subst hpc
  simp only [recvCall, Stepper.run_cons, step, beginRecv, if_neg hsize, List.replicate, recvStep,
    Option.bind_some, Stepper.run_nil, received, completionOf, readMsg, RecvCall.completion]
  rfl

end Channel

end DpaProvider
