import DpaProvider.Library.Effect
import DpaProvider.Msg.Endpoint

/-!
The state that the connection management works on.

A `Site` is an endpoint and a passive endpoint, with the event queues, the table of
data segments and the library behind them.  The functions of `dpa_cm.c` and
`dpa_msg_cm.c` are `Prog`s: computations over a site that may fail to return.  The
primitives here are the calls to the library (`lib`) and the updates of one part of
the site each.

`sent`, `signals` and the `added` of an event queue record the history; no call reads
them.
-/

namespace DpaProvider

open ByteMem Effect

/-- The `dpa_fid_pep`; the `fi_info` it hands on in events is left out. -/
structure PassiveEp where
  fid : ℕ
  eq : Option ℕ
  sd : Option Handle
  interruptId : UInt32
  interrupt : Option Handle
  deriving DecidableEq, Repr

/-- The function and the argument in a `queue_progress`. -/
inductive Progress where
  | progressPepEq (pep : ℕ)
  | progressEpEq (ep : ℕ)
  deriving DecidableEq, Repr

/-- The events of the connection management. -/
inductive EqEventNum where
  | fiConnreq
  | fiConnected
  deriving DecidableEq, Repr

/-- The `fi_eq_cm_entry`, with the number of its event; `destAddr` is that of its
`info`, if there is one. -/
structure EqEvent where
  event : EqEventNum
  fid : ℕ
  destAddr : Option DpaAddr
  deriving DecidableEq, Repr

/-- The `dpa_fid_eq`: its progress slot, and its events, the oldest first. -/
structure EventQueue where
  progress : Option Progress
  eventQueue : List EqEvent
  added : List EqEvent
  deriving DecidableEq, Repr

/-- The `msg_local_segment_info`, with its `local_segment_info`. -/
structure LocalSegment where
  sd : Option Handle
  segment : Option Handle
  segmentId : UInt32
  map : Option Handle
  size : UInt64
  bufcount : ℕ
  buffers : ℕ → LocalBuffer

/-- The constants of the process. -/
structure Env where
  localNodeId : UInt32
  bufferSize : UInt64
  buffersPerSegment : UInt64
  minMsgSegmid : UInt32
  maxMsgSegmid : UInt32
  deriving DecidableEq, Repr

/-- `ALIGNED_BUFFER_SIZE`. -/
def Env.alignedBufferSize (env : Env) : UInt64 := bufferWordAlign env.bufferSize

/-- A remote interrupt triggered for an operation: the node of its target, its data,
and the handle. -/
structure Signal where
  nodeId : UInt32
  data : UInt64
  interrupt : Option Handle
  deriving DecidableEq, Repr

/-- An endpoint, a passive endpoint and what their calls reach.  `regions` is the
memory of the remote segments, and `avLookup` what `dpa_av_lookup` leaves in its
target, by address vector and address.  `fuel` bounds the loops whose end is up to the
library, and `uninit` is what a `dpa_error_t` that was never set holds. -/
structure Site where
  host : Host
  pep : PassiveEp
  eqs : ℕ → EventQueue
  localSegmentsInfo : ℕ → LocalSegment
  currentSegmentId : UInt32
  env : Env
  dpa : Dpa
  regions : DpaAddr → ByteMem
  avLookup : ℕ → UInt64 → DpaAddr
  fuel : ℕ
  uninit : DpaError
  sent : List (DpaAddr × SegmentData)
  signals : List Signal

/-- A call on a site. -/
abbrev Prog := Effect Stuck Site

namespace Site

/-! ### Primitives -/

/-- A call to the library: its answer, and the handle of what it has created. -/
def lib (c : DpaCall) : Prog (Reply × Handle) := do
  let s ← get
  modify fun s => { s with dpa := s.dpa.call c }
  return (s.dpa.reply, s.dpa.handle)

@[simp] lemma lib_bind {α : Type} (c : DpaCall) (f : Reply × Handle → Prog α) (s : Site) :
    (lib c >>= f) s = f (s.dpa.reply, s.dpa.handle) { s with dpa := s.dpa.call c } := rfl

lemma run_lib_ok {c : DpaCall} {s : Site} {r : (Reply × Handle) × Site} (h : lib c s = .ok r) :
    r = ((s.dpa.reply, s.dpa.handle), { s with dpa := s.dpa.call c }) :=
  (Except.ok.inj h).symm

lemma returns_lib (c : DpaCall) : Returns (lib c) := fun _ => ⟨_, rfl⟩

def setHost (f : Host → Host) : Prog Unit := modify fun s => { s with host := f s.host }

def setEp (f : Endpoint → Endpoint) : Prog Unit :=
  modify fun s => { s with host.ep := f s.host.ep }

def setSendInfo (f : SendInfo → SendInfo) : Prog Unit :=
  setEp fun ep => { ep with sendInfo := f ep.sendInfo }

def setRecvInfo (f : RecvInfo → RecvInfo) : Prog Unit :=
  setEp fun ep => { ep with recvInfo := f ep.recvInfo }

def setPep (f : PassiveEp → PassiveEp) : Prog Unit := modify fun s => { s with pep := f s.pep }

def setEq (q : ℕ) (f : EventQueue → EventQueue) : Prog Unit :=
  modify fun s => { s with eqs := Function.update s.eqs q (f (s.eqs q)) }

def setSegment (i : ℕ) (f : LocalSegment → LocalSegment) : Prog Unit :=
  modify fun s => { s with
    localSegmentsInfo := Function.update s.localSegmentsInfo i (f (s.localSegmentsInfo i)) }

/-! A run goes on after an update. -/

section Updates

variable {α : Type} (k : Unit → Prog α) (s : Site)

@[simp] lemma setHost_bind (f : Host → Host) :
    (setHost f >>= k) s = k () { s with host := f s.host } := rfl

@[simp] lemma setEp_bind (f : Endpoint → Endpoint) :
    (setEp f >>= k) s = k () { s with host.ep := f s.host.ep } := rfl

@[simp] lemma setSendInfo_bind (f : SendInfo → SendInfo) :
    (setSendInfo f >>= k) s = k () { s with host.ep.sendInfo := f s.host.ep.sendInfo } := rfl

@[simp] lemma setRecvInfo_bind (f : RecvInfo → RecvInfo) :
    (setRecvInfo f >>= k) s = k () { s with host.ep.recvInfo := f s.host.ep.recvInfo } := rfl

@[simp] lemma setPep_bind (f : PassiveEp → PassiveEp) :
    (setPep f >>= k) s = k () { s with pep := f s.pep } := rfl

end Updates

/-- `eq_add`, for a connection event. -/
def eqAdd (eq : Option ℕ) (event : EqEvent) : Prog Unit :=
  match eq with
  | none => pure ()
  | some q => setEq q fun e =>
      { e with eventQueue := e.eventQueue ++ [event], added := e.added ++ [event] }

lemma run_eqAdd_ok {eq : Option ℕ} {event : EqEvent} {s s' : Site} {a : Unit}
    (h : eqAdd eq event s = .ok (a, s')) : ∃ eqs, s' = { s with eqs } := by
  cases eq with
  | none => exact ⟨s.eqs, (Prod.mk.inj (Except.ok.inj h)).2.symm⟩
  | some q => exact ⟨_, (Prod.mk.inj (Except.ok.inj h)).2.symm⟩

/-- A site with a library that grants every call; its address vectors give the node
with the number of the address. -/
def granted (host : Host) : Site where
  host
  pep := { fid := 1, eq := some 0, sd := none, interruptId := 9, interrupt := none }
  eqs := fun _ => { progress := none, eventQueue := [], added := [] }
  localSegmentsInfo := fun _ =>
    { sd := none, segment := none, segmentId := 0, map := none, size := 0, bufcount := 0
      buffers := fun _ => ⟨⟨0, 0, 0⟩, 0⟩ }
  currentSegmentId := 100
  env := { localNodeId := 1, bufferSize := 64, buffersPerSegment := 2, minMsgSegmid := 100
           maxMsgSegmid := 200 }
  dpa := { replies := fun _ => ⟨.ok, 7, .ofNode 0, 64⟩, calls := [] }
  regions := fun _ _ => 0
  avLookup := fun _ addr => ⟨addr.toUInt32, 0⟩
  fuel := 4
  uninit := .ok
  sent := []
  signals := []

/-- An endpoint as it is opened, with the event queue 0 bound to it. -/
def opened (fid : ℕ) (caps : UInt64) (destAddr : DpaAddr) : Host :=
  let host := Host.established 24 ⟨1, 0, 0⟩ ⟨2, 0, 0⟩
  let entries := fun _ => { buf := fun _ => 0, len := 0, flags := 0, context := 0 }
  match dpaEpOpen fid caps destAddr false false entries with
  | .ok ep => { host with ep := { ep with eq := some 0 } }
  | .error _ => host

end Site

end DpaProvider
