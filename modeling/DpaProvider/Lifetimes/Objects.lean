import DpaProvider.Cq.Progress
import DpaProvider.Library.Arena
import DpaProvider.Opening
import Mathlib.Data.List.ReduceOption

/-!
The objects of a process, and how they refer to one another.

Domains, endpoints, queues, counters, address vectors and regions are opened, bound and closed.
Nothing counts the references to an object: that it is closed last is left to the application.

* `Fid`: the objects, with the fields in which they refer to others;
* `dpaEpBind`, `dpaAccept`, `closeFid` and the other calls, as far as they follow references;
* `Orderly`, `Stale`: the rules of the application, and the calls that use a closed object all the
  same.
-/

namespace DpaProvider

open Arena

/-- `bind_progress`, on the progress of one queue. -/
def QueueProgress.bind (p : QueueProgress) (autoProgress : Bool) (ep : ℕ) (flags : UInt64) :
    QueueProgress :=
  if autoProgress then p else ⟨(Bindings.boundFunc flags).or p.func, some ep⟩

/-- It is that of the queue which is bound. -/
lemma Bindings.bindProgress_progress (s : Bindings) (ep : ℕ) (q : Queue) (flags : UInt64) :
    (s.bindProgress ep q flags).progress q
      = (s.progress q).bind (s.eps ep).autoProgress ep flags := by
  rw [bindProgress, QueueProgress.bind]
  split
  case isTrue => rfl
  case isFalse =>
      cases boundFunc flags with
      | none => exact Function.update_self ..
      | some func => exact Function.update_self ..

/-! ### The objects -/

/-- The `dpa_fid_domain`, with its fabric. -/
structure FidDomain where
  fabric : ℕ
  domain : OpenDomain

/-- The `dpa_fid_eq`, without its events. -/
structure FidEq where
  fabric : ℕ
  progress : Option Progress

/-- The `dpa_fid_cq` or `dpa_fid_cntr`, without what it has been given. -/
structure FidQueue where
  domain : ℕ
  waitObj : WaitObj
  progress : QueueProgress

/-- The `dpa_fid_pep`, with its fabric. -/
structure FidPep extends OpenPep where
  fabric : ℕ

/-- The `dpa_fid_ep`, with the domain it belongs to and the passive endpoint it was opened from. -/
structure FidEp extends Endpoint where
  domain : ℕ
  pep : Option ℕ
  mr : Option ℕ

/-- An object by its `fclass`. -/
inductive Fid where
  | domain (d : FidDomain)
  | eq (e : FidEq)
  | cq (c : FidQueue)
  | cntr (c : FidQueue)
  | av (domain : ℕ)
  | mr (domain : ℕ)
  | pep (p : FidPep)
  | ep (e : FidEp)

inductive FidClass where
  | domain
  | eq
  | cq
  | cntr
  | av
  | mr
  | pep
  | ep
  deriving DecidableEq, Repr

/-- The endpoint in a progress slot. -/
def Progress.fid : Progress → ℕ
  | .progressPepEq k => k
  | .progressEpEq k => k

/-- Its class. -/
def Progress.cls : Progress → FidClass
  | .progressPepEq _ => .pep
  | .progressEpEq _ => .ep

namespace Fid

/-- The class of an object, with the domain it belongs to, or else the fabric. -/
def cls : Fid → FidClass × ℕ
  | .domain d => (.domain, d.fabric)
  | .eq e => (.eq, e.fabric)
  | .cq c => (.cq, c.domain)
  | .cntr c => (.cntr, c.domain)
  | .av d => (.av, d)
  | .mr d => (.mr, d)
  | .pep p => (.pep, p.fabric)
  | .ep e => (.ep, e.domain)

def domain? : Fid → Option FidDomain
  | .domain d => some d
  | _ => none

def eq? : Fid → Option FidEq
  | .eq e => some e
  | _ => none

def cq? : Fid → Option FidQueue
  | .cq c => some c
  | _ => none

def cntr? : Fid → Option FidQueue
  | .cntr c => some c
  | _ => none

def av? : Fid → Option ℕ
  | .av d => some d
  | _ => none

def pep? : Fid → Option FidPep
  | .pep p => some p
  | _ => none

def ep? : Fid → Option FidEp
  | .ep e => some e
  | _ => none

/-- References to objects of a class. -/
def refs (l : List (Option ℕ)) (expects : FidClass × ℕ → Prop) : List (Ref (FidClass × ℕ)) :=
  l.reduceOption.map fun n => ⟨n, expects⟩

/-- What an object is bound to. -/
def held : Fid → List (Ref (FidClass × ℕ))
  | .domain _ | .eq _ => []
  | .cq c | .cntr c => refs [some c.domain] (·.1 = .domain)
  | .av d | .mr d => refs [some d] (·.1 = .domain)
  | .pep p => refs [p.eq] (· = (.eq, p.fabric))
  | .ep e => refs [some e.domain] (·.1 = .domain) ++ refs [e.eq] (·.1 = .eq)
      ++ refs [e.sendCq, e.recvCq, e.readCq, e.writeCq] (· = (.cq, e.domain))
      ++ refs [e.sendCntr, e.recvCntr, e.readCntr, e.writeCntr] (· = (.cntr, e.domain))
      ++ refs [e.av] (· = (.av, e.domain)) ++ refs [e.mr] (· = (.mr, e.domain))

/-- What else an object refers to: the endpoint whose progress a queue makes, and the passive
endpoint of a connection request. -/
def noted : Fid → List (Ref (FidClass × ℕ))
  | .eq e =>
      match e.progress with
      | none => []
      | some u => refs [some u.fid] (·.1 = u.cls)
  | .cq c | .cntr c => refs [c.progress.arg] (·.1 = .ep)
  | .ep e => refs [e.pep] (·.1 = .pep)
  | _ => []

/-- An endpoint and its event queue are on the same fabric. -/
def agree : Fid → List (ℕ × ℕ)
  | .ep e => e.eq.toList.map (·, e.domain)
  | _ => []

def shape : Shape Fid (FidClass × ℕ) where
  cls
  held
  noted
  agree
  alike c c' := c.2 = c'.2

end Fid

/-- The objects of a process. -/
abbrev Objects := Arena Fid

namespace Objects

variable (a : Objects)

/-! ### What is opened -/

/-- A call that opens an object, or that fails before. -/
def opening (o : Except FiErr Fid) : FiErr × Objects :=
  match o with
  | .error err => (err, a)
  | .ok o => (.success, a.add o)

/-- `dpa_domain_open`; the new object gets the next number. -/
def dpaDomainOpen (fabric : ℕ) (info : Option FabricInfo) : Except UseError (FiErr × Objects) :=
  .ok (a.opening ((DpaProvider.dpaDomainOpen info).map fun d => .domain ⟨fabric, d⟩))

/-- `dpa_eq_open`, with attributes that it accepts. -/
def dpaEqOpen (fabric : ℕ) : Except UseError (FiErr × Objects) :=
  .ok (.success, a.add (.eq ⟨fabric, none⟩))

/-- `dpa_cq_open`, with attributes that it accepts. -/
def dpaCqOpen (domain : ℕ) (waitObj : WaitObj) : Except UseError (FiErr × Objects) :=
  .ok (.success, a.add (.cq ⟨domain, waitObj, ⟨none, none⟩⟩))

/-- `dpa_cntr_open`, with attributes that it accepts or with none. -/
def dpaCntrOpen (domain : ℕ) (waitObj : Option WaitObj) : Except UseError (FiErr × Objects) := do
  let _ ← a.use Fid.domain? domain
  return (.success, a.add (.cntr ⟨domain, waitObj.getD .fiWaitUnspec, ⟨none, none⟩⟩))

/-- `dpa_av_open`, with attributes that it accepts. -/
def dpaAvOpen (domain : ℕ) : Except UseError (FiErr × Objects) :=
  .ok (.success, a.add (.av domain))

/-- `dpa_mr_reg`; `err` is what it makes of the answers of the library. -/
def dpaMrReg (domain : ℕ) (err : FiErr) : Except UseError (FiErr × Objects) := do
  let _ ← a.use Fid.domain? domain
  return a.opening (if err = .success then .ok (.mr domain) else .error err)

/-- `dpa_passive_ep_open`. -/
def dpaPassiveEpOpen (fabric : ℕ) (info : Option FabricInfo) : Except UseError (FiErr × Objects) :=
  .ok (a.opening ((DpaProvider.dpaPassiveEpOpen a.objects.length info).map fun pep =>
    .pep { pep with fabric }))

/-- `dpa_ep_open`; `handle` is that of the `info`. -/
def dpaEpOpen (domain : ℕ) (info : Option FabricInfo) (handle : Option ℕ)
    (entries : ℕ → MsgQueueEntry) : Except UseError (FiErr × Objects) := do
  let d ← a.use Fid.domain? domain
  return a.opening ((d.domain.dpaEpOpen a.objects.length info entries).map fun ep =>
    .ep { ep with domain, pep := handle, mr := none })

/-! ### Binding -/

/-- `bind_progress`, for the progress of a queue of the domain of the endpoint `n`. -/
def bindProgress (n domain : ℕ) (p : QueueProgress) (flags : UInt64) :
    Except UseError QueueProgress := do
  let d ← a.use Fid.domain? domain
  return p.bind (d.domain.dataProgress = .auto) n flags

/-- `dpa_ep_bind`. -/
def dpaEpBind (n : ℕ) (bfid : Option ℕ) (flags : UInt64) : Except UseError (FiErr × Objects) := do
  match bfid with
  | none => return (.einval, a)
  | some b =>
      let e ← a.use Fid.ep? n
      if e.connected then return (.eisconn, a)
      match ← a.use some b with
      | .eq q =>
          let d ← a.use Fid.domain? e.domain
          if d.fabric ≠ q.fabric then return (.einval, a)
          return (.success, a.set n (.ep { e with eq := some b }))
      | .cq c =>
          if e.domain ≠ c.domain then return (.einval, a)
          let progress ← a.bindProgress n e.domain c.progress flags
          return (.success, (a.set b (.cq { c with progress })).set n
            (.ep { e with toEndpoint := Bindings.enter (.cq b) flags e.toEndpoint }))
      | .cntr c =>
          if e.domain ≠ c.domain then return (.einval, a)
          let progress ← a.bindProgress n e.domain c.progress flags
          return (.success, (a.set b (.cntr { c with progress })).set n
            (.ep { e with toEndpoint := Bindings.enter (.cntr b) flags e.toEndpoint }))
      | .av d =>
          if e.domain ≠ d then return (.einval, a)
          return (.success, a.set n (.ep { e with av := some b }))
      | .mr d =>
          if e.domain ≠ d then return (.einval, a)
          return (.success, a.set n (.ep { e with mr := some b }))
      | _ => return (.enosys, a)

/-- `dpa_pep_bind`. -/
def dpaPepBind (n : ℕ) (bfid : Option ℕ) : Except UseError (FiErr × Objects) := do
  match bfid with
  | none => return (.einval, a)
  | some b =>
      let p ← a.use Fid.pep? n
      match ← a.use some b with
      | .eq q =>
          if p.fabric ≠ q.fabric then return (.einval, a)
          return (.success, a.set n (.pep { p with eq := some b }))
      | _ => return (.enosys, a)

/-! ### Buffers -/

/-- What the library answers to `alloc_send_buffer`: the errors of its calls, and the buffer that is
empty, if there is one. -/
structure BufferReplies where
  buffer : Option LocalBuffer
  openRecv : DpaError
  createRecv : DpaError
  openSend : DpaError
  send : DpaError

/-- Whether a queue or counter waits with `FI_WAIT_UNSPEC`; it is looked at if `tested` is bound. -/
def waits (f : Fid → Option FidQueue) (tested bound : Option ℕ) : Except UseError Bool := do
  match tested with
  | none => return false
  | some _ =>
      match bound with
      | none => throw .nullPointer
      | some n =>
          let q ← a.use f n
          return q.waitObj = .fiWaitUnspec

/-- The condition for the interrupt of a direction.  That of the sends too asks whether the queue
and the counter of the receives are bound. -/
def interruptNeeded (d : FidDomain) (e : FidEp) (dir : Direction) : Except UseError Bool := do
  if d.domain.dataProgress = .auto then return true
  if ← a.waits Fid.cq? e.recvCq (e.cq dir) then return true
  a.waits Fid.cntr? e.recvCntr (e.cntr dir)

/-- The part of `alloc_msg_buffer` for `FI_RECV`. -/
def allocRecv (d : FidDomain) (e : FidEp) (r : BufferReplies) : Except UseError DpaError := do
  if !hasAny e.caps fiRecv then return .ok
  if r.openRecv ≠ .ok then return r.openRecv
  return if ← a.interruptNeeded d e .recv then r.createRecv else .ok

/-- The part of `alloc_msg_buffer` for `FI_SEND`; whether the interrupt was created is not
checked. -/
def allocSend (d : FidDomain) (e : FidEp) (r : BufferReplies) : Except UseError DpaError := do
  if !hasAny e.caps fiSend then return .ok
  if r.openSend ≠ .ok then return r.openSend
  let _ ← a.interruptNeeded d e .send
  return .ok

/-- `alloc_msg_buffer`: its result, and the endpoint with its buffer. -/
def allocMsgBuffer (e : FidEp) (r : BufferReplies) : Except UseError (DpaError × FidEp) := do
  if !hasAny e.caps (fiRecv ||| fiSend) then return (.ok, e)
  match r.buffer with
  | none => return (.system, e)
  | some buffer =>
      let d ← a.use Fid.domain? e.domain
      let err ← a.allocRecv d e r
      if err ≠ .ok then return (err, e)
      let err ← a.allocSend d e r
      if err ≠ .ok then return (err, e)
      return (.ok, { e with
        recvInfo.buffer := some buffer
        recvInfo.read := 0
        sendInfo.remoteStatus := some buffer.base })

/-- `alloc_send_buffer`. -/
def allocSendBuffer (e : FidEp) (r : BufferReplies) : Except UseError (DpaError × FidEp) := do
  let (err, e) ← a.allocMsgBuffer e r
  return (if err ≠ .ok then err else r.send, e)

/-! ### Connections -/

/-- The progress slot of an event queue is set. -/
def setProgress (q : ℕ) (progress : Option Progress) : Except UseError Objects := do
  let e ← a.use Fid.eq? q
  return a.set q (.eq { e with progress })

/-- `dpa_listen`; `err` is that of `create_data_interrupt`. -/
def dpaListen (n : ℕ) (err : DpaError) : Except UseError (FiErr × Objects) := do
  let p ← a.use Fid.pep? n
  match p.eq with
  | none => return (.enoeq, a)
  | some q =>
      if err = .segmentIdUsed then return (.eaddrinuse, a)
      if err ≠ .ok then return (.eother, a)
      return (.success, ← a.setProgress q (some (.progressPepEq n)))

/-- `dpa_connect`; `err` is that of `ctrl_connect_msg`, which looks at no other object. -/
def dpaConnect (n : ℕ) (err : DpaError) : Except UseError (FiErr × Objects) := do
  let e ← a.use Fid.ep? n
  match e.eq with
  | none => return (.enoeq, a)
  | some q =>
      if err ≠ .ok then return (.econnaborted, a)
      return (.success, ← a.setProgress q (some (.progressEpEq n)))

/-- `dpa_accept`; `err` is that of `create_data_interrupt`. -/
def dpaAccept (n : ℕ) (err : DpaError) (r : BufferReplies) :
    Except UseError (FiErr × Objects) := do
  let e ← a.use Fid.ep? n
  if err ≠ .ok then return (.econnaborted, a)
  let (err, e) ← a.allocSendBuffer e r
  let a : Objects := a.set n (.ep e)
  if err ≠ .ok then return (.econnaborted, a)
  match e.eq with
  | none => throw .nullPointer
  | some q => return (.success, ← a.setProgress q (some (.progressEpEq n)))

/-- `dpa_shutdown`; `err` is that of `disconnect_msg`. -/
def dpaShutdown (n : ℕ) (err : DpaError) : Except UseError (FiErr × Objects) := do
  let e ← a.use Fid.ep? n
  if !hasAny e.caps fiMsg then return (.success, a)
  return (if err = .ok then .success else .eother, a.set n (.ep { e with connected := false }))

/-- `dpa_getname`, as far as it looks at other objects. -/
def dpaGetname (n : ℕ) : Except UseError (FiErr × Objects) := do
  let e ← a.use Fid.ep? n
  match e.pep with
  | none => return (.success, a)
  | some k =>
      let _ ← a.use Fid.pep? k
      return (.success, a)

/-! ### Data transfer -/

/-- What an operation that completes reaches: `cq_lock` asks the domain of the queue. -/
def useCq (cq : Option ℕ) : Except UseError Unit := do
  match cq with
  | none => return
  | some n =>
      let q ← a.use Fid.cq? n
      let _ ← a.use Fid.domain? q.domain

def useCntr (cntr : Option ℕ) : Except UseError Unit := do
  match cntr with
  | none => return
  | some n => let _ ← a.use Fid.cntr? n

/-- The queue and the counter of an operation, if it completes. -/
def complete (completed : Bool) (cq cntr : Option ℕ) : Except UseError Unit := do
  if completed then
    a.useCq cq
    a.useCntr cntr

/-- The operations of an endpoint: whether a transfer completes at once, and what `acquire_target`
makes of the target of the others. -/
inductive Operation where
  | transfer (dir : Direction) (completed : Bool)
  | read (ret : FiErr)
  | write (ret : FiErr)
  deriving DecidableEq, Repr

/-- `acquire_target` asks the address vector, if there is no connection. -/
def acquireTarget (e : FidEp) : Except UseError Unit := do
  if !e.connected then
    match e.av with
    | none => throw .nullPointer
    | some v => let _ ← a.use Fid.av? v

/-- `dpa_send` and `dpa_recv`, `dpa_read` and `dpa_write`, with the work that they do at once. -/
def post (n : ℕ) (op : Operation) : Except UseError (FiErr × Objects) := do
  let e ← a.use Fid.ep? n
  match op with
  | .transfer dir completed =>
      a.complete completed (e.cq dir) (e.cntr dir)
      return (.success, a)
  | .read ret =>
      acquireTarget a e
      a.complete (ret = .success) e.readCq e.readCntr
      return (ret, a)
  | .write ret =>
      acquireTarget a e
      a.complete (ret = .success) e.writeCq e.writeCntr
      return (ret, a)

/-! ### Reads -/

/-- `process_send_queue` and `process_recv_queue`, with what they complete. -/
def processQueue (n : ℕ) (dir : Direction) (completed : Bool) : Except UseError Unit := do
  let e ← a.use Fid.ep? n
  a.complete completed (e.cq dir) (e.cntr dir)

/-- `make_queue_progress`, for a completion queue or a counter: the directions of its function, each
with what completes. -/
def makeQueueProgress (p : QueueProgress) (completed : Direction → Bool) :
    Except UseError Unit := do
  match p.arg with
  | none => if p.func.isSome then throw .nullPointer
  | some n =>
      (Bindings.directions p.func).forM fun dir => a.processQueue n dir (completed dir)

/-- A read of a completion queue: the progress, and then the queue. -/
def readCq (n : ℕ) (completed : Direction → Bool) : Except UseError (FiErr × Objects) := do
  let q ← a.use Fid.cq? n
  a.makeQueueProgress q.progress completed
  let _ ← a.use Fid.domain? q.domain
  return (.success, a)

/-- A read of a counter. -/
def readCntr (n : ℕ) (completed : Direction → Bool) : Except UseError (FiErr × Objects) := do
  let c ← a.use Fid.cntr? n
  a.makeQueueProgress c.progress completed
  return (.success, a)

/-- `eq_add`, which does nothing if there is no event queue. -/
def useEq (eq : Option ℕ) : Except UseError Unit := do
  match eq with
  | none => return
  | some q => let _ ← a.use Fid.eq? q

/-- What arrives at an active endpoint: the replies to `alloc_send_buffer`, whether `connect_msg`
comes to its event, and the error that it returns. -/
structure Arrival where
  replies : BufferReplies
  connects : Bool
  err : DpaError

/-- `connect_msg`, as far as it looks at other objects. -/
def connectMsg (e : FidEp) (connects : Bool) : Except UseError FidEp := do
  if connects then
    a.useEq e.eq
    return { e with connected := true }
  return e

/-- The part of `progress_ep_eq` after a wait that did not time out. -/
def finishConnection (e : FidEp) (m : Arrival) : Except UseError FidEp := do
  let e ← if e.recvInfo.buffer.isNone then Prod.snd <$> a.allocSendBuffer e m.replies else pure e
  let e ← a.connectMsg e m.connects
  return if m.err ≠ .ok then { e with connected := false } else e

/-- A read of an event queue; `arrives` is what the wait has brought, unless it timed out. -/
def readEq (n : ℕ) (arrives : Option Arrival) : Except UseError (FiErr × Objects) := do
  let q ← a.use Fid.eq? n
  match q.progress with
  | none => return (.success, a)
  | some (.progressPepEq k) =>
      let p ← a.use Fid.pep? k
      if arrives.isSome then a.useEq p.eq
      return (.success, a)
  | some (.progressEpEq k) =>
      let e ← a.use Fid.ep? k
      match arrives with
      | none => return (.success, a)
      | some m => return (.success, a.set k (.ep (← a.finishConnection e m)))

/-! ### Closing -/

/-- The `close` of the class of the object.  A passive endpoint takes its progress with it. -/
def closeFid (n : ℕ) : Except UseError (FiErr × Objects) := do
  match ← a.use some n with
  | .pep p =>
      match p.eq with
      | none => return (.success, a.close n)
      | some q =>
          let b ← a.setProgress q none
          return (.success, b.close n)
  | _ => return (.success, a.close n)

/-! ### Runs -/

/-- The calls of an application. -/
inductive Call where
  | dpaDomainOpen (fabric : ℕ) (info : Option FabricInfo)
  | dpaEqOpen (fabric : ℕ)
  | dpaCqOpen (domain : ℕ) (waitObj : WaitObj)
  | dpaCntrOpen (domain : ℕ) (waitObj : Option WaitObj)
  | dpaAvOpen (domain : ℕ)
  | dpaMrReg (domain : ℕ) (err : FiErr)
  | dpaPassiveEpOpen (fabric : ℕ) (info : Option FabricInfo)
  | dpaEpOpen (domain : ℕ) (info : Option FabricInfo) (handle : Option ℕ)
      (entries : ℕ → MsgQueueEntry)
  | dpaEpBind (n : ℕ) (bfid : Option ℕ) (flags : UInt64)
  | dpaPepBind (n : ℕ) (bfid : Option ℕ)
  | dpaListen (n : ℕ) (err : DpaError)
  | dpaConnect (n : ℕ) (err : DpaError)
  | dpaAccept (n : ℕ) (err : DpaError) (r : BufferReplies)
  | dpaShutdown (n : ℕ) (err : DpaError)
  | dpaGetname (n : ℕ)
  | post (n : ℕ) (op : Operation)
  | readCq (n : ℕ) (completed : Direction → Bool)
  | readCntr (n : ℕ) (completed : Direction → Bool)
  | readEq (n : ℕ) (arrives : Option Arrival)
  | close (n : ℕ)

/-- A call: what it returns, and the objects then. -/
def call : Call → Except UseError (FiErr × Objects)
  | .dpaDomainOpen fabric info => a.dpaDomainOpen fabric info
  | .dpaEqOpen fabric => a.dpaEqOpen fabric
  | .dpaCqOpen domain waitObj => a.dpaCqOpen domain waitObj
  | .dpaCntrOpen domain waitObj => a.dpaCntrOpen domain waitObj
  | .dpaAvOpen domain => a.dpaAvOpen domain
  | .dpaMrReg domain err => a.dpaMrReg domain err
  | .dpaPassiveEpOpen fabric info => a.dpaPassiveEpOpen fabric info
  | .dpaEpOpen domain info handle entries => a.dpaEpOpen domain info handle entries
  | .dpaEpBind n bfid flags => a.dpaEpBind n bfid flags
  | .dpaPepBind n bfid => a.dpaPepBind n bfid
  | .dpaListen n err => a.dpaListen n err
  | .dpaConnect n err => a.dpaConnect n err
  | .dpaAccept n err r => a.dpaAccept n err r
  | .dpaShutdown n err => a.dpaShutdown n err
  | .dpaGetname n => a.dpaGetname n
  | .post n op => a.post n op
  | .readCq n completed => a.readCq n completed
  | .readCntr n completed => a.readCntr n completed
  | .readEq n arrives => a.readEq n arrives
  | .close n => a.closeFid n

/-- A call that returns. -/
def step (a : Objects) (c : Call) : Option Objects := (a.call c).toOption.map Prod.snd

/-- An open object of a class. -/
def Is (cls : FidClass) (n : ℕ) : Prop := ∃ o, Open a n o ∧ o.cls.1 = cls

/-- The application follows the rules: it passes open objects of the right class, and closes an
object only if no other one that is open is bound to it. -/
def Orderly : Call → Prop
  | .dpaDomainOpen .. | .dpaEqOpen _ | .dpaPassiveEpOpen .. => True
  | .dpaCqOpen d _ | .dpaCntrOpen d _ | .dpaAvOpen d | .dpaMrReg d _ => a.Is .domain d
  | .dpaEpOpen d _ handle _ => a.Is .domain d
      ∧ ∀ k, handle = some k → ∃ o, a.objects[k]? = some o ∧ o.cls.1 = .pep
  | .dpaEpBind n bfid _ => a.Is .ep n ∧ ∀ b, bfid = some b → ∃ o, Open a b o
  | .dpaPepBind n bfid => a.Is .pep n ∧ ∀ b, bfid = some b → ∃ o, Open a b o
  | .dpaListen n _ => a.Is .pep n
  | .dpaConnect n _ | .dpaAccept n _ _ | .dpaShutdown n _ | .dpaGetname n | .post n _ => a.Is .ep n
  | .readCq n _ => a.Is .cq n
  | .readCntr n _ => a.Is .cntr n
  | .readEq n _ => a.Is .eq n
  | .close n => (∃ o, Open a n o) ∧ Released Fid.shape a n

/-- The call reads a queue whose progress is that of a closed endpoint, or asks for the name of an
endpoint whose passive endpoint is closed. -/
def Stale : Call → Prop
  | .readCq n _ => ∃ q k, Open a n (.cq q) ∧ q.progress.func.isSome ∧ q.progress.arg = some k
      ∧ k ∈ a.closed
  | .readCntr n _ => ∃ c k, Open a n (.cntr c) ∧ c.progress.func.isSome ∧ c.progress.arg = some k
      ∧ k ∈ a.closed
  | .readEq n _ => ∃ q u, Open a n (.eq q) ∧ q.progress = some u ∧ u.fid ∈ a.closed
  | .dpaGetname n => ∃ e k, Open a n (.ep e) ∧ e.pep = some k ∧ k ∈ a.closed
  | _ => False

end Objects

end DpaProvider
