import DpaProvider.Cm.Site

/-!
Remote memory access.

An operation maps the segment it names, unless it is the one mapped last, copies
between the mapping and the vectors of the caller, and may trigger an interrupt of
the target.  Mapping and interrupt are kept in the `remote_mr_cache` of the endpoint.
-/

namespace DpaProvider

open ByteMem Host Effect

/-- The `fi_rma_iov`. -/
structure FiRmaIov where
  addr : UInt64
  key : UInt64

/-- The `fi_msg_rma`, with as many vectors as its `iov_count` says; `rmaIov` is the first
element behind the pointer. -/
structure FiMsgRma where
  msgIov : List Iovec
  addr : UInt64
  rmaIov : Option FiRmaIov
  rmaIovCount : UInt64
  context : ℕ
  data : UInt64

namespace Site

/-! ### The cache -/

def setCache (f : RemoteMrCache → RemoteMrCache) : Prog Unit :=
  setEp fun ep => { ep with lastRemoteMr := f ep.lastRemoteMr }

@[simp] lemma setCache_bind {α : Type} (f : RemoteMrCache → RemoteMrCache)
    (g : Unit → Prog α) (s : Site) : (setCache f >>= g) s
      = g () { s with host.ep.lastRemoteMr := f s.host.ep.lastRemoteMr } := rfl

/-- The cache of the endpoint. -/
def cache (s : Site) : RemoteMrCache := s.host.ep.lastRemoteMr

/-- A handle of the cache is given back, if there is one, and forgotten. -/
def drop (handle : Option Handle) (c : Option Handle → DpaCall)
    (forget : RemoteMrCache → RemoteMrCache) : Prog Unit := do
  if handle.isSome then
    let _ ← lib (c handle)
    setCache forget

/-- `cache_disconnect`: the interrupt stays. -/
def cacheDisconnect : Prog Unit := do
  let c := (← get).cache
  drop c.sequence .removeSequence fun c => { c with sequence := none }
  drop c.map .unmapSegment fun c => { c with map := none }
  drop c.segment .disconnectSegment fun c => { c with segment := none }
  drop c.sd .close fun c => { c with sd := none }
  setCache fun c => { c with target := ⟨0, 0⟩, base := none, len := 0 }

/-- The calls of `cache_connect` that connect and map the segment. -/
def cacheMap (target : DpaAddr) : Prog DpaError := do
  let (r, sd) ← lib .dpaOpen
  if r.err ≠ .ok then return r.err
  setCache fun c => { c with sd := some sd }
  let (r, segment) ← lib (.connectSegment (some sd) target.nodeId target.connectId)
  if r.err ≠ .ok then return r.err
  setCache fun c => { c with segment := some segment }
  let (r, _) ← lib (.getRemoteSegmentSize (some segment))
  let len := r.size
  setCache fun c => { c with len }
  let (r, map) ← lib (.mapRemoteSegment (some segment) 0 len)
  if r.err ≠ .ok then
    setCache fun c => { c with base := none }
    return r.err
  setCache fun c => { c with base := some target, map := some map }
  let (r, sequence) ← lib (.createMapSequence (some map))
  if r.err ≠ .ok then return r.err
  setCache fun c => { c with sequence := some sequence }
  let _ ← lib (.startSequence (some sequence))
  setCache fun c => { c with target }
  return .ok

/-- What `cache_connect` does after a miss, up to its label `cache_connect_end`. -/
def cacheRemap (target : DpaAddr) : Prog DpaError := do
  let err ← cacheMap target
  if err ≠ .ok then cacheDisconnect
  return err

/-- The test with which `cache_connect` begins. -/
def cacheHit (s : Site) (target : DpaAddr) : Bool :=
  target = s.cache.target && s.cache.base.isSome

/-- `cache_connect`. -/
def cacheConnect (target : DpaAddr) : Prog DpaError := do
  let s ← get
  if s.cacheHit target then return .ok
  if s.cache.segment.isSome then cacheDisconnect
  cacheRemap target

/-- `cache_disconnect_interrupt`. -/
def cacheDisconnectInterrupt : Prog Unit := do
  let c := (← get).cache
  if c.interrupt.isNone then return
  let _ ← lib (.disconnectInterrupt c.interrupt)
  setCache fun c => { c with interrupt := none, interruptId := 0 }

/-- The end of `cache_connect_interrupt`: a new interrupt is connected. -/
def cacheNewInterrupt (interruptId : UInt32) : Prog DpaError := do
  let c := (← get).cache
  let (r, interrupt) ← lib (.connectInterrupt c.sd c.target.nodeId interruptId)
  if r.err = .ok then setCache fun c => { c with interrupt := some interrupt, interruptId }
  return r.err

/-- `cache_connect_interrupt`. -/
def cacheConnectInterrupt (interruptId : UInt32) : Prog DpaError := do
  let c := (← get).cache
  if c.interrupt.isSome then
    if c.interruptId = interruptId then return .ok
    cacheDisconnectInterrupt
  cacheNewInterrupt interruptId

/-- `signal_interrupt`, for an operation on the given node; the interrupt triggered is
noted in the history. -/
def signalInterrupt (nodeId : UInt32) (data : UInt64) : Prog Unit := do
  let interruptId := data.toUInt32
  if interruptId.toUInt64 ≠ data then return
  let err ← cacheConnectInterrupt interruptId
  if err ≠ .ok then return
  let interrupt := (← get).cache.interrupt
  modify fun s => { s with signals := s.signals ++ [⟨nodeId, data, interrupt⟩] }
  let _ ← lib (.triggerInterrupt interrupt)

/-! ### The operations -/

/-- The node of the target: that of the peer, or what the address vector says, if there
is one. -/
def targetNode (s : Site) (msg : FiMsgRma) : Option UInt32 :=
  if s.host.ep.connected then some s.host.ep.peerAddr.nodeId
  else s.host.ep.av.map fun av => (s.avLookup av msg.addr).nodeId

/-- `acquire_target`. -/
def acquireTarget (msg : FiMsgRma) (rma : FiRmaIov) : Prog (FiErr × DpaAddr) := do
  match (← get).targetNode msg with
  | none => throw .nullPointer
  | some nodeId =>
      let target : DpaAddr := ⟨nodeId, rma.key.toUInt32⟩
      if target.connectId.toUInt64 ≠ rma.key then return (.einval, target)
      let err ← cacheConnect target
      return (if err ≠ .ok then .eremoteio else .success, target)

/-- The copying loop of `dpa_writemsg`: `room` is the distance from the first byte to the
end of the mapping. -/
def copyIn (room addr : UInt64) : List Iovec → UInt64 → ByteMem → UInt64 × ByteMem
  | [], copied, region => (copied, region)
  | iov :: rest, copied, region =>
      if room > copied then
        let copy := min (room - copied) iov.len
        copyIn room addr rest (copied + copy)
          (memcpy region (addr + copied).toNat iov.base 0 copy.toNat)
      else (copied, region)

/-- The copying loop of `dpa_readmsg`: the vectors after it. -/
def copyOut (room addr : UInt64) (region : ByteMem) : List Iovec → UInt64 → UInt64 × List Iovec
  | [], copied => (copied, [])
  | iov :: rest, copied =>
      if room > copied then
        let copy := min (room - copied) iov.len
        let r := copyOut room addr region rest (copied + copy)
        (r.1, { iov with base := memcpy iov.base 0 region (addr + copied).toNat copy.toNat } :: r.2)
      else (copied, iov :: rest)

/-- A completion entry, if a queue is bound, and an increment, if a counter is. -/
def completeRma (cq cntr : Option ℕ) (entry : CqErrEntry) : Prog Unit :=
  setHost fun h =>
    { h with
      cqs := match cq with
        | none => h.cqs
        | some q => Function.update h.cqs q (cqAdd (h.cqs q) entry)
      cntrs := match cntr with
        | none => h.cntrs
        | some k => Function.update h.cntrs k (dpaCntrInc (h.cntrs k)) }

/-- The check that `dpa_readmsg` and `dpa_writemsg` start with. -/
def checkRma (msg : Option FiMsgRma) : Option (FiMsgRma × FiRmaIov) :=
  match msg with
  | none => none
  | some m =>
      match m.rmaIov with
      | none => none
      | some rma => if m.rmaIovCount ≠ 1 then none else some (m, rma)

/-- `dpa_readmsg`: the return value, and the vectors of the caller after the call. -/
def dpaReadmsg (msg : Option FiMsgRma) (flags : UInt64) : Prog (FiErr × List Iovec) := do
  match checkRma msg with
  | none => return (.einval, [])
  | some (m, rma) =>
      let (ret, target) ← acquireTarget m rma
      if ret ≠ .success then return (ret, m.msgIov)
      let s ← get
      let (copied, iovs) := copyOut (s.cache.len - rma.addr) rma.addr
        (s.regions (s.cache.base.getD ⟨0, 0⟩)) m.msgIov 0
      completeRma s.host.ep.readCq s.host.ep.readCntr
        { opContext := m.context, flags := fiRma ||| fiRead, len := copied, data := m.data
          olen := 0, err := .success, provErrno := .ok }
      if hasAny flags fiRemoteCqData then signalInterrupt target.nodeId m.data
      return (.success, iovs)

/-- `dpa_writemsg`. -/
def dpaWritemsg (msg : Option FiMsgRma) (flags : UInt64) : Prog FiErr := do
  match checkRma msg with
  | none => return .einval
  | some (m, rma) =>
      let (ret, target) ← acquireTarget m rma
      if ret ≠ .success then return ret
      let s ← get
      let base := s.cache.base.getD ⟨0, 0⟩
      let (copied, region) := copyIn (s.cache.len - rma.addr) rma.addr m.msgIov 0 (s.regions base)
      modify fun s => { s with regions := Function.update s.regions base region }
      let total := (m.msgIov.map Iovec.len).sum
      completeRma s.host.ep.writeCq s.host.ep.writeCntr
        { opContext := m.context, flags := fiRma ||| fiWrite, len := copied, data := m.data
          olen := total - copied, err := if total = copied then .success else .etoosmall
          provErrno := .ok }
      if hasAny flags fiRemoteCqData then signalInterrupt target.nodeId m.data
      else if !hasAny flags fiMore then
        let _ ← lib (.flush s.cache.sequence)
      return .success

/-! ### The operations taken apart -/

/-- What `dpa_readmsg` does after its copying loop. -/
def finishRead (m : FiMsgRma) (target : DpaAddr) (flags : UInt64) (read : UInt64 × List Iovec) :
    Prog (FiErr × List Iovec) := do
  let ep := (← get).host.ep
  completeRma ep.readCq ep.readCntr
    { opContext := m.context, flags := fiRma ||| fiRead, len := read.1, data := m.data
      olen := 0, err := .success, provErrno := .ok }
  if hasAny flags fiRemoteCqData then signalInterrupt target.nodeId m.data
  return (.success, read.2)

/-- What a write moves into the cached segment: how many bytes, and how the segment then looks. -/
def moving (s : Site) (m : FiMsgRma) (rma : FiRmaIov) : UInt64 × ByteMem :=
  copyIn (s.cache.len - rma.addr) rma.addr m.msgIov 0 (s.regions (s.cache.base.getD ⟨0, 0⟩))

/-- The site after the copying loop of a write. -/
def stored (s : Site) (m : FiMsgRma) (rma : FiRmaIov) : Site :=
  { s with regions := Function.update s.regions (s.cache.base.getD ⟨0, 0⟩) (s.moving m rma).2 }

/-- What `dpa_writemsg` does after its copying loop. -/
def finishWrite (m : FiMsgRma) (target : DpaAddr) (flags : UInt64) (copied : UInt64)
    (sequence : Option Handle) : Prog FiErr := do
  let ep := (← get).host.ep
  let total := (m.msgIov.map Iovec.len).sum
  completeRma ep.writeCq ep.writeCntr
    { opContext := m.context, flags := fiRma ||| fiWrite, len := copied, data := m.data
      olen := total - copied, err := if total = copied then .success else .etoosmall
      provErrno := .ok }
  if hasAny flags fiRemoteCqData then signalInterrupt target.nodeId m.data
  else if !hasAny flags fiMore then
    let _ ← lib (.flush sequence)
  return .success

variable {s s' : Site}

/-- A read with a good message is `acquire_target`, the copying loop and the rest. -/
lemma dpaReadmsg_checked {msg : Option FiMsgRma} {flags : UInt64} {m : FiMsgRma} {rma : FiRmaIov}
    {ret : FiErr} {iovs : List Iovec} (hcheck : checkRma msg = some (m, rma))
    (hrun : dpaReadmsg msg flags s = .ok ((ret, iovs), s')) :
    ∃ ret₁ target s₁, acquireTarget m rma s = .ok ((ret₁, target), s₁)
      ∧ (ret₁ ≠ .success → ret = ret₁ ∧ iovs = m.msgIov ∧ s' = s₁)
      ∧ (ret₁ = .success → finishRead m target flags (copyOut (s₁.cache.len - rma.addr) rma.addr
        (s₁.regions (s₁.cache.base.getD ⟨0, 0⟩)) m.msgIov 0) s₁ = .ok ((ret, iovs), s')) := by
  rw [dpaReadmsg] at hrun
  simp only [hcheck] at hrun
  obtain ⟨⟨ret₁, target⟩, s₁, hacquire, hrun⟩ := run_bind_ok hrun
  refine ⟨ret₁, target, s₁, hacquire, fun hret => ?_, ?_⟩
  · rw [if_pos hret] at hrun
    obtain ⟨hret, rfl⟩ := Prod.mk.inj (Except.ok.inj hrun)
    obtain ⟨rfl, rfl⟩ := Prod.mk.inj hret
    exact ⟨rfl, rfl, rfl⟩
  · rintro rfl
    rw [if_neg (not_not.2 rfl), get_bind] at hrun
    exact hrun

/-- A write with a good message is `acquire_target`, the copying loop and the rest. -/
lemma dpaWritemsg_checked {msg : Option FiMsgRma} {flags : UInt64} {m : FiMsgRma} {rma : FiRmaIov}
    {ret : FiErr} (hcheck : checkRma msg = some (m, rma))
    (hrun : dpaWritemsg msg flags s = .ok (ret, s')) :
    ∃ ret₁ target s₁, acquireTarget m rma s = .ok ((ret₁, target), s₁)
      ∧ (ret₁ ≠ .success → ret = ret₁ ∧ s' = s₁)
      ∧ (ret₁ = .success → finishWrite m target flags (s₁.moving m rma).1 s₁.cache.sequence
        (s₁.stored m rma) = .ok (ret, s')) := by
  rw [dpaWritemsg] at hrun
  simp only [hcheck] at hrun
  obtain ⟨⟨ret₁, target⟩, s₁, hacquire, hrun⟩ := run_bind_ok hrun
  refine ⟨ret₁, target, s₁, hacquire, fun hret => ?_, ?_⟩
  · rw [if_pos hret] at hrun
    obtain ⟨rfl, rfl⟩ := Prod.mk.inj (Except.ok.inj hrun)
    exact ⟨rfl, rfl⟩
  · rintro rfl
    rw [if_neg (not_not.2 rfl)] at hrun
    exact hrun

/-! ### The other forms of the operations -/

/-- The `fi_msg_rma` that the other forms build. -/
def rmaMsg (iov : List Iovec) (fiAddr addr key : UInt64) (context : ℕ) (data : UInt64) :
    FiMsgRma :=
  { msgIov := iov, addr := fiAddr, rmaIov := some ⟨addr, key⟩, rmaIovCount := 1, context, data }

/-- `dpa_readv`. -/
def dpaReadv (iov : List Iovec) (srcAddr addr key : UInt64) (context : ℕ) :
    Prog (FiErr × List Iovec) :=
  dpaReadmsg (some (rmaMsg iov srcAddr addr key context 0)) 0

/-- `dpa_read`. -/
def dpaRead (buf : ByteMem) (len srcAddr addr key : UInt64) (context : ℕ) :
    Prog (FiErr × List Iovec) :=
  dpaReadv [⟨buf, len⟩] srcAddr addr key context

/-- `dpa_writev`. -/
def dpaWritev (iov : List Iovec) (destAddr addr key : UInt64) (context : ℕ) : Prog FiErr :=
  dpaWritemsg (some (rmaMsg iov destAddr addr key context 0)) 0

/-- `dpa_write`. -/
def dpaWrite (buf : ByteMem) (len destAddr addr key : UInt64) (context : ℕ) : Prog FiErr :=
  dpaWritev [⟨buf, len⟩] destAddr addr key context

/-- `dpa_writedata`. -/
def dpaWritedata (buf : ByteMem) (len data destAddr addr key : UInt64) (context : ℕ) :
    Prog FiErr :=
  dpaWritemsg (some (rmaMsg [⟨buf, len⟩] destAddr addr key context data)) fiRemoteCqData

/-- An operation of remote memory access. -/
inductive RmaCall where
  | readmsg (msg : Option FiMsgRma) (flags : UInt64)
  | readv (iov : List Iovec) (srcAddr addr key : UInt64) (context : ℕ)
  | read (buf : ByteMem) (len srcAddr addr key : UInt64) (context : ℕ)
  | writemsg (msg : Option FiMsgRma) (flags : UInt64)
  | writev (iov : List Iovec) (destAddr addr key : UInt64) (context : ℕ)
  | write (buf : ByteMem) (len destAddr addr key : UInt64) (context : ℕ)
  | writedata (buf : ByteMem) (len data destAddr addr key : UInt64) (context : ℕ)

/-- An operation; what it gives back is left out. -/
def rma : RmaCall → Prog Unit
  | .readmsg msg flags => do let _ ← dpaReadmsg msg flags
  | .readv iov srcAddr addr key context => do let _ ← dpaReadv iov srcAddr addr key context
  | .read buf len srcAddr addr key context => do
      let _ ← dpaRead buf len srcAddr addr key context
  | .writemsg msg flags => do let _ ← dpaWritemsg msg flags
  | .writev iov destAddr addr key context => do let _ ← dpaWritev iov destAddr addr key context
  | .write buf len destAddr addr key context => do
      let _ ← dpaWrite buf len destAddr addr key context
  | .writedata buf len data destAddr addr key context => do
      let _ ← dpaWritedata buf len data destAddr addr key context

/-- The message of an operation. -/
def RmaCall.msg : RmaCall → Option FiMsgRma
  | .readmsg msg _ | .writemsg msg _ => msg
  | .readv iov fiAddr addr key context | .writev iov fiAddr addr key context =>
      some (rmaMsg iov fiAddr addr key context 0)
  | .read buf len fiAddr addr key context | .write buf len fiAddr addr key context =>
      some (rmaMsg [⟨buf, len⟩] fiAddr addr key context 0)
  | .writedata buf len data fiAddr addr key context =>
      some (rmaMsg [⟨buf, len⟩] fiAddr addr key context data)

end Site

end DpaProvider
