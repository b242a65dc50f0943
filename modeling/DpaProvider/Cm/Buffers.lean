import DpaProvider.Cm.Site

/-!
The buffers of the endpoints.

Buffers lie in data segments, which are created when no created segment has a free
buffer (`getEmptyBuffer`).  `allocMsgBuffer` reserves one for an endpoint, creates the
interrupts of its two directions and writes down what the peer has to know.
-/

namespace DpaProvider

open ByteMem Effect

namespace Site

/-! ### Data segments -/

/-- `dpa_alloc_segment`, for the entry `i` of the table and with
`zero_segment_initializer`. -/
def dpaAllocSegment (i : ℕ) (segmentId : UInt32) (size : UInt64) : Prog DpaError := do
  setSegment i fun info => { info with segmentId, size }
  let (r, sd) ← lib .dpaOpen
  if r.err ≠ .ok then return r.err
  setSegment i fun info => { info with sd := some sd }
  let (r, segment) ← lib (.createSegment (some sd) segmentId size)
  if r.err ≠ .ok then return r.err
  setSegment i fun info => { info with segment := some segment }
  let (r, _) ← lib (.prepareSegment (some segment))
  if r.err ≠ .ok then return r.err
  let (r, map) ← lib (.mapLocalSegment (some segment) size)
  if r.err ≠ .ok then return r.err
  setSegment i fun info => { info with map := some map }
  let nodeId := (← get).env.localNodeId
  setHost fun h => { h with mem := fun loc =>
    if loc.node = nodeId ∧ loc.segment = segmentId then ⟨0, fun _ => 0⟩ else h.mem loc }
  let (r, _) ← lib (.setSegmentAvailable (some segment))
  return r.err

/-- `dpa_destroy_segment`. -/
def dpaDestroySegment (info : LocalSegment) : Prog DpaError := do
  let _ ← lib (.setSegmentUnavailable info.segment)
  let _ ← lib (.unmapSegment info.map)
  let _ ← lib (.removeSegment info.segment)
  let (r, _) ← lib (.close info.sd)
  return r.err

/-- `create_data_segment`. -/
def createDataSegment (i : ℕ) : Prog Unit := do
  let s ← get
  let size := s.env.alignedBufferSize * s.env.buffersPerSegment
  let err ← dpaAllocSegment i s.currentSegmentId size
  if err ≠ .ok then
    let _ ← dpaDestroySegment ((← get).localSegmentsInfo i)
    setSegment i fun info => { info with segmentId := 0 }
  else
    setSegment i fun info => { info with bufcount := 0, buffers := fun j =>
      ⟨⟨s.env.localNodeId, info.segmentId, UInt64.ofNat j * s.env.alignedBufferSize⟩, 0⟩ }
    modify fun s => { s with currentSegmentId := s.currentSegmentId + 1 }

/-- The loop of `get_empty_buffer` that goes on until the segment `i` is created. -/
def createUntil (i : ℕ) : ℕ → Prog Unit
  | 0 => throw .endless
  | fuel + 1 => do
      if ((← get).localSegmentsInfo i).segmentId = 0 then
        createDataSegment i
        createUntil i fuel

/-- The loop of `get_empty_buffer` over the remaining segments, from `i` on. -/
def searchSegments : ℕ → ℕ → Prog (Option (ℕ × ℕ))
  | 0, _ => return none
  | remaining + 1, i => do
      createUntil i (← get).fuel
      let s ← get
      let info := s.localSegmentsInfo i
      let bound := s.env.buffersPerSegment.toNat
      if info.bufcount < bound then
        match (List.range bound).find? fun j => (info.buffers j).size = 0 with
        | some j => return some (i, j)
        | none => searchSegments remaining (i + 1)
      else searchSegments remaining (i + 1)

/-- `get_empty_buffer`: the buffer, by segment and place in it. -/
def getEmptyBuffer : Prog (Option (ℕ × ℕ)) := do
  let env := (← get).env
  searchSegments (env.maxMsgSegmid - env.minMsgSegmid).toNat 0

/-! ### Reserving a buffer -/

/-- Whether a queue or counter that may be bound waits with `FI_WAIT_UNSPEC`. -/
def waitsUnspec (waitObj : ℕ → WaitObj) (bound : Option ℕ) : Bool :=
  match bound with
  | none => false
  | some q => waitObj q = .fiWaitUnspec

/-- The condition under which a receive interrupt is created. -/
def recvInterruptNeeded (s : Site) : Bool :=
  s.host.ep.autoProgress || waitsUnspec (fun q => (s.host.cqs q).waitObj) s.host.ep.recvCq
    || waitsUnspec (fun k => (s.host.cntrs k).waitObj) s.host.ep.recvCntr

/-- The test of a send queue or counter: it asks whether that of the receives is
bound, and follows the pointer to that of the sends. -/
def sendWaits (waitObj : ℕ → WaitObj) (recv send : Option ℕ) : Prog Bool :=
  match recv with
  | none => return false
  | some _ => match send with
      | none => throw .nullPointer
      | some q => return (waitObj q = .fiWaitUnspec)

/-- The condition under which a send interrupt is created. -/
def sendInterruptNeeded : Prog Bool := do
  let s ← get
  if s.host.ep.autoProgress then return true
  if ← sendWaits (fun q => (s.host.cqs q).waitObj) s.host.ep.recvCq s.host.ep.sendCq then
    return true
  sendWaits (fun k => (s.host.cntrs k).waitObj) s.host.ep.recvCntr s.host.ep.sendCntr

/-- The part of `alloc_msg_buffer` for `FI_RECV`. -/
def allocRecv (data : SegmentData) : Prog (DpaError × SegmentData) := do
  if !hasAny (← get).host.ep.caps fiRecv then return (.ok, data)
  let (r, sd) ← lib .dpaOpen
  if r.err ≠ .ok then return (r.err, data)
  setRecvInfo fun info => { info with sd := some sd }
  if !recvInterruptNeeded (← get) then return (.ok, { data with hasRecvInterrupt := false })
  let (r, interrupt) ← lib (.createInterrupt (some sd))
  if r.err ≠ .ok then
    -- the label `alloc_recvclose` closes the descriptor of the sends
    let _ ← lib (.close (← get).host.ep.sendInfo.sd)
    return (r.err, data)
  setRecvInfo fun info => { info with interrupt := some interrupt }
  return (.ok, { data with recvInterruptId := r.id, hasRecvInterrupt := true })

/-- The part of `alloc_msg_buffer` for `FI_SEND`; whether the interrupt was created is
not checked. -/
def allocSend (data : SegmentData) : Prog (DpaError × SegmentData) := do
  if !hasAny (← get).host.ep.caps fiSend then return (.ok, data)
  let (r, sd) ← lib .dpaOpen
  if r.err ≠ .ok then
    let ep := (← get).host.ep
    let _ ← lib (.removeInterrupt ep.recvInfo.interrupt)
    let _ ← lib (.close ep.sendInfo.sd)
    return (r.err, data)
  setSendInfo fun info => { info with sd := some sd }
  if !(← sendInterruptNeeded) then return (.ok, { data with hasSendInterrupt := false })
  let (r, interrupt) ← lib (.createInterrupt (some sd))
  if r.err = .ok then
    setSendInfo fun info => { info with interrupt := some interrupt }
    return (.ok, { data with sendInterruptId := r.id, hasSendInterrupt := true })
  else return (.ok, { data with hasSendInterrupt := true })

/-- The end of `alloc_msg_buffer`: the buffer `j` of the segment `i` is reserved and
cleaned, and its place written down. -/
def reserveBuffer (i j : ℕ) (data : SegmentData) : Prog SegmentData := do
  let s ← get
  let info := s.localSegmentsInfo i
  let buffer : LocalBuffer := { info.buffers j with size := s.env.alignedBufferSize }
  setSegment i fun info => { info with buffers := Function.update info.buffers j buffer }
  setHost fun h => h.clean buffer.base
  setRecvInfo fun r => { r with buffer := some buffer, read := 0 }
  setSendInfo fun r => { r with remoteStatus := some buffer.base }
  return { data with
    segmentId := info.segmentId
    offset := buffer.base.offset
    size := buffer.size }

/-- `alloc_msg_buffer`: its result, and the description of the buffer. -/
def allocMsgBuffer (data : SegmentData) : Prog (DpaError × SegmentData) := do
  if !hasAny (← get).host.ep.caps (fiRecv ||| fiSend) then return (.ok, data)
  match ← getEmptyBuffer with
  | none => return (.system, data)
  | some (i, j) =>
      let (err, data) ← allocRecv data
      if err ≠ .ok then return (err, data)
      let (err, data) ← allocSend data
      if err ≠ .ok then return (err, data)
      return (.ok, ← reserveBuffer i j data)

/-- The runs of `alloc_msg_buffer`: one case for each of its exits. -/
inductive AllocRun (data : SegmentData) (s : Site) : DpaError → SegmentData → Site → Prop where
  | plain (hno : hasAny s.host.ep.caps (fiRecv ||| fiSend) = false) : AllocRun data s .ok data s
  | noBuffer {t : Site} (hcarries : hasAny s.host.ep.caps (fiRecv ||| fiSend) = true)
      (hfind : getEmptyBuffer s = .ok (none, t)) : AllocRun data s .system data t
  | recvFails {i j : ℕ} {s₁ t : Site} {err : DpaError} {data' : SegmentData}
      (hcarries : hasAny s.host.ep.caps (fiRecv ||| fiSend) = true)
      (hfind : getEmptyBuffer s = .ok (some (i, j), s₁))
      (hrecv : allocRecv data s₁ = .ok ((err, data'), t)) (herr : err ≠ .ok) :
      AllocRun data s err data' t
  | sendFails {i j : ℕ} {s₁ s₂ t : Site} {err : DpaError} {data₁ data' : SegmentData}
      (hcarries : hasAny s.host.ep.caps (fiRecv ||| fiSend) = true)
      (hfind : getEmptyBuffer s = .ok (some (i, j), s₁))
      (hrecv : allocRecv data s₁ = .ok ((.ok, data₁), s₂))
      (hsend : allocSend data₁ s₂ = .ok ((err, data'), t)) (herr : err ≠ .ok) :
      AllocRun data s err data' t
  | reserved {i j : ℕ} {s₁ s₂ s₃ t : Site} {data₁ data₂ data' : SegmentData}
      (hcarries : hasAny s.host.ep.caps (fiRecv ||| fiSend) = true)
      (hfind : getEmptyBuffer s = .ok (some (i, j), s₁))
      (hrecv : allocRecv data s₁ = .ok ((.ok, data₁), s₂))
      (hsend : allocSend data₁ s₂ = .ok ((.ok, data₂), s₃))
      (hreserve : reserveBuffer i j data₂ s₃ = .ok (data', t)) : AllocRun data s .ok data' t

lemma allocMsgBuffer_run {data data' : SegmentData} {s t : Site} {err : DpaError}
    (hrun : allocMsgBuffer data s = .ok ((err, data'), t)) : AllocRun data s err data' t := by
  rw [allocMsgBuffer, get_bind, ite_run] at hrun
  split at hrun
  case isTrue hno =>
      obtain ⟨heq, rfl⟩ := Prod.mk.inj (Except.ok.inj hrun)
      obtain ⟨rfl, rfl⟩ := Prod.mk.inj heq
      exact .plain (by rwa [Bool.not_eq_true'] at hno)
  case isFalse hcarries =>
  rw [Bool.not_eq_true', Bool.not_eq_false] at hcarries
  obtain ⟨found, s₁, hfind, hrun⟩ := run_bind_ok hrun
  cases found with
  | none =>
      obtain ⟨heq, rfl⟩ := Prod.mk.inj (Except.ok.inj hrun)
      obtain ⟨rfl, rfl⟩ := Prod.mk.inj heq
      exact .noBuffer hcarries hfind
  | some place =>
      obtain ⟨⟨err₁, data₁⟩, s₂, hrecv, hrun⟩ := run_bind_ok hrun
      simp only [ite_run] at hrun
      split at hrun
      case isTrue herr =>
          obtain ⟨heq, rfl⟩ := Prod.mk.inj (Except.ok.inj hrun)
          obtain ⟨rfl, rfl⟩ := Prod.mk.inj heq
          exact .recvFails hcarries hfind hrecv herr
      case isFalse herr =>
      obtain rfl := not_not.1 herr
      obtain ⟨⟨err₂, data₂⟩, s₃, hsend, hrun⟩ := run_bind_ok hrun
      simp only [ite_run] at hrun
      split at hrun
      case isTrue herr =>
          obtain ⟨heq, rfl⟩ := Prod.mk.inj (Except.ok.inj hrun)
          obtain ⟨rfl, rfl⟩ := Prod.mk.inj heq
          exact .sendFails hcarries hfind hrecv hsend herr
      case isFalse herr =>
      obtain rfl := not_not.1 herr
      obtain ⟨data₃, s₄, hreserve, hrun⟩ := run_bind_ok hrun
      obtain ⟨heq, rfl⟩ := Prod.mk.inj (Except.ok.inj hrun)
      obtain ⟨rfl, rfl⟩ := Prod.mk.inj heq
      exact .reserved hcarries hfind hrecv hsend hreserve

end Site

end DpaProvider
