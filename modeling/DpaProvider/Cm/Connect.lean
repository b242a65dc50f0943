import DpaProvider.Cm.Buffers

/-!
Connecting and disconnecting an endpoint.

The calls of `dpa_cm.c` with the functions of `dpa_msg_cm.c` under them: `dpaListen`,
`dpaConnect`, `dpaAccept`, `dpaShutdown` and `dpaPepClose`, and the two progress functions
that reading an event queue runs, `progressPepEq` and `progressEpEq`.
-/

namespace DpaProvider

open ByteMem Effect

namespace Site

/-! ### Connection messages -/

/-- `create_data_interrupt`, for the connection interrupt of the endpoint. -/
def createConnectInterrupt (interruptId : UInt32) : Prog DpaError := do
  let (r, sd) ← lib .dpaOpen
  if r.err ≠ .ok then return r.err
  setEp fun ep => { ep with connectSd := some sd }
  let (r, interrupt) ← lib (.createDataInterrupt (some sd) interruptId)
  if r.err ≠ .ok then return r.err
  setEp fun ep => { ep with connectInterrupt := some interrupt }
  return .ok

/-- `send_connect_data`: it returns the status of the disconnect, not of the trigger. -/
def sendConnectData (data : SegmentData) : Prog DpaError := do
  let peer := (← get).host.ep.peerAddr
  let (r, sd) ← lib .dpaOpen
  if r.err ≠ .ok then return r.err
  let (r, interrupt) ← lib (.connectDataInterrupt (some sd) peer.nodeId peer.connectId)
  if r.err ≠ .ok then
    let _ ← lib (.close (some sd))
    return r.err
  let (r, _) ← lib (.triggerDataInterrupt (some interrupt) data)
  if r.err = .ok then modify fun s => { s with sent := s.sent ++ [(peer, data)] }
  let (r, _) ← lib (.disconnectDataInterrupt (some interrupt))
  let _ ← lib (.close (some sd))
  return r.err

/-- `alloc_send_buffer`: the description handed in is written over. -/
def allocSendBuffer (data : SegmentData) : Prog (DpaError × SegmentData) := do
  let (err, data) ← allocMsgBuffer data
  if err ≠ .ok then return (err, data)
  return (← sendConnectData data, data)

/-- `send_msg_accept_data`. -/
def sendMsgAcceptData : Prog DpaError := do
  let s ← get
  let err ← createConnectInterrupt s.host.ep.connectData.acceptIntId
  if err ≠ .ok then return err
  let (err, _) ← allocSendBuffer (.ofNode s.env.localNodeId)
  return err

/-- `ctrl_connect_msg`. -/
def ctrlConnectMsg : Prog DpaError := do
  let data := SegmentData.ofNode (← get).env.localNodeId
  let err ← createConnectInterrupt data.acceptIntId
  if err ≠ .ok then return err
  sendConnectData data

/-! ### The mapping of the ring of the peer -/

/-- `create_start_sequence`; the loop that starts the sequence is one call. -/
def createStartSequence (map : Option Handle) : Prog (Option Handle) := do
  let (r, sequence) ← lib (.createMapSequence map)
  if r.err ≠ .ok then return none
  let _ ← lib (.startSequence (some sequence))
  return some sequence

/-- What `connect_msg` saves of the buffer of the peer, once it is mapped. -/
def saveRemote (base : BufferLoc) (size : UInt64) (sequence : Option Handle) (ep : Endpoint) :
    Endpoint :=
  { ep with
    sendInfo := { ep.sendInfo with
      sequence
      write := 0
      size := size - 8
      remoteBuffer := some base }
    recvInfo := { ep.recvInfo with remoteStatus := some base } }

/-- The first part of `connect_msg`. -/
def connectSegment (data : SegmentData) : Prog DpaError := do
  let ep := (← get).host.ep
  if !hasAny ep.caps (fiRecv ||| fiSend) then return .ok
  let (r, segment) ← lib (.connectSegment ep.sendInfo.sd ep.peerAddr.nodeId data.segmentId)
  if r.err ≠ .ok then return r.err
  setSendInfo fun info => { info with remoteSegment := some segment }
  let (r, map) ← lib (.mapRemoteSegment (some segment) data.offset data.size)
  if r.err ≠ .ok then return r.err
  setSendInfo fun info => { info with remoteMap := some map }
  let sequence ← createStartSequence (some map)
  setEp (saveRemote ⟨ep.peerAddr.nodeId, data.segmentId, data.offset⟩ data.size sequence)
  return .ok

/-- The connection to an interrupt of the peer, if it is needed: the second and the
third part of `connect_msg`. -/
def connectRemoteInterrupt (needed : Bool) (sd : Option Handle) (id : UInt32)
    (save : Option Handle → Prog Unit) : Prog DpaError := do
  if needed then
    let (r, interrupt) ← lib (.connectInterrupt sd (← get).host.ep.peerAddr.nodeId id)
    if r.err ≠ .ok then return r.err
    save (some interrupt)
  else save none
  return .ok

/-- `connect_msg`. -/
def connectMsg (data : SegmentData) : Prog DpaError := do
  let err ← connectSegment data
  if err ≠ .ok then return err
  let ep := (← get).host.ep
  let err ← connectRemoteInterrupt (hasAny ep.caps fiSend && data.hasRecvInterrupt)
    ep.sendInfo.sd data.recvInterruptId fun h =>
      setSendInfo fun info => { info with remoteInterrupt := h }
  if err ≠ .ok then return err
  let err ← connectRemoteInterrupt (hasAny ep.caps fiRecv && data.hasSendInterrupt)
    ep.recvInfo.sd data.sendInterruptId fun h =>
      setRecvInfo fun info => { info with remoteInterrupt := h }
  if err ≠ .ok then return err
  eqAdd ep.eq ⟨.fiConnected, ep.fid, none⟩
  setEp fun ep => { ep with connected := true }
  -- an endpoint for remote memory access alone has made no call that sets the error
  if hasAny ep.caps (fiRecv ||| fiSend) then return .ok
  return (← get).uninit

/-- A resource is released if there is one; an error replaces the result so far. -/
def release (handle : Option Handle) (c : Option Handle → DpaCall) (result : DpaError) :
    Prog DpaError := do
  if handle.isNone then return result
  let (r, _) ← lib (c handle)
  return if r.err ≠ .ok then r.err else result

/-- `disconnect_msg`. -/
def disconnectMsg : Prog DpaError := do
  let ep := (← get).host.ep
  let _ ← release ep.sendInfo.sequence .removeSequence .ok
  let result ← release ep.sendInfo.remoteMap .unmapSegment .ok
  let result ← release ep.sendInfo.remoteSegment .disconnectSegment result
  let result ← release ep.sendInfo.remoteInterrupt .disconnectInterrupt result
  let result ← release ep.recvInfo.remoteInterrupt .disconnectInterrupt result
  setEp fun ep => { ep with connected := false }
  return result

/-! ### The calls -/

/-- The progress slot of an event queue is set. -/
def setProgress (q : ℕ) (progress : Option Progress) : Prog Unit :=
  setEq q fun e => { e with progress }

/-- `dpa_listen`. -/
def dpaListen : Prog FiErr := do
  let pep := (← get).pep
  match pep.eq with
  | none => return .enoeq
  | some q =>
      let (r, sd) ← lib .dpaOpen
      if r.err = .segmentIdUsed then return .eaddrinuse
      if r.err ≠ .ok then return .eother
      setPep fun pep => { pep with sd := some sd }
      let (r, interrupt) ← lib (.createDataInterrupt (some sd) pep.interruptId)
      if r.err = .segmentIdUsed then return .eaddrinuse
      if r.err ≠ .ok then return .eother
      setPep fun pep => { pep with interrupt := some interrupt }
      setProgress q (some (.progressPepEq pep.fid))
      return .success

/-- `dpa_accept`. -/
def dpaAccept : Prog FiErr := do
  let err ← sendMsgAcceptData
  if err ≠ .ok then return .econnaborted
  let ep := (← get).host.ep
  match ep.eq with
  | none => throw .nullPointer
  | some q =>
      setProgress q (some (.progressEpEq ep.fid))
      return .success

/-- `dpa_connect`. -/
def dpaConnect : Prog FiErr := do
  let ep := (← get).host.ep
  match ep.eq with
  | none => return .enoeq
  | some q =>
      let err ← ctrlConnectMsg
      if err ≠ .ok then return .econnaborted
      setProgress q (some (.progressEpEq ep.fid))
      return .success

/-- `dpa_shutdown`. -/
def dpaShutdown : Prog FiErr := do
  if !hasAny (← get).host.ep.caps fiMsg then return .success
  let result ← disconnectMsg
  return if result = .ok then .success else .eother

/-- `dpa_pep_close`. -/
def dpaPepClose : Prog FiErr := do
  let pep := (← get).pep
  match pep.eq with
  | none => pure ()
  | some q => setProgress q none
  let _ ← lib (.removeDataInterrupt pep.interrupt)
  let _ ← lib (.close pep.sd)
  return .success

/-! ### Progress -/

/-- `progress_eq`: the status of the wait, and the data, which after a failed wait is
what the variable held. -/
def progressEq (interrupt : Option Handle) (timeout : ℤ) : Prog (DpaError × SegmentData) := do
  let (r, _) ← lib (.waitForDataInterrupt interrupt (if 0 ≤ timeout then some timeout else none))
  return (r.err, r.data)

lemma run_progressEq_ok {interrupt : Option Handle} {timeout : ℤ} {s : Site}
    {r : (DpaError × SegmentData) × Site} (h : progressEq interrupt timeout s = .ok r) :
    r = ((s.dpa.reply.err, s.dpa.reply.data), { s with
      dpa := s.dpa.call
        (.waitForDataInterrupt interrupt (if 0 ≤ timeout then some timeout else none)) }) :=
  (Except.ok.inj h).symm

/-- `connection_request`. -/
def connectionRequest (data : SegmentData) : Prog Unit := do
  let pep := (← get).pep
  eqAdd pep.eq ⟨.fiConnreq, pep.fid, some ⟨data.nodeId, data.acceptIntId⟩⟩

/-- `progress_pep_eq`. -/
def progressPepEq (timeout : ℤ) : Prog ℤ := do
  let (err, data) ← progressEq (← get).pep.interrupt timeout
  if err = .timeout then return 0
  connectionRequest data
  return timeout

/-- The part of `progress_ep_eq` after a wait that did not time out. -/
def finishConnection (data : SegmentData) (timeout : ℤ) : Prog ℤ := do
  setEp fun ep => { ep with peerAddr.connectId := data.acceptIntId }
  let ep := (← get).host.ep
  -- where no buffer is reserved yet, the description received is written over
  let data ← if ep.recvInfo.buffer.isNone then Prod.snd <$> allocSendBuffer data else pure data
  let _ ← lib (.removeDataInterrupt ep.connectInterrupt)
  let err ← connectMsg data
  if err ≠ .ok then
    let _ ← disconnectMsg
    return 0
  return timeout

/-- An endpoint without a buffer reserves one, and writes over the description received. -/
def Prepares (data data' : SegmentData) (s t : Site) : Prop :=
  (s.host.ep.recvInfo.buffer = none ∧ ∃ err, allocSendBuffer data
      { s with host.ep.peerAddr.connectId := data.acceptIntId } = .ok ((err, data'), t))
    ∨ (s.host.ep.recvInfo.buffer ≠ none ∧ data' = data
      ∧ t = { s with host.ep.peerAddr.connectId := data.acceptIntId })

/-- The run of it: the description may be written over, then the interrupt is removed and the rest
goes by what `connect_msg` returns. -/
lemma run_finishConnection_ok {data : SegmentData} {timeout : ℤ} {s : Site} {r : ℤ × Site}
    (h : finishConnection data timeout s = .ok r) : ∃ data' s₁, Prepares data data' s s₁
      ∧ (do
          let err ← connectMsg data'
          if err ≠ .ok then
            let _ ← disconnectMsg
            return 0
          return timeout : Prog ℤ)
        { s₁ with dpa := s₁.dpa.call (.removeDataInterrupt s.host.ep.connectInterrupt) }
      = .ok r := by
  rw [finishConnection, setEp_bind, get_bind, ite_run] at h
  split at h
  case isTrue hnone =>
      obtain ⟨data', s₁, halloc, hrest⟩ := run_bind_ok h
      obtain ⟨⟨err, _⟩, hsend, rfl⟩ := run_map_ok halloc
      exact ⟨_, s₁, .inl ⟨Option.isNone_iff_eq_none.1 hnone, err, hsend⟩, hrest⟩
  case isFalse hsome =>
      obtain ⟨data', s₁, hpure, hrest⟩ := run_bind_ok h
      obtain ⟨rfl, rfl⟩ := Prod.mk.inj (Except.ok.inj hpure)
      exact ⟨data, _, .inr ⟨fun hnone => hsome (Option.isNone_iff_eq_none.2 hnone), rfl, rfl⟩,
        hrest⟩

/-- The rest of it: the connection is given up if `connect_msg` fails. -/
lemma run_connectOrDisconnect_ok {data : SegmentData} {timeout r : ℤ} {s t : Site}
    (h : (do
        let err ← connectMsg data
        if err ≠ .ok then
          let _ ← disconnectMsg
          return 0
        return timeout : Prog ℤ) s = .ok (r, t)) :
    ∃ err s₁, connectMsg data s = .ok (err, s₁)
      ∧ ((err ≠ .ok ∧ ∃ a, disconnectMsg s₁ = .ok (a, t)) ∨ (err = .ok ∧ t = s₁)) := by
  obtain ⟨err, s₁, hconnect, hrest⟩ := run_bind_ok h
  refine ⟨err, s₁, hconnect, ?_⟩
  rw [ite_run] at hrest
  split at hrest
  case isTrue hne =>
      obtain ⟨a, s₂, hdisconnect, hrest⟩ := run_bind_ok hrest
      obtain ⟨-, rfl⟩ := Prod.mk.inj (Except.ok.inj hrest)
      exact .inl ⟨hne, a, hdisconnect⟩
  case isFalse hok =>
      obtain ⟨-, rfl⟩ := Prod.mk.inj (Except.ok.inj hrest)
      exact .inr ⟨not_not.1 hok, rfl⟩

/-- `progress_ep_eq`. -/
def progressEpEq (timeout : ℤ) : Prog ℤ := do
  let (err, data) ← progressEq (← get).host.ep.connectInterrupt timeout
  if err = .timeout then return 0
  finishConnection data timeout

end Site

end DpaProvider
