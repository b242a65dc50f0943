import DpaProvider.Cm.Connect

/-!
What the calls of the connection management change.

A site falls into the parts listed in `Part`.  A frame ignores a part if it relates any two states
that differ in that part alone, and every call is in each frame that ignores the parts it changes:
`keeps_allocMsgBuffer`, `keeps_connectMsg`, ….  So a frame of the later modules only has to be
looked at part by part.
-/

namespace DpaProvider

open Effect

namespace Site

/-- A part of a site. -/
inductive Part where
  /-- The record of the calls to the library. -/
  | library
  /-- The same for the calls about interrupts that carry data. -/
  | numbers
  /-- The handles of the endpoint, and what it keeps of the ring of the peer. -/
  | handles
  /-- The buffer that the endpoint has reserved, and the cursor in it. -/
  | buffer
  /-- The table of data segments. -/
  | table
  /-- The rings, with the accesses that clean them. -/
  | memory
  /-- The number of the interrupt of the peer. -/
  | address
  | connected
  | sent
  | events
  | slots
  | pep

/-- What a change of the part consists of. -/
def Part.Change (s : Site) : Part → Type
  | .library => { c : DpaCall // c.numbers = false }
  | .numbers => { c : DpaCall // c.numbers = true }
  | .handles => { new : SendInfo × RecvInfo × Option Handle × Option Handle //
      new.2.1.buffer = s.host.ep.recvInfo.buffer }
  | .buffer => Option LocalBuffer × UInt64
  | .table => (ℕ → LocalSegment) × UInt32
  | .memory => (BufferLoc → RingBuffer) × { new : List Access //
      ∃ cleaned, (∀ a ∈ cleaned, a.kind = .clean) ∧ new = s.host.accesses ++ cleaned }
  | .address => UInt32
  | .connected => Bool
  | .sent => List (DpaAddr × SegmentData)
  | .events => ℕ × EqEvent
  | .slots => ℕ × Option Progress
  | .pep => Option Handle × Option Handle

/-- The site after the change. -/
def Part.apply (s : Site) : (part : Part) → part.Change s → Site
  | .library, c | .numbers, c => { s with dpa := s.dpa.call c.1 }
  | .handles, ⟨(sendInfo, recvInfo, connectSd, connectInterrupt), _⟩ =>
      { s with host.ep := { s.host.ep with sendInfo, recvInfo, connectSd, connectInterrupt } }
  | .buffer, new =>
      { s with host.ep.recvInfo := { s.host.ep.recvInfo with buffer := new.1, read := new.2 } }
  | .table, (localSegmentsInfo, currentSegmentId) => { s with localSegmentsInfo, currentSegmentId }
  | .memory, (mem, ⟨accesses, _⟩) => { s with host := { s.host with mem, accesses } }
  | .address, connectId => { s with host.ep.peerAddr.connectId := connectId }
  | .connected, new => { s with host.ep.connected := new }
  | .sent, new => { s with sent := new }
  | .events, (q, event) => { s with eqs := Function.update s.eqs q { s.eqs q with
      eventQueue := (s.eqs q).eventQueue ++ [event], added := (s.eqs q).added ++ [event] } }
  | .slots, (q, progress) => { s with eqs := Function.update s.eqs q { s.eqs q with progress } }
  | .pep, (sd, interrupt) => { s with pep := { s.pep with sd, interrupt } }

/-- A frame relates a site to those with a change of the part. -/
def Ignores (F : Frame Site) (part : Part) : Prop := ∀ s x, F.rel s (part.apply s x)

/-- It does so for every part that an endpoint changes besides the progress slots. -/
def IgnoresEp (F : Frame Site) : Prop := ∀ part, part ≠ .slots → part ≠ .pep → Ignores F part

variable {F : Frame Site}

lemma keeps_numbers (hnumbers : Ignores F .numbers) (c : DpaCall) (hc : c.numbers = true) :
    Keeps F (lib c) := by
  intro s a s' hrun
  obtain ⟨-, rfl⟩ := Prod.mk.inj (run_lib_ok hrun)
  exact hnumbers s ⟨c, hc⟩

section Calls

variable (hlibrary : Ignores F .library)

include hlibrary

lemma keeps_lib (c : DpaCall) (hc : c.numbers = false) : Keeps F (lib c) := by
  intro s a s' hrun
  obtain ⟨-, rfl⟩ := Prod.mk.inj (run_lib_ok hrun)
  exact hlibrary s ⟨c, hc⟩

lemma keeps_release (handle : Option Handle) {c : Option Handle → DpaCall}
    (hc : ∀ h, (c h).numbers = false) (result : DpaError) : Keeps F (release handle c result) :=
  keeps_ite (keeps_pure _) (keeps_bind (keeps_lib hlibrary _ (hc _)) fun _ => keeps_pure _)

lemma keeps_createStartSequence (map : Option Handle) : Keeps F (createStartSequence map) := by
  refine keeps_bind (keeps_lib hlibrary _ rfl) fun r => keeps_ite (keeps_pure _) ?_
  exact keeps_bind (keeps_lib hlibrary _ rfl) fun _ => keeps_pure _

lemma keeps_dpaDestroySegment (info : LocalSegment) : Keeps F (dpaDestroySegment info) := by
  refine keeps_bind (keeps_lib hlibrary _ rfl) fun _ => ?_
  refine keeps_bind (keeps_lib hlibrary _ rfl) fun _ => ?_
  refine keeps_bind (keeps_lib hlibrary _ rfl) fun _ => ?_
  exact keeps_bind (keeps_lib hlibrary _ rfl) fun _ => keeps_pure _

lemma keeps_progressEq (interrupt : Option Handle) (timeout : ℤ) :
    Keeps F (progressEq interrupt timeout) :=
  keeps_bind (keeps_lib hlibrary _ rfl) fun _ => keeps_pure _

/-- A connection message. -/
lemma keeps_sendConnectData (hsent : Ignores F .sent) (data : SegmentData) :
    Keeps F (sendConnectData data) := by
  refine keeps_bind keeps_get fun s => keeps_bind (keeps_lib hlibrary _ rfl) fun r => ?_
  refine keeps_ite (keeps_pure _) (keeps_bind (keeps_lib hlibrary _ rfl) fun r => ?_)
  refine keeps_ite (keeps_bind (keeps_lib hlibrary _ rfl) fun _ => keeps_pure _) ?_
  refine keeps_bind (keeps_lib hlibrary _ rfl) fun r =>
    keeps_ite (keeps_bind (keeps_modify fun s => hsent s _) fun _ => ?_) ?_
  all_goals
    refine keeps_bind (keeps_lib hlibrary _ rfl) fun _ => ?_
    exact keeps_bind (keeps_lib hlibrary _ rfl) fun _ => keeps_pure _

end Calls

section Handles

variable (hhandles : Ignores F .handles)

include hhandles

lemma keeps_setSendInfo (f : SendInfo → SendInfo) : Keeps F (setSendInfo f) :=
  keeps_modify fun s => hhandles s ⟨(_, _, _, _), rfl⟩

lemma keeps_setRecvInfo {f : RecvInfo → RecvInfo}
    (hbuffer : ∀ info, (f info).buffer = info.buffer) :
    Keeps F (setRecvInfo f) :=
  keeps_modify fun s => hhandles s ⟨(_, _, _, _), hbuffer _⟩

lemma keeps_saveRemote (base : BufferLoc) (size : UInt64) (sequence : Option Handle) :
    Keeps F (setEp (saveRemote base size sequence)) :=
  keeps_modify fun s => hhandles s
    ⟨(_, (saveRemote base size sequence s.host.ep).recvInfo, _, _), rfl⟩

variable (hlibrary : Ignores F .library)

include hlibrary

lemma keeps_createConnectInterrupt (hnumbers : Ignores F .numbers) (interruptId : UInt32) :
    Keeps F (createConnectInterrupt interruptId) := by
  refine keeps_bind (keeps_lib hlibrary _ rfl) fun r => keeps_ite (keeps_pure _) ?_
  refine keeps_bind (keeps_modify fun s => hhandles s ⟨(_, _, _, _), rfl⟩) fun _ => ?_
  refine keeps_bind (keeps_numbers hnumbers _ rfl) fun r => keeps_ite (keeps_pure _) ?_
  exact keeps_bind (keeps_modify fun s => hhandles s ⟨(_, _, _, _), rfl⟩) fun _ => keeps_pure _

lemma keeps_ctrlConnectMsg (hnumbers : Ignores F .numbers) (hsent : Ignores F .sent) :
    Keeps F ctrlConnectMsg := by
  refine keeps_bind keeps_get fun s =>
    keeps_bind (keeps_createConnectInterrupt hhandles hlibrary hnumbers _) fun err => ?_
  exact keeps_ite (keeps_pure _) (keeps_sendConnectData hlibrary hsent _)

lemma keeps_connectSegment (data : SegmentData) : Keeps F (connectSegment data) := by
  refine keeps_bind keeps_get fun s => keeps_ite (keeps_pure _) ?_
  refine keeps_bind (keeps_lib hlibrary _ rfl) fun r => keeps_ite (keeps_pure _) ?_
  refine keeps_bind (keeps_setSendInfo hhandles _) fun _ => ?_
  refine keeps_bind (keeps_lib hlibrary _ rfl) fun r => keeps_ite (keeps_pure _) ?_
  refine keeps_bind (keeps_setSendInfo hhandles _) fun _ => ?_
  refine keeps_bind (keeps_createStartSequence hlibrary _) fun sequence => ?_
  exact keeps_bind (keeps_saveRemote hhandles _ _ _) fun _ => keeps_pure _

omit hhandles in
lemma keeps_connectRemoteInterrupt (needed : Bool) (sd : Option Handle) (id : UInt32)
    {save : Option Handle → Prog Unit} (hsave : ∀ h, Keeps F (save h)) :
    Keeps F (connectRemoteInterrupt needed sd id save) := by
  refine keeps_ite ?_ (keeps_bind (hsave _) fun _ => keeps_pure _)
  refine keeps_bind keeps_get fun s => keeps_bind (keeps_lib hlibrary _ rfl) fun r => ?_
  exact keeps_ite (keeps_pure _) (keeps_bind (hsave _) fun _ => keeps_pure _)

lemma keeps_allocRecv (data : SegmentData) : Keeps F (allocRecv data) := by
  refine keeps_bind keeps_get fun s => keeps_ite (keeps_pure _) ?_
  refine keeps_bind (keeps_lib hlibrary _ rfl) fun r => keeps_ite (keeps_pure _) ?_
  refine keeps_bind (keeps_setRecvInfo hhandles fun _ => rfl) fun _ => keeps_bind keeps_get fun s =>
    keeps_ite (keeps_pure _) (keeps_bind (keeps_lib hlibrary _ rfl) fun r => keeps_ite ?_ ?_)
  · exact keeps_bind keeps_get fun s => keeps_bind (keeps_lib hlibrary _ rfl) fun _ => keeps_pure _
  · exact keeps_bind (keeps_setRecvInfo hhandles fun _ => rfl) fun _ => keeps_pure _

omit hhandles hlibrary in
lemma keeps_sendWaits (waitObj : ℕ → WaitObj) (recv send : Option ℕ) :
    Keeps F (sendWaits waitObj recv send) := by
  cases recv with
  | none => exact keeps_pure _
  | some r =>
      cases send with
      | none => exact keeps_throw _
      | some q => exact keeps_pure _

omit hhandles hlibrary in
lemma keeps_sendInterruptNeeded : Keeps F sendInterruptNeeded := by
  refine keeps_bind keeps_get fun s => keeps_ite (keeps_pure _) ?_
  refine keeps_bind (keeps_sendWaits _ _ _) fun b => keeps_ite (keeps_pure _) ?_
  exact keeps_sendWaits _ _ _

lemma keeps_allocSend (data : SegmentData) : Keeps F (allocSend data) := by
  refine keeps_bind keeps_get fun s => keeps_ite (keeps_pure _) ?_
  refine keeps_bind (keeps_lib hlibrary _ rfl) fun r => keeps_ite ?_ ?_
  · exact keeps_bind keeps_get fun s => keeps_bind (keeps_lib hlibrary _ rfl) fun _ =>
      keeps_bind (keeps_lib hlibrary _ rfl) fun _ => keeps_pure _
  · refine keeps_bind (keeps_setSendInfo hhandles _) fun _ =>
      keeps_bind keeps_sendInterruptNeeded fun b => keeps_ite (keeps_pure _) ?_
    refine keeps_bind (keeps_lib hlibrary _ rfl) fun r => keeps_ite ?_ (keeps_pure _)
    exact keeps_bind (keeps_setSendInfo hhandles _) fun _ => keeps_pure _

end Handles

section Tables

variable (htable : Ignores F .table)

include htable

lemma keeps_setSegment (i : ℕ) (f : LocalSegment → LocalSegment) : Keeps F (setSegment i f) :=
  keeps_modify fun s => htable s (_, _)

variable (hlibrary : Ignores F .library) (hmemory : Ignores F .memory)

include hlibrary hmemory

lemma keeps_dpaAllocSegment (i : ℕ) (segmentId : UInt32) (size : UInt64) :
    Keeps F (dpaAllocSegment i segmentId size) := by
  refine keeps_bind (keeps_setSegment htable _ _) fun _ => ?_
  refine keeps_bind (keeps_lib hlibrary _ rfl) fun r => keeps_ite (keeps_pure _) ?_
  refine keeps_bind (keeps_setSegment htable _ _) fun _ => ?_
  refine keeps_bind (keeps_lib hlibrary _ rfl) fun r => keeps_ite (keeps_pure _) ?_
  refine keeps_bind (keeps_setSegment htable _ _) fun _ => ?_
  refine keeps_bind (keeps_lib hlibrary _ rfl) fun r => keeps_ite (keeps_pure _) ?_
  refine keeps_bind (keeps_lib hlibrary _ rfl) fun r => keeps_ite (keeps_pure _) ?_
  refine keeps_bind (keeps_setSegment htable _ _) fun _ => keeps_bind keeps_get fun s => ?_
  refine keeps_bind (keeps_modify fun u =>
    hmemory u (_, ⟨_, [], nofun, (List.append_nil _).symm⟩)) fun _ => ?_
  exact keeps_bind (keeps_lib hlibrary _ rfl) fun _ => keeps_pure _

lemma keeps_createDataSegment (i : ℕ) : Keeps F (createDataSegment i) := by
  refine keeps_bind keeps_get fun s =>
    keeps_bind (keeps_dpaAllocSegment htable hlibrary hmemory _ _ _) fun err => keeps_ite ?_ ?_
  · refine keeps_bind keeps_get fun s => keeps_bind (keeps_dpaDestroySegment hlibrary _) fun _ => ?_
    exact keeps_setSegment htable _ _
  · exact keeps_bind (keeps_setSegment htable _ _) fun _ =>
      keeps_modify fun s => htable s (_, _)

variable (hhandles : Ignores F .handles) (hbuffer : Ignores F .buffer)

include hhandles hbuffer

omit hlibrary in
lemma keeps_reserveBuffer (i j : ℕ) (data : SegmentData) : Keeps F (reserveBuffer i j data) := by
  refine keeps_bind keeps_get fun s => keeps_bind (keeps_setSegment htable _ _) fun _ => ?_
  refine keeps_bind (keeps_modify fun u => hmemory u (_, ⟨_, [⟨.clean, _⟩], by simp, rfl⟩))
    fun _ => ?_
  refine keeps_bind (keeps_modify fun u => hbuffer u (_, _)) fun _ => ?_
  exact keeps_bind (keeps_setSendInfo hhandles _) fun _ => keeps_pure _

end Tables

/-! Frames that are not indifferent to the table look at the creation of a segment and at the
reservation of a buffer. -/

section Reservations

variable (hcreate : ∀ i, Keeps F (createDataSegment i))

include hcreate

lemma keeps_createUntil (i fuel : ℕ) : Keeps F (createUntil i fuel) := by
  induction fuel with
  | zero => exact keeps_throw _
  | succ fuel ih =>
      refine keeps_bind keeps_get fun s => keeps_ite ?_ (keeps_pure _)
      exact keeps_bind (hcreate i) fun _ => ih

lemma keeps_searchSegments (remaining i : ℕ) : Keeps F (searchSegments remaining i) := by
  induction remaining generalizing i with
  | zero => exact keeps_pure _
  | succ remaining ih =>
      refine keeps_bind keeps_get fun s => keeps_bind (keeps_createUntil hcreate i _) fun _ =>
        keeps_bind keeps_get fun u => keeps_ite ?_ (ih _)
      split
      · exact keeps_pure _
      · exact ih _

lemma keeps_getEmptyBuffer : Keeps F getEmptyBuffer :=
  keeps_bind keeps_get fun _ => keeps_searchSegments hcreate _ _

variable (hreserve : ∀ i j data, Keeps F (reserveBuffer i j data))
  (hlibrary : Ignores F .library) (hhandles : Ignores F .handles)

include hreserve hlibrary hhandles

lemma keeps_allocMsgBuffer_of (data : SegmentData) : Keeps F (allocMsgBuffer data) := by
  refine keeps_bind keeps_get fun s => keeps_ite (keeps_pure _) ?_
  refine keeps_bind (keeps_getEmptyBuffer hcreate) fun found => ?_
  split
  · exact keeps_pure _
  · refine keeps_bind (keeps_allocRecv hhandles hlibrary _) fun r => keeps_ite (keeps_pure _) ?_
    refine keeps_bind (keeps_allocSend hhandles hlibrary _) fun r => keeps_ite (keeps_pure _) ?_
    exact keeps_bind (hreserve _ _ _) fun _ => keeps_pure _

lemma keeps_allocSendBuffer_of (hsent : Ignores F .sent) (data : SegmentData) :
    Keeps F (allocSendBuffer data) := by
  refine keeps_bind (keeps_allocMsgBuffer_of hcreate hreserve hlibrary hhandles _) fun r => ?_
  exact keeps_ite (keeps_pure _) (keeps_bind (keeps_sendConnectData hlibrary hsent _) fun _ =>
    keeps_pure _)

end Reservations

section Buffers

variable (htable : Ignores F .table) (hlibrary : Ignores F .library) (hmemory : Ignores F .memory)
  (hhandles : Ignores F .handles) (hbuffer : Ignores F .buffer)

include htable hlibrary hmemory hhandles hbuffer

lemma keeps_allocMsgBuffer (data : SegmentData) : Keeps F (allocMsgBuffer data) :=
  keeps_allocMsgBuffer_of (keeps_createDataSegment htable hlibrary hmemory)
    (keeps_reserveBuffer htable hmemory hhandles hbuffer) hlibrary hhandles data

lemma keeps_allocSendBuffer (hsent : Ignores F .sent) (data : SegmentData) :
    Keeps F (allocSendBuffer data) :=
  keeps_allocSendBuffer_of (keeps_createDataSegment htable hlibrary hmemory)
    (keeps_reserveBuffer htable hmemory hhandles hbuffer) hlibrary hhandles hsent data

end Buffers

/-- What a frame has to say of the first part of `progress_ep_eq`. -/
lemma Prepares.rel {s t : Site} {data data' : SegmentData} (h : Prepares data data' s t)
    (hkeeps : Keeps F (allocSendBuffer data)) :
    F.rel { s with host.ep.peerAddr.connectId := data.acceptIntId } t := by
  rcases h with ⟨-, err, halloc⟩ | ⟨-, -, rfl⟩
  · exact hkeeps _ _ _ halloc
  · exact F.refl _

/-- A frame admits what an endpoint does, besides the progress slots. -/
structure Admits (F : Frame Site) : Prop where
  ignores : ∀ part, part ≠ .table → part ≠ .slots → part ≠ .pep → Ignores F part
  creates : ∀ i, Keeps F (createDataSegment i)
  reserves : ∀ i j data, Keeps F (reserveBuffer i j data)

lemma Admits.of_ignores (h : IgnoresEp F) : Admits F where
  ignores part _ := h part
  creates := keeps_createDataSegment (h _ nofun nofun) (h _ nofun nofun) (h _ nofun nofun)
  reserves := keeps_reserveBuffer (h _ nofun nofun) (h _ nofun nofun) (h _ nofun nofun)
    (h _ nofun nofun)

/-- A message with the description of a buffer. -/
lemma Admits.keeps_allocSendBuffer (h : Admits F) (data : SegmentData) :
    Keeps F (allocSendBuffer data) :=
  keeps_allocSendBuffer_of h.creates h.reserves (h.ignores _ nofun nofun nofun)
    (h.ignores _ nofun nofun nofun) (h.ignores _ nofun nofun nofun) data

lemma keeps_sendMsgAcceptData (h : Admits F) : Keeps F sendMsgAcceptData := by
  refine keeps_bind keeps_get fun s => keeps_bind (keeps_createConnectInterrupt
    (h.ignores _ nofun nofun nofun) (h.ignores _ nofun nofun nofun)
    (h.ignores _ nofun nofun nofun) _) fun err => ?_
  exact keeps_ite (keeps_pure _) (keeps_bind (h.keeps_allocSendBuffer _) fun _ => keeps_pure _)

lemma keeps_eqAdd (hevents : Ignores F .events) (eq : Option ℕ) (event : EqEvent) :
    Keeps F (eqAdd eq event) := by
  cases eq with
  | none => exact keeps_pure _
  | some q => exact keeps_modify fun s => hevents s (_, _)

section Connections

variable (hlibrary : Ignores F .library) (hhandles : Ignores F .handles)
  (hconnected : Ignores F .connected)

include hlibrary hconnected

lemma keeps_disconnectMsg : Keeps F disconnectMsg := by
  refine keeps_bind keeps_get fun s => ?_
  refine keeps_bind (keeps_release hlibrary _ (fun _ => rfl) _) fun _ => ?_
  refine keeps_bind (keeps_release hlibrary _ (fun _ => rfl) _) fun _ => ?_
  refine keeps_bind (keeps_release hlibrary _ (fun _ => rfl) _) fun _ => ?_
  refine keeps_bind (keeps_release hlibrary _ (fun _ => rfl) _) fun _ => ?_
  refine keeps_bind (keeps_release hlibrary _ (fun _ => rfl) _) fun _ => ?_
  exact keeps_bind (keeps_modify fun s => hconnected s _) fun _ => keeps_pure _

lemma keeps_dpaShutdown : Keeps F dpaShutdown := by
  refine keeps_bind keeps_get fun s => keeps_ite (keeps_pure _) ?_
  exact keeps_bind (keeps_disconnectMsg hlibrary hconnected) fun _ => keeps_pure _

variable (hevents : Ignores F .events)

include hhandles hevents

lemma keeps_connectMsg (data : SegmentData) : Keeps F (connectMsg data) := by
  refine keeps_bind (keeps_connectSegment hhandles hlibrary _) fun err => ?_
  refine keeps_ite (keeps_pure _) ?_
  refine keeps_bind keeps_get fun s => ?_
  refine keeps_bind (keeps_connectRemoteInterrupt hlibrary _ _ _
    fun _ => keeps_setSendInfo hhandles _) fun err => keeps_ite (keeps_pure _) ?_
  refine keeps_bind (keeps_connectRemoteInterrupt hlibrary _ _ _
    fun _ => keeps_setRecvInfo hhandles fun _ => rfl) fun err => keeps_ite (keeps_pure _) ?_
  refine keeps_bind (keeps_eqAdd hevents _ _) fun _ => ?_
  refine keeps_bind (keeps_modify fun s => hconnected s _) fun _ => ?_
  exact keeps_ite (keeps_pure _) (keeps_bind keeps_get fun _ => keeps_pure _)

/-- The end of a handshake. -/
lemma keeps_connectOrDisconnect (data : SegmentData) (timeout : ℤ) : Keeps F (do
    let err ← connectMsg data
    if err ≠ .ok then
      let _ ← disconnectMsg
      return (0 : ℤ)
    return timeout) := by
  refine keeps_bind (keeps_connectMsg hlibrary hhandles hconnected hevents _) fun err => ?_
  refine keeps_ite (keeps_bind (keeps_disconnectMsg hlibrary hconnected) fun _ => keeps_pure _) ?_
  exact keeps_pure _

end Connections

lemma keeps_finishConnection (h : Admits F) (data : SegmentData) (timeout : ℤ) :
    Keeps F (finishConnection data timeout) := by
  have hrest (ep : Endpoint) (data : SegmentData) : Keeps F (do
      let _ ← lib (.removeDataInterrupt ep.connectInterrupt)
      let err ← connectMsg data
      if err ≠ .ok then
        let _ ← disconnectMsg
        return (0 : ℤ)
      return timeout) :=
    keeps_bind (keeps_numbers (h.ignores _ nofun nofun nofun) _ rfl) fun _ =>
      keeps_connectOrDisconnect (h.ignores _ nofun nofun nofun) (h.ignores _ nofun nofun nofun)
        (h.ignores _ nofun nofun nofun) (h.ignores _ nofun nofun nofun) _ _
  refine keeps_bind (keeps_modify fun s => h.ignores .address nofun nofun nofun s _) fun _ => ?_
  refine keeps_bind keeps_get fun s => keeps_ite ?_ (keeps_bind (keeps_pure _) fun _ => hrest _ _)
  exact keeps_bind (keeps_map _ (h.keeps_allocSendBuffer _)) fun _ => hrest _ _

lemma keeps_progressEpEq (h : Admits F) (timeout : ℤ) : Keeps F (progressEpEq timeout) := by
  refine keeps_bind keeps_get fun s =>
    keeps_bind (keeps_progressEq (h.ignores _ nofun nofun nofun) _ _) fun r => ?_
  exact keeps_ite (keeps_pure _) (keeps_finishConnection h _ _)

lemma keeps_connectionRequest (hevents : Ignores F .events) (data : SegmentData) :
    Keeps F (connectionRequest data) :=
  keeps_bind keeps_get fun _ => keeps_eqAdd hevents _ _

lemma keeps_progressPepEq (hlibrary : Ignores F .library) (hevents : Ignores F .events)
    (timeout : ℤ) : Keeps F (progressPepEq timeout) := by
  refine keeps_bind keeps_get fun s => keeps_bind (keeps_progressEq hlibrary _ _) fun r => ?_
  exact keeps_ite (keeps_pure _) (keeps_bind (keeps_connectionRequest hevents _) fun _ =>
    keeps_pure _)

/-! ### The calls that set a progress slot -/

lemma keeps_setProgress (hslots : Ignores F .slots) (q : ℕ) (progress : Option Progress) :
    Keeps F (setProgress q progress) :=
  keeps_modify fun s => hslots s (_, _)

lemma keeps_dpaConnect (hlibrary : Ignores F .library) (hnumbers : Ignores F .numbers)
    (hhandles : Ignores F .handles)
    (hsent : Ignores F .sent) (hslots : Ignores F .slots) : Keeps F dpaConnect := by
  refine keeps_bind keeps_get fun s => ?_
  dsimp only
  split
  · exact keeps_pure _
  · refine keeps_bind (keeps_ctrlConnectMsg hhandles hlibrary hnumbers hsent) fun err => ?_
    exact keeps_ite (keeps_pure _) (keeps_bind (keeps_setProgress hslots _ _) fun _ => keeps_pure _)

lemma keeps_dpaAccept (h : Admits F) (hslots : Ignores F .slots) : Keeps F dpaAccept := by
  refine keeps_bind (keeps_sendMsgAcceptData h) fun err =>
    keeps_ite (keeps_pure _) (keeps_bind keeps_get fun s => ?_)
  dsimp only
  split
  · exact keeps_throw _
  · exact keeps_bind (keeps_setProgress hslots _ _) fun _ => keeps_pure _

lemma keeps_dpaListen (hlibrary : Ignores F .library) (hnumbers : Ignores F .numbers)
    (hpep : Ignores F .pep)
    (hslots : Ignores F .slots) : Keeps F dpaListen := by
  refine keeps_bind keeps_get fun s => ?_
  dsimp only
  split
  · exact keeps_pure _
  · refine keeps_bind (keeps_lib hlibrary _ rfl) fun r => keeps_ite (keeps_pure _) ?_
    refine keeps_ite (keeps_pure _) ?_
    refine keeps_bind (keeps_modify fun s => hpep s (_, _)) fun _ => ?_
    refine keeps_bind (keeps_numbers hnumbers _ rfl) fun r => keeps_ite (keeps_pure _) ?_
    refine keeps_ite (keeps_pure _) ?_
    refine keeps_bind (keeps_modify fun s => hpep s (_, _)) fun _ => ?_
    exact keeps_bind (keeps_setProgress hslots _ _) fun _ => keeps_pure _

lemma keeps_dpaPepClose (hlibrary : Ignores F .library) (hnumbers : Ignores F .numbers)
    (hslots : Ignores F .slots) : Keeps F dpaPepClose := by
  refine keeps_bind keeps_get fun s => ?_
  have hrest : Keeps F (do
      let _ ← lib (.removeDataInterrupt s.pep.interrupt)
      let _ ← lib (.close s.pep.sd)
      return FiErr.success) :=
    keeps_bind (keeps_numbers hnumbers _ rfl) fun _ =>
      keeps_bind (keeps_lib hlibrary _ rfl) fun _ => keeps_pure _
  dsimp only
  split
  · exact hrest
  · exact keeps_bind (keeps_setProgress hslots _ _) fun _ => hrest

end Site

end DpaProvider
