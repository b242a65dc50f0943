import DpaProvider.Cm.Handshake
import DpaProvider.Cm.Layout

/-!
What two connected endpoints know of each other.

The description of a buffer goes through `alloc_msg_buffer`, which writes the place of a buffer and
the numbers of its interrupts over it (`Describes`), and through `connect_msg`, which connects to
what it says (`Connects`).  The active endpoint hands the description it has received to both of
them, in this order, so it connects to the peer as if that had reserved what it has reserved itself.
The endpoints agree if this makes no difference (`agreement`): the next free buffers of the nodes
lie in the same place and have the same size, and the interrupts have the same numbers.
-/

namespace DpaProvider

open Effect

/-- The interrupts of a description. -/
def SegmentData.recvInterrupt (data : SegmentData) : Option UInt32 :=
  if data.hasRecvInterrupt then some data.recvInterruptId else none

def SegmentData.sendInterrupt (data : SegmentData) : Option UInt32 :=
  if data.hasSendInterrupt then some data.sendInterruptId else none

namespace Site

variable {s t u : Site} {data data' : SegmentData} {err : DpaError}

/-! ### Reservations -/

/-- The numbers that the library has given to the interrupts of the endpoint. -/
def recvNumber (s : Site) : Option UInt32 :=
  s.host.ep.recvInfo.interrupt.map fun h => (s.dpa.replies h).id

def sendNumber (s : Site) : Option UInt32 :=
  s.host.ep.sendInfo.interrupt.map fun h => (s.dpa.replies h).id

/-- What `sendInterruptNeeded` returns. -/
def sendNeeded (s : Site) : Bool :=
  s.host.ep.autoProgress
    || (s.host.ep.recvCq.isSome && waitsUnspec (fun q => (s.host.cqs q).waitObj) s.host.ep.sendCq)
    || (s.host.ep.recvCntr.isSome
      && waitsUnspec (fun k => (s.host.cntrs k).waitObj) s.host.ep.sendCntr)

/-- The test of the half for `FI_SEND` follows no pointer that is not bound. -/
def SendBound (s : Site) : Prop :=
  s.host.ep.autoProgress = true
    ∨ (s.host.ep.recvCq.isSome = true → s.host.ep.sendCq.isSome = true)
      ∧ ((s.host.ep.recvCq.isSome
          && waitsUnspec (fun q => (s.host.cqs q).waitObj) s.host.ep.sendCq) = false →
        s.host.ep.recvCntr.isSome = true → s.host.ep.sendCntr.isSome = true)

lemma sendWaits_run (waitObj : ℕ → WaitObj) (recv send : Option ℕ) (s : Site) :
    (recv.isSome = true → send.isSome = true)
        ∧ sendWaits waitObj recv send s = .ok (recv.isSome && waitsUnspec waitObj send, s)
      ∨ ¬ (recv.isSome = true → send.isSome = true)
        ∧ sendWaits waitObj recv send s = .error .nullPointer := by
  cases recv with
  | none => exact .inl ⟨nofun, rfl⟩
  | some r =>
      cases send with
      | none => exact .inr ⟨fun h => absurd (h rfl) nofun, rfl⟩
      | some q => exact .inl ⟨fun _ => rfl, rfl⟩

lemma sendInterruptNeeded_run (s : Site) :
    s.SendBound ∧ sendInterruptNeeded s = .ok (s.sendNeeded, s)
      ∨ ¬ s.SendBound ∧ sendInterruptNeeded s = .error .nullPointer := by
  rw [sendInterruptNeeded, get_bind, ite_run, SendBound]
  split
  case isTrue hauto => exact .inl ⟨.inl hauto, by simp [sendNeeded, hauto]⟩
  case isFalse hauto =>
  rw [or_iff_right hauto]
  rw [Bool.not_eq_true] at hauto
  rcases sendWaits_run (fun q => (s.host.cqs q).waitObj) s.host.ep.recvCq s.host.ep.sendCq s with
    ⟨hbound, hcq⟩ | ⟨hunbound, hcq⟩
  · rw [run_bind hcq, ite_run]
    split
    case isTrue hwaits => exact .inl ⟨⟨hbound, by simp [hwaits]⟩, by simp [sendNeeded, hwaits]⟩
    case isFalse hwaits =>
        rw [Bool.not_eq_true] at hwaits
        rcases sendWaits_run (fun k => (s.host.cntrs k).waitObj) s.host.ep.recvCntr
          s.host.ep.sendCntr s with ⟨hbound', hcntr⟩ | ⟨hunbound', hcntr⟩
        · exact .inl ⟨⟨hbound, fun _ => hbound'⟩, by simp [hcntr, sendNeeded, hwaits, hauto]⟩
        · exact .inr ⟨fun h => hunbound' (h.2 hwaits), hcntr⟩
  · exact .inr ⟨fun h => hunbound h.1, run_bind_error hcq⟩

lemma sendInterruptNeeded_ok {b : Bool} (hrun : sendInterruptNeeded s = .ok (b, t)) :
    t = s ∧ b = s.sendNeeded := by
  rcases sendInterruptNeeded_run s with ⟨-, hok⟩ | ⟨-, herror⟩
  · obtain ⟨rfl, rfl⟩ := Prod.mk.inj (Except.ok.inj (hok.symm.trans hrun))
    exact ⟨rfl, rfl⟩
  · cases herror.symm.trans hrun

lemma keeps_sendNeeded (i : ℕ) : Keeps (.same sendNeeded) (createDataSegment i) :=
  keeps_createDataSegment (fun _ _ => rfl) (fun _ _ => rfl) (fun _ _ => rfl) i

/-- What decides on a reservation before it is made. -/
def surroundings : Frame Site := .same fun s =>
  (s.env, s.localSegmentsInfo, s.currentSegmentId, s.host.ep.caps, s.sendNeeded)

lemma ignores_surroundings {part : Part} (h : part ≠ .table) : Ignores surroundings part := by
  intro s x
  cases part with
  | table => exact absurd rfl h
  | _ => rfl

lemma surroundings_nextPlace (h : surroundings.rel s t) : t.nextPlace = s.nextPlace := by
  simp only [surroundings, Frame.same, Prod.mk.injEq] at h
  obtain ⟨henv, htable, hcurrent, -⟩ := h
  rw [nextPlace, nextPlace, hcurrent, numSegments, henv, ← numSegments]
  exact placeFrom_congr henv fun k _ => congrFun htable k

/-- The part of `alloc_msg_buffer` for `FI_RECV`. -/
lemma allocRecv_describes (hfresh : s.host.ep.recvInfo.interrupt = none)
    (hrun : allocRecv data s = .ok ((.ok, data'), t)) :
    data'.recvInterrupt = (if hasAny s.host.ep.caps fiRecv then t.recvNumber
        else data.recvInterrupt)
      ∧ (hasAny s.host.ep.caps fiRecv = false → t.recvNumber = none)
      ∧ data'.hasSendInterrupt = data.hasSendInterrupt
      ∧ data'.sendInterruptId = data.sendInterruptId
      ∧ t.host.ep.sendInfo.interrupt = s.host.ep.sendInfo.interrupt := by
  have hnone {s : Site} (h : s.host.ep.recvInfo.interrupt = none) : s.recvNumber = none := by
    rw [recvNumber, h, Option.map_none]
  simp only [allocRecv, get_bind, lib_bind, ite_run, setRecvInfo_bind] at hrun
  split_ifs at hrun with hcaps hopen hneeded hcreate
  case pos =>
      obtain ⟨heq, rfl⟩ := Prod.mk.inj (Except.ok.inj hrun)
      obtain ⟨-, rfl⟩ := Prod.mk.inj heq
      rw [Bool.not_eq_true'] at hcaps
      rw [hcaps]
      exact ⟨rfl, fun _ => hnone hfresh, rfl, rfl, rfl⟩
  case pos => exact absurd (Prod.mk.inj (Prod.mk.inj (Except.ok.inj hrun)).1).1 hopen
  all_goals rw [Bool.not_eq_true', Bool.not_eq_false] at hcaps
  case pos =>
      obtain ⟨heq, rfl⟩ := Prod.mk.inj (Except.ok.inj hrun)
      obtain ⟨-, rfl⟩ := Prod.mk.inj heq
      rw [hcaps]
      exact ⟨(hnone hfresh).symm, by simp, rfl, rfl, rfl⟩
  case pos => exact absurd (Prod.mk.inj (Prod.mk.inj (Except.ok.inj hrun)).1).1 hcreate
  case neg =>
      obtain ⟨heq, rfl⟩ := Prod.mk.inj (Except.ok.inj hrun)
      obtain ⟨-, rfl⟩ := Prod.mk.inj heq
      rw [hcaps]
      exact ⟨rfl, by simp, rfl, rfl, rfl⟩

/-- The part for `FI_SEND`. -/
lemma allocSend_describes (hfresh : s.host.ep.sendInfo.interrupt = none)
    (hrun : allocSend data s = .ok ((.ok, data'), t)) :
    data'.hasSendInterrupt = (if hasAny s.host.ep.caps fiSend then s.sendNeeded
        else data.hasSendInterrupt)
      ∧ data'.sendInterruptId = t.sendNumber.getD data.sendInterruptId
      ∧ ((hasAny s.host.ep.caps fiSend && s.sendNeeded) = false → t.sendNumber = none)
      ∧ data'.recvInterrupt = data.recvInterrupt ∧ t.recvNumber = s.recvNumber := by
  simp only [allocSend, get_bind, lib_bind, ite_run, setSendInfo_bind] at hrun
  split_ifs at hrun with hcaps hopen
  case pos =>
      obtain ⟨heq, rfl⟩ := Prod.mk.inj (Except.ok.inj hrun)
      obtain ⟨-, rfl⟩ := Prod.mk.inj heq
      rw [Bool.not_eq_true'] at hcaps
      simp [hcaps, sendNumber, hfresh]
  case pos => exact absurd (Prod.mk.inj (Prod.mk.inj (Except.ok.inj hrun)).1).1 hopen
  case neg =>
      rw [Bool.not_eq_true', Bool.not_eq_false] at hcaps
      obtain ⟨needed, s₁, hasks, hrun⟩ := run_bind_ok hrun
      obtain ⟨rfl, hneeded⟩ := sendInterruptNeeded_ok hasks
      replace hneeded : needed = s.sendNeeded := hneeded
      rw [hcaps, ← hneeded]
      simp only [lib_bind, ite_run, setSendInfo_bind] at hrun
      split_ifs at hrun with hnot hcreate
      all_goals
        obtain ⟨heq, rfl⟩ := Prod.mk.inj (Except.ok.inj hrun)
        obtain ⟨-, rfl⟩ := Prod.mk.inj heq
      case pos =>
          rw [Bool.not_eq_true'] at hnot
          exact ⟨hnot.symm, by simp [sendNumber, hfresh], by simp [sendNumber, hfresh], rfl, rfl⟩
      all_goals rw [Bool.not_eq_true', Bool.not_eq_false] at hnot
      case pos =>
          rw [hnot]
          exact ⟨rfl, rfl, by simp, rfl, rfl⟩
      case neg =>
          rw [hnot]
          exact ⟨rfl, by simp [sendNumber, hfresh], by simp, rfl, rfl⟩

/-- A buffer has been reserved between `s` and `t`, and `data'` describes it: its place, and the
numbers of its interrupts.  Of the description `data` that it was written over remains what
concerns a direction that the endpoint does not have. -/
structure Describes (s t : Site) (data data' : SegmentData) : Prop where
  place : s.nextPlace = some (data'.segmentId, data'.offset)
  size : data'.size = s.env.alignedBufferSize
  buffer : t.host.ep.recvInfo.buffer
    = some ⟨⟨s.env.localNodeId, data'.segmentId, data'.offset⟩, data'.size⟩
  status : t.host.ep.sendInfo.remoteStatus
    = some ⟨s.env.localNodeId, data'.segmentId, data'.offset⟩
  recv : data'.recvInterrupt
    = if hasAny s.host.ep.caps fiRecv then t.recvNumber else data.recvInterrupt
  noRecv : hasAny s.host.ep.caps fiRecv = false → t.recvNumber = none
  hasSend : data'.hasSendInterrupt
    = if hasAny s.host.ep.caps fiSend then s.sendNeeded else data.hasSendInterrupt
  sendId : data'.sendInterruptId = t.sendNumber.getD data.sendInterruptId
  noSend : (hasAny s.host.ep.caps fiSend && s.sendNeeded) = false → t.sendNumber = none

lemma Describes.surroundings (h : Describes s t data data') (hu : surroundings.rel u s) :
    Describes u t data data' := by
  have hplace := surroundings_nextPlace hu
  simp only [Site.surroundings, Frame.same, Prod.mk.injEq] at hu
  obtain ⟨henv, -, -, hcaps, hneeded⟩ := hu
  constructor
  case place => rw [← hplace, h.place]
  case size => rw [← henv, h.size]
  case buffer => rw [← henv, h.buffer]
  case status => rw [← henv, h.status]
  case recv => rw [← hcaps, h.recv]
  case noRecv => rw [← hcaps]; exact h.noRecv
  case hasSend => rw [← hcaps, ← hneeded, h.hasSend]
  case sendId => exact h.sendId
  case noSend => rw [← hcaps, ← hneeded]; exact h.noSend

/-- What an endpoint has reserved. -/
def reservation : Frame Site := .same fun s => (s.env, s.host.ep.recvInfo.buffer,
  s.host.ep.sendInfo.remoteStatus, s.recvNumber, s.sendNumber)

lemma Describes.reservation (h : Describes s t data data') (hu : reservation.rel t u) :
    Describes s u data data' := by
  simp only [Site.reservation, Frame.same, Prod.mk.injEq] at hu
  obtain ⟨-, hbuffer, hstatus, hrecv, hsend⟩ := hu
  constructor
  case place => exact h.place
  case size => exact h.size
  case buffer => rw [hbuffer, h.buffer]
  case status => rw [hstatus, h.status]
  case recv => rw [hrecv, h.recv]
  case noRecv => rw [hrecv]; exact h.noRecv
  case hasSend => exact h.hasSend
  case sendId => rw [hsend, h.sendId]
  case noSend => rw [hsend]; exact h.noSend

/-- The end of `alloc_msg_buffer`. -/
lemma reserveBuffer_describes {i j : ℕ} (hrun : reserveBuffer i j data s = .ok (data', t)) :
    data' = { data with
        segmentId := (s.localSegmentsInfo i).segmentId, offset := (s.bufferAt i j).base.offset
        size := s.env.alignedBufferSize }
      ∧ t.host.ep.recvInfo.buffer = some ⟨(s.bufferAt i j).base, s.env.alignedBufferSize⟩
      ∧ t.host.ep.sendInfo.remoteStatus = some (s.bufferAt i j).base
      ∧ t.recvNumber = s.recvNumber ∧ t.sendNumber = s.sendNumber := by
  simp only [reserveBuffer, get_bind, setSegment, modify_bind, setHost_bind, setRecvInfo_bind,
    setSendInfo_bind] at hrun
  obtain ⟨rfl, rfl⟩ := Prod.mk.inj (Except.ok.inj hrun)
  exact ⟨rfl, rfl, rfl, rfl, rfl⟩

/-- `alloc_msg_buffer` leaves the description of what it has reserved. -/
lemma allocMsgBuffer_describes (harranged : s.Arranged)
    (hcarries : s.host.ep.carriesMessages = true)
    (hrecv : s.host.ep.recvInfo.interrupt = none) (hsend : s.host.ep.sendInfo.interrupt = none)
    (hrun : allocMsgBuffer data s = .ok ((.ok, data'), t)) : Describes s t data data' := by
  cases allocMsgBuffer_run hrun with
  | plain hno => exact absurd (hno.symm.trans hcarries) Bool.false_ne_true
  | recvFails _ _ _ herr | sendFails _ _ _ _ herr => exact absurd rfl herr
  | @reserved i j s₁ s₂ s₃ _ data₁ data₂ _ _ hfind halloc₂ halloc₃ hreserve =>
      have hplace := getEmptyBuffer_place hfind
      rw [getEmptyBuffer, get_bind] at hfind
      obtain ⟨hgrowing, hsome, -⟩ := searchSegments_cases hfind
      obtain ⟨-, -, -, hcreated, -⟩ := hsome i j rfl
      have harranged₁ : s₁.Arranged :=
        (keeps_searchSegments admits_arranged.creates _ _ _ _ _ hfind).2 harranged
      have hep := hgrowing.2
      have hneeded₁ : s₁.sendNeeded = s.sendNeeded :=
        keeps_searchSegments keeps_sendNeeded _ _ _ _ _ hfind
      have hsurroundings₂ : Site.surroundings.rel s₁ s₂ := keeps_allocRecv
        (ignores_surroundings (by simp)) (ignores_surroundings (by simp)) _ _ _ _ halloc₂
      obtain ⟨hrecv₂, hnoRecv, hkept, hid, hinterrupt⟩ :=
        allocRecv_describes (by rw [hep, hrecv]) halloc₂
      have htables₃ : tables.rel s₁ s₃ := tables.trans _ _ _ (tables_allocRecv _ _ _ _ halloc₂)
        (tables_allocSend _ _ _ _ halloc₃)
      obtain ⟨hhas, hid₃, hnoSend, hrecv₃, hnumber₃⟩ :=
        allocSend_describes (by rw [hinterrupt, hep, hsend]) halloc₃
      obtain ⟨rfl, hbuffer, hstatus, hnumber₄, hsend₄⟩ := reserveBuffer_describes hreserve
      simp only [tables, Frame.same, Prod.mk.injEq] at htables₃
      obtain ⟨htable, henv, -⟩ := htables₃
      simp only [Site.surroundings, Frame.same, Prod.mk.injEq] at hsurroundings₂
      obtain ⟨-, -, -, hcaps, hneeded⟩ := hsurroundings₂
      rw [hep] at hcaps hrecv₂ hnoRecv
      rw [hcaps, hneeded, hneeded₁] at hhas hnoSend
      have henv₃ : s₃.env = s.env := henv.trans hgrowing.1.env
      have hbase : (s₃.bufferAt i j).base = ⟨s.env.localNodeId,
          (s₃.localSegmentsInfo i).segmentId, (s₃.bufferAt i j).base.offset⟩ := by
        have hlaid := harranged₁ i hcreated j
        rw [bufferAt, htable, ← bufferAt, hlaid, buffersOf, hgrowing.1.env]
      constructor
      case place => rw [hplace, htable, bufferAt, bufferAt, htable]
      case size => rw [henv₃]
      case buffer => rw [hbuffer, henv₃, ← hbase]
      case status => rw [hstatus, ← hbase]
      case recv => rw [hnumber₄, hnumber₃, ← hrecv₂, ← hrecv₃]; rfl
      case noRecv => rw [hnumber₄, hnumber₃]; exact hnoRecv
      case hasSend => rw [← hkept]; exact hhas
      case sendId => rw [hsend₄, ← hid]; exact hid₃
      case noSend => rw [hsend₄]; exact hnoSend

/-! ### Connections -/

/-- The node and the number to which an interrupt was connected. -/
def target (s : Site) (interrupt : Option Handle) : Option (UInt32 × UInt32) :=
  interrupt.bind fun h => match s.dpa.calls[h]? with
    | some (.connectInterrupt _ nodeId interruptId) => some (nodeId, interruptId)
    | _ => none

/-- The connection to an interrupt is made, if it is needed. -/
lemma connectRemoteInterrupt_ok {needed : Bool} {sd : Option Handle} {id : UInt32}
    {save : Option Handle → Prog Unit}
    (hrun : connectRemoteInterrupt needed sd id save s = .ok (.ok, t)) :
    (needed = true ∧ save (some s.dpa.handle)
        { s with dpa := s.dpa.call (.connectInterrupt sd s.host.ep.peerAddr.nodeId id) }
      = .ok ((), t))
      ∨ (needed = false ∧ save none s = .ok ((), t)) := by
  simp only [connectRemoteInterrupt, get_bind, lib_bind, ite_run] at hrun
  split_ifs at hrun with hneeded hconnect
  case pos => exact absurd (Prod.mk.inj (Except.ok.inj hrun)).1 hconnect
  case neg =>
      obtain ⟨_, s₁, hsave, hrun⟩ := run_bind_ok hrun
      obtain ⟨-, rfl⟩ := Prod.mk.inj (Except.ok.inj hrun)
      exact .inl ⟨hneeded, hsave⟩
  case neg =>
      obtain ⟨_, s₁, hsave, hrun⟩ := run_bind_ok hrun
      obtain ⟨-, rfl⟩ := Prod.mk.inj (Except.ok.inj hrun)
      exact .inr ⟨Bool.eq_false_iff.2 hneeded, hsave⟩

lemma target_handle {sd : Option Handle} {nodeId id : UInt32}
    (ht : t.dpa = s.dpa.call (.connectInterrupt sd nodeId id)) :
    t.target (some s.dpa.handle) = some (nodeId, id) := by
  rw [target, Option.bind_some, ht, Dpa.getElem?_handle]

lemma target_mono (hcalls : s.dpa.calls <+: t.dpa.calls) {interrupt : Option Handle}
    {addr : UInt32 × UInt32} (h : s.target interrupt = some addr) :
    t.target interrupt = some addr := by
  obtain ⟨l, hl⟩ := hcalls
  cases interrupt with
  | none => exact absurd h nofun
  | some i =>
      have hlt : i < s.dpa.calls.length := by
        by_contra hle
        rw [target, Option.bind_some, List.getElem?_eq_none (Nat.not_lt.1 hle)] at h
        exact absurd h nofun
      rwa [target, Option.bind_some, ← hl, List.getElem?_append_left hlt]

/-- An interrupt that is connected if it is needed. -/
def Aimed (s t : Site) (needed : Bool) (id : UInt32) (interrupt : Option Handle) : Prop :=
  (needed = true ∧ t.target interrupt = some (s.host.ep.peerAddr.nodeId, id))
    ∨ (needed = false ∧ interrupt = none)

lemma Aimed.mono {needed : Bool} {id : UInt32} {interrupt : Option Handle}
    (h : Aimed s t needed id interrupt) (hcalls : t.dpa.calls <+: u.dpa.calls) :
    Aimed s u needed id interrupt :=
  h.imp (And.imp_right (target_mono hcalls)) fun h => h

/-- The interrupt of the peer for what is sent. -/
lemma connectRemoteInterrupt_send {needed : Bool} {sd : Option Handle} {id : UInt32}
    (hrun : connectRemoteInterrupt needed sd id (fun h =>
      setSendInfo fun info => { info with remoteInterrupt := h }) s = .ok (.ok, t)) :
    Aimed s t needed id t.host.ep.sendInfo.remoteInterrupt
      ∧ t.host.ep.sendInfo
        = { s.host.ep.sendInfo with remoteInterrupt := t.host.ep.sendInfo.remoteInterrupt }
      ∧ t.host.ep.recvInfo = s.host.ep.recvInfo ∧ reservation.rel s t
      ∧ t.host.ep.peerAddr = s.host.ep.peerAddr := by
  rcases connectRemoteInterrupt_ok hrun with ⟨hneeded, hsave⟩ | ⟨hneeded, hsave⟩
  · obtain ⟨-, rfl⟩ := Prod.mk.inj (Except.ok.inj hsave)
    exact ⟨.inl ⟨hneeded, target_handle rfl⟩, rfl, rfl, rfl, rfl⟩
  · obtain ⟨-, rfl⟩ := Prod.mk.inj (Except.ok.inj hsave)
    exact ⟨.inr ⟨hneeded, rfl⟩, rfl, rfl, rfl, rfl⟩

/-- The one for what is received. -/
lemma connectRemoteInterrupt_recv {needed : Bool} {sd : Option Handle} {id : UInt32}
    (hrun : connectRemoteInterrupt needed sd id (fun h =>
      setRecvInfo fun info => { info with remoteInterrupt := h }) s = .ok (.ok, t)) :
    Aimed s t needed id t.host.ep.recvInfo.remoteInterrupt
      ∧ t.host.ep.recvInfo
        = { s.host.ep.recvInfo with remoteInterrupt := t.host.ep.recvInfo.remoteInterrupt }
      ∧ t.host.ep.sendInfo = s.host.ep.sendInfo ∧ reservation.rel s t
      ∧ s.dpa.calls <+: t.dpa.calls := by
  rcases connectRemoteInterrupt_ok hrun with ⟨hneeded, hsave⟩ | ⟨hneeded, hsave⟩
  · obtain ⟨-, rfl⟩ := Prod.mk.inj (Except.ok.inj hsave)
    exact ⟨.inl ⟨hneeded, target_handle rfl⟩, rfl, rfl, rfl, List.prefix_append _ _⟩
  · obtain ⟨-, rfl⟩ := Prod.mk.inj (Except.ok.inj hsave)
    exact ⟨.inr ⟨hneeded, rfl⟩, rfl, rfl, rfl, List.prefix_rfl⟩

/-- The connection is to the interrupt of the description, if it has one. -/
lemma Aimed.map {has : Bool} {id nodeId : UInt32} {interrupt : Option Handle}
    (h : Aimed s t (true && has) id interrupt) (hnode : s.host.ep.peerAddr.nodeId = nodeId) :
    t.target interrupt = (if has then some id else none).map (nodeId, ·) := by
  rcases h with ⟨hneeded, htarget⟩ | ⟨hneeded, rfl⟩
  · rw [Bool.true_and] at hneeded
    rw [htarget, hneeded, hnode]
    rfl
  · rw [Bool.true_and] at hneeded
    rw [hneeded]
    rfl

/-- What the endpoint is connected to, after `connect_msg` with a description. -/
structure Connects (s t : Site) (data : SegmentData) : Prop where
  remoteBuffer : t.host.ep.sendInfo.remoteBuffer
    = some ⟨s.host.ep.peerAddr.nodeId, data.segmentId, data.offset⟩
  size : t.host.ep.sendInfo.size = data.size - 8
  remoteStatus : t.host.ep.recvInfo.remoteStatus
    = some ⟨s.host.ep.peerAddr.nodeId, data.segmentId, data.offset⟩
  recv : hasAny s.host.ep.caps fiSend = true → t.target t.host.ep.sendInfo.remoteInterrupt
    = data.recvInterrupt.map (s.host.ep.peerAddr.nodeId, ·)
  send : hasAny s.host.ep.caps fiRecv = true → t.target t.host.ep.recvInfo.remoteInterrupt
    = data.sendInterrupt.map (s.host.ep.peerAddr.nodeId, ·)
  reserved : reservation.rel s t
  connected : t.host.ep.connected = true

/-- The first part of `connect_msg`. -/
lemma connectSegment_connects (hcarries : s.host.ep.carriesMessages = true)
    (hrun : connectSegment data s = .ok (.ok, t)) :
    t.host.ep.sendInfo.remoteBuffer
        = some ⟨s.host.ep.peerAddr.nodeId, data.segmentId, data.offset⟩
      ∧ t.host.ep.sendInfo.size = data.size - 8
      ∧ t.host.ep.recvInfo.remoteStatus
        = some ⟨s.host.ep.peerAddr.nodeId, data.segmentId, data.offset⟩
      ∧ reservation.rel s t := by
  simp only [connectSegment, get_bind, lib_bind, ite_run, setSendInfo_bind] at hrun
  split_ifs at hrun with hcaps hconnect hmap
  case pos =>
      rw [Bool.not_eq_true'] at hcaps
      exact absurd (hcaps.symm.trans hcarries) Bool.false_ne_true
  case pos => exact absurd (Prod.mk.inj (Except.ok.inj hrun)).1 hconnect
  case pos => exact absurd (Prod.mk.inj (Except.ok.inj hrun)).1 hmap
  case neg =>
      obtain ⟨sequence, s₁, hsequence, hrun⟩ := run_bind_ok hrun
      have hreserved : reservation.rel _ s₁ :=
        keeps_createStartSequence (fun _ _ => rfl) _ _ _ _ hsequence
      obtain ⟨-, rfl⟩ := Prod.mk.inj (Except.ok.inj hrun)
      exact ⟨rfl, rfl, rfl, hreserved⟩

/-- `connect_msg` connects to what the description says. -/
lemma connectMsg_connects (hcarries : s.host.ep.carriesMessages = true)
    (hrun : connectMsg data s = .ok (.ok, t)) : Connects s t data := by
  obtain ⟨err₁, s₁, hsegment, hrun⟩ := run_bind_ok hrun
  have hfixed : fixed.rel s s₁ :=
    keeps_connectSegment (ignores_fixed _) (ignores_fixed _) _ _ _ _ hsegment
  rw [ite_run] at hrun
  split at hrun
  case isTrue hne => exact absurd (Prod.mk.inj (Except.ok.inj hrun)).1 hne
  case isFalse hok =>
      obtain rfl := not_not.1 hok
      obtain ⟨hbuffer, hsize, hstatus, hreserved⟩ := connectSegment_connects hcarries hsegment
      rw [get_bind] at hrun
      obtain ⟨err₂, s₂, hrecv, hrun⟩ := run_bind_ok hrun
      rw [ite_run] at hrun
      split at hrun
      case isTrue hne => exact absurd (Prod.mk.inj (Except.ok.inj hrun)).1 hne
      case isFalse hok =>
          obtain rfl := not_not.1 hok
          obtain ⟨err₃, s₃, hsend, hrun⟩ := run_bind_ok hrun
          rw [ite_run] at hrun
          split at hrun
          case isTrue hne => exact absurd (Prod.mk.inj (Except.ok.inj hrun)).1 hne
          case isFalse hok =>
              obtain rfl := not_not.1 hok
              obtain ⟨_, s₄, hadd, hrun⟩ := run_bind_ok hrun
              obtain ⟨eqs, rfl⟩ := run_eqAdd_ok hadd
              rw [setEp_bind] at hrun
              obtain ⟨haimed₂, hinfo₂, hrecvInfo₂, hreserved₂, hpeer₂⟩ :=
                connectRemoteInterrupt_send hrecv
              obtain ⟨haimed₃, hinfo₃, hsendInfo₃, hreserved₃, hcalls⟩ :=
                connectRemoteInterrupt_recv hsend
              have ht : t = { s₃ with eqs, host.ep := { s₃.host.ep with connected := true } } := by
                rw [ite_run] at hrun
                split at hrun
                · exact (Prod.mk.inj (Except.ok.inj hrun)).2.symm
                · exact (Prod.mk.inj (Except.ok.inj hrun)).2.symm
              have hnode₁ := fixed_nodeId hfixed
              subst ht
              constructor <;> dsimp only
              case remoteBuffer => rw [hsendInfo₃, hinfo₂, hbuffer]
              case size => rw [hsendInfo₃, hinfo₂, hsize]
              case remoteStatus => rw [hinfo₃, hrecvInfo₂, hstatus]
              case recv =>
                  intro hcaps
                  rw [← fixed_caps hfixed] at hcaps
                  rw [hcaps] at haimed₂
                  rw [hsendInfo₃]
                  exact (haimed₂.mono hcalls).map hnode₁
              case send =>
                  intro hcaps
                  rw [← fixed_caps hfixed] at hcaps
                  rw [hcaps] at haimed₃
                  exact haimed₃.map ((congrArg (·.nodeId) hpeer₂).trans hnode₁)
              case reserved =>
                  have h := reservation.trans _ _ _ hreserved
                    (reservation.trans _ _ _ hreserved₂ hreserved₃)
                  exact h

/-! ### Messages -/

lemma Describes.congr (h : Describes s t data data') (hhost : u.host = t.host)
    (hdpa : u.dpa = t.dpa) :
    Describes s u data data' := by
  have hrecv : u.recvNumber = t.recvNumber := by rw [recvNumber, hhost, hdpa, ← recvNumber]
  have hsend : u.sendNumber = t.sendNumber := by rw [sendNumber, hhost, hdpa, ← sendNumber]
  constructor
  case place => exact h.place
  case size => exact h.size
  case buffer => rw [hhost, h.buffer]
  case status => rw [hhost, h.status]
  case recv => rw [hrecv, h.recv]
  case noRecv => rw [hrecv]; exact h.noRecv
  case hasSend => exact h.hasSend
  case sendId => rw [hsend, h.sendId]
  case noSend => rw [hsend]; exact h.noSend

/-- A message that goes out is the description of a buffer. -/
lemma allocSendBuffer_describes (harranged : s.Arranged)
    (hcarries : s.host.ep.carriesMessages = true) (hrecv : s.host.ep.recvInfo.interrupt = none)
    (hsend : s.host.ep.sendInfo.interrupt = none)
    (hrun : allocSendBuffer data s = .ok ((err, data'), t)) (hmessage : t.sent ≠ s.sent) :
    Describes s t data data' ∧ ∃ peer, t.sent = s.sent ++ [(peer, data')] := by
  obtain ⟨⟨err₁, data₁⟩, s₁, halloc, hrun⟩ := run_bind_ok hrun
  have hunsent : s₁.sent = s.sent := keeps_allocMsgBuffer (F := unsent) (ignores_unsent nofun)
    (ignores_unsent nofun) (ignores_unsent nofun) (ignores_unsent nofun) (ignores_unsent nofun)
    _ _ _ _ halloc
  simp only [ite_run] at hrun
  split at hrun
  case isTrue =>
      obtain ⟨-, rfl⟩ := Prod.mk.inj (Except.ok.inj hrun)
      exact absurd hunsent hmessage
  case isFalse hok =>
      obtain rfl := not_not.1 hok
      obtain ⟨err₂, s₂, hgoes, hrun⟩ := run_bind_ok hrun
      obtain ⟨heq, rfl⟩ := Prod.mk.inj (Except.ok.inj hrun)
      obtain ⟨-, rfl⟩ := Prod.mk.inj heq
      have hreserved : reservation.rel s₁ s₂ :=
        keeps_sendConnectData (fun _ _ => rfl) (fun _ _ => rfl) _ _ _ _ hgoes
      refine ⟨(allocMsgBuffer_describes harranged hcarries hrecv hsend
          halloc).reservation hreserved,
        ?_⟩
      rcases (sendConnectData_sent hgoes).2 with hsent | hsent
      · exact absurd (hsent.trans hunsent) hmessage
      · exact ⟨_, hsent.trans (by rw [hunsent])⟩

/-- An endpoint that ends connected has connected to what `alloc_send_buffer` has left of the
description, if it had no buffer, and to the description itself if it had one. -/
lemma finishConnection_connects (hcarries : s.host.ep.carriesMessages = true) {timeout r : ℤ}
    (hrun : finishConnection data timeout s = .ok (r, t))
    (hconnected : t.host.ep.connected = true) :
    ∃ data' s₁, Prepares data data' s s₁ ∧ Connects s₁ t data' ∧ fixed.rel s s₁
      ∧ t.sent = s₁.sent := by
  obtain ⟨data', s₁, hprepares, hrest⟩ := run_finishConnection_ok hrun
  have hfixed : fixed.rel s s₁ := hprepares.rel (keeps_allocSendBuffer (ignores_fixed _)
    (ignores_fixed _) (ignores_fixed _) (ignores_fixed _) (ignores_fixed _) (ignores_fixed _) _)
  have hunsent := keeps_connectOrDisconnect (F := unsent) (ignores_unsent nofun)
    (ignores_unsent nofun) (ignores_unsent nofun) (ignores_unsent nofun) data' timeout _ _ _ hrest
  replace hunsent : t.sent = s₁.sent := hunsent
  refine ⟨data', s₁, hprepares, ?_, hfixed, hunsent⟩
  obtain ⟨err, s₂, hconnect, ⟨-, _, hdisconnect⟩ | ⟨rfl, rfl⟩⟩ := run_connectOrDisconnect_ok hrest
  · rw [disconnectMsg_connected _ _ _ hdisconnect] at hconnected
    exact absurd hconnected nofun
  · have hcarries₁ : s₁.host.ep.carriesMessages = true :=
      (fixed_carriesMessages hfixed).trans hcarries
    exact { connectMsg_connects (by exact hcarries₁) hconnect with }

/-! ### Two endpoints -/

/-- The endpoint of `s` sends into the buffer that the one of `t` has reserved, publishes its cursor
where that one reads it, and is connected to the interrupts that were created for the buffer. -/
structure Joined (s t : Site) : Prop where
  ring : s.host.ep.sendInfo.remoteBuffer = t.host.ep.recvInfo.buffer.map (·.base)
  size : some s.host.ep.sendInfo.size = t.host.ep.recvInfo.buffer.map (·.size - 8)
  cursor : s.host.ep.recvInfo.remoteStatus = t.host.ep.sendInfo.remoteStatus
  recv : hasAny s.host.ep.caps fiSend = true → s.target s.host.ep.sendInfo.remoteInterrupt
    = t.recvNumber.map (t.env.localNodeId, ·)
  send : hasAny s.host.ep.caps fiRecv = true → s.target s.host.ep.recvInfo.remoteInterrupt
    = t.sendNumber.map (t.env.localNodeId, ·)

/-- The numbers on a node are kept apart. -/
lemma number_injective (nodeId : UInt32) : Function.Injective fun n : UInt32 => (nodeId, n) :=
  fun _ _ h => (Prod.mk.inj h).2

/-- An endpoint that has connected to a description is joined to the one that has reserved a buffer
if the description tells of that. -/
lemma Connects.joined_iff {s' t' : Site} {described written : SegmentData} (h : Connects s t data)
    (h' : Describes s' t' written described)
    (hnode : s.host.ep.peerAddr.nodeId = s'.env.localNodeId)
    (henv : t'.env.localNodeId = s'.env.localNodeId) (hcaps : t.host.ep.caps = s.host.ep.caps) :
    Joined t t' ↔ (data.segmentId, data.offset) = (described.segmentId, described.offset)
      ∧ data.size = described.size
      ∧ (hasAny s.host.ep.caps fiSend = true → data.recvInterrupt = t'.recvNumber)
      ∧ (hasAny s.host.ep.caps fiRecv = true → data.sendInterrupt = t'.sendNumber) := by
  have hmap (a b : Option UInt32) : a.map (s.host.ep.peerAddr.nodeId, ·)
      = b.map (t'.env.localNodeId, ·) ↔ a = b := by
    rw [henv, ← hnode]
    exact (Option.map_injective (number_injective _)).eq_iff
  have hplace : (some ⟨s.host.ep.peerAddr.nodeId, data.segmentId, data.offset⟩ : Option BufferLoc)
        = some ⟨s'.env.localNodeId, described.segmentId, described.offset⟩
      ↔ (data.segmentId, data.offset) = (described.segmentId, described.offset) := by
    rw [hnode, Option.some.injEq, BufferLoc.mk.injEq, Prod.mk.injEq]
    exact and_iff_right rfl
  constructor
  · intro hj
    refine ⟨hplace.1 ?_, ?_, fun hsend => ?_, fun hrecv => ?_⟩
    · rw [← h.remoteStatus, hj.cursor, h'.status]
    · have hsize := hj.size
      rw [h.size, h'.buffer, Option.map_some, Option.some.injEq] at hsize
      exact (UInt64.sub_left_inj 8).1 hsize
    · rw [← hmap, ← h.recv hsend]
      exact hj.recv (hcaps ▸ hsend)
    · rw [← hmap, ← h.send hrecv]
      exact hj.send (hcaps ▸ hrecv)
  · rintro ⟨hsame, hsize, hrecv, hsend⟩
    constructor
    case ring => rw [h.remoteBuffer, h'.buffer, hplace.2 hsame]; rfl
    case size => rw [h.size, h'.buffer, hsize]; rfl
    case cursor => rw [h.remoteStatus, h'.status, hplace.2 hsame]
    case recv =>
        intro hcap
        rw [hcaps] at hcap
        rw [h.recv hcap, hmap]
        exact hrecv hcap
    case send =>
        intro hcap
        rw [hcaps] at hcap
        rw [h.send hcap, hmap]
        exact hsend hcap

/-- The segments are those that some history of calls has left. -/
def AfterHistory (s : Site) : Prop :=
  ∃ (p : Process) (events : List Recycling.Event) (w : Recycling), (∀ i, ¬ p.site.Created i)
    ∧ Stepper.run Recycling.step ⟨p, ∅, ∅⟩ events = some w
    ∧ s.env = w.process.site.env ∧ s.localSegmentsInfo = w.process.site.localSegmentsInfo
    ∧ s.currentSegmentId = w.process.site.currentSegmentId

lemma Arranged.congr (h : s.Arranged) (henv : t.env = s.env)
    (htable : t.localSegmentsInfo = s.localSegmentsInfo) : t.Arranged := by
  intro i hi j
  rw [bufferAt, htable, buffersOf_congr henv]
  exact h i (by rwa [Created, htable] at hi) j

lemma AfterHistory.arranged (h : s.AfterHistory) : s.Arranged := by
  obtain ⟨p, events, w, hempty, hrun, henv, htable, -⟩ := h
  exact (Recycling.arranged_run hempty hrun).congr henv htable

/-- A read after the wait has succeeded. -/
lemma progressEpEq_finishes (hok : s.dpa.reply.err = .ok) {timeout r : ℤ}
    (hrun : progressEpEq timeout s = .ok (r, t)) :
    finishConnection s.dpa.reply.data timeout { s with dpa := s.dpa.call (.waitForDataInterrupt
      s.host.ep.connectInterrupt (if 0 ≤ timeout then some timeout else none)) } = .ok (r, t) := by
  rw [progressEpEq, get_bind] at hrun
  obtain ⟨⟨err, data⟩, s₁, hwait, hrun⟩ := run_bind_ok hrun
  obtain ⟨hreply, rfl⟩ := Prod.mk.inj (run_progressEq_ok hwait)
  obtain ⟨rfl, rfl⟩ := Prod.mk.inj hreply
  simpa only [ite_run, hok, reduceCtorEq, if_false] using hrun

/-- A message that was delivered is the one that was sent. -/
lemma sentSince_single {peer addr : DpaAddr} (hsent : t.sent = s.sent ++ [(peer, data)])
    (hmem : (addr, data') ∈ s.sentSince t) : data' = data := by
  rw [sentSince, hsent, List.drop_left, List.mem_singleton] at hmem
  exact (Prod.mk.inj hmem).2

lemma sent_ne {addr : DpaAddr} (hmem : (addr, data) ∈ s.sentSince t) : t.sent ≠ s.sent := by
  intro heq
  rw [sentSince, heq, List.drop_length] at hmem
  exact List.not_mem_nil hmem

end Site

/-! ### Handshakes -/

namespace Handshake

open Site

variable (h : Handshake)

/-- The answer is the description of the buffer of the passive endpoint. -/
lemma answer_describes (hpassive : h.passive.Arranged)
    (hcarries : h.endpoint.carriesMessages = true) :
    Describes h.accepting h.accepted (.ofNode h.passive.env.localNodeId)
      h.requested.dpa.reply.data := by
  obtain ⟨s₁, s₂, data, hcreate, halloc, hhost, hdpa, hsent⟩ := run_dpaAccept_ok h.accepts
  obtain ⟨hunsent, -, hrecvInfo, hsendInfo⟩ := createConnectInterrupt_ep hcreate
  have hsurroundings : surroundings.rel h.accepting s₁ :=
    keeps_createConnectInterrupt (ignores_surroundings (by simp))
    (ignores_surroundings (by simp)) (ignores_surroundings (by simp)) _ _ _ _ hcreate
  have hfixed : fixed.rel h.accepting s₁ := keeps_createConnectInterrupt (ignores_fixed _)
    (ignores_fixed _) (ignores_fixed _) _ _ _ _ hcreate
  have harranged : h.accepting.Arranged := by
    obtain ⟨timeout, r, hasks⟩ := h.asks
    have hlistening := (keeps_dpaListen (ignores_arranged nofun) (ignores_arranged nofun)
      (ignores_arranged nofun) (ignores_arranged nofun) _ _ _ h.listens).2 hpassive
    exact (keeps_progressPepEq (ignores_arranged nofun) (ignores_arranged nofun) _ _ _ _ hasks).2
      hlistening
  have harranged₁ : s₁.Arranged := (keeps_createConnectInterrupt (ignores_arranged nofun)
    (ignores_arranged nofun) (ignores_arranged nofun) _ _ _ _ hcreate).2 harranged
  obtain ⟨-, addr, hmem⟩ := h.answer
  have hsince : (addr, h.requested.dpa.reply.data) ∈ s₁.sentSince s₂ := by
    rw [sentSince, ← hsent, hunsent]
    exact hmem
  obtain ⟨hdescribes, peer, hmessage⟩ := allocSendBuffer_describes harranged₁
    ((fixed_carriesMessages hfixed).trans hcarries) (by rw [hrecvInfo]; exact h.new.recvInterrupt)
    (by rw [hsendInfo]; exact h.new.sendInterrupt) halloc (sent_ne hsince)
  rw [sentSince_single hmessage hsince, ← h.accepting_fixed.1]
  exact (hdescribes.surroundings hsurroundings).congr hhost hdpa

/-- The confirmation is the description of the buffer of the active endpoint, written over the
answer, and the active endpoint connects to it. -/
lemma confirmation_describes (hactive : h.active.Arranged)
    (hcarries : h.active.host.ep.carriesMessages = true)
    (hconnected : h.confirmed.host.ep.connected = true) :
    Describes h.active h.confirmed h.requested.dpa.reply.data h.accepted.dpa.reply.data
      ∧ ∃ s, fixed.rel h.active s ∧ Connects s h.confirmed h.accepted.dpa.reply.data := by
  obtain ⟨timeout, r, hconfirms⟩ := h.confirms
  obtain ⟨-, -, hrecvInfo, hsendInfo⟩ := dpaConnect_sent h.connects
  have hfresh : h.requested.host.ep.recvInfo.buffer = none := hrecvInfo ▸ h.fresh.buffer
  have hnoRecv : h.requested.host.ep.recvInfo.interrupt = none :=
    hrecvInfo ▸ h.fresh.recvInterrupt
  have hnoSend : h.requested.host.ep.sendInfo.interrupt = none :=
    hsendInfo ▸ h.fresh.sendInterrupt
  have hsurroundings : surroundings.rel h.active h.requested :=
    keeps_dpaConnect (ignores_surroundings (by simp)) (ignores_surroundings (by simp))
      (ignores_surroundings (by simp)) (ignores_surroundings (by simp))
      (ignores_surroundings (by simp))
    _ _ _ h.connects
  have harranged : h.requested.Arranged := (keeps_dpaConnect (ignores_arranged nofun)
    (ignores_arranged nofun) (ignores_arranged nofun) (ignores_arranged nofun)
    (ignores_arranged nofun) _ _ _ h.connects).2 hactive
  have hcaps := fixed_carriesMessages h.fixed_requested
  obtain ⟨data, s₁, halloc, hconnects, hfixed, hunsent⟩ :=
    finishConnection_connects (by exact hcaps.trans hcarries)
    (progressEpEq_finishes h.answer.1 hconfirms)
      hconnected
  obtain ⟨-, addr, hmem⟩ := h.confirmation
  have hsince : (addr, h.accepted.dpa.reply.data) ∈ h.requested.sentSince s₁ := by
    rw [sentSince, ← hunsent]
    exact hmem
  rcases halloc with ⟨-, err, halloc⟩ | ⟨hsome, -⟩
  · obtain ⟨hdescribes, peer, hmessage⟩ := allocSendBuffer_describes
      (by exact harranged.congr rfl rfl) (by exact hcaps.trans hcarries) (by exact hnoRecv)
      (by exact hnoSend) halloc (by exact sent_ne hsince)
    obtain rfl := sentSince_single hmessage hsince
    refine ⟨(hdescribes.surroundings ?_).reservation hconnects.reserved, s₁,
      fixed.trans _ _ _ h.fixed_requested hfixed, hconnects⟩
    exact surroundings.trans _ _ _ hsurroundings rfl
  · exact absurd hfresh hsome

/-- The passive endpoint connects to the confirmation. -/
lemma finish_connects (hcarries : h.endpoint.carriesMessages = true)
    (hbuffer : h.accepted.host.ep.recvInfo.buffer ≠ none)
    (hconnected : h.finished.host.ep.connected = true) :
    reservation.rel h.accepted h.finished
      ∧ ∃ s, fixed.rel h.accepting s ∧ Connects s h.finished h.accepted.dpa.reply.data := by
  obtain ⟨timeout, r, hfinishes⟩ := h.finishes
  obtain ⟨data, s₁, halloc, hconnects, hfixed, -⟩ :=
    finishConnection_connects (by exact (fixed_carriesMessages h.fixed_accepted).trans hcarries)
      (progressEpEq_finishes h.confirmation.1 hfinishes) hconnected
  rcases halloc with ⟨hnone, -⟩ | ⟨-, rfl, rfl⟩
  · exact absurd hnone hbuffer
  · exact ⟨reservation.trans _ _ _ rfl hconnects.reserved, _,
      fixed.trans _ _ _ h.fixed_accepted hfixed, hconnects⟩

/-- What the active endpoint announces of an interrupt for its sends.  The description it has
written over is that of the passive one. -/
def announced : Option UInt32 :=
  if hasAny h.active.host.ep.caps fiSend then
    if h.active.sendNeeded then
      some (h.confirmed.sendNumber.getD (h.finished.sendNumber.getD 0))
    else none
  else if hasAny h.endpoint.caps fiSend && h.accepting.sendNeeded then
    some (h.finished.sendNumber.getD 0)
  else none

/-- On both nodes the next buffer to be reserved lies in the same place and has the same size, and
the library gives the same numbers to the interrupts. -/
structure Coincides : Prop where
  place : h.active.nextPlace = h.accepting.nextPlace
  size : h.active.env.alignedBufferSize = h.passive.env.alignedBufferSize
  recv : hasAny h.active.host.ep.caps fiSend = true → hasAny h.active.host.ep.caps fiRecv = true →
    h.confirmed.recvNumber = h.finished.recvNumber
  send : hasAny h.active.host.ep.caps fiRecv = true → h.announced = h.finished.sendNumber
  recvBack : hasAny h.endpoint.caps fiSend = true → hasAny h.active.host.ep.caps fiRecv = false →
    h.finished.recvNumber = none
  sendBack : hasAny h.endpoint.caps fiRecv = true → h.announced = h.confirmed.sendNumber

lemma recvInterrupt_eq {active accepting confirmed finished : Site}
    {node answer confirmation : SegmentData}
    (h : Describes active confirmed answer confirmation)
    (h' : Describes accepting finished node answer)
    (hnode : node.recvInterrupt = none) :
    confirmation.recvInterrupt = if hasAny active.host.ep.caps fiRecv then confirmed.recvNumber
      else finished.recvNumber := by
  rw [h.recv]
  refine ite_congr rfl (fun _ => rfl) fun _ => ?_
  rw [h'.recv]
  split
  case isTrue => rfl
  case isFalse hcaps => rw [hnode, h'.noRecv (Bool.eq_false_iff.2 hcaps)]

lemma sendInterrupt_eq {active accepting confirmed finished : Site}
    {node answer confirmation : SegmentData}
    (h : Describes active confirmed answer confirmation)
    (h' : Describes accepting finished node answer)
    (hnode : node.hasSendInterrupt = false) (hzero : node.sendInterruptId = 0) :
    confirmation.sendInterrupt = if hasAny active.host.ep.caps fiSend then
        if active.sendNeeded then
          some (confirmed.sendNumber.getD (finished.sendNumber.getD 0))
        else none
      else if hasAny accepting.host.ep.caps fiSend && accepting.sendNeeded then
        some (finished.sendNumber.getD 0)
      else none := by
  rw [SegmentData.sendInterrupt, h.hasSend, h.sendId, h'.hasSend, h'.sendId, hnode, hzero]
  cases hcaps : hasAny active.host.ep.caps fiSend with
  | true => rfl
  | false =>
      have hnone : confirmed.sendNumber = none := h.noSend (by rw [hcaps, Bool.false_and])
      rw [hnone]
      cases hasAny accepting.host.ep.caps fiSend <;> rfl

/-- Each endpoint is joined to the other. -/
def Agreement : Prop := Joined h.confirmed h.finished ∧ Joined h.finished h.confirmed

/-- Two endpoints that carry messages and end connected agree exactly if what they reserve
coincides. -/
theorem agreement (hactive : h.active.AfterHistory) (hpassive : h.passive.AfterHistory)
    (hcarries : h.active.host.ep.carriesMessages = true)
    (hcarries' : h.endpoint.carriesMessages = true)
    (hconfirmed : h.confirmed.host.ep.connected = true)
    (hfinished : h.finished.host.ep.connected = true) : h.Agreement ↔ h.Coincides := by
  have hanswer := h.answer_describes hpassive.arranged hcarries'
  obtain ⟨hconfirmation, s, hfixed, hconnects⟩ :=
    h.confirmation_describes hactive.arranged hcarries hconfirmed
  have hbuffer : h.accepted.host.ep.recvInfo.buffer ≠ none := by
    rw [hanswer.buffer]
    exact nofun
  obtain ⟨hreserved, s', hfixed', hconnects'⟩ := h.finish_connects hcarries' hbuffer hfinished
  replace hanswer := hanswer.reservation hreserved
  have hends : fixed.rel h.active h.confirmed := by
    obtain ⟨timeout, r, hconfirms⟩ := h.confirms
    exact fixed.trans _ _ _ h.fixed_requested
      (keeps_progressEpEq (.of_ignores fun _ _ _ => ignores_fixed _) _ _ _ _ hconfirms)
  have hends' : fixed.rel h.accepting h.finished := by
    obtain ⟨timeout, r, hfinishes⟩ := h.finishes
    exact fixed.trans _ _ _ h.fixed_accepted
      (keeps_progressEpEq (.of_ignores fun _ _ _ => ignores_fixed _) _ _ _ _ hfinishes)
  have hjoined := hconnects.joined_iff hanswer
    (by rw [fixed_nodeId hfixed, h.peer, h.accepting_fixed.1]) (by rw [fixed_env hends'])
    ((fixed_caps hends).trans (fixed_caps hfixed).symm)
  have hjoined' := hconnects'.joined_iff hconfirmation
    (by rw [fixed_nodeId hfixed']; exact congrArg (·.nodeId) h.endpoint_peer)
    (by rw [fixed_env hends]) ((fixed_caps hends').trans (fixed_caps hfixed').symm)
  rw [fixed_caps hfixed] at hjoined
  rw [fixed_caps hfixed'] at hjoined'
  have hrecv := recvInterrupt_eq hconfirmation hanswer rfl
  have hsend : _ = h.announced := sendInterrupt_eq hconfirmation hanswer rfl rfl
  have hplace : (h.accepted.dpa.reply.data.segmentId, h.accepted.dpa.reply.data.offset)
        = (h.requested.dpa.reply.data.segmentId, h.requested.dpa.reply.data.offset)
      ↔ h.active.nextPlace = h.accepting.nextPlace := by
    rw [hconfirmation.place, hanswer.place, Option.some.injEq]
  have hsize : h.accepted.dpa.reply.data.size = h.requested.dpa.reply.data.size
      ↔ h.active.env.alignedBufferSize = h.passive.env.alignedBufferSize := by
    rw [hconfirmation.size, hanswer.size, h.accepting_fixed.1]
  have hnoRecv := hconfirmation.noRecv
  rw [Agreement, hjoined, hjoined', hplace, hsize, hrecv, hsend]
  constructor
  · rintro ⟨⟨hplace, hsize, hrecv, hsend⟩, -, -, hrecv', hsend'⟩
    refine ⟨hplace, hsize, fun hS hR => ?_, hsend, fun hS hR => ?_, hsend'⟩
    · rw [← hrecv hS, if_pos hR]
    · rw [← hnoRecv hR, ← hrecv' hS, hR]
      rfl
  · intro hc
    refine ⟨⟨hc.place, hc.size, fun hS => ?_, hc.send⟩, rfl, rfl, fun hS => ?_, hc.sendBack⟩
    · split
      case isTrue hR => exact hc.recv hS hR
      case isFalse => rfl
    · split
      case isTrue => rfl
      case isFalse hR =>
          rw [Bool.not_eq_true] at hR
          rw [hc.recvBack hS hR, hnoRecv hR]

lemma afterHistory_empty {p : Process} (hempty : ∀ i, ¬ p.site.Created i) : p.site.AfterHistory :=
  ⟨p, [], ⟨p, ∅, ∅⟩, hempty, rfl, rfl, rfl, rfl⟩

/-- Two endpoints that reserve the first buffers of their nodes agree. -/
theorem agreement_messages : messages.Agreement := by
  refine (agreement messages ?_ ?_ (by decide) (by decide) (by decide +kernel)
    (by decide +kernel)).2 ?_
  · exact afterHistory_empty (p := ⟨messages.active, fun _ => messages.endpoint, fun _ =>
      messages.active.pep⟩) fun i hi => hi rfl
  · exact afterHistory_empty (p := ⟨messages.passive, fun _ => messages.endpoint, fun _ =>
      messages.passive.pep⟩) fun i hi => hi rfl
  · constructor <;> decide +kernel

/-- The node 2, on which the endpoints are opened for node 1. -/
def serverProcess (confirmation : SegmentData) : Process where
  site := { server confirmation with
    dpa := { replies := fun i => ⟨.ok, 7, if i = 16 then .ofNode 1 else confirmation, 64⟩
             calls := [] } }
  eps k := (Site.opened k fiMsg ⟨1, 0⟩).ep
  peps _ := (server confirmation).pep

/-- An endpoint of the node has reserved the first buffer. -/
def later (confirmation : SegmentData) : Recycling :=
  (Stepper.run Recycling.step ⟨serverProcess confirmation, ∅, ∅⟩ [.dpaAccept 0]).getD
    ⟨serverProcess confirmation, ∅, ∅⟩

/-- The same node, where another endpoint is to listen. -/
def laterServer (confirmation : SegmentData) : Site := (later confirmation).process.withPep 0

/-- It has read the request. -/
def laterAccepting (confirmation : SegmentData) : Site :=
  let asked := next (progressPepEq 5) (next dpaListen (laterServer confirmation))
  { asked with host := { asked.host with ep := (Site.opened 1 fiMsg ⟨1, 0⟩).ep } }

/-- The second buffer of node 2. -/
def secondBuffer : SegmentData := { firstBuffer with offset := 64 }

/-- Two endpoints connect, of which the passive one is the second on its node. -/
def secondConnection : Handshake where
  active := client fiMsg secondBuffer
  passive := laterServer firstBuffer
  listening := next dpaListen (laterServer firstBuffer)
  requested := next dpaConnect (client fiMsg secondBuffer)
  asked := next (progressPepEq 5) (next dpaListen (laterServer firstBuffer))
  endpoint := (Site.opened 1 fiMsg ⟨1, 0⟩).ep
  accepted := next dpaAccept (laterAccepting firstBuffer)
  confirmed := next (progressEpEq 5) (next dpaConnect (client fiMsg secondBuffer))
  finished := next (progressEpEq 5) (next dpaAccept (laterAccepting firstBuffer))
  fresh := ⟨rfl, rfl, rfl, rfl, rfl⟩
  peer := rfl
  listens := eq_next (by decide +kernel)
  connects := eq_next (by decide +kernel)
  request := ⟨by decide +kernel, ⟨2, 9⟩, by decide +kernel⟩
  asks := ⟨5, 5, eq_next (by decide +kernel)⟩
  new := ⟨rfl, rfl, rfl, rfl, rfl⟩
  event := ⟨0, ⟨.fiConnreq, 1, some ⟨1, 0⟩⟩, by decide +kernel, by decide +kernel, rfl⟩
  accepts := eq_next (s := laterAccepting firstBuffer) (by decide +kernel)
  answer := ⟨by decide +kernel, ⟨1, 0⟩, by decide +kernel⟩
  confirms := ⟨5, 5, eq_next (by decide +kernel)⟩
  confirmation := ⟨by decide +kernel, ⟨2, 0⟩, by decide +kernel⟩
  finishes := ⟨5, 5, eq_next (by decide +kernel)⟩

/-- The active endpoint sends into the first buffer of node 2, which is not that of its peer. -/
theorem no_agreement : secondConnection.active.AfterHistory ∧ secondConnection.passive.AfterHistory
    ∧ secondConnection.active.host.ep.carriesMessages = true
    ∧ secondConnection.endpoint.carriesMessages = true
    ∧ secondConnection.confirmed.host.ep.connected = true
    ∧ secondConnection.finished.host.ep.connected = true ∧ ¬ secondConnection.Agreement := by
  refine ⟨?_, ?_, by decide, by decide, by decide +kernel, by decide +kernel, fun hagrees => ?_⟩
  · exact afterHistory_empty (p := ⟨secondConnection.active, fun _ => secondConnection.endpoint,
      fun _ => secondConnection.active.pep⟩) fun i hi => hi rfl
  · have hsome : (Stepper.run Recycling.step ⟨serverProcess firstBuffer, ∅, ∅⟩
        [.dpaAccept 0]).isSome := by decide +kernel
    obtain ⟨w, hrun⟩ := Option.isSome_iff_exists.1 hsome
    have hlater : later firstBuffer = w := by rw [later, hrun, Option.getD_some]
    refine ⟨serverProcess firstBuffer, [.dpaAccept 0], w, fun i hi => hi rfl, hrun, ?_, ?_, ?_⟩
    all_goals rw [← hlater]; rfl
  · have hring : secondConnection.confirmed.host.ep.sendInfo.remoteBuffer = some ⟨2, 100, 0⟩
        ∧ secondConnection.finished.host.ep.recvInfo.buffer.map (·.base) = some ⟨2, 100, 64⟩ := by
      decide +kernel
    have hsame := hagrees.1.ring
    rw [hring.1, hring.2] at hsame
    exact absurd hsame (by simp)

end Handshake

end DpaProvider
