import DpaProvider.Cm.Numbers

/-!
The handshake of two nodes.

A `Handshake` is a run of the calls that connect two endpoints, one on the active and one on the
passive node: the passive one listens, the active one sends its request, the passive one accepts,
and both finish with a read of their event queues.  Every wait is answered with a message that the
other node has sent to the interrupt.

Three messages are exchanged, if both endpoints carry messages.  Otherwise the passive one takes
itself for the active one, as it has no buffer, and sends a fourth: `three_messages`.
-/

namespace DpaProvider

open Effect

/-- The endpoint has message queues to connect. -/
def Endpoint.carriesMessages (ep : Endpoint) : Bool := hasAny ep.caps (fiRecv ||| fiSend)

namespace Site

variable {s t : Site} {data : SegmentData} {err : DpaError}

/-! ### A library that grants every call -/

def GrantsAll (s : Site) : Prop := ∀ n, (s.dpa.replies n).err = .ok

/-- What does not change while an endpoint connects. -/
def fixed : Frame Site := .same fun s =>
  (s.env, s.uninit, s.dpa.replies, s.host.ep.caps, s.host.ep.peerAddr.nodeId)

lemma ignores_fixed (part : Part) : Ignores fixed part := by
  intro s x
  cases part <;> rfl

lemma GrantsAll.fixed (h : s.GrantsAll) (hfixed : fixed.rel s t) : t.GrantsAll := by
  intro n
  have hreplies : t.dpa.replies = s.dpa.replies := congrArg (·.2.2.1) hfixed
  rw [hreplies]
  exact h n

lemma fixed_caps (h : fixed.rel s t) : t.host.ep.caps = s.host.ep.caps := congrArg (·.2.2.2.1) h

lemma fixed_carriesMessages (h : fixed.rel s t) :
    t.host.ep.carriesMessages = s.host.ep.carriesMessages :=
  congrArg (hasAny · (fiRecv ||| fiSend)) (fixed_caps h)

lemma fixed_uninit (h : fixed.rel s t) : t.uninit = s.uninit := congrArg (·.2.1) h

lemma fixed_env (h : fixed.rel s t) : t.env = s.env := congrArg Prod.fst h

lemma fixed_nodeId (h : fixed.rel s t) : t.host.ep.peerAddr.nodeId = s.host.ep.peerAddr.nodeId :=
  congrArg (·.2.2.2.2) h

/-- The number of the interrupt of the peer. -/
def connectId : Frame Site := .same fun s => s.host.ep.peerAddr.connectId

lemma ignores_connectId {part : Part} (h : part ≠ .address) : Ignores connectId part := by
  intro s x
  cases part with
  | address => exact absurd rfl h
  | _ => rfl

lemma sendConnectData_granted (h : s.GrantsAll) (hrun : sendConnectData data s = .ok (err, t)) :
    err = .ok ∧ t.host = s.host ∧ t.sent = s.sent ++ [(s.host.ep.peerAddr, data)] := by
  simp only [sendConnectData, get_bind, lib_bind, ite_run, modify_bind, Dpa.reply,
    Dpa.replies_call, h _, ne_eq, not_true_eq_false, if_true, if_false] at hrun
  obtain ⟨rfl, rfl⟩ := Prod.mk.inj (Except.ok.inj hrun)
  exact ⟨rfl, rfl, rfl⟩

/-! ### Buffers -/

/-- A buffer is reserved for an endpoint that carries messages, if there is one. -/
lemma allocMsgBuffer_carries {data' : SegmentData}
    (hrun : allocMsgBuffer data s = .ok ((err, data'), t)) :
    (err = .ok → s.host.ep.carriesMessages = true → t.host.ep.recvInfo.buffer ≠ none)
      ∧ (s.host.ep.carriesMessages = false → err = .ok ∧ t = s) := by
  cases allocMsgBuffer_run hrun with
  | plain hno =>
      exact ⟨fun _ hcarries => absurd (hno.symm.trans hcarries) nofun, fun _ => ⟨rfl, rfl⟩⟩
  | noBuffer hcarries => exact ⟨nofun, fun hno => absurd (hno.symm.trans hcarries) nofun⟩
  | recvFails hcarries _ _ herr | sendFails hcarries _ _ _ herr =>
      exact ⟨fun hok => absurd hok herr, fun hno => absurd (hno.symm.trans hcarries) nofun⟩
  | reserved hcarries _ _ _ hreserve =>
      refine ⟨fun _ _ => ?_, fun hno => absurd (hno.symm.trans hcarries) nofun⟩
      obtain ⟨-, rfl⟩ := Prod.mk.inj (Except.ok.inj hreserve)
      exact nofun

/-- The message with the description goes out, unless there is no buffer to describe. -/
lemma allocSendBuffer_granted (h : s.GrantsAll) {data' : SegmentData}
    (hrun : allocSendBuffer data s = .ok ((err, data'), t)) :
    (err = .ok ∧ (∃ data', data'.acceptIntId = data.acceptIntId
        ∧ t.sent = s.sent ++ [(s.host.ep.peerAddr, data')])
      ∧ (s.host.ep.carriesMessages = true → t.host.ep.recvInfo.buffer ≠ none)
      ∧ (s.host.ep.carriesMessages = false → t.host = s.host))
    ∨ (err ≠ .ok ∧ s.host.ep.carriesMessages = true ∧ t.sent = s.sent) := by
  obtain ⟨⟨err₁, data₁⟩, s₁, halloc, hrun⟩ := run_bind_ok hrun
  obtain ⟨hbuffer, hnone⟩ := allocMsgBuffer_carries halloc
  have hfixed : fixed.rel s s₁ := keeps_allocMsgBuffer (ignores_fixed _) (ignores_fixed _)
    (ignores_fixed _) (ignores_fixed _) (ignores_fixed _) _ _ _ _ halloc
  have hunsent : s₁.sent = s.sent := keeps_allocMsgBuffer (F := unsent) (ignores_unsent nofun)
    (ignores_unsent nofun) (ignores_unsent nofun) (ignores_unsent nofun) (ignores_unsent nofun)
    _ _ _ _ halloc
  have hid := keeps_allocMsgBuffer (F := connectId) (ignores_connectId nofun)
    (ignores_connectId nofun) (ignores_connectId nofun) (ignores_connectId nofun)
    (ignores_connectId nofun) _ _ _ _ halloc
  simp only [ite_run] at hrun
  split at hrun
  case isTrue hne =>
      obtain ⟨heq, rfl⟩ := Prod.mk.inj (Except.ok.inj hrun)
      obtain ⟨rfl, -⟩ := Prod.mk.inj heq
      refine .inr ⟨hne, ?_, hunsent⟩
      by_contra hcarries
      exact hne (hnone (Bool.eq_false_iff.2 hcarries)).1
  case isFalse herr =>
      rw [ne_eq, not_not] at herr
      obtain ⟨err₂, s₂, hsend, hrun⟩ := run_bind_ok hrun
      obtain ⟨heq, rfl⟩ := Prod.mk.inj (Except.ok.inj hrun)
      obtain ⟨rfl, -⟩ := Prod.mk.inj heq
      obtain ⟨hok, hhost, hsent⟩ := sendConnectData_granted (h.fixed hfixed) hsend
      have hpeer : s₁.host.ep.peerAddr = s.host.ep.peerAddr := by
        rw [DpaAddr.mk.injEq]
        exact ⟨fixed_nodeId hfixed, hid⟩
      refine .inl ⟨hok, ⟨data₁, allocMsgBuffer_acceptIntId halloc, ?_⟩, fun hcarries => ?_,
        fun hcarries => ?_⟩
      · rw [hsent, hunsent, hpeer]
      · rw [hhost]
        exact hbuffer herr hcarries
      · rw [hhost, (hnone hcarries).2]

/-! ### The end of a handshake -/

lemma connectSegment_granted (h : s.GrantsAll) (hrun : connectSegment data s = .ok (err, t)) :
    err = .ok := by
  simp only [connectSegment, get_bind, lib_bind, ite_run, setSendInfo_bind] at hrun
  split_ifs at hrun with hcaps hconnect hmap
  · exact (Prod.mk.inj (Except.ok.inj hrun)).1.symm
  · exact absurd (h _) hconnect
  · exact absurd (h _) hmap
  · obtain ⟨sequence, s₁, -, hrun⟩ := run_bind_ok hrun
    exact (Prod.mk.inj (Except.ok.inj hrun)).1.symm

lemma connectRemoteInterrupt_granted (h : s.GrantsAll) {needed : Bool} {sd : Option Handle}
    {id : UInt32}
    {save : Option Handle → Prog Unit}
    (hrun : connectRemoteInterrupt needed sd id save s = .ok (err, t)) : err = .ok := by
  simp only [connectRemoteInterrupt, get_bind, lib_bind, ite_run] at hrun
  split_ifs at hrun with hneeded hconnect
  · exact absurd (h _) hconnect
  all_goals
    obtain ⟨_, s₁, -, hrun⟩ := run_bind_ok hrun
    exact (Prod.mk.inj (Except.ok.inj hrun)).1.symm

/-- The endpoint is connected; the status was never set where there was nothing to connect. -/
lemma connectMsg_granted (h : s.GrantsAll) (hrun : connectMsg data s = .ok (err, t)) :
    t.host.ep.connected = true
      ∧ err = if s.host.ep.carriesMessages then .ok else s.uninit := by
  obtain ⟨err₁, s₁, hsegment, hrun⟩ := run_bind_ok hrun
  have hfixed₁ : fixed.rel s s₁ :=
    keeps_connectSegment (ignores_fixed _) (ignores_fixed _) _ _ _ _ hsegment
  rw [connectSegment_granted h hsegment, ite_run, if_neg (not_not.2 rfl), get_bind] at hrun
  obtain ⟨err₂, s₂, hsend, hrun⟩ := run_bind_ok hrun
  have hfixed₂ : fixed.rel s₁ s₂ := keeps_connectRemoteInterrupt (ignores_fixed _) _ _ _
    (fun _ => keeps_setSendInfo (ignores_fixed _) _) _ _ _ hsend
  rw [connectRemoteInterrupt_granted (h.fixed hfixed₁) hsend, ite_run,
    if_neg (not_not.2 rfl)] at hrun
  replace hfixed₂ := fixed.trans _ _ _ hfixed₁ hfixed₂
  obtain ⟨err₃, s₃, hrecv, hrun⟩ := run_bind_ok hrun
  have hfixed₃ : fixed.rel s₂ s₃ := by
    refine keeps_connectRemoteInterrupt (ignores_fixed _) _ _ _ (fun _ => ?_) _ _ _ hrecv
    exact keeps_setRecvInfo (ignores_fixed _) fun _ => rfl
  rw [connectRemoteInterrupt_granted (h.fixed hfixed₂) hrecv, ite_run,
    if_neg (not_not.2 rfl)] at hrun
  replace hfixed₃ := fixed.trans _ _ _ hfixed₂ hfixed₃
  obtain ⟨_, s₄, hadd, hrun⟩ := run_bind_ok hrun
  have hfixed₄ := fixed.trans _ _ _ hfixed₃ (keeps_eqAdd (ignores_fixed _) _ _ _ _ _ hadd)
  rw [setEp_bind, ite_run, get_bind, fixed_caps hfixed₁] at hrun
  split at hrun
  case isTrue hcaps =>
      obtain ⟨rfl, rfl⟩ := Prod.mk.inj (Except.ok.inj hrun)
      exact ⟨rfl, (if_pos hcaps).symm⟩
  case isFalse hcaps =>
      obtain ⟨rfl, rfl⟩ := Prod.mk.inj (Except.ok.inj hrun)
      exact ⟨rfl, (fixed_uninit hfixed₄).trans (if_neg hcaps).symm⟩

lemma disconnectMsg_connected : Ends (fun _ t => t.host.ep.connected = false) disconnectMsg := by
  refine ends_bind fun s => ends_bind fun _ => ends_bind fun _ => ends_bind fun _ =>
    ends_bind fun _ => ends_bind fun _ => ?_
  intro s a t hrun
  obtain ⟨-, rfl⟩ := Prod.mk.inj (Except.ok.inj hrun)
  rfl

/-- What `progress_ep_eq` has done after a wait that has succeeded. -/
lemma finishConnection_granted (h : s.GrantsAll) {timeout r : ℤ}
    (hrun : finishConnection data timeout s = .ok (r, t)) :
    (t.host.ep.connected = true ↔ s.host.ep.carriesMessages = true ∨ s.uninit = .ok)
      ∧ (s.host.ep.recvInfo.buffer ≠ none → t.sent = s.sent)
      ∧ (t.sent ≠ s.sent → ∃ data', t.sent
          = s.sent ++ [(⟨s.host.ep.peerAddr.nodeId, data.acceptIntId⟩, data')])
      ∧ (s.host.ep.recvInfo.buffer = none → s.host.ep.carriesMessages = false →
          t.sent ≠ s.sent) := by
  obtain ⟨data', s₁, hprepares, hrest⟩ := run_finishConnection_ok hrun
  have hfixed : fixed.rel s s₁ := hprepares.rel (keeps_allocSendBuffer (ignores_fixed _)
    (ignores_fixed _) (ignores_fixed _) (ignores_fixed _) (ignores_fixed _) (ignores_fixed _) _)
  have hunsent := keeps_connectOrDisconnect (F := unsent) (ignores_unsent nofun)
    (ignores_unsent nofun) (ignores_unsent nofun) (ignores_unsent nofun) data' timeout _ _ _ hrest
  replace hunsent : t.sent = s₁.sent := hunsent
  refine ⟨?_, ?_⟩
  · obtain ⟨err, s₂, hconnect, hend⟩ := run_connectOrDisconnect_ok hrest
    have hgrants : GrantsAll { s₁ with
        dpa := s₁.dpa.call (.removeDataInterrupt s.host.ep.connectInterrupt) } := h.fixed hfixed
    obtain ⟨hconnected, herr⟩ := connectMsg_granted hgrants hconnect
    dsimp only at herr
    rw [fixed_carriesMessages hfixed, fixed_uninit hfixed] at herr
    rcases hend with ⟨hne, _, hdisconnect⟩ | ⟨hok, rfl⟩
    · rw [disconnectMsg_connected _ _ _ hdisconnect]
      rw [herr] at hne
      refine iff_of_false nofun ?_
      rintro (hcarries | huninit)
      · exact hne (if_pos hcarries)
      · exact hne ((ite_congr rfl (fun _ => rfl) fun _ => huninit).trans (ite_self _))
    · rw [herr] at hok
      refine iff_of_true hconnected ?_
      split at hok
      case isTrue hcarries => exact .inl hcarries
      case isFalse => exact .inr hok
  · rw [hunsent]
    rcases hprepares with ⟨hnone, err, halloc⟩ | ⟨hsome, -, rfl⟩
    · have hgrants : GrantsAll { s with host.ep.peerAddr.connectId := data.acceptIntId } := h
      rcases allocSendBuffer_granted hgrants halloc with
        ⟨-, ⟨data'', -, hsent⟩, -, -⟩ | ⟨-, hcarries, hsent⟩
      · refine ⟨absurd hnone, fun _ => ⟨data'', hsent⟩, fun _ _ => ?_⟩
        rw [hsent]
        simp
      · refine ⟨absurd hnone, absurd hsent, fun _ hnot => ?_⟩
        exact absurd (hnot.symm.trans hcarries) nofun
    · exact ⟨fun _ => rfl, absurd rfl, fun hnone => absurd hnone hsome⟩

/-! ### Interrupts for connection messages -/

/-- An interrupt with the number was created and not removed since. -/
def Holds (s : Site) (interruptId : UInt32) : Prop :=
  ∃ sd h, s.dpa.Current h (.createDataInterrupt sd interruptId) (.removeDataInterrupt (some h))

/-- It stays while only other calls are made. -/
lemma Holds.unnumbered {interruptId : UInt32} (h : s.Holds interruptId)
    (hcalls : unnumbered.rel s t)
    (hfixed : fixed.rel s t) : t.Holds interruptId := by
  obtain ⟨sd, handle, hok, hmade, hkept⟩ := h
  obtain ⟨l, hl, hcalls⟩ := hcalls
  have hreplies : t.dpa.replies = s.dpa.replies := congrArg (·.2.2.1) hfixed
  obtain ⟨hlt, -⟩ := List.getElem?_eq_some_iff.1 hmade
  refine ⟨sd, handle, by rw [hreplies, hok], ?_, fun i hi heq => ?_⟩
  · rw [hcalls, List.getElem?_append_left hlt, hmade]
  · rw [hcalls, List.getElem?_append] at heq
    split at heq
    · exact hkept i hi heq
    · exact absurd (hl _ (List.mem_of_getElem? heq)) nofun

/-- An address with the number of an interrupt that a node holds. -/
def Awaits (s : Site) (addr : DpaAddr) : Prop :=
  addr.nodeId = s.env.localNodeId ∧ s.Holds addr.connectId

lemma createConnectInterrupt_holds (h : s.GrantsAll) {interruptId : UInt32}
    (hrun : createConnectInterrupt interruptId s = .ok (err, t)) : t.Holds interruptId := by
  simp only [createConnectInterrupt, lib_bind, ite_run, setEp_bind] at hrun
  split_ifs at hrun with hopen hcreate
  · exact absurd (h _) hopen
  · exact absurd (h _) hcreate
  · obtain ⟨rfl, rfl⟩ := Prod.mk.inj (Except.ok.inj hrun)
    exact ⟨_, _, Dpa.current_handle _ (h _)⟩

lemma dpaListen_granted (h : s.GrantsAll) (hrun : dpaListen s = .ok (.success, t)) :
    t.Holds s.pep.interruptId ∧ t.sent = s.sent ∧ t.host = s.host := by
  rw [dpaListen, get_bind] at hrun
  cases heq : s.pep.eq with
  | none =>
      simp only [heq] at hrun
      exact absurd (Prod.mk.inj (Except.ok.inj hrun)).1 nofun
  | some q =>
      have hok : ∀ n, (s.dpa.replies n).err = .ok := h
      simp only [heq, lib_bind, ite_run, setPep_bind, Dpa.reply, Dpa.replies_call, hok, ne_eq,
        reduceCtorEq, not_true_eq_false, if_false] at hrun
      obtain ⟨_, s₁, hset, hrun⟩ := run_bind_ok hrun
      obtain ⟨-, rfl⟩ := Prod.mk.inj (Except.ok.inj hrun)
      obtain ⟨-, rfl⟩ := Prod.mk.inj (Except.ok.inj hset)
      exact ⟨⟨_, _, Dpa.current_handle _ (hok _)⟩, rfl, rfl⟩

/-! ### Calls that succeed -/

/-- A `dpa_connect` that succeeds has created an interrupt and sent a request, both without an
error. -/
lemma run_dpaConnect_ok (hrun : dpaConnect s = .ok (.success, t)) :
    ∃ s₁ s₂, createConnectInterrupt 0 s = .ok (.ok, s₁)
      ∧ sendConnectData (.ofNode s.env.localNodeId) s₁ = .ok (.ok, s₂)
      ∧ t.host = s₂.host ∧ t.dpa = s₂.dpa ∧ t.sent = s₂.sent := by
  rw [dpaConnect, get_bind] at hrun
  cases heq : s.host.ep.eq with
  | none =>
      simp only [heq] at hrun
      cases (Prod.mk.inj (Except.ok.inj hrun)).1
  | some q =>
      simp only [heq] at hrun
      obtain ⟨err, s₂, hconnect, hrun⟩ := run_bind_ok hrun
      rw [ite_run] at hrun
      split at hrun
      case isTrue => cases (Prod.mk.inj (Except.ok.inj hrun)).1
      case isFalse hok =>
          obtain rfl := not_not.1 hok
          obtain ⟨_, s₃, hset, hrun⟩ := run_bind_ok hrun
          obtain ⟨-, rfl⟩ := Prod.mk.inj (Except.ok.inj hrun)
          obtain ⟨-, rfl⟩ := Prod.mk.inj (Except.ok.inj hset)
          rw [ctrlConnectMsg, get_bind] at hconnect
          obtain ⟨err₁, s₁, hcreate, hsend⟩ := run_bind_ok hconnect
          rw [ite_run] at hsend
          split at hsend
          case isTrue hne => exact absurd (Prod.mk.inj (Except.ok.inj hsend)).1 hne
          case isFalse hok =>
              obtain rfl := not_not.1 hok
              exact ⟨s₁, s₂, hcreate, hsend, rfl, rfl, rfl⟩

/-- A `dpa_accept` that succeeds has created an interrupt, and sent a description. -/
lemma run_dpaAccept_ok (hrun : dpaAccept s = .ok (.success, t)) :
    ∃ s₁ s₂ data, createConnectInterrupt s.host.ep.connectData.acceptIntId s = .ok (.ok, s₁)
      ∧ allocSendBuffer (.ofNode s.env.localNodeId) s₁ = .ok ((.ok, data), s₂)
      ∧ t.host = s₂.host ∧ t.dpa = s₂.dpa ∧ t.sent = s₂.sent := by
  obtain ⟨err, s₂, haccept, hrun⟩ := run_bind_ok hrun
  rw [ite_run] at hrun
  split at hrun
  case isTrue => exact absurd (Prod.mk.inj (Except.ok.inj hrun)).1 nofun
  case isFalse hok =>
      obtain rfl := not_not.1 hok
      rw [sendMsgAcceptData, get_bind] at haccept
      obtain ⟨err₁, s₁, hcreate, haccept⟩ := run_bind_ok haccept
      rw [ite_run] at haccept
      split at haccept
      case isTrue hne => exact absurd (Prod.mk.inj (Except.ok.inj haccept)).1 hne
      case isFalse hok =>
          obtain rfl := not_not.1 hok
          obtain ⟨⟨err₂, data⟩, s₃, halloc, haccept⟩ := run_bind_ok haccept
          obtain ⟨rfl, rfl⟩ := Prod.mk.inj (Except.ok.inj haccept)
          refine ⟨s₁, s₃, data, hcreate, halloc, ?_⟩
          rw [get_bind] at hrun
          cases heq : s₃.host.ep.eq with
          | none =>
              simp only [heq] at hrun
              exact absurd hrun throw_ne_ok
          | some q =>
              simp only [heq] at hrun
              obtain ⟨_, s₄, hset, hrun⟩ := run_bind_ok hrun
              obtain ⟨-, rfl⟩ := Prod.mk.inj (Except.ok.inj hrun)
              obtain ⟨-, rfl⟩ := Prod.mk.inj (Except.ok.inj hset)
              exact ⟨rfl, rfl, rfl⟩

/-- What the creation of its interrupt leaves of an endpoint. -/
lemma createConnectInterrupt_ep {interruptId : UInt32}
    (hrun : createConnectInterrupt interruptId s = .ok (err, t)) : t.sent = s.sent
      ∧ t.host.ep.peerAddr = s.host.ep.peerAddr ∧ t.host.ep.recvInfo = s.host.ep.recvInfo
      ∧ t.host.ep.sendInfo = s.host.ep.sendInfo := by
  simp only [createConnectInterrupt, lib_bind, ite_run, setEp_bind] at hrun
  split_ifs at hrun
  all_goals
    obtain ⟨-, rfl⟩ := Prod.mk.inj (Except.ok.inj hrun)
    exact ⟨rfl, rfl, rfl, rfl⟩

/-- The request goes to the peer, if it goes out at all. -/
lemma dpaConnect_sent (hrun : dpaConnect s = .ok (.success, t)) :
    (t.sent = s.sent
        ∨ t.sent = s.sent ++ [(s.host.ep.peerAddr, .ofNode s.env.localNodeId)])
      ∧ t.host.ep.peerAddr = s.host.ep.peerAddr ∧ t.host.ep.recvInfo = s.host.ep.recvInfo
      ∧ t.host.ep.sendInfo = s.host.ep.sendInfo := by
  obtain ⟨s₁, s₂, hcreate, hsend, hhost, -, hsent⟩ := run_dpaConnect_ok hrun
  obtain ⟨hunsent, hpeer, hrecvInfo, hsendInfo⟩ := createConnectInterrupt_ep hcreate
  obtain ⟨hhost₂, hsent₂⟩ := sendConnectData_sent hsend
  rw [hsent, hhost, hhost₂, hpeer, hrecvInfo, hsendInfo, ← hunsent, ← hpeer]
  exact ⟨hsent₂, rfl, rfl, rfl⟩

/-- With a library that grants every call, an endpoint that connects waits on its interrupt. -/
lemma dpaConnect_holds (h : s.GrantsAll) (hrun : dpaConnect s = .ok (.success, t)) : t.Holds 0 := by
  obtain ⟨s₁, s₂, hcreate, hsend, -, hdpa, -⟩ := run_dpaConnect_ok hrun
  obtain ⟨sd, handle, hcurrent⟩ := (createConnectInterrupt_holds h hcreate).unnumbered
    (keeps_sendConnectData (ignores_unnumbered nofun) (ignores_unnumbered nofun) _ _ _ _ hsend)
    (keeps_sendConnectData (ignores_fixed _) (ignores_fixed _) _ _ _ _ hsend)
  exact ⟨sd, handle, hdpa ▸ hcurrent⟩

/-- The answer goes to the peer, with a buffer reserved if there is a use for it. -/
lemma dpaAccept_granted (h : s.GrantsAll) (hrun : dpaAccept s = .ok (.success, t)) :
    (∃ data, data.acceptIntId = 0 ∧ t.sent = s.sent ++ [(s.host.ep.peerAddr, data)])
      ∧ t.Holds s.host.ep.connectData.acceptIntId
      ∧ (s.host.ep.carriesMessages = true → t.host.ep.recvInfo.buffer ≠ none)
      ∧ (s.host.ep.carriesMessages = false →
          t.host.ep.recvInfo.buffer = s.host.ep.recvInfo.buffer) := by
  obtain ⟨s₁, s₂, data, hcreate, halloc, hhost, hdpa, hsent⟩ := run_dpaAccept_ok hrun
  obtain ⟨hunsent, hpeer, hrecvInfo, -⟩ := createConnectInterrupt_ep hcreate
  have hfixed : fixed.rel s s₁ := keeps_createConnectInterrupt (ignores_fixed _)
    (ignores_fixed _) (ignores_fixed _) _ _ _ _ hcreate
  have hfixed₂ : fixed.rel s₁ s₂ := keeps_allocSendBuffer (ignores_fixed _) (ignores_fixed _)
    (ignores_fixed _) (ignores_fixed _) (ignores_fixed _) (ignores_fixed _) _ _ _ _ halloc
  have hcalls := keeps_allocSendBuffer (F := unnumbered) (ignores_unnumbered nofun)
    (ignores_unnumbered nofun) (ignores_unnumbered nofun) (ignores_unnumbered nofun)
    (ignores_unnumbered nofun) (ignores_unnumbered nofun) _ _ _ _ halloc
  obtain ⟨sd, handle, hcurrent⟩ :=
    (createConnectInterrupt_holds h hcreate).unnumbered hcalls hfixed₂
  rcases allocSendBuffer_granted (h.fixed hfixed) halloc with
    ⟨-, ⟨data', hzero, hmessage⟩, hreserved, hsame⟩ | ⟨hne, -⟩
  · refine ⟨⟨data', hzero, ?_⟩, ⟨sd, handle, hdpa ▸ hcurrent⟩, fun hcarries => ?_,
      fun hcarries => ?_⟩
    · rw [hsent, hmessage, hunsent, hpeer]
    · rw [hhost]
      exact hreserved ((fixed_carriesMessages hfixed).trans hcarries)
    · rw [hhost, hsame ((fixed_carriesMessages hfixed).trans hcarries), hrecvInfo]
  · exact absurd rfl hne

/-- The event of a request that has arrived tells the address for the answer. -/
lemma progressPepEq_granted (hok : s.dpa.reply.err = .ok) {q : ℕ} (heq : s.pep.eq = some q)
    {timeout r : ℤ} (hrun : progressPepEq timeout s = .ok (r, t)) :
    (t.eqs q).added = (s.eqs q).added ++ [⟨.fiConnreq, s.pep.fid,
        some ⟨s.dpa.reply.data.nodeId, s.dpa.reply.data.acceptIntId⟩⟩]
      ∧ t.sent = s.sent := by
  rw [progressPepEq, get_bind] at hrun
  obtain ⟨⟨err, data⟩, s₁, hwait, hrun⟩ := run_bind_ok hrun
  obtain ⟨hreply, rfl⟩ := Prod.mk.inj (run_progressEq_ok hwait)
  obtain ⟨rfl, rfl⟩ := Prod.mk.inj hreply
  simp only [ite_run, hok, reduceCtorEq, if_false] at hrun
  obtain ⟨_, s₂, hrequest, hrun⟩ := run_bind_ok hrun
  obtain ⟨-, rfl⟩ := Prod.mk.inj (Except.ok.inj hrun)
  simp only [connectionRequest, get_bind, heq, eqAdd] at hrequest
  obtain ⟨-, rfl⟩ := Prod.mk.inj (Except.ok.inj hrequest)
  exact ⟨by simp, rfl⟩

lemma progressEpEq_granted (h : s.GrantsAll) {timeout r : ℤ}
    (hrun : progressEpEq timeout s = .ok (r, t)) :
    (t.host.ep.connected = true ↔ s.host.ep.carriesMessages = true ∨ s.uninit = .ok)
      ∧ (s.host.ep.recvInfo.buffer ≠ none → t.sent = s.sent)
      ∧ (t.sent ≠ s.sent → ∃ data', t.sent
          = s.sent ++ [(⟨s.host.ep.peerAddr.nodeId, s.dpa.reply.data.acceptIntId⟩, data')])
      ∧ (s.host.ep.recvInfo.buffer = none → s.host.ep.carriesMessages = false →
          t.sent ≠ s.sent) := by
  rw [progressEpEq, get_bind] at hrun
  obtain ⟨⟨err, data⟩, s₁, hwait, hrun⟩ := run_bind_ok hrun
  obtain ⟨hreply, rfl⟩ := Prod.mk.inj (run_progressEq_ok hwait)
  obtain ⟨rfl, rfl⟩ := Prod.mk.inj hreply
  have hok : s.dpa.reply.err = .ok := h _
  simp only [ite_run, hok, reduceCtorEq, if_false] at hrun
  have hgrants : GrantsAll { s with dpa := s.dpa.call (.waitForDataInterrupt
    s.host.ep.connectInterrupt
      (if 0 ≤ timeout then some timeout else none)) } := h
  have hfinish := finishConnection_granted hgrants hrun
  exact hfinish

end Site

/-! ### Handshakes -/

/-- An endpoint as it was opened, apart from what was bound and posted to it since. -/
structure Endpoint.Fresh (ep : Endpoint) : Prop where
  buffer : ep.recvInfo.buffer = none
  recvInterrupt : ep.recvInfo.interrupt = none
  sendInterrupt : ep.sendInfo.interrupt = none
  connectData : ep.connectData = .ofNode 0
  connected : ep.connected = false

lemma fresh_dpaEpOpen {fid : ℕ} {caps : UInt64} {destAddr : DpaAddr}
    {autoProgress lockNeeded : Bool}
    {entries : ℕ → MsgQueueEntry} {ep : Endpoint}
    (h : dpaEpOpen fid caps destAddr autoProgress lockNeeded entries = .ok ep) : ep.Fresh := by
  rw [dpaEpOpen] at h
  split at h
  · exact absurd h nofun
  · obtain rfl := Except.ok.inj h
    exact ⟨rfl, rfl, rfl, rfl, rfl⟩

open Site

/-- The messages sent by the calls that lead from `s` to `t`. -/
def Site.sentSince (s t : Site) : List (DpaAddr × SegmentData) := t.sent.drop s.sent.length

/-- A wait of `receiver` succeeds, with one of the messages that the other node has sent it. -/
def Site.Delivered (sender sender' receiver : Site) : Prop :=
  receiver.dpa.reply.err = .ok
    ∧ ∃ addr, (addr, receiver.dpa.reply.data) ∈ sender.sentSince sender'

/-- A handshake: the states of the active node `active → requested → confirmed` and of the passive
one `passive → listening → asked → accepted → finished`.  A wait succeeds with a message that was
sent, so a node whose buffers are all taken, which sends none, is in no handshake. -/
structure Handshake where
  active : Site
  passive : Site
  listening : Site
  requested : Site
  asked : Site
  endpoint : Endpoint
  accepted : Site
  confirmed : Site
  finished : Site
  fresh : active.host.ep.Fresh
  peer : active.host.ep.peerAddr = ⟨passive.env.localNodeId, passive.pep.interruptId⟩
  listens : dpaListen passive = .ok (.success, listening)
  connects : dpaConnect active = .ok (.success, requested)
  /-- The passive node reads the request, -/
  request : Delivered active requested listening
  asks : ∃ timeout r, progressPepEq timeout listening = .ok (r, asked)
  /-- opens an endpoint for the address in its event -/
  new : endpoint.Fresh
  event : ∃ q e, listening.pep.eq = some q ∧ (asked.eqs q).added = (listening.eqs q).added ++ [e]
    ∧ e.destAddr = some endpoint.peerAddr
  /-- and accepts. -/
  accepts : dpaAccept { asked with host := { asked.host with ep := endpoint } }
    = .ok (.success, accepted)
  answer : Delivered asked accepted requested
  confirms : ∃ timeout r, progressEpEq timeout requested = .ok (r, confirmed)
  confirmation : Delivered requested confirmed accepted
  finishes : ∃ timeout r, progressEpEq timeout accepted = .ok (r, finished)

namespace Handshake

variable (h : Handshake)

/-- Three messages are sent, each to an interrupt on which the other node waits for it, and both
endpoints are connected at the end.  (`disconnectMsg` leaves none connected.) -/
structure Regular : Prop where
  request : ∃ addr data, h.active.sentSince h.requested = [(addr, data)] ∧ h.listening.Awaits addr
  answer : ∃ addr data, h.asked.sentSince h.accepted = [(addr, data)] ∧ h.requested.Awaits addr
  confirmation : ∃ addr data, h.requested.sentSince h.confirmed = [(addr, data)]
    ∧ h.accepted.Awaits addr
  rest : h.passive.sentSince h.asked = [] ∧ h.accepted.sentSince h.finished = []
  active : h.confirmed.host.ep.connected = true
  passive : h.finished.host.ep.connected = true

lemma fixed_requested : fixed.rel h.active h.requested :=
  keeps_dpaConnect (ignores_fixed _) (ignores_fixed _) (ignores_fixed _) (ignores_fixed _)
    (ignores_fixed _) _ _ _ h.connects

lemma fixed_listening : fixed.rel h.passive h.listening :=
  keeps_dpaListen (ignores_fixed _) (ignores_fixed _) (ignores_fixed _) (ignores_fixed _) _ _ _
    h.listens

lemma fixed_asked : fixed.rel h.listening h.asked := by
  obtain ⟨timeout, r, hasks⟩ := h.asks
  exact keeps_progressPepEq (ignores_fixed _) (ignores_fixed _) _ _ _ _ hasks

/-- The passive node with its new endpoint. -/
def accepting : Site := { h.asked with host := { h.asked.host with ep := h.endpoint } }

lemma fixed_accepted : fixed.rel h.accepting h.accepted :=
  keeps_dpaAccept (.of_ignores fun _ _ _ => ignores_fixed _) (ignores_fixed _) _ _ _ h.accepts

/-- The passive node goes on with the node number and the library that it had. -/
lemma accepting_fixed : h.accepting.env = h.passive.env ∧ h.accepting.uninit = h.passive.uninit
    ∧ h.accepting.dpa.replies = h.passive.dpa.replies := by
  have hfixed := fixed.trans _ _ _ h.fixed_listening h.fixed_asked
  have henv : h.asked.env = h.passive.env := fixed_env hfixed
  have huninit : h.asked.uninit = h.passive.uninit := fixed_uninit hfixed
  exact ⟨henv, huninit, congrArg (·.2.2.1) hfixed⟩

/-- The request is the description of the active node. -/
lemma requests : h.active.sentSince h.requested
    = [(h.active.host.ep.peerAddr, .ofNode h.active.env.localNodeId)] := by
  obtain ⟨-, addr, hmem⟩ := h.request
  rcases (dpaConnect_sent h.connects).1 with hsent | hsent
  · rw [sentSince, hsent, List.drop_length] at hmem
    exact absurd hmem List.not_mem_nil
  · rw [sentSince, hsent, List.drop_left]

/-- The endpoint that accepts was opened for the interrupt on which the active one waits. -/
lemma endpoint_peer : h.endpoint.peerAddr = ⟨h.active.env.localNodeId, 0⟩ := by
  obtain ⟨hok, addr, hmem⟩ := h.request
  rw [h.requests, List.mem_singleton] at hmem
  obtain ⟨timeout, r, hasks⟩ := h.asks
  obtain ⟨q, e, heq, hadded, haddr⟩ := h.event
  obtain ⟨hevent, -⟩ := progressPepEq_granted hok heq hasks
  rw [hadded, (Prod.mk.inj hmem).2] at hevent
  rw [List.singleton_inj.1 (List.append_cancel_left hevent)] at haddr
  exact (Option.some.inj haddr).symm

lemma answers (hpassive : h.passive.GrantsAll) :
    (∃ data, data.acceptIntId = 0
        ∧ h.asked.sentSince h.accepted = [(⟨h.active.env.localNodeId, 0⟩, data)])
      ∧ h.accepted.Holds 0
      ∧ (h.endpoint.carriesMessages = true ↔ h.accepted.host.ep.recvInfo.buffer ≠ none) := by
  have hgrants : h.accepting.GrantsAll := by
    intro n
    rw [h.accepting_fixed.2.2]
    exact hpassive n
  obtain ⟨⟨data, hzero, hsent⟩, hholds, hsome, hnone⟩ := dpaAccept_granted hgrants h.accepts
  rw [show h.accepting.host.ep.connectData.acceptIntId = 0 by
    rw [show h.accepting.host.ep.connectData = .ofNode 0 from h.new.connectData]; rfl] at hholds
  refine ⟨⟨data, hzero, ?_⟩, hholds, hsome, fun hbuffer => ?_⟩
  · rw [sentSince, hsent, ← h.endpoint_peer]
    exact List.drop_left
  · by_contra hcarries
    exact hbuffer ((hnone (Bool.eq_false_iff.2 hcarries)).trans h.new.buffer)

/-- The answer tells the number on which the passive endpoint waits. -/
lemma answer_zero (hpassive : h.passive.GrantsAll) :
    h.requested.dpa.reply.data.acceptIntId = 0 := by
  obtain ⟨⟨data, hzero, hsent⟩, -, -⟩ := h.answers hpassive
  obtain ⟨-, addr, hmem⟩ := h.answer
  rw [hsent, List.mem_singleton] at hmem
  rw [(Prod.mk.inj hmem).2, hzero]

/-- A node that has sent a message has sent it to the interrupt of the passive endpoint. -/
lemma confirmed_sent (hactive : h.active.GrantsAll) (hpassive : h.passive.GrantsAll) :
    ∃ data, h.requested.sentSince h.confirmed = [(⟨h.passive.env.localNodeId, 0⟩, data)] := by
  obtain ⟨timeout, r, hconfirms⟩ := h.confirms
  obtain ⟨-, -, hone, -⟩ := progressEpEq_granted (hactive.fixed h.fixed_requested) hconfirms
  obtain ⟨-, addr, hmem⟩ := h.confirmation
  obtain ⟨data, hsent⟩ := hone fun hsame => by
    rw [sentSince, hsame, List.drop_length] at hmem
    exact List.not_mem_nil hmem
  refine ⟨data, ?_⟩
  rw [sentSince, hsent, List.drop_left, h.answer_zero hpassive,
    fixed_nodeId h.fixed_requested, h.peer]

/-- With all library calls granted, a handshake takes three messages and connects both endpoints
exactly if the passive endpoint carries messages, and so does the active one or what its status
held by chance is no error. -/
theorem three_messages (hactive : h.active.GrantsAll) (hpassive : h.passive.GrantsAll) :
    h.Regular ↔ h.endpoint.carriesMessages = true
      ∧ (h.active.host.ep.carriesMessages = true ∨ h.active.uninit = .ok) := by
  obtain ⟨henv, huninit, hreplies⟩ := h.accepting_fixed
  have haccepted := h.fixed_accepted
  have hgrants : h.accepted.GrantsAll := by
    intro n
    rw [show h.accepted.dpa.replies = h.accepting.dpa.replies from congrArg (·.2.2.1) haccepted,
      hreplies]
    exact hpassive n
  obtain ⟨⟨data, -, hanswer⟩, hholds, hbuffer⟩ := h.answers hpassive
  obtain ⟨timeout, r, hconfirms⟩ := h.confirms
  obtain ⟨timeout', r', hfinishes⟩ := h.finishes
  obtain ⟨hactiveEnd, -⟩ := progressEpEq_granted (hactive.fixed h.fixed_requested) hconfirms
  obtain ⟨hpassiveEnd, hquiet, hone, hfourth⟩ := progressEpEq_granted hgrants hfinishes
  rw [fixed_carriesMessages h.fixed_requested, fixed_uninit h.fixed_requested] at hactiveEnd
  have hcaps : h.accepted.host.ep.carriesMessages = h.endpoint.carriesMessages :=
    fixed_carriesMessages haccepted
  constructor
  · intro hregular
    refine ⟨?_, hactiveEnd.1 hregular.active⟩
    -- an endpoint without a buffer answers again
    by_contra hcarries
    have hnone : h.accepted.host.ep.recvInfo.buffer = none :=
      not_not.1 fun hsome => hcarries (hbuffer.2 hsome)
    have hmore := hfourth hnone (hcaps.trans (Bool.eq_false_iff.2 hcarries))
    obtain ⟨data', hsent⟩ := hone hmore
    have hrest := hregular.rest.2
    rw [sentSince, hsent, List.drop_left] at hrest
    exact absurd hrest nofun
  · rintro ⟨hcarries, hends⟩
    have hrequested := dpaConnect_holds hactive h.connects
    obtain ⟨data', hconfirmation⟩ := h.confirmed_sent hactive hpassive
    obtain ⟨hlistening, hlistened, -⟩ := dpaListen_granted hpassive h.listens
    have hasked : h.asked.sent = h.listening.sent := by
      obtain ⟨_, _, hasks⟩ := h.asks
      exact keeps_progressPepEq (F := unsent) (ignores_unsent nofun) (ignores_unsent nofun) _ _ _ _
        hasks
    constructor
    case request =>
        refine ⟨_, _, h.requests, ?_, ?_⟩
        · rw [h.peer, fixed_env h.fixed_listening]
        · rw [h.peer]
          exact hlistening
    case answer => exact ⟨_, data, hanswer, fixed_env h.fixed_requested ▸ rfl, hrequested⟩
    case confirmation =>
        refine ⟨_, data', hconfirmation, ?_, hholds⟩
        rw [fixed_env haccepted, henv]
    case rest =>
        rw [sentSince, sentSince, hasked, hlistened, hquiet (hbuffer.1 hcarries)]
        exact ⟨List.drop_length .., List.drop_length ..⟩
    case active => exact hactiveEnd.2 hends
    case passive => exact hpassiveEnd.2 (.inl (hcaps.trans hcarries))

/-! ### Two nodes that connect -/

/-- The site after a call. -/
def next {α : Type} (m : Prog α) (s : Site) : Site :=
  match m s with
  | .ok (_, t) => t
  | .error _ => s

lemma eq_next {α : Type} {m : Prog α} {s : Site} {a : α}
    (h : (m s).toOption.map Prod.fst = some a) :
    m s = .ok (a, next m s) := by
  obtain ⟨⟨b, t⟩, hrun, rfl⟩ := Option.map_eq_some_iff.1 h
  rw [next, toOption_eq_some hrun]

/-- The node 1, with an endpoint for the interrupt 9 of node 2, reads the answer. -/
def client (caps : UInt64) (answer : SegmentData) : Site :=
  { granted (Site.opened 0 caps ⟨2, 9⟩) with
    dpa := { replies := fun _ => ⟨.ok, 7, answer, 64⟩, calls := [] } }

/-- The node 2 reads a request of node 1, and then a confirmation. -/
def server (confirmation : SegmentData) : Site :=
  { granted (Site.opened 0 fiMsg ⟨1, 0⟩) with
    env := { localNodeId := 2, bufferSize := 64, buffersPerSegment := 2, minMsgSegmid := 100
             maxMsgSegmid := 200 }
    dpa := { replies := fun i => ⟨.ok, 7, if i = 2 then .ofNode 1 else confirmation, 64⟩
             calls := [] } }

/-- The node 2 has read the request and opened an endpoint for the answer. -/
def acceptingNode (confirmation : SegmentData) (caps : UInt64) : Site :=
  let asked := next (progressPepEq 5) (next dpaListen (server confirmation))
  { asked with host := { asked.host with ep := (Site.opened 0 caps ⟨1, 0⟩).ep } }

/-- The first buffer of node 2. -/
def firstBuffer : SegmentData := { SegmentData.ofNode 2 with segmentId := 100, size := 64 }

/-- Two endpoints that carry messages connect. -/
def messages : Handshake where
  active := client fiMsg firstBuffer
  passive := server firstBuffer
  listening := next dpaListen (server firstBuffer)
  requested := next dpaConnect (client fiMsg firstBuffer)
  asked := next (progressPepEq 5) (next dpaListen (server firstBuffer))
  endpoint := (Site.opened 0 fiMsg ⟨1, 0⟩).ep
  accepted := next dpaAccept (acceptingNode firstBuffer fiMsg)
  confirmed := next (progressEpEq 5) (next dpaConnect (client fiMsg firstBuffer))
  finished := next (progressEpEq 5) (next dpaAccept (acceptingNode firstBuffer fiMsg))
  fresh := ⟨rfl, rfl, rfl, rfl, rfl⟩
  peer := rfl
  listens := eq_next (by decide +kernel)
  connects := eq_next (by decide +kernel)
  request := ⟨by decide +kernel, ⟨2, 9⟩, by decide +kernel⟩
  asks := ⟨5, 5, eq_next (by decide +kernel)⟩
  new := ⟨rfl, rfl, rfl, rfl, rfl⟩
  event := ⟨0, ⟨.fiConnreq, 1, some ⟨1, 0⟩⟩, by decide +kernel, by decide +kernel, rfl⟩
  accepts := eq_next (s := acceptingNode firstBuffer fiMsg) (by decide +kernel)
  answer := ⟨by decide +kernel, ⟨1, 0⟩, by decide +kernel⟩
  confirms := ⟨5, 5, eq_next (by decide +kernel)⟩
  confirmation := ⟨by decide +kernel, ⟨2, 0⟩, by decide +kernel⟩
  finishes := ⟨5, 5, eq_next (by decide +kernel)⟩

/-- The handshake of two endpoints that carry messages takes three. -/
theorem three_messages_bothCarry : messages.Regular :=
  (three_messages messages (fun _ => rfl) fun _ => rfl).2 ⟨by decide, .inl (by decide)⟩

/-- Two endpoints for remote memory access connect. -/
def remoteMemory : Handshake where
  active := client fiRma (.ofNode 2)
  passive := server (.ofNode 2)
  listening := next dpaListen (server (.ofNode 2))
  requested := next dpaConnect (client fiRma (.ofNode 2))
  asked := next (progressPepEq 5) (next dpaListen (server (.ofNode 2)))
  endpoint := (Site.opened 0 fiRma ⟨1, 0⟩).ep
  accepted := next dpaAccept (acceptingNode (.ofNode 2) fiRma)
  confirmed := next (progressEpEq 5) (next dpaConnect (client fiRma (.ofNode 2)))
  finished := next (progressEpEq 5) (next dpaAccept (acceptingNode (.ofNode 2) fiRma))
  fresh := ⟨rfl, rfl, rfl, rfl, rfl⟩
  peer := rfl
  listens := eq_next (by decide +kernel)
  connects := eq_next (by decide +kernel)
  request := ⟨by decide +kernel, ⟨2, 9⟩, by decide +kernel⟩
  asks := ⟨5, 5, eq_next (by decide +kernel)⟩
  new := ⟨rfl, rfl, rfl, rfl, rfl⟩
  event := ⟨0, ⟨.fiConnreq, 1, some ⟨1, 0⟩⟩, by decide +kernel, by decide +kernel, rfl⟩
  accepts := eq_next (s := acceptingNode (.ofNode 2) fiRma) (by decide +kernel)
  answer := ⟨by decide +kernel, ⟨1, 0⟩, by decide +kernel⟩
  confirms := ⟨5, 5, eq_next (by decide +kernel)⟩
  confirmation := ⟨by decide +kernel, ⟨2, 0⟩, by decide +kernel⟩
  finishes := ⟨5, 5, eq_next (by decide +kernel)⟩

/-- Without a buffer, the passive endpoint sends a message of its own after the confirmation. -/
theorem fourth_message :
    ∃ h : Handshake, h.active.GrantsAll ∧ h.passive.GrantsAll ∧ ¬ h.Regular := by
  refine ⟨remoteMemory, fun _ => rfl, fun _ => rfl, fun hregular => ?_⟩
  have hfourth : (remoteMemory.accepted.sentSince remoteMemory.finished).length = 1 := by
    decide +kernel
  rw [hregular.rest.2] at hfourth
  exact absurd hfourth (by simp)

end Handshake

end DpaProvider
