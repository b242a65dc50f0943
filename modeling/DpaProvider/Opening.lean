import DpaProvider.Negotiation

/-!
What the answers of `dpa_getinfo` are good for.

* `dpaFabric`, `dpaDomainOpen`, `dpaPassiveEpOpen`, `OpenDomain.dpaEpOpen`: what is opened from an
  answer;
* `negotiated`: an answer given back as hints is answered by itself, and what is opened from it has
  exactly the attributes and the addresses in it, and its capabilities with what they imply;
* `rendezvous`: an endpoint opened from the answer to a node and a service is addressed to the
  interrupt of a passive endpoint exactly if that is what they mean.
-/

namespace DpaProvider

/-! ### What is opened -/

/-- `dpa_fabric`: its return value; the name is compared even if there is none. -/
def dpaFabric (attr : Option FiFabricAttr) : Except Stuck FiErr :=
  match attr with
  | none => .ok .enodata
  | some attr =>
      match attr.name with
      | none => .error .nullPointer
      | some name => .ok (if name ≠ dpaName then .enodata else .success)

/-- The `dpa_fid_domain` as a whole. -/
structure OpenDomain extends DpaFidDomain where
  controlProgress : FiProgress
  dataProgress : FiProgress
  threading : FiThreading
  deriving DecidableEq, Repr

/-- `dpa_domain_open`. -/
def dpaDomainOpen (info : Option FabricInfo) : Except FiErr OpenDomain :=
  match info with
  | none => .error .enodata
  | some info =>
      if info.domainAttr.any fun a => a.mrMode = .basic then .error .enodata
      else .ok
        { fclass := .domain
          mrMode := .scalable
          controlProgress := .auto
          dataProgress := grantedProgress info.domainAttr
          threading := grantedThreading info.domainAttr }

/-- The `dpa_fid_pep`, with its `info`. -/
structure OpenPep extends PassiveEp where
  info : FabricInfo

/-- `dpa_passive_ep_open`, for the passive endpoint that gets the number `fid`. -/
def dpaPassiveEpOpen (fid : ℕ) (info : Option FabricInfo) : Except FiErr OpenPep :=
  match info with
  | none => .error .einval
  | some info =>
      match info.srcAddr with
      | none => .error .einval
      | some src =>
          -- `!info->src_addrlen == sizeof(dpa_addr_t)` compares a truth value with 8
          if checkEpCaps info.caps = 0 then .error .einval
          else .ok
            { fid, eq := none, sd := none, interruptId := src.connectId, interrupt := none, info }

/-- The `info` in the event of `connection_request`, apart from its `handle`. -/
def OpenPep.requestInfo (pep : OpenPep) (data : SegmentData) : FabricInfo :=
  { pep.info with destAddr := some ⟨data.nodeId, data.acceptIntId⟩, destAddrlen := 8 }

/-- `dpa_ep_open`, with its checks of the `info`. -/
def OpenDomain.dpaEpOpen (domain : OpenDomain) (fid : ℕ) (info : Option FabricInfo)
    (entries : ℕ → MsgQueueEntry) : Except FiErr Endpoint :=
  match info with
  | none => .error .einval
  | some info =>
      match info.destAddr with
      | none => .error .einval
      | some dest =>
          if info.destAddrlen ≠ 8 then .error .einval
          else DpaProvider.dpaEpOpen fid info.caps dest (domain.dataProgress = .auto)
            (domain.threading.code < FiThreading.fid.code) entries

/-- What `dpa_getname` leaves: an address, of which the first `copied` bytes are copied, the length,
and its return value. -/
structure Getname where
  address : DpaAddr
  copied : UInt64
  addrlen : UInt64
  ret : FiErr
  deriving DecidableEq, Repr

/-- `dpa_getname` on an endpoint, which may have been opened from a passive one. -/
def dpaGetname (env : Env) (pep : Option OpenPep) (addrlen : UInt64) : Getname :=
  let copied := min addrlen 8
  { address := ⟨env.localNodeId, pep.elim 0 fun pep => pep.interruptId⟩
    copied
    addrlen := 8
    ret := if copied < 8 then .etoosmall else .success }

/-! ### What an answer says and what is opened from it -/

/-- The domain that the attributes describe. -/
def FiDomainAttr.described (attr : FiDomainAttr) : OpenDomain where
  fclass := .domain
  mrMode := attr.mrMode
  controlProgress := attr.controlProgress
  dataProgress := attr.dataProgress
  threading := attr.threading

/-- The endpoint is as described by the attributes of its domain and by the capabilities granted,
to which those that they imply are added, and is addressed to `addr`. -/
structure Endpoint.Described (ep : Endpoint) (attr : FiDomainAttr) (caps : UInt64)
    (addr : DpaAddr) : Prop where
  fresh : ep.Fresh
  peer : ep.peerAddr = addr
  effective : ep.caps = checkEpCaps caps
  granted : caps &&& ep.caps = caps
  supported : ep.caps &&& dpaEpMsgCap = ep.caps
  progress : ep.autoProgress = true ↔ attr.dataProgress = .auto
  locks : ep.lockNeeded = true ↔ attr.threading = .safe

/-- An answer to the query is answered by itself, whatever else is asked with it but addresses, and
all that is opened from it is as it says. -/
structure Usable (q : InfoQuery) (env : Env) (info : FabricInfo) : Prop where
  again : ∀ (q' : InfoQuery) (lookup : Lookup), q'.version ≤ dpaFiVersion → q'.hints = some info →
    q'.service = none → q'.dpaGetinfo env lookup = .ok (some info, .ok info)
  readdressed : ∀ (q' : InfoQuery) (lookup : Lookup), q'.version ≤ dpaFiVersion →
    q'.hints = some info → ¬ (q'.query env).LookupFails lookup →
    q'.dpaGetinfo env lookup = .ok (some info, .ok { info with
      srcAddr := some ⟨env.localNodeId, (q'.query env).sourceId⟩
      destAddr := (q'.query env).destination lookup
      destAddrlen := if ((q'.query env).destination lookup).isSome then 8 else 0 })
  requested : requested (q.hints.map FabricInfo.capabilities) &&& info.caps
    = requested (q.hints.map FabricInfo.capabilities)
  fabric : dpaFabric info.fabricAttr = .ok .success
  domain : ∃ attr, info.domainAttr = some attr ∧ dpaDomainOpen (some info) = .ok attr.described
  passive : ∃ src, info.srcAddr = some src ∧ src.nodeId = env.localNodeId
    ∧ ∀ fid, dpaPassiveEpOpen fid (some info) = .ok
      { fid, eq := none, sd := none, interruptId := src.connectId, interrupt := none, info }
  unaddressed : info.destAddr = none → ∀ (domain : OpenDomain) fid entries,
    domain.dpaEpOpen fid (some info) entries = .error .einval
  active : ∀ attr addr, info.domainAttr = some attr → info.destAddr = some addr →
    ∀ fid entries, ∃ ep, attr.described.dpaEpOpen fid (some info) entries = .ok ep
      ∧ ep.Described attr info.caps addr
  accepting : ∀ attr fid pep, info.domainAttr = some attr →
    dpaPassiveEpOpen fid (some info) = .ok pep → ∀ data fid' entries,
      ∃ ep, attr.described.dpaEpOpen fid' (some (pep.requestInfo data)) entries = .ok ep
        ∧ ep.Described attr info.caps ⟨data.nodeId, data.acceptIntId⟩

/-! ### Proofs -/

section Opening

variable {q : InfoQuery} {env : Env} {lookup : Lookup} {hints : Option FabricInfo}
  {info : FabricInfo} {attr : FiDomainAttr} {addr : DpaAddr}

lemma lockNeeded_iff (attr' : Option FiDomainAttr) :
    (grantedThreading attr').code < FiThreading.fid.code ↔ grantedThreading attr' = .safe := by
  cases attr' with
  | none => decide
  | some attr' =>
      rw [grantedThreading]
      split
      case isTrue h => cases htype : attr'.threading <;> simp_all [FiThreading.code]
      case isFalse => decide

/-- Capabilities that were granted are enough for an endpoint. -/
lemma checkEpCaps_ne_zero {caps : UInt64} (hsub : caps &&& dpaEpMsgCap = caps) (hne : caps ≠ 0) :
    checkEpCaps caps ≠ 0 := by
  intro hzero
  refine hne ?_
  rw [← and_checkEpCaps hsub, hzero, UInt64.and_zero]

/-- An endpoint opens with an address, and is as described. -/
lemma described_dpaEpOpen {attr' : Option FiDomainAttr}
    (hthreading : attr.threading = grantedThreading attr')
    (hsub : info.caps &&& dpaEpMsgCap = info.caps) (hne : info.caps ≠ 0)
    (haddr : info.destAddr = some addr) (hlen : info.destAddrlen = 8) (fid : ℕ)
    (entries : ℕ → MsgQueueEntry) :
    ∃ ep, attr.described.dpaEpOpen fid (some info) entries = .ok ep
      ∧ ep.Described attr info.caps addr := by
  have hopen : ∃ ep, DpaProvider.dpaEpOpen fid info.caps addr
      (attr.described.dataProgress = .auto)
      (attr.described.threading.code < FiThreading.fid.code) entries = .ok ep
      ∧ ep.peerAddr = addr ∧ (ep.autoProgress = true ↔ attr.dataProgress = .auto)
      ∧ (ep.lockNeeded = true ↔ attr.threading.code < FiThreading.fid.code) := by
    refine ⟨_, if_neg (checkEpCaps_ne_zero hsub hne), rfl, ?_, ?_⟩
    · exact decide_eq_true_iff
    · exact decide_eq_true_iff
  obtain ⟨ep, hopen, hpeer, hprogress, hlocks⟩ := hopen
  have hcaps := (caps_dpaEpOpen hopen).2.1
  refine ⟨ep, ?_, fresh_dpaEpOpen hopen, hpeer, hcaps, ?_, ?_, hprogress, ?_⟩
  · rw [OpenDomain.dpaEpOpen]
    simp only [haddr, hlen, ne_eq, not_true_eq_false, if_false]
    exact hopen
  · rw [hcaps, and_checkEpCaps hsub]
  · rw [hcaps, checkEpCaps_and hsub]
  · rw [hlocks, hthreading]
    exact lockNeeded_iff attr'

/-- A passive endpoint opens with a source, and listens on the interrupt of it. -/
lemma dpaPassiveEpOpen_eq {src : DpaAddr} (hsub : info.caps &&& dpaEpMsgCap = info.caps)
    (hne : info.caps ≠ 0) (hsrc : info.srcAddr = some src) (fid : ℕ) :
    dpaPassiveEpOpen fid (some info) = .ok
      { fid, eq := none, sd := none, interruptId := src.connectId, interrupt := none, info } := by
  rw [dpaPassiveEpOpen]
  simp only [hsrc, if_neg (checkEpCaps_ne_zero hsub hne)]

/-- The capabilities of an answer. -/
lemma caps_of_getinfo (hinfo : q.dpaGetinfo env lookup = .ok (hints, .ok info)) :
    info.caps &&& dpaEpMsgCap = info.caps ∧ info.caps ≠ 0
      ∧ requested (q.hints.map FabricInfo.capabilities) &&& info.caps
        = requested (q.hints.map FabricInfo.capabilities) := by
  obtain ⟨hverify, src, -, rfl⟩ := InfoQuery.dpaGetinfo_ok hinfo
  obtain ⟨all, caps, hgrants⟩ := InfoQuery.grants_of_verify hverify
  rw [(InfoQuery.grants_answer env lookup src hgrants).1]
  exact ⟨hgrants.caps, hgrants.nonzero, hgrants.requested⟩

/-- The domain of an answer. -/
lemma domain_of_getinfo (hinfo : q.dpaGetinfo env lookup = .ok (hints, .ok info)) :
    info.domainAttr = some q.domainAnswer
      ∧ dpaDomainOpen (some info) = .ok q.domainAnswer.described := by
  obtain ⟨-, src, -, rfl⟩ := InfoQuery.dpaGetinfo_ok hinfo
  refine ⟨rfl, ?_⟩
  have hthreading : grantedThreading (some q.domainAnswer) = q.domainAnswer.threading :=
    grantedThreading_again rfl
  have hprogress : grantedProgress (some q.domainAnswer) = q.domainAnswer.dataProgress :=
    grantedProgress_again rfl
  rw [FiDomainAttr.described, ← hthreading, ← hprogress]
  rfl

/-- The addresses of an answer. -/
lemma addresses_of_getinfo (hinfo : q.dpaGetinfo env lookup = .ok (hints, .ok info)) :
    (∃ src, info.srcAddr = some src ∧ src.nodeId = env.localNodeId ∧ info.srcAddrlen = 8)
      ∧ info.destAddrlen = if info.destAddr.isSome then 8 else 0 := by
  obtain ⟨-, src, hlocal, rfl⟩ := InfoQuery.dpaGetinfo_ok hinfo
  exact ⟨⟨src, rfl, hlocal, rfl⟩, rfl⟩

/-- A query without a service asks for the addresses in its hints. -/
lemma readdressed_eq {q' : InfoQuery} {lookup' : Lookup}
    (hinfo : q.dpaGetinfo env lookup = .ok (hints, .ok info)) (hhints : q'.hints = some info)
    (hservice : q'.service = none) :
    ({ info with
      srcAddr := some ⟨env.localNodeId, (q'.query env).sourceId⟩
      destAddr := (q'.query env).destination lookup'
      destAddrlen := if ((q'.query env).destination lookup').isSome then 8 else 0 } : FabricInfo)
      = info := by
  obtain ⟨⟨src, hsrc, hlocal, hsrclen⟩, hlen⟩ := addresses_of_getinfo hinfo
  have hno : (q'.service.isSome && hasAny q'.flags fiSource) = false := by rw [hservice]; rfl
  have hid : (q'.query env).sourceId = src.connectId := by
    rw [Query.sourceId_of_hints hno, InfoQuery.query_hintedSrc, InfoQuery.hintedSrc, hhints,
      Option.bind_some, if_pos hsrclen, hsrc]
    rfl
  have hdest : (q'.query env).destination lookup' = info.destAddr := by
    have hhinted : (q'.query env).destination lookup' = q'.hintedDest := by
      rw [Query.destination, InfoQuery.query_service, hservice, InfoQuery.query_hintedDest]
      cases (q'.query env).node <;> rfl
    rw [hhinted, InfoQuery.hintedDest, hhints, Option.bind_some, hlen]
    cases info.destAddr <;> rfl
  have hsame : (⟨env.localNodeId, src.connectId⟩ : DpaAddr) = src := by rw [← hlocal]
  rw [hid, hdest, hsame, ← hlen, ← hsrc]

/-- An answer with an address opens an endpoint for it. -/
lemma active_of_getinfo (hinfo : q.dpaGetinfo env lookup = .ok (hints, .ok info))
    (hattr : info.domainAttr = some attr) (haddr : info.destAddr = some addr) (fid : ℕ)
    (entries : ℕ → MsgQueueEntry) :
    ∃ ep, attr.described.dpaEpOpen fid (some info) entries = .ok ep
      ∧ ep.Described attr info.caps addr := by
  obtain ⟨hsub, hne, -⟩ := caps_of_getinfo hinfo
  obtain ⟨-, hlen⟩ := addresses_of_getinfo hinfo
  obtain rfl := Option.some.inj ((domain_of_getinfo hinfo).1.symm.trans hattr)
  rw [haddr] at hlen
  exact described_dpaEpOpen rfl hsub hne haddr hlen fid entries

/-- An answer without one does not. -/
lemma dpaEpOpen_unaddressed (h : info.destAddr = none) (domain : OpenDomain) (fid : ℕ)
    (entries : ℕ → MsgQueueEntry) :
    domain.dpaEpOpen fid (some info) entries = .error .einval := by
  rw [OpenDomain.dpaEpOpen, h]

/-- What `dpa_getinfo` answers can be used. -/
theorem negotiated (hinfo : q.dpaGetinfo env lookup = .ok (hints, .ok info)) :
    Usable q env info := by
  obtain ⟨hsub, hne, hrequested⟩ := caps_of_getinfo hinfo
  obtain ⟨hattr, hdomain⟩ := domain_of_getinfo hinfo
  obtain ⟨⟨src, hsrc, hlocal, -⟩, -⟩ := addresses_of_getinfo hinfo
  exact
    { again := by
        intro q' lookup' hversion hhints hservice
        have hlookup : ¬ (q'.query env).LookupFails lookup' := by
          rintro ⟨name, -, hsome, -⟩
          rw [InfoQuery.query_service, hservice] at hsome
          cases hsome
        rw [InfoQuery.dpaGetinfo_again hinfo hversion hhints hlookup,
          readdressed_eq hinfo hhints hservice]
      readdressed := fun _ _ => InfoQuery.dpaGetinfo_again hinfo
      requested := hrequested
      fabric := by
        obtain ⟨-, src, -, rfl⟩ := InfoQuery.dpaGetinfo_ok hinfo
        rfl
      domain := ⟨_, hattr, hdomain⟩
      passive := ⟨src, hsrc, hlocal, dpaPassiveEpOpen_eq hsub hne hsrc⟩
      unaddressed := dpaEpOpen_unaddressed
      active := fun _ _ => active_of_getinfo hinfo
      accepting := by
        intro attr fid pep hattr' hpep data
        obtain rfl := Option.some.inj (hattr.symm.trans hattr')
        obtain rfl := Except.ok.inj ((dpaPassiveEpOpen_eq hsub hne hsrc fid).symm.trans hpep)
        exact described_dpaEpOpen rfl hsub hne rfl rfl }

/-- A query for the service 7. -/
def forService (node : Option (List Char)) (flags : UInt64) (hints : Option FabricInfo) :
    InfoQuery :=
  { version := dpaFiVersion, node, service := some ['7'], flags, hints }

def onNode (localNodeId : UInt32) : Env := ⟨localNodeId, 1024, 4, 100, 200⟩

/-- Hints at locks, automatic progress and messages. -/
def locksAndProgress : FabricInfo where
  caps := fiMsg
  mode := 0
  addrFormat := .unspec
  srcAddr := none
  srcAddrlen := 0
  destAddr := none
  destAddrlen := 0
  txAttr := some ⟨fiSend, fun _ => 0⟩
  rxAttr := none
  epAttr := none
  domainAttr := some
    { name := none, threading := .safe, controlProgress := .unspec, dataProgress := .auto
      resourceMgmt := .unspec, avType := .table, mrMode := .unspec, mrKeySize := 0
      cqDataSize := 0, cqCnt := 0, epCnt := 0, txCtxCnt := 0, rxCtxCnt := 0, maxEpTxCtx := 0
      maxEpRxCtx := 0, maxEpStxCtx := 0, maxEpSrxCtx := 0 }
  fabricAttr := some ⟨some dpaName, none, 0⟩

theorem negotiated_locks : ∃ hints info,
    (forService (some dpaName) 0 (some locksAndProgress)).dpaGetinfo (onNode 2) (fun _ => some 1)
        = .ok (hints, .ok info)
      ∧ Usable (forService (some dpaName) 0 (some locksAndProgress)) (onNode 2) info := by
  have hinfo : ∃ hints info, (forService (some dpaName) 0 (some locksAndProgress)).dpaGetinfo
      (onNode 2) (fun _ => some 1) = .ok (hints, .ok info) := ⟨_, _, rfl⟩
  obtain ⟨hints, info, hinfo⟩ := hinfo
  exact ⟨hints, info, hinfo, negotiated hinfo⟩

/-! ### Rendezvous -/

/-- A named source is that of the service on this node. -/
lemma src_of_service {service : List Char}
    (hinfo : q.dpaGetinfo env lookup = .ok (hints, .ok info)) (hservice : q.service = some service)
    (hflag : hasAny q.flags fiSource = true) :
    info.srcAddr = some ⟨env.localNodeId, serviceId service⟩ := by
  have hverify := (InfoQuery.dpaGetinfo_ok hinfo).1
  by_cases hlookup : (q.query env).LookupFails lookup
  · have hnone := Query.resolvename_of_fails hlookup
    rw [InfoQuery.query_node, InfoQuery.query_service] at hnone
    rw [InfoQuery.dpaGetinfo] at hinfo
    simp only [hverify, ne_eq, not_true_eq_false, if_false, hnone, hflag, Bool.and_true] at hinfo
    rw [hservice] at hinfo
    cases hinfo
  · rw [InfoQuery.dpaGetinfo_service hverify hservice hflag hlookup] at hinfo
    obtain rfl := Except.ok.inj (Prod.mk.inj (Except.ok.inj hinfo)).2
    rfl

/-- A named destination is that of the service on the node with the name, if there is one. -/
lemma dest_of_service {name service : List Char}
    (hinfo : q.dpaGetinfo env lookup = .ok (hints, .ok info)) (hnode : q.node = some name)
    (hservice : q.service = some service) (hflag : hasAny q.flags fiSource = false) :
    info.destAddr = (lookup name).map fun nodeId => ⟨nodeId, serviceId service⟩ := by
  obtain ⟨-, src, -, rfl⟩ := InfoQuery.dpaGetinfo_ok hinfo
  have hdest : (q.answer env lookup src).destAddr = q.destAddr lookup := rfl
  rw [hdest, InfoQuery.destAddr, hnode, hservice, hflag]
  rfl

/-- A server asks for a service as a source, and a client for one on a node.  The endpoint of the
client is addressed to the interrupt of the passive endpoint of the server exactly if the name is
that of its node and the services have the same number; with a name that is not found it does not
open at all. -/
theorem rendezvous {server client : InfoQuery} {serverEnv clientEnv : Env}
    {serverLookup clientLookup : Lookup} {hints hints' : Option FabricInfo}
    {serverInfo clientInfo : FabricInfo} {name service service' : List Char}
    (hserver : server.dpaGetinfo serverEnv serverLookup = .ok (hints, .ok serverInfo))
    (hservice : server.service = some service) (hsource : hasAny server.flags fiSource = true)
    (hclient : client.dpaGetinfo clientEnv clientLookup = .ok (hints', .ok clientInfo))
    (hnode : client.node = some name) (hservice' : client.service = some service')
    (hdest : hasAny client.flags fiSource = false) (fid : ℕ) :
    (∃ pep, dpaPassiveEpOpen fid (some serverInfo) = .ok pep
      ∧ ∀ attr, clientInfo.domainAttr = some attr → ∀ fid' entries,
        ((∃ ep, attr.described.dpaEpOpen fid' (some clientInfo) entries = .ok ep
            ∧ ep.peerAddr = (dpaGetname serverEnv (some pep) 8).address)
          ↔ clientLookup name = some serverEnv.localNodeId
            ∧ serviceId service' = serviceId service))
      ∧ (clientLookup name = none → ∀ (domain : OpenDomain) fid' entries,
        domain.dpaEpOpen fid' (some clientInfo) entries = .error .einval) := by
  obtain ⟨hsub, hne, -⟩ := caps_of_getinfo hserver
  have haddr := dest_of_service hclient hnode hservice' hdest
  refine ⟨⟨_, dpaPassiveEpOpen_eq hsub hne (src_of_service hserver hservice hsource) fid, ?_⟩,
    fun hlookup => dpaEpOpen_unaddressed (by rw [haddr, hlookup]; rfl)⟩
  intro attr hattr fid' entries
  cases hlookup : clientLookup name with
  | none =>
      rw [hlookup] at haddr
      refine iff_of_false ?_ fun h => nomatch h.1
      rintro ⟨ep, hopen, -⟩
      rw [dpaEpOpen_unaddressed haddr] at hopen
      cases hopen
  | some nodeId =>
      rw [hlookup] at haddr
      obtain ⟨ep, hopen, hep⟩ := active_of_getinfo hclient hattr haddr fid' entries
      constructor
      · rintro ⟨ep', hopen', hpeer⟩
        obtain rfl := Except.ok.inj (hopen.symm.trans hopen')
        obtain ⟨hnodeId, hid⟩ := DpaAddr.mk.inj (hep.peer.symm.trans hpeer)
        exact ⟨congrArg some hnodeId, hid⟩
      · rintro ⟨hnodeId, hid⟩
        refine ⟨ep, hopen, hep.peer.trans ?_⟩
        rw [Option.some.inj hnodeId, hid]
        rfl

/-- The client on node 2 finds the server on node 1. -/
theorem rendezvous_seven : ∃ serverInfo clientInfo pep ep attr,
    (forService none fiSource none).dpaGetinfo (onNode 1) (fun _ => none)
        = .ok (none, .ok serverInfo)
      ∧ (forService (some dpaName) 0 none).dpaGetinfo (onNode 2) (fun _ => some 1)
        = .ok (none, .ok clientInfo)
      ∧ dpaPassiveEpOpen 0 (some serverInfo) = .ok pep
      ∧ clientInfo.domainAttr = some attr
      ∧ attr.described.dpaEpOpen 1 (some clientInfo) (fun _ => ⟨fun _ => 0, 0, 0, 0⟩) = .ok ep
      ∧ ep.peerAddr = (dpaGetname (onNode 1) (some pep) 8).address := by
  have hserver : ∃ info, (forService none fiSource none).dpaGetinfo (onNode 1) (fun _ => none)
      = .ok (none, .ok info) := ⟨_, rfl⟩
  have hclient : ∃ info attr,
      (forService (some dpaName) 0 none).dpaGetinfo (onNode 2) (fun _ => some 1)
        = .ok (none, .ok info) ∧ info.domainAttr = some attr := ⟨_, _, rfl, rfl⟩
  obtain ⟨serverInfo, hserver⟩ := hserver
  obtain ⟨clientInfo, attr, hclient, hattr⟩ := hclient
  obtain ⟨⟨pep, hpep, hiff⟩, -⟩ :=
    rendezvous hserver rfl (by decide) hclient rfl rfl (by decide) 0
  obtain ⟨ep, hopen, hpeer⟩ := (hiff attr hattr 1 fun _ => ⟨fun _ => 0, 0, 0, 0⟩).2 ⟨rfl, rfl⟩
  exact ⟨serverInfo, clientInfo, pep, ep, attr, hserver, hclient, hpep, hattr, hopen, hpeer⟩

end Opening

end DpaProvider
