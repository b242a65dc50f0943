import DpaProvider.Addresses
import DpaProvider.Av.Table
import DpaProvider.Cm.Capable
import DpaProvider.Cm.Handshake
import DpaProvider.Mr.Regions
import DpaProvider.Msg.Limit

/-!
The whole of `dpa_getinfo`.

* `InfoQuery.dpaGetinfo`: the checks in their order, and the answer with all its attributes;
* `getinfo_refines`: `Query.dpaGetinfo` is what it does without the attributes;
* `answer_answer`, `Acceptable.meets`: an answer meets the requirements of every query, and is
  answered by itself.
-/

namespace DpaProvider

/-- The `enum fi_threading`, in its order. -/
inductive FiThreading where
  | unspec
  | safe
  | fid
  | domain
  | completion
  | endpoint
  deriving DecidableEq, Repr

/-- The number of a threading model. -/
def FiThreading.code : FiThreading → ℕ
  | .unspec => 0
  | .safe => 1
  | .fid => 2
  | .domain => 3
  | .completion => 4
  | .endpoint => 5

/-- The `enum fi_progress`. -/
inductive FiProgress where
  | unspec
  | auto
  | manual
  deriving DecidableEq, Repr

/-- The `enum fi_resource_mgmt`. -/
inductive FiResourceMgmt where
  | unspec
  | disabled
  | enabled
  deriving DecidableEq, Repr

/-- The `addr_format`. -/
inductive FiAddrFormat where
  | unspec
  | other (code : ℕ)
  deriving DecidableEq, Repr

/-- The `fi_tx_attr` or the `fi_rx_attr`: its capabilities, and the bytes behind them. -/
structure XferAttr where
  caps : UInt64
  others : ByteMem

/-- What `calloc` gives. -/
def XferAttr.zero : XferAttr := ⟨0, fun _ => 0⟩

/-- The `fi_ep_attr`. -/
structure FiEpAttr where
  type : FiEpType
  protocol : UInt32
  protocolVersion : UInt32
  maxMsgSize : UInt64
  msgPrefixSize : UInt64
  maxOrderRawSize : UInt64
  maxOrderWarSize : UInt64
  maxOrderWawSize : UInt64
  memTagFormat : UInt64
  txCtxCnt : UInt64
  rxCtxCnt : UInt64
  deriving DecidableEq, Repr

/-- The `fi_domain_attr`, without its pointer to a domain. -/
structure FiDomainAttr where
  name : Option (List Char)
  threading : FiThreading
  controlProgress : FiProgress
  dataProgress : FiProgress
  resourceMgmt : FiResourceMgmt
  avType : FiAvType
  mrMode : FiMrMode
  mrKeySize : UInt64
  cqDataSize : UInt64
  cqCnt : UInt64
  epCnt : UInt64
  txCtxCnt : UInt64
  rxCtxCnt : UInt64
  maxEpTxCtx : UInt64
  maxEpRxCtx : UInt64
  maxEpStxCtx : UInt64
  maxEpSrxCtx : UInt64
  deriving DecidableEq, Repr

/-- The `fi_fabric_attr`, without its pointer to a fabric. -/
structure FiFabricAttr where
  name : Option (List Char)
  provName : Option (List Char)
  provVersion : UInt32
  deriving DecidableEq, Repr

/-- The `fi_info`, with what its pointers lead to. -/
structure FabricInfo where
  caps : UInt64
  mode : UInt64
  addrFormat : FiAddrFormat
  srcAddr : Option DpaAddr
  srcAddrlen : UInt64
  destAddr : Option DpaAddr
  destAddrlen : UInt64
  txAttr : Option XferAttr
  rxAttr : Option XferAttr
  epAttr : Option FiEpAttr
  domainAttr : Option FiDomainAttr
  fabricAttr : Option FiFabricAttr

/-- `DPA_DOMAIN_NAME`, `DPA_FABRIC_NAME` and `DPA_PROVIDER_NAME`. -/
def dpaName : List Char := ['d', 'p', 'a']

/-- `FI_PROTO_UNSPEC`. -/
def fiProtoUnspec : UInt32 := 0

/-- `FI_PROTO_DPA`. -/
def fiProtoDpa : UInt32 := (1 : UInt32) <<< 31 ||| 1

/-- `DPA_PROTO_VERSION`. -/
def dpaProtoVersion : UInt32 := 1

/-- `DPA_MAX_ORDER_SIZE`. -/
def dpaMaxOrderSize : UInt64 := 0xffffffffffffffff

/-- `DPA_MAX_CTX_CNT`. -/
def dpaMaxCtxCnt : UInt64 := 1

/-- `FI_SHARED_CONTEXT`. -/
def fiSharedContext : UInt64 := 0xffffffffffffffff

/-- What `get_ep_caps` looks at. -/
def FabricInfo.capabilities (info : FabricInfo) : FiInfo :=
  ⟨info.caps, info.epAttr.map FiEpAttr.type⟩

/-! ### The capabilities of every type of endpoint -/

/-- They are not negative as an `int`. -/
lemma toInt_nonneg {caps : UInt64} (h : caps &&& dpaEpMsgCap = caps) : ¬ toInt caps < 0 := by
  have hle : caps.toNat ≤ dpaEpMsgCap.toNat := h ▸ Mask.and_le caps dpaEpMsgCap
  have hsmall : caps.toNat < 2 ^ 31 := hle.trans_lt (by decide)
  have hword : (toInt caps).toInt = (caps.toBitVec.setWidth 32).toInt := rfl
  have hmsb : (caps.toBitVec.setWidth 32).msb = false := by
    rw [BitVec.msb_eq_decide, BitVec.toNat_setWidth, UInt64.toNat_toBitVec, decide_eq_false_iff_not]
    omega
  rw [Int32.lt_iff_toInt_lt, hword, BitVec.toInt_eq_toNat_of_msb hmsb, not_lt]
  exact Int.natCast_nonneg _

/-- What an endpoint of a type supports is supported by the provider. -/
lemma typeCaps_sub {epType : FiEpType} {n : Int32} (h : typeCaps epType = some n) :
    ∃ all, n = toInt all ∧ all &&& dpaEpMsgCap = all ∧ all ≠ 0 := by
  cases epType with
  | unspec | msg => exact ⟨dpaEpMsgCap, (Option.some.inj h).symm, UInt64.and_self, by decide⟩
  | dgram | rdm => exact ⟨dpaEpRdmCap, (Option.some.inj h).symm, by decide, by decide⟩
  | other code => cases h

/-- The capabilities of an endpoint whose type supports `all`. -/
lemma getEpCaps_of_type {hints : FiInfo} {all : UInt64} (hall : all &&& dpaEpMsgCap = all)
    (htype : typeCaps (hints.epAttr.getD .unspec) = some (toInt all)) :
    getEpCaps (some hints) =
      if hints.caps &&& all ≠ hints.caps then -fiEnodata
      else toInt (if hints.caps ≠ 0 then hints.caps else all) := by
  simp only [getEpCaps, htype, ofInt_toInt_caps hall, ne_eq, Mask.or_eq_right_iff, apply_ite toInt]

/-- `get_ep_caps` finds capabilities that its caller has asked for, `caps` of `all` that the type
supports. -/
structure Grants (hints : Option FiInfo) (all caps : UInt64) : Prop where
  type : typeCaps ((hints.bind FiInfo.epAttr).getD .unspec) = some (toInt all)
  supported : all &&& dpaEpMsgCap = all
  found : getEpCaps hints = toInt caps
  nonzero : caps ≠ 0
  sub : caps &&& all = caps
  requested : requested hints &&& caps = requested hints

lemma Grants.caps {hints : Option FiInfo} {all caps : UInt64} (h : Grants hints all caps) :
    caps &&& dpaEpMsgCap = caps := Mask.and_eq_left_trans h.sub h.supported

/-- It finds some, or fails with `FI_ENODATA`. -/
lemma getEpCaps_cases (hints : Option FiInfo) :
    getEpCaps hints = -fiEnodata ∨ ∃ all caps, Grants hints all caps := by
  cases hints with
  | none =>
      exact .inr ⟨dpaEpMsgCap, dpaEpMsgCap, rfl, UInt64.and_self, rfl, by decide, UInt64.and_self,
        UInt64.zero_and⟩
  | some hints =>
      cases htype : typeCaps (hints.epAttr.getD .unspec) with
      | none => exact .inl (by simp only [getEpCaps, htype])
      | some n =>
          obtain ⟨all, rfl, hall, hsome⟩ := typeCaps_sub htype
          have hcaps := getEpCaps_of_type hall htype
          by_cases hsub : hints.caps &&& all = hints.caps
          · rw [if_neg (not_not.2 hsub)] at hcaps
            refine .inr ⟨all, _, htype, hall, hcaps, ?_, ?_, ?_⟩
            · split <;> assumption
            · split
              · exact hsub
              · exact UInt64.and_self
            · split
              · exact UInt64.and_self
              · exact hsub
          · exact .inl (hcaps.trans (if_pos hsub))

/-! ### The checks -/

/-- `dpa_verify_ep_attr`. -/
def dpaVerifyEpAttr (env : Env) (epAttr : Option FiEpAttr) : Int32 :=
  match epAttr with
  | none => 0
  | some a =>
      if a.protocol ≠ fiProtoDpa ∧ a.protocol ≠ fiProtoUnspec then -fiEnodata
      else if a.protocolVersion > dpaProtoVersion then -fiEnodata
      else if a.maxMsgSize > dpaMaxMsgSize env.bufferSize then -fiEnodata
      else if a.maxOrderRawSize > dpaMaxOrderSize then -fiEnodata
      else if a.maxOrderWarSize > dpaMaxOrderSize then -fiEnodata
      else if a.maxOrderWawSize > dpaMaxOrderSize then -fiEnodata
      else if a.txCtxCnt > dpaMaxCtxCnt ∨ a.txCtxCnt = fiSharedContext then -fiEnodata
      else if a.rxCtxCnt > dpaMaxCtxCnt ∨ a.rxCtxCnt = fiSharedContext then -fiEnodata
      else 0

/-- The common body of `dpa_verify_tx_attr` and `dpa_verify_rx_attr`. -/
def verifyXferAttr (attr : Option XferAttr) : Int32 :=
  match attr with
  | none => 0
  | some a => if a.caps ||| dpaEpMsgCap ≠ dpaEpMsgCap then -fiEnodata else 0

/-- `dpa_verify_tx_attr`. -/
def dpaVerifyTxAttr (attr : Option XferAttr) : Int32 := verifyXferAttr attr

/-- `dpa_verify_rx_attr`. -/
def dpaVerifyRxAttr (attr : Option XferAttr) : Int32 := verifyXferAttr attr

/-- `dpa_verify_attr`. -/
def dpaVerifyAttr (env : Env) (epAttr : Option FiEpAttr) (txAttr rxAttr : Option XferAttr) :
    Int32 :=
  if dpaVerifyEpAttr env epAttr ≠ 0 ∨ dpaVerifyTxAttr txAttr ≠ 0 ∨ dpaVerifyRxAttr rxAttr ≠ 0 then
    -fiEnodata
  else 0

/-- A check is passed, or fails with `FI_ENODATA`. -/
def Checked (ret : Int32) : Prop := ret = 0 ∨ ret = -fiEnodata

lemma Checked.ite {p : Prop} [Decidable p] {ret : Int32} (h : Checked ret) :
    Checked (if p then -fiEnodata else ret) := by
  split
  · exact .inr rfl
  · exact h

lemma passed_ite_iff {p : Prop} [Decidable p] {ret : Int32} :
    (if p then -fiEnodata else ret) = 0 ↔ ¬ p ∧ ret = 0 := by
  split
  case isTrue h => exact iff_of_false (by decide) fun hboth => hboth.1 h
  case isFalse h => exact ⟨fun hret => ⟨h, hret⟩, fun hboth => hboth.2⟩

/-- Two checks that pass alike give the same. -/
lemma Checked.eq {ret ret' : Int32} (h : Checked ret) (h' : Checked ret')
    (hiff : ret = 0 ↔ ret' = 0) : ret = ret' := by
  obtain rfl | rfl := h
  · exact (hiff.1 rfl).symm
  · obtain rfl | rfl := h'
    · exact hiff.2 rfl
    · rfl

/-- The check of the capabilities, followed by others. -/
def capsThen (info : FiInfo) (ret : Int32) : Int32 :=
  if getEpCaps (some info) < 0 then getEpCaps (some info)
  else if ofInt (getEpCaps (some info)) ||| info.caps ≠ ofInt (getEpCaps (some info)) then
    -fiEnodata
  else ret

lemma capsThen_eq (info : FiInfo) (ret : Int32) :
    capsThen info ret = -fiEnodata ∧ (¬ ∃ all caps, Grants (some info) all caps)
      ∨ capsThen info ret = ret ∧ ∃ all caps, Grants (some info) all caps := by
  rw [capsThen]
  obtain hfail | ⟨all, caps, h⟩ := getEpCaps_cases (some info)
  · rw [hfail, if_pos (by decide)]
    refine .inl ⟨rfl, ?_⟩
    rintro ⟨all, caps, h⟩
    have hneg : toInt caps < 0 := by
      rw [← h.found, hfail]
      decide
    exact toInt_nonneg h.caps hneg
  · have hcovered : ofInt (toInt caps) ||| info.caps = ofInt (toInt caps) := by
      rw [ofInt_toInt_caps h.caps, Mask.or_eq_right_iff]
      exact h.requested
    rw [h.found, if_neg (toInt_nonneg h.caps), if_neg (not_not.2 hcovered)]
    exact .inr ⟨rfl, all, caps, h⟩

lemma checked_capsThen {info : FiInfo} {ret : Int32} (h : Checked ret) :
    Checked (capsThen info ret) := by
  obtain ⟨hcaps, -⟩ | ⟨hcaps, -⟩ := capsThen_eq info ret
  · exact .inr hcaps
  · rw [hcaps]
    exact h

lemma passed_capsThen_iff {info : FiInfo} {ret : Int32} :
    capsThen info ret = 0 ↔ (∃ all caps, Grants (some info) all caps) ∧ ret = 0 := by
  obtain ⟨hcaps, hno⟩ | ⟨hcaps, hgrants⟩ := capsThen_eq info ret
  · rw [hcaps]
    exact iff_of_false (by decide) fun h => hno h.1
  · rw [hcaps]
    exact (and_iff_right hgrants).symm

/-- `dpa_verify_requirements` as `Query` has it. -/
lemma verifyRequirements_eq (checks : Bool) (info : FiInfo) :
    dpaVerifyRequirements checks (some info) = if !checks then -fiEnodata else capsThen info 0 :=
  rfl

/-- A check that returns the error of another one. -/
lemma Checked.ite_self {ret rest : Int32} (h : Checked ret) :
    (if ret ≠ 0 then ret else rest) = if ret ≠ 0 then -fiEnodata else rest := by
  obtain rfl | rfl := h <;> rfl

lemma checked_dpaVerifyAttr (env : Env) (epAttr : Option FiEpAttr)
    (txAttr rxAttr : Option XferAttr) : Checked (dpaVerifyAttr env epAttr txAttr rxAttr) :=
  Checked.ite (.inl rfl)

/-- A name that is given and is not that of the provider: `strcmp` is not zero. -/
def differs (name : Option (List Char)) : Bool := name.any (· ≠ dpaName)

/-- The checks of the hints that are neither about capabilities nor about addresses. -/
def FabricInfo.checks (env : Env) (h : FabricInfo) : Bool :=
  dpaVerifyAttr env h.epAttr h.txAttr h.rxAttr = 0 && h.addrFormat = .unspec
    && !(h.fabricAttr.any fun a => differs a.provName)
    && !(h.fabricAttr.any fun a => differs a.name)
    && !(h.domainAttr.any fun a => a.mrMode = .basic)

/-- The hints without their attributes. -/
def FabricInfo.toHints (env : Env) (h : FabricInfo) : Hints where
  info := h.capabilities
  checks := h.checks env
  srcAddr := h.srcAddr
  srcAddrlen := h.srcAddrlen
  destAddr := h.destAddr
  destAddrlen := h.destAddrlen

/-- The answer without its attributes; it has a source. -/
def FabricInfo.toAddressed (info : FabricInfo) : AddressedInfo where
  info := info.capabilities
  srcAddr := info.srcAddr.getD ⟨0, 0⟩
  srcAddrlen := info.srcAddrlen
  destAddr := info.destAddr
  destAddrlen := info.destAddrlen

/-- The local variable `threading`, of `dpa_getinfo` and of `dpa_domain_open`. -/
def grantedThreading (attr : Option FiDomainAttr) : FiThreading :=
  match attr with
  | none => .completion
  | some a =>
      if a.threading ≠ .unspec ∧ a.threading.code < FiThreading.completion.code then a.threading
      else .completion

/-- Their local variable `data_progress`. -/
def grantedProgress (attr : Option FiDomainAttr) : FiProgress :=
  match attr with
  | none => .manual
  | some a => if a.dataProgress = .auto then .auto else .manual

/-- The arguments of a call of `dpa_getinfo`, with the hints as a whole. -/
structure InfoQuery where
  version : UInt32
  node : Option (List Char)
  service : Option (List Char)
  flags : UInt64
  hints : Option FabricInfo

namespace InfoQuery

/-- `dpa_verify_requirements`. -/
def dpaVerifyRequirements (q : InfoQuery) (env : Env) : Int32 :=
  if q.version > dpaFiVersion then -fiEnodata
  else match q.hints with
    | none => 0
    | some h =>
        if !hasAny q.flags fiSource && h.srcAddr.any fun src =>
            h.srcAddrlen ≠ 8 || src.nodeId ≠ env.localNodeId then -fiEnodata
        else if (q.node.isNone && q.service.isNone || hasAny q.flags fiSource) && h.destAddr.isSome
            && h.destAddrlen ≠ 8 then -fiEnodata
        else
          let caps := getEpCaps (some h.capabilities)
          if caps < 0 then caps
          else if ofInt caps ||| h.caps ≠ ofInt caps then -fiEnodata
          else
            let ret := dpaVerifyAttr env h.epAttr h.txAttr h.rxAttr
            if ret ≠ 0 then ret
            else if h.addrFormat ≠ .unspec then -fiEnodata
            else if h.fabricAttr.any fun a => differs a.provName then -fiEnodata
            else if h.fabricAttr.any fun a => differs a.name then -fiEnodata
            else if h.domainAttr.any fun a => a.mrMode = .basic then -fiEnodata
            else 0

/-! ### The answer -/

/-- The destination in the hints, if it has the right length. -/
def hintedDest (q : InfoQuery) : Option DpaAddr :=
  q.hints.bind fun h => if h.destAddrlen = 8 then h.destAddr else none

/-- The source in the hints, if it has the right length. -/
def hintedSrc (q : InfoQuery) : Option DpaAddr :=
  q.hints.bind fun h => if h.srcAddrlen = 8 then h.srcAddr else none

/-- The local variable `dest_addr` of `dpa_getinfo`. -/
def destAddr (q : InfoQuery) (lookup : Lookup) : Option DpaAddr :=
  if q.node.isSome && q.service.isSome && !hasAny q.flags fiSource then
    resolvename lookup q.node q.service
  else q.hintedDest

/-- The `domain_attr` of the hints. -/
def hintedDomain (q : InfoQuery) : Option FiDomainAttr := q.hints.bind FabricInfo.domainAttr

/-- The local variable `domain_attr`. -/
def domainAnswer (q : InfoQuery) : FiDomainAttr where
  name := some dpaName
  threading := grantedThreading q.hintedDomain
  controlProgress := .auto
  dataProgress := grantedProgress q.hintedDomain
  resourceMgmt := .enabled
  avType := match q.hintedDomain with
    | none => .unspec
    | some a => if a.avType ≠ .unspec then a.avType else .unspec
  mrMode := .scalable
  mrKeySize := 4
  cqDataSize := 0
  cqCnt := 0
  epCnt := 0
  txCtxCnt := 1
  rxCtxCnt := 1
  maxEpTxCtx := 1
  maxEpRxCtx := 1
  maxEpStxCtx := 1
  maxEpSrxCtx := 1

/-- The local variable `ep_attr`. -/
def epAnswer (q : InfoQuery) (env : Env) : FiEpAttr where
  type := match q.hints.bind FabricInfo.epAttr with
    | none => .msg
    | some a => if a.type ≠ .unspec then a.type else .msg
  protocol := fiProtoDpa
  protocolVersion := dpaProtoVersion
  maxMsgSize := dpaMaxMsgSize env.bufferSize
  msgPrefixSize := 0
  maxOrderRawSize := dpaMaxOrderSize
  maxOrderWarSize := dpaMaxOrderSize
  maxOrderWawSize := dpaMaxOrderSize
  memTagFormat := 0
  txCtxCnt := dpaMaxCtxCnt
  rxCtxCnt := dpaMaxCtxCnt

/-- The local variable `result`, once the addresses are known. -/
def answer (q : InfoQuery) (env : Env) (lookup : Lookup) (src : DpaAddr) : FabricInfo where
  caps := ofInt (getEpCaps (q.hints.map FabricInfo.capabilities))
  mode := 0
  addrFormat := .unspec
  srcAddr := some src
  srcAddrlen := 8
  destAddr := q.destAddr lookup
  destAddrlen := if (q.destAddr lookup).isSome then 8 else 0
  txAttr := some ((q.hints.bind FabricInfo.txAttr).getD .zero)
  rxAttr := some ((q.hints.bind FabricInfo.rxAttr).getD .zero)
  epAttr := some (q.epAnswer env)
  domainAttr := some q.domainAnswer
  fabricAttr := some { name := some dpaName, provName := some dpaName, provVersion := 1 }

/-- `dpa_getinfo`: the hints that the caller has afterwards, and the result. -/
def dpaGetinfo (q : InfoQuery) (env : Env) (lookup : Lookup) :
    Except Stuck (Option FabricInfo × Except Int32 FabricInfo) :=
  let ret := q.dpaVerifyRequirements env
  if ret ≠ 0 then .ok (q.hints, .error ret)
  else if q.service.isSome && hasAny q.flags fiSource then
    match resolvename lookup q.node q.service with
    | none => .error .nullPointer
    | some src => .ok (q.hints, .ok (q.answer env lookup { src with nodeId := env.localNodeId }))
  else
    match q.hintedSrc with
    | none => .ok (q.hints, .ok (q.answer env lookup ⟨env.localNodeId, 0⟩))
    | some src =>
        let src := { src with nodeId := env.localNodeId }
        .ok (q.hints.map fun h => { h with srcAddr := some src }, .ok (q.answer env lookup src))

/-! ### The answer without its attributes -/

variable {q : InfoQuery} {env : Env} {lookup : Lookup} {h : FabricInfo}

/-- The query, with hints that only tell whether their attributes pass. -/
def query (q : InfoQuery) (env : Env) : Query :=
  ⟨q.version, q.node, q.service, q.flags, q.hints.map (FabricInfo.toHints env)⟩

/-- A source is of this node, unless it is to be written over. -/
def SrcPasses (q : InfoQuery) (env : Env) (h : FabricInfo) : Prop :=
  hasAny q.flags fiSource = false → ∀ src, h.srcAddr = some src →
    h.srcAddrlen = 8 ∧ src.nodeId = env.localNodeId

/-- A destination has the right length, unless another one is asked for. -/
def DestPasses (q : InfoQuery) (h : FabricInfo) : Prop :=
  q.node = none ∧ q.service = none ∨ hasAny q.flags fiSource = true →
    h.destAddr.isSome → h.destAddrlen = 8

/-- The hints meet the requirements of the query. -/
structure Meets (q : InfoQuery) (env : Env) (h : FabricInfo) : Prop where
  src : q.SrcPasses env h
  dest : q.DestPasses h
  caps : ∃ all caps, Grants (some h.capabilities) all caps
  checks : h.checks env = true

/-- The requirements of hints, check by check. -/
lemma verify_hints (hversion : q.version ≤ dpaFiVersion) (hhints : q.hints = some h) :
    q.dpaVerifyRequirements env =
      if !hasAny q.flags fiSource && h.srcAddr.any fun src =>
          h.srcAddrlen ≠ 8 || src.nodeId ≠ env.localNodeId then -fiEnodata
      else if (q.node.isNone && q.service.isNone || hasAny q.flags fiSource) && h.destAddr.isSome
          && h.destAddrlen ≠ 8 then -fiEnodata
      else capsThen h.capabilities <|
        if dpaVerifyAttr env h.epAttr h.txAttr h.rxAttr ≠ 0 then
          dpaVerifyAttr env h.epAttr h.txAttr h.rxAttr
        else if h.addrFormat ≠ .unspec then -fiEnodata
        else if h.fabricAttr.any fun a => differs a.provName then -fiEnodata
        else if h.fabricAttr.any fun a => differs a.name then -fiEnodata
        else if h.domainAttr.any fun a => a.mrMode = .basic then -fiEnodata
        else 0 := by
  rw [dpaVerifyRequirements, if_neg (UInt32.not_lt.2 hversion), hhints]
  rfl

lemma checked_verify (q : InfoQuery) (env : Env) : Checked (q.dpaVerifyRequirements env) := by
  obtain hversion | hversion := UInt32.lt_or_le dpaFiVersion q.version
  · rw [dpaVerifyRequirements, if_pos hversion]
    exact .inr rfl
  cases hhints : q.hints with
  | none =>
      rw [dpaVerifyRequirements, if_neg (UInt32.not_lt.2 hversion), hhints]
      exact .inl rfl
  | some h =>
      rw [verify_hints hversion hhints, (checked_dpaVerifyAttr ..).ite_self]
      exact .ite (.ite (checked_capsThen (.ite (.ite (.ite (.ite (.ite (.inl rfl))))))))

lemma srcPasses_iff : (!hasAny q.flags fiSource && h.srcAddr.any fun src =>
    h.srcAddrlen ≠ 8 || src.nodeId ≠ env.localNodeId) = false ↔ q.SrcPasses env h := by
  rw [SrcPasses]
  cases hasAny q.flags fiSource with
  | true => simp
  | false => cases h.srcAddr <;> simp

lemma destPasses_iff : ((q.node.isNone && q.service.isNone || hasAny q.flags fiSource)
    && h.destAddr.isSome && h.destAddrlen ≠ 8) = false ↔ q.DestPasses h := by
  simp [DestPasses]

lemma checks_iff : h.checks env = true
    ↔ dpaVerifyAttr env h.epAttr h.txAttr h.rxAttr = 0 ∧ h.addrFormat = .unspec
      ∧ (h.fabricAttr.any fun a => differs a.provName) = false
      ∧ (h.fabricAttr.any fun a => differs a.name) = false
      ∧ (h.domainAttr.any fun a => a.mrMode = .basic) = false := by
  simp only [FabricInfo.checks, Bool.and_eq_true, decide_eq_true_eq, Bool.not_eq_true', and_assoc]

lemma verify_iff_meets (hversion : q.version ≤ dpaFiVersion) (hhints : q.hints = some h) :
    q.dpaVerifyRequirements env = 0 ↔ q.Meets env h := by
  rw [verify_hints hversion hhints, (checked_dpaVerifyAttr ..).ite_self]
  simp only [passed_ite_iff, passed_capsThen_iff, srcPasses_iff, destPasses_iff, not_not,
    Bool.not_eq_true, and_true, ← checks_iff]
  exact ⟨fun ⟨hsrc, hdest, hcaps, hchecks⟩ => ⟨hsrc, hdest, hcaps, hchecks⟩,
    fun ⟨hsrc, hdest, hcaps, hchecks⟩ => ⟨hsrc, hdest, hcaps, hchecks⟩⟩

/-- `Query` has the same checks. -/
lemma query_checks_iff (hhints : q.hints = some h) :
    (q.query env).checks env.localNodeId = true
      ↔ q.version ≤ dpaFiVersion ∧ q.SrcPasses env h ∧ q.DestPasses h ∧ h.checks env = true := by
  rw [query, Query.checks, hhints]
  simp only [Option.map_some, FabricInfo.toHints, Bool.and_eq_true, decide_eq_true_eq, and_assoc]
  refine and_congr_right' (and_congr ?src (and_congr_left' ?dest))
  case src =>
      rw [SrcPasses]
      cases hasAny q.flags fiSource <;> cases h.srcAddr <;> simp
  case dest =>
      rw [DestPasses]
      cases hasAny q.flags fiSource <;> cases q.node <;> cases q.service <;> cases h.destAddr <;>
        simp

/-- Whatever is not met, the error is the same. -/
lemma verify_eq (q : InfoQuery) (env : Env) :
    q.dpaVerifyRequirements env
      = DpaProvider.dpaVerifyRequirements ((q.query env).checks env.localNodeId)
          ((q.query env).hints.map Hints.info) := by
  obtain hversion | hversion := UInt32.lt_or_le dpaFiVersion q.version
  · have hchecks : (q.query env).checks env.localNodeId = false := by
      simp [query, Query.checks, UInt32.not_le.2 hversion]
    rw [dpaVerifyRequirements, if_pos hversion, hchecks]
    rfl
  cases hhints : q.hints with
  | none =>
      have hchecks : (q.query env).checks env.localNodeId = true := by
        simp [query, Query.checks, hhints, hversion]
      rw [dpaVerifyRequirements, if_neg (UInt32.not_lt.2 hversion), hchecks, hhints, query, hhints]
      rfl
  | some h =>
      have hmap : (q.query env).hints.map Hints.info = some h.capabilities := by
        rw [query, hhints]
        rfl
      rw [hmap, verifyRequirements_eq]
      refine (checked_verify q env).eq (.ite (checked_capsThen (.inl rfl))) ?_
      rw [verify_iff_meets hversion hhints, passed_ite_iff, passed_capsThen_iff,
        Bool.not_eq_true', Bool.not_eq_false, query_checks_iff hhints]
      constructor
      · rintro ⟨hsrc, hdest, hcaps, hchecks⟩
        exact ⟨⟨hversion, hsrc, hdest, hchecks⟩, hcaps, rfl⟩
      · rintro ⟨⟨-, hsrc, hdest, hchecks⟩, hcaps, -⟩
        exact ⟨hsrc, hdest, hcaps, hchecks⟩

@[simp] lemma query_node : (q.query env).node = q.node := rfl

@[simp] lemma query_service : (q.query env).service = q.service := rfl

@[simp] lemma query_flags : (q.query env).flags = q.flags := rfl

@[simp] lemma query_hints : (q.query env).hints = q.hints.map (FabricInfo.toHints env) := rfl

lemma query_hintedDest : (q.query env).hintedDest = q.hintedDest := by
  rw [Query.hintedDest, hintedDest, query]
  cases q.hints <;> rfl

lemma query_hintedSrc : (q.query env).hintedSrc = q.hintedSrc := by
  rw [Query.hintedSrc, hintedSrc, query]
  cases q.hints <;> rfl

lemma query_destAddr : (q.query env).destAddr lookup = q.destAddr lookup := by
  rw [Query.destAddr, destAddr, query_hintedDest]
  rfl

/-- What `Query` says of capabilities and addresses is what the answer has. -/
lemma toAddressed_answer {info : FiInfo} {src : DpaAddr}
    (hinfo : DpaProvider.dpaGetinfo ((q.query env).checks env.localNodeId)
      ((q.query env).hints.map Hints.info) = .ok info) :
    (q.answer env lookup src).toAddressed = (q.query env).answer lookup info src := by
  rw [DpaProvider.dpaGetinfo] at hinfo
  split at hinfo
  case isTrue => cases hinfo
  case isFalse =>
      obtain rfl := Except.ok.inj hinfo
      rw [Query.answer, query_destAddr]
      obtain ⟨version, node, service, flags, hints⟩ := q
      cases hints with
      | none => rfl
      | some h =>
          obtain hattr | ⟨attr, hattr⟩ := h.epAttr.eq_none_or_eq_some
          · simp [answer, epAnswer, query, FabricInfo.toAddressed, FabricInfo.toHints,
              FabricInfo.capabilities, hattr]
          · cases htype : attr.type <;>
              simp [answer, epAnswer, query, FabricInfo.toAddressed, FabricInfo.toHints,
                FabricInfo.capabilities, hattr, htype]

/-- `Query.dpaGetinfo` is what `dpa_getinfo` does, without the attributes. -/
lemma getinfo_refines (q : InfoQuery) (env : Env) (lookup : Lookup) :
    (q.dpaGetinfo env lookup).map
        (fun r => (r.1.map (FabricInfo.toHints env), r.2.map FabricInfo.toAddressed))
      = (q.query env).dpaGetinfo env.localNodeId lookup := by
  have hret := verify_eq q env
  rw [dpaGetinfo, Query.dpaGetinfo]
  cases hinfo : DpaProvider.dpaGetinfo ((q.query env).checks env.localNodeId)
      ((q.query env).hints.map Hints.info) with
  | error ret =>
      rw [DpaProvider.dpaGetinfo] at hinfo
      split at hinfo
      case isTrue hne =>
          obtain rfl := Except.error.inj hinfo
          rw [← hret] at hne ⊢
          rw [if_pos hne]
          rfl
      case isFalse => cases hinfo
  | ok info =>
      have hzero : ¬ q.dpaVerifyRequirements env ≠ 0 := by
        intro hne
        rw [DpaProvider.dpaGetinfo, ← hret, if_pos hne] at hinfo
        cases hinfo
      rw [if_neg hzero, query_hintedSrc]
      simp only [← toAddressed_answer hinfo, query_node, query_service, query_flags, query_hints]
      split
      case isTrue => cases resolvename lookup q.node q.service <;> rfl
      case isFalse =>
          cases q.hintedSrc with
          | none => rfl
          | some src => cases q.hints <;> rfl

end InfoQuery

/-! ### Answers as hints -/

/-- A threading model that was granted is granted again. -/
lemma grantedThreading_again {attr : FiDomainAttr} {attr' : Option FiDomainAttr}
    (h : attr.threading = grantedThreading attr') :
    grantedThreading (some attr) = attr.threading := by
  have hcases : attr.threading = .completion
      ∨ attr.threading ≠ .unspec ∧ attr.threading.code < FiThreading.completion.code := by
    rw [h]
    cases attr' with
    | none => exact .inl rfl
    | some attr' =>
        rw [grantedThreading]
        split
        case isTrue hless => exact .inr hless
        case isFalse => exact .inl rfl
  obtain hcompletion | hless := hcases
  · rw [grantedThreading, hcompletion]
    rfl
  · exact if_pos hless

/-- So is a way of progress. -/
lemma grantedProgress_again {attr : FiDomainAttr} {attr' : Option FiDomainAttr}
    (h : attr.dataProgress = grantedProgress attr') :
    grantedProgress (some attr) = attr.dataProgress := by
  have hcases : attr.dataProgress = .manual ∨ attr.dataProgress = .auto := by
    rw [h]
    cases attr' with
    | none => exact .inl rfl
    | some attr' =>
        rw [grantedProgress]
        split
        case isTrue => exact .inr rfl
        case isFalse => exact .inl rfl
  obtain hmanual | hauto := hcases
  · rw [grantedProgress, hmanual]
    rfl
  · rw [grantedProgress, hauto]
    rfl

/-- What was granted is granted again. -/
lemma Grants.again {hints : Option FiInfo} {all caps : UInt64} {epType : FiEpType}
    (h : Grants hints all caps) (htype : typeCaps epType = some (toInt all)) :
    Grants (some ⟨caps, some epType⟩) all caps where
  type := htype
  supported := h.supported
  found := by
    have hcaps : getEpCaps (some ⟨caps, some epType⟩) = _ := getEpCaps_of_type h.supported htype
    rw [if_neg (not_not.2 h.sub), if_pos h.nonzero] at hcaps
    exact hcaps
  nonzero := h.nonzero
  sub := h.sub
  requested := UInt64.and_self

/-- Hints that any query may come with. -/
structure FabricInfo.Acceptable (env : Env) (h : FabricInfo) : Prop where
  src : ∀ src, h.srcAddr = some src → h.srcAddrlen = 8 ∧ src.nodeId = env.localNodeId
  dest : h.destAddr.isSome → h.destAddrlen = 8
  caps : ∃ all caps, Grants (some h.capabilities) all caps
  checks : h.checks env = true

namespace InfoQuery

variable {q : InfoQuery} {env : Env} {lookup : Lookup} {h : FabricInfo} {src : DpaAddr}

lemma meets_of_acceptable (q : InfoQuery) (hacceptable : h.Acceptable env) : q.Meets env h where
  src _ := hacceptable.src
  dest _ := hacceptable.dest
  caps := hacceptable.caps
  checks := hacceptable.checks

/-- A query that is not refused has hints that meet its requirements, if any. -/
lemma meets_of_verify (hverify : q.dpaVerifyRequirements env = 0) (hhints : q.hints = some h) :
    q.Meets env h := by
  obtain hversion | hversion := UInt32.lt_or_le dpaFiVersion q.version
  · rw [dpaVerifyRequirements, if_pos hversion] at hverify
    exact absurd hverify (by decide)
  · exact (verify_iff_meets hversion hhints).1 hverify

/-- It is granted capabilities. -/
lemma grants_of_verify (hverify : q.dpaVerifyRequirements env = 0) :
    ∃ all caps, Grants (q.hints.map FabricInfo.capabilities) all caps := by
  cases hhints : q.hints with
  | none =>
      obtain hfail | hgrants := getEpCaps_cases none
      · exact absurd hfail (by decide)
      · exact hgrants
  | some h => exact (meets_of_verify hverify hhints).caps

/-- The capabilities and the type in the answer. -/
lemma grants_answer (env : Env) (lookup : Lookup) (src : DpaAddr) {all caps : UInt64}
    (hgrants : Grants (q.hints.map FabricInfo.capabilities) all caps) :
    (q.answer env lookup src).caps = caps
      ∧ Grants (some (q.answer env lookup src).capabilities) all caps := by
  have hcaps : (q.answer env lookup src).caps = caps := by
    rw [answer, hgrants.found]
    exact ofInt_toInt_caps hgrants.caps
  refine ⟨hcaps, ?_⟩
  have htype : typeCaps (q.epAnswer env).type = some (toInt all) := by
    rw [← hgrants.type, epAnswer]
    cases q.hints with
    | none => rfl
    | some h =>
        obtain hattr | ⟨attr, hattr⟩ := h.epAttr.eq_none_or_eq_some
        · simp [FabricInfo.capabilities, hattr, typeCaps]
        · cases htype : attr.type <;> simp [FabricInfo.capabilities, hattr, htype, typeCaps]
  rw [FabricInfo.capabilities, hcaps]
  exact hgrants.again htype

/-- What the answer says of endpoints passes the check of it. -/
lemma verify_epAnswer : dpaVerifyEpAttr env (some (q.epAnswer env)) = 0 := by
  have hproto : ¬ (fiProtoDpa ≠ fiProtoDpa ∧ fiProtoDpa ≠ fiProtoUnspec) := fun h => h.1 rfl
  have hversion : ¬ dpaProtoVersion > dpaProtoVersion := UInt32.lt_irrefl _
  have hsize : ¬ dpaMaxMsgSize env.bufferSize > dpaMaxMsgSize env.bufferSize := UInt64.lt_irrefl _
  have horder : ¬ dpaMaxOrderSize > dpaMaxOrderSize := UInt64.lt_irrefl _
  have hctx : ¬ (dpaMaxCtxCnt > dpaMaxCtxCnt ∨ dpaMaxCtxCnt = fiSharedContext) := by decide
  rw [dpaVerifyEpAttr, epAnswer]
  simp only [if_neg hproto, if_neg hversion, if_neg hsize, if_neg horder, if_neg hctx]

lemma verifyXferAttr_getD {attr : Option XferAttr} (h : verifyXferAttr attr = 0) :
    verifyXferAttr (some (attr.getD .zero)) = 0 := by
  cases attr with
  | none => rfl
  | some attr => exact h

lemma dpaVerifyAttr_iff {epAttr : Option FiEpAttr} {txAttr rxAttr : Option XferAttr} :
    dpaVerifyAttr env epAttr txAttr rxAttr = 0 ↔ dpaVerifyEpAttr env epAttr = 0
      ∧ dpaVerifyTxAttr txAttr = 0 ∧ dpaVerifyRxAttr rxAttr = 0 := by
  rw [dpaVerifyAttr, passed_ite_iff, and_iff_left rfl]
  simp only [not_or, not_not]

/-- The answer passes the checks of attributes if the hints do. -/
lemma checks_answer (hverify : q.dpaVerifyRequirements env = 0) :
    (q.answer env lookup src).checks env = true := by
  have hxfer : dpaVerifyTxAttr (q.hints.bind FabricInfo.txAttr) = 0
      ∧ dpaVerifyRxAttr (q.hints.bind FabricInfo.rxAttr) = 0 := by
    cases hhints : q.hints with
    | none => exact ⟨rfl, rfl⟩
    | some h =>
        have hchecks := (meets_of_verify hverify hhints).checks
        exact (dpaVerifyAttr_iff.1 (checks_iff.1 hchecks).1).2
  rw [checks_iff, dpaVerifyAttr_iff]
  exact ⟨⟨verify_epAnswer, verifyXferAttr_getD hxfer.1, verifyXferAttr_getD hxfer.2⟩, rfl, rfl, rfl,
    rfl⟩

lemma acceptable_answer (lookup : Lookup) (hverify : q.dpaVerifyRequirements env = 0)
    (hsrc : src.nodeId = env.localNodeId) : (q.answer env lookup src).Acceptable env where
  src src' h := by
    obtain rfl := Option.some.inj h
    exact ⟨rfl, hsrc⟩
  dest h := if_pos h
  caps := by
    obtain ⟨all, caps, hgrants⟩ := grants_of_verify hverify
    exact ⟨all, caps, (grants_answer env lookup src hgrants).2⟩
  checks := checks_answer hverify

/-- The domain in an answer given back as hints. -/
lemma domainAnswer_again {q' : InfoQuery} (hdomain : q'.hintedDomain = some q.domainAnswer) :
    q'.domainAnswer = q.domainAnswer := by
  have hthreading : grantedThreading (some q.domainAnswer) = q.domainAnswer.threading :=
    grantedThreading_again rfl
  have hprogress : grantedProgress (some q.domainAnswer) = q.domainAnswer.dataProgress :=
    grantedProgress_again rfl
  have hav : (if q.domainAnswer.avType ≠ .unspec then q.domainAnswer.avType else .unspec)
      = q.domainAnswer.avType := by
    split
    case isTrue => rfl
    case isFalse h => exact (not_not.1 h).symm
  rw [domainAnswer, hdomain, hthreading, hprogress]
  dsimp only
  rw [hav]
  rfl

/-- What an answer says of endpoints, given back as hints. -/
lemma epAnswer_again {q' : InfoQuery}
    (hep : q'.hints.bind FabricInfo.epAttr = some (q.epAnswer env)) :
    q'.epAnswer env = q.epAnswer env := by
  have hne : (q.epAnswer env).type ≠ .unspec := by
    rw [epAnswer]
    cases q.hints.bind FabricInfo.epAttr with
    | none => exact nofun
    | some attr =>
        dsimp only
        split
        case isTrue h => exact h
        case isFalse => exact nofun
  rw [epAnswer, hep]
  dsimp only
  rw [if_pos hne]
  rfl

/-- Whatever else is asked with an answer as the hints, only the addresses can change. -/
lemma answer_answer {q' : InfoQuery} {lookup' : Lookup} {src' : DpaAddr}
    (hverify : q.dpaVerifyRequirements env = 0)
    (hhints : q'.hints = some (q.answer env lookup src)) :
    q'.answer env lookup' src' = { q.answer env lookup src with
      srcAddr := some src', destAddr := q'.destAddr lookup'
      destAddrlen := if (q'.destAddr lookup').isSome then 8 else 0 } := by
  obtain ⟨all, caps, hgrants⟩ := grants_of_verify hverify
  obtain ⟨hcaps, hagain⟩ := grants_answer env lookup src hgrants
  have hcaps' : ofInt (getEpCaps (q'.hints.map FabricInfo.capabilities))
      = (q.answer env lookup src).caps := by
    rw [hhints, Option.map_some, hagain.found, ofInt_toInt_caps hgrants.caps, hcaps]
  have hdomain : q'.domainAnswer = q.domainAnswer :=
    domainAnswer_again (by rw [hintedDomain, hhints]; rfl)
  have hep : q'.epAnswer env = q.epAnswer env := epAnswer_again (by rw [hhints]; rfl)
  have htx : q'.hints.bind FabricInfo.txAttr = (q.answer env lookup src).txAttr := by
    rw [hhints]; rfl
  have hrx : q'.hints.bind FabricInfo.rxAttr = (q.answer env lookup src).rxAttr := by
    rw [hhints]; rfl
  rw [answer, hdomain, hep, htx, hrx, hcaps']
  rfl

/-- A call that succeeds was not refused, and answers with a source of this node. -/
lemma dpaGetinfo_ok {hints : Option FabricInfo} {info : FabricInfo}
    (hinfo : q.dpaGetinfo env lookup = .ok (hints, .ok info)) :
    q.dpaVerifyRequirements env = 0
      ∧ ∃ src, src.nodeId = env.localNodeId ∧ info = q.answer env lookup src := by
  rw [dpaGetinfo] at hinfo
  dsimp only at hinfo
  split at hinfo
  case isTrue => cases (Prod.mk.inj (Except.ok.inj hinfo)).2
  case isFalse hret =>
      refine ⟨not_not.1 hret, ?_⟩
      split at hinfo
      case isTrue =>
          cases hsrc : resolvename lookup q.node q.service with
          | none =>
              rw [hsrc] at hinfo
              cases hinfo
          | some src =>
              rw [hsrc] at hinfo
              exact ⟨_, rfl, (Except.ok.inj (Prod.mk.inj (Except.ok.inj hinfo)).2).symm⟩
      case isFalse =>
          cases hsrc : q.hintedSrc with
          | none =>
              rw [hsrc] at hinfo
              exact ⟨_, rfl, (Except.ok.inj (Prod.mk.inj (Except.ok.inj hinfo)).2).symm⟩
          | some src =>
              rw [hsrc] at hinfo
              exact ⟨_, rfl, (Except.ok.inj (Prod.mk.inj (Except.ok.inj hinfo)).2).symm⟩

/-- A query with acceptable hints and no service for the source returns, whatever it finds. -/
lemma dpaGetinfo_acceptable {src : DpaAddr} (hversion : q.version ≤ dpaFiVersion)
    (hhints : q.hints = some h) (hacceptable : h.Acceptable env) (hsrc : h.srcAddr = some src)
    (hno : (q.service.isSome && hasAny q.flags fiSource) = false) :
    q.dpaGetinfo env lookup = .ok (q.hints, .ok (q.answer env lookup src)) := by
  have hverify := (verify_iff_meets hversion hhints).2 (q.meets_of_acceptable hacceptable)
  obtain ⟨hlen, hlocal⟩ := hacceptable.src src hsrc
  have hhinted : q.hintedSrc = some src := by
    rw [hintedSrc, hhints, Option.bind_some, if_pos hlen, hsrc]
  have hsame : ({ src with nodeId := env.localNodeId } : DpaAddr) = src := by rw [← hlocal]
  have hkept : { h with srcAddr := some src } = h := by rw [← hsrc]
  rw [dpaGetinfo]
  simp only [hverify, ne_eq, not_true_eq_false, if_false, hno, Bool.false_eq_true, hhinted, hsame]
  rw [hhints, Option.map_some, hkept]

/-- A source that is named is resolved. -/
lemma dpaGetinfo_service {service : List Char} (hverify : q.dpaVerifyRequirements env = 0)
    (hservice : q.service = some service) (hflag : hasAny q.flags fiSource = true)
    (hlookup : ¬ (q.query env).LookupFails lookup) :
    q.dpaGetinfo env lookup
      = .ok (q.hints, .ok (q.answer env lookup ⟨env.localNodeId, serviceId service⟩)) := by
  obtain ⟨nodeId, hsrc⟩ := Query.resolvename_of_service (q := q.query env) hservice hlookup
  rw [query_node, query_service] at hsrc
  rw [dpaGetinfo]
  simp only [hverify, ne_eq, not_true_eq_false, if_false, hsrc, hflag]
  rw [hservice]
  rfl

/-- With an answer as the hints, the result is the same answer to other addresses. -/
lemma dpaGetinfo_again {q' : InfoQuery} {lookup' : Lookup} {hints : Option FabricInfo}
    {info : FabricInfo} (hinfo : q.dpaGetinfo env lookup = .ok (hints, .ok info))
    (hversion : q'.version ≤ dpaFiVersion) (hhints : q'.hints = some info)
    (hlookup : ¬ (q'.query env).LookupFails lookup') :
    q'.dpaGetinfo env lookup' = .ok (some info, .ok { info with
      srcAddr := some ⟨env.localNodeId, (q'.query env).sourceId⟩
      destAddr := (q'.query env).destination lookup'
      destAddrlen := if ((q'.query env).destination lookup').isSome then 8 else 0 }) := by
  obtain ⟨hverify, src, hlocal, rfl⟩ := dpaGetinfo_ok hinfo
  have hacceptable := acceptable_answer lookup hverify hlocal
  have hverify' := (verify_iff_meets hversion hhints).2 (q'.meets_of_acceptable hacceptable)
  rw [← Query.destAddr_eq, query_destAddr, ← answer_answer hverify hhints, ← hhints]
  cases hsource : q'.service.isSome && hasAny q'.flags fiSource with
  | true =>
      obtain ⟨hsome, hflag⟩ := Bool.and_eq_true_iff.1 hsource
      obtain ⟨service, hservice⟩ := Option.isSome_iff_exists.1 hsome
      have hid : (q'.query env).sourceId = serviceId service := by
        rw [Query.sourceId, query_service, hservice, query_flags]
        exact if_pos hflag
      rw [dpaGetinfo_service hverify' hservice hflag hlookup, hid]
  | false =>
      have hid : (q'.query env).sourceId = src.connectId := by
        rw [Query.sourceId_of_hints hsource, query_hintedSrc, hintedSrc, hhints, Option.bind_some]
        rfl
      have hsrc : (⟨env.localNodeId, src.connectId⟩ : DpaAddr) = src := by rw [← hlocal]
      rw [dpaGetinfo_acceptable hversion hhints hacceptable rfl hsource, hid, hsrc]

end InfoQuery
end DpaProvider
