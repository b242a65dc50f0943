import DpaProvider.Info
import DpaProvider.Library.Decimal

/-!
What `dpa_getinfo` says of addresses.

The destination and the source are taken from the node and the service asked for, or from the hints.

* `Query.dpaGetinfo`: the addresses of the answer, and the hints of the caller, to which a source
  address may be written;
* `Query.Resolves`: what the call should do for every node, service, flags and hints;
* `getinfo_resolves_iff`: it does so unless a name that it needs cannot be looked up, or a source of
  another node is hinted at with `FI_SOURCE` and no service.
-/

namespace DpaProvider

/-- `FI_SOURCE`. -/
def fiSource : UInt64 := (1 : UInt64) <<< 57

/-- `DPA_FI_VERSION`. -/
def dpaFiVersion : UInt32 := (1 : UInt32) <<< 16 ||| 3

/-- The `fi_info` that a caller may hint with: its capabilities, whether it meets the checks of
`dpa_verify_requirements` that are neither about them nor about addresses, and its addresses, which
lie apart.  What an address pointer leads to is looked at only if the length is that of a
`dpa_addr_t`. -/
structure Hints where
  info : FiInfo
  checks : Bool
  srcAddr : Option DpaAddr
  srcAddrlen : UInt64
  destAddr : Option DpaAddr
  destAddrlen : UInt64
  deriving DecidableEq, Repr

/-- The addresses in the answer of `dpa_getinfo`, beside what it says of capabilities. -/
structure AddressedInfo where
  info : FiInfo
  srcAddr : DpaAddr
  srcAddrlen : UInt64
  destAddr : Option DpaAddr
  destAddrlen : UInt64
  deriving DecidableEq, Repr

/-- The arguments of a call of `dpa_getinfo`. -/
structure Query where
  version : UInt32
  node : Option (List Char)
  service : Option (List Char)
  flags : UInt64
  hints : Option Hints
  deriving DecidableEq, Repr

/-- `DPAGetNodeIdByAdapterName`: the first node of the list that it gives, if it succeeds. -/
abbrev Lookup := List Char → Option UInt32

/-- The number of a service. -/
def serviceId (service : List Char) : UInt32 := (Decimal.atoi service).toUInt32

/-- `resolvename`; there is no address if the name cannot be looked up. -/
def resolvename (lookup : Lookup) (node service : Option (List Char)) : Option DpaAddr :=
  match node with
  | none => some ⟨0, service.elim 0 serviceId⟩
  | some name => (lookup name).map fun nodeId => ⟨nodeId, service.elim 0 serviceId⟩

namespace Query

/-- The checks of `dpa_verify_requirements` but for those of capabilities. -/
def checks (q : Query) (localNodeId : UInt32) : Bool :=
  q.version ≤ dpaFiVersion && match q.hints with
    | none => true
    | some h =>
        let source := match h.srcAddr with
          | none => true
          | some src => hasAny q.flags fiSource || h.srcAddrlen = 8 && src.nodeId = localNodeId
        let destination := match h.destAddr with
          | none => true
          | some _ => !(q.node.isNone && q.service.isNone || hasAny q.flags fiSource)
              || h.destAddrlen = 8
        source && destination && h.checks

/-- The destination in the hints, if it has the right length. -/
def hintedDest (q : Query) : Option DpaAddr :=
  q.hints.bind fun h => if h.destAddrlen = 8 then h.destAddr else none

/-- The source in the hints, if it has the right length. -/
def hintedSrc (q : Query) : Option DpaAddr :=
  q.hints.bind fun h => if h.srcAddrlen = 8 then h.srcAddr else none

/-- The local variable `dest_addr` of `dpa_getinfo`. -/
def destAddr (q : Query) (lookup : Lookup) : Option DpaAddr :=
  if q.node.isSome && q.service.isSome && !hasAny q.flags fiSource then
    resolvename lookup q.node q.service
  else q.hintedDest

/-- The answer of `dpa_getinfo`, once the addresses are known. -/
def answer (q : Query) (lookup : Lookup) (info : FiInfo) (src : DpaAddr) : AddressedInfo where
  info
  srcAddr := src
  srcAddrlen := 8
  destAddr := q.destAddr lookup
  destAddrlen := if (q.destAddr lookup).isSome then 8 else 0

/-- `dpa_getinfo`: the hints that the caller has afterwards, and the result.  The number of the node
is stored behind `src_addr`, wherever it points to. -/
def dpaGetinfo (q : Query) (localNodeId : UInt32) (lookup : Lookup) :
    Except Stuck (Option Hints × Except Int32 AddressedInfo) :=
  match DpaProvider.dpaGetinfo (q.checks localNodeId) (q.hints.map Hints.info) with
  | .error ret => .ok (q.hints, .error ret)
  | .ok info =>
      if q.service.isSome && hasAny q.flags fiSource then
        match resolvename lookup q.node q.service with
        | none => .error .nullPointer
        | some src => .ok (q.hints, .ok (q.answer lookup info { src with nodeId := localNodeId }))
      else
        match q.hintedSrc with
        | none => .ok (q.hints, .ok (q.answer lookup info ⟨localNodeId, 0⟩))
        | some src =>
            let src := { src with nodeId := localNodeId }
            .ok (q.hints.map fun h => { h with srcAddr := some src },
              .ok (q.answer lookup info src))

/-! ### What the call should do -/

/-- The requirements are not met. -/
def Rejected (q : Query) (localNodeId : UInt32) : Prop :=
  dpaVerifyRequirements (q.checks localNodeId) (q.hints.map Hints.info) ≠ 0

/-- A name has to be looked up if a node and a service are given, for the destination or, with
`FI_SOURCE`, for the source; this fails. -/
def LookupFails (q : Query) (lookup : Lookup) : Prop :=
  ∃ name, q.node = some name ∧ q.service.isSome ∧ lookup name = none

/-- A source of another node is hinted at, with `FI_SOURCE` and without a service. -/
def ForeignSource (q : Query) (localNodeId : UInt32) : Prop :=
  hasAny q.flags fiSource = true ∧ q.service = none
    ∧ ∃ src, q.hintedSrc = some src ∧ src.nodeId ≠ localNodeId

/-- The destination that is asked for: the node and the service unless they are a source, or else
the hinted one. -/
def destination (q : Query) (lookup : Lookup) : Option DpaAddr :=
  match q.node, q.service with
  | some name, some service =>
      if hasAny q.flags fiSource then q.hintedDest
      else (lookup name).map fun nodeId => ⟨nodeId, serviceId service⟩
  | _, _ => q.hintedDest

/-- The number of the source that is asked for: the service with `FI_SOURCE`, or else that of the
hinted source, or 0. -/
def sourceId (q : Query) : UInt32 :=
  match q.service with
  | some service =>
      if hasAny q.flags fiSource then serviceId service
      else q.hintedSrc.elim 0 DpaAddr.connectId
  | none => q.hintedSrc.elim 0 DpaAddr.connectId

/-- The call returns and leaves the hints as they are; its result is an error if a lookup fails, or
else what is asked for. -/
structure Resolves (q : Query) (localNodeId : UInt32) (lookup : Lookup)
    (result : Except Int32 AddressedInfo) : Prop where
  returns : q.dpaGetinfo localNodeId lookup = .ok (q.hints, result)
  fails : q.LookupFails lookup → ∃ ret, ret ≠ 0 ∧ result = .error ret
  dest : ∀ info, result = .ok info → info.destAddr = q.destination lookup
    ∧ info.destAddrlen = if (q.destination lookup).isSome then 8 else 0
  src : ∀ info, result = .ok info → info.srcAddr = ⟨localNodeId, q.sourceId⟩ ∧ info.srcAddrlen = 8

variable {q : Query} {localNodeId : UInt32} {lookup : Lookup}

/-- The destination is the one that is asked for. -/
lemma destAddr_eq (q : Query) (lookup : Lookup) : q.destAddr lookup = q.destination lookup := by
  rw [destAddr, destination]
  cases q.node with
  | none => rfl
  | some name =>
      cases q.service with
      | none => rfl
      | some service => cases hasAny q.flags fiSource <;> rfl

/-- A call whose requirements are not met. -/
lemma dpaGetinfo_of_rejected (h : q.Rejected localNodeId) (lookup : Lookup) :
    ∃ ret, ret ≠ 0 ∧ q.dpaGetinfo localNodeId lookup = .ok (q.hints, .error ret) := by
  have herror : DpaProvider.dpaGetinfo (q.checks localNodeId) (q.hints.map Hints.info) = .error _ :=
    if_pos h
  refine ⟨_, h, ?_⟩
  rw [dpaGetinfo, herror]

/-- A call whose requirements are met gets to the addresses. -/
lemma accepted (h : ¬ q.Rejected localNodeId) :
    ∃ info, DpaProvider.dpaGetinfo (q.checks localNodeId) (q.hints.map Hints.info) = .ok info :=
  ⟨_, if_neg h⟩

/-- The checks are among the requirements. -/
lemma checks_of_accepted (h : ¬ q.Rejected localNodeId) : q.checks localNodeId = true := by
  by_contra hchecks
  refine h ?_
  rw [Rejected, Bool.eq_false_of_not_eq_true hchecks]
  exact of_decide_eq_true rfl

/-- Without `FI_SOURCE` a hinted source is one of this node. -/
lemma nodeId_of_checks (h : q.checks localNodeId = true) (hflag : hasAny q.flags fiSource = false)
    {src : DpaAddr} (hsrc : q.hintedSrc = some src) : src.nodeId = localNodeId := by
  rw [hintedSrc] at hsrc
  obtain ⟨hints, hhints, hsrc⟩ := Option.bind_eq_some_iff.1 hsrc
  split at hsrc
  case isFalse => exact absurd hsrc nofun
  case isTrue hlen =>
      simp only [checks, hhints, hsrc, hflag, Bool.false_or, hlen, decide_true, Bool.true_and,
        Bool.and_eq_true, decide_eq_true_eq] at h
      exact h.2.1.1

/-- The store through `src_addr` leaves the hints as they are if and only if the source is one of
this node. -/
lemma hints_kept_iff {src : DpaAddr} (hsrc : q.hintedSrc = some src) :
    (q.hints.map fun h => { h with srcAddr := some { src with nodeId := localNodeId } }) = q.hints
      ↔ src.nodeId = localNodeId := by
  rw [hintedSrc] at hsrc
  obtain ⟨hints, hhints, hsrc⟩ := Option.bind_eq_some_iff.1 hsrc
  split at hsrc
  case isFalse => exact absurd hsrc nofun
  case isTrue =>
      rw [hhints, Option.map_some, Option.some_inj]
      constructor
      case mp =>
          intro heq
          have hstored := congrArg Hints.srcAddr heq
          rw [hsrc] at hstored
          exact (congrArg DpaAddr.nodeId (Option.some.inj hstored)).symm
      case mpr =>
          rintro rfl
          rw [← hsrc]

/-- The hints after a call that does not take the source from a service. -/
def hintsAfter (q : Query) (localNodeId : UInt32) : Option Hints :=
  match q.hintedSrc with
  | none => q.hints
  | some src => q.hints.map fun h => { h with srcAddr := some { src with nodeId := localNodeId } }

/-- They are the same unless a source of another node is hinted at. -/
lemma hintsAfter_eq_iff (hchecks : q.checks localNodeId = true)
    (hno : (q.service.isSome && hasAny q.flags fiSource) = false) :
    q.hintsAfter localNodeId = q.hints ↔ ¬ q.ForeignSource localNodeId := by
  rw [hintsAfter]
  cases hsrc : q.hintedSrc with
  | none => exact iff_of_true rfl fun h => by obtain ⟨-, -, src, h, -⟩ := h; cases hsrc.symm.trans h
  | some src =>
      dsimp only
      rw [hints_kept_iff hsrc]
      constructor
      case mp =>
          rintro hlocal ⟨-, -, src', hsrc', hforeign⟩
          obtain rfl := Option.some.inj (hsrc.symm.trans hsrc')
          exact hforeign hlocal
      case mpr =>
          intro hnot
          cases hflag : hasAny q.flags fiSource with
          | false => exact nodeId_of_checks hchecks hflag hsrc
          | true =>
              rw [hflag, Bool.and_true, Option.isSome_eq_false_iff,
                Option.isNone_iff_eq_none] at hno
              by_contra hforeign
              exact hnot ⟨hflag, hno, src, hsrc, hforeign⟩

/-- A source that is not the service has the number in the hints. -/
lemma sourceId_of_hints (hno : (q.service.isSome && hasAny q.flags fiSource) = false) :
    q.sourceId = q.hintedSrc.elim 0 DpaAddr.connectId := by
  rw [sourceId]
  cases hservice : q.service with
  | none => rfl
  | some service =>
      rw [hservice, Option.isSome_some, Bool.true_and] at hno
      dsimp only
      rw [hno]
      rfl

/-- A call that does not take the source from a service. -/
lemma dpaGetinfo_of_hints {info : FiInfo}
    (hinfo : DpaProvider.dpaGetinfo (q.checks localNodeId) (q.hints.map Hints.info) = .ok info)
    (hno : (q.service.isSome && hasAny q.flags fiSource) = false) (lookup : Lookup) :
    q.dpaGetinfo localNodeId lookup = .ok (q.hintsAfter localNodeId,
      .ok (q.answer lookup info ⟨localNodeId, q.sourceId⟩)) := by
  rw [dpaGetinfo, hinfo, sourceId_of_hints hno, hintsAfter]
  dsimp only
  rw [hno]
  cases q.hintedSrc <;> rfl

/-- There is no address for a name that cannot be looked up. -/
lemma resolvename_of_fails (h : q.LookupFails lookup) :
    resolvename lookup q.node q.service = none := by
  obtain ⟨name, hnode, -, hname⟩ := h
  rw [hnode, resolvename, hname, Option.map_none]

/-- Otherwise there is one, with the number of the service. -/
lemma resolvename_of_service {service : List Char} (hservice : q.service = some service)
    (h : ¬ q.LookupFails lookup) :
    ∃ nodeId, resolvename lookup q.node q.service = some ⟨nodeId, serviceId service⟩ := by
  rw [hservice]
  cases hnode : q.node with
  | none => exact ⟨0, rfl⟩
  | some name =>
      cases hname : lookup name with
      | none => exact absurd ⟨name, hnode, by rw [hservice]; rfl, hname⟩ h
      | some nodeId => exact ⟨nodeId, by rw [resolvename, hname]; rfl⟩

/-- A call that takes the source from a service. -/
lemma dpaGetinfo_of_service {info : FiInfo} {service : List Char}
    (hinfo : DpaProvider.dpaGetinfo (q.checks localNodeId) (q.hints.map Hints.info) = .ok info)
    (hservice : q.service = some service) (hflag : hasAny q.flags fiSource = true)
    (hlookup : ¬ q.LookupFails lookup) :
    q.dpaGetinfo localNodeId lookup
      = .ok (q.hints, .ok (q.answer lookup info ⟨localNodeId, q.sourceId⟩)) := by
  have hid : q.sourceId = serviceId service := by
    rw [sourceId, hservice]
    exact if_pos hflag
  obtain ⟨nodeId, hsrc⟩ := resolvename_of_service hservice hlookup
  rw [dpaGetinfo, hinfo, hid]
  dsimp only
  rw [hsrc, hservice, hflag]
  rfl

/-- A name that cannot be looked up gives a null pointer for a source. -/
lemma dpaGetinfo_nullPointer {info : FiInfo} {service : List Char}
    (hinfo : DpaProvider.dpaGetinfo (q.checks localNodeId) (q.hints.map Hints.info) = .ok info)
    (hservice : q.service = some service) (hflag : hasAny q.flags fiSource = true)
    (hlookup : q.LookupFails lookup) : q.dpaGetinfo localNodeId lookup = .error .nullPointer := by
  rw [dpaGetinfo, hinfo]
  dsimp only
  rw [resolvename_of_fails hlookup, hservice, hflag]
  rfl

/-- What is returned is what is asked for. -/
lemma resolves_answer {info : FiInfo} (hlookup : ¬ q.LookupFails lookup)
    (hreturns : q.dpaGetinfo localNodeId lookup
      = .ok (q.hints, .ok (q.answer lookup info ⟨localNodeId, q.sourceId⟩))) :
    q.Resolves localNodeId lookup (.ok (q.answer lookup info ⟨localNodeId, q.sourceId⟩)) where
  returns := hreturns
  fails h := absurd h hlookup
  dest _ h := by
    rw [← Except.ok.inj h, answer, destAddr_eq]
    exact ⟨rfl, rfl⟩
  src _ h := by
    rw [← Except.ok.inj h]
    exact ⟨rfl, rfl⟩

/-- The call does what it should exactly if its requirements are not met, or if no name that it
needs fails to be looked up and no source of another node is hinted at. -/
theorem getinfo_resolves_iff (q : Query) (localNodeId : UInt32) (lookup : Lookup) :
    (∃ result, q.Resolves localNodeId lookup result)
      ↔ q.Rejected localNodeId ∨ ¬ q.LookupFails lookup ∧ ¬ q.ForeignSource localNodeId := by
  by_cases hrejected : q.Rejected localNodeId
  · obtain ⟨ret, hret, hreturns⟩ := dpaGetinfo_of_rejected hrejected lookup
    refine iff_of_true ⟨.error ret, hreturns, fun _ => ⟨ret, hret, rfl⟩, ?_, ?_⟩ (.inl hrejected)
    · exact fun info h => nomatch h
    · exact fun info h => nomatch h
  obtain ⟨info, hinfo⟩ := accepted hrejected
  rw [or_iff_right hrejected]
  cases hsource : q.service.isSome && hasAny q.flags fiSource with
  | true =>
      -- the source is the service: a null pointer is followed if its node is not known
      obtain ⟨hsome, hflag⟩ := Bool.and_eq_true_iff.1 hsource
      obtain ⟨service, hservice⟩ := Option.isSome_iff_exists.1 hsome
      have hlocal : ¬ q.ForeignSource localNodeId := fun h => nomatch hservice.symm.trans h.2.1
      rw [and_iff_left hlocal]
      constructor
      case mp =>
          rintro ⟨result, h⟩ hlookup
          exact nomatch (dpaGetinfo_nullPointer hinfo hservice hflag hlookup).symm.trans h.returns
      case mpr =>
          intro hlookup
          exact ⟨_, resolves_answer hlookup (dpaGetinfo_of_service hinfo hservice hflag hlookup)⟩
  | false =>
      -- the source is hinted at or new: the call returns, whatever becomes of the destination
      have hreturns := dpaGetinfo_of_hints hinfo hsource lookup
      rw [← hintsAfter_eq_iff (checks_of_accepted hrejected) hsource]
      constructor
      case mp =>
          rintro ⟨result, h⟩
          obtain ⟨hkept, hresult⟩ := Prod.mk.inj (Except.ok.inj (hreturns.symm.trans h.returns))
          refine ⟨fun hlookup => ?_, hkept⟩
          obtain ⟨ret, -, herror⟩ := h.fails hlookup
          exact nomatch hresult.trans herror
      case mpr =>
          rintro ⟨hlookup, hkept⟩
          rw [hkept] at hreturns
          exact ⟨_, resolves_answer hlookup hreturns⟩

/-- A query for the service 7 of a node, without hints. -/
def byName (flags : UInt64) : Query :=
  { version := dpaFiVersion, node := some ['d', 'p', 'a'], service := some ['7'], flags,
    hints := none }

/-- A query with `FI_SOURCE` and the hint at a source of node 5. -/
def byHint : Query where
  version := dpaFiVersion
  node := none
  service := none
  flags := fiSource
  hints := some
    { info := ⟨0, none⟩, checks := true, srcAddr := some ⟨5, 9⟩, srcAddrlen := 8, destAddr := none
      destAddrlen := 0 }

/-- If the name cannot be looked up, the first call succeeds without a destination and the second
one follows a null pointer; on node 1 the third call writes over the hint. -/
theorem getinfo_unresolved :
    (¬ ∃ result, (byName 0).Resolves 1 (fun _ => none) result)
      ∧ (¬ ∃ result, (byName fiSource).Resolves 1 (fun _ => none) result)
      ∧ ¬ ∃ result, byHint.Resolves 1 (fun _ => none) result := by
  refine ⟨?_, ?_, ?_⟩
  · rintro ⟨result, h⟩
    have hrun : ∃ info, (byName 0).dpaGetinfo 1 (fun _ => none) = .ok (none, .ok info) := ⟨_, rfl⟩
    obtain ⟨info, hrun⟩ := hrun
    obtain ⟨ret, -, herror⟩ := h.fails ⟨_, rfl, rfl, rfl⟩
    have hresult := (Prod.mk.inj (Except.ok.inj (hrun.symm.trans h.returns))).2
    exact nomatch hresult.trans herror
  · rintro ⟨result, h⟩
    have hrun : (byName fiSource).dpaGetinfo 1 (fun _ => none) = .error .nullPointer := rfl
    exact nomatch hrun.symm.trans h.returns
  · rintro ⟨result, h⟩
    have hrun : ∃ hints info, byHint.dpaGetinfo 1 (fun _ => none) = .ok (hints, .ok info)
        ∧ hints ≠ byHint.hints := ⟨_, _, rfl, by decide⟩
    obtain ⟨hints, info, hrun, hchanged⟩ := hrun
    exact hchanged (Prod.mk.inj (Except.ok.inj (hrun.symm.trans h.returns))).1

end Query

end DpaProvider
