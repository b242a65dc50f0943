import DpaProvider.Cm.Handshake
import DpaProvider.Cm.Release
import DpaProvider.Info

/-!
Which endpoints are for messages.

`can_msg` and `dpa_shutdown` look for `FI_MSG`, `alloc_msg_buffer` and `connect_msg` for `FI_RECV`
or `FI_SEND`.

* `msgOps`, `msgQueues`: what `dpa_ep_open` gives an endpoint for messages;
* `checkEpCaps_eq`, `effective_recvSend`: the capabilities of an endpoint, and what becomes of the
  bits that are tested;
* `OneMeaning`: the four functions agree;
* `capable`: they do exactly if no one asks for `FI_RECV` or `FI_SEND` without `FI_MSG`.
-/

namespace DpaProvider

open Effect

/-! ### What `dpa_ep_open` gives an endpoint for messages -/

/-- An operation of a table: that of the provider, or the one of `enosys.h` that refuses. -/
inductive MsgOp where
  | dpa
  | fiNo
  deriving DecidableEq, Repr

/-- The `fi_ops_msg`. -/
structure FiOpsMsg where
  recv : MsgOp
  recvv : MsgOp
  recvmsg : MsgOp
  send : MsgOp
  sendv : MsgOp
  sendmsg : MsgOp
  inject : MsgOp
  senddata : MsgOp
  injectdata : MsgOp
  deriving DecidableEq, Repr

/-- `dpa_msg_ops`. -/
def dpaMsgOps : FiOpsMsg where
  recv := .dpa
  recvv := .dpa
  recvmsg := .dpa
  send := .dpa
  sendv := .dpa
  sendmsg := .dpa
  inject := .fiNo
  senddata := .fiNo
  injectdata := .fiNo

/-- `can_msg`. -/
def canMsg (caps : UInt64) : Bool := hasAny caps fiMsg

/-- The table of an endpoint with the capabilities, if it gets one. -/
def msgOps (caps : UInt64) : Option FiOpsMsg :=
  if canMsg caps then
    let ops := dpaMsgOps
    let ops :=
      if !hasAny caps fiRecv then { ops with recv := .fiNo, recvv := .fiNo, recvmsg := .fiNo }
      else ops
    if !hasAny caps fiSend then some { ops with send := .fiNo, sendv := .fiNo, sendmsg := .fiNo }
    else some ops
  else none

/-- Its queues, if they are initialised; their first nodes hold `entries`. -/
def msgQueues (caps : UInt64) (entries : ℕ → MsgQueueEntry) : Option (Direction → MsgQueue) :=
  if canMsg caps then some fun _ => .new entries else none

lemma msgOps_isSome (caps : UInt64) : (msgOps caps).isSome = canMsg caps := by
  rw [msgOps]
  split
  case isFalse h => rw [Bool.not_eq_true] at h; rw [h]; rfl
  case isTrue h =>
      rw [h]
      dsimp only
      split <;> rfl

lemma msgQueues_isSome (caps : UInt64) (entries : ℕ → MsgQueueEntry) :
    (msgQueues caps entries).isSome = canMsg caps := by
  rw [msgQueues]
  split
  case isFalse h => rw [Bool.not_eq_true] at h; rw [h]; rfl
  case isTrue h => rw [h]; rfl

/-- An endpoint has the capabilities that `check_ep_caps` makes of those asked for. -/
lemma caps_dpaEpOpen {fid : ℕ} {caps : UInt64} {destAddr : DpaAddr} {autoProgress lockNeeded : Bool}
    {entries : ℕ → MsgQueueEntry} {ep : Endpoint}
    (hopen : dpaEpOpen fid caps destAddr autoProgress lockNeeded entries = .ok ep) :
    checkEpCaps caps ≠ 0 ∧ ep.caps = checkEpCaps caps ∧ ep.queue = fun _ => .new entries := by
  simp only [dpaEpOpen] at hopen
  split at hopen
  case isTrue => cases hopen
  case isFalse hne =>
      obtain rfl := Except.ok.inj hopen
      exact ⟨hne, rfl, rfl⟩

/-! ### The capabilities of an endpoint -/

section Effective

variable {caps : UInt64}

lemma checkEpCaps_eq (hsub : caps &&& dpaEpMsgCap = caps) :
    checkEpCaps caps = Mask.fill dpaRmaCap fiRma (Mask.fill dpaMsgCap fiMsg caps) :=
  if_neg (not_not.2 hsub)

/-- Nothing that was asked for is lost. -/
lemma and_checkEpCaps (hsub : caps &&& dpaEpMsgCap = caps) : caps &&& checkEpCaps caps = caps := by
  rw [checkEpCaps_eq hsub]
  exact Mask.and_eq_left_trans (Mask.and_fill_self ..) (Mask.and_fill_self ..)

/-- There is nothing that is not supported. -/
lemma checkEpCaps_and (hsub : caps &&& dpaEpMsgCap = caps) :
    checkEpCaps caps &&& dpaEpMsgCap = checkEpCaps caps := by
  rw [checkEpCaps_eq hsub]
  exact Mask.fill_and (Mask.fill_and hsub (by decide)) (by decide)

lemma checkEpCaps_checkEpCaps (hsub : caps &&& dpaEpMsgCap = caps) :
    checkEpCaps (checkEpCaps caps) = checkEpCaps caps := by
  rw [checkEpCaps_eq (checkEpCaps_and hsub), checkEpCaps_eq hsub]
  calc Mask.fill dpaRmaCap fiRma (Mask.fill dpaMsgCap fiMsg
          (Mask.fill dpaRmaCap fiRma (Mask.fill dpaMsgCap fiMsg caps)))
      = Mask.fill dpaRmaCap fiRma (Mask.fill dpaRmaCap fiRma
          (Mask.fill dpaMsgCap fiMsg (Mask.fill dpaMsgCap fiMsg caps))) := by
        rw [Mask.fill_comm (by decide : dpaMsgCap &&& dpaRmaCap = 0)]
    _ = Mask.fill dpaRmaCap fiRma (Mask.fill dpaMsgCap fiMsg caps) := by
        rw [Mask.fill_fill, Mask.fill_fill]

/-- `FI_MSG` is neither added nor lost. -/
lemma effective_msg (hsub : caps &&& dpaEpMsgCap = caps) :
    hasAny (checkEpCaps caps) fiMsg = hasAny caps fiMsg := by
  rw [checkEpCaps_eq hsub, hasAny, hasAny, Mask.fill_and_group (by decide),
    Mask.fill_and_bit (by decide)]

/-- The directions are added to `FI_MSG` if it is alone. -/
lemma effective_recvSend (hsub : caps &&& dpaEpMsgCap = caps) :
    hasAny (checkEpCaps caps) (fiRecv ||| fiSend)
      = (hasAny caps fiMsg || hasAny caps (fiRecv ||| fiSend)) := by
  rw [checkEpCaps_eq hsub, hasAny, Mask.fill_and_group (by decide)]
  by_cases halone : caps &&& dpaMsgCap = fiMsg
  · have hmsg : caps &&& fiMsg = fiMsg := by
      calc caps &&& fiMsg = caps &&& dpaMsgCap &&& fiMsg := by rw [UInt64.and_assoc]; rfl
        _ = fiMsg := by rw [halone]; rfl
    have hleft : hasAny caps fiMsg = true := by rw [hasAny, hmsg]; rfl
    rw [hleft, Bool.true_or, bne_iff_ne]
    exact Mask.fill_and_ne_zero halone (by decide)
  · rw [Mask.fill_of_ne halone, ← hasAny, eq_comm, Bool.or_eq_right_iff_imp]
    -- with `FI_MSG` there is something besides it
    intro hmsg
    by_contra hnone
    apply halone
    rw [hasAny, bne_iff_ne, not_not] at hnone
    have hmsg : caps &&& fiMsg = fiMsg :=
      (Mask.and_bit caps 1 (by simp)).resolve_left (bne_iff_ne.1 hmsg)
    calc caps &&& dpaMsgCap = caps &&& fiMsg ||| caps &&& (fiRecv ||| fiSend) :=
          Mask.and_or_distrib fiMsg (fiRecv ||| fiSend)
      _ = fiMsg := by rw [hmsg, hnone, UInt64.or_zero]

/-- So the two tests agree unless a direction was asked for by itself. -/
lemma effective_agree (hsub : caps &&& dpaEpMsgCap = caps) :
    hasAny (checkEpCaps caps) (fiRecv ||| fiSend) = hasAny (checkEpCaps caps) fiMsg
      ↔ (hasAny caps (fiRecv ||| fiSend) = true → hasAny caps fiMsg = true) := by
  rw [effective_recvSend hsub, effective_msg hsub, Bool.or_eq_left_iff_imp]

end Effective

/-! ### Connections -/

namespace Site

variable {s t : Site} {data data' : SegmentData} {err : DpaError}

/-- The mapping of the ring of the peer. -/
def mapping : Frame Site := .same fun s => s.connection.map

lemma keeps_connectInterrupts : Keeps mapping (connectInterrupts data) := by
  have hlibrary : Ignores mapping .library := fun _ _ => rfl
  refine keeps_bind keeps_get fun s => keeps_bind (keeps_connectRemoteInterrupt hlibrary _ _ _
    fun _ => keeps_modify fun _ => rfl) fun err => keeps_ite (keeps_pure _) ?_
  refine keeps_bind (keeps_connectRemoteInterrupt hlibrary _ _ _
    fun _ => keeps_modify fun _ => rfl) fun err => keeps_ite (keeps_pure _) ?_
  refine keeps_bind (keeps_eqAdd (fun _ _ => rfl) _ _) fun _ => ?_
  refine keeps_bind (keeps_modify fun _ => rfl) fun _ => keeps_ite (keeps_pure _) ?_
  exact keeps_bind keeps_get fun _ => keeps_pure _

/-- An endpoint that carries messages has mapped the ring of the peer once it is connected; another
one maps nothing. -/
lemma connectMsg_mapping (hrun : connectMsg data s = .ok (err, t)) :
    (s.host.ep.carriesMessages = true → err = .ok → t.connection.map ≠ none)
      ∧ (s.host.ep.carriesMessages = false → t.connection.map = s.connection.map) := by
  rw [connectMsg_eq] at hrun
  obtain ⟨err₁, s₁, hsegment, hrun⟩ := run_bind_ok hrun
  constructor
  · rintro hcarries rfl
    rcases connectSegment_cases hcarries hsegment with
      ⟨herr, -⟩ | ⟨herr, -⟩ | ⟨rfl, -, -, -, segment, map, sequence, hc, -⟩
    · rw [if_pos herr] at hrun
      exact absurd (Prod.mk.inj (Except.ok.inj hrun)).1 herr
    · rw [if_pos herr] at hrun
      exact absurd (Prod.mk.inj (Except.ok.inj hrun)).1 herr
    · rw [if_neg (not_not.2 rfl)] at hrun
      have hkept : t.connection.map = s₁.connection.map := keeps_connectInterrupts _ _ _ hrun
      rw [hkept, hc]
      exact nofun
  · intro hplain
    have hnothing : connectSegment data s = .ok (.ok, s) := by
      have hno : hasAny s.host.ep.caps (fiRecv ||| fiSend) = false := hplain
      rw [connectSegment, get_bind, hno]
      rfl
    rw [hnothing] at hsegment
    obtain ⟨rfl, rfl⟩ := Prod.mk.inj (Except.ok.inj hsegment)
    rw [if_neg (not_not.2 rfl)] at hrun
    exact keeps_connectInterrupts _ _ _ hrun

lemma returns_connectRemoteInterrupt (needed : Bool) (sd : Option Handle) (id : UInt32)
    {save : Option Handle → Prog Unit} (hsave : ∀ h, Returns (save h)) :
    Returns (connectRemoteInterrupt needed sd id save) := by
  refine returns_ite ?_ (returns_bind (hsave _) fun _ => returns_pure _)
  refine returns_bind returns_get fun s => returns_bind (returns_lib _) fun r => ?_
  exact returns_ite (returns_pure _) (returns_bind (hsave _) fun _ => returns_pure _)

lemma returns_createStartSequence (map : Option Handle) : Returns (createStartSequence map) := by
  refine returns_bind (returns_lib _) fun r => returns_ite (returns_pure _) ?_
  exact returns_bind (returns_lib _) fun _ => returns_pure _

lemma returns_eqAdd (eq : Option ℕ) (event : EqEvent) : Returns (eqAdd eq event) := by
  cases eq with
  | none => exact returns_pure _
  | some q => exact returns_modify _

/-- To connect always comes to an end. -/
lemma returns_connectMsg (data : SegmentData) : Returns (connectMsg data) := by
  refine returns_bind (returns_bind returns_get fun s =>
    returns_ite (returns_pure _) ?_) fun err => ?_
  · refine returns_bind (returns_lib _) fun r => returns_ite (returns_pure _) ?_
    refine returns_bind (returns_modify _) fun _ => returns_bind (returns_lib _) fun r => ?_
    refine returns_ite (returns_pure _) (returns_bind (returns_modify _) fun _ => ?_)
    refine returns_bind (returns_createStartSequence _) fun sequence => ?_
    exact returns_bind (returns_modify _) fun _ => returns_pure _
  · refine returns_ite (returns_pure _) (returns_bind returns_get fun s => ?_)
    refine returns_bind (returns_connectRemoteInterrupt _ _ _ fun _ => returns_modify _) fun err =>
      returns_ite (returns_pure _) ?_
    refine returns_bind (returns_connectRemoteInterrupt _ _ _ fun _ => returns_modify _) fun err =>
      returns_ite (returns_pure _) (returns_bind (returns_eqAdd _ _) fun _ => ?_)
    refine returns_bind (returns_modify _) fun _ => returns_ite (returns_pure _) ?_
    exact returns_bind returns_get fun _ => returns_pure _

/-- `dpa_shutdown` gives the mapping back exactly with `FI_MSG`. -/
lemma dpaShutdown_mapping {h : Handle} {result : FiErr} (hmap : s.connection.map = some h)
    (hrun : dpaShutdown s = .ok (result, t)) :
    .unmapSegment (some h) ∈ t.dpa.calls.drop s.dpa.calls.length
      ↔ hasAny s.host.ep.caps fiMsg = true := by
  rw [dpaShutdown, get_bind, ite_run] at hrun
  split at hrun
  case isTrue hno =>
      obtain ⟨-, rfl⟩ := Prod.mk.inj (Except.ok.inj hrun)
      rw [Bool.not_eq_true'] at hno
      simp [hno]
  case isFalse hmsg =>
      obtain ⟨r, s₁, hdisconnect, hrun⟩ := run_bind_ok hrun
      obtain ⟨-, rfl⟩ := Prod.mk.inj (Except.ok.inj hrun)
      rw [Bool.not_eq_true', Bool.not_eq_false] at hmsg
      rw [disconnectMsg_eq hdisconnect, List.drop_left]
      refine iff_of_true (List.mem_map_of_mem (f := Resource.back) (a := .map h) ?_) hmsg
      exact Connection.mem_resources.2 (.inr (.inl ⟨h, hmap, rfl⟩))

end Site

/-! ### One meaning -/

/-- What a call is to gain exactly for the endpoints with a table: it gains nothing for others, and
all of them have it if the call succeeds. -/
def GainedWith (table : Bool) (err : DpaError) (gained : Prop) : Prop :=
  (gained → table = true) ∧ (err = .ok → table = true → gained)

/-- An endpoint with the capabilities is for messages to all of the functions, or to none. -/
structure OneMeaning (caps : UInt64) : Prop where
  queues : ∀ entries, (msgQueues caps entries).isSome = (msgOps caps).isSome
  reserves : ∀ (s t : Site) (data data' : SegmentData) (err : DpaError), s.host.ep.caps = caps →
    s.host.ep.recvInfo.buffer = none → Site.allocMsgBuffer data s = .ok ((err, data'), t) →
    GainedWith (msgOps caps).isSome err (t.host.ep.recvInfo.buffer ≠ none)
  maps : ∀ (s t : Site) (data : SegmentData) (err : DpaError), s.host.ep.caps = caps →
    s.host.ep.sendInfo.remoteMap = none → Site.connectMsg data s = .ok (err, t) →
    GainedWith (msgOps caps).isSome err (t.host.ep.sendInfo.remoteMap ≠ none)
  unmaps : ∀ (s t : Site) (result : FiErr) (map : Handle), s.host.ep.caps = caps →
    s.host.ep.sendInfo.remoteMap = some map → Site.dpaShutdown s = .ok (result, t) →
    (.unmapSegment (some map) ∈ t.dpa.calls.drop s.dpa.calls.length
      ↔ (msgOps caps).isSome = true)

/-- A new endpoint with the capabilities, with a library that grants every call. -/
def connecting (caps : UInt64) : Site :=
  .granted { Site.opened 0 fiMsg ⟨2, 7⟩ with ep.caps := caps }

/-- Connecting shows the difference, if there is one. -/
lemma OneMeaning.agree {caps : UInt64} (h : OneMeaning caps) :
    hasAny caps (fiRecv ||| fiSend) = hasAny caps fiMsg := by
  obtain ⟨⟨err, t⟩, hrun⟩ := Site.returns_connectMsg (.ofNode 0) (connecting caps)
  have hok : err = .ok := by
    rw [(Site.connectMsg_granted (s := connecting caps) (fun _ => rfl) hrun).2]
    exact ite_self _
  obtain ⟨honly, hall⟩ := h.maps (connecting caps) t _ err rfl rfl hrun
  obtain ⟨hcarries, hplain⟩ := Site.connectMsg_mapping hrun
  rw [msgOps_isSome] at honly hall
  have hiff : hasAny caps (fiRecv ||| fiSend) = true ↔ hasAny caps fiMsg = true := by
    constructor
    · exact fun hdirections => honly (hcarries hdirections hok)
    · intro hmsg
      by_contra hno
      exact hall hok hmsg (hplain (Bool.not_eq_true _ ▸ hno))
  exact Bool.eq_iff_iff.2 hiff

/-- The functions agree if the two tests do. -/
lemma oneMeaning_of_agree {caps : UInt64}
    (h : hasAny caps (fiRecv ||| fiSend) = hasAny caps fiMsg) : OneMeaning caps := by
  have htable : (msgOps caps).isSome = hasAny caps fiMsg := msgOps_isSome caps
  constructor
  case queues => exact fun entries => by rw [msgQueues_isSome, msgOps_isSome]
  case reserves =>
      rintro s t data data' err rfl hnone hrun
      obtain ⟨hcarries, hplain⟩ := Site.allocMsgBuffer_carries hrun
      rw [htable, ← h]
      refine ⟨fun hsome => ?_, hcarries⟩
      by_contra hno
      exact hsome ((hplain (Bool.not_eq_true _ ▸ hno)).2 ▸ hnone)
  case maps =>
      rintro s t data err rfl hnone hrun
      obtain ⟨hcarries, hplain⟩ := Site.connectMsg_mapping hrun
      rw [htable, ← h]
      refine ⟨fun hsome => ?_, fun hok hdirections => hcarries hdirections hok⟩
      by_contra hno
      exact hsome ((hplain (Bool.not_eq_true _ ▸ hno)).trans hnone)
  case unmaps =>
      rintro s t result map rfl hmap hrun
      rw [htable]
      exact Site.dpaShutdown_mapping hmap hrun

/-- What is expected of the capabilities of an endpoint, for those asked for. -/
structure Capable (requested caps : UInt64) : Prop where
  superset : requested &&& caps = requested
  supported : caps &&& dpaEpMsgCap = caps
  idempotent : checkEpCaps caps = caps
  meaning : OneMeaning caps

/-- An `FI_EP_MSG` endpoint, asked for with `dpa_getinfo`, is as expected exactly if neither
`FI_RECV` nor `FI_SEND` was asked for without `FI_MSG`. -/
theorem capable {checks : Bool} {hints : Option FiInfo} {info : FiInfo} {fid : ℕ}
    {destAddr : DpaAddr} {autoProgress lockNeeded : Bool} {entries : ℕ → MsgQueueEntry}
    {ep : Endpoint} (hinfo : dpaGetinfo checks hints = .ok info) (hmsg : info.epAttr = some .msg)
    (hopen : dpaEpOpen fid info.caps destAddr autoProgress lockNeeded entries = .ok ep) :
    Capable (requested hints) ep.caps
      ↔ (hasAny (requested hints) (fiRecv ||| fiSend) = true
        → hasAny (requested hints) fiMsg = true) := by
  obtain ⟨hcaps, hrequested⟩ := getinfo_caps hinfo hmsg
  obtain ⟨-, heffective, -⟩ := caps_dpaEpOpen hopen
  have hsub : info.caps &&& dpaEpMsgCap = info.caps := by
    rw [hcaps]
    split
    · exact hrequested
    · exact UInt64.and_self
  have hkept : requested hints &&& info.caps = requested hints := by
    rw [hcaps]
    split
    · exact UInt64.and_self
    · exact hrequested
  have hasked : (hasAny info.caps (fiRecv ||| fiSend) = true → hasAny info.caps fiMsg = true)
      ↔ (hasAny (requested hints) (fiRecv ||| fiSend) = true
        → hasAny (requested hints) fiMsg = true) := by
    rw [hcaps]
    split
    case isTrue => exact Iff.rfl
    case isFalse hzero =>
        rw [not_not.1 hzero]
        exact iff_of_true (fun _ => rfl) nofun
  rw [heffective, ← hasked, ← effective_agree hsub]
  constructor
  · exact fun h => h.meaning.agree
  · intro hagree
    exact ⟨Mask.and_eq_left_trans hkept (and_checkEpCaps hsub), checkEpCaps_and hsub,
      checkEpCaps_checkEpCaps hsub, oneMeaning_of_agree hagree⟩

theorem capable_all : ∃ info ep,
    dpaGetinfo true none = .ok info
      ∧ dpaEpOpen 0 info.caps ⟨2, 7⟩ false false (fun _ => ⟨fun _ => 0, 0, 0, 0⟩) = .ok ep
      ∧ (Capable (requested none) ep.caps
        ↔ (hasAny (requested none) (fiRecv ||| fiSend) = true
          → hasAny (requested none) fiMsg = true)) := by
  have hinfo : dpaGetinfo true none = .ok ⟨dpaEpMsgCap, some .msg⟩ := rfl
  exact ⟨_, _, hinfo, rfl, capable hinfo rfl rfl⟩

/-- With `FI_SEND` alone there is no table, and what is mapped is not given back. -/
theorem send_alone : ∃ info ep t,
    dpaGetinfo true (some ⟨fiSend, some .msg⟩) = .ok info ∧ info.epAttr = some .msg
      ∧ dpaEpOpen 0 info.caps ⟨2, 7⟩ false false (fun _ => ⟨fun _ => 0, 0, 0, 0⟩) = .ok ep
      ∧ msgOps ep.caps = none
      ∧ Site.connectMsg (.ofNode 0) (connecting ep.caps) = .ok (.ok, t)
      ∧ t.host.ep.sendInfo.remoteMap ≠ none ∧ Site.dpaShutdown t = .ok (.success, t)
      ∧ ¬ Capable fiSend ep.caps := by
  refine ⟨_, _, _, rfl, rfl, rfl, rfl, rfl, nofun, rfl, fun h => ?_⟩
  exact absurd h.meaning.agree (by decide)

end DpaProvider
