import DpaProvider.Rma.Coherence

/-!
Flushing before the data is announced.

What a write copies into a mapping is visible at the target only after a flush through the
sequence of that mapping.  A `Writer` keeps the stores of its writes beside the record of the
library, so that it can be said of each interrupt and of each write which stores were flushed
before.  The code flushes only at the end of a write with neither `FI_MORE` nor
`FI_REMOTE_CQ_DATA`, and only the current mapping; `flush_before_visibility` says for which runs
that is enough.
-/

namespace DpaProvider

open ByteMem Host Dpa Effect

/-- The bytes that a write has copied into a mapping: after how many calls to the library, the map,
and how many. -/
structure Store where
  time : ℕ
  map : Option Handle
  copied : UInt64

/-- The bytes of a store are flushed before the call `i`: there was a flush since, through a
sequence of the same map. -/
def Dpa.Flushed (d : Dpa) (st : Store) (i : ℕ) : Prop :=
  st.copied = 0 ∨ ∃ j q, st.time ≤ j ∧ j < i ∧ d.calls[j]? = some (.flush (some q))
    ∧ (d.replies q).err = .ok ∧ d.calls[q]? = some (.createMapSequence st.map)

/-- Whenever a remote interrupt is triggered, what was stored before it is flushed. -/
def Dpa.Visible (d : Dpa) (stores : List Store) : Prop :=
  ∀ i h, d.calls[i]? = some (.triggerInterrupt h) → ∀ st ∈ stores, st.time ≤ i → d.Flushed st i

/-- Everything stored is flushed. -/
def Dpa.Settled (d : Dpa) (stores : List Store) : Prop :=
  ∀ st ∈ stores, d.Flushed st d.calls.length

/-- What is not flushed was stored through the cached mapping. -/
def Dpa.Through (d : Dpa) (c : RemoteMrCache) (stores : List Store) : Prop :=
  ∀ st ∈ stores, d.Flushed st d.calls.length ∨ ∃ m, MappedBy d c m ∧ st.map = some m.map

namespace Dpa

variable {d d' : Dpa} {c : RemoteMrCache} {st : Store} {stores : List Store} {i : ℕ}

lemma Extends.getElem? (he : d.Extends d') {a : DpaCall} (h : d.calls[i]? = some a) :
    d'.calls[i]? = some a := by
  obtain ⟨hlt, -⟩ := List.getElem?_eq_some_iff.1 h
  obtain ⟨l, hl⟩ := he.calls
  rw [← hl, List.getElem?_append_left hlt, h]

lemma Extends.length_le (he : d.Extends d') : d.calls.length ≤ d'.calls.length :=
  he.calls.length_le

lemma Flushed.mono (h : d.Flushed st i) (he : d.Extends d') {i' : ℕ} (hi : i ≤ i') :
    d'.Flushed st i' := by
  refine h.imp_right ?_
  rintro ⟨j, q, htime, hlt, hflush, hok, hmade⟩
  exact ⟨j, q, htime, hlt.trans_le hi, he.getElem? hflush, by rwa [he.replies], he.getElem? hmade⟩

lemma Settled.mono (h : d.Settled stores) (he : d.Extends d') : d'.Settled stores :=
  fun st hst => (h st hst).mono he he.length_le

/-- After some calls, of which those that trigger an interrupt come when everything is flushed. -/
lemma Visible.extend (h : d.Visible stores) (he : d.Extends d')
    (hlate : ∀ i h, d'.calls[i]? = some (.triggerInterrupt h) → d.calls.length ≤ i →
      d.Settled stores) : d'.Visible stores := by
  intro i t htrigger st hst htime
  rcases lt_or_ge i d.calls.length with hlt | hge
  · obtain ⟨l, hl⟩ := he.calls
    rw [← hl, List.getElem?_append_left hlt] at htrigger
    exact (h i t htrigger st hst htime).mono he le_rfl
  · exact (hlate i t htrigger hge st hst).mono he hge

/-- New stores come after every interrupt triggered so far. -/
lemma Visible.append (h : d.Visible stores) {new : List Store}
    (hnew : ∀ st ∈ new, st.time = d.calls.length) : d.Visible (stores ++ new) := by
  intro i t htrigger st hst htime
  rcases List.mem_append.1 hst with hst | hst
  · exact h i t htrigger st hst htime
  · obtain ⟨hlt, -⟩ := List.getElem?_eq_some_iff.1 htrigger
    rw [hnew st hst] at htime
    omega

/-- A call that triggers no interrupt. -/
lemma Visible.call (h : d.Visible stores) {a : DpaCall} (ha : ∀ t, a ≠ .triggerInterrupt t) :
    (d.call a).Visible stores := by
  refine h.extend (.call d a) fun i t htrigger hge => ?_
  rw [Dpa.call, List.getElem?_append_right hge] at htrigger
  exact absurd (List.mem_singleton.1 (List.mem_of_getElem? htrigger)).symm (ha t)

lemma Settled.through (h : d.Settled stores) : d.Through c stores :=
  fun st hst => .inl (h st hst)

/-- A flush through the sequence of the cached mapping. -/
lemma Through.flush (h : d.Through c stores) (hbefore : ∀ st ∈ stores, st.time ≤ d.calls.length) :
    (d.call (.flush c.sequence)).Settled stores := by
  intro st hst
  rcases h st hst with hflushed | ⟨m, hm, hmap⟩
  · exact hflushed.mono (.call d _) (by simp)
  · refine .inr ⟨d.calls.length, m.sequence, hbefore st hst, by simp, ?_, hm.started.ok, ?_⟩
    · rw [← hm.sequence]
      exact getElem?_handle d _
    · rw [hmap]
      exact getElem?_call hm.started.made _

/-- One more store through the cached mapping. -/
lemma Through.append (h : d.Through c stores) {m : MappingHandles} (hm : MappedBy d c m)
    (hmap : st.map = some m.map) : d.Through c (stores ++ [st]) := by
  intro st' hst'
  rcases List.mem_append.1 hst' with hold | hnew
  · exact h st' hold
  · obtain rfl := List.mem_singleton.1 hnew
    exact .inr ⟨m, hm, hmap⟩

/-- A store of no bytes needs no flush. -/
lemma Settled.append (h : d.Settled stores) (hzero : st.copied = 0) :
    d.Settled (stores ++ [st]) := by
  intro st' hst'
  rcases List.mem_append.1 hst' with hold | hnew
  · exact h st' hold
  · obtain rfl := List.mem_singleton.1 hnew
    exact .inl hzero

end Dpa

namespace Site

variable {s s' : Site} {target : DpaAddr}

/-! ### Writes and their stores -/

/-- The target of an operation with the message `msg`, if its arguments are good. -/
def aim (s : Site) (msg : Option FiMsgRma) : Option (FiMsgRma × FiRmaIov × DpaAddr) := do
  let (m, rma) ← checkRma msg
  let nodeId ← s.targetNode m
  if rma.key.toUInt32.toUInt64 = rma.key then some (m, rma, ⟨nodeId, rma.key.toUInt32⟩) else none

/-- What a write stores: its copying loop runs when `acquire_target` has succeeded, and before any
other call to the library. -/
def stores (s : Site) (msg : Option FiMsgRma) : List Store :=
  match checkRma msg with
  | none => []
  | some (m, rma) =>
      match acquireTarget m rma s with
      | .ok ((.success, _), s₁) => [⟨s₁.dpa.calls.length, s₁.cache.map, (s₁.moving m rma).1⟩]
      | _ => []

/-- The size of the segment of a target: that of the cached mapping, or what the library will
give for it. -/
def segmentLen (s : Site) (target : DpaAddr) : UInt64 :=
  if s.cacheHit target then s.cache.len
  else
    let d := if s.cache.segment.isSome then unmapped s.cache s.dpa else s.dpa
    (d.replies (d.calls.length + 2)).size

/-! ### Which calls a write makes -/

/-- No interrupt is triggered. -/
structure Quiet (d d' : Dpa) : Prop where
  library : d.Extends d'
  silent : ∀ i h, d'.calls[i]? = some (.triggerInterrupt h) → i < d.calls.length

lemma Quiet.refl (d : Dpa) : Quiet d d :=
  ⟨.refl d, fun _ _ h => (List.getElem?_eq_some_iff.1 h).1⟩

lemma Quiet.trans {d d' d'' : Dpa} (h : Quiet d d') (h' : Quiet d' d'') : Quiet d d'' := by
  refine ⟨h.library.trans h'.library, fun i a htrigger => ?_⟩
  have hlt := h'.silent i a htrigger
  obtain ⟨l, hl⟩ := h'.library.calls
  rw [← hl, List.getElem?_append_left hlt] at htrigger
  exact h.silent i a htrigger

def quiet : Frame Site where
  rel := fun s t => Quiet s.dpa t.dpa
  refl := fun s => .refl s.dpa
  trans := fun _ _ _ h h' => h.trans h'

lemma lib_quiet {c : DpaCall} (hc : mappingCall c = true) : Keeps quiet (lib c) := by
  intro s a s' hrun
  obtain ⟨-, rfl⟩ := Prod.mk.inj (run_lib_ok hrun)
  refine ⟨.call s.dpa c, fun i h htrigger => ?_⟩
  rw [Dpa.call, List.getElem?_append] at htrigger
  split at htrigger
  case isTrue hlt => exact hlt
  case isFalse =>
      obtain rfl := List.mem_singleton.1 (List.mem_of_getElem? htrigger)
      exact absurd hc (by simp [mappingCall])

lemma cacheConnect_quiet (target : DpaAddr) : Keeps quiet (cacheConnect target) :=
  cacheConnect_keeps (fun _ hc => lib_quiet hc)
    (fun _ _ _ => keeps_modify fun s => Quiet.refl s.dpa) target

/-- When `cache_connect` succeeds, and which length it then finds. -/
lemma cacheConnect_granted (hrun : cacheConnect target s = .ok (.ok, s')) :
    (s.cacheHit target = true ∨ s.GrantsSwitch) ∧ s'.cache.len = s.segmentLen target := by
  have hremap : ∀ {u : Site}, cacheRemap target u = .ok (.ok, s') →
      Grants u.dpa ∧ s'.cache.len = (u.dpa.replies (u.dpa.calls.length + 2)).size := by
    intro u hrun
    rw [cacheRemap] at hrun
    obtain ⟨err, s₁, hmap, hrun⟩ := run_bind_ok hrun
    split at hrun
    case isTrue herr =>
        obtain ⟨_, s₂, -, hrun⟩ := run_bind_ok hrun
        exact absurd (Prod.mk.inj (Except.ok.inj hrun)).1 herr
    case isFalse =>
        obtain ⟨rfl, rfl⟩ := Prod.mk.inj (Except.ok.inj hrun)
        exact (cacheMap_spec hmap).2
  rw [cacheConnect, get_bind] at hrun
  rw [segmentLen, GrantsSwitch]
  split at hrun
  case isTrue hhit =>
      obtain ⟨-, rfl⟩ := Prod.mk.inj (Except.ok.inj hrun)
      exact ⟨.inl hhit, by rw [if_pos hhit]⟩
  case isFalse hmiss =>
      rw [if_neg hmiss]
      split at hrun
      case isTrue hsome =>
          obtain ⟨_, s₁, hdisconnect, hrun⟩ := run_bind_ok hrun
          obtain ⟨hgrants, hlen⟩ := hremap hrun
          rw [if_pos hsome, ← cacheDisconnect_dpa hdisconnect]
          exact ⟨.inr hgrants, hlen⟩
      case isFalse hnone =>
          obtain ⟨hgrants, hlen⟩ := hremap hrun
          rw [if_neg hnone]
          exact ⟨.inr hgrants, hlen⟩

/-- The library goes on. -/
def onward : Frame Site where
  rel := fun s t => s.dpa.Extends t.dpa
  refl := fun s => .refl s.dpa
  trans := fun _ _ _ h h' => h.trans h'

lemma lib_onward (c : DpaCall) : Keeps onward (lib c) := by
  intro s a s' hrun
  obtain ⟨-, rfl⟩ := Prod.mk.inj (run_lib_ok hrun)
  exact .call s.dpa c

lemma setCache_onward (f : RemoteMrCache → RemoteMrCache) : Keeps onward (setCache f) :=
  keeps_modify fun s => .refl s.dpa

/-- Only data that is an interrupt number makes calls. -/
lemma signalInterrupt_calls {nodeId : UInt32} {data : UInt64} {u : Unit}
    (hrun : signalInterrupt nodeId data s = .ok (u, s')) :
    s.dpa.Extends s'.dpa ∧ (data.toUInt32.toUInt64 ≠ data → s'.dpa = s.dpa) := by
  constructor
  · exact signalInterrupt_keeps (fun c _ => lib_onward c) (fun _ _ => setCache_onward _)
      (fun s _ => .refl s.dpa) nodeId data s u s' hrun
  · intro hdata
    simp only [signalInterrupt] at hrun
    rw [if_pos hdata] at hrun
    obtain ⟨-, rfl⟩ := Prod.mk.inj (Except.ok.inj hrun)
    rfl

/-- The calls at the end of a write: those of the notification, or a flush, or none. -/
lemma finishWrite_calls {m : FiMsgRma} {flags copied : UInt64} {sequence : Option Handle}
    {ret : FiErr} (hrun : finishWrite m target flags copied sequence s = .ok (ret, s')) :
    (hasAny flags fiRemoteCqData = true ∧ s.dpa.Extends s'.dpa
        ∧ (m.data.toUInt32.toUInt64 ≠ m.data → s'.dpa = s.dpa))
      ∨ (hasAny flags fiRemoteCqData = false ∧ hasAny flags fiMore = false
        ∧ s'.dpa = s.dpa.call (.flush sequence))
      ∨ (hasAny flags fiRemoteCqData = false ∧ hasAny flags fiMore = true ∧ s'.dpa = s.dpa) := by
  rw [finishWrite, get_bind] at hrun
  obtain ⟨_, s₁, hcomplete, hrun⟩ := run_bind_ok hrun
  have hdpa : s₁.dpa = s.dpa := by
    obtain ⟨-, rfl⟩ := Prod.mk.inj (run_modify_ok hcomplete)
    rfl
  rw [← hdpa]
  split at hrun
  case isTrue hdata =>
      obtain ⟨_, s₂, hsignal, hrun⟩ := run_bind_ok hrun
      obtain ⟨-, rfl⟩ := Prod.mk.inj (Except.ok.inj hrun)
      exact .inl ⟨hdata, signalInterrupt_calls hsignal⟩
  case isFalse hdata =>
      rw [Bool.not_eq_true] at hdata
      split at hrun
      case isTrue hmore =>
          obtain ⟨-, rfl⟩ := Prod.mk.inj (Except.ok.inj hrun)
          exact .inr (.inl ⟨hdata, by simpa using hmore, rfl⟩)
      case isFalse hmore =>
          obtain ⟨-, rfl⟩ := Prod.mk.inj (Except.ok.inj hrun)
          exact .inr (.inr ⟨hdata, by simpa using hmore, rfl⟩)

lemma min_zero (a : UInt64) : min a 0 = 0 := by
  rw [show min a 0 = if a ≤ 0 then a else 0 from rfl]
  split
  case isTrue h => exact UInt64.le_zero_iff.1 h
  case isFalse => rfl

/-- Empty vectors, or no room for them: nothing is copied. -/
lemma copyIn_zero {room addr : UInt64} {iovs : List Iovec} (region : ByteMem)
    (h : room = 0 ∨ ∀ iov ∈ iovs, iov.len = 0) : (copyIn room addr iovs 0 region).1 = 0 := by
  induction iovs generalizing region with
  | nil => rfl
  | cons iov rest ih =>
      rw [copyIn]
      split
      case isTrue hroom =>
          rcases h with rfl | hlen
          · exact absurd hroom (by simp)
          · rw [hlen iov List.mem_cons_self, min_zero]
            exact ih _ (.inr fun iov hiov => hlen iov (List.mem_cons_of_mem _ hiov))
      case isFalse => rfl

end Site

/-- An endpoint with the stores of its writes. -/
structure Writer where
  site : Site
  stores : List Store

/-- A write, or a change of the connection, of the address vectors or of the remote memory. -/
inductive WriteEvent where
  | dpaWritemsg (msg : Option FiMsgRma) (flags : UInt64)
  | dpaWritedata (buf : ByteMem) (len data destAddr addr key : UInt64) (context : ℕ)
  | environment (connected : Bool) (peerAddr : DpaAddr) (av : Option ℕ)
      (avLookup : ℕ → UInt64 → DpaAddr) (regions : DpaAddr → ByteMem)

namespace WriteEvent

/-- The event of the endpoint. -/
def toRma : WriteEvent → Site.RmaEvent
  | .dpaWritemsg msg flags => .call (.writemsg msg flags)
  | .dpaWritedata buf len data destAddr addr key context =>
      .call (.writedata buf len data destAddr addr key context)
  | .environment connected peerAddr av avLookup regions =>
      .environment connected peerAddr av avLookup regions

/-- The message and the flags of a write. -/
def write : WriteEvent → Option (Option FiMsgRma × UInt64)
  | .dpaWritemsg msg flags => some (msg, flags)
  | .dpaWritedata buf len data destAddr addr key context =>
      some (some (Site.rmaMsg [⟨buf, len⟩] destAddr addr key context data), fiRemoteCqData)
  | .environment .. => none

end WriteEvent

namespace Writer

open Site

variable {w w' : Writer}

def writeEvent (w : Writer) (a : WriteEvent) : Option Writer :=
  (w.site.rmaEvent a.toRma).map fun site =>
    ⟨site, w.stores ++ match a.write with
      | none => []
      | some (msg, _) => w.site.stores msg⟩

/-- Every byte stored before a remote interrupt was triggered had been flushed by then. -/
def Visible (w : Writer) : Prop := w.site.dpa.Visible w.stores

/-- No byte stored is still unflushed. -/
def Settled (w : Writer) : Prop := w.site.dpa.Settled w.stores

/-- A write copies no byte: it begins at the end of the segment, or its vectors are empty. -/
def CopiesNothing (w : Writer) (m : FiMsgRma) (rma : FiRmaIov) (target : DpaAddr) : Prop :=
  w.site.segmentLen target - rma.addr = 0 ∨ ∀ iov ∈ m.msgIov, iov.len = 0

/-- A write that needs no flush but the one it makes.  One that writes nothing, for its bad
arguments, has `FI_MORE`, or comes when all is flushed.  Any other write goes to the cached mapping
while something is not flushed; and with `FI_REMOTE_CQ_DATA` it either has `FI_MORE` and data that
is no interrupt number, or cannot connect, or copies nothing when all is flushed. -/
def WriteOk (w : Writer) (msg : Option FiMsgRma) (flags : UInt64) : Prop :=
  match w.site.aim msg with
  | none => hasAny flags fiMore = true ∨ w.Settled
  | some (m, rma, target) =>
      (¬ w.Settled → w.site.cacheHit target = true)
        ∧ (hasAny flags fiRemoteCqData = true →
          hasAny flags fiMore = true ∧ m.data.toUInt32.toUInt64 ≠ m.data
            ∨ ¬ (w.site.cacheHit target = true ∨ w.site.GrantsSwitch)
            ∨ w.Settled ∧ w.CopiesNothing m rma target)

def Fine (w : Writer) (a : WriteEvent) : Prop :=
  ∀ msg flags, a.write = some (msg, flags) → w.WriteOk msg flags

/-! ### One write -/

/-- What every run keeps. -/
structure Inv (w : Writer) : Prop where
  coherent : w.site.Coherent
  before : ∀ st ∈ w.stores, st.time ≤ w.site.dpa.calls.length
  visible : w.Visible
  through : w.site.dpa.Through w.site.cache w.stores

/-- A write that stores nothing. -/
lemma stores_of_failed {s : Site} {m : FiMsgRma} {rma : FiRmaIov} {msg : Option FiMsgRma}
    {ret : FiErr} {target : DpaAddr} {s₁ : Site} (hcheck : checkRma msg = some (m, rma))
    (hacquire : acquireTarget m rma s = .ok ((ret, target), s₁)) (hret : ret ≠ .success) :
    s.stores msg = [] := by
  rw [Site.stores, hcheck]
  simp only [hacquire]
  split
  case h_1 heq =>
      obtain ⟨hr, -⟩ := Prod.mk.inj (Except.ok.inj heq)
      exact absurd (Prod.mk.inj hr).1 hret
  case h_2 => rfl

lemma stores_of_done {s : Site} {m : FiMsgRma} {rma : FiRmaIov} {msg : Option FiMsgRma}
    {target : DpaAddr} {s₁ : Site} (hcheck : checkRma msg = some (m, rma))
    (hacquire : acquireTarget m rma s = .ok ((.success, target), s₁)) :
    s.stores msg = [⟨s₁.dpa.calls.length, s₁.cache.map, (s₁.moving m rma).1⟩] := by
  rw [Site.stores, hcheck]
  simp only [hacquire]

/-- To connect leaves everything as it is while something is not flushed, and in any case triggers
nothing. -/
lemma Inv.connect (hinv : w.Inv) {target : DpaAddr} {err : DpaError} {s₁ : Site}
    (hpending : ¬ w.Settled → w.site.cacheHit target = true)
    (hconnect : cacheConnect target w.site = .ok (err, s₁)) :
    w.site.dpa.Extends s₁.dpa ∧ s₁.dpa.Visible w.stores ∧ s₁.dpa.Through s₁.cache w.stores
      ∧ (err ≠ .ok → w.Settled) := by
  have hquiet : Quiet w.site.dpa s₁.dpa := cacheConnect_quiet target _ _ _ hconnect
  have hvisible : s₁.dpa.Visible w.stores := hinv.visible.extend hquiet.library
    fun i t htrigger hge => absurd (hquiet.silent i t htrigger) (not_lt.2 hge)
  by_cases hsettled : w.Settled
  · exact ⟨hquiet.library, hvisible, (Settled.mono hsettled hquiet.library).through,
      fun _ => hsettled⟩
  · have hhit := hpending hsettled
    rw [cacheConnect, get_bind, if_pos hhit] at hconnect
    obtain ⟨rfl, rfl⟩ := Prod.mk.inj (Except.ok.inj hconnect)
    exact ⟨hquiet.library, hvisible, hinv.through, fun h => absurd rfl h⟩

/-- The rest of a write, once its bytes are stored. -/
lemma finish {s₁ s' : Site} {m : FiMsgRma} {rma : FiRmaIov} {target : DpaAddr} {flags : UInt64}
    {ret : FiErr} {stores : List Store} (hbefore : ∀ st ∈ stores, st.time ≤ s₁.dpa.calls.length)
    (hvisible : s₁.dpa.Visible stores) (hthrough : s₁.dpa.Through s₁.cache stores)
    (hnotify : hasAny flags fiRemoteCqData = true →
      hasAny flags fiMore = true ∧ m.data.toUInt32.toUInt64 ≠ m.data ∨ s₁.dpa.Settled stores)
    (hrun : finishWrite m target flags (s₁.moving m rma).1 s₁.cache.sequence (s₁.stored m rma)
      = .ok (ret, s')) :
    s₁.dpa.Extends s'.dpa ∧ s'.dpa.Visible stores ∧ s'.dpa.Through s'.cache stores
      ∧ (hasAny flags fiMore = false → s'.dpa.Settled stores) := by
  have hsteady : Steady (s₁.stored m rma) s' := finishWrite_steady _ _ _ _ _ _ _ _ hrun
  have hsame (hdpa : s'.dpa = s₁.dpa) : s'.dpa.Through s'.cache stores := by
    rw [hdpa]
    refine fun st hst => (hthrough st hst).imp_right ?_
    rintro ⟨handles, hm, hmap⟩
    exact ⟨handles, hdpa ▸ hsteady.mapped handles hm, hmap⟩
  rcases finishWrite_calls hrun with ⟨hdata, hextends, hnumber⟩ | ⟨-, -, hflush⟩ | ⟨-, hmore, hdpa⟩
  · rcases hnotify hdata with ⟨hmore, hno⟩ | hsettled
    · have hdpa : s'.dpa = s₁.dpa := hnumber hno
      exact ⟨hextends, hdpa ▸ hvisible, hsame hdpa, fun h => by simp [hmore] at h⟩
    · have hsettled' : s'.dpa.Settled stores := hsettled.mono hextends
      exact ⟨hextends, hvisible.extend hextends fun _ _ _ _ => hsettled, hsettled'.through,
        fun _ => hsettled'⟩
  · have hsettled : s'.dpa.Settled stores := hflush ▸ hthrough.flush hbefore
    refine ⟨hflush ▸ .call s₁.dpa _, hflush ▸ hvisible.call nofun, hsettled.through,
      fun _ => hsettled⟩
  · have hdpa : s'.dpa = s₁.dpa := hdpa
    exact ⟨hdpa ▸ .refl s₁.dpa, hdpa ▸ hvisible, hsame hdpa, fun h => by simp [hmore] at h⟩

/-- A write that stores nothing, and calls nothing, leaves all as it was. -/
lemma Inv.still (hinv : w.Inv) {msg : Option FiMsgRma} {flags : UInt64}
    (hnone : w.site.stores msg = []) (hidle : hasAny flags fiMore = true ∨ w.Settled) :
    Inv ⟨w.site, w.stores ++ w.site.stores msg⟩
      ∧ (hasAny flags fiMore = false → Settled ⟨w.site, w.stores ++ w.site.stores msg⟩) := by
  rw [hnone, List.append_nil]
  exact ⟨hinv, fun hmore => hidle.resolve_left (by simp [hmore])⟩

/-- A write that needs no flush but its own keeps the invariant, and without `FI_MORE` it leaves
nothing unflushed. -/
lemma Inv.write (hinv : w.Inv) {msg : Option FiMsgRma} {flags : UInt64} {ret : FiErr} {s' : Site}
    (hok : w.WriteOk msg flags) (hrun : Site.dpaWritemsg msg flags w.site = .ok (ret, s')) :
    Inv ⟨s', w.stores ++ w.site.stores msg⟩
      ∧ (hasAny flags fiMore = false → Settled ⟨s', w.stores ++ w.site.stores msg⟩) := by
  have hcoherent : s'.Coherent := (hinv.coherent.dpaWritemsg hrun).coherent hinv.coherent
  rw [WriteOk, aim] at hok
  cases hcheck : checkRma msg with
  | none =>
      rw [Site.dpaWritemsg, hcheck] at hrun
      rw [hcheck] at hok
      obtain ⟨-, rfl⟩ := Prod.mk.inj (Except.ok.inj hrun)
      exact hinv.still (by rw [Site.stores, hcheck]) hok
  | some p =>
  obtain ⟨m, rma⟩ := p
  obtain ⟨ret₁, target, s₁, hacquire, hfail, hdone⟩ := dpaWritemsg_checked hcheck hrun
  obtain ⟨nodeId, hnode, rfl, htruncated, hvalid⟩ := acquireTarget_cases hacquire
  by_cases hkey : rma.key.toUInt32.toUInt64 = rma.key
  case neg =>
      obtain ⟨rfl, rfl⟩ := htruncated hkey
      simp only [hcheck, hnode, Option.bind_eq_bind, Option.bind_some, if_neg hkey] at hok
      obtain ⟨-, rfl⟩ := hfail (by simp)
      exact hinv.still (stores_of_failed hcheck hacquire (by simp)) hok
  case pos =>
  obtain ⟨err, hconnect, hret⟩ := hvalid hkey
  simp only [hcheck, hnode, Option.bind_eq_bind, Option.bind_some, if_pos hkey] at hok
  obtain ⟨hpending, hnotify⟩ := hok
  obtain ⟨hextends, hvisible, hthrough, hsettled⟩ := hinv.connect hpending hconnect
  have hbefore : ∀ st ∈ w.stores, st.time ≤ s₁.dpa.calls.length :=
    fun st hst => (hinv.before st hst).trans hextends.length_le
  by_cases herr : err = .ok
  case neg =>
      rw [if_pos herr] at hret
      subst hret
      obtain ⟨-, rfl⟩ := hfail (by simp)
      rw [stores_of_failed hcheck hacquire (by simp), List.append_nil]
      exact ⟨⟨hcoherent, hbefore, hvisible, hthrough⟩, fun _ => (hsettled herr).mono hextends⟩
  case pos =>
      subst herr
      rw [if_neg (not_not.2 rfl)] at hret
      subst hret
      have hfinish := hdone rfl
      rw [stores_of_done hcheck hacquire]
      obtain ⟨-, handles, hm⟩ := (cacheConnect_coherent hinv.coherent hconnect).1 rfl
      obtain ⟨hgranted, hlen⟩ := cacheConnect_granted hconnect
      have hnotify' : hasAny flags fiRemoteCqData = true →
          hasAny flags fiMore = true ∧ m.data.toUInt32.toUInt64 ≠ m.data
            ∨ s₁.dpa.Settled w.stores ∧ (s₁.moving m rma).1 = 0 := by
        intro hdata
        rcases hnotify hdata with hmore | hno | ⟨hsettled, hnothing⟩
        · exact .inl hmore
        · exact absurd hgranted hno
        · rw [CopiesNothing, ← hlen] at hnothing
          exact .inr ⟨hsettled.mono hextends, copyIn_zero _ hnothing⟩
      generalize hst : (⟨s₁.dpa.calls.length, s₁.cache.map, (s₁.moving m rma).1⟩ : Store) = st
      have hbefore' : ∀ st' ∈ w.stores ++ [st], st'.time ≤ s₁.dpa.calls.length := by
        simpa [or_imp, forall_and, ← hst] using hbefore
      have hthrough' : s₁.dpa.Through s₁.cache (w.stores ++ [st]) :=
        hthrough.append hm (by rw [← hst, hm.map])
      have hvisible' : s₁.dpa.Visible (w.stores ++ [st]) :=
        hvisible.append (by simp [← hst])
      have hquiet : s₁.dpa.Settled w.stores ∧ (s₁.moving m rma).1 = 0 →
          s₁.dpa.Settled (w.stores ++ [st]) :=
        fun h => h.1.append (by rw [← hst, h.2])
      obtain ⟨hextends', hvisible'', hthrough'', hsettled'⟩ := finish hbefore' hvisible' hthrough'
        (fun hdata => (hnotify' hdata).imp_right hquiet) hfinish
      exact ⟨⟨hcoherent, fun st' h => (hbefore' st' h).trans hextends'.length_le, hvisible'',
        hthrough''⟩, hsettled'⟩

/-! ### Runs -/

lemma Inv.event (hinv : w.Inv) {a : WriteEvent} (hok : w.Fine a) (heq : w.writeEvent a = some w') :
    w'.Inv
      ∧ ∀ msg flags, a.write = some (msg, flags) → hasAny flags fiMore = false → w'.Settled := by
  obtain ⟨s', hevent, rfl⟩ := Option.map_eq_some_iff.1 heq
  cases a with
  | dpaWritemsg msg flags =>
      obtain ⟨⟨u, t⟩, hrun, rfl⟩ := Except.map_eq_ok (toOption_eq_some hevent)
      obtain ⟨ret, _, hwrite, hpure⟩ := run_bind_ok hrun
      obtain ⟨-, rfl⟩ := Prod.mk.inj (Except.ok.inj hpure)
      obtain ⟨hinv', hsettled⟩ := hinv.write (hok msg flags rfl) hwrite
      refine ⟨hinv', ?_⟩
      rintro _ _ ⟨⟩
      exact hsettled
  | dpaWritedata buf len data destAddr addr key context =>
      obtain ⟨⟨u, t⟩, hrun, rfl⟩ := Except.map_eq_ok (toOption_eq_some hevent)
      obtain ⟨ret, _, hwrite, hpure⟩ := run_bind_ok hrun
      obtain ⟨-, rfl⟩ := Prod.mk.inj (Except.ok.inj hpure)
      obtain ⟨hinv', hsettled⟩ := hinv.write (hok _ _ rfl) hwrite
      refine ⟨hinv', ?_⟩
      rintro _ _ ⟨⟩
      exact hsettled
  | environment connected peerAddr av avLookup regions =>
      obtain rfl := Option.some.inj hevent
      refine ⟨?_, nofun⟩
      rw [show WriteEvent.write (.environment connected peerAddr av avLookup regions) = none
        from rfl]
      simp only [List.append_nil]
      exact ⟨hinv.coherent, hinv.before, hinv.visible, hinv.through⟩

/-- As long as no write needs a flush that the code leaves out, every byte stored before a remote
interrupt is triggered has been flushed by then, and after every write without `FI_MORE` there is no
unflushed byte. -/
theorem flush_before_visibility {w₀ : Writer} (hempty : w₀.site.cache.Unmapped)
    (hstores : w₀.stores = []) {events : List WriteEvent}
    (hfine : Stepper.Meets writeEvent Fine w₀ events)
    (hrun : Stepper.run writeEvent w₀ events = some w) :
    w.Visible ∧ ∀ a w' msg flags, w.Fine a → w.writeEvent a = some w' →
      a.write = some (msg, flags) → hasAny flags fiMore = false → w'.Visible ∧ w'.Settled := by
  have hinv₀ : w₀.Inv := by
    refine ⟨.inl hempty, ?_, ?_, ?_⟩
    · simp [hstores]
    · simp [Visible, Dpa.Visible, hstores]
    · simp [Through, hstores]
  have hinv : w.Inv := Stepper.run_induction (I := Inv)
    (fun _ _ _ hinv hok heq => (hinv.event hok heq).1) hinv₀ hfine hrun
  refine ⟨hinv.visible, fun a w' msg flags hok heq hwrite hmore => ?_⟩
  obtain ⟨hinv', hsettled⟩ := hinv.event hok heq
  exact ⟨hinv'.visible, hsettled msg flags hwrite hmore⟩

/-- An endpoint that is not connected and has written nothing yet. -/
def idle : Writer := ⟨unconnected, []⟩

/-- A write of eight bytes to the segment 5 of a node. -/
def eightBytes (nodeId flags : UInt64) : WriteEvent :=
  .dpaWritemsg (some (rmaMsg [⟨fun _ => 1, 8⟩] nodeId 0 5 0 7)) flags

/-- Two writes to one target, of which only the second lacks `FI_MORE`. -/
theorem flush_before_visibility_twoWrites :
    ∃ w, Stepper.run writeEvent idle [eightBytes 1 fiMore] = some w
      ∧ w.Visible ∧ ∀ w', w.writeEvent (eightBytes 1 0) = some w' → w'.Visible ∧ w'.Settled := by
  have hempty : idle.site.cache.Unmapped := ⟨rfl, rfl, rfl, rfl, rfl, rfl, rfl⟩
  have hsettled : idle.Settled := fun _ h => absurd h List.not_mem_nil
  have hfine : Stepper.Meets writeEvent Fine idle [eightBytes 1 fiMore] := by
    refine ⟨?_, fun _ _ => trivial⟩
    rintro _ _ ⟨⟩
    exact ⟨fun h => absurd hsettled h, fun h => absurd h (by decide)⟩
  obtain ⟨w, hrun, hhit⟩ : ∃ w, Stepper.run writeEvent idle [eightBytes 1 fiMore] = some w
      ∧ w.WriteOk (some (rmaMsg [⟨fun _ => 1, 8⟩] 1 0 5 0 7)) 0 :=
    ⟨_, rfl, fun _ => rfl, fun h => absurd h (by decide)⟩
  obtain ⟨hvisible, hnext⟩ := flush_before_visibility hempty rfl hfine hrun
  refine ⟨w, hrun, hvisible, fun w' heq => ?_⟩
  refine hnext (eightBytes 1 0) w' _ _ ?_ heq rfl (by decide)
  rintro _ _ ⟨⟩
  exact hhit

/-- The sequence that a call flushes. -/
def flushes : DpaCall → Option (Option Handle)
  | .flush sequence => some sequence
  | _ => none

/-- With `FI_REMOTE_CQ_DATA` the interrupt is triggered with the eight bytes unflushed; and a write
with `FI_MORE` that is followed by one to another target stays unflushed for good. -/
theorem flush_missing :
    (∃ w, Stepper.run writeEvent idle [eightBytes 1 fiRemoteCqData] = some w ∧ ¬ w.Visible)
      ∧ ∃ w, Stepper.run writeEvent idle [eightBytes 1 fiMore, eightBytes 2 0] = some w
        ∧ ¬ w.Settled := by
  constructor
  · obtain ⟨w, hrun, hcall, htrigger, hstores⟩ : ∃ w,
        Stepper.run writeEvent idle [eightBytes 1 fiRemoteCqData] = some w
          ∧ w.site.dpa.calls[6]? = some (.connectInterrupt (some 0) 1 7)
          ∧ w.site.dpa.calls[7]? = some (.triggerInterrupt (some 6))
          ∧ w.stores = [⟨6, some 3, 8⟩] := ⟨_, rfl, rfl, rfl, rfl⟩
    refine ⟨w, hrun, fun hvisible => ?_⟩
    rcases hvisible 7 _ htrigger ⟨6, some 3, 8⟩ (by simp [hstores]) (by simp) with
      hzero | ⟨j, q, hle, hlt, hflush, -⟩
    · exact absurd hzero (by simp)
    · obtain rfl : j = 6 := Nat.le_antisymm (Nat.lt_succ_iff.1 hlt) hle
      rw [hcall] at hflush
      exact absurd (Option.some.inj hflush) (by simp)
  · obtain ⟨w, hrun, hflushes, hmap, hstores⟩ : ∃ w,
        Stepper.run writeEvent idle [eightBytes 1 fiMore, eightBytes 2 0] = some w
          ∧ w.site.dpa.calls.filterMap flushes = [some 14]
          ∧ w.site.dpa.calls[14]? = some (.createMapSequence (some 13))
          ∧ w.stores = [⟨6, some 3, 8⟩, ⟨16, some 13, 8⟩] := ⟨_, rfl, rfl, rfl, rfl⟩
    refine ⟨w, hrun, fun hsettled => ?_⟩
    rcases hsettled ⟨6, some 3, 8⟩ (by simp [hstores]) with hzero | ⟨j, q, -, -, hflush, -, hmade⟩
    · exact absurd hzero (by simp)
    · have hmem : some q ∈ w.site.dpa.calls.filterMap flushes :=
        List.mem_filterMap.2 ⟨_, List.mem_of_getElem? hflush, rfl⟩
      rw [hflushes, List.mem_singleton] at hmem
      obtain rfl := Option.some.inj hmem
      rw [hmap] at hmade
      exact absurd (Option.some.inj hmade) (by simp)

end Writer

end DpaProvider
