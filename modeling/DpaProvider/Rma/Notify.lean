import DpaProvider.Library.Stepper
import DpaProvider.Rma.Transfer

/-!
The remote interrupts that operations trigger.

`Routed` says that the interrupt in the cache is connected to the number kept with it
on the node of the cached target.  Only a change of the mapping can break it, since it
leaves the interrupt in place (`cacheConnect_wiring`).  `notification_routed`: as long as the
mapping changes only while there is no interrupt, or to another segment of the same
node, every operation triggers the interrupt that its data names on its own node.
-/

namespace DpaProvider

open Effect

namespace Site

variable {s s' : Site} {target : DpaAddr}

/-! ### A change of the mapping leaves the interrupt in place -/

/-- The library has gone on, and the interrupt in the cache is the same. -/
structure Wiring (s t : Site) : Prop where
  library : s.dpa.Extends t.dpa
  interrupt : t.cache.interrupt = s.cache.interrupt
  interruptId : t.cache.interruptId = s.cache.interruptId
  signals : t.signals = s.signals

def wiring : Frame Site where
  rel := Wiring
  refl := fun s => ⟨.refl s.dpa, rfl, rfl, rfl⟩
  trans := fun _ _ _ h h' => ⟨h.library.trans h'.library, h'.interrupt.trans h.interrupt,
    h'.interruptId.trans h.interruptId, h'.signals.trans h.signals⟩

@[simp] lemma lib_wiring (c : DpaCall) : Keeps wiring (lib c) := by
  intro s a s' h
  obtain ⟨-, rfl⟩ := Prod.mk.inj (run_lib_ok h)
  exact ⟨.call s.dpa c, rfl, rfl, rfl⟩

lemma setCache_wiring {f : RemoteMrCache → RemoteMrCache} (hf : ∀ c, (f c).interrupt = c.interrupt)
    (hid : ∀ c, (f c).interruptId = c.interruptId) : Keeps wiring (setCache f) :=
  keeps_modify fun s => ⟨.refl s.dpa, hf s.cache, hid s.cache, rfl⟩

/-- The calls with which mappings are made and given back. -/
def mappingCall : DpaCall → Bool
  | .dpaOpen | .close _ | .connectSegment .. | .disconnectSegment _ | .getRemoteSegmentSize _
  | .mapRemoteSegment .. | .unmapSegment _ | .createMapSequence _ | .startSequence _
  | .removeSequence _ => true
  | _ => false

section Keeps

variable {F : Frame Site} (hlib : ∀ c, mappingCall c = true → Keeps F (lib c))
  (hset : ∀ f : RemoteMrCache → RemoteMrCache, (∀ c, (f c).interrupt = c.interrupt) →
    (∀ c, (f c).interruptId = c.interruptId) → Keeps F (setCache f))

include hlib hset

lemma drop_keeps {handle : Option Handle} {c : Option Handle → DpaCall}
    {forget : RemoteMrCache → RemoteMrCache} (hc : ∀ h, mappingCall (c h) = true)
    (hf : ∀ c, (forget c).interrupt = c.interrupt)
    (hid : ∀ c, (forget c).interruptId = c.interruptId) : Keeps F (drop handle c forget) :=
  keeps_ite (keeps_bind (hlib _ (hc handle)) fun _ => hset forget hf hid) (keeps_pure _)

lemma cacheDisconnect_keeps : Keeps F cacheDisconnect := by
  have hdrop := @drop_keeps F hlib hset
  refine keeps_bind keeps_get fun s => ?_
  refine keeps_bind (hdrop (fun _ => rfl) (fun _ => rfl) fun _ => rfl) fun _ => ?_
  refine keeps_bind (hdrop (fun _ => rfl) (fun _ => rfl) fun _ => rfl) fun _ => ?_
  refine keeps_bind (hdrop (fun _ => rfl) (fun _ => rfl) fun _ => rfl) fun _ => ?_
  refine keeps_bind (hdrop (fun _ => rfl) (fun _ => rfl) fun _ => rfl) fun _ => ?_
  exact hset _ (fun _ => rfl) fun _ => rfl

lemma cacheMap_keeps (target : DpaAddr) : Keeps F (cacheMap target) := by
  refine keeps_bind (hlib _ rfl) fun _ => keeps_ite (keeps_pure _) ?_
  refine keeps_bind (hset _ (fun _ => rfl) fun _ => rfl) fun _ => ?_
  refine keeps_bind (hlib _ rfl) fun _ => keeps_ite (keeps_pure _) ?_
  refine keeps_bind (hset _ (fun _ => rfl) fun _ => rfl) fun _ => ?_
  refine keeps_bind (hlib _ rfl) fun _ => ?_
  refine keeps_bind (hset _ (fun _ => rfl) fun _ => rfl) fun _ => ?_
  refine keeps_bind (hlib _ rfl) fun _ => keeps_ite
    (keeps_bind (hset _ (fun _ => rfl) fun _ => rfl) fun _ => keeps_pure _) ?_
  refine keeps_bind (hset _ (fun _ => rfl) fun _ => rfl) fun _ => ?_
  refine keeps_bind (hlib _ rfl) fun _ => keeps_ite (keeps_pure _) ?_
  refine keeps_bind (hset _ (fun _ => rfl) fun _ => rfl) fun _ => ?_
  refine keeps_bind (hlib _ rfl) fun _ => ?_
  exact keeps_bind (hset _ (fun _ => rfl) fun _ => rfl) fun _ => keeps_pure _

lemma cacheRemap_keeps (target : DpaAddr) : Keeps F (cacheRemap target) := by
  refine keeps_bind (cacheMap_keeps hlib hset target) fun err => ?_
  exact keeps_ite (keeps_bind (cacheDisconnect_keeps hlib hset) fun _ => keeps_pure _)
    (keeps_pure _)

/-- What the calls and the updates under `cache_connect` keep, it keeps. -/
lemma cacheConnect_keeps (target : DpaAddr) : Keeps F (cacheConnect target) := by
  have hremap := cacheRemap_keeps hlib hset target
  refine keeps_bind keeps_get fun s => ?_
  refine keeps_ite (keeps_pure _) (keeps_ite ?_ hremap)
  exact keeps_bind (cacheDisconnect_keeps hlib hset) fun _ => hremap

end Keeps

lemma cacheConnect_wiring (target : DpaAddr) : Keeps wiring (cacheConnect target) :=
  cacheConnect_keeps (fun c _ => lib_wiring c) (fun _ hf hid => setCache_wiring hf hid) target

/-! ### Which mapping a change ends in -/

lemma cacheMap_target (target : DpaAddr) :
    Ends (fun err s => err = .ok → s.cache.target = target) (cacheMap target) := by
  refine ends_bind fun _ => ends_ite (fun herr => ends_pure fun _ h => absurd h herr) fun _ => ?_
  refine ends_bind fun _ => ends_bind fun _ =>
    ends_ite (fun herr => ends_pure fun _ h => absurd h herr) fun _ => ?_
  refine ends_bind fun _ => ends_bind fun _ => ends_bind fun _ => ends_bind fun _ => ?_
  refine ends_ite (fun herr => ends_bind fun _ => ends_pure fun _ h => absurd h herr) fun _ => ?_
  refine ends_bind fun _ => ends_bind fun _ =>
    ends_ite (fun herr => ends_pure fun _ h => absurd h herr) fun _ => ?_
  refine ends_bind fun _ => ends_bind fun _ => ?_
  intro s err s' hrun _
  obtain ⟨-, rfl⟩ := Prod.mk.inj (Except.ok.inj hrun)
  rfl

/-- The library grants the four calls of `cacheMap` that can fail. -/
def Grants (d : Dpa) : Prop :=
  ∀ i ∈ [0, 1, 3, 4], (d.replies (d.calls.length + i)).err = .ok

lemma cacheMap_ok (hgrants : Grants s.dpa) {err : DpaError}
    (hrun : cacheMap target s = .ok (err, s')) : err = .ok := by
  have h₀ : (s.dpa.replies s.dpa.calls.length).err = .ok := hgrants 0 (by simp)
  have h₁ : (s.dpa.replies (s.dpa.calls.length + 1)).err = .ok := hgrants 1 (by simp)
  have h₃ : (s.dpa.replies (s.dpa.calls.length + 1 + 1 + 1)).err = .ok := hgrants 3 (by simp)
  have h₄ : (s.dpa.replies (s.dpa.calls.length + 1 + 1 + 1 + 1)).err = .ok :=
    hgrants 4 (by simp)
  simp only [cacheMap, lib_bind, setCache_bind, Dpa.reply, Dpa.length_call, Dpa.replies_call, h₀,
    h₁, h₃, h₄, ne_eq, not_true_eq_false, if_false] at hrun
  exact (congrArg Prod.fst (Except.ok.inj hrun)).symm

/-- The library after a handle is given back. -/
def released (handle : Option Handle) (c : Option Handle → DpaCall) (d : Dpa) : Dpa :=
  if handle.isSome then d.call (c handle) else d

lemma drop_dpa {handle : Option Handle} {c : Option Handle → DpaCall}
    {forget : RemoteMrCache → RemoteMrCache} {u : Unit}
    (hrun : drop handle c forget s = .ok (u, s')) : s'.dpa = released handle c s.dpa := by
  rw [drop] at hrun
  rw [released]
  split at hrun
  case isTrue hsome =>
      obtain ⟨-, rfl⟩ := Prod.mk.inj (Except.ok.inj hrun)
      rw [if_pos hsome]
  case isFalse hnone =>
      obtain ⟨-, rfl⟩ := Prod.mk.inj (Except.ok.inj hrun)
      rw [if_neg hnone]

/-- The library after a mapping is given back. -/
def unmapped (c : RemoteMrCache) (d : Dpa) : Dpa :=
  released c.sd .close (released c.segment .disconnectSegment
    (released c.map .unmapSegment (released c.sequence .removeSequence d)))

lemma cacheDisconnect_dpa {u : Unit} (hrun : cacheDisconnect s = .ok (u, s')) :
    s'.dpa = unmapped s.cache s.dpa := by
  rw [cacheDisconnect, get_bind] at hrun
  obtain ⟨_, s₁, h₁, hrun⟩ := run_bind_ok hrun
  obtain ⟨_, s₂, h₂, hrun⟩ := run_bind_ok hrun
  obtain ⟨_, s₃, h₃, hrun⟩ := run_bind_ok hrun
  obtain ⟨_, s₄, h₄, hrun⟩ := run_bind_ok hrun
  obtain ⟨-, rfl⟩ := Prod.mk.inj (Except.ok.inj hrun)
  show s₄.dpa = _
  rw [drop_dpa h₄, drop_dpa h₃, drop_dpa h₂, drop_dpa h₁, unmapped]

/-- A remapping that succeeds caches the target, and one that the library grants succeeds. -/
lemma cacheRemap_spec {err : DpaError} (hrun : cacheRemap target s = .ok (err, s')) :
    (err = .ok → s'.cache.target = target) ∧ (Grants s.dpa → err = .ok) := by
  rw [cacheRemap] at hrun
  obtain ⟨err', s₁, hmap, hrun⟩ := run_bind_ok hrun
  split at hrun
  case isTrue herr =>
      obtain ⟨_, s₂, -, hrun⟩ := run_bind_ok hrun
      obtain ⟨rfl, rfl⟩ := Prod.mk.inj (Except.ok.inj hrun)
      exact ⟨fun h => absurd h herr, fun hgrants => absurd (cacheMap_ok hgrants hmap) herr⟩
  case isFalse =>
      obtain ⟨rfl, rfl⟩ := Prod.mk.inj (Except.ok.inj hrun)
      exact ⟨cacheMap_target target s err' s₁ hmap, fun hgrants => cacheMap_ok hgrants hmap⟩

/-- The library grants the mapping of another segment. -/
def GrantsSwitch (s : Site) : Prop :=
  Grants (if s.cache.segment.isSome then unmapped s.cache s.dpa else s.dpa)

/-- After `cache_connect` has succeeded the target is cached; on a hit nothing changes, and a
mapping that the library grants succeeds. -/
lemma cacheConnect_spec {err : DpaError} (hrun : cacheConnect target s = .ok (err, s')) :
    (err = .ok → s'.cache.target = target) ∧ (s.cacheHit target → s' = s)
      ∧ (s.GrantsSwitch → err = .ok) := by
  rw [cacheConnect, get_bind] at hrun
  split at hrun
  case isTrue hhit =>
      obtain ⟨rfl, rfl⟩ := Prod.mk.inj (Except.ok.inj hrun)
      refine ⟨fun _ => ?_, fun _ => rfl, fun _ => rfl⟩
      simp only [cacheHit, Bool.and_eq_true, decide_eq_true_eq] at hhit
      exact hhit.1.symm
  case isFalse hmiss =>
      rw [GrantsSwitch]
      split at hrun
      case isTrue hsome =>
          obtain ⟨u, s₁, hdisconnect, hrun⟩ := run_bind_ok hrun
          obtain ⟨htarget, hgrants⟩ := cacheRemap_spec hrun
          rw [if_pos hsome, ← cacheDisconnect_dpa hdisconnect]
          exact ⟨htarget, fun hhit => absurd hhit hmiss, hgrants⟩
      case isFalse hnone =>
          obtain ⟨htarget, hgrants⟩ := cacheRemap_spec hrun
          rw [if_neg hnone]
          exact ⟨htarget, fun hhit => absurd hhit hmiss, hgrants⟩

/-! ### The interrupt in the cache -/

/-- The interrupt in the cache, and those triggered so far, are connected as they should be. -/
structure Routing (s : Site) : Prop where
  routed : ∀ h, s.cache.interrupt = some h →
    s.dpa.ConnectedTo h s.cache.target.nodeId s.cache.interruptId
  signalled : ∀ sig ∈ s.signals, sig.data.toUInt32.toUInt64 = sig.data
    ∧ ∃ h, sig.interrupt = some h ∧ s.dpa.ConnectedTo h sig.nodeId sig.data.toUInt32

/-- The routing depends on the target node, on the interrupt and on the record of the
library. -/
lemma Routing.wiring {t : Site} (hr : Routing s) (hw : Wiring s t)
    (hnode : s.cache.interrupt = none ∨ t.cache.target.nodeId = s.cache.target.nodeId) :
    Routing t where
  routed := by
    intro h hh
    rw [hw.interrupt] at hh
    rcases hnode with hnone | hnode
    · exact absurd hh (by simp [hnone])
    · rw [hnode, hw.interruptId]
      exact (hr.routed h hh).mono hw.library
  signalled := by
    intro sig hsig
    rw [hw.signals] at hsig
    obtain ⟨hdata, h, hh, hc⟩ := hr.signalled sig hsig
    exact ⟨hdata, h, hh, hc.mono hw.library⟩

/-- The mapping may change to the target: there is no interrupt, or the target is on the
same node and the library grants the new mapping. -/
def SwitchOk (s : Site) (target : DpaAddr) : Prop :=
  s.cacheHit target = true ∨ s.cache.interrupt = none
    ∨ target.nodeId = s.cache.target.nodeId ∧ s.GrantsSwitch

lemma Routing.cacheConnect (hr : Routing s) (hok : s.SwitchOk target) {err : DpaError}
    (hrun : Site.cacheConnect target s = .ok (err, s')) : Routing s' := by
  obtain ⟨htarget, hhit, hgrants⟩ := cacheConnect_spec hrun
  have hw : Wiring s s' := cacheConnect_wiring target s err s' hrun
  rcases hok with h | hnone | ⟨hnode, h⟩
  · rw [hhit h]
    exact hr
  · exact hr.wiring hw (.inl hnone)
  · exact hr.wiring hw (.inr (by rw [htarget (hgrants h), hnode]))

lemma Routing.acquireTarget (hr : Routing s) {msg : FiMsgRma} {rma : FiRmaIov}
    (hok : ∀ nodeId, s.targetNode msg = some nodeId → rma.key.toUInt32.toUInt64 = rma.key →
      s.SwitchOk ⟨nodeId, rma.key.toUInt32⟩) {ret : FiErr}
    (hrun : Site.acquireTarget msg rma s = .ok ((ret, target), s')) :
    Routing s' ∧ (ret = .success → s'.cache.target = target) := by
  rw [Site.acquireTarget, get_bind] at hrun
  cases hnode : s.targetNode msg with
  | none =>
      rw [hnode] at hrun
      exact absurd hrun throw_ne_ok
  | some nodeId =>
      simp only [hnode] at hrun
      split at hrun
      case isTrue =>
          obtain ⟨hret, rfl⟩ := Prod.mk.inj (Except.ok.inj hrun)
          obtain ⟨rfl, -⟩ := Prod.mk.inj hret
          exact ⟨hr, fun h => absurd h (by simp)⟩
      case isFalse hkey =>
          obtain ⟨err, s₁, hconnect, hrun⟩ := run_bind_ok hrun
          obtain ⟨hret, rfl⟩ := Prod.mk.inj (Except.ok.inj hrun)
          obtain ⟨rfl, rfl⟩ := Prod.mk.inj hret
          refine ⟨hr.cacheConnect (hok nodeId hnode (not_not.1 hkey)) hconnect, fun h => ?_⟩
          refine (cacheConnect_spec hconnect).1 ?_
          by_contra herr
          rw [if_pos herr] at h
          exact absurd h (by simp)

/-- The interrupt in the cache is that of the number, on the node of the target. -/
def Connected (s : Site) (nodeId id : UInt32) : Prop :=
  ∃ h, s.cache.interrupt = some h ∧ s.dpa.ConnectedTo h nodeId id

/-- A new interrupt is connected to the node of the target. -/
lemma Routing.cacheNewInterrupt (hr : Routing s) (hnone : s.cache.interrupt = none) {id : UInt32}
    {err : DpaError} (hrun : Site.cacheNewInterrupt id s = .ok (err, s')) :
    Routing s' ∧ s'.cache.target = s.cache.target ∧ s'.signals = s.signals
      ∧ (err = .ok → s'.Connected s.cache.target.nodeId id) := by
  simp only [Site.cacheNewInterrupt, get_bind, lib_bind] at hrun
  have hsignalled (c : DpaCall) := (hr.wiring (lib_wiring c s _ _ rfl) (.inl hnone)).signalled
  split at hrun
  case isTrue herr =>
      obtain ⟨rfl, rfl⟩ := Prod.mk.inj (Except.ok.inj hrun)
      have hnew : (s.dpa.call (.connectInterrupt s.cache.sd s.cache.target.nodeId id)).ConnectedTo
          s.dpa.handle s.cache.target.nodeId id := Dpa.connectedTo_handle herr
      refine ⟨⟨fun h hh => ?_, hsignalled _⟩, rfl, rfl, fun _ => ⟨_, rfl, hnew⟩⟩
      obtain rfl : s.dpa.handle = h := Option.some.inj hh
      exact hnew
  case isFalse herr =>
      obtain ⟨rfl, rfl⟩ := Prod.mk.inj (Except.ok.inj hrun)
      refine ⟨⟨fun h hh => ?_, hsignalled _⟩, rfl, rfl, fun h => absurd h herr⟩
      exact absurd (hnone.symm.trans hh) (by simp)

/-- `cache_disconnect_interrupt` leaves no interrupt. -/
lemma Routing.cacheDisconnectInterrupt (hr : Routing s) {u : Unit}
    (hrun : Site.cacheDisconnectInterrupt s = .ok (u, s')) :
    Routing s' ∧ s'.cache.interrupt = none ∧ s'.cache.target = s.cache.target
      ∧ s'.signals = s.signals := by
  rw [Site.cacheDisconnectInterrupt, get_bind] at hrun
  split at hrun
  case isTrue hnone =>
      obtain ⟨-, rfl⟩ := Prod.mk.inj (Except.ok.inj hrun)
      exact ⟨hr, Option.isNone_iff_eq_none.1 hnone, rfl, rfl⟩
  case isFalse =>
      obtain ⟨-, rfl⟩ := Prod.mk.inj (Except.ok.inj hrun)
      refine ⟨⟨fun h hh => absurd hh (by simp [cache]), fun sig hsig => ?_⟩, rfl, rfl, rfl⟩
      obtain ⟨hdata, h, hh, hc⟩ := hr.signalled sig hsig
      exact ⟨hdata, h, hh, hc.mono (.call _ _)⟩

/-- `cache_connect_interrupt` leaves the target alone; on success the interrupt is that of the
number. -/
lemma Routing.cacheConnectInterrupt (hr : Routing s) {id : UInt32} {err : DpaError}
    (hrun : Site.cacheConnectInterrupt id s = .ok (err, s')) :
    Routing s' ∧ s'.cache.target = s.cache.target ∧ s'.signals = s.signals
      ∧ (err = .ok → s'.Connected s.cache.target.nodeId id) := by
  rw [Site.cacheConnectInterrupt, get_bind] at hrun
  split at hrun
  case isTrue hsome =>
      split at hrun
      case isTrue hid =>
          obtain ⟨rfl, rfl⟩ := Prod.mk.inj (Except.ok.inj hrun)
          obtain ⟨h, hh⟩ := Option.isSome_iff_exists.1 hsome
          exact ⟨hr, rfl, rfl, fun _ => ⟨h, hh, hid ▸ hr.routed h hh⟩⟩
      case isFalse =>
          obtain ⟨_, s₁, hdisconnect, hrun⟩ := run_bind_ok hrun
          obtain ⟨hr₁, hnone, htarget, hsignals⟩ := hr.cacheDisconnectInterrupt hdisconnect
          have hnew := hr₁.cacheNewInterrupt hnone hrun
          rwa [htarget, hsignals] at hnew
  case isFalse hnone =>
      exact hr.cacheNewInterrupt (by simpa using hnone) hrun

/-- The interrupt that an operation on the cached target triggers is the one that its data
names. -/
lemma Routing.signalInterrupt (hr : Routing s) {nodeId : UInt32}
    (hnode : s.cache.target.nodeId = nodeId) {data : UInt64} {u : Unit}
    (hrun : Site.signalInterrupt nodeId data s = .ok (u, s')) : Routing s' := by
  rw [Site.signalInterrupt] at hrun
  split at hrun
  case isTrue =>
      obtain ⟨-, rfl⟩ := Prod.mk.inj (Except.ok.inj hrun)
      exact hr
  case isFalse hdata =>
      obtain ⟨err, s₁, hconnect, hrun⟩ := run_bind_ok hrun
      obtain ⟨hr₁, -, -, hconnected⟩ := hr.cacheConnectInterrupt hconnect
      split at hrun
      case isTrue =>
          obtain ⟨-, rfl⟩ := Prod.mk.inj (Except.ok.inj hrun)
          exact hr₁
      case isFalse herr =>
          obtain ⟨-, rfl⟩ := Prod.mk.inj (Except.ok.inj hrun)
          obtain ⟨h, hh, hc⟩ := hconnected (not_not.1 herr)
          refine ⟨fun h' hh' => (hr₁.routed h' hh').mono (.call _ _), fun sig hsig => ?_⟩
          rcases List.mem_append.1 hsig with hsig | hsig
          · obtain ⟨hd, h', hh', hc'⟩ := hr₁.signalled sig hsig
            exact ⟨hd, h', hh', hc'.mono (.call _ _)⟩
          · obtain rfl := List.mem_singleton.1 hsig
            exact ⟨not_not.1 hdata, h, hh, hnode ▸ hc.mono (.call _ _)⟩

/-! ### The operations -/

/-- An operation may change the mapping. -/
def MsgOk (s : Site) (msg : Option FiMsgRma) : Prop :=
  ∀ m rma nodeId, checkRma msg = some (m, rma) → s.targetNode m = some nodeId →
    rma.key.toUInt32.toUInt64 = rma.key → s.SwitchOk ⟨nodeId, rma.key.toUInt32⟩

lemma Routing.congr {t : Site} (hr : Routing s) (hcache : t.cache = s.cache)
    (hdpa : t.dpa = s.dpa) (hsignals : t.signals = s.signals) : Routing t := by
  obtain ⟨hrouted, hsignalled⟩ := hr
  exact ⟨by rwa [hcache, hdpa], by rwa [hsignals, hdpa]⟩

lemma Routing.completeRma (hr : Routing s) {cq cntr : Option ℕ} {entry : CqErrEntry} {u : Unit}
    (hrun : Site.completeRma cq cntr entry s = .ok (u, s')) :
    Routing s' ∧ s'.cache = s.cache := by
  obtain ⟨-, rfl⟩ := Prod.mk.inj (Except.ok.inj hrun)
  exact ⟨hr.congr rfl rfl rfl, rfl⟩

lemma Routing.finishRead (hr : Routing s) {m : FiMsgRma}
    (htarget : s.cache.target = target) {flags : UInt64}
    {read : UInt64 × List Host.Iovec} {r : FiErr × List Host.Iovec}
    (hrun : Site.finishRead m target flags read s = .ok (r, s')) : Routing s' := by
  rw [Site.finishRead, get_bind] at hrun
  obtain ⟨_, s₁, hcomplete, hrun⟩ := run_bind_ok hrun
  obtain ⟨hr₁, hcache⟩ := hr.completeRma hcomplete
  split at hrun
  case isTrue =>
      obtain ⟨_, s₂, hsignal, hrun⟩ := run_bind_ok hrun
      obtain ⟨-, rfl⟩ := Prod.mk.inj (Except.ok.inj hrun)
      exact hr₁.signalInterrupt (by rw [hcache, htarget]) hsignal
  case isFalse =>
      obtain ⟨-, rfl⟩ := Prod.mk.inj (Except.ok.inj hrun)
      exact hr₁

lemma Routing.dpaReadmsg (hr : Routing s) {msg : Option FiMsgRma} (hok : s.MsgOk msg)
    {flags : UInt64} {r : FiErr × List Host.Iovec}
    (hrun : Site.dpaReadmsg msg flags s = .ok (r, s')) : Routing s' := by
  cases hcheck : checkRma msg with
  | none =>
      rw [Site.dpaReadmsg, hcheck] at hrun
      obtain ⟨-, rfl⟩ := Prod.mk.inj (Except.ok.inj hrun)
      exact hr
  | some p =>
      obtain ⟨m, rma⟩ := p
      obtain ⟨ret, target, s₁, hacquire, hfail, hdone⟩ := dpaReadmsg_checked hcheck hrun
      obtain ⟨hr₁, htarget⟩ := hr.acquireTarget (hok m rma · hcheck) hacquire
      by_cases hret : ret = .success
      · exact hr₁.finishRead (htarget hret) (hdone hret)
      · obtain ⟨-, -, rfl⟩ := hfail hret
        exact hr₁

lemma Routing.finishWrite (hr : Routing s) {m : FiMsgRma}
    (htarget : s.cache.target = target) {flags copied : UInt64}
    {sequence : Option Handle} {ret : FiErr}
    (hrun : Site.finishWrite m target flags copied sequence s = .ok (ret, s')) : Routing s' := by
  rw [Site.finishWrite, get_bind] at hrun
  obtain ⟨_, s₁, hcomplete, hrun⟩ := run_bind_ok hrun
  obtain ⟨hr₁, hcache⟩ := hr.completeRma hcomplete
  split at hrun
  case isTrue =>
      obtain ⟨_, s₂, hsignal, hrun⟩ := run_bind_ok hrun
      obtain ⟨-, rfl⟩ := Prod.mk.inj (Except.ok.inj hrun)
      exact hr₁.signalInterrupt (by rw [hcache, htarget]) hsignal
  case isFalse =>
      split at hrun
      · obtain ⟨-, rfl⟩ := Prod.mk.inj (Except.ok.inj hrun)
        exact hr₁.wiring (lib_wiring _ s₁ _ _ rfl) (.inr rfl)
      · obtain ⟨-, rfl⟩ := Prod.mk.inj (Except.ok.inj hrun)
        exact hr₁

lemma Routing.dpaWritemsg (hr : Routing s) {msg : Option FiMsgRma} (hok : s.MsgOk msg)
    {flags : UInt64} {ret : FiErr} (hrun : Site.dpaWritemsg msg flags s = .ok (ret, s')) :
    Routing s' := by
  cases hcheck : checkRma msg with
  | none =>
      rw [Site.dpaWritemsg, hcheck] at hrun
      obtain ⟨-, rfl⟩ := Prod.mk.inj (Except.ok.inj hrun)
      exact hr
  | some p =>
      obtain ⟨m, rma⟩ := p
      obtain ⟨ret₁, target, s₁, hacquire, hfail, hdone⟩ := dpaWritemsg_checked hcheck hrun
      obtain ⟨hr₁, htarget⟩ := hr.acquireTarget (hok m rma · hcheck) hacquire
      by_cases hret : ret₁ = .success
      · have hr₂ : Routing (s₁.stored m rma) := hr₁.congr rfl rfl rfl
        exact hr₂.finishWrite (htarget hret) (hdone hret)
      · obtain ⟨-, rfl⟩ := hfail hret
        exact hr₁

/-- An operation keeps the routing. -/
lemma Routing.rma (hr : Routing s) {c : RmaCall} (hok : s.MsgOk c.msg) {u : Unit}
    (hrun : Site.rma c s = .ok (u, s')) : Routing s' := by
  cases c with
  | readmsg | readv | read =>
      obtain ⟨_, _, h, hrun⟩ := run_bind_ok hrun
      obtain ⟨-, rfl⟩ := Prod.mk.inj (Except.ok.inj hrun)
      exact hr.dpaReadmsg hok h
  | writemsg | writev | write | writedata =>
      obtain ⟨_, _, h, hrun⟩ := run_bind_ok hrun
      obtain ⟨-, rfl⟩ := Prod.mk.inj (Except.ok.inj hrun)
      exact hr.dpaWritemsg hok h

/-- An operation, or a change of the connection, of the address vectors or of the remote
memory. -/
inductive RmaEvent where
  | call (c : RmaCall)
  | environment (connected : Bool) (peerAddr : DpaAddr) (av : Option ℕ)
      (avLookup : ℕ → UInt64 → DpaAddr) (regions : DpaAddr → ByteMem)

def rmaEvent (s : Site) : RmaEvent → Option Site
  | .call c => ((rma c s).map Prod.snd).toOption
  | .environment connected peerAddr av avLookup regions =>
      some { s with avLookup, regions, host.ep.connected := connected
                    host.ep.peerAddr := peerAddr, host.ep.av := av }

/-- An event may change the mapping. -/
def RmaOk (s : Site) : RmaEvent → Prop
  | .call c => s.MsgOk c.msg
  | .environment .. => True

lemma Routing.event (hr : Routing s) {a : RmaEvent} (hok : s.RmaOk a)
    (heq : s.rmaEvent a = some s') : Routing s' := by
  cases a with
  | call c =>
      obtain ⟨⟨u, t⟩, hrun, rfl⟩ := Except.map_eq_ok (toOption_eq_some heq)
      exact hr.rma hok hrun
  | environment connected peerAddr av avLookup regions =>
      obtain rfl := Option.some.inj heq
      exact hr.congr rfl rfl rfl

/-- Remote notifications reach the node and the interrupt that they are meant for: in every
run of operations in which the mapping changes only while no interrupt is cached, or to
another segment of the same node that the library grants,

* the interrupt in the cache is connected to its number on the node of the target;
* every interrupt triggered for an operation is the one that the data of the operation
  names, on the node of its target. -/
theorem notification_routed {s₀ s : Site} (hcache : s₀.cache.interrupt = none)
    (hsignals : s₀.signals = []) {events : List RmaEvent}
    (hok : Stepper.Meets rmaEvent RmaOk s₀ events)
    (hrun : Stepper.run rmaEvent s₀ events = some s) : Routing s := by
  have hr₀ : Routing s₀ := by
    constructor
    · simp [hcache]
    · simp [hsignals]
  exact Stepper.run_induction (I := Routing) (fun s a s' hr hok heq => hr.event hok heq) hr₀ hok
    hrun

/-- An endpoint that is not connected, with an address vector. -/
def unconnected : Site :=
  granted
    { Host.established 24 ⟨1, 0, 0⟩ ⟨2, 0, 0⟩ with
      ep.connected := false
      ep.av := some 0 }

/-- A write of eight bytes to a segment of a node, with a notification. -/
def notifyAt (nodeId key data : UInt64) : RmaEvent :=
  .call (.writedata (fun _ => 1) 8 data nodeId 0 key 0)

/-- The same for the segment 5. -/
def notify (nodeId data : UInt64) : RmaEvent := notifyAt nodeId 5 data

/-- Two notifications to one node, over two of its segments. -/
def sameNode : List RmaEvent := [notify 1 7, notifyAt 1 6 7]

theorem notification_routed_sameNode : ∃ s, Stepper.run rmaEvent unconnected sameNode = some s
    ∧ s.signals.map Signal.nodeId = [1, 1] ∧ Routing s := by
  obtain ⟨s₁, hfirst, htarget, hgranted, hlookup⟩ : ∃ s₁,
      unconnected.rmaEvent (notify 1 7) = some s₁ ∧ s₁.cache.target.nodeId = 1 ∧ s₁.GrantsSwitch
        ∧ ∀ msg : FiMsgRma, s₁.targetNode msg = some msg.addr.toUInt32 :=
    ⟨_, rfl, rfl, fun _ _ => rfl, fun _ => rfl⟩
  obtain ⟨s, hrun, hs⟩ : ∃ s, Stepper.run rmaEvent unconnected sameNode = some s
      ∧ s.signals.map Signal.nodeId = [1, 1] := ⟨_, rfl, rfl⟩
  have hok : Stepper.Meets rmaEvent RmaOk unconnected sameNode := by
    refine (Stepper.meets_cons hfirst).2 ⟨fun m rma nodeId _ _ _ => .inr (.inl rfl), ?_⟩
    refine ⟨fun m rma nodeId hcheck hnode _ => .inr (.inr ⟨?_, hgranted⟩), fun _ _ => trivial⟩
    cases hcheck
    exact (Option.some.inj ((hlookup _).symm.trans hnode)).symm.trans htarget.symm
  exact ⟨s, hrun, hs, notification_routed rfl rfl hok hrun⟩

/-- After a write to node 1 and one to node 2, with the same data, the second notification has
gone to node 1. -/
theorem notification_misrouted : ∃ s,
    Stepper.run rmaEvent unconnected [notify 1 7, notify 2 7] = some s ∧ ¬ Routing s := by
  obtain ⟨s, hrun, hsignals, hcalls⟩ : ∃ s,
      Stepper.run rmaEvent unconnected [notify 1 7, notify 2 7] = some s
        ∧ s.signals = [⟨1, 7, some 6⟩, ⟨2, 7, some 6⟩]
        ∧ s.dpa.calls[6]? = some (.connectInterrupt (some 0) 1 7) := ⟨_, rfl, rfl, rfl⟩
  refine ⟨s, hrun, fun hr => ?_⟩
  obtain ⟨-, h, hh, -, sd, hget⟩ := hr.signalled ⟨2, 7, some 6⟩ (by simp [hsignals])
  obtain rfl : 6 = h := Option.some.inj hh
  rw [hcalls] at hget
  exact absurd (Option.some.inj hget) (by simp)

end Site

end DpaProvider
