import DpaProvider.Cq.Interrupts
import DpaProvider.Rma.Flush
import DpaProvider.Rma.Frames

/-!
Notifications from operations to completion queues.

An operation with `FI_REMOTE_CQ_DATA` triggers the interrupt that its data names on the node of its
target, and a completion queue that waits for the interrupt with this number gets an entry with it.

The library does not make up interrupts: a wait succeeds at most as often as the interrupt was
triggered.

* `Dpa.rings`: the interrupts that a process has triggered, by node and number;
* `rung`, `rma_rung`: an operation triggers an interrupt for each notification, and no other;
* `entries_notified`: whatever the processes and the completion queues do, in any order, no more
  entries come from interrupts than notifications were sent, for each node and each number.
-/

namespace DpaProvider

open Effect

/-! ### The interrupts that are triggered -/

/-- The interrupt that a call triggers. -/
def DpaCall.triggered : DpaCall → Option (Option Handle)
  | .triggerInterrupt interrupt => some interrupt
  | _ => none

namespace Dpa

variable {d d' : Dpa} {h : Handle} {nodeId id : UInt32}

/-- The node and the number that a handle is connected to. -/
def connection (d : Dpa) (h : Handle) : Option (UInt32 × UInt32) :=
  if (d.replies h).err = .ok then
    match d.calls[h]? with
    | some (.connectInterrupt _ nodeId id) => some (nodeId, id)
    | _ => none
  else none

/-- The interrupts triggered, by node and number. -/
def rings (d : Dpa) : List (UInt32 × UInt32) :=
  (d.calls.filterMap DpaCall.triggered).filterMap fun h => h.bind d.connection

lemma connection_eq_some_iff : d.connection h = some (nodeId, id) ↔ d.ConnectedTo h nodeId id := by
  rw [connection, ConnectedTo]
  split
  case isTrue hok =>
      rw [and_iff_right hok]
      constructor
      · intro heq
        split at heq
        case h_1 sd nodeId' id' hcall =>
            obtain ⟨rfl, rfl⟩ := Prod.mk.inj (Option.some.inj heq)
            exact ⟨sd, hcall⟩
        case h_2 => cases heq
      · rintro ⟨sd, hcall⟩
        rw [hcall]
  case isFalse hfails => exact iff_of_false nofun fun h => hfails h.1

/-- They do not become fewer. -/
lemma Extends.rings_le (he : d.Extends d') (p : UInt32 × UInt32) :
    d.rings.count p ≤ d'.rings.count p := by
  obtain ⟨more, hcalls⟩ := he.calls
  rw [rings, rings, ← hcalls, List.filterMap_append, List.filterMap_append, List.count_append]
  refine le_trans ?_ (Nat.le_add_right _ _)
  rw [List.count_filterMap, List.count_filterMap]
  refine List.countP_mono_left fun h _ heq => ?_
  obtain ⟨nodeId, id⟩ := p
  rw [beq_iff_eq] at heq ⊢
  obtain ⟨h', rfl, hconn⟩ := Option.bind_eq_some_iff.1 heq
  exact connection_eq_some_iff.2 ((connection_eq_some_iff.1 hconn).mono he)

end Dpa

namespace Site

variable {s t : Site}

/-- Every notification noted has triggered an interrupt, and there were no other triggers. -/
def rung : Frame Site where
  rel := fun s t => ∃ more : List Signal, t.signals = s.signals ++ more
    ∧ t.dpa.calls.filterMap DpaCall.triggered
      = s.dpa.calls.filterMap DpaCall.triggered ++ more.map Signal.interrupt
  refl := fun s => ⟨[], (List.append_nil _).symm, (List.append_nil _).symm⟩
  trans := by
    rintro s t u ⟨more, hsignals, hcalls⟩ ⟨more', hsignals', hcalls'⟩
    refine ⟨more ++ more', ?_, ?_⟩
    · rw [hsignals', hsignals, List.append_assoc]
    · rw [hcalls', hcalls, List.map_append, List.append_assoc]

/-- Nothing that concerns interrupts. -/
lemma rung_of_eq (hsignals : t.signals = s.signals)
    (hcalls : t.dpa.calls.filterMap DpaCall.triggered
      = s.dpa.calls.filterMap DpaCall.triggered) : rung.rel s t :=
  ⟨[], by rw [hsignals, List.append_nil], by rw [hcalls, List.map_nil, List.append_nil]⟩

lemma triggered_call (d : Dpa) (c : DpaCall) :
    (d.call c).calls.filterMap DpaCall.triggered
      = d.calls.filterMap DpaCall.triggered ++ c.triggered.toList := by
  rw [Dpa.call, List.filterMap_append]
  cases h : c.triggered <;> simp [h]

lemma lib_rung {c : DpaCall} (hc : c.triggered = none) : Keeps rung (lib c) := by
  intro s a t hrun
  obtain ⟨-, rfl⟩ := Prod.mk.inj (run_lib_ok hrun)
  exact rung_of_eq rfl (by rw [triggered_call, hc]; simp)

lemma mapping_rung (c : DpaCall) (hc : mappingCall c = true) : Keeps rung (lib c) := by
  refine lib_rung ?_
  cases c
  case triggerInterrupt => cases hc
  all_goals rfl

lemma setCache_rung (f : RemoteMrCache → RemoteMrCache) : Keeps rung (setCache f) :=
  keeps_modify fun _ => rung_of_eq rfl rfl

lemma cacheConnectInterrupt_rung (id : UInt32) : Keeps rung (cacheConnectInterrupt id) := by
  have hnew : Keeps rung (cacheNewInterrupt id) := by
    refine keeps_bind keeps_get fun s => keeps_bind (lib_rung rfl) fun r => ?_
    exact keeps_ite (keeps_bind (setCache_rung _) fun _ => keeps_pure _) (keeps_pure _)
  have hdisconnect : Keeps rung cacheDisconnectInterrupt := by
    refine keeps_bind keeps_get fun s => keeps_ite (keeps_pure _) ?_
    exact keeps_bind (lib_rung rfl) fun _ => setCache_rung _
  refine keeps_bind keeps_get fun s => keeps_ite (keeps_ite (keeps_pure _) ?_) hnew
  exact keeps_bind hdisconnect fun _ => hnew

/-- The interrupt triggered is the one noted. -/
lemma signalInterrupt_rung (nodeId : UInt32) (data : UInt64) :
    Keeps rung (signalInterrupt nodeId data) := by
  refine keeps_ite (keeps_pure _) (keeps_bind (cacheConnectInterrupt_rung _) fun err => ?_)
  refine keeps_ite (keeps_pure _) ?_
  intro s u t hrun
  obtain ⟨-, rfl⟩ := Prod.mk.inj (Except.ok.inj hrun)
  exact ⟨[⟨nodeId, data, s.cache.interrupt⟩], rfl, triggered_call s.dpa _⟩

lemma rma_rung (c : RmaCall) : Keeps rung (rma c) :=
  rma_keeps mapping_rung (fun _ => lib_rung rfl) (fun f _ _ => setCache_rung f)
    (fun _ => keeps_modify fun _ => rung_of_eq rfl rfl)
    (fun _ _ _ => keeps_modify fun _ => rung_of_eq rfl rfl) signalInterrupt_rung c

/-- The triggers in the record are those of the notifications. -/
def Accounted (s : Site) : Prop :=
  s.dpa.calls.filterMap DpaCall.triggered = s.signals.map Signal.interrupt

lemma Accounted.rung (h : s.Accounted) (hr : Site.rung.rel s t) : t.Accounted := by
  obtain ⟨more, hsignals, hcalls⟩ := hr
  rw [Accounted, hcalls, hsignals, h, List.map_append]

lemma rma_onward (c : RmaCall) : Keeps onward (rma c) :=
  rma_keeps (fun c _ => lib_onward c) (fun _ => lib_onward _) (fun f _ _ => setCache_onward f)
    (fun _ => keeps_modify fun s => .refl s.dpa) (fun _ _ _ => keeps_modify fun s => .refl s.dpa)
    (fun _ _ _ _ _ hrun => (signalInterrupt_calls hrun).1) c

/-- An event adds calls, and triggers what it notes. -/
lemma Accounted.event (h : s.Accounted) {a : RmaEvent} (heq : s.rmaEvent a = some t) :
    t.Accounted ∧ s.dpa.Extends t.dpa := by
  cases a with
  | call c =>
      obtain ⟨⟨u, t⟩, hrun, rfl⟩ := Except.map_eq_ok (toOption_eq_some heq)
      exact ⟨h.rung (rma_rung c _ _ _ hrun), rma_onward c _ _ _ hrun⟩
  | environment connected peerAddr av avLookup regions =>
      obtain rfl := Option.some.inj heq
      exact ⟨h, .refl s.dpa⟩

/-- How many notifications were sent to a node and a number. -/
def notifications (s : Site) (nodeId id : UInt32) : ℕ :=
  s.signals.countP fun sig => sig.nodeId = nodeId ∧ sig.data = id.toUInt64

/-- The interrupts triggered are those that the notifications name. -/
lemma rings_eq (hr : Routing s) (ha : s.Accounted) :
    s.dpa.rings = s.signals.map fun sig => (sig.nodeId, sig.data.toUInt32) := by
  rw [Dpa.rings, ha, List.filterMap_map, ← List.filterMap_eq_map]
  refine List.filterMap_congr fun sig hsig => ?_
  obtain ⟨-, h, hh, hconn⟩ := hr.signalled sig hsig
  simp only [Function.comp_apply, hh, Option.bind_some]
  exact Dpa.connection_eq_some_iff.2 hconn

lemma rings_count (hr : Routing s) (ha : s.Accounted) (nodeId id : UInt32) :
    s.dpa.rings.count (nodeId, id) = s.notifications nodeId id := by
  rw [rings_eq hr ha, List.count, List.countP_map, notifications]
  refine List.countP_congr fun sig hsig => ?_
  have hdata := (hr.signalled sig hsig).1
  have hid : sig.data.toUInt32 = id ↔ sig.data = id.toUInt64 := by
    constructor
    · rintro rfl
      exact hdata.symm
    · rintro heq
      rw [heq, UInt32.toUInt32_toUInt64]
  simp [hid]

end Site

/-! ### Processes and completion queues -/

/-- Endpoints of any processes that operate on remote memory, and completion queues of any
processes. -/
structure Cluster (ι κ : Type) where
  sites : ι → Site
  cqs : κ → InterruptCq

namespace Cluster

variable {ι κ : Type} [DecidableEq ι] [DecidableEq κ]

/-- An operation of an endpoint, or a step on a completion queue. -/
inductive Event (ι κ : Type) where
  | rma (i : ι) (a : Site.RmaEvent)
  | cq (j : κ) (a : InterruptCq.Step)

def step (c : Cluster ι κ) : Event ι κ → Option (Cluster ι κ)
  | .rma i a => ((c.sites i).rmaEvent a).map fun s =>
      { c with sites := Function.update c.sites i s }
  | .cq j a => some { c with cqs := Function.update c.cqs j ((c.cqs j).step a) }

variable [Fintype ι] [Fintype κ]

/-- How often an interrupt of a node was triggered. -/
def rings (c : Cluster ι κ) (nodeId id : UInt32) : ℕ :=
  ∑ i, (c.sites i).dpa.rings.count (nodeId, id)

/-- How many waits for it have succeeded, whatever the queue. -/
def waits (c : Cluster ι κ) (nodeId id : UInt32) : ℕ :=
  ∑ j with (c.cqs j).nodeId = nodeId, (c.cqs j).waits id

/-- The mappings change only while no interrupt is cached, or to another segment of the same node
that the library grants. -/
def Routable (c : Cluster ι κ) : Event ι κ → Prop
  | .rma i a => (c.sites i).RmaOk a
  | .cq .. => True

/-- The library makes no interrupts up: each wait that succeeds has its own trigger. -/
def Genuine (c : Cluster ι κ) : Event ι κ → Prop
  | .cq j (.waitCqInterrupt .ok) => ∀ id, (c.cqs j).interrupt.handle = some id →
      c.waits (c.cqs j).nodeId id < c.rings (c.cqs j).nodeId id
  | _ => True

/-- No interrupt is cached or was triggered, and the completion queues are new. -/
structure Start (c : Cluster ι κ) : Prop where
  cache : ∀ i, (c.sites i).cache.interrupt = none
  signals : ∀ i, (c.sites i).signals = []
  calls : ∀ i, (c.sites i).dpa.calls.filterMap DpaCall.triggered = []
  cqs : ∀ j, ∃ nodeId waitObj, c.cqs j = .dpaCqOpen nodeId waitObj

structure Inv (c : Cluster ι κ) : Prop where
  routing : ∀ i, Site.Routing (c.sites i)
  accounted : ∀ i, (c.sites i).Accounted
  sound : ∀ j, (c.cqs j).Sound
  genuine : ∀ nodeId id, c.waits nodeId id ≤ c.rings nodeId id

variable {c c' : Cluster ι κ}

omit [DecidableEq ι] [DecidableEq κ] in
lemma Start.inv (h : c.Start) : c.Inv where
  routing i := ⟨by simp [h.cache i], by simp [h.signals i]⟩
  accounted i := by rw [Site.Accounted, h.calls i, h.signals i, List.map_nil]
  sound j := by
    obtain ⟨nodeId, waitObj, hj⟩ := h.cqs j
    exact hj ▸ InterruptCq.sound_open nodeId waitObj
  genuine nodeId id := by
    have hzero : c.waits nodeId id = 0 := Finset.sum_eq_zero fun j _ => by
      obtain ⟨nodeId', waitObj, hj⟩ := h.cqs j
      rw [hj]
      rfl
    exact hzero ▸ Nat.zero_le _

/-- An operation adds triggers only. -/
lemma Inv.rma (h : c.Inv) {i : ι} {a : Site.RmaEvent} (hok : (c.sites i).RmaOk a)
    (heq : c.step (.rma i a) = some c') : c'.Inv := by
  obtain ⟨s, hs, rfl⟩ := Option.map_eq_some_iff.1 heq
  obtain ⟨haccounted, hextends⟩ := (h.accounted i).event hs
  refine ⟨?_, ?_, h.sound, fun nodeId id => ?_⟩
  · exact (Function.forall_update_iff c.sites fun _ s => Site.Routing s).2
      ⟨(h.routing i).event hok hs, fun k _ => h.routing k⟩
  · exact (Function.forall_update_iff c.sites fun _ s => s.Accounted).2
      ⟨haccounted, fun k _ => h.accounted k⟩
  · refine (h.genuine nodeId id).trans (Finset.sum_le_sum fun k _ => ?_)
    dsimp only
    by_cases hk : k = i
    · subst hk
      rw [Function.update_self]
      exact hextends.rings_le _
    · rw [Function.update_of_ne hk]

omit [DecidableEq ι] [Fintype ι] in
/-- A step on a completion queue counts one more wait at most. -/
lemma waits_cq (j : κ) (a : InterruptCq.Step) (nodeId id : UInt32) :
    waits { c with cqs := Function.update c.cqs j ((c.cqs j).step a) } nodeId id
      = c.waits nodeId id + if (c.cqs j).nodeId = nodeId ∧ a = .waitCqInterrupt .ok
          ∧ (c.cqs j).interrupt.handle = some id then 1 else 0 := by
  obtain ⟨hnode, hwaits⟩ := (c.cqs j).step_waits a id
  rw [waits, waits, Finset.sum_filter, Finset.sum_filter]
  have hpoint (k : κ) :
      (if (Function.update c.cqs j ((c.cqs j).step a) k).nodeId = nodeId then
          (Function.update c.cqs j ((c.cqs j).step a) k).waits id else 0)
        = (if (c.cqs k).nodeId = nodeId then (c.cqs k).waits id else 0)
          + if k = j then (if (c.cqs j).nodeId = nodeId ∧ a = .waitCqInterrupt .ok
            ∧ (c.cqs j).interrupt.handle = some id then 1 else 0) else 0 := by
    by_cases hk : k = j
    · subst hk
      rw [Function.update_self, hnode, hwaits, if_pos rfl]
      by_cases hn : (c.cqs k).nodeId = nodeId
      · simp [hn]
      · simp [hn]
    · rw [Function.update_of_ne hk, if_neg hk, Nat.add_zero]
  dsimp only
  rw [Finset.sum_congr rfl fun k _ => hpoint k, Finset.sum_add_distrib, Finset.sum_ite_eq',
    if_pos (Finset.mem_univ j)]

lemma Inv.cq (h : c.Inv) {j : κ} {a : InterruptCq.Step} (hgenuine : c.Genuine (.cq j a))
    (heq : c.step (.cq j a) = some c') : c'.Inv := by
  obtain rfl := Option.some.inj heq
  refine ⟨h.routing, h.accounted, ?_, fun nodeId id => ?_⟩
  · exact (Function.forall_update_iff c.cqs fun _ cq => cq.Sound).2
      ⟨(h.sound j).step a, fun k _ => h.sound k⟩
  · rw [waits_cq]
    split
    case isTrue hwait =>
        obtain ⟨rfl, rfl, hid⟩ := hwait
        exact hgenuine id hid
    case isFalse => exact h.genuine nodeId id

/-- Remote notifications are neither made up nor doubled.  In every run of operations and of steps
on completion queues, in any order, the mappings changing only as they may, and the library making
no interrupts up,

* each completion queue hands out its successful entries in the order in which they came, and has
  one entry for each wait that succeeded, with the number and the flags of an interrupt that
  `dpa_cq_wait_data` has given it;
* for each node and each number, no more such entries have come to the completion queues of the
  node than notifications with this number were sent to it. -/
theorem entries_notified {events : List (Event ι κ)} (hstart : c.Start)
    (hroutable : Stepper.Meets step Routable c events)
    (hgenuine : Stepper.Meets step Genuine c events)
    (hrun : Stepper.run step c events = some c') :
    (∀ j, (c'.cqs j).Sound) ∧ ∀ nodeId id,
      ∑ j with (c'.cqs j).nodeId = nodeId, (c'.cqs j).notified id
        ≤ ∑ i, (c'.sites i).notifications nodeId id := by
  have hinv : c'.Inv := by
    refine Stepper.run_induction (fun c a c' hinv hmeets heq => ?_) hstart.inv
      (hroutable.and hgenuine) hrun
    cases a with
    | rma i a => exact hinv.rma hmeets.1 heq
    | cq j a => exact hinv.cq hmeets.2 heq
  refine ⟨hinv.sound, fun nodeId id => ?_⟩
  calc ∑ j with (c'.cqs j).nodeId = nodeId, (c'.cqs j).notified id
      = c'.waits nodeId id := Finset.sum_congr rfl fun j _ => (hinv.sound j).notified_eq id
    _ ≤ c'.rings nodeId id := hinv.genuine nodeId id
    _ = ∑ i, (c'.sites i).notifications nodeId id :=
        Finset.sum_congr rfl fun i _ =>
          Site.rings_count (hinv.routing i) (hinv.accounted i) nodeId id

/-- One endpoint and one completion queue, on node 1. -/
def single : Cluster Unit Unit where
  sites _ := .unconnected
  cqs _ := .dpaCqOpen 1 .fiWaitUnspec

/-- The completion queue gets an interrupt, the endpoint notifies it, and the entry is read. -/
def singleEvents : List (Event Unit Unit) :=
  [.cq () (.dpaCqWaitData (some 7) 64 .ok ⟨.ok, 7, .ofNode 1, 0⟩), .rma () (Site.notify 1 7),
    .cq () (.waitCqInterrupt .ok), .cq () (.cqReadPriv 1)]

/-- One notification makes one entry, which carries its number. -/
theorem entries_notified_single : ∃ c, Stepper.run step single singleEvents = some c
    ∧ (c.cqs ()).read.map (fun e => (e.data, e.flags)) = [(7, 64)]
    ∧ ∑ j with (c.cqs j).nodeId = 1, (c.cqs j).notified 7
        ≤ ∑ i, (c.sites i).notifications 1 7 := by
  obtain ⟨c, hrun, hread⟩ : ∃ c, Stepper.run step single singleEvents = some c
      ∧ (c.cqs ()).read.map (fun e => (e.data, e.flags)) = [(7, 64)] := ⟨_, rfl, rfl⟩
  have hstart : single.Start :=
    ⟨fun _ => rfl, fun _ => rfl, fun _ => rfl, fun _ => ⟨1, .fiWaitUnspec, rfl⟩⟩
  have hroutable : Stepper.Meets step Routable single singleEvents := by
    refine ⟨trivial, fun s hs => ⟨?_, fun _ _ => ⟨trivial, fun _ _ => ⟨trivial, fun _ _ => ?_⟩⟩⟩⟩
    case refine_2 => trivial
    obtain rfl := Option.some.inj hs
    exact fun m rma nodeId _ _ _ => .inr (.inl rfl)
  have hgenuine : Stepper.Meets step Genuine single singleEvents := by
    refine ⟨trivial, fun s hs => ⟨trivial, fun t ht => ⟨?_, fun _ _ => ⟨trivial, fun _ _ => ?_⟩⟩⟩⟩
    case refine_2 => trivial
    obtain rfl := Option.some.inj hs
    obtain rfl := Option.some.inj ht
    rintro id hid
    obtain rfl : 7 = id := Option.some.inj hid
    rw [waits, rings]
    decide
  exact ⟨c, hrun, hread, (entries_notified hstart hroutable hgenuine hrun).2 1 7⟩

end Cluster

end DpaProvider
