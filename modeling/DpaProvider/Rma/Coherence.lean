import DpaProvider.Rma.Notify

/-!
The cached mapping is that of the cached target.

Five handles are built in stages, and every stage can fail.  Between the operations the cache
is in one of two states: all of it is null (`Unmapped`), or it holds a mapping of the whole
segment that its target names, made by the library and not given back since (`MappedTo`).
`cacheConnect_coherent`: a hit and a granted miss end in the second with the target asked for,
and every failure ends in the first.  `cache_coherent` draws from it where the operations of a
run read and write.
-/

namespace DpaProvider

open ByteMem Host Dpa Effect

/-- There is no mapping in the cache, nor a part of one. -/
structure RemoteMrCache.Unmapped (c : RemoteMrCache) : Prop where
  base : c.base = none
  sequence : c.sequence = none
  map : c.map = none
  segment : c.segment = none
  sd : c.sd = none
  target : c.target = ⟨0, 0⟩
  len : c.len = 0

/-- The handles of a mapping. -/
structure MappingHandles where
  sd : Handle
  segment : Handle
  map : Handle
  sequence : Handle

/-- The cache holds the current mapping of the target: `len` is what the library gave for the size
of the segment, all of it is mapped, and no part was given back. -/
structure MappedBy (d : Dpa) (c : RemoteMrCache) (m : MappingHandles) : Prop where
  base : c.base = some c.target
  sd : c.sd = some m.sd
  segment : c.segment = some m.segment
  map : c.map = some m.map
  sequence : c.sequence = some m.sequence
  opened : d.Current m.sd .dpaOpen (.close (some m.sd))
  connected : d.Current m.segment
    (.connectSegment (some m.sd) c.target.nodeId c.target.connectId)
    (.disconnectSegment (some m.segment))
  measured : ∃ i, d.calls[i]? = some (.getRemoteSegmentSize (some m.segment))
    ∧ (d.replies i).size = c.len
  mapped : d.Current m.map (.mapRemoteSegment (some m.segment) 0 c.len) (.unmapSegment (some m.map))
  started : d.Current m.sequence (.createMapSequence (some m.map))
    (.removeSequence (some m.sequence))

/-- The calls that give a part of a mapping back. -/
def unmaps : DpaCall → Bool
  | .close _ | .disconnectSegment _ | .unmapSegment _ | .removeSequence _ => true
  | _ => false

lemma MappedBy.call {d : Dpa} {c : RemoteMrCache} {m : MappingHandles} (hm : MappedBy d c m)
    {a : DpaCall} (ha : unmaps a = false) : MappedBy (d.call a) c m where
  base := hm.base
  sd := hm.sd
  segment := hm.segment
  map := hm.map
  sequence := hm.sequence
  opened := hm.opened.call (by rintro rfl; simp [unmaps] at ha)
  connected := hm.connected.call (by rintro rfl; simp [unmaps] at ha)
  measured := by
    obtain ⟨i, hi, hsize⟩ := hm.measured
    exact ⟨i, getElem?_call hi a, hsize⟩
  mapped := hm.mapped.call (by rintro rfl; simp [unmaps] at ha)
  started := hm.started.call (by rintro rfl; simp [unmaps] at ha)

/-- The cache of a site holds the current mapping of the target. -/
def Site.MappedTo (s : Site) (target : DpaAddr) : Prop :=
  s.cache.target = target ∧ ∃ m, MappedBy s.dpa s.cache m

/-- The cache of a site between two operations. -/
def Site.Coherent (s : Site) : Prop := s.cache.Unmapped ∨ s.MappedTo s.cache.target

namespace Site

variable {s s' : Site} {target : DpaAddr}

/-! ### Giving a mapping back -/

/-- To give back a part forgets it, also when there is none. -/
lemma drop_cache {handle : Option Handle} {c : Option Handle → DpaCall}
    {forget : RemoteMrCache → RemoteMrCache} {u : Unit}
    (hforget : handle = none → forget s.cache = s.cache)
    (hrun : drop handle c forget s = .ok (u, s')) : s'.cache = forget s.cache := by
  rw [drop] at hrun
  split at hrun
  case isTrue =>
      obtain ⟨-, rfl⟩ := Prod.mk.inj (Except.ok.inj hrun)
      rfl
  case isFalse hnone =>
      obtain ⟨-, rfl⟩ := Prod.mk.inj (Except.ok.inj hrun)
      exact (hforget (by simpa using hnone)).symm

/-- After `cache_disconnect` nothing is left but the interrupt. -/
lemma cacheDisconnect_cache {u : Unit} (hrun : cacheDisconnect s = .ok (u, s')) :
    s'.cache = { s.cache with sequence := none, map := none, segment := none, sd := none
                              target := ⟨0, 0⟩, base := none, len := 0 } := by
  rw [cacheDisconnect, get_bind] at hrun
  obtain ⟨_, s₁, h₁, hrun⟩ := run_bind_ok hrun
  obtain ⟨_, s₂, h₂, hrun⟩ := run_bind_ok hrun
  obtain ⟨_, s₃, h₃, hrun⟩ := run_bind_ok hrun
  obtain ⟨_, s₄, h₄, hrun⟩ := run_bind_ok hrun
  obtain ⟨-, rfl⟩ := Prod.mk.inj (Except.ok.inj hrun)
  have hc₁ := drop_cache (fun h => by rw [← h]) h₁
  have hc₂ := drop_cache (fun h => by rw [hc₁, ← h]) h₂
  have hc₃ := drop_cache (fun h => by rw [hc₂, hc₁, ← h]) h₃
  have hc₄ := drop_cache (fun h => by rw [hc₃, hc₂, hc₁, ← h]) h₄
  calc ({ s₄.cache with target := ⟨0, 0⟩, base := none, len := 0 } : RemoteMrCache)
      = _ := by rw [hc₄, hc₃, hc₂, hc₁]

lemma cacheDisconnect_unmapped {u : Unit} (hrun : cacheDisconnect s = .ok (u, s')) :
    s'.cache.Unmapped := by
  rw [cacheDisconnect_cache hrun]
  exact ⟨rfl, rfl, rfl, rfl, rfl, rfl, rfl⟩

/-! ### Making a mapping -/

/-- The calls of `cache_connect` make a mapping of the target, unless one of them fails; the third
gives its length. -/
lemma cacheMap_spec (hrun : cacheMap target s = .ok (.ok, s')) :
    s'.MappedTo target ∧ Grants s.dpa
      ∧ s'.cache.len = (s.dpa.replies (s.dpa.calls.length + 2)).size := by
  simp only [cacheMap, lib_bind, setCache_bind, ite_run, ite_not] at hrun
  split at hrun
  case isFalse h => exact absurd (Prod.mk.inj (Except.ok.inj hrun)).1 h
  case isTrue hopen =>
  split at hrun
  case isFalse h => exact absurd (Prod.mk.inj (Except.ok.inj hrun)).1 h
  case isTrue hconnect =>
  split at hrun
  case isFalse h => exact absurd (Prod.mk.inj (Except.ok.inj hrun)).1 h
  case isTrue hmap =>
  split at hrun
  case isFalse h => exact absurd (Prod.mk.inj (Except.ok.inj hrun)).1 h
  case isTrue hsequence =>
  obtain ⟨-, rfl⟩ := Prod.mk.inj (Except.ok.inj hrun)
  have hgrants : Grants s.dpa := by
    simp only [reply, length_call, replies_call] at hopen hconnect hmap hsequence
    simp [Grants, hopen, hconnect, hmap, hsequence]
  have hlen : ((s.dpa.call .dpaOpen).call
      (.connectSegment (some s.dpa.handle) target.nodeId target.connectId)).reply.size
      = (s.dpa.replies (s.dpa.calls.length + 2)).size := by
    simp only [reply, length_call, replies_call]
  refine ⟨⟨rfl, ⟨_, _, _, _⟩, rfl, rfl, rfl, rfl, rfl, ?_, ?_, ?_, ?_, ?_⟩, hgrants, hlen⟩
  · refine .call (.call (.call (.call (.call (current_handle _ hopen) ?_) ?_) ?_) ?_) ?_ <;> simp
  · refine .call (.call (.call (.call (current_handle _ hconnect) ?_) ?_) ?_) ?_ <;> simp
  · exact ⟨_, getElem?_call (getElem?_call (getElem?_call (getElem?_handle _ _) _) _) _, rfl⟩
  · refine .call (.call (current_handle _ hmap) ?_) ?_ <;> simp
  · refine .call (current_handle _ hsequence) ?_
    simp

/-- A mapping that fails leaves nothing. -/
lemma cacheRemap_coherent {err : DpaError} (hrun : cacheRemap target s = .ok (err, s')) :
    (err = .ok → s'.MappedTo target) ∧ (err ≠ .ok → s'.cache.Unmapped) := by
  rw [cacheRemap] at hrun
  obtain ⟨err', s₁, hmap, hrun⟩ := run_bind_ok hrun
  split at hrun
  case isTrue herr =>
      obtain ⟨_, s₂, hdisconnect, hrun⟩ := run_bind_ok hrun
      obtain ⟨rfl, rfl⟩ := Prod.mk.inj (Except.ok.inj hrun)
      exact ⟨fun h => absurd h herr, fun _ => cacheDisconnect_unmapped hdisconnect⟩
  case isFalse herr =>
      obtain ⟨rfl, rfl⟩ := Prod.mk.inj (Except.ok.inj hrun)
      obtain rfl : err' = .ok := not_not.1 herr
      exact ⟨fun _ => (cacheMap_spec hmap).1, fun h => absurd rfl h⟩

/-- In a coherent cache a hit finds the mapping of the target; a miss makes it, or leaves
nothing. -/
lemma cacheConnect_coherent (hs : s.Coherent) {err : DpaError}
    (hrun : cacheConnect target s = .ok (err, s')) :
    (err = .ok → s'.MappedTo target) ∧ (err ≠ .ok → s'.cache.Unmapped) := by
  rw [cacheConnect, get_bind] at hrun
  split at hrun
  case isTrue hhit =>
      obtain ⟨rfl, rfl⟩ := Prod.mk.inj (Except.ok.inj hrun)
      refine ⟨fun _ => ?_, fun h => absurd rfl h⟩
      simp only [cacheHit, Bool.and_eq_true, decide_eq_true_eq] at hhit
      rcases hs with hempty | hmapped
      · rw [hempty.base] at hhit
        exact absurd hhit.2 (by simp)
      · rw [hhit.1]
        exact hmapped
  case isFalse =>
      split at hrun
      case isTrue =>
          obtain ⟨_, s₁, -, hrun⟩ := run_bind_ok hrun
          exact cacheRemap_coherent hrun
      case isFalse => exact cacheRemap_coherent hrun

/-! ### What leaves the mapping alone -/

/-- The cached mapping and the remote memory are the same. -/
structure Steady (s t : Site) : Prop where
  unmapped : s.cache.Unmapped → t.cache.Unmapped
  mapped : ∀ m, MappedBy s.dpa s.cache m → MappedBy t.dpa t.cache m
  target : t.cache.target = s.cache.target
  len : t.cache.len = s.cache.len
  regions : t.regions = s.regions

def steady : Frame Site where
  rel := Steady
  refl := fun _ => ⟨id, fun _ => id, rfl, rfl, rfl⟩
  trans := fun _ _ _ h h' => ⟨h'.unmapped ∘ h.unmapped, fun m hm => h'.mapped m (h.mapped m hm),
    h'.target.trans h.target, h'.len.trans h.len, h'.regions.trans h.regions⟩

lemma lib_steady {c : DpaCall} (hc : unmaps c = false) : Keeps steady (lib c) := by
  intro s a s' hrun
  obtain ⟨-, rfl⟩ := Prod.mk.inj (run_lib_ok hrun)
  exact ⟨id, fun m hm => hm.call hc, rfl, rfl, rfl⟩

lemma setInterrupt_steady (interrupt : Option Handle) (interruptId : UInt32) :
    Keeps steady (setCache fun c => { c with interrupt, interruptId }) := by
  refine keeps_modify fun s => ⟨fun h => ?_, fun m hm => ?_, rfl, rfl, rfl⟩
  · exact ⟨h.base, h.sequence, h.map, h.segment, h.sd, h.target, h.len⟩
  · exact ⟨hm.base, hm.sd, hm.segment, hm.map, hm.sequence, hm.opened, hm.connected, hm.measured,
      hm.mapped, hm.started⟩

/-- What the calls and the updates under `signal_interrupt` keep, it keeps. -/
lemma signalInterrupt_keeps {F : Frame Site} (hlib : ∀ c, unmaps c = false → Keeps F (lib c))
    (hset : ∀ interrupt interruptId,
      Keeps F (setCache fun c => { c with interrupt, interruptId }))
    (hnote : ∀ s signal, F.rel s { s with signals := s.signals ++ [signal] })
    (nodeId : UInt32) (data : UInt64) : Keeps F (signalInterrupt nodeId data) := by
  have hnew (id : UInt32) : Keeps F (cacheNewInterrupt id) := by
    refine keeps_bind keeps_get fun s => keeps_bind (hlib _ rfl) fun r => ?_
    exact keeps_ite (keeps_bind (hset _ _) fun _ => keeps_pure _) (keeps_pure _)
  have hdisconnect : Keeps F cacheDisconnectInterrupt := by
    refine keeps_bind keeps_get fun s => keeps_ite (keeps_pure _) ?_
    exact keeps_bind (hlib _ rfl) fun _ => hset none 0
  have hconnect (id : UInt32) : Keeps F (cacheConnectInterrupt id) := by
    refine keeps_bind keeps_get fun s => keeps_ite (keeps_ite (keeps_pure _) ?_) (hnew id)
    exact keeps_bind hdisconnect fun _ => hnew id
  refine keeps_ite (keeps_pure _) (keeps_bind (hconnect _) fun err => ?_)
  refine keeps_ite (keeps_pure _) (keeps_bind keeps_get fun s => ?_)
  exact keeps_bind (keeps_modify fun u => hnote u _) fun _ =>
    keeps_bind (hlib _ rfl) fun _ => keeps_pure _

lemma signalInterrupt_steady (nodeId : UInt32) (data : UInt64) :
    Keeps steady (signalInterrupt nodeId data) :=
  signalInterrupt_keeps (fun _ hc => lib_steady hc) setInterrupt_steady
    (fun _ _ => ⟨id, fun _ => id, rfl, rfl, rfl⟩) nodeId data

lemma completeRma_steady (cq cntr : Option ℕ) (entry : CqErrEntry) :
    Keeps steady (completeRma cq cntr entry) :=
  keeps_modify fun _ => ⟨id, fun _ => id, rfl, rfl, rfl⟩

/-! ### The operations -/

lemma cacheConnect_regions {err : DpaError} (hrun : cacheConnect target s = .ok (err, s')) :
    s'.regions = s.regions := by
  have hlib : ∀ c, mappingCall c = true → Keeps (Frame.same Site.regions) (lib c) := by
    intro c _ s a s' h
    obtain ⟨-, rfl⟩ := Prod.mk.inj (run_lib_ok h)
    rfl
  exact cacheConnect_keeps hlib (fun f _ _ => keeps_modify fun _ => rfl) target s err s' hrun

/-- How an operation with the message `msg` ends, for what it is to move to or from the segment
of its target.  With a bad message, or a key that is not a segment number, it does nothing;
otherwise it connects to its target.  If that succeeds, the cache holds the current mapping of the
target, and the operation moves its data there; if it fails, nothing is moved and no mapping is
left. -/
structure Outcome (s : Site) (msg : Option FiMsgRma)
    (moved : FiMsgRma → FiRmaIov → DpaAddr → Prop) (still : FiMsgRma → Prop) (ret : FiErr)
    (s' : Site) : Prop where
  unchecked : checkRma msg = none → ret = .einval ∧ s' = s
  addressed : ∀ m rma, checkRma msg = some (m, rma) → ∃ nodeId, s.targetNode m = some nodeId
  truncated : ∀ m rma, checkRma msg = some (m, rma) → rma.key.toUInt32.toUInt64 ≠ rma.key →
    ret = .einval ∧ s' = s ∧ still m
  connected : ∀ m rma nodeId, checkRma msg = some (m, rma) → s.targetNode m = some nodeId →
    rma.key.toUInt32.toUInt64 = rma.key →
      ∃ err s₁, cacheConnect ⟨nodeId, rma.key.toUInt32⟩ s = .ok (err, s₁)
        ∧ (err = .ok → ret = .success ∧ s'.MappedTo ⟨nodeId, rma.key.toUInt32⟩
          ∧ moved m rma ⟨nodeId, rma.key.toUInt32⟩)
        ∧ (err ≠ .ok → ret = .eremoteio ∧ s'.cache.Unmapped ∧ s'.regions = s.regions ∧ still m)

/-- The two ends of `acquire_target`. -/
lemma acquireTarget_cases {m : FiMsgRma} {rma : FiRmaIov} {ret : FiErr}
    (hrun : acquireTarget m rma s = .ok ((ret, target), s')) :
    ∃ nodeId, s.targetNode m = some nodeId ∧ target = ⟨nodeId, rma.key.toUInt32⟩
      ∧ (rma.key.toUInt32.toUInt64 ≠ rma.key → ret = .einval ∧ s' = s)
      ∧ (rma.key.toUInt32.toUInt64 = rma.key → ∃ err, cacheConnect target s = .ok (err, s')
        ∧ ret = if err ≠ .ok then .eremoteio else .success) := by
  rw [acquireTarget, get_bind] at hrun
  cases hnode : s.targetNode m with
  | none =>
      rw [hnode] at hrun
      exact absurd hrun throw_ne_ok
  | some nodeId =>
      simp only [hnode] at hrun
      split at hrun
      case isTrue hkey =>
          obtain ⟨hret, rfl⟩ := Prod.mk.inj (Except.ok.inj hrun)
          obtain ⟨rfl, rfl⟩ := Prod.mk.inj hret
          exact ⟨nodeId, rfl, rfl, fun _ => ⟨rfl, rfl⟩, fun h => absurd h hkey⟩
      case isFalse hkey =>
          obtain ⟨err, s₁, hconnect, hrun⟩ := run_bind_ok hrun
          obtain ⟨hret, rfl⟩ := Prod.mk.inj (Except.ok.inj hrun)
          obtain ⟨rfl, rfl⟩ := Prod.mk.inj hret
          exact ⟨nodeId, rfl, rfl, fun h => absurd h hkey, fun _ => ⟨err, hconnect, rfl⟩⟩

/-- An operation that goes on only after `acquire_target` has succeeded. -/
lemma Coherent.outcome (hs : s.Coherent) {msg : Option FiMsgRma}
    {moved : FiMsgRma → FiRmaIov → DpaAddr → Prop} {still : FiMsgRma → Prop} {ret : FiErr}
    (hnone : checkRma msg = none → ret = .einval ∧ s' = s)
    (hsome : ∀ m rma, checkRma msg = some (m, rma) → ∃ ret₁ target s₁,
      acquireTarget m rma s = .ok ((ret₁, target), s₁)
        ∧ (ret₁ ≠ .success → ret = ret₁ ∧ s' = s₁ ∧ still m)
        ∧ (ret₁ = .success → s₁.MappedTo target → s₁.regions = s.regions →
          ret = .success ∧ s'.MappedTo target ∧ moved m rma target)) :
    Outcome s msg moved still ret s' where
  unchecked := hnone
  addressed := by
    intro m rma hcheck
    obtain ⟨ret₁, target, s₁, hacquire, -⟩ := hsome m rma hcheck
    obtain ⟨nodeId, hnode, -⟩ := acquireTarget_cases hacquire
    exact ⟨nodeId, hnode⟩
  truncated := by
    intro m rma hcheck hkey
    obtain ⟨ret₁, target, s₁, hacquire, hfail, -⟩ := hsome m rma hcheck
    obtain ⟨-, -, -, hinvalid, -⟩ := acquireTarget_cases hacquire
    obtain ⟨rfl, rfl⟩ := hinvalid hkey
    exact hfail (by simp)
  connected := by
    intro m rma nodeId hcheck hnode hkey
    obtain ⟨ret₁, target, s₁, hacquire, hfail, hdone⟩ := hsome m rma hcheck
    obtain ⟨nodeId', hnode', rfl, -, hvalid⟩ := acquireTarget_cases hacquire
    obtain rfl : nodeId = nodeId' := Option.some.inj (hnode.symm.trans hnode')
    obtain ⟨err, hconnect, rfl⟩ := hvalid hkey
    have hregions := cacheConnect_regions hconnect
    obtain ⟨hmapped, hempty⟩ := cacheConnect_coherent hs hconnect
    refine ⟨err, s₁, hconnect, fun herr => ?_, fun herr => ?_⟩
    · exact hdone (if_neg (not_not.2 herr)) (hmapped herr) hregions
    · rw [if_pos herr] at hfail
      obtain ⟨rfl, rfl, hstill⟩ := hfail (by simp)
      exact ⟨rfl, hempty herr, hregions, hstill⟩

lemma Steady.mappedTo {t : Site} (h : Steady s t) (hm : s.MappedTo target) :
    t.MappedTo target := by
  obtain ⟨htarget, m, hm⟩ := hm
  exact ⟨h.target.trans htarget, m, h.mapped m hm⟩

/-- What an operation that succeeds writes: the vectors of the caller, from the first byte
on, as far as the segment goes. -/
def Written (s s' : Site) (m : FiMsgRma) (rma : FiRmaIov) (target : DpaAddr) : Prop :=
  s'.regions = Function.update s.regions target
    (copyIn (s'.cache.len - rma.addr) rma.addr m.msgIov 0 (s.regions target)).2

/-- What an operation that succeeds reads. -/
def Copied (s s' : Site) (iovs : List Host.Iovec) (m : FiMsgRma) (rma : FiRmaIov)
    (target : DpaAddr) : Prop :=
  iovs = (copyOut (s'.cache.len - rma.addr) rma.addr (s.regions target) m.msgIov 0).2
    ∧ s'.regions = s.regions

lemma finishWrite_steady (m : FiMsgRma) (target : DpaAddr) (flags copied : UInt64)
    (sequence : Option Handle) : Keeps steady (finishWrite m target flags copied sequence) := by
  refine keeps_bind keeps_get fun s => keeps_bind (completeRma_steady _ _ _) fun _ => ?_
  refine keeps_ite (keeps_bind (signalInterrupt_steady _ _) fun _ => keeps_pure _) ?_
  exact keeps_ite (keeps_bind (lib_steady rfl) fun _ => keeps_pure _) (keeps_pure _)

lemma finishWrite_success (m : FiMsgRma) (target : DpaAddr) (flags copied : UInt64)
    (sequence : Option Handle) :
    Ends (fun ret _ => ret = .success) (finishWrite m target flags copied sequence) := by
  refine ends_bind fun s => ends_bind fun _ => ends_ite (fun _ => ?_) fun _ => ?_
  · exact ends_bind fun _ => ends_pure fun _ => rfl
  · exact ends_ite (fun _ => ends_bind fun _ => ends_pure fun _ => rfl)
      fun _ => ends_pure fun _ => rfl

lemma Coherent.dpaWritemsg (hs : s.Coherent) {msg : Option FiMsgRma} {flags : UInt64} {ret : FiErr}
    (hrun : Site.dpaWritemsg msg flags s = .ok (ret, s')) :
    Outcome s msg (Written s s') (fun _ => True) ret s' := by
  refine hs.outcome (fun hnone => ?_) fun m rma hsome => ?_
  · rw [Site.dpaWritemsg, hnone] at hrun
    obtain ⟨rfl, rfl⟩ := Prod.mk.inj (Except.ok.inj hrun)
    exact ⟨rfl, rfl⟩
  · obtain ⟨ret₁, target, s₁, hacquire, hfail, hdone⟩ := dpaWritemsg_checked hsome hrun
    refine ⟨ret₁, target, s₁, hacquire, fun hret => ?_, fun hret hmapped hregions => ?_⟩
    · obtain ⟨rfl, rfl⟩ := hfail hret
      exact ⟨rfl, rfl, trivial⟩
    · have hfinish := hdone hret
      have hsteady : Steady (s₁.stored m rma) s' := finishWrite_steady _ _ _ _ _ _ _ _ hfinish
      refine ⟨finishWrite_success _ _ _ _ _ _ _ _ hfinish, hsteady.mappedTo hmapped, ?_⟩
      obtain ⟨rfl, handles, hm⟩ := hmapped
      rw [Written, hsteady.regions, hsteady.len]
      simp only [stored, moving, hm.base, hregions]
      rfl

lemma finishRead_steady (m : FiMsgRma) (target : DpaAddr) (flags : UInt64)
    (read : UInt64 × List Iovec) : Keeps steady (finishRead m target flags read) := by
  refine keeps_bind keeps_get fun s => keeps_bind (completeRma_steady _ _ _) fun _ => ?_
  exact keeps_ite (keeps_bind (signalInterrupt_steady _ _) fun _ => keeps_pure _) (keeps_pure _)

lemma finishRead_success (m : FiMsgRma) (target : DpaAddr) (flags : UInt64)
    (read : UInt64 × List Iovec) :
    Ends (fun r _ => r = (.success, read.2)) (finishRead m target flags read) := by
  refine ends_bind fun s => ends_bind fun _ => ends_ite (fun _ => ?_) fun _ => ?_
  · exact ends_bind fun _ => ends_pure fun _ => rfl
  · exact ends_pure fun _ => rfl

lemma Coherent.dpaReadmsg (hs : s.Coherent) {msg : Option FiMsgRma} {flags : UInt64} {ret : FiErr}
    {iovs : List Iovec} (hrun : Site.dpaReadmsg msg flags s = .ok ((ret, iovs), s')) :
    Outcome s msg (Copied s s' iovs) (fun m => iovs = m.msgIov) ret s' := by
  refine hs.outcome (fun hnone => ?_) fun m rma hsome => ?_
  · rw [Site.dpaReadmsg, hnone] at hrun
    obtain ⟨hret, rfl⟩ := Prod.mk.inj (Except.ok.inj hrun)
    exact ⟨(Prod.mk.inj hret).1.symm, rfl⟩
  · obtain ⟨ret₁, target, s₁, hacquire, hfail, hdone⟩ := dpaReadmsg_checked hsome hrun
    refine ⟨ret₁, target, s₁, hacquire, fun hret => ?_, fun hret hmapped hregions => ?_⟩
    · obtain ⟨rfl, rfl, rfl⟩ := hfail hret
      exact ⟨rfl, rfl, rfl⟩
    · have hfinish := hdone hret
      have hsteady : Steady s₁ s' := finishRead_steady _ _ _ _ _ _ _ hfinish
      obtain ⟨rfl, rfl⟩ := Prod.mk.inj (finishRead_success _ _ _ _ _ _ _ hfinish)
      refine ⟨rfl, hsteady.mappedTo hmapped, ?_⟩
      obtain ⟨rfl, handles, hm⟩ := hmapped
      rw [Copied, hsteady.regions, hsteady.len, hm.base, hregions]
      exact ⟨rfl, rfl⟩

/-! ### Runs -/

lemma Outcome.coherent {msg : Option FiMsgRma} {moved : FiMsgRma → FiRmaIov → DpaAddr → Prop}
    {still : FiMsgRma → Prop} {ret : FiErr} (hs : s.Coherent)
    (ho : Outcome s msg moved still ret s') : s'.Coherent := by
  cases hcheck : checkRma msg with
  | none => exact (ho.unchecked hcheck).2 ▸ hs
  | some p =>
      obtain ⟨m, rma⟩ := p
      by_cases hkey : rma.key.toUInt32.toUInt64 = rma.key
      · obtain ⟨nodeId, hnode⟩ := ho.addressed m rma hcheck
        obtain ⟨err, s₁, -, hok, hfail⟩ := ho.connected m rma nodeId hcheck hnode hkey
        by_cases herr : err = .ok
        · obtain ⟨-, ⟨htarget, hmapped⟩, -⟩ := hok herr
          exact .inr ⟨rfl, hmapped⟩
        · exact .inl (hfail herr).2.1
      · exact (ho.truncated m rma hcheck hkey).2.1 ▸ hs

/-- Every operation is a `dpa_readmsg` or a `dpa_writemsg`. -/
lemma rma_cases {c : RmaCall} {u : Unit} (hrun : rma c s = .ok (u, s')) :
    (∃ flags ret iovs, dpaReadmsg c.msg flags s = .ok ((ret, iovs), s'))
      ∨ ∃ flags ret, dpaWritemsg c.msg flags s = .ok (ret, s') := by
  cases c with
  | readmsg | readv | read =>
      obtain ⟨⟨ret, iovs⟩, _, h, hrun⟩ := run_bind_ok hrun
      obtain ⟨-, rfl⟩ := Prod.mk.inj (Except.ok.inj hrun)
      exact .inl ⟨_, ret, iovs, h⟩
  | writemsg | writev | write | writedata =>
      obtain ⟨ret, _, h, hrun⟩ := run_bind_ok hrun
      obtain ⟨-, rfl⟩ := Prod.mk.inj (Except.ok.inj hrun)
      exact .inr ⟨_, ret, h⟩

lemma Coherent.rma (hs : s.Coherent) {c : RmaCall} {u : Unit}
    (hrun : Site.rma c s = .ok (u, s')) : s'.Coherent := by
  rcases rma_cases hrun with ⟨flags, ret, iovs, h⟩ | ⟨flags, ret, h⟩
  · exact (hs.dpaReadmsg h).coherent hs
  · exact (hs.dpaWritemsg h).coherent hs

lemma Coherent.event (hs : s.Coherent) {a : RmaEvent} (heq : s.rmaEvent a = some s') :
    s'.Coherent := by
  cases a with
  | call c =>
      obtain ⟨⟨u, t⟩, hrun, rfl⟩ := Except.map_eq_ok (toOption_eq_some heq)
      exact hs.rma hrun
  | environment connected peerAddr av avLookup regions =>
      obtain rfl := Option.some.inj heq
      exact hs

/-- The cached mapping is that of the cached target, in every state that operations reach from an
empty cache, whatever the library answers: there is none, or it is the current mapping of the whole
segment.  So every operation that moves data does so in the segment of its own target, and one
whose connect fails returns `-FI_EREMOTEIO` and leaves the cache empty. -/
theorem cache_coherent {s₀ s : Site} (hempty : s₀.cache.Unmapped) {events : List RmaEvent}
    (hrun : Stepper.run rmaEvent s₀ events = some s) :
    s.Coherent
      ∧ (∀ msg flags ret s', dpaWritemsg msg flags s = .ok (ret, s') →
        Outcome s msg (Written s s') (fun _ => True) ret s')
      ∧ ∀ msg flags ret iovs s', dpaReadmsg msg flags s = .ok ((ret, iovs), s') →
        Outcome s msg (Copied s s' iovs) (fun m => iovs = m.msgIov) ret s' := by
  have hs : s.Coherent := Stepper.run_invariant (I := Coherent) (fun _ _ _ hs heq => hs.event heq)
    (.inl hempty) hrun
  exact ⟨hs, fun _ _ _ _ h => hs.dpaWritemsg h, fun _ _ _ _ _ h => hs.dpaReadmsg h⟩

/-- A library that grants the first mapping and fails to map the second segment. -/
def refused : Site :=
  { unconnected with dpa.replies := fun i => ⟨if i = 14 then .other 5 else .ok, 7, .ofNode 0, 64⟩ }

/-- A write to the segment 5 of node 1, one to node 2 that fails, and one to the segment 0 of
node 0, the value that a cleared target has. -/
def clearedTarget : List RmaEvent :=
  [(1, 5), (2, 5), (0, 0)].map fun p => .call (.write (fun _ => 1) 8 p.1 0 p.2 0)

theorem cache_coherent_clearedTarget : ∃ s, Stepper.run rmaEvent refused clearedTarget = some s
    ∧ s.cache.segment = some 18 ∧ s.Coherent := by
  obtain ⟨s, hrun, hsegment⟩ : ∃ s, Stepper.run rmaEvent refused clearedTarget = some s
      ∧ s.cache.segment = some 18 := ⟨_, rfl, rfl⟩
  have hempty : refused.cache.Unmapped := ⟨rfl, rfl, rfl, rfl, rfl, rfl, rfl⟩
  exact ⟨s, hrun, hsegment, (cache_coherent hempty hrun).1⟩

end Site

end DpaProvider
