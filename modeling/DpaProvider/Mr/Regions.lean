import DpaProvider.Dpa
import DpaProvider.Library.Ledger
import DpaProvider.Mr.HashMap

/-!
Memory regions.

A registration creates a segment with the requested key as its number and puts a copy of the region
into `mr_map`; closing it takes the copy out by its number and removes the segment.

The record of the library holds the calls for memory regions.  Whatever else uses the library shows
in the answers.

* `RejectsUsed`: the library creates no segment under the number of one that is in use;
* `Sound`: what every run of registrations keeps of the map, the regions and the record;
* `hashMap_refines`: the map is a multimap if no key hashes to 2³¹ or more, and `mr_map` then holds
  the regions that are open.
-/

namespace DpaProvider

/-- The `fid_t` classes that a registration tells apart. -/
inductive FiClass where
  | domain
  | other
  deriving DecidableEq, Repr

/-- The `fi_mr_mode`. -/
inductive FiMrMode where
  | unspec
  | basic
  | scalable
  deriving DecidableEq, Repr

/-- The `dpa_fid_domain`, as far as a registration looks at it. -/
structure DpaFidDomain where
  fclass : FiClass
  mrMode : FiMrMode
  deriving DecidableEq, Repr

/-- The `local_segment_info`; `base` follows from the map. -/
structure LocalSegmentInfo where
  sd : Option Handle
  segment : Option Handle
  segmentId : UInt32
  map : Option Handle
  size : UInt64
  deriving DecidableEq, Repr

/-- The `dpa_fid_mr`; its `key` is the number of its segment. -/
structure DpaFidMr where
  segmentInfo : LocalSegmentInfo
  context : ℕ
  buf : ℕ
  len : UInt64
  access : UInt64
  flags : UInt64
  domain : DpaFidDomain
  deriving DecidableEq, Repr

/-! ### Segments -/

/-- The segment that a call removes. -/
def DpaCall.removes : DpaCall → Option Handle
  | .removeSegment segment => segment
  | _ => none

/-- The number of the segment that a call creates. -/
def DpaCall.creates : DpaCall → Option UInt32
  | .createSegment _ segmentId _ => some segmentId
  | _ => none

namespace Dpa

/-- A call to the library: its answer, and the handle of what it has created. -/
def lib (c : DpaCall) : StateM Dpa (Reply × Handle) := fun d => ((d.reply, d.handle), d.call c)

@[simp] lemma lib_bind {α : Type} (c : DpaCall) (f : Reply × Handle → StateM Dpa α) (d : Dpa) :
    (lib c >>= f) d = f (d.reply, d.handle) (d.call c) := rfl

@[simp] lemma pure_apply {α : Type} (a : α) (d : Dpa) : (pure a : StateM Dpa α) d = (a, d) := rfl

@[simp] lemma ite_apply {α : Type} {p : Prop} [Decidable p] (m m' : StateM Dpa α) (d : Dpa) :
    (if p then m else m') d = if p then m d else m' d := by
  split <;> rfl

/-- `dpa_alloc_segment`, without an initializer. -/
def allocSegment (segmentId : UInt32) (size : UInt64) :
    StateM Dpa (DpaError × LocalSegmentInfo) := do
  let info : LocalSegmentInfo := ⟨none, none, segmentId, none, size⟩
  let (r, sd) ← lib .dpaOpen
  if r.err ≠ .ok then return (r.err, info)
  let info := { info with sd := some sd }
  let (r, segment) ← lib (.createSegment info.sd segmentId size)
  if r.err ≠ .ok then return (r.err, info)
  let info := { info with segment := some segment }
  let (r, _) ← lib (.prepareSegment info.segment)
  if r.err ≠ .ok then return (r.err, info)
  let (r, map) ← lib (.mapLocalSegment info.segment size)
  if r.err ≠ .ok then return (r.err, info)
  let info := { info with map := some map }
  let (r, _) ← lib (.setSegmentAvailable info.segment)
  return (r.err, info)

/-- `dpa_destroy_segment`. -/
def destroySegment (info : LocalSegmentInfo) : StateM Dpa DpaError := do
  let _ ← lib (.setSegmentUnavailable info.segment)
  let _ ← lib (.unmapSegment info.map)
  let _ ← lib (.removeSegment info.segment)
  let (r, _) ← lib (.close info.sd)
  return r.err

/-- A call has created the segment with the number. -/
def Created (replies : ℕ → Reply) (segmentId : UInt32) (calls : List DpaCall) (h : Handle) : Prop :=
  (calls[h]?.bind DpaCall.creates) = some segmentId ∧ (replies h).err = .ok

/-- The segment has the number, and has not been removed. -/
def InUse (replies : ℕ → Reply) (segmentId : UInt32) : List DpaCall → Handle → Prop :=
  Ledger.Owned DpaCall.removes (Created replies segmentId)

/-- `DPACreateSegment` does not succeed with the number of a segment that is in use. -/
def RejectsUsed (d : Dpa) : Prop :=
  ∀ j segmentId, Created d.replies segmentId d.calls j →
    ∀ h, ¬ InUse d.replies segmentId (d.calls.take j) h

instance (replies : ℕ → Reply) (segmentId : UInt32) (calls : List DpaCall) (h : Handle) :
    Decidable (Created replies segmentId calls h) :=
  inferInstanceAs (Decidable (_ ∧ _))

instance (replies : ℕ → Reply) (segmentId : UInt32) (calls : List DpaCall) (h : Handle) :
    Decidable (InUse replies segmentId calls h) :=
  decidable_of_iff (Created replies segmentId calls h ∧ ∀ c ∈ calls, c.removes ≠ some h)
    ⟨fun hu => ⟨hu.1, hu.2⟩, fun hu => ⟨hu.has, hu.kept⟩⟩

variable {replies : ℕ → Reply} {segmentId : UInt32} {calls more : List DpaCall} {h : Handle}
  {d : Dpa}

lemma Created.lt (hc : Created replies segmentId calls h) : h < calls.length := by
  by_contra hge
  have hnone := hc.1
  rw [List.getElem?_eq_none (Nat.not_lt.1 hge)] at hnone
  exact absurd hnone (by simp)

lemma Created.append (hc : Created replies segmentId calls h) :
    Created replies segmentId (calls ++ more) h :=
  ⟨by rw [List.getElem?_append_left hc.lt, hc.1], hc.2⟩

instance (d : Dpa) : Decidable d.RejectsUsed :=
  decidable_of_iff (∀ j < d.calls.length, (d.calls[j]?.bind DpaCall.creates).all (fun segmentId =>
      (d.replies j).err = .ok → ∀ h < j, ¬ InUse d.replies segmentId (d.calls.take j) h)
      = true) <| by
    simp only [Option.all_eq_true, decide_eq_true_eq]
    constructor
    · intro hd j segmentId hc h hu
      have hlt : h < j := hu.has.lt.trans_le (List.length_take_le _ _)
      exact hd j hc.lt segmentId hc.1 hc.2 h hlt hu
    · intro hd j _ segmentId hc hok h _
      exact hd j segmentId ⟨hc, hok⟩ h

/-- A segment stays in use while no call removes it. -/
lemma InUse.append (hu : InUse replies segmentId calls h) (hmore : ∀ c ∈ more, c.removes ≠ some h) :
    InUse replies segmentId (calls ++ more) h :=
  Ledger.Owned.append (fun _ _ _ hc => hc.append) hu hmore

/-- What holds of a record holds of its beginning. -/
lemma RejectsUsed.before (hd : ({ d with calls := d.calls ++ more } : Dpa).RejectsUsed) :
    d.RejectsUsed := by
  intro j segmentId hc h hu
  refine hd j segmentId hc.append h ?_
  rwa [List.take_append_of_le_length hc.lt.le]

/-- What `dpa_alloc_segment` does: nothing is removed, and if it succeeds, the segment is a new one
with the number asked for. -/
def Allocates (segmentId : UInt32) (d : Dpa) (r : (DpaError × LocalSegmentInfo) × Dpa) : Prop :=
  ∃ more, r.2 = { d with calls := d.calls ++ more } ∧ (∀ c ∈ more, c.removes = none)
    ∧ (r.1.1 = .ok → ∃ h, r.1.2.segment = some h ∧ r.1.2.segmentId = segmentId
      ∧ d.calls.length ≤ h ∧ Created d.replies segmentId (d.calls ++ more) h)

lemma allocSegment_spec (segmentId : UInt32) (size : UInt64) (d : Dpa) :
    Allocates segmentId d (d.allocSegment segmentId size) := by
  have hfailed (err : DpaError) (info : LocalSegmentInfo) (d' : Dpa) (more : List DpaCall)
      (herr : err ≠ .ok) (hcalls : d' = { d with calls := d.calls ++ more })
      (hquiet : ∀ c ∈ more, c.removes = none) : Allocates segmentId d ((err, info), d') :=
    ⟨more, hcalls, hquiet, fun hok => absurd hok herr⟩
  simp only [allocSegment, lib_bind, ite_apply, pure_apply]
  split_ifs with hopen hcreate hprepare hmap
  · exact hfailed _ _ _ [.dpaOpen] hopen rfl (by simp [DpaCall.removes])
  · exact hfailed _ _ _ [.dpaOpen, .createSegment (some d.handle) segmentId size] hcreate
      (by simp [call]) (by simp [DpaCall.removes])
  · exact hfailed _ _ _ [.dpaOpen, .createSegment (some d.handle) segmentId size,
      .prepareSegment (some (d.call .dpaOpen).handle)] hprepare (by simp [call])
      (by simp [DpaCall.removes])
  · exact hfailed _ _ _ [.dpaOpen, .createSegment (some d.handle) segmentId size,
      .prepareSegment (some (d.call .dpaOpen).handle),
      .mapLocalSegment (some (d.call .dpaOpen).handle) size] hmap (by simp [call])
      (by simp [DpaCall.removes])
  · refine ⟨[.dpaOpen, .createSegment (some d.handle) segmentId size,
      .prepareSegment (some (d.call .dpaOpen).handle),
      .mapLocalSegment (some (d.call .dpaOpen).handle) size,
      .setSegmentAvailable (some (d.call .dpaOpen).handle)], by simp [call],
      by simp [DpaCall.removes], fun _ => ⟨_, rfl, rfl, ?_, ?_, ?_⟩⟩
    · exact (Nat.le_succ _).trans_eq (length_call d _).symm
    · have hhandle : (d.call .dpaOpen).handle = d.calls.length + 1 := length_call d _
      rw [hhandle, List.getElem?_append_right (Nat.le_add_right _ 1),
        Nat.add_sub_cancel_left]
      rfl
    · exact not_not.1 hcreate

/-- The calls of `dpa_destroy_segment`. -/
def destroyCalls (info : LocalSegmentInfo) : List DpaCall :=
  [.setSegmentUnavailable info.segment, .unmapSegment info.map, .removeSegment info.segment,
    .close info.sd]

lemma destroySegment_calls (info : LocalSegmentInfo) (d : Dpa) :
    (d.destroySegment info).2 = { d with calls := d.calls ++ destroyCalls info } := by
  simp only [destroySegment, lib_bind, pure_apply]
  simp [destroyCalls, call]

/-- It removes the one segment. -/
lemma removes_destroyCalls {info : LocalSegmentInfo} {c : DpaCall} (hc : c ∈ destroyCalls info)
    (hh : c.removes = some h) : info.segment = some h := by
  simp only [destroyCalls, List.mem_cons, List.not_mem_nil, or_false] at hc
  rcases hc with rfl | rfl | rfl | rfl
  · exact absurd hh (by simp [DpaCall.removes])
  · exact absurd hh (by simp [DpaCall.removes])
  · exact hh
  · exact absurd hh (by simp [DpaCall.removes])

end Dpa

/-! ### Registrations -/

/-- How `dpa_mr_init` lays out the map, and where the parts of a `dpa_fid_mr` are in memory. -/
structure MrLayout where
  keyOffset : ℕ
  valueSize : ℕ
  inside : keyOffset + 4 ≤ valueSize
  mrMapSize : ℕ
  nonempty : 0 < mrMapSize
  bytes : DpaFidMr → Fin valueSize → UInt8
  segmentId : ∀ mr,
    uintOf (fun i => bytes mr ⟨keyOffset + i, by omega⟩) = mr.segmentInfo.segmentId.toNat

/-- The type of `mr_map`. -/
def MrLayout.mapType (L : MrLayout) : HashType :=
  uintType L.keyOffset L.valueSize L.mrMapSize L.inside L.nonempty

/-- The bytes of a region, as a value of the map. -/
def MrLayout.valueOf (L : MrLayout) (mr : DpaFidMr) : L.mapType.Value := L.bytes mr

/-- The library, `mr_map`, and the regions that were registered and not closed, the oldest first. -/
structure MrSite (L : MrLayout) where
  dpa : Dpa
  mrMap : HashMap L.mapType
  opened : List DpaFidMr

variable {L : MrLayout}

namespace MrSite

/-- After `dpa_mr_init`, with a library that will give the answers. -/
def dpaMrInit (L : MrLayout) (replies : ℕ → Reply) : MrSite L :=
  ⟨⟨replies, []⟩, HashMap.hashCreate L.mapType, []⟩

/-- `dpa_mr_reg`: what it returns, and the region, which is in `opened` then. -/
def dpaMrReg (s : MrSite L) (fid : DpaFidDomain) (buf : ℕ) (len access requestedKey flags : UInt64)
    (context : ℕ) : Option (FiErr × MrSite L) :=
  if fid.fclass ≠ .domain then some (.enodata, s)
  else if fid.mrMode = .basic then some (.ebadflags, s)
  else
    let segmentId := requestedKey.toUInt32
    if segmentId.toUInt64 ≠ requestedKey then some (.ekeyrejected, s)
    else
      let ((error, info), dpa) := s.dpa.allocSegment segmentId len
      if error = .segmentIdUsed then some (.enokey, { s with dpa })
      else if error ≠ .ok then some (.eother, { s with dpa })
      else
        let mr : DpaFidMr := ⟨info, context, buf, len, access, flags, fid⟩
        (s.mrMap.hashPut (L.valueOf mr)).map fun mrMap => (.success, ⟨dpa, mrMap, s.opened ++ [mr]⟩)

/-- `dpa_mr_close`, for the region `i`. -/
def dpaMrClose (s : MrSite L) (i : ℕ) : Option (MrSite L) :=
  match s.opened[i]? with
  | none => some s
  | some mr =>
      (s.mrMap.hashRemove (L.mapType.keyOf (L.valueOf mr))).map fun mrMap =>
        ⟨(s.dpa.destroySegment mr.segmentInfo).2, mrMap, s.opened.eraseIdx i⟩

/-- The calls for regions, with the arguments of `dpa_mr_reg`, or the place of the region in the
list of those that are open. -/
inductive MrCall where
  | reg (fid : DpaFidDomain) (buf : ℕ) (len access requestedKey flags : UInt64) (context : ℕ)
  | close (i : ℕ)

/-- The state after a call, unless it accesses a bucket outside `mr_map`. -/
def step (s : MrSite L) : MrCall → Option (MrSite L)
  | .reg fid buf len access requestedKey flags context =>
      (s.dpaMrReg fid buf len access requestedKey flags context).map (·.2)
  | .close i => s.dpaMrClose i

/-- The requested key hashes to an `int`. -/
def MrCall.Fits (L : MrLayout) : MrCall → Prop
  | .reg _ _ _ _ requestedKey _ _ => requestedKey.toUInt32.toNat % L.mrMapSize < 2 ^ 31
  | .close _ => True

/-! ### Keys -/

/-- The bytes of the key of a region. -/
def keyOf (L : MrLayout) (mr : DpaFidMr) : L.mapType.Key := L.mapType.keyOf (L.valueOf mr)

instance (L : MrLayout) (c : MrCall) : Decidable (c.Fits L) :=
  match c with
  | .reg .. => inferInstanceAs (Decidable (_ < _))
  | .close _ => inferInstanceAs (Decidable True)

lemma fits_iff (mr : DpaFidMr) :
    L.mapType.HashFits (keyOf L mr) ↔ mr.segmentInfo.segmentId.toNat % L.mrMapSize < 2 ^ 31 := by
  rw [← L.segmentId mr, ← uintHash_toNat]
  rfl

lemma keyOf_eq_iff (mr mr' : DpaFidMr) :
    keyOf L mr = keyOf L mr' ↔ mr.segmentInfo.segmentId = mr'.segmentInfo.segmentId := by
  constructor
  · intro h
    refine UInt32.toNat_inj.1 ?_
    rw [← L.segmentId mr, ← L.segmentId mr']
    exact congrArg uintOf h
  · intro h
    refine uintOf_injective ?_
    calc uintOf (keyOf L mr)
        = mr.segmentInfo.segmentId.toNat := L.segmentId mr
      _ = mr'.segmentInfo.segmentId.toNat := by rw [h]
      _ = uintOf (keyOf L mr') := (L.segmentId mr').symm

/-! ### What is open -/

/-- The regions that are open have their segments, under different numbers. -/
structure Live (s : MrSite L) : Prop where
  inUse : ∀ mr ∈ s.opened, ∃ h, mr.segmentInfo.segment = some h
    ∧ Dpa.InUse s.dpa.replies mr.segmentInfo.segmentId s.dpa.calls h
  distinct : (s.opened.map fun mr => mr.segmentInfo.segmentId).Nodup

/-- The map represents a list of regions, which is that of the open ones if the library keeps
numbers apart; and handles are those of calls that were made. -/
structure Sound (s : MrSite L) : Prop where
  fits : ∀ mr ∈ s.opened, L.mapType.HashFits (keyOf L mr)
  made : ∀ mr ∈ s.opened, ∀ h, mr.segmentInfo.segment = some h → h < s.dpa.calls.length
  removed : ∀ c ∈ s.dpa.calls, ∀ h, c.removes = some h → h < s.dpa.calls.length
  represents : ∃ l, s.mrMap.Represents l
    ∧ (s.dpa.RejectsUsed → s.Live ∧ l = s.opened.map L.valueOf)

lemma sound_init (replies : ℕ → Reply) : (dpaMrInit L replies).Sound where
  fits := by simp [dpaMrInit]
  made := by simp [dpaMrInit]
  removed := by simp [dpaMrInit]
  represents := ⟨[], HashMap.represents_nil L.mapType, fun _ =>
    ⟨⟨by simp [dpaMrInit], List.nodup_nil⟩, rfl⟩⟩

variable {s : MrSite L} {more : List DpaCall} {mr : DpaFidMr} {i : ℕ}

/-- The calls after which a region is still in use do not remove its segment. -/
lemma Live.append (h : s.Live)
    (hmore : ∀ c ∈ more, ∀ mr ∈ s.opened, c.removes.isSome → c.removes ≠ mr.segmentInfo.segment) :
    ({ s with dpa := { s.dpa with calls := s.dpa.calls ++ more } } : MrSite L).Live where
  inUse mr hmr := by
    obtain ⟨n, hsegment, hn⟩ := h.inUse mr hmr
    refine ⟨n, hsegment, hn.append fun c hc heq => ?_⟩
    exact hmore c hc mr hmr (by simp [heq]) (heq.trans hsegment.symm)
  distinct := h.distinct

lemma Sound.live (h : s.Sound) (hrejects : s.dpa.RejectsUsed) : s.Live := by
  obtain ⟨l, -, hlive⟩ := h.represents
  exact (hlive hrejects).1

/-- Calls that remove nothing. -/
lemma Sound.quiet (h : s.Sound) (hquiet : ∀ c ∈ more, c.removes = none) :
    ({ s with dpa := { s.dpa with calls := s.dpa.calls ++ more } } : MrSite L).Sound where
  fits := h.fits
  made mr hmr n hn := (h.made mr hmr n hn).trans_le (by simp)
  removed c hc n hn := by
    rcases List.mem_append.1 hc with hc | hc
    · exact (h.removed c hc n hn).trans_le (by simp)
    · exact absurd ((hquiet c hc).symm.trans hn) (by simp)
  represents := by
    obtain ⟨l, hl, hlive⟩ := h.represents
    refine ⟨l, hl, fun hrejects => ?_⟩
    obtain ⟨hs, heq⟩ := hlive hrejects.before
    exact ⟨hs.append fun c hc mr _ hsome => absurd hsome (by simp [hquiet c hc]), heq⟩

/-- The number of a segment just created is that of no open region. -/
lemma Live.fresh (h : s.Live) (hquiet : ∀ c ∈ more, c.removes = none) {segmentId : UInt32}
    {n : Handle}
    (hn : s.dpa.calls.length ≤ n)
    (hcreated : Dpa.Created s.dpa.replies segmentId (s.dpa.calls ++ more) n)
    (hrejects : ({ s.dpa with calls := s.dpa.calls ++ more } : Dpa).RejectsUsed) :
    segmentId ∉ s.opened.map fun mr => mr.segmentInfo.segmentId := by
  intro hmem
  obtain ⟨mr, hmr, rfl⟩ := List.mem_map.1 hmem
  obtain ⟨n', -, hn'⟩ := h.inUse mr hmr
  refine hrejects n _ hcreated n' ?_
  rw [List.take_append, List.take_of_length_le hn]
  exact hn'.append fun c hc => by rw [hquiet c (List.mem_of_mem_take hc)]; exact nofun

/-- A region is registered. -/
lemma Sound.opens (h : s.Sound) (hquiet : ∀ c ∈ more, c.removes = none) {n : Handle}
    (hsegment : mr.segmentInfo.segment = some n) (hn : s.dpa.calls.length ≤ n)
    (hcreated : Dpa.Created s.dpa.replies mr.segmentInfo.segmentId (s.dpa.calls ++ more) n)
    (hfits : L.mapType.HashFits (keyOf L mr)) :
    ∃ mrMap, s.mrMap.hashPut (L.valueOf mr) = some mrMap
      ∧ Sound ⟨{ s.dpa with calls := s.dpa.calls ++ more }, mrMap, s.opened ++ [mr]⟩ := by
  have hs := h.quiet hquiet
  obtain ⟨l, hl, hlive⟩ := hs.represents
  obtain ⟨mrMap, hput, hl'⟩ := hl.put (L.valueOf mr) hfits
  refine ⟨mrMap, hput, ?_, ?_, hs.removed, l ++ [L.valueOf mr], hl', fun hrejects => ?_⟩
  · exact List.forall_mem_append.2 ⟨h.fits, List.forall_mem_singleton.2 hfits⟩
  · refine List.forall_mem_append.2 ⟨hs.made, List.forall_mem_singleton.2 fun n' hn' => ?_⟩
    obtain rfl := Option.some.inj (hsegment.symm.trans hn')
    exact hcreated.lt
  · obtain ⟨hold, rfl⟩ := hlive hrejects
    have hbefore := h.live hrejects.before
    have hkept (c : DpaCall) (hc : c ∈ s.dpa.calls ++ more) : c.removes ≠ some n := by
      rcases List.mem_append.1 hc with hc | hc
      · exact fun heq => absurd (h.removed c hc n heq) (Nat.not_lt.2 hn)
      · rw [hquiet c hc]
        exact nofun
    refine ⟨⟨List.forall_mem_append.2 ⟨hold.inUse, List.forall_mem_singleton.2
      ⟨n, hsegment, hcreated, hkept⟩⟩, ?_⟩, by simp⟩
    rw [List.map_append, List.map_singleton, List.nodup_append_comm, List.singleton_append]
    exact List.nodup_cons.2 ⟨hbefore.fresh hquiet hn hcreated hrejects, hold.distinct⟩

lemma Sound.reg (h : s.Sound) (fid : DpaFidDomain) (buf : ℕ)
    (len access requestedKey flags : UInt64)
    (context : ℕ) (hfits : requestedKey.toUInt32.toNat % L.mrMapSize < 2 ^ 31) :
    ∃ r, s.dpaMrReg fid buf len access requestedKey flags context = some r ∧ r.2.Sound := by
  obtain ⟨more, hcalls, hquiet, hok⟩ :=
    Dpa.allocSegment_spec requestedKey.toUInt32 len s.dpa
  rcases halloc : s.dpa.allocSegment requestedKey.toUInt32 len with ⟨⟨error, info⟩, dpa⟩
  rw [halloc] at hcalls hok
  dsimp only at hcalls hok
  subst hcalls
  simp only [dpaMrReg, halloc]
  split_ifs with hclass hmode htruncated hused herror
  · exact ⟨_, rfl, h⟩
  · exact ⟨_, rfl, h⟩
  · exact ⟨_, rfl, h⟩
  · exact ⟨_, rfl, h.quiet hquiet⟩
  · exact ⟨_, rfl, h.quiet hquiet⟩
  · obtain ⟨n, hsegment, hnumber, hn, hcreated⟩ := hok (not_not.1 herror)
    have hfits' : L.mapType.HashFits (keyOf L ⟨info, context, buf, len, access, flags, fid⟩) := by
      rw [fits_iff, hnumber]
      exact hfits
    rw [← hnumber] at hcreated
    obtain ⟨mrMap, hput, hsound⟩ := h.opens hquiet hsegment hn hcreated hfits'
    exact ⟨_, by rw [hput]; rfl, hsound⟩

/-- The other regions are under other numbers. -/
lemma Live.ne_of_mem_eraseIdx (h : s.Live) (hi : s.opened[i]? = some mr) {mr' : DpaFidMr}
    (hmr' : mr' ∈ s.opened.eraseIdx i) : mr'.segmentInfo.segmentId ≠ mr.segmentInfo.segmentId := by
  obtain ⟨hlt, rfl⟩ := List.getElem?_eq_some_iff.1 hi
  obtain ⟨j, hj, hne, rfl⟩ := List.mem_eraseIdx_iff_getElem.1 hmr'
  intro heq
  refine hne ((List.getElem?_inj (by rwa [List.length_map]) h.distinct).1 ?_)
  rw [List.getElem?_map, List.getElem?_map, hi, List.getElem?_eq_getElem hj]
  exact congrArg some heq

/-- The regions left after one is closed. -/
lemma Live.eraseP_eq (h : s.Live) (hi : s.opened[i]? = some mr) :
    ((s.opened.map L.valueOf).eraseP fun v => L.mapType.keyOf v = keyOf L mr)
      = (s.opened.eraseIdx i).map L.valueOf := by
  have hkey (mr' : DpaFidMr) :
      (decide (L.mapType.keyOf (L.valueOf mr') = keyOf L mr) : Bool)
        = decide (mr'.segmentInfo.segmentId = mr.segmentInfo.segmentId) := by
    rw [Bool.eq_iff_iff, decide_eq_true_eq, decide_eq_true_eq]
    exact keyOf_eq_iff mr' mr
  rw [List.eraseP_map, ← List.eraseP_eq_eraseIdx_of_nodup h.distinct hi]
  exact congrArg _ (congrArg (s.opened.eraseP ·) (funext hkey))

/-- Closing a region removes the segment of no other. -/
lemma Live.close (h : s.Live) (hi : s.opened[i]? = some mr) {mrMap : HashMap L.mapType} :
    Live ⟨{ s.dpa with calls := s.dpa.calls ++ Dpa.destroyCalls mr.segmentInfo }, mrMap,
      s.opened.eraseIdx i⟩ where
  inUse mr' hmr' := by
    obtain ⟨n, hsegment, hn⟩ := h.inUse mr' (List.mem_of_mem_eraseIdx hmr')
    refine ⟨n, hsegment, hn.append fun c hc heq => h.ne_of_mem_eraseIdx hi hmr' ?_⟩
    obtain ⟨n', hsegment', hn'⟩ := h.inUse mr (List.mem_of_getElem? hi)
    obtain rfl : n = n' :=
      Option.some.inj ((Dpa.removes_destroyCalls hc heq).symm.trans hsegment')
    exact Option.some.inj (hn.has.1.symm.trans hn'.has.1)
  distinct := h.distinct.sublist ((List.eraseIdx_sublist _ _).map _)

lemma Sound.close (h : s.Sound) (i : ℕ) : ∃ s', s.dpaMrClose i = some s' ∧ s'.Sound := by
  simp only [dpaMrClose, Dpa.destroySegment_calls]
  cases hi : s.opened[i]? with
  | none => exact ⟨s, rfl, h⟩
  | some mr =>
      have hmr : mr ∈ s.opened := List.mem_of_getElem? hi
      obtain ⟨l, hl, hlive⟩ := h.represents
      obtain ⟨mrMap, hremove, hl'⟩ := hl.remove (keyOf L mr) (h.fits mr hmr)
      refine ⟨_, congrArg (Option.map _) hremove, ?_, ?_, ?_, _, hl', fun hrejects => ?_⟩
      · exact fun mr' hmr' => h.fits mr' (List.mem_of_mem_eraseIdx hmr')
      · intro mr' hmr' n hn
        have hlt := h.made mr' (List.mem_of_mem_eraseIdx hmr') n hn
        exact hlt.trans_le (by simp)
      · intro c hc n hn
        rcases List.mem_append.1 hc with hc | hc
        · exact (h.removed c hc n hn).trans_le (by simp)
        · have hsegment := Dpa.removes_destroyCalls hc hn
          exact (h.made mr hmr n hsegment).trans_le (by simp)
      · obtain ⟨hs, rfl⟩ := hlive hrejects.before
        exact ⟨hs.close hi, hs.eraseP_eq hi⟩

lemma Sound.step (h : s.Sound) {c : MrCall} (hfits : c.Fits L) :
    ∃ s', s.step c = some s' ∧ s'.Sound := by
  cases c with
  | reg fid buf len access requestedKey flags context =>
      obtain ⟨r, hrun, hr⟩ := h.reg fid buf len access requestedKey flags context hfits
      exact ⟨r.2, congrArg (Option.map Prod.snd) hrun, hr⟩
  | close i => exact h.close i

lemma Sound.run (h : s.Sound) {calls : List MrCall} (hfits : ∀ c ∈ calls, c.Fits L) :
    ∃ s', Stepper.run MrSite.step s calls = some s' ∧ s'.Sound := by
  induction calls generalizing s with
  | nil => exact ⟨s, rfl, h⟩
  | cons c rest ih =>
      obtain ⟨s₁, hstep, h₁⟩ := h.step (hfits c List.mem_cons_self)
      obtain ⟨s₂, hrun, h₂⟩ := ih h₁ fun c' hc' => hfits c' (List.mem_cons_of_mem c hc')
      exact ⟨s₂, by rw [Stepper.run_cons, hstep, Option.bind_some, hrun], h₂⟩

/-- A hash map is a multimap as long as the keys hash to an `int`: those of a map with `uint_hash`
do if it has at most 2³¹ buckets.  `mr_map` then holds exactly the regions that are open, one under
a key. -/
theorem hashMap_refines (T : HashType) (operations : List (HashMap.Operation T)) (L : MrLayout)
    (replies : ℕ → Reply) (calls : List MrCall) :
    ((∃ m, Stepper.run HashMap.step (HashMap.hashCreate T) operations = some m
          ∧ m.Multimap (operations.foldl HashMap.Operation.apply []))
        ↔ ∀ o ∈ operations, T.HashFits o.key)
    ∧ (∀ (keyOffset valueSize mapSize : ℕ) (inside : keyOffset + 4 ≤ valueSize)
        (hpos : 0 < mapSize),
      (∀ key, (uintType keyOffset valueSize mapSize inside hpos).HashFits key) ↔ mapSize ≤ 2 ^ 31)
    ∧ ((∀ c ∈ calls, c.Fits L) → ∃ s, Stepper.run step (dpaMrInit L replies) calls = some s
        ∧ (s.dpa.RejectsUsed → (s.opened.map fun mr => mr.segmentInfo.segmentId).Nodup
          ∧ s.mrMap.Multimap (s.opened.map L.valueOf))) := by
  refine ⟨HashMap.refines_iff operations, fun _ _ _ => uintType_fits_iff, fun hfits => ?_⟩
  obtain ⟨s, hrun, hsound⟩ := (sound_init replies).run hfits
  refine ⟨s, hrun, fun hrejects => ?_⟩
  obtain ⟨l, hl, hlive⟩ := hsound.represents
  obtain ⟨hs, rfl⟩ := hlive hrejects
  exact ⟨hs.distinct, hl.multimap⟩

/-- The bytes of a number, the lowest first. -/
def bytesOf (n : UInt32) : Fin 4 → UInt8 := fun i => .ofNat (n.toNat / 2 ^ (8 * i.val))

lemma uintOf_bytesOf (n : UInt32) : uintOf (bytesOf n) = n.toNat := by
  have hn : n.toNat < 2 ^ 32 := UInt32.toNat_lt n
  simp only [uintOf, bytesOf, UInt8.toNat_ofNat']
  norm_num
  omega

/-- Regions of which the map has only the number. -/
def numberOnly (mrMapSize : ℕ) (nonempty : 0 < mrMapSize) : MrLayout where
  keyOffset := 0
  valueSize := 4
  inside := le_rfl
  mrMapSize
  nonempty
  bytes mr := bytesOf mr.segmentInfo.segmentId
  segmentId mr := by
    rw [← uintOf_bytesOf]
    congr 1
    funext i
    exact congrArg _ (Fin.ext (Nat.zero_add _))

/-- Every call to the library succeeds. -/
def allOk : ℕ → Reply := fun _ => ⟨.ok, 0, .ofNode 0, 0⟩

/-- A region of 64 bytes is registered. -/
def register (requestedKey : UInt64) : MrCall :=
  .reg ⟨.domain, .scalable⟩ 0 64 0 requestedKey 0 0

/-- Values of four bytes, which are their keys. -/
def numbers (mapSize : ℕ) (hpos : 0 < mapSize) : HashType := uintType 0 4 mapSize le_rfl hpos

/-- In three buckets: the first of two values with colliding keys is removed; and the first of two
regions is closed, and its key used again. -/
theorem hashMap_refines_collision :
    (∃ m : HashMap (numbers 3 (by decide)), Stepper.run HashMap.step (HashMap.hashCreate _)
          [.put (bytesOf 7), .put (bytesOf 10), .remove (bytesOf 7)] = some m
        ∧ m.Multimap [bytesOf 10])
    ∧ (∀ key, (numbers 3 (by decide)).HashFits key)
    ∧ ∃ s : MrSite (numberOnly 3 (by decide)), Stepper.run step (dpaMrInit _ allOk)
          [register 7, register 10, .close 0, register 7] = some s
        ∧ (s.opened.map fun mr => mr.segmentInfo.segmentId) = [10, 7]
        ∧ s.mrMap.Multimap (s.opened.map (numberOnly 3 (by decide)).valueOf) := by
  have hrefines := hashMap_refines (numbers 3 (by decide))
    [.put (bytesOf 7), .put (bytesOf 10), .remove (bytesOf 7)] (numberOnly 3 (by decide)) allOk
    [register 7, register 10, .close 0, register 7]
  refine ⟨?_, (hrefines.2.1 0 4 3 le_rfl (by decide)).2 (by decide), ?_⟩
  · obtain ⟨m, hrun, hm⟩ := hrefines.1.2 (by decide +kernel)
    have hlist : ([.put (bytesOf 7), .put (bytesOf 10), .remove (bytesOf 7)] :
        List (HashMap.Operation (numbers 3 (by decide)))).foldl HashMap.Operation.apply []
          = ([bytesOf 10] : List (numbers 3 (by decide)).Value) := by decide +kernel
    exact ⟨m, hrun, hlist ▸ hm⟩
  · obtain ⟨s, hrun, hs⟩ := hrefines.2.2 (by decide +kernel)
    have hview : (Stepper.run step (dpaMrInit (numberOnly 3 (by decide)) allOk)
        [register 7, register 10, .close 0, register 7]).map
          (fun s => (decide s.dpa.RejectsUsed, s.opened.map fun mr => mr.segmentInfo.segmentId))
        = some (true, [10, 7]) := by decide +kernel
    rw [hrun, Option.map_some] at hview
    obtain ⟨hrejects, hopened⟩ := Prod.mk.inj (Option.some.inj hview)
    exact ⟨s, hrun, hopened, (hs (of_decide_eq_true hrejects)).2⟩

/-- With more than 2³¹ buckets, a value and a region whose key hashes to 2³¹. -/
theorem hashMap_leaves_array :
    ((HashMap.hashCreate (numbers (2 ^ 31 + 1) (by decide))).hashPut ![0, 0, 0, 128]).isNone
    ∧ ((HashMap.hashCreate (numbers (2 ^ 31 + 1) (by decide))).hashGet ![0, 0, 0, 128]).isNone
    ∧ ((dpaMrInit (numberOnly (2 ^ 31 + 1) (by decide)) allOk).step
        (register (2 ^ 31))).isNone := by
  decide +kernel

end MrSite

end DpaProvider
