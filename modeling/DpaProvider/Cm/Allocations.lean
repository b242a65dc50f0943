import DpaProvider.Cm.Handshake
import DpaProvider.Cm.Layout

/-!
Sequences of allocations.

`alloc_msg_buffer` is called for one endpoint after the other, and each call may fail.

* `Filled`: the first entries of the table are filled in turn, and the others are not;
* `AllocRun.filled`: every call keeps it so;
* `Exclusive`: every buffer reserved lies in its segment, is described as it is, and has nothing in
  common with the others;
* `exclusive_run`: this holds along every sequence of calls, unless the size of a segment does not
  fit or the numbers begin with 0.
-/

namespace DpaProvider

open Effect

namespace Site

variable {s t : Site} {i j p fuel : ℕ} {a : Unit}

/-- `DATA_SEGMENT_SIZE`. -/
def dataSegmentSize (s : Site) : UInt64 := s.env.alignedBufferSize * s.env.buffersPerSegment

/-- The number of the segment in an entry of the table, if the entries are filled in turn. -/
def segmentIdOf (s : Site) (i : ℕ) : UInt32 := nextSegmentId s.env.minMsgSegmid + UInt32.ofNat i

/-- The first `p` entries of the table are filled, in turn. -/
structure Filled (p : ℕ) (s : Site) : Prop where
  le : p ≤ s.numSegments
  created : ∀ i, s.Created i ↔ i < p
  ids : ∀ i < p, (s.localSegmentsInfo i).segmentId = s.segmentIdOf i
  sizes : ∀ i < p, (s.localSegmentsInfo i).size = s.dataSegmentSize
  counts : ∀ i < p, (s.localSegmentsInfo i).bufcount = 0
  current : s.currentSegmentId = if p = 0 then s.env.minMsgSegmid else s.segmentIdOf p

/-! ### Numbers and sizes -/

/-- The range of numbers is not the wrong way round. -/
def Ranged (s : Site) : Prop := s.env.minMsgSegmid.toNat ≤ s.env.maxMsgSegmid.toNat

lemma numSegments_eq (h : s.Ranged) :
    s.numSegments = s.env.maxMsgSegmid.toNat - s.env.minMsgSegmid.toNat :=
  UInt32.toNat_sub_of_le _ _ (UInt32.le_iff_toNat_le.2 h)

lemma toNat_nextSegmentId (n : UInt32) :
    (nextSegmentId n).toNat = if n = 0 then 1 else n.toNat := by
  rw [nextSegmentId]
  split <;> rfl

/-- The numbers do not wrap. -/
lemma toNat_segmentIdOf (h : s.Ranged) (hi : i < s.numSegments) :
    (s.segmentIdOf i).toNat
      = (if s.env.minMsgSegmid = 0 then 1 else s.env.minMsgSegmid.toNat) + i := by
  have hmax := s.env.maxMsgSegmid.toNat_lt
  have hlt : i < 2 ^ 32 := hi.trans (UInt32.toNat_lt _)
  rw [numSegments_eq h] at hi
  have hi' : (UInt32.ofNat i).toNat = i := UInt32.toNat_ofNat_of_lt' hlt
  rw [segmentIdOf, UInt32.toNat_add, toNat_nextSegmentId, hi', Nat.mod_eq_of_lt]
  split
  case isTrue hzero =>
      rw [hzero, UInt32.toNat_zero] at hi
      omega
  case isFalse => omega

lemma segmentIdOf_ne_zero (h : s.Ranged) (hi : i < s.numSegments) : s.segmentIdOf i ≠ 0 := by
  intro hzero
  have hid := toNat_segmentIdOf h hi
  rw [hzero, UInt32.toNat_zero] at hid
  split at hid
  case isTrue => omega
  case isFalse hmin =>
      have hpos : s.env.minMsgSegmid.toNat ≠ 0 := fun h => hmin (UInt32.toNat_inj.1 h)
      omega

lemma segmentIdOf_inj (h : s.Ranged) (hi : i < s.numSegments) (hj : j < s.numSegments)
    (heq : s.segmentIdOf i = s.segmentIdOf j) : i = j := by
  have hid := congrArg UInt32.toNat heq
  rw [toNat_segmentIdOf h hi, toNat_segmentIdOf h hj] at hid
  omega

lemma segmentIdOf_succ (s : Site) (i : ℕ) : s.segmentIdOf i + 1 = s.segmentIdOf (i + 1) := by
  rw [segmentIdOf, segmentIdOf, UInt32.ofNat_add, UInt32.add_assoc]
  rfl

/-- The size of a segment fits into a word. -/
def Fits (s : Site) : Prop := s.env.alignedBufferSize.toNat * s.numBuffers < 2 ^ 64

lemma toNat_dataSegmentSize (hfits : s.Fits) :
    s.dataSegmentSize.toNat = s.env.alignedBufferSize.toNat * s.numBuffers := by
  rw [dataSegmentSize, UInt64.toNat_mul]
  exact Nat.mod_eq_of_lt hfits

lemma toNat_offset (hfits : s.Fits) (hj : j < s.numBuffers) :
    (UInt64.ofNat j * s.env.alignedBufferSize).toNat = j * s.env.alignedBufferSize.toNat := by
  have hlt : j < 2 ^ 64 := hj.trans (UInt64.toNat_lt _)
  rw [UInt64.toNat_mul, UInt64.toNat_ofNat_of_lt' hlt]
  refine Nat.mod_eq_of_lt (lt_of_le_of_lt ?_ hfits)
  rw [Nat.mul_comm]
  exact Nat.mul_le_mul_left _ hj.le

namespace Filled

/-- The number that the next segment gets. -/
lemma next (h : Filled p s) (hrange : s.Ranged) (hp : p < s.numSegments) :
    nextSegmentId s.currentSegmentId = s.segmentIdOf p := by
  rw [h.current]
  split
  case isTrue hzero =>
      rw [hzero, segmentIdOf]
      exact (UInt32.add_zero _).symm
  case isFalse => rw [nextSegmentId, if_neg (segmentIdOf_ne_zero hrange hp)]

lemma uncounted (h : Filled p s) : s.Uncounted := fun i hi => h.counts i ((h.created i).1 hi)

lemma congr (h : Filled p s) (henv : t.env = s.env)
    (hcurrent : t.currentSegmentId = s.currentSegmentId)
    (hentry : ∀ i, (t.localSegmentsInfo i).segmentId = (s.localSegmentsInfo i).segmentId
      ∧ (t.localSegmentsInfo i).size = (s.localSegmentsInfo i).size
      ∧ (t.localSegmentsInfo i).bufcount = (s.localSegmentsInfo i).bufcount) : Filled p t where
  le := by
    rw [numSegments, henv]
    exact h.le
  created i := by
    rw [Created, (hentry i).1]
    exact h.created i
  ids i hi := by rw [(hentry i).1, h.ids i hi, segmentIdOf, segmentIdOf, henv]
  sizes i hi := by rw [(hentry i).2.1, h.sizes i hi, dataSegmentSize, dataSegmentSize, henv]
  counts i hi := by rw [(hentry i).2.2, h.counts i hi]
  current := by rw [hcurrent, h.current, segmentIdOf, segmentIdOf, henv]

end Filled

/-! ### What a call does to the table -/

/-- A segment has the size of all segments. -/
lemma createDataSegment_size (hrun : createDataSegment i s = .ok (a, t)) :
    (t.localSegmentsInfo i).size = s.dataSegmentSize := by
  rw [createDataSegment, get_bind] at hrun
  obtain ⟨err, s₁, halloc, hrun⟩ := run_bind_ok hrun
  have hsize : (s₁.localSegmentsInfo i).size = s.dataSegmentSize := by
    simp only [dpaAllocSegment, setSegment, modify_bind, lib_bind, ite_run, setHost_bind,
      get_bind] at halloc
    split_ifs at halloc
    all_goals
      obtain ⟨-, rfl⟩ := Prod.mk.inj (Except.ok.inj halloc)
      simp [dataSegmentSize]
  rw [ite_run] at hrun
  split at hrun
  case isTrue =>
      rw [get_bind] at hrun
      obtain ⟨err', s₂, hdestroy, hrun⟩ := run_bind_ok hrun
      have hkept : s₂.localSegmentsInfo = s₁.localSegmentsInfo :=
        keeps_dpaDestroySegment (F := .same fun s => s.localSegmentsInfo) (fun _ _ => rfl) _ _ _ _
          hdestroy
      obtain ⟨-, rfl⟩ := Prod.mk.inj (Except.ok.inj hrun)
      simp [hkept, hsize]
  case isFalse =>
      obtain ⟨_, s₂, hset, hrun⟩ := run_bind_ok hrun
      obtain ⟨-, rfl⟩ := Prod.mk.inj (Except.ok.inj hset)
      obtain ⟨-, rfl⟩ := Prod.mk.inj (Except.ok.inj hrun)
      simp [hsize]

lemma createUntil_size (hrun : createUntil i fuel s = .ok (a, t)) (hi : ¬ s.Created i) :
    (t.localSegmentsInfo i).size = s.dataSegmentSize := by
  induction fuel generalizing s with
  | zero => exact absurd hrun throw_ne_ok
  | succ fuel ih =>
      rw [createUntil, get_bind, if_pos (not_not.1 hi)] at hrun
      obtain ⟨_, s₁, hcreate, hrun⟩ := run_bind_ok hrun
      have henv := (entry_createDataSegment s _ s₁ hcreate).1
      have hsame : s₁.dataSegmentSize = s.dataSegmentSize := by
        rw [dataSegmentSize, dataSegmentSize, henv]
      by_cases hcreated : s₁.Created i
      · rw [(createUntil_cases hrun).2.2.1 hcreated, createDataSegment_size hcreate]
      · rw [ih hrun hcreated, hsame]

/-- An entry that is not filled is the next one, and it is filled then. -/
lemma createUntil_filled (hrange : s.Ranged) (h : Filled p s) (hi : i ≤ p) (hlt : i < s.numSegments)
    (hrun : createUntil i fuel s = .ok (a, t)) : ∃ p', i < p' ∧ Filled p' t := by
  obtain ⟨henv, hother, hsame, hnew⟩ := createUntil_cases hrun
  by_cases hcreated : s.Created i
  · exact ⟨p, (h.created i).1 hcreated, hsame hcreated ▸ h⟩
  obtain rfl : i = p := le_antisymm hi (not_lt.1 fun hlt => hcreated ((h.created i).2 hlt))
  have hsize := createUntil_size hrun hcreated
  obtain ⟨hid, hcount, -, hcurrent⟩ := hnew hcreated
  rw [h.next hrange hlt] at hid hcurrent
  have hids : t.segmentIdOf = s.segmentIdOf := by
    funext k
    rw [segmentIdOf, segmentIdOf, henv]
  have hsizes : t.dataSegmentSize = s.dataSegmentSize := by
    rw [dataSegmentSize, dataSegmentSize, henv]
  refine ⟨i + 1, Nat.lt_succ_self i, ?_⟩
  constructor
  case le =>
      rw [numSegments, henv]
      exact hlt
  case created =>
      intro k
      rcases eq_or_ne k i with rfl | hne
      · rw [Created, hid]
        exact iff_of_true (segmentIdOf_ne_zero hrange hlt) (Nat.lt_succ_self k)
      · rw [Created, hother k hne]
        refine (h.created k).trans ⟨fun hk => by omega, fun hk => by omega⟩
  case ids =>
      intro k hk
      rw [hids]
      rcases eq_or_ne k i with rfl | hne
      · exact hid
      · rw [hother k hne, h.ids k (by omega)]
  case sizes =>
      intro k hk
      rw [hsizes]
      rcases eq_or_ne k i with rfl | hne
      · exact hsize
      · rw [hother k hne, h.sizes k (by omega)]
  case counts =>
      intro k hk
      rcases eq_or_ne k i with rfl | hne
      · exact hcount
      · rw [hother k hne, h.counts k (by omega)]
  case current => rw [hcurrent, if_neg (Nat.succ_ne_zero i), hids, segmentIdOf_succ]

lemma searchSegments_filled {remaining : ℕ} {found : Option (ℕ × ℕ)} (hrange : s.Ranged)
    (h : Filled p s) (hi : i ≤ p) (hremaining : i + remaining = s.numSegments)
    (hrun : searchSegments remaining i s = .ok (found, t)) : ∃ p', Filled p' t := by
  induction remaining generalizing s i p with
  | zero =>
      obtain ⟨-, rfl⟩ := Prod.mk.inj (Except.ok.inj hrun)
      exact ⟨p, h⟩
  | succ remaining ih =>
      rw [searchSegments, get_bind] at hrun
      obtain ⟨_, s₁, hcreate, hrun⟩ := run_bind_ok hrun
      obtain ⟨p₁, hlt, hfilled⟩ := createUntil_filled hrange h hi (by omega) hcreate
      have henv := (createUntil_cases hcreate).1
      have hrange₁ : s₁.Ranged := by rwa [Ranged, henv]
      have hnum : i + 1 + remaining = s₁.numSegments := by
        rw [numSegments, henv, ← numSegments]
        omega
      simp only [get_bind, ite_run] at hrun
      split at hrun
      case isFalse => exact ih hrange₁ hfilled hlt hnum hrun
      case isTrue =>
          generalize (List.range _).find? _ = free at hrun
          cases free with
          | none => exact ih hrange₁ hfilled hlt hnum hrun
          | some j =>
              obtain ⟨-, rfl⟩ := Prod.mk.inj (Except.ok.inj hrun)
              exact ⟨p₁, hfilled⟩

/-- The table and the number that comes next. -/
def segments : Frame Site := .same fun s => (s.localSegmentsInfo, s.currentSegmentId, s.env)

lemma ignores_segments {part : Part} (h : part ≠ .table) : Ignores segments part := by
  intro s x
  cases part with
  | table => exact absurd rfl h
  | _ => rfl

lemma Filled.of_segments (h : Filled p s) (hkept : segments.rel s t) : Filled p t := by
  simp only [segments, Frame.same, Prod.mk.injEq] at hkept
  obtain ⟨htable, hcurrent, henv⟩ := hkept
  exact h.congr henv hcurrent fun i => by rw [htable]; exact ⟨rfl, rfl, rfl⟩

/-- To reserve a buffer does not fill an entry. -/
lemma Filled.reserveBuffer (h : Filled p s) {data data' : SegmentData}
    (hrun : reserveBuffer i j data s = .ok (data', t)) : Filled p t := by
  simp only [Site.reserveBuffer, get_bind, setSegment, modify_bind, setHost_bind, setRecvInfo_bind,
    setSendInfo_bind] at hrun
  obtain ⟨-, rfl⟩ := Prod.mk.inj (Except.ok.inj hrun)
  refine h.congr rfl rfl fun k => ?_
  rcases eq_or_ne k i with rfl | hne
  · simp
  · simp [hne]

/-- The entries are filled in turn, whatever becomes of the call. -/
lemma AllocRun.filled {data data' : SegmentData} {err : DpaError} (hrange : s.Ranged)
    (h : Filled p s) (hrun : AllocRun data s err data' t) : ∃ p', Filled p' t := by
  have hsearch {found : Option (ℕ × ℕ)} {s₁ : Site} (hfind : getEmptyBuffer s = .ok (found, s₁)) :
      ∃ p', Filled p' s₁ := by
    rw [getEmptyBuffer, get_bind] at hfind
    exact searchSegments_filled hrange h (Nat.zero_le p) (Nat.zero_add _) hfind
  have hrecv {data : SegmentData} : Keeps segments (allocRecv data) :=
    keeps_allocRecv (ignores_segments (by simp)) (ignores_segments (by simp)) data
  have hsend {data : SegmentData} : Keeps segments (allocSend data) :=
    keeps_allocSend (ignores_segments (by simp)) (ignores_segments (by simp)) data
  cases hrun with
  | plain => exact ⟨p, h⟩
  | noBuffer _ hfind => exact hsearch hfind
  | recvFails _ hfind hrecv' =>
      obtain ⟨p', h'⟩ := hsearch hfind
      exact ⟨p', h'.of_segments (hrecv _ _ _ hrecv')⟩
  | sendFails _ hfind hrecv' hsend' =>
      obtain ⟨p', h'⟩ := hsearch hfind
      exact ⟨p', (h'.of_segments (hrecv _ _ _ hrecv')).of_segments (hsend _ _ _ hsend')⟩
  | reserved _ hfind hrecv' hsend' hreserve =>
      obtain ⟨p', h'⟩ := hsearch hfind
      exact ⟨p', ((h'.of_segments (hrecv _ _ _ hrecv')).of_segments
        (hsend _ _ _ hsend')).reserveBuffer hreserve⟩

end Site

/-! ### Sequences of calls -/

/-- A buffer that a call has reserved, and the description that the call has written. -/
structure Reservation where
  buffer : LocalBuffer
  told : SegmentData

/-- A call of `alloc_msg_buffer`: its endpoint, and the description that it is to complete. -/
structure AllocCall where
  ep : Endpoint
  data : SegmentData

/-- A site with the buffers reserved so far. -/
structure Allocations where
  site : Site
  reserved : List Reservation

namespace Allocations

open Site

/-- A call reserves the buffer that its endpoint is given. -/
def step (w : Allocations) (c : AllocCall) : Option Allocations :=
  match allocMsgBuffer c.data { w.site with host.ep := c.ep } with
  | .error _ => none
  | .ok ((err, told), site) =>
      if err = .ok ∧ hasAny c.ep.caps (fiRecv ||| fiSend) then
        some ⟨site, w.reserved ++ site.host.ep.recvInfo.buffer.toList.map (⟨·, told⟩)⟩
      else some ⟨site, w.reserved⟩

/-- The two buffers have nothing in common; segments with different numbers lie apart. -/
def Apart (b b' : LocalBuffer) : Prop :=
  (b.base.node, b.base.segment) = (b'.base.node, b'.base.segment) →
    b.base.offset.toNat + b.size.toNat ≤ b'.base.offset.toNat
      ∨ b'.base.offset.toNat + b'.size.toNat ≤ b.base.offset.toNat

/-- The buffer is one of the segment `i`, and lies in it. -/
structure Inside (s : Site) (i : ℕ) (b : LocalBuffer) : Prop where
  entry : i < s.numSegments
  created : s.Created i
  segment : b.base.node = s.env.localNodeId ∧ b.base.segment = (s.localSegmentsInfo i).segmentId
  range : b.base.offset.toNat + b.size.toNat ≤ (s.localSegmentsInfo i).size.toNat

/-- Every buffer reserved is in its segment, is described as it is, and belongs to one call. -/
structure Exclusive (w : Allocations) : Prop where
  inside : ∀ r ∈ w.reserved, ∃ i, Inside w.site i r.buffer
  told : ∀ r ∈ w.reserved, r.told.segmentId = r.buffer.base.segment
    ∧ r.told.offset = r.buffer.base.offset ∧ r.told.size = r.buffer.size
  apart : w.reserved.Pairwise fun r r' => Apart r.buffer r'.buffer
  marked : ∃ places : List (ℕ × ℕ), places.Nodup
    ∧ w.reserved.map Reservation.buffer = places.map (fun p => w.site.bufferAt p.1 p.2)
    ∧ ∀ i j, w.site.InUse i j ↔ (i, j) ∈ places
  distinct : ∀ i k, w.site.Created i → w.site.Created k →
    (w.site.localSegmentsInfo i).segmentId = (w.site.localSegmentsInfo k).segmentId → i = k
  below : ∀ i, w.site.Created i → (w.site.localSegmentsInfo i).segmentId < w.site.env.maxMsgSegmid

/-! ### The invariant -/

/-- `entries` says which place in the table each reservation has. -/
structure Laid (entries : List ((ℕ × ℕ) × Reservation)) (w : Allocations) : Prop where
  ranged : w.site.Ranged
  filled : ∃ p, Filled p w.site
  arranged : w.site.Arranged
  aligned : w.site.env.alignedBufferSize ≠ 0
  reserved : w.reserved = entries.map Prod.snd
  nodup : (entries.map Prod.fst).Nodup
  marked : ∀ i j, w.site.InUse i j ↔ (i, j) ∈ entries.map Prod.fst
  lt : ∀ e ∈ entries, e.1.2 < w.site.numBuffers
  buffer : ∀ e ∈ entries, e.2.buffer = w.site.bufferAt e.1.1 e.1.2
  size : ∀ e ∈ entries, (w.site.bufferAt e.1.1 e.1.2).size = w.site.env.alignedBufferSize
  told : ∀ e ∈ entries, Told w.site e.1.1 e.1.2 e.2.told

variable {w w' : Allocations} {c : AllocCall} {entries : List ((ℕ × ℕ) × Reservation)}

/-- The site with the endpoint of the call in place. -/
def before (w : Allocations) (c : AllocCall) : Site := { w.site with host.ep := c.ep }

/-- A step is a run of `alloc_msg_buffer`. -/
lemma step_cases (hstep : w.step c = some w') : ∃ err told,
    allocMsgBuffer c.data (w.before c) = .ok ((err, told), w'.site)
      ∧ ((err = .ok ∧ hasAny c.ep.caps (fiRecv ||| fiSend) = true
          ∧ w'.reserved = w.reserved
            ++ w'.site.host.ep.recvInfo.buffer.toList.map (⟨·, told⟩))
        ∨ ((err = .ok → hasAny c.ep.caps (fiRecv ||| fiSend) = false)
          ∧ w'.reserved = w.reserved)) := by
  rw [step] at hstep
  split at hstep
  case h_1 => cases hstep
  case h_2 err told site hrun =>
      refine ⟨err, told, ?_⟩
      split at hstep
      case isTrue hok =>
          obtain rfl := Option.some.inj hstep
          exact ⟨hrun, .inl ⟨hok.1, hok.2, rfl⟩⟩
      case isFalse hok =>
          obtain rfl := Option.some.inj hstep
          refine ⟨hrun, .inr ⟨fun herr => ?_, rfl⟩⟩
          exact Bool.eq_false_iff.2 fun hcarries => hok ⟨herr, hcarries⟩

lemma fixed_step (hstep : w.step c = some w') : fixed.rel (w.before c) w'.site := by
  obtain ⟨err, told, hrun, -⟩ := step_cases hstep
  exact keeps_allocMsgBuffer (ignores_fixed _) (ignores_fixed _) (ignores_fixed _)
    (ignores_fixed _) (ignores_fixed _) _ _ _ _ hrun

/-- Every call goes on filling the table, and keeps the environment. -/
lemma filled_step (hrange : w.site.Ranged) (hfilled : ∃ p, Filled p w.site)
    (hstep : w.step c = some w') : (∃ p, Filled p w'.site) ∧ w'.site.env = w.site.env := by
  obtain ⟨p, hp⟩ := hfilled
  obtain ⟨err, told, hrun, -⟩ := step_cases hstep
  have hbefore : Filled p (w.before c) := hp.congr rfl rfl fun _ => ⟨rfl, rfl, rfl⟩
  exact ⟨AllocRun.filled (s := w.before c) hrange hbefore (allocMsgBuffer_run hrun),
    fixed_env (s := w.before c) (fixed_step hstep)⟩

namespace Laid

lemma mem_inUse (h : Laid entries w) {e : (ℕ × ℕ) × Reservation} (he : e ∈ entries) :
    w.site.InUse e.1.1 e.1.2 := (h.marked _ _).2 (List.mem_map_of_mem he)

/-- A call that reserves nothing. -/
lemma idle (h : Laid entries w) (hidle : Idle (w.before c) w'.site)
    (hfilled : ∃ p, Filled p w'.site) (harranged : w'.site.Arranged)
    (hreserved : w'.reserved = w.reserved) : Laid entries w' := by
  have hgrown : Grown w.site w'.site := ⟨hidle.grown.env, hidle.grown.old, hidle.grown.fresh⟩
  have hold {e : (ℕ × ℕ) × Reservation} (he : e ∈ entries) :
      w'.site.localSegmentsInfo e.1.1 = w.site.localSegmentsInfo e.1.1 :=
    hgrown.old _ (h.mem_inUse he).1
  constructor
  case ranged =>
      rw [Ranged, hgrown.env]
      exact h.ranged
  case filled => exact hfilled
  case arranged => exact harranged
  case aligned =>
      rw [hgrown.env]
      exact h.aligned
  case reserved => rw [hreserved, h.reserved]
  case nodup => exact h.nodup
  case marked => exact fun i j => hgrown.inUse_iff.trans (h.marked i j)
  case lt =>
      rw [numBuffers, hgrown.env]
      exact h.lt
  case buffer =>
      intro e he
      rw [h.buffer e he, bufferAt, bufferAt, hold he]
  case size =>
      intro e he
      rw [bufferAt, hold he, ← bufferAt, h.size e he, hgrown.env]
  case told =>
      intro e he
      obtain ⟨hid, hoffset, hsize⟩ := h.told e he
      exact ⟨by rw [hold he, hid], by rw [bufferAt, hold he, hoffset, bufferAt],
        by rw [bufferAt, hold he, hsize, bufferAt]⟩

/-- A call that reserves a buffer. -/
lemma reserves (h : Laid entries w) {i j : ℕ} {told : SegmentData}
    (hreserves : Reserves (w.before c) w'.site i j) (htold : Told w'.site i j told)
    (hfilled : ∃ p, Filled p w'.site) (harranged : w'.site.Arranged)
    (hreserved : w'.reserved = w.reserved
      ++ w'.site.host.ep.recvInfo.buffer.toList.map (⟨·, told⟩)) :
    Laid (entries ++ [((i, j), ⟨w'.site.bufferAt i j, told⟩)]) w' := by
  have henv : w'.site.env = w.site.env := hreserves.env
  have hkept {e : (ℕ × ℕ) × Reservation} (he : e ∈ entries) :
      w'.site.bufferAt e.1.1 e.1.2 = w.site.bufferAt e.1.1 e.1.2 :=
    hreserves.kept _ _ (h.mem_inUse he)
  have hfresh : (i, j) ∉ entries.map Prod.fst := fun hmem => hreserves.free ((h.marked i j).2 hmem)
  -- the entries are filled as before
  have hid {e : (ℕ × ℕ) × Reservation} (he : e ∈ entries) :
      (w'.site.localSegmentsInfo e.1.1).segmentId = (w.site.localSegmentsInfo e.1.1).segmentId := by
    obtain ⟨p, hp⟩ := h.filled
    obtain ⟨p', hp'⟩ := hfilled
    have hne : (e.1.1, e.1.2) ≠ (i, j) := fun heq => hfresh (heq ▸ List.mem_map_of_mem he)
    have hcreated := ((hreserves.others _ _ hne).2 (h.mem_inUse he)).1
    rw [hp.ids _ ((hp.created _).1 (h.mem_inUse he).1), hp'.ids _ ((hp'.created _).1 hcreated),
      segmentIdOf, segmentIdOf, henv]
  constructor
  case ranged =>
      rw [Ranged, henv]
      exact h.ranged
  case filled => exact hfilled
  case arranged => exact harranged
  case aligned =>
      rw [henv]
      exact h.aligned
  case reserved =>
      rw [hreserved, hreserves.owner, h.reserved, List.map_append]
      rfl
  case nodup =>
      rw [List.map_append, List.map_singleton]
      exact h.nodup.append (List.nodup_singleton _) (by simpa using hfresh)
  case marked =>
      intro k l
      rw [List.map_append, List.mem_append, List.map_singleton, List.mem_singleton]
      by_cases heq : (k, l) = (i, j)
      · obtain ⟨rfl, rfl⟩ := Prod.mk.inj heq
        exact iff_of_true (hreserves.inUse h.aligned) (.inr rfl)
      · exact (hreserves.others k l heq).trans ((h.marked k l).trans (or_iff_left heq).symm)
  case lt =>
      rw [numBuffers, henv]
      simp only [List.mem_append, List.mem_singleton]
      rintro e (he | rfl)
      · exact h.lt e he
      · exact hreserves.buffer_lt
  case buffer =>
      simp only [List.mem_append, List.mem_singleton]
      rintro e (he | rfl)
      · rw [h.buffer e he, hkept he]
      · rfl
  case size =>
      simp only [List.mem_append, List.mem_singleton]
      rintro e (he | rfl)
      · rw [hkept he, h.size e he, henv]
      · rw [hreserves.size, henv]
        rfl
  case told =>
      simp only [List.mem_append, List.mem_singleton]
      rintro e (he | rfl)
      · obtain ⟨hid', hoffset, hsize⟩ := h.told e he
        exact ⟨by rw [hid he, hid'], by rw [hkept he, hoffset], by rw [hkept he, hsize]⟩
      · exact htold

/-- Every call keeps the invariant. -/
lemma step (h : Laid entries w) (hstep : w.step c = some w') : ∃ entries, Laid entries w' := by
  have hfilled := (filled_step h.ranged h.filled hstep).1
  obtain ⟨err, told, hrun, hcases⟩ := step_cases hstep
  have harranged : w'.site.Arranged := by
    refine (keeps_allocMsgBuffer_of admits_arranged.creates admits_arranged.reserves ?_ ?_ _ _ _ _
      hrun).2 h.arranged
    · exact ignores_arranged nofun
    · exact ignores_arranged nofun
  replace hrun := allocMsgBuffer_run hrun
  rcases hcases with ⟨rfl, hcarries, hreserved⟩ | ⟨hnone, hreserved⟩
  · obtain ⟨i, j, hreserves, htold⟩ := hrun.reserves hcarries
    exact ⟨_, h.reserves hreserves htold hfilled harranged hreserved⟩
  · exact ⟨entries, h.idle (hrun.idle hnone) hfilled harranged hreserved⟩

variable (h : Laid entries w)

include h

/-- Where the buffer of an entry lies. -/
lemma base {e : (ℕ × ℕ) × Reservation} (he : e ∈ entries) :
    e.2.buffer.base = ⟨w.site.env.localNodeId, (w.site.localSegmentsInfo e.1.1).segmentId,
      UInt64.ofNat e.1.2 * w.site.env.alignedBufferSize⟩ := by
  rw [h.buffer e he]
  exact h.arranged _ (h.mem_inUse he).1 _

lemma range {e : (ℕ × ℕ) × Reservation} (hfits : w.site.Fits) (he : e ∈ entries) :
    e.2.buffer.base.offset.toNat = e.1.2 * w.site.env.alignedBufferSize.toNat
      ∧ e.2.buffer.size = w.site.env.alignedBufferSize :=
  ⟨by rw [h.base he]; exact toNat_offset hfits (h.lt e he), by rw [h.buffer e he, h.size e he]⟩

lemma inside {e : (ℕ × ℕ) × Reservation} (hfits : w.site.Fits) (he : e ∈ entries) :
    Inside w.site e.1.1 e.2.buffer := by
  obtain ⟨p, hp⟩ := h.filled
  have hcreated := (h.mem_inUse he).1
  have hlt := (hp.created _).1 hcreated
  obtain ⟨hoffset, hsize⟩ := h.range hfits he
  refine ⟨hlt.trans_le hp.le, hcreated, by rw [h.base he]; exact ⟨rfl, rfl⟩, ?_⟩
  calc e.2.buffer.base.offset.toNat + e.2.buffer.size.toNat
      = (e.1.2 + 1) * w.site.env.alignedBufferSize.toNat := by rw [hoffset, hsize, Nat.succ_mul]
    _ ≤ w.site.numBuffers * w.site.env.alignedBufferSize.toNat :=
        Nat.mul_le_mul_right _ (h.lt e he)
    _ = (w.site.localSegmentsInfo e.1.1).size.toNat := by
        rw [hp.sizes _ hlt, toNat_dataSegmentSize hfits, Nat.mul_comm]

lemma distinct (i k : ℕ) (hi : w.site.Created i) (hk : w.site.Created k)
    (heq : (w.site.localSegmentsInfo i).segmentId = (w.site.localSegmentsInfo k).segmentId) :
    i = k := by
  obtain ⟨p, hp⟩ := h.filled
  rw [hp.created] at hi hk
  rw [hp.ids i hi, hp.ids k hk] at heq
  exact segmentIdOf_inj h.ranged (hi.trans_le hp.le) (hk.trans_le hp.le) heq

lemma apart {e e' : (ℕ × ℕ) × Reservation} (hfits : w.site.Fits) (he : e ∈ entries)
    (he' : e' ∈ entries) (hne : e.1 ≠ e'.1) : Apart e.2.buffer e'.2.buffer := by
  obtain ⟨hoffset, hsize⟩ := h.range hfits he
  obtain ⟨hoffset', hsize'⟩ := h.range hfits he'
  rw [Apart, hoffset, hsize, hoffset', hsize', h.base he, h.base he', ← Nat.succ_mul,
    ← Nat.succ_mul]
  intro heq
  have hentry : e.1.1 = e'.1.1 :=
    h.distinct _ _ (h.mem_inUse he).1 (h.mem_inUse he').1 (Prod.mk.inj heq).2
  obtain hlt | hgt : e.1.2 < e'.1.2 ∨ e'.1.2 < e.1.2 :=
    Nat.lt_or_gt_of_ne fun heq => hne (Prod.ext hentry heq)
  · exact .inl (Nat.mul_le_mul_right _ hlt)
  · exact .inr (Nat.mul_le_mul_right _ hgt)

/-- What the invariant is for. -/
lemma exclusive (hfits : w.site.Fits) (hmin : w.site.env.minMsgSegmid ≠ 0) : Exclusive w := by
  constructor
  case inside =>
      rw [h.reserved]
      simp only [List.mem_map]
      rintro r ⟨e, he, rfl⟩
      exact ⟨e.1.1, h.inside hfits he⟩
  case told =>
      rw [h.reserved]
      simp only [List.mem_map]
      rintro r ⟨e, he, rfl⟩
      obtain ⟨hid, hoffset, hsize⟩ := h.told e he
      refine ⟨by rw [hid, h.base he], ?_, ?_⟩
      · rw [hoffset, h.buffer e he]
      · rw [hsize, h.buffer e he]
  case apart =>
      rw [h.reserved, List.pairwise_map]
      exact (List.pairwise_map.1 h.nodup).imp_of_mem fun he he' hne => h.apart hfits he he' hne
  case marked =>
      refine ⟨_, h.nodup, ?_, h.marked⟩
      rw [h.reserved, List.map_map, List.map_map]
      exact List.map_congr_left fun e he => h.buffer e he
  case distinct => exact h.distinct
  case below =>
      intro i hi
      obtain ⟨p, hp⟩ := h.filled
      have hlt := (hp.created i).1 hi
      have hnum := hlt.trans_le hp.le
      rw [hp.ids i hlt, UInt32.lt_iff_toNat_lt, toNat_segmentIdOf h.ranged hnum, if_neg hmin]
      rw [numSegments_eq h.ranged] at hnum
      omega

end Laid

/-- The table is all zeroes, and the numbers are at their beginning. -/
structure Zeroed (s : Site) : Prop where
  uncreated : ∀ i, ¬ s.Created i
  current : s.currentSegmentId = s.env.minMsgSegmid

lemma Zeroed.filled {s : Site} (h : Zeroed s) : Filled 0 s :=
  ⟨Nat.zero_le _, fun i => iff_of_false (h.uncreated i) (Nat.not_lt_zero i), nofun, nofun, nofun,
    h.current⟩

lemma Zeroed.laid {s : Site} (h : Zeroed s) (hrange : s.Ranged)
    (hsize : 16 ≤ s.env.bufferSize.toNat) : Laid [] ⟨s, []⟩ where
  ranged := hrange
  filled := ⟨0, h.filled⟩
  arranged i hi := absurd hi (h.uncreated i)
  aligned := by
    intro hzero
    have hword := congrArg UInt64.toNat hzero
    rw [Env.alignedBufferSize, toNat_bufferWordAlign, UInt64.toNat_zero] at hword
    dsimp only at hword
    omega
  reserved := rfl
  nodup := List.nodup_nil
  marked i j := iff_of_false (fun hinUse => h.uncreated i hinUse.1) List.not_mem_nil
  lt := nofun
  buffer := nofun
  size := nofun
  told := nofun

/-- The buffers reserved are exclusive along every sequence of calls, and a call that fails reserves
none, where the size of a segment fits and the numbers go up from one that is not 0. -/
theorem exclusive_run {s : Site} (hzeroed : Zeroed s) (hsize : 16 ≤ s.env.bufferSize.toNat)
    (hfits : s.Fits) (hmin : s.env.minMsgSegmid ≠ 0) (hrange : s.Ranged) {calls : List AllocCall}
    (hrun : Stepper.run step ⟨s, []⟩ calls = some w) :
    Exclusive w ∧ ∀ (c : AllocCall) (err : DpaError) (told : SegmentData) (t : Site),
      allocMsgBuffer c.data (w.before c) = .ok ((err, told), t) → err ≠ .ok →
      ∀ i j, t.InUse i j ↔ w.site.InUse i j := by
  have hkept : (∃ entries, Laid entries w) ∧ w.site.env = s.env := by
    refine Stepper.run_invariant (I := fun w => (∃ entries, Laid entries w) ∧ w.site.env = s.env)
      ?_ ⟨⟨[], hzeroed.laid hrange hsize⟩, rfl⟩ hrun
    rintro u c u' ⟨⟨entries, h⟩, henv⟩ hstep
    exact ⟨h.step hstep, (filled_step h.ranged h.filled hstep).2.trans henv⟩
  obtain ⟨⟨entries, h⟩, henv⟩ := hkept
  have hnum : w.site.numBuffers = s.numBuffers := by rw [numBuffers, numBuffers, henv]
  refine ⟨h.exclusive (by rwa [Site.Fits, hnum, henv]) (by rwa [henv]), ?_⟩
  intro c err told t hcall herr i j
  have hidle := (allocMsgBuffer_run hcall).idle fun hok => absurd hok herr
  exact hidle.grown.inUse_iff

/-- A call for an endpoint with all capabilities. -/
def aCall : AllocCall := ⟨(opened 0 fiMsg ⟨2, 7⟩).ep, .ofNode 1⟩

theorem exclusive_run_twoCalls : ∃ w,
    Stepper.run step ⟨Process.granted.site, []⟩ [aCall, aCall] = some w
      ∧ w.reserved.length = 2 ∧ Exclusive w := by
  have hview : (Stepper.run step ⟨Process.granted.site, []⟩ [aCall, aCall]).map
      (fun w => w.reserved.length) = some 2 := by decide +kernel
  obtain ⟨w, hrun, hlength⟩ := Option.map_eq_some_iff.1 hview
  refine ⟨w, hrun, hlength, (exclusive_run ⟨fun _ h => h rfl, rfl⟩ ?_ ?_ ?_ ?_ hrun).1⟩
  · decide
  · rw [Site.Fits]
    decide
  · decide
  · rw [Ranged]
    decide

/-- Numbers from 0 on, for a table of one segment. -/
def fromZero : Site :=
  { Process.granted.site with
    env.minMsgSegmid := 0, env.maxMsgSegmid := 1, currentSegmentId := 0 }

/-- The number of the only segment is the first one behind the range. -/
theorem beyond_range : Zeroed fromZero ∧ ∃ w,
    Stepper.run step ⟨fromZero, []⟩ [aCall] = some w ∧ ¬ Exclusive w := by
  have hview : (Stepper.run step ⟨fromZero, []⟩ [aCall]).map
      (fun w => ((w.site.localSegmentsInfo 0).segmentId, w.site.env.maxMsgSegmid))
        = some (1, 1) := by decide +kernel
  obtain ⟨w, hrun, hids⟩ := Option.map_eq_some_iff.1 hview
  obtain ⟨hid, hmax⟩ := Prod.mk.inj hids
  refine ⟨⟨fun _ h => h rfl, rfl⟩, w, hrun, fun h => ?_⟩
  have hbelow := h.below 0 (by rw [Created, hid]; decide)
  rw [hid, hmax] at hbelow
  exact absurd hbelow (by simp)

end Allocations

end DpaProvider
