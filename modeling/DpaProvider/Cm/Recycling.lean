import DpaProvider.Cm.Process
import DpaProvider.Library.Stepper

/-!
The buffers in use and the endpoints that own them.

`alloc_msg_buffer` marks a buffer by its size, and nothing takes the mark back.  So the buffers in
use are those of the endpoints that own one as long as none of them is shut down or closed, and none
reserves a second one.

* `Grown`: the table after more segments have been created; `Reserves`: one more buffer is marked;
* `getEmptyBuffer_cases`: the buffer found is not in use, and none is found only if all are;
* `getEmptyBuffer_granted`: the search ends, with a library that grants every call;
* `recycled_run`: each buffer in use has its owner, and the search finds one while there are fewer
  owners than buffers.
-/

namespace DpaProvider

open Effect

namespace Site

variable {s s' t : Site} {i j : ℕ}

/-- The numbers of segments, and of buffers in each. -/
def numSegments (s : Site) : ℕ := (s.env.maxMsgSegmid - s.env.minMsgSegmid).toNat

def numBuffers (s : Site) : ℕ := s.env.buffersPerSegment.toNat

/-- The segment was created. -/
def Created (s : Site) (i : ℕ) : Prop := (s.localSegmentsInfo i).segmentId ≠ 0

/-- The buffer `j` of the segment `i`. -/
def bufferAt (s : Site) (i j : ℕ) : LocalBuffer := (s.localSegmentsInfo i).buffers j

/-- The buffer is marked as in use. -/
def InUse (s : Site) (i j : ℕ) : Prop := s.Created i ∧ (s.bufferAt i j).size ≠ 0

/-- The count of a segment is not kept. -/
def Uncounted (s : Site) : Prop := ∀ i, s.Created i → (s.localSegmentsInfo i).bufcount = 0

/-- The table after more segments have been created. -/
structure Grown (s t : Site) : Prop where
  env : t.env = s.env
  old : ∀ i, s.Created i → t.localSegmentsInfo i = s.localSegmentsInfo i
  fresh : ∀ i, ¬ s.Created i → t.Created i →
    (t.localSegmentsInfo i).bufcount = 0 ∧ ∀ j, (t.bufferAt i j).size = 0

namespace Grown

lemma created (h : Grown s t) (hi : s.Created i) : t.Created i := by
  rw [Created, h.old i hi]
  exact hi

lemma refl (s : Site) : Grown s s := ⟨rfl, fun _ _ => rfl, fun _ hi hi' => absurd hi' hi⟩

lemma trans {u : Site} (h : Grown s t) (h' : Grown t u) : Grown s u where
  env := h'.env.trans h.env
  old := fun i hi => (h'.old i (h.created hi)).trans (h.old i hi)
  fresh := by
    intro i hi hu
    by_cases ht : t.Created i
    · obtain ⟨hcount, hsize⟩ := h.fresh i hi ht
      have hold := h'.old i ht
      exact ⟨by rw [hold, hcount], fun j => by rw [bufferAt, hold]; exact hsize j⟩
    · exact h'.fresh i ht hu

lemma bufferAt_eq (h : Grown s t) (hi : s.Created i) (j : ℕ) : t.bufferAt i j = s.bufferAt i j := by
  rw [bufferAt, bufferAt, h.old i hi]

lemma inUse_iff (h : Grown s t) : t.InUse i j ↔ s.InUse i j := by
  constructor
  · rintro ⟨hi, hsize⟩
    by_cases hs : s.Created i
    · rw [h.bufferAt_eq hs] at hsize
      exact ⟨hs, hsize⟩
    · exact absurd ((h.fresh i hs hi).2 j) hsize
  · rintro ⟨hi, hsize⟩
    exact ⟨h.created hi, by rwa [h.bufferAt_eq hi]⟩

lemma uncounted (h : Grown s t) (hs : s.Uncounted) : t.Uncounted := by
  intro i hi
  by_cases hcreated : s.Created i
  · rw [h.old i hcreated]
    exact hs i hcreated
  · exact (h.fresh i hcreated hi).1

end Grown

/-- The table grows, and the endpoint stays. -/
def growing : Frame Site where
  rel := fun s t => Grown s t ∧ t.host.ep = s.host.ep
  refl := fun s => ⟨.refl s, rfl⟩
  trans := fun _ _ _ h h' => ⟨h.1.trans h'.1, h'.2.trans h.2⟩

/-! ### The search for a buffer -/

/-- Only one entry of the table changes, and not in its buffers. -/
def entry (i : ℕ) : Frame Site where
  rel := fun s t => t.env = s.env ∧ t.host.ep = s.host.ep
    ∧ (∀ k ≠ i, t.localSegmentsInfo k = s.localSegmentsInfo k)
  refl := fun _ => ⟨rfl, rfl, fun _ _ => rfl⟩
  trans := fun _ _ _ h h' => ⟨h'.1.trans h.1, h'.2.1.trans h.2.1,
    fun k hk => (h'.2.2 k hk).trans (h.2.2 k hk)⟩

lemma entry_setSegment (f : LocalSegment → LocalSegment) : Keeps (entry i) (setSegment i f) :=
  keeps_modify fun _ => ⟨rfl, rfl, fun _ hk => Function.update_of_ne hk ..⟩

lemma entry_library : Ignores (entry i) .library := fun _ _ => ⟨rfl, rfl, fun _ _ => rfl⟩

lemma entry_memory : Ignores (entry i) .memory := fun _ _ => ⟨rfl, rfl, fun _ _ => rfl⟩

lemma entry_dpaAllocSegment (segmentId : UInt32) (size : UInt64) :
    Keeps (entry i) (dpaAllocSegment i segmentId size) := by
  refine keeps_bind (entry_setSegment _) fun _ => ?_
  refine keeps_bind (keeps_lib entry_library _ rfl) fun r => keeps_ite (keeps_pure _) ?_
  refine keeps_bind (entry_setSegment _) fun _ => ?_
  refine keeps_bind (keeps_lib entry_library _ rfl) fun r => keeps_ite (keeps_pure _) ?_
  refine keeps_bind (entry_setSegment _) fun _ => ?_
  refine keeps_bind (keeps_lib entry_library _ rfl) fun r => keeps_ite (keeps_pure _) ?_
  refine keeps_bind (keeps_lib entry_library _ rfl) fun r => keeps_ite (keeps_pure _) ?_
  refine keeps_bind (entry_setSegment _) fun _ => keeps_bind keeps_get fun s => ?_
  refine keeps_bind (keeps_modify fun u =>
    entry_memory u (_, ⟨_, [], nofun, (List.append_nil _).symm⟩)) fun _ => ?_
  exact keeps_bind (keeps_lib entry_library _ rfl) fun _ => keeps_pure _

lemma entry_createDataSegment : Keeps (entry i) (createDataSegment i) := by
  refine keeps_bind keeps_get fun s => keeps_bind (entry_dpaAllocSegment _ _) fun err => ?_
  refine keeps_ite ?_ (keeps_bind (entry_setSegment _) fun _ =>
    keeps_modify fun _ => ⟨rfl, rfl, fun _ _ => rfl⟩)
  refine keeps_bind keeps_get fun s => ?_
  refine keeps_bind (keeps_dpaDestroySegment entry_library _) fun _ => ?_
  exact entry_setSegment _

/-- A segment is created, or stays to be created. -/
lemma createDataSegment_growing (hi : ¬ s.Created i) {a : Unit}
    (hrun : createDataSegment i s = .ok (a, s')) : growing.rel s s' := by
  obtain ⟨henv, hep, hother⟩ := entry_createDataSegment s a s' hrun
  have hfresh : s'.Created i →
      (s'.localSegmentsInfo i).bufcount = 0 ∧ ∀ j, (s'.bufferAt i j).size = 0 := by
    rw [createDataSegment, get_bind] at hrun
    obtain ⟨err, s₁, halloc, hrun⟩ := run_bind_ok hrun
    rw [ite_run] at hrun
    split at hrun
    case isTrue =>
        rw [get_bind] at hrun
        obtain ⟨_, s₂, -, hrun⟩ := run_bind_ok hrun
        obtain ⟨-, rfl⟩ := Prod.mk.inj (Except.ok.inj hrun)
        intro hcreated
        simp [Created] at hcreated
    case isFalse =>
        obtain ⟨_, s₂, hset, hrun⟩ := run_bind_ok hrun
        obtain ⟨-, rfl⟩ := Prod.mk.inj (Except.ok.inj hset)
        obtain ⟨-, rfl⟩ := Prod.mk.inj (Except.ok.inj hrun)
        simp [bufferAt]
  refine ⟨⟨henv, fun k hk => hother k ?_, fun k hk hk' => ?_⟩, hep⟩
  · rintro rfl
    exact hi hk
  · rcases eq_or_ne k i with rfl | hne
    · exact hfresh hk'
    · rw [Created, hother k hne] at hk'
      exact absurd hk' hk

lemma createUntil_growing {fuel : ℕ} {a : Unit} (hrun : createUntil i fuel s = .ok (a, s')) :
    growing.rel s s' ∧ s'.Created i := by
  induction fuel generalizing s with
  | zero => exact absurd hrun throw_ne_ok
  | succ fuel ih =>
      rw [createUntil, get_bind, ite_run] at hrun
      split at hrun
      case isTrue hi =>
          obtain ⟨_, s₁, hcreate, hrun⟩ := run_bind_ok hrun
          obtain ⟨hgrowing, hcreated⟩ := ih hrun
          have hfirst := createDataSegment_growing (not_not.2 hi) hcreate
          exact ⟨growing.trans _ _ _ hfirst hgrowing, hcreated⟩
      case isFalse hi =>
          obtain ⟨-, rfl⟩ := Prod.mk.inj (Except.ok.inj hrun)
          exact ⟨growing.refl s, hi⟩

/-- What a search from the segment `i` on finds is free; it finds nothing only if nothing is. -/
lemma searchSegments_cases {remaining : ℕ} {found : Option (ℕ × ℕ)}
    (hrun : searchSegments remaining i s = .ok (found, s')) : growing.rel s s'
      ∧ (∀ k j, found = some (k, j) → i ≤ k ∧ k < i + remaining ∧ j < s.numBuffers
        ∧ s'.Created k ∧ (s'.bufferAt k j).size = 0)
      ∧ (found = none → s'.Uncounted → ∀ k, i ≤ k → k < i + remaining → ∀ j < s.numBuffers,
        s'.InUse k j) := by
  induction remaining generalizing s i with
  | zero =>
      obtain ⟨rfl, rfl⟩ := Prod.mk.inj (Except.ok.inj hrun)
      exact ⟨growing.refl s, nofun, fun _ _ k hle hlt => by omega⟩
  | succ remaining ih =>
      rw [searchSegments, get_bind] at hrun
      obtain ⟨_, s₁, hcreate, hrun⟩ := run_bind_ok hrun
      obtain ⟨hgrowing₁, hcreated⟩ := createUntil_growing hcreate
      have hbound : s₁.env.buffersPerSegment.toNat = s.numBuffers := by
        rw [hgrowing₁.1.env, numBuffers]
      rw [get_bind] at hrun
      simp only [hbound, ite_run] at hrun
      -- the search goes on behind a segment all of whose buffers are in use
      have hrest (hfull : (s₁.localSegmentsInfo i).bufcount = 0 →
            ∀ j < s.numBuffers, (s₁.bufferAt i j).size ≠ 0)
          (hrun : searchSegments remaining (i + 1) s₁ = .ok (found, s')) :
          growing.rel s s' ∧ (∀ k j, found = some (k, j) → i ≤ k ∧ k < i + (remaining + 1)
              ∧ j < s.numBuffers ∧ s'.Created k ∧ (s'.bufferAt k j).size = 0)
            ∧ (found = none → s'.Uncounted → ∀ k, i ≤ k → k < i + (remaining + 1) →
              ∀ j < s.numBuffers, s'.InUse k j) := by
        obtain ⟨hgrowing₂, hsome, hnone⟩ := ih hrun
        rw [show s₁.numBuffers = s.numBuffers from hbound] at hsome hnone
        refine ⟨growing.trans _ _ _ hgrowing₁ hgrowing₂, fun k j hfound => ?_, ?_⟩
        · obtain ⟨hle, hlt, h⟩ := hsome k j hfound
          exact ⟨by omega, by omega, h⟩
        · intro hfound huncounted k hle hlt j hj
          rcases eq_or_ne k i with rfl | hne
          · have hcount := huncounted k (hgrowing₂.1.created hcreated)
            rw [hgrowing₂.1.old k hcreated] at hcount
            exact hgrowing₂.1.inUse_iff.2 ⟨hcreated, hfull hcount j hj⟩
          · exact hnone hfound huncounted k (by omega) (by omega) j hj
      split at hrun
      case isTrue =>
          generalize hfind : (List.range s.numBuffers).find? _ = free at hrun
          cases free with
          | some j =>
              obtain ⟨rfl, rfl⟩ := Prod.mk.inj (Except.ok.inj hrun)
              refine ⟨hgrowing₁, fun k j' hfound => ?_, nofun⟩
              obtain ⟨rfl, rfl⟩ := Prod.mk.inj (Option.some.inj hfound)
              have hj := List.mem_range.1 (List.mem_of_find?_eq_some hfind)
              have hsize := List.find?_some hfind
              exact ⟨le_rfl, by omega, hj, hcreated, by simpa [bufferAt] using hsize⟩
          | none =>
              refine hrest (fun _ j hj => ?_) hrun
              have hsize := List.find?_eq_none.1 hfind j (List.mem_range.2 hj)
              simpa [bufferAt] using hsize
      case isFalse hcount =>
          refine hrest (fun hzero j hj => ?_) hrun
          rw [hzero] at hcount
          omega

/-- The library grants every call from now on. -/
def Granting (s : Site) : Prop := ∀ n, s.dpa.calls.length ≤ n → (s.dpa.replies n).err = .ok

lemma Granting.reply (h : s.Granting) : s.dpa.reply.err = .ok := h _ le_rfl

lemma Granting.call (h : s.Granting) {c : DpaCall} {t : Site} (ht : t.dpa = s.dpa.call c) :
    t.Granting := by
  intro n hn
  rw [ht, Dpa.length_call] at hn
  rw [ht]
  exact h n (by omega)

lemma dpaAllocSegment_granted (h : s.Granting) (i : ℕ) (segmentId : UInt32) (size : UInt64) :
    ∃ s', dpaAllocSegment i segmentId size s = .ok (.ok, s') ∧ s'.Granting ∧ s'.fuel = s.fuel
      ∧ (s'.localSegmentsInfo i).segmentId = segmentId
      ∧ s'.currentSegmentId = s.currentSegmentId := by
  have hreply : ∀ n, (s.dpa.replies (s.dpa.calls.length + n)).err = .ok := fun n => h _ (by omega)
  have h₀ : (s.dpa.replies s.dpa.calls.length).err = .ok := hreply 0
  simp only [dpaAllocSegment, setSegment, modify_bind, lib_bind, setHost_bind, get_bind, Dpa.reply,
    Dpa.replies_call, Dpa.length_call, Nat.add_assoc, h₀, hreply, ne_eq, not_true_eq_false,
    if_false]
  refine ⟨_, rfl, fun n hn => ?_, rfl, ?_, rfl⟩
  · simp only [Dpa.length_call] at hn
    exact h n (by omega)
  · simp

/-- A segment is created with the current number. -/
lemma createDataSegment_granted (h : s.Granting) (i : ℕ) :
    ∃ s', createDataSegment i s = .ok ((), s') ∧ s'.Granting ∧ s'.fuel = s.fuel
      ∧ (s'.localSegmentsInfo i).segmentId = s.currentSegmentId
      ∧ s'.currentSegmentId = s.currentSegmentId + 1 := by
  obtain ⟨s₁, halloc, hgranting, hfuel, hid, hcurrent⟩ := dpaAllocSegment_granted h i
    s.currentSegmentId (s.env.alignedBufferSize * s.env.buffersPerSegment)
  rw [createDataSegment, get_bind, run_bind halloc, if_neg (not_not.2 rfl), setSegment, modify_bind]
  refine ⟨_, rfl, hgranting, hfuel, ?_, ?_⟩
  · simp [hid]
  · simp [hcurrent]

/-- Only the number 0 is not taken for a segment, and it is passed over. -/
lemma createUntil_granted (h : s.Granting) (i : ℕ) {fuel : ℕ} (hfuel : 3 ≤ fuel) :
    ∃ s', createUntil i fuel s = .ok ((), s') ∧ s'.Granting ∧ s'.fuel = s.fuel := by
  obtain ⟨fuel, rfl⟩ : ∃ n, fuel = n + 3 := ⟨fuel - 3, by omega⟩
  rw [createUntil, get_bind, ite_run]
  split
  case isFalse => exact ⟨s, rfl, h, rfl⟩
  case isTrue =>
      obtain ⟨s₁, hcreate₁, hgranting₁, hfuel₁, hid₁, hcurrent₁⟩ := createDataSegment_granted h i
      rw [run_bind hcreate₁, createUntil, get_bind, ite_run]
      split
      case isFalse => exact ⟨s₁, rfl, hgranting₁, hfuel₁⟩
      case isTrue hzero =>
          obtain ⟨s₂, hcreate₂, hgranting₂, hfuel₂, hid₂, -⟩ :=
            createDataSegment_granted hgranting₁ i
          have hone : (s₂.localSegmentsInfo i).segmentId ≠ 0 := by
            rw [hid₂, hcurrent₁, ← hid₁, hzero]
            decide
          rw [run_bind hcreate₂, createUntil, get_bind, if_neg hone]
          exact ⟨s₂, rfl, hgranting₂, hfuel₂.trans hfuel₁⟩

lemma searchSegments_granted (h : s.Granting) (hfuel : 3 ≤ s.fuel) (remaining i : ℕ) :
    ∃ found s', searchSegments remaining i s = .ok (found, s') := by
  induction remaining generalizing s i with
  | zero => exact ⟨none, s, rfl⟩
  | succ remaining ih =>
      obtain ⟨s₁, hcreate, hgranting, hfuel₁⟩ := createUntil_granted h i hfuel
      obtain ⟨found, s', hrest⟩ := ih hgranting (by omega) (i + 1)
      rw [searchSegments, get_bind, run_bind hcreate, get_bind, ite_run]
      split
      case isFalse => exact ⟨found, s', hrest⟩
      case isTrue =>
          generalize (List.range s₁.env.buffersPerSegment.toNat).find? _ = free
          cases free with
          | none => exact ⟨found, s', hrest⟩
          | some j => exact ⟨_, _, rfl⟩

/-! ### Reserving a buffer -/

/-- The table, and the buffer of the endpoint. -/
def tables : Frame Site :=
  .same fun s => (s.localSegmentsInfo, s.env, s.host.ep.recvInfo.buffer)

lemma ignores_tables {part : Part} (htable : part ≠ .table) (hbuffer : part ≠ .buffer) :
    Ignores tables part := by
  intro s x
  cases part with
  | table => exact absurd rfl htable
  | buffer => exact absurd rfl hbuffer
  | handles => exact congrArg (s.localSegmentsInfo, s.env, ·) x.2
  | _ => rfl

/-- The table has grown at most, and the endpoint has the buffer it had. -/
structure Idle (s t : Site) : Prop where
  grown : Grown s t
  buffer : t.host.ep.recvInfo.buffer = s.host.ep.recvInfo.buffer

lemma Idle.of_tables (h : tables.rel s t) : Idle s t := by
  simp only [tables, Frame.same, Prod.mk.injEq] at h
  obtain ⟨htable, henv, hbuffer⟩ := h
  refine ⟨⟨henv, fun i _ => congrFun htable i, fun i hi hi' => ?_⟩, hbuffer⟩
  rw [Created, htable] at hi'
  exact absurd hi' hi

lemma Idle.trans {u : Site} (h : Idle s t) (h' : Idle t u) : Idle s u :=
  ⟨h.grown.trans h'.grown, h'.buffer.trans h.buffer⟩

/-- A free buffer is marked, and is now that of the endpoint. -/
structure Reserves (s t : Site) (i j : ℕ) : Prop where
  env : t.env = s.env
  segment_lt : i < s.numSegments
  buffer_lt : j < s.numBuffers
  free : ¬ s.InUse i j
  created : t.Created i
  size : (t.bufferAt i j).size = s.env.alignedBufferSize
  others : ∀ k l, (k, l) ≠ (i, j) → (t.InUse k l ↔ s.InUse k l)
  kept : ∀ k l, s.InUse k l → t.bufferAt k l = s.bufferAt k l
  uncounted : s.Uncounted → t.Uncounted
  owner : t.host.ep.recvInfo.buffer = some (t.bufferAt i j)

lemma Reserves.inUse (h : Reserves s t i j) (haligned : s.env.alignedBufferSize ≠ 0) :
    t.InUse i j := ⟨h.created, by rwa [h.size]⟩

/-- One more step before or after leaves it a reservation. -/
lemma Reserves.of_idle {u : Site} (h : Idle s t) (h' : Reserves t u i j) : Reserves s u i j where
  env := h'.env.trans h.grown.env
  segment_lt := by
    have hlt := h'.segment_lt
    rwa [numSegments, h.grown.env] at hlt
  buffer_lt := by
    have hlt := h'.buffer_lt
    rwa [numBuffers, h.grown.env] at hlt
  free := fun hs => h'.free (h.grown.inUse_iff.2 hs)
  created := h'.created
  size := by rw [h'.size, h.grown.env]
  others := fun k l hne => (h'.others k l hne).trans h.grown.inUse_iff
  kept := fun k l hs =>
    (h'.kept k l (h.grown.inUse_iff.2 hs)).trans (h.grown.bufferAt_eq hs.1 l)
  uncounted := fun hs => h'.uncounted (h.grown.uncounted hs)
  owner := h'.owner

lemma Reserves.idle {u : Site} (h : Reserves s t i j) (h' : tables.rel t u) : Reserves s u i j := by
  have hidle := Idle.of_tables h'
  have hbufferAt := fun k (hk : t.Created k) l => hidle.grown.bufferAt_eq hk l
  constructor
  case env => exact hidle.grown.env.trans h.env
  case segment_lt => exact h.segment_lt
  case buffer_lt => exact h.buffer_lt
  case free => exact h.free
  case created => exact hidle.grown.created h.created
  case size => rw [hbufferAt i h.created, h.size]
  case others => exact fun k l hne => hidle.grown.inUse_iff.trans (h.others k l hne)
  case kept =>
      intro k l hs
      have hcreated : t.Created k := by
        by_cases heq : (k, l) = (i, j)
        · exact absurd ((Prod.mk.inj heq).1 ▸ (Prod.mk.inj heq).2 ▸ hs) h.free
        · exact ((h.others k l heq).2 hs).1
      rw [hbufferAt k hcreated, h.kept k l hs]
  case uncounted => exact fun hs => hidle.grown.uncounted (h.uncounted hs)
  case owner => rw [hidle.buffer, h.owner, hbufferAt i h.created]

/-- The end of `alloc_msg_buffer`. -/
lemma reserveBuffer_reserves {data data' : SegmentData} (hi : i < s.numSegments)
    (hj : j < s.numBuffers) (hcreated : s.Created i) (hfree : (s.bufferAt i j).size = 0)
    (hrun : reserveBuffer i j data s = .ok (data', s')) : Reserves s s' i j := by
  simp only [reserveBuffer, get_bind, setSegment, modify_bind, setHost_bind, setRecvInfo_bind,
    setSendInfo_bind] at hrun
  obtain ⟨-, hs'⟩ := Prod.mk.inj (Except.ok.inj hrun)
  have htable : s'.localSegmentsInfo = Function.update s.localSegmentsInfo i
      { s.localSegmentsInfo i with
        buffers := Function.update (s.localSegmentsInfo i).buffers j
          { s.bufferAt i j with size := s.env.alignedBufferSize } } := by
    rw [← hs']
    rfl
  have hcreated_iff : ∀ k, s'.Created k ↔ s.Created k := by
    intro k
    rcases eq_or_ne k i with rfl | hne
    · simp [Created, htable]
    · simp [Created, htable, hne]
  have hbuffer : s'.bufferAt i j = { s.bufferAt i j with size := s.env.alignedBufferSize } := by
    simp [bufferAt, htable]
  have hother : ∀ k l, (k, l) ≠ (i, j) → s'.bufferAt k l = s.bufferAt k l := by
    intro k l hne
    rcases eq_or_ne k i with rfl | hk
    · have hl : l ≠ j := by
        rintro rfl
        exact hne rfl
      simp [bufferAt, htable, hl]
    · simp [bufferAt, htable, hk]
  constructor
  case env => rw [← hs']
  case segment_lt => exact hi
  case buffer_lt => exact hj
  case free => exact fun h => h.2 hfree
  case created => exact (hcreated_iff i).2 hcreated
  case size => rw [hbuffer]
  case others =>
      intro k l hne
      rw [InUse, InUse, hcreated_iff, hother k l hne]
  case kept =>
      intro k l hs
      refine hother k l fun heq => hs.2 ?_
      rw [(Prod.mk.inj heq).1, (Prod.mk.inj heq).2, hfree]
  case uncounted =>
      intro hs k hk
      rcases eq_or_ne k i with rfl | hne
      · rw [htable, Function.update_self]
        exact hs k hcreated
      · rw [htable, Function.update_of_ne hne]
        exact hs k ((hcreated_iff k).1 hk)
  case owner =>
      rw [hbuffer, ← hs']
      rfl

lemma tables_allocRecv (data : SegmentData) : Keeps tables (allocRecv data) :=
  keeps_allocRecv (ignores_tables nofun nofun) (ignores_tables nofun nofun) data

lemma tables_allocSend (data : SegmentData) : Keeps tables (allocSend data) :=
  keeps_allocSend (ignores_tables nofun nofun) (ignores_tables nofun nofun) data

/-- The search leaves the endpoint alone, and what it finds is free. -/
lemma getEmptyBuffer_cases {found : Option (ℕ × ℕ)} (hrun : getEmptyBuffer s = .ok (found, s')) :
    Idle s s' ∧ ∀ i j, found = some (i, j) →
      i < s.numSegments ∧ j < s.numBuffers ∧ s'.Created i ∧ (s'.bufferAt i j).size = 0 := by
  rw [getEmptyBuffer, get_bind] at hrun
  obtain ⟨hgrowing, hsome, -⟩ := searchSegments_cases hrun
  refine ⟨⟨hgrowing.1, by rw [hgrowing.2]⟩, fun i j hfound => ?_⟩
  obtain ⟨-, hi, h⟩ := hsome i j hfound
  rw [Nat.zero_add] at hi
  exact ⟨hi, h⟩

/-- What `alloc_msg_buffer` writes down of a buffer. -/
structure Told (t : Site) (i j : ℕ) (data : SegmentData) : Prop where
  segmentId : data.segmentId = (t.localSegmentsInfo i).segmentId
  offset : data.offset = (t.bufferAt i j).base.offset
  size : data.size = (t.bufferAt i j).size

lemma reserveBuffer_told {data data' : SegmentData}
    (hrun : reserveBuffer i j data s = .ok (data', t)) : Told t i j data' := by
  simp only [reserveBuffer, get_bind, setSegment, modify_bind, setHost_bind, setRecvInfo_bind,
    setSendInfo_bind] at hrun
  obtain ⟨rfl, rfl⟩ := Prod.mk.inj (Except.ok.inj hrun)
  constructor <;> simp [bufferAt]

/-- A call that fails, or that is for an endpoint without messages, reserves nothing. -/
lemma AllocRun.idle {data data' : SegmentData} {err : DpaError}
    (hrun : AllocRun data s err data' s')
    (h : err = .ok → hasAny s.host.ep.caps (fiRecv ||| fiSend) = false) : Idle s s' := by
  cases hrun with
  | plain => exact ⟨.refl s, rfl⟩
  | noBuffer _ hfind => exact (getEmptyBuffer_cases hfind).1
  | recvFails _ hfind hrecv =>
      exact (getEmptyBuffer_cases hfind).1.trans (.of_tables (tables_allocRecv _ _ _ _ hrecv))
  | sendFails _ hfind hrecv hsend =>
      have htables := tables.trans _ _ _ (tables_allocRecv _ _ _ _ hrecv)
        (tables_allocSend _ _ _ _ hsend)
      exact (getEmptyBuffer_cases hfind).1.trans (.of_tables htables)
  | reserved hcarries => exact absurd ((h rfl).symm.trans hcarries) nofun

/-- Another one reserves a free buffer, and tells of it. -/
lemma AllocRun.reserves {data data' : SegmentData} (hrun : AllocRun data s .ok data' s')
    (hcarries : hasAny s.host.ep.caps (fiRecv ||| fiSend) = true) :
    ∃ i j, Reserves s s' i j ∧ Told s' i j data' := by
  cases hrun with
  | plain hno => exact absurd (hno.symm.trans hcarries) nofun
  | recvFails _ _ _ herr | sendFails _ _ _ _ herr => exact absurd rfl herr
  | reserved _ hfind hrecv hsend hreserve =>
      obtain ⟨hidle₁, hsome⟩ := getEmptyBuffer_cases hfind
      obtain ⟨hi, hj, hcreated, hfree⟩ := hsome _ _ rfl
      have hidle₃ : Idle _ _ := .of_tables (tables.trans _ _ _ (tables_allocRecv _ _ _ _ hrecv)
        (tables_allocSend _ _ _ _ hsend))
      have hidle := hidle₁.trans hidle₃
      refine ⟨_, _, (reserveBuffer_reserves ?_ ?_ (hidle₃.grown.created hcreated) ?_
        hreserve).of_idle hidle, reserveBuffer_told hreserve⟩
      · rwa [numSegments, hidle.grown.env]
      · rwa [numBuffers, hidle.grown.env]
      · rw [hidle₃.grown.bufferAt_eq hcreated, hfree]

/-- `alloc_msg_buffer` reserves a free buffer, or none. -/
lemma AllocRun.cases {data data' : SegmentData} {err : DpaError}
    (hrun : AllocRun data s err data' s') : Idle s s' ∨ ∃ i j, Reserves s s' i j := by
  by_cases hok : err = .ok ∧ hasAny s.host.ep.caps (fiRecv ||| fiSend) = true
  · obtain ⟨rfl, hcarries⟩ := hok
    obtain ⟨i, j, hreserves, -⟩ := hrun.reserves hcarries
    exact .inr ⟨i, j, hreserves⟩
  · exact .inl (hrun.idle fun herr => Bool.eq_false_iff.2 fun hcarries => hok ⟨herr, hcarries⟩)

/-- What the calls of an endpoint do to the table, where at most one buffer is reserved. -/
def Moves (s s' : Site) : Prop := Idle s s' ∨ ∃ i j, Reserves s s' i j

lemma Moves.of_tables {u v : Site} (h : tables.rel s t) (h' : Moves t u) (h'' : tables.rel u v) :
    Moves s v := by
  rcases h' with hidle | ⟨i, j, hreserves⟩
  · exact .inl ((Idle.of_tables h).trans (hidle.trans (.of_tables h'')))
  · exact .inr ⟨i, j, (hreserves.of_idle (.of_tables h)).idle h''⟩

lemma dpaConnect_moves {r : FiErr} (hrun : dpaConnect s = .ok (r, s')) : Idle s s' :=
  .of_tables (keeps_dpaConnect (ignores_tables nofun nofun) (ignores_tables nofun nofun)
    (ignores_tables nofun nofun) (ignores_tables nofun nofun) (ignores_tables nofun nofun)
    _ _ _ hrun)

lemma dpaShutdown_moves {r : FiErr} (hrun : dpaShutdown s = .ok (r, s')) : Idle s s' :=
  .of_tables (keeps_dpaShutdown (ignores_tables nofun nofun) (ignores_tables nofun nofun)
    _ _ _ hrun)

lemma progressPepEq_moves {timeout r : ℤ} (hrun : progressPepEq timeout s = .ok (r, s')) :
    Idle s s' :=
  .of_tables (keeps_progressPepEq (ignores_tables nofun nofun) (ignores_tables nofun nofun)
    _ _ _ _ hrun)

lemma allocSendBuffer_moves {data : SegmentData} {r : DpaError × SegmentData}
    (hrun : allocSendBuffer data s = .ok (r, s')) : Moves s s' := by
  obtain ⟨⟨err, data₁⟩, s₁, halloc, hrun⟩ := run_bind_ok hrun
  have hsend : tables.rel s₁ s' := by
    have hkeeps : Keeps tables (if err ≠ .ok then pure (err, data₁) else
        sendConnectData data₁ >>= fun err => pure (err, data₁)) :=
      keeps_ite (keeps_pure _) (keeps_bind (keeps_sendConnectData (ignores_tables nofun nofun)
        (ignores_tables nofun nofun) _) fun _ => keeps_pure _)
    exact hkeeps s₁ r s' hrun
  exact .of_tables (tables.refl s) (allocMsgBuffer_run halloc).cases hsend

lemma dpaAccept_moves {r : FiErr} (hrun : dpaAccept s = .ok (r, s')) : Moves s s' := by
  obtain ⟨err, s₁, haccept, hrun⟩ := run_bind_ok hrun
  have hrest : tables.rel s₁ s' := by
    refine (keeps_ite (keeps_pure _) (keeps_bind keeps_get fun u => ?_) : Keeps tables _)
      s₁ r s' hrun
    dsimp only
    split
    · exact keeps_throw _
    · exact keeps_bind (keeps_setProgress (ignores_tables nofun nofun) _ _) fun _ => keeps_pure _
  rw [sendMsgAcceptData, get_bind] at haccept
  obtain ⟨err₂, s₂, hcreate, haccept⟩ := run_bind_ok haccept
  have hcreated : tables.rel s s₂ := keeps_createConnectInterrupt (ignores_tables nofun nofun)
    (ignores_tables nofun nofun) (ignores_tables nofun nofun) _ _ _ _ hcreate
  rw [ite_run] at haccept
  split at haccept
  case isTrue =>
      obtain ⟨-, rfl⟩ := Prod.mk.inj (Except.ok.inj haccept)
      exact .of_tables hcreated (.inl ⟨.refl _, rfl⟩) hrest
  case isFalse =>
      obtain ⟨r₃, s₃, halloc, haccept⟩ := run_bind_ok haccept
      obtain ⟨-, rfl⟩ := Prod.mk.inj (Except.ok.inj haccept)
      exact .of_tables hcreated (allocSendBuffer_moves halloc) hrest

/-- The end of a handshake reserves a buffer only for an endpoint that has none. -/
lemma finishConnection_moves {data : SegmentData} {timeout r : ℤ}
    (hrun : finishConnection data timeout s = .ok (r, s')) :
    Moves s s' ∧ (s.host.ep.recvInfo.buffer ≠ none → Idle s s') := by
  obtain ⟨data', s₁, hprepares, hrest⟩ := run_finishConnection_ok hrun
  have hend := keeps_connectOrDisconnect (F := tables) (ignores_tables nofun nofun)
    (ignores_tables nofun nofun) (ignores_tables nofun nofun) (ignores_tables nofun nofun) data'
    timeout _ _ _ hrest
  replace hend : tables.rel s₁ s' := hend
  have hstart : tables.rel s (Part.apply s .address data.acceptIntId) := rfl
  rcases hprepares with ⟨hnone, err, hsend⟩ | ⟨-, -, rfl⟩
  · exact ⟨.of_tables hstart (allocSendBuffer_moves hsend) hend, fun hsome => absurd hnone hsome⟩
  · have hidle : Idle s s' := .of_tables (tables.trans _ _ _ hstart hend)
    exact ⟨.inl hidle, fun _ => hidle⟩

lemma progressEpEq_moves {timeout r : ℤ} (hrun : progressEpEq timeout s = .ok (r, s')) :
    Moves s s' ∧ (s.host.ep.recvInfo.buffer ≠ none → Idle s s') := by
  rw [progressEpEq, get_bind] at hrun
  obtain ⟨⟨err, data⟩, s₁, hwait, hrun⟩ := run_bind_ok hrun
  have hwaited : tables.rel s s₁ := keeps_progressEq (ignores_tables nofun nofun) _ _ _ _ _ hwait
  simp only [ite_run] at hrun
  split at hrun
  case isTrue =>
      obtain ⟨-, rfl⟩ := Prod.mk.inj (Except.ok.inj hrun)
      exact ⟨.inl (.of_tables hwaited), fun _ => .of_tables hwaited⟩
  case isFalse =>
      obtain ⟨hmoves, hidle⟩ := finishConnection_moves hrun
      refine ⟨.of_tables hwaited hmoves (tables.refl _), fun h => ?_⟩
      refine (Idle.of_tables hwaited).trans (hidle ?_)
      rwa [(Idle.of_tables hwaited).buffer]

end Site

/-! ### Owners -/

/-- A process with its live endpoints: those that have reserved a buffer, and have neither been shut
down nor closed since. -/
structure Recycling where
  process : Process
  live : Finset ℕ
  closed : Finset ℕ

namespace Recycling

open Site

variable {w w' : Recycling}

/-- The calls on an endpoint, and a read of an event queue. -/
inductive Event where
  | dpaConnect (k : ℕ)
  | dpaAccept (k : ℕ)
  | dpaShutdown (k : ℕ)
  | dpaEpClose (k : ℕ)
  | read (q : ℕ) (timeout : ℤ)

/-- The endpoint lives on, if it has a buffer now. -/
def after (w : Recycling) (k : ℕ) (p : Process) : Recycling :=
  { w with
    process := p
    live := if (p.eps k).recvInfo.buffer.isSome then insert k w.live else w.live }

/-- There are no steps of an endpoint that is closed: it was freed. -/
def step (w : Recycling) : Event → Option Recycling
  | .dpaConnect k =>
      if k ∈ w.closed then none
      else (w.process.onEp k Site.dpaConnect).toOption.map fun r => w.after k r.2
  | .dpaAccept k =>
      if k ∈ w.closed then none
      else (w.process.onEp k Site.dpaAccept).toOption.map fun r => w.after k r.2
  | .dpaShutdown k =>
      if k ∈ w.closed then none
      else (w.process.onEp k Site.dpaShutdown).toOption.map fun r =>
        { w with process := r.2, live := w.live.erase k }
  | .dpaEpClose k =>
      if k ∈ w.closed then none
      else some { w with live := w.live.erase k, closed := insert k w.closed }
  | .read q timeout =>
      match (w.process.site.eqs q).progress with
      | some (.progressEpEq k) =>
          if k ∈ w.closed then none
          else (w.process.onEp k (progressEpEq timeout)).toOption.map fun r => w.after k r.2
      | _ => (w.process.makeQueueProgress q timeout).toOption.map fun r => { w with process := r.2 }

/-- The steps: a call on an endpoint that is not closed, or a read, which does what the progress
slot of the queue says. -/
inductive Steps (w : Recycling) : Event → Recycling → Prop where
  | dpaConnect {k : ℕ} {r : FiErr} {p' : Process} (hopened : k ∉ w.closed)
      (hrun : w.process.onEp k Site.dpaConnect = .ok (r, p')) :
      Steps w (.dpaConnect k) (w.after k p')
  | dpaAccept {k : ℕ} {r : FiErr} {p' : Process} (hopened : k ∉ w.closed)
      (hrun : w.process.onEp k Site.dpaAccept = .ok (r, p')) :
      Steps w (.dpaAccept k) (w.after k p')
  | dpaShutdown {k : ℕ} {r : FiErr} {p' : Process} (hopened : k ∉ w.closed)
      (hrun : w.process.onEp k Site.dpaShutdown = .ok (r, p')) :
      Steps w (.dpaShutdown k) { w with process := p', live := w.live.erase k }
  | dpaEpClose {k : ℕ} (hopened : k ∉ w.closed) :
      Steps w (.dpaEpClose k) { w with live := w.live.erase k, closed := insert k w.closed }
  | unset {q : ℕ} {timeout : ℤ} : Steps w (.read q timeout) w
  | progressPepEq {q k : ℕ} {timeout r : ℤ} {p' : Process}
      (hrun : w.process.onPep k (Site.progressPepEq timeout) = .ok (r, p')) :
      Steps w (.read q timeout) { w with process := p' }
  | progressEpEq {q k : ℕ} {timeout r : ℤ} {p' : Process} (hopened : k ∉ w.closed)
      (hrun : w.process.onEp k (Site.progressEpEq timeout) = .ok (r, p')) :
      Steps w (.read q timeout) (w.after k p')

lemma step_cases {e : Event} (hstep : w.step e = some w') : Steps w e w' := by
  cases e with
  | dpaConnect k =>
      rw [step] at hstep
      split_ifs at hstep with hclosed
      obtain ⟨⟨r, p'⟩, hrun, rfl⟩ := Option.map_eq_some_iff.1 hstep
      exact .dpaConnect hclosed (toOption_eq_some hrun)
  | dpaAccept k =>
      rw [step] at hstep
      split_ifs at hstep with hclosed
      obtain ⟨⟨r, p'⟩, hrun, rfl⟩ := Option.map_eq_some_iff.1 hstep
      exact .dpaAccept hclosed (toOption_eq_some hrun)
  | dpaShutdown k =>
      rw [step] at hstep
      split_ifs at hstep with hclosed
      obtain ⟨⟨r, p'⟩, hrun, rfl⟩ := Option.map_eq_some_iff.1 hstep
      exact .dpaShutdown hclosed (toOption_eq_some hrun)
  | dpaEpClose k =>
      rw [step] at hstep
      split_ifs at hstep with hclosed
      obtain rfl := Option.some.inj hstep
      exact .dpaEpClose hclosed
  | read q timeout =>
      rw [step] at hstep
      cases hslot : (w.process.site.eqs q).progress with
      | none =>
          simp only [hslot, Process.makeQueueProgress] at hstep
          obtain ⟨⟨r, p'⟩, hrun, rfl⟩ := Option.map_eq_some_iff.1 hstep
          obtain ⟨-, rfl⟩ := Prod.mk.inj (Except.ok.inj (toOption_eq_some hrun))
          exact .unset
      | some u =>
          cases u with
          | progressPepEq k =>
              simp only [hslot, Process.makeQueueProgress] at hstep
              obtain ⟨⟨r, p'⟩, hrun, rfl⟩ := Option.map_eq_some_iff.1 hstep
              exact .progressPepEq (toOption_eq_some hrun)
          | progressEpEq k =>
              simp only [hslot] at hstep
              split_ifs at hstep with hclosed
              obtain ⟨⟨r, p'⟩, hrun, rfl⟩ := Option.map_eq_some_iff.1 hstep
              exact .progressEpEq hclosed (toOption_eq_some hrun)

/-- No endpoint with a buffer is shut down or closed, or reserves another. -/
def Fine (w : Recycling) : Event → Prop
  | .dpaAccept k => (w.process.eps k).recvInfo.buffer = none
  | .dpaShutdown k | .dpaEpClose k => k ∉ w.live
  | _ => True

/-- The buffers in use are those of the live endpoints, and no two of them have the same. -/
structure Recycled (w : Recycling) : Prop where
  owners : ∃ place : ℕ → ℕ × ℕ, Set.InjOn place w.live
    ∧ (∀ k ∈ w.live, k ∉ w.closed ∧ (w.process.eps k).recvInfo.buffer
        = some (w.process.site.bufferAt (place k).1 (place k).2))
    ∧ ∀ i < w.process.site.numSegments, ∀ j < w.process.site.numBuffers,
        w.process.site.InUse i j ↔ ∃ k ∈ w.live, place k = (i, j)
  finds : w.live.card < w.process.site.numSegments * w.process.site.numBuffers →
    ∀ s : Site, s.localSegmentsInfo = w.process.site.localSegmentsInfo →
      s.env = w.process.site.env →
      (∀ s', getEmptyBuffer s ≠ .ok (none, s'))
        ∧ (s.Granting → 3 ≤ s.fuel → ∃ i j s', getEmptyBuffer s = .ok (some (i, j), s'))

/-! ### The invariant -/

/-- `place` says which buffer a live endpoint owns. -/
structure Owned (place : ℕ → ℕ × ℕ) (w : Recycling) : Prop where
  aligned : w.process.site.env.alignedBufferSize ≠ 0
  uncounted : w.process.site.Uncounted
  opened : ∀ k ∈ w.live, k ∉ w.closed
  live : ∀ k, k ∉ w.closed → (w.process.eps k).recvInfo.buffer ≠ none → k ∈ w.live
  injective : Set.InjOn place w.live
  buffer : ∀ k ∈ w.live, (w.process.eps k).recvInfo.buffer
    = some (w.process.site.bufferAt (place k).1 (place k).2)
  inUse : ∀ i j, w.process.site.InUse i j ↔ ∃ k ∈ w.live, place k = (i, j)

/-- The site with an endpoint in place has the table of the process. -/
lemma grown_site {p : Process} {k : ℕ} {s' : Site} (h : Grown (p.withEp k) s') : Grown p.site s' :=
  ⟨h.env, h.old, h.fresh⟩

lemma buffer_of_idle {p p' : Process} {k : ℕ} {s' : Site}
    (heps : p'.eps = Function.update p.eps k s'.host.ep) (hidle : Idle (p.withEp k) s') (l : ℕ) :
    (p'.eps l).recvInfo.buffer = (p.eps l).recvInfo.buffer := by
  rw [heps]
  rcases eq_or_ne l k with rfl | hne
  · rw [Function.update_self]
    exact hidle.buffer
  · rw [Function.update_of_ne hne]

namespace Owned

variable {place : ℕ → ℕ × ℕ}

/-- The table grows, and every endpoint has the buffer it had. -/
lemma idle (h : Owned place w) {p' : Process} (hgrown : Grown w.process.site p'.site)
    (hbuffer : ∀ k, (p'.eps k).recvInfo.buffer = (w.process.eps k).recvInfo.buffer) :
    Owned place { w with process := p' } where
  aligned := by
    rw [hgrown.env]
    exact h.aligned
  uncounted := hgrown.uncounted h.uncounted
  opened := h.opened
  live := fun k hk hk' => h.live k hk (hbuffer k ▸ hk')
  injective := h.injective
  buffer := by
    intro k hk
    have hcreated := ((h.inUse _ _).2 ⟨k, hk, rfl⟩).1
    rw [hbuffer k, h.buffer k hk, hgrown.bufferAt_eq hcreated]
  inUse := fun i j => hgrown.inUse_iff.trans (h.inUse i j)

/-- An endpoint that has no buffer reserves one. -/
lemma reserves (h : Owned place w) {k i j : ℕ} {s' : Site} {p' : Process} (hopened : k ∉ w.closed)
    (hk : k ∉ w.live) (hreserves : Reserves (w.process.withEp k) s' i j) (hsite : p'.site = s')
    (heps : p'.eps = Function.update w.process.eps k s'.host.ep) :
    Owned (Function.update place k (i, j)) ⟨p', insert k w.live, w.closed⟩ := by
  have hplace : ∀ l ∈ w.live, Function.update place k (i, j) l = place l := fun l hl =>
    Function.update_of_ne (ne_of_mem_of_not_mem hl hk) ..
  have hinUse : ∀ l ∈ w.live, w.process.site.InUse (place l).1 (place l).2 := fun l hl =>
    (h.inUse _ _).2 ⟨l, hl, rfl⟩
  -- the buffer was free, so it is not that of another endpoint
  have hfresh : ∀ l ∈ w.live, place l ≠ (i, j) := by
    intro l hl heq
    have hl' := hinUse l hl
    rw [heq] at hl'
    exact hreserves.free hl'
  constructor <;> dsimp only
  case aligned =>
      rw [hsite, hreserves.env]
      exact h.aligned
  case uncounted =>
      rw [hsite]
      exact hreserves.uncounted h.uncounted
  case opened =>
      intro l hl
      rcases Finset.mem_insert.1 hl with rfl | hl
      · exact hopened
      · exact h.opened l hl
  case live =>
      intro l hl hbuffer
      rcases eq_or_ne l k with rfl | hne
      · exact Finset.mem_insert_self l _
      · rw [heps, Function.update_of_ne hne] at hbuffer
        exact Finset.mem_insert_of_mem (h.live l hl hbuffer)
  case injective =>
      rw [Finset.coe_insert, Set.injOn_insert hk]
      constructor
      · exact h.injective.congr fun l hl => (hplace l hl).symm
      · rw [Function.update_self]
        rintro ⟨l, hl, heq⟩
        rw [hplace l hl] at heq
        exact hfresh l hl heq
  case buffer =>
      intro l hl
      rw [heps, hsite]
      rcases eq_or_ne l k with rfl | hne
      · rw [Function.update_self, Function.update_self]
        exact hreserves.owner
      · have hlive := (Finset.mem_insert.1 hl).resolve_left hne
        rw [Function.update_of_ne hne, hplace l hlive, h.buffer l hlive,
          hreserves.kept _ _ (hinUse l hlive)]
        rfl
  case inUse =>
      intro k' j'
      rw [hsite]
      by_cases heq : (k', j') = (i, j)
      · obtain ⟨rfl, rfl⟩ := Prod.mk.inj heq
        exact iff_of_true (hreserves.inUse h.aligned)
          ⟨k, Finset.mem_insert_self k _, Function.update_self ..⟩
      · rw [hreserves.others k' j' heq]
        refine (h.inUse k' j').trans ⟨?_, ?_⟩
        · rintro ⟨l, hl, hl'⟩
          exact ⟨l, Finset.mem_insert_of_mem hl, (hplace l hl).trans hl'⟩
        · rintro ⟨l, hl, hl'⟩
          rcases Finset.mem_insert.1 hl with rfl | hl
          · exact absurd ((Function.update_self ..).symm.trans hl').symm heq
          · exact ⟨l, hl, (hplace l hl).symm.trans hl'⟩

/-- The calls of an endpoint that reserves a buffer only where it has none. -/
lemma moves (h : Owned place w) {k : ℕ} {s' : Site} {p' : Process} (hopened : k ∉ w.closed)
    (hsite : p'.site = s') (heps : p'.eps = Function.update w.process.eps k s'.host.ep)
    (hmoves : Moves (w.process.withEp k) s')
    (hidle : (w.process.eps k).recvInfo.buffer ≠ none → Idle (w.process.withEp k) s') :
    ∃ place, Owned place (w.after k p') := by
  have hstay (hidle : Idle (w.process.withEp k) s') : Owned place (w.after k p') := by
    have hbuffer := buffer_of_idle heps hidle
    have hlive : (if (p'.eps k).recvInfo.buffer.isSome then insert k w.live else w.live)
        = w.live := by
      split
      case isTrue hsome =>
          refine Finset.insert_eq_of_mem (h.live k hopened ?_)
          rw [← hbuffer k]
          exact Option.isSome_iff_ne_none.1 hsome
      case isFalse => rfl
    rw [after, hlive]
    exact h.idle (hsite ▸ grown_site hidle.grown) hbuffer
  by_cases hbuffer : (w.process.eps k).recvInfo.buffer = none
  · rcases hmoves with hidle | ⟨i, j, hreserves⟩
    · exact ⟨place, hstay hidle⟩
    · have hk : k ∉ w.live := by
        intro hk
        rw [h.buffer k hk] at hbuffer
        cases hbuffer
      have hsome : (p'.eps k).recvInfo.buffer.isSome = true := by
        rw [heps, Function.update_self, hreserves.owner]
        rfl
      rw [after, if_pos hsome]
      exact ⟨_, h.reserves hopened hk hreserves hsite heps⟩
  · exact ⟨place, hstay (hidle hbuffer)⟩

/-- Every step that meets the condition keeps the owners. -/
lemma step (h : Owned place w) {e : Event} (hfine : w.Fine e) (hstep : w.step e = some w') :
    ∃ place, Owned place w' := by
  cases step_cases hstep with
  | dpaConnect hopened hrun =>
      obtain ⟨s', hcall, rfl⟩ := Process.onEp_ok hrun
      exact h.moves hopened rfl rfl (.inl (dpaConnect_moves hcall)) fun _ => dpaConnect_moves hcall
  | dpaAccept hopened hrun =>
      obtain ⟨s', hcall, rfl⟩ := Process.onEp_ok hrun
      exact h.moves hopened rfl rfl (dpaAccept_moves hcall) fun hbuffer => absurd hfine hbuffer
  | dpaShutdown hopened hrun =>
      obtain ⟨s', hcall, rfl⟩ := Process.onEp_ok hrun
      have hidle := dpaShutdown_moves hcall
      refine ⟨place, ?_⟩
      rw [Finset.erase_eq_of_notMem hfine]
      exact h.idle (grown_site hidle.grown) (buffer_of_idle rfl hidle)
  | dpaEpClose hopened =>
      rw [Finset.erase_eq_of_notMem hfine]
      refine ⟨place, h.aligned, h.uncounted, fun l hl hl' => ?_, fun l hl => ?_, h.injective,
        h.buffer, h.inUse⟩
      · rcases Finset.mem_insert.1 hl' with rfl | hl'
        · exact hfine hl
        · exact h.opened l hl hl'
      · exact h.live l fun hl' => hl (Finset.mem_insert_of_mem hl')
  | unset => exact ⟨place, h⟩
  | progressPepEq hrun =>
      obtain ⟨s', hcall, rfl⟩ := Process.onPep_ok hrun
      have hidle := progressPepEq_moves hcall
      exact ⟨place, h.idle ⟨hidle.grown.env, hidle.grown.old, hidle.grown.fresh⟩ fun _ => rfl⟩
  | progressEpEq hopened hrun =>
      obtain ⟨s', hcall, rfl⟩ := Process.onEp_ok hrun
      obtain ⟨hmoves, hidle⟩ := progressEpEq_moves hcall
      exact h.moves hopened rfl rfl hmoves hidle

/-- The owners, and that the search finds a buffer. -/
lemma recycled (h : Owned place w) : Recycled w := by
  refine ⟨⟨place, h.injective, fun k hk => ⟨h.opened k hk, h.buffer k hk⟩,
    fun i _ j _ => h.inUse i j⟩, fun hcard s htable henv => ?_⟩
  have hnever : ∀ s', getEmptyBuffer s ≠ .ok (none, s') := by
    intro s' hrun
    rw [getEmptyBuffer, get_bind, henv] at hrun
    obtain ⟨hgrowing, -, hnone⟩ := searchSegments_cases hrun
    have huncounted : s.Uncounted := by
      intro i hi
      rw [htable]
      exact h.uncounted i (by rwa [Created, ← htable])
    have hall := hnone rfl (hgrowing.1.uncounted huncounted)
    have hsub : Finset.range w.process.site.numSegments ×ˢ
        Finset.range w.process.site.numBuffers ⊆ w.live.image place := by
      rintro ⟨i, j⟩ hmem
      obtain ⟨hi, hj⟩ := Finset.mem_product.1 hmem
      have hi' : i < 0 + w.process.site.numSegments := by simpa using Finset.mem_range.1 hi
      have hj' : j < s.numBuffers := by
        rw [numBuffers, henv]
        exact Finset.mem_range.1 hj
      have hmarked := hgrowing.1.inUse_iff.1 (hall i (Nat.zero_le i) hi' j hj')
      have hsame : w.process.site.InUse i j := by
        rwa [InUse, Created, bufferAt, ← htable]
      obtain ⟨k, hk, hplace⟩ := (h.inUse i j).1 hsame
      exact Finset.mem_image.2 ⟨k, hk, hplace⟩
    have hle := (Finset.card_le_card hsub).trans Finset.card_image_le
    rw [Finset.card_product, Finset.card_range, Finset.card_range] at hle
    omega
  refine ⟨hnever, fun hgranting hfuel => ?_⟩
  obtain ⟨found, s', hrun⟩ := searchSegments_granted hgranting hfuel
    (s.env.maxMsgSegmid - s.env.minMsgSegmid).toNat 0
  cases found with
  | none => exact absurd hrun (hnever s')
  | some found => exact ⟨found.1, found.2, s', hrun⟩

end Owned

/-- At the start no segment is created, no endpoint has a buffer, and buffers are not empty. -/
structure Start (p : Process) : Prop where
  aligned : p.site.env.alignedBufferSize ≠ 0
  uncreated : ∀ i, ¬ p.site.Created i
  buffer : ∀ k, (p.eps k).recvInfo.buffer = none

/-- The buffers are recycled along every run in which no endpoint with a buffer is shut down or
closed, or accepts once more. -/
theorem recycled_run {p : Process} (hstart : Start p) {events : List Event}
    (hfine : Stepper.Meets step Fine ⟨p, ∅, ∅⟩ events)
    (hrun : Stepper.run step ⟨p, ∅, ∅⟩ events = some w) : Recycled w := by
  have howned : ∃ place, Owned place ⟨p, ∅, ∅⟩ := by
    refine ⟨fun _ => (0, 0), hstart.aligned, fun i hi => absurd hi (hstart.uncreated i), nofun,
      fun k _ hk => absurd (hstart.buffer k) hk, by simp, nofun, fun i j => ?_⟩
    exact iff_of_false (fun h => hstart.uncreated i h.1) (by simp)
  obtain ⟨place, h⟩ := Stepper.run_induction (I := fun w => ∃ place, Owned place w)
    (fun _ _ _ h hok hs => h.choose_spec.step hok hs) howned hfine hrun
  exact h.recycled

lemma start_granted : Start .granted := ⟨by decide, fun _ h => h rfl, fun _ => rfl⟩

/-- Two endpoints accept, and each has its buffer. -/
theorem recycled_run_twoAccepts :
    ∃ w, Stepper.run step ⟨.granted, ∅, ∅⟩ [.dpaAccept 0, .dpaAccept 1] = some w
      ∧ w.live = {0, 1} ∧ Recycled w := by
  have hview : (Stepper.run step ⟨.granted, ∅, ∅⟩ [.dpaAccept 0, .dpaAccept 1]).map
      (fun w => decide (w.live = {0, 1})) = some true := by decide +kernel
  obtain ⟨w, hrun, hlive⟩ := Option.map_eq_some_iff.1 hview
  have hfine : Stepper.Meets step Fine ⟨.granted, ∅, ∅⟩ [.dpaAccept 0, .dpaAccept 1] := by
    refine ⟨rfl, fun v hv => ⟨?_, fun _ _ => trivial⟩⟩
    rw [step, if_neg (Finset.notMem_empty 0)] at hv
    obtain ⟨⟨r, p'⟩, hcall, rfl⟩ := Option.map_eq_some_iff.1 hv
    obtain ⟨s', -, rfl⟩ := Process.onEp_ok (toOption_eq_some hcall)
    rfl
  exact ⟨w, hrun, of_decide_eq_true hlive, recycled_run start_granted hfine hrun⟩

/-- The same process with one buffer. -/
def oneBuffer : Process :=
  let p := Process.granted
  { p with site.env.buffersPerSegment := 1, site.env.maxMsgSegmid := 101 }

/-- An endpoint accepts and is shut down: no endpoint is live, and no buffer is found any more. -/
theorem buffer_lost :
    ∃ w, Stepper.run step ⟨oneBuffer, ∅, ∅⟩ [.dpaAccept 0, .dpaShutdown 0] = some w
      ∧ w.live = ∅ ∧ ¬ Recycled w := by
  have hview : ((Stepper.run step ⟨oneBuffer, ∅, ∅⟩ [.dpaAccept 0, .dpaShutdown 0]).bind fun w =>
      (getEmptyBuffer w.process.site).toOption.map fun r =>
        (w.live.card, w.process.site.numSegments, w.process.site.numBuffers, r.1))
      = some (0, 1, 1, none) := by decide +kernel
  obtain ⟨w, hrun, hview⟩ := Option.bind_eq_some_iff.1 hview
  obtain ⟨⟨found, s'⟩, hsearch, hview⟩ := Option.map_eq_some_iff.1 hview
  simp only [Prod.mk.injEq] at hview
  obtain ⟨hlive, hsegments, hbuffers, rfl⟩ := hview
  refine ⟨w, hrun, Finset.card_eq_zero.1 hlive, fun h => ?_⟩
  have hcard : w.live.card < w.process.site.numSegments * w.process.site.numBuffers := by
    rw [hlive, hsegments, hbuffers]
    norm_num
  exact (h.finds hcard w.process.site rfl rfl).1 s' (toOption_eq_some hsearch)

end Recycling

end DpaProvider
