import DpaProvider.Cm.Recycling

/-!
Where the buffers lie, and which one is taken next.

* `Arranged`: the buffers of a segment lie in it one after the other; this holds after every history
  of calls (`arranged_run`);
* `nextPlace`: the segment and the offset of the buffer that `get_empty_buffer` is going to find,
  read off the table; no answer of the library makes a difference (`getEmptyBuffer_place`).
-/

namespace DpaProvider

open Effect

namespace Site

variable {s s' t : Site} {i j : ℕ} {a : Unit}

/-! ### Segments -/

/-- The buffers of a segment, one after the other. -/
def buffersOf (s : Site) (segmentId : UInt32) (j : ℕ) : LocalBuffer :=
  ⟨⟨s.env.localNodeId, segmentId, UInt64.ofNat j * s.env.alignedBufferSize⟩, 0⟩

lemma buffersOf_congr (henv : t.env = s.env) : t.buffersOf = s.buffersOf := by
  funext segmentId j
  rw [buffersOf, buffersOf, henv]

/-- The call has set the number of the segment, whatever else it has achieved. -/
lemma dpaAllocSegment_segmentId {segmentId : UInt32} {size : UInt64} {err : DpaError}
    (hrun : dpaAllocSegment i segmentId size s = .ok (err, t)) :
    (t.localSegmentsInfo i).segmentId = segmentId ∧ t.currentSegmentId = s.currentSegmentId := by
  simp only [dpaAllocSegment, setSegment, modify_bind, lib_bind, ite_run, setHost_bind,
    get_bind] at hrun
  split_ifs at hrun
  all_goals
    obtain ⟨-, rfl⟩ := Prod.mk.inj (Except.ok.inj hrun)
    simp

/-- A segment is created with the current number, or stays to be created. -/
lemma createDataSegment_cases (hrun : createDataSegment i s = .ok (a, t)) :
    ((t.localSegmentsInfo i).segmentId = 0 ∧ t.currentSegmentId = s.currentSegmentId)
      ∨ ((t.localSegmentsInfo i).segmentId = s.currentSegmentId
        ∧ (t.localSegmentsInfo i).bufcount = 0
        ∧ (t.localSegmentsInfo i).buffers = s.buffersOf s.currentSegmentId
        ∧ t.currentSegmentId = s.currentSegmentId + 1) := by
  rw [createDataSegment, get_bind] at hrun
  obtain ⟨err, s₁, halloc, hrun⟩ := run_bind_ok hrun
  obtain ⟨hid, hcurrent⟩ := dpaAllocSegment_segmentId halloc
  rw [ite_run] at hrun
  split at hrun
  case isTrue =>
      rw [get_bind] at hrun
      obtain ⟨err', s₂, hdestroy, hrun⟩ := run_bind_ok hrun
      have hkept : s₂.currentSegmentId = s₁.currentSegmentId :=
        keeps_dpaDestroySegment (F := .same fun s => s.currentSegmentId) (fun _ _ => rfl) _ _ _ _
          hdestroy
      obtain ⟨-, rfl⟩ := Prod.mk.inj (Except.ok.inj hrun)
      exact .inl ⟨by simp, hkept.trans hcurrent⟩
  case isFalse =>
      obtain ⟨_, s₂, hset, hrun⟩ := run_bind_ok hrun
      obtain ⟨-, rfl⟩ := Prod.mk.inj (Except.ok.inj hset)
      obtain ⟨-, rfl⟩ := Prod.mk.inj (Except.ok.inj hrun)
      refine .inr ⟨by simp [hid], by simp, ?_, by simp [hcurrent]⟩
      simp only [Function.update_self, hid]
      rfl

/-! ### The layout -/

/-- The buffers of every segment created lie in it one after the other. -/
def Arranged (s : Site) : Prop :=
  ∀ i, s.Created i → ∀ j,
    (s.bufferAt i j).base = (s.buffersOf (s.localSegmentsInfo i).segmentId j).base

/-- The layout is kept. -/
def arranged : Frame Site where
  rel s t := t.env = s.env ∧ (s.Arranged → t.Arranged)
  refl _ := ⟨rfl, id⟩
  trans _ _ _ h h' := ⟨h'.1.trans h.1, h'.2 ∘ h.2⟩

lemma ignores_arranged {part : Part} (h : part ≠ .table) : Ignores arranged part := by
  intro s x
  cases part with
  | table => exact absurd rfl h
  | _ => exact ⟨rfl, id⟩

lemma admits_arranged : Admits arranged where
  ignores _ htable _ _ := ignores_arranged htable
  creates i := by
    intro s a t hrun
    obtain ⟨henv, -, hother⟩ := entry_createDataSegment s a t hrun
    refine ⟨henv, fun h k hk j => ?_⟩
    rcases eq_or_ne k i with rfl | hne
    · rcases createDataSegment_cases hrun with ⟨hzero, -⟩ | ⟨hid, -, hbuffers, -⟩
      · exact absurd hzero hk
      · rw [bufferAt, hbuffers, hid, buffersOf, buffersOf, henv]
    · have hcreated : s.Created k := by rwa [Created, hother k hne] at hk
      rw [bufferAt, hother k hne, buffersOf, henv]
      exact h k hcreated j
  reserves i j data := by
    intro s data' t hrun
    simp only [reserveBuffer, get_bind, setSegment, modify_bind, setHost_bind, setRecvInfo_bind,
      setSendInfo_bind] at hrun
    obtain ⟨-, rfl⟩ := Prod.mk.inj (Except.ok.inj hrun)
    refine ⟨rfl, fun h k hk l => ?_⟩
    rcases eq_or_ne k i with rfl | hne
    · have hcreated : s.Created k := by simpa [Created] using hk
      have hbase := h k hcreated l
      rcases eq_or_ne l j with rfl | hne
      · simpa [bufferAt, buffersOf] using hbase
      · simpa [bufferAt, buffersOf, hne] using hbase
    · have hcreated : s.Created k := by simpa [Created, hne] using hk
      simpa [bufferAt, buffersOf, hne] using h k hcreated l

/-! ### The next buffer -/

/-- In a new segment all buffers are free. -/
lemma find_buffersOf {n : ℕ} (hn : 0 < n) (segmentId : UInt32) :
    (List.range n).find? (fun j => (s.buffersOf segmentId j).size = 0) = some 0 := by
  obtain ⟨n, rfl⟩ : ∃ m, n = m + 1 := ⟨n - 1, by omega⟩
  rw [List.range_succ_eq_map, List.find?_cons_of_pos]
  simp [buffersOf]

/-- The number for the next segment: the table takes the number 0 for none, so it is passed over. -/
def nextSegmentId (current : UInt32) : UInt32 := if current = 0 then 1 else current

/-- The place of the first free buffer in the segments from `i` on, where those to be created get
their numbers from `current` on. -/
def placeFrom (s : Site) : ℕ → ℕ → UInt32 → Option (UInt32 × UInt64)
  | 0, _, _ => none
  | remaining + 1, i, current =>
      let info := s.localSegmentsInfo i
      if info.segmentId = 0 then
        if 0 < s.numBuffers then some (nextSegmentId current, 0)
        else s.placeFrom remaining (i + 1) (nextSegmentId current + 1)
      else if info.bufcount < s.numBuffers then
        match (List.range s.numBuffers).find? fun j => (info.buffers j).size = 0 with
        | some j => some (info.segmentId, (info.buffers j).base.offset)
        | none => s.placeFrom remaining (i + 1) current
      else s.placeFrom remaining (i + 1) current

/-- The place of the buffer that is taken next. -/
def nextPlace (s : Site) : Option (UInt32 × UInt64) :=
  s.placeFrom s.numSegments 0 s.currentSegmentId

lemma placeFrom_congr (henv : t.env = s.env) {remaining : ℕ} {current : UInt32}
    (htable : ∀ k, i ≤ k → t.localSegmentsInfo k = s.localSegmentsInfo k) :
    t.placeFrom remaining i current = s.placeFrom remaining i current := by
  induction remaining generalizing i current with
  | zero => rfl
  | succ remaining ih =>
      have hrest (current : UInt32) :
          t.placeFrom remaining (i + 1) current = s.placeFrom remaining (i + 1) current :=
        ih fun k hk => htable k (by omega)
      simp only [placeFrom, htable i le_rfl, numBuffers, henv, hrest]
      rfl

/-- A segment is there once it is created, with the next number if it is new. -/
lemma createUntil_cases {fuel : ℕ} (hrun : createUntil i fuel s = .ok (a, t)) :
    t.env = s.env ∧ (∀ k ≠ i, t.localSegmentsInfo k = s.localSegmentsInfo k)
      ∧ (s.Created i → t = s)
      ∧ (¬ s.Created i → (t.localSegmentsInfo i).segmentId = nextSegmentId s.currentSegmentId
        ∧ (t.localSegmentsInfo i).bufcount = 0
        ∧ (t.localSegmentsInfo i).buffers = s.buffersOf (nextSegmentId s.currentSegmentId)
        ∧ t.currentSegmentId = nextSegmentId s.currentSegmentId + 1) := by
  induction fuel generalizing s with
  | zero => exact absurd hrun throw_ne_ok
  | succ fuel ih =>
      rw [createUntil, get_bind, ite_run] at hrun
      split at hrun
      case isFalse hcreated =>
          obtain ⟨-, rfl⟩ := Prod.mk.inj (Except.ok.inj hrun)
          exact ⟨rfl, fun _ _ => rfl, fun _ => rfl, fun h => absurd hcreated h⟩
      case isTrue hzero =>
          obtain ⟨_, s₁, hcreate, hrun⟩ := run_bind_ok hrun
          obtain ⟨henv₁, -, hother₁⟩ := entry_createDataSegment s _ s₁ hcreate
          obtain ⟨henv, hother, hsame, hnew⟩ := ih hrun
          refine ⟨henv.trans henv₁, fun k hk => (hother k hk).trans (hother₁ k hk),
            absurd hzero, fun _ => ?_⟩
          rw [buffersOf_congr henv₁] at hnew
          rcases createDataSegment_cases hcreate with
            ⟨hid, hcurrent⟩ | ⟨hid, hcount, hbuffers, hcurrent⟩
          · rw [hcurrent] at hnew
            exact hnew (not_not.2 hid)
          · rcases eq_or_ne s.currentSegmentId 0 with h0 | hne
            · -- the number 0 was used up, and the loop goes round once more
              have hnew := hnew (not_not.2 (hid.trans h0))
              rw [hcurrent, h0] at hnew
              rw [h0]
              exact hnew
            · have hcreated : s₁.Created i := by rwa [Created, hid]
              rw [hsame hcreated, nextSegmentId, if_neg hne]
              exact ⟨hid, hcount, hbuffers, hcurrent⟩

/-- The search finds the buffer of the place that the table tells. -/
lemma searchSegments_place {remaining k : ℕ}
    (hrun : searchSegments remaining i s = .ok (some (k, j), t)) :
    s.placeFrom remaining i s.currentSegmentId
      = some ((t.localSegmentsInfo k).segmentId, (t.bufferAt k j).base.offset) := by
  induction remaining generalizing s i with
  | zero => exact absurd (Prod.mk.inj (Except.ok.inj hrun)).1 nofun
  | succ remaining ih =>
      rw [searchSegments, get_bind] at hrun
      obtain ⟨_, s₁, hcreate, hrun⟩ := run_bind_ok hrun
      obtain ⟨henv, hother, hsame, hnew⟩ := createUntil_cases hcreate
      have hbound : s₁.env.buffersPerSegment.toNat = s.numBuffers := by rw [henv, numBuffers]
      have hlater (current : UInt32) :
          s₁.placeFrom remaining (i + 1) current = s.placeFrom remaining (i + 1) current :=
        placeFrom_congr henv fun k hk => hother k (by omega)
      rw [get_bind] at hrun
      simp only [hbound, ite_run] at hrun
      rw [placeFrom]
      by_cases hcreated : s.Created i
      case pos =>
          obtain rfl := hsame hcreated
          rw [if_neg hcreated]
          split at hrun
          case isFalse hfull => rw [if_neg hfull, ← ih hrun]
          case isTrue hroom =>
              rw [if_pos hroom]
              generalize (List.range s₁.numBuffers).find? _ = free at hrun ⊢
              cases free with
              | none => exact ih hrun
              | some l =>
                  obtain ⟨hfound, rfl⟩ := Prod.mk.inj (Except.ok.inj hrun)
                  obtain ⟨rfl, rfl⟩ := Prod.mk.inj (Option.some.inj hfound)
                  rfl
      case neg =>
          obtain ⟨hid, hcount, hbuffers, hcurrent⟩ := hnew hcreated
          rw [if_pos (not_not.1 hcreated)]
          rw [hcount, hbuffers] at hrun
          by_cases hroom : 0 < s.numBuffers
          case pos =>
              rw [if_pos hroom]
              rw [if_pos hroom, find_buffersOf hroom] at hrun
              obtain ⟨hfound, rfl⟩ := Prod.mk.inj (Except.ok.inj hrun)
              obtain ⟨rfl, rfl⟩ := Prod.mk.inj (Option.some.inj hfound)
              rw [bufferAt, hid, hbuffers]
              simp [buffersOf]
          case neg =>
              rw [if_neg hroom]
              rw [if_neg hroom] at hrun
              rw [← hlater, ← hcurrent, ih hrun]

lemma getEmptyBuffer_place {k : ℕ} (hrun : getEmptyBuffer s = .ok (some (k, j), t)) :
    s.nextPlace = some ((t.localSegmentsInfo k).segmentId, (t.bufferAt k j).base.offset) := by
  rw [getEmptyBuffer, get_bind] at hrun
  exact searchSegments_place hrun

end Site

/-! ### Histories -/

namespace Recycling

open Site

variable {w w' : Recycling}

section Calls

variable {p p' : Process} {k : ℕ} {α : Type} {m : Prog α} {a : α} (hm : Keeps arranged m)

include hm

lemma onEp_arranged (hrun : p.onEp k m = .ok (a, p')) (h : p.site.Arranged) : p'.site.Arranged := by
  obtain ⟨s, hcall, rfl⟩ := Process.onEp_ok hrun
  exact (hm _ _ _ hcall).2 h

lemma onPep_arranged (hrun : p.onPep k m = .ok (a, p')) (h : p.site.Arranged) :
    p'.site.Arranged := by
  obtain ⟨s, hcall, rfl⟩ := Process.onPep_ok hrun
  exact (hm _ _ _ hcall).2 h

end Calls

lemma step_arranged {e : Event} (h : w.process.site.Arranged) (hstep : w.step e = some w') :
    w'.process.site.Arranged := by
  cases step_cases hstep with
  | dpaConnect _ hrun =>
      exact onEp_arranged (keeps_dpaConnect (ignores_arranged (by simp))
        (ignores_arranged (by simp)) (ignores_arranged (by simp)) (ignores_arranged (by simp))
        (ignores_arranged (by simp))) hrun h
  | dpaAccept _ hrun =>
      exact onEp_arranged (keeps_dpaAccept admits_arranged (ignores_arranged (by simp))) hrun h
  | dpaShutdown _ hrun =>
      exact onEp_arranged (keeps_dpaShutdown (ignores_arranged (by simp))
        (ignores_arranged (by simp))) hrun h
  | dpaEpClose _ => exact h
  | unset => exact h
  | progressPepEq hrun =>
      exact onPep_arranged (keeps_progressPepEq (ignores_arranged (by simp))
        (ignores_arranged (by simp)) _) hrun h
  | progressEpEq _ hrun => exact onEp_arranged (keeps_progressEpEq admits_arranged _) hrun h

/-- After every history of calls on a process that has begun without segments, the buffers lie
one after the other. -/
theorem arranged_run {p : Process} (hempty : ∀ i, ¬ p.site.Created i) {events : List Event}
    (hrun : Stepper.run step ⟨p, ∅, ∅⟩ events = some w) : w.process.site.Arranged :=
  Stepper.run_invariant (I := fun w => w.process.site.Arranged) (fun _ _ _ => step_arranged)
    (fun i hi => absurd hi (hempty i)) hrun

end Recycling

end DpaProvider
