import DpaProvider.Cm.Allocations
import DpaProvider.Cm.Release
import DpaProvider.Cm.Segments

/-!
Whether the search for a buffer comes to an end.

`get_empty_buffer` tries to create a segment until it succeeds, always with the same number.  The
library refuses a number that is taken.

* `SearchStep`, `Answers`: the states the search goes through, and how the library answers there;
* `createUntil_endless`, `createUntil_ends`: the loop goes on for ever exactly if the number that
  comes next is taken;
* `SearchRight`: the search ends, with a free buffer whenever there is or can be one;
* `search_right`: when that is so, after every sequence of allocations.
-/

namespace DpaProvider

open Effect

namespace Site

variable {s t u v : Site} {taken : Finset UInt32} {i j p fuel : ℕ}

/-! ### One attempt -/

/-- The library grants the calls that create a segment. -/
def AllocGrants (s : Site) : Prop := ∀ n < 5, s.answer n = .ok

lemma dpaAllocSegment_ok_iff {segmentId : UInt32} {size : UInt64} {err : DpaError}
    (hrun : dpaAllocSegment i segmentId size s = .ok (err, t)) : err = .ok ↔ s.AllocGrants := by
  simp only [dpaAllocSegment, setSegment, modify_bind, lib_bind, ite_run, setHost_bind,
    get_bind] at hrun
  have hfalse {n : ℕ} (hn : n < 5) (hne : s.answer n ≠ .ok) (h : err = s.answer n) :
      err = .ok ↔ s.AllocGrants :=
    iff_of_false (fun hok => hne (h.symm.trans hok)) fun hgrants => hne (hgrants n hn)
  split_ifs at hrun with h₀ h₁ h₂ h₃
  all_goals
    have herr := (Prod.mk.inj (Except.ok.inj hrun)).1.symm
    simp only [Dpa.reply, Dpa.replies_call, Dpa.length_call, Nat.add_assoc, Nat.reduceAdd] at *
  · exact hfalse (n := 0) (by omega) h₀ herr
  · exact hfalse (n := 1) (by omega) h₁ herr
  · exact hfalse (n := 2) (by omega) h₂ herr
  · exact hfalse (n := 3) (by omega) h₃ herr
  · rw [herr]
    refine ⟨fun h₄ n hn => ?_, fun hgrants => hgrants 4 (by omega)⟩
    interval_cases n
    · exact not_not.1 h₀
    · exact not_not.1 h₁
    · exact not_not.1 h₂
    · exact not_not.1 h₃
    · exact h₄

/-- An attempt makes a segment with the number that comes next if the library grants it, and else
leaves the entry as it was to be. -/
lemma createDataSegment_attempt (s : Site) (i : ℕ) : ∃ t, createDataSegment i s = .ok ((), t)
    ∧ t.env = s.env ∧ t.fuel = s.fuel ∧ (∀ k ≠ i, t.localSegmentsInfo k = s.localSegmentsInfo k)
    ∧ (s.AllocGrants → (t.localSegmentsInfo i).segmentId = s.currentSegmentId
      ∧ t.currentSegmentId = s.currentSegmentId + 1)
    ∧ (¬ s.AllocGrants → ¬ t.Created i ∧ t.currentSegmentId = s.currentSegmentId) := by
  obtain ⟨⟨err, s₁⟩, halloc⟩ := returns_dpaAllocSegment (i := i) s.currentSegmentId
    (s.env.alignedBufferSize * s.env.buffersPerSegment) s
  have hok := dpaAllocSegment_ok_iff halloc
  obtain ⟨hid, hcurrent⟩ := dpaAllocSegment_segmentId halloc
  have hcases : ∃ t, createDataSegment i s = .ok ((), t)
      ∧ (err = .ok → (t.localSegmentsInfo i).segmentId = s.currentSegmentId
        ∧ t.currentSegmentId = s.currentSegmentId + 1)
      ∧ (err ≠ .ok → ¬ t.Created i ∧ t.currentSegmentId = s.currentSegmentId) := by
    rw [createDataSegment, get_bind, run_bind halloc, ite_run]
    split
    case isTrue hne =>
        obtain ⟨⟨err', s₂⟩, hdestroy⟩ := returns_dpaDestroySegment (s₁.localSegmentsInfo i) s₁
        have hkept : s₂.currentSegmentId = s₁.currentSegmentId :=
          keeps_dpaDestroySegment (F := .same fun s => s.currentSegmentId) (fun _ _ => rfl) _ _ _ _
            hdestroy
        rw [get_bind, run_bind hdestroy]
        refine ⟨_, rfl, fun hok => absurd hok hne, fun _ => ⟨?_, hkept.trans hcurrent⟩⟩
        simp [Created]
    case isFalse heq =>
        refine ⟨_, rfl, fun _ => ⟨?_, ?_⟩, fun hne => absurd hne heq⟩
        · simp [hid]
        · simp [hcurrent]
  obtain ⟨t, hrun, hcreated, hrefused⟩ := hcases
  obtain ⟨henv, -, hother⟩ := entry_createDataSegment s _ t hrun
  have hfuel : t.fuel = s.fuel := keeps_createDataSegment (F := .same fun s => s.fuel)
    (fun _ _ => rfl) (fun _ _ => rfl) (fun _ _ => rfl) i s _ t hrun
  exact ⟨t, hrun, henv, hfuel, hother, fun h => hcreated (hok.2 h), fun h => hrefused (mt hok.1 h)⟩

/-! ### The library -/

/-- What the search does in one step: it makes an attempt to create a segment for an entry, or
passes a segment without a free buffer. -/
inductive SearchStep : ℕ × Site → ℕ × Site → Prop where
  | attempt {i : ℕ} {u v : Site} (hlt : i < u.numSegments) (hi : ¬ u.Created i)
      (hrun : createDataSegment i u = .ok ((), v)) : SearchStep (i, u) (i, v)
  | pass {i : ℕ} {u : Site} (hi : u.Created i)
      (hfull : ∀ j < u.numBuffers, (u.bufferAt i j).size ≠ 0) : SearchStep (i, u) (i + 1, u)

/-- The state comes up in a search. -/
def Searched (s : Site) (i : ℕ) (u : Site) : Prop := Relation.ReflTransGen SearchStep (0, s) (i, u)

/-- `DPACreateSegment` succeeds exactly if the number is not taken, and the other calls to create a
segment succeed. -/
structure AnswersAttempt (taken : Finset UInt32) (u : Site) : Prop where
  opens : u.answer 0 = .ok
  creates : u.answer 1 = .ok ↔ u.currentSegmentId ∉ taken
  grants : u.currentSegmentId ∉ taken → u.answer 2 = .ok ∧ u.answer 3 = .ok ∧ u.answer 4 = .ok

/-- The library answers so in every attempt of a search; the fuel is not known to it. -/
def Answers (taken : Finset UInt32) (s : Site) : Prop :=
  ∀ fuel i u, Searched { s with fuel } i u → i < u.numSegments → ¬ u.Created i →
    AnswersAttempt taken u

lemma AnswersAttempt.grants_iff (h : AnswersAttempt taken u) :
    u.AllocGrants ↔ u.currentSegmentId ∉ taken := by
  refine ⟨fun hgrants => h.creates.1 (hgrants 1 (by omega)), fun hfree n hn => ?_⟩
  obtain ⟨h₂, h₃, h₄⟩ := h.grants hfree
  interval_cases n
  · exact h.opens
  · exact h.creates.2 hfree
  · exact h₂
  · exact h₃
  · exact h₄

/-- A library that grants every call answers so: the first attempt makes a segment, in which the
search ends. -/
lemma GrantsAll.answers (h : s.GrantsAll) (hpos : 0 < s.numBuffers) (hne : s.currentSegmentId ≠ 0)
    (hfree : s.currentSegmentId ∉ taken) : s.Answers taken := by
  intro fuel i u hs hlt hi
  have hends (x : ℕ × Site) (hs : Relation.ReflTransGen SearchStep (0, { s with fuel }) x) :
      x.2 = { s with fuel }
        ∨ x.2.Created x.1 ∧ ∃ j < x.2.numBuffers, (x.2.bufferAt x.1 j).size = 0 := by
    induction hs with
    | refl => exact .inl rfl
    | tail _ hstep ih =>
        cases hstep with
        | pass hi hfull =>
            refine ih.imp_right fun hempty => ?_
            obtain ⟨-, j, hj, hsize⟩ := hempty
            exact absurd hsize (hfull j hj)
        | @attempt i u v hlt hi hrun =>
            obtain rfl : u = { s with fuel } := ih.resolve_right fun hcreated => hi hcreated.1
            obtain ⟨v', hrun', henv, -, -, hgranted, -⟩ :=
              createDataSegment_attempt { s with fuel } i
            obtain ⟨-, rfl⟩ := Prod.mk.inj (Except.ok.inj (hrun.symm.trans hrun'))
            have hcreated : v.Created i := by
              rw [Created, (hgranted fun _ _ => h _).1]
              exact hne
            refine .inr ⟨hcreated, 0, ?_, ?_⟩
            · rwa [numBuffers, henv]
            · exact ((createDataSegment_growing hi hrun).1.fresh i hi hcreated).2 0
  obtain rfl : u = { s with fuel } := (hends _ hs).resolve_right fun hcreated => hi hcreated.1
  exact ⟨h _, iff_of_true (h _) hfree, fun _ => ⟨h _, h _, h _⟩⟩

/-! ### The loop for one entry -/

/-- The next segment can have its number; the number 0 is used up before. -/
def NextFree (taken : Finset UInt32) (s : Site) : Prop :=
  s.currentSegmentId ∉ taken ∧ nextSegmentId s.currentSegmentId ∉ taken

section Loop

variable (hanswers : ∀ i u, Searched s i u → i < u.numSegments → ¬ u.Created i →
  AnswersAttempt taken u)

include hanswers

/-- With a number that is taken the loop goes on for ever. -/
lemma createUntil_taken (hs : Searched s i u) (hlt : i < u.numSegments) (hi : ¬ u.Created i)
    (htaken : u.currentSegmentId ∈ taken) (fuel : ℕ) :
    createUntil i fuel u = .error .endless := by
  induction fuel generalizing u with
  | zero => rfl
  | succ fuel ih =>
      obtain ⟨v, hrun, henv, -, -, -, hrefused⟩ := createDataSegment_attempt u i
      have hno : ¬ u.AllocGrants := fun h =>
        (hanswers i u hs hlt hi).grants_iff.1 h htaken
      obtain ⟨hstill, hcurrent⟩ := hrefused hno
      rw [createUntil, get_bind, if_pos (not_not.1 hi), run_bind hrun]
      refine ih (hs.tail (.attempt hlt hi hrun)) ?_ hstill (hcurrent ▸ htaken)
      rwa [numSegments, henv]

/-- The loop goes on for ever if the next segment cannot have its number. -/
lemma createUntil_endless (hs : Searched s i u) (hlt : i < u.numSegments) (hi : ¬ u.Created i)
    (hnext : ¬ NextFree taken u) (fuel : ℕ) : createUntil i fuel u = .error .endless := by
  by_cases htaken : u.currentSegmentId ∈ taken
  · exact createUntil_taken hanswers hs hlt hi htaken fuel
  -- the number is 0, so the first attempt succeeds in vain
  have hzero : u.currentSegmentId = 0 := by
    by_contra hne
    exact hnext ⟨htaken, by rwa [nextSegmentId, if_neg hne]⟩
  have hone : (1 : UInt32) ∈ taken := by
    by_contra hone
    exact hnext ⟨htaken, by rwa [nextSegmentId, if_pos hzero]⟩
  cases fuel with
  | zero => rfl
  | succ fuel =>
      obtain ⟨v, hrun, henv, -, -, hgranted, -⟩ := createDataSegment_attempt u i
      obtain ⟨hid, hcurrent⟩ := hgranted ((hanswers i u hs hlt hi).grants_iff.2 htaken)
      have hstill : ¬ v.Created i := not_not.2 (hid.trans hzero)
      rw [createUntil, get_bind, if_pos (not_not.1 hi), run_bind hrun]
      refine createUntil_taken hanswers (hs.tail (.attempt hlt hi hrun)) ?_ hstill ?_ fuel
      · rwa [numSegments, henv]
      · rw [hcurrent, hzero]
        exact hone

/-- Otherwise it ends. -/
lemma createUntil_ends (hs : Searched s i u) (hlt : i < u.numSegments) (hi : ¬ u.Created i)
    (hnext : NextFree taken u) (hfuel : 3 ≤ fuel) : ∃ v, createUntil i fuel u = .ok ((), v) := by
  obtain ⟨fuel, rfl⟩ : ∃ n, fuel = n + 3 := ⟨fuel - 3, by omega⟩
  obtain ⟨v, hrun, henv, -, -, hgranted, -⟩ := createDataSegment_attempt u i
  obtain ⟨hid, hcurrent⟩ := hgranted ((hanswers i u hs hlt hi).grants_iff.2 hnext.1)
  have hs' := hs.tail (.attempt hlt hi hrun)
  have hlt' : i < v.numSegments := by rwa [numSegments, henv]
  rw [createUntil, get_bind, if_pos (not_not.1 hi), run_bind hrun]
  by_cases hcreated : v.Created i
  · exact ⟨v, by rw [createUntil, get_bind, if_neg hcreated]; rfl⟩
  have hzero : u.currentSegmentId = 0 := hid.symm.trans (not_not.1 hcreated)
  have hone : v.currentSegmentId = 1 := by
    rw [hcurrent, hzero]
    rfl
  have hfree : v.currentSegmentId ∉ taken := by
    have hfree := hnext.2
    rwa [nextSegmentId, if_pos hzero, ← hone] at hfree
  obtain ⟨w, hrun', -, -, -, hgranted', -⟩ := createDataSegment_attempt v i
  obtain ⟨hid', -⟩ := hgranted' ((hanswers i v hs' hlt' hcreated).grants_iff.2 hfree)
  have hdone : w.Created i := by
    rw [Created, hid', hone]
    decide
  rw [createUntil, get_bind, if_pos (not_not.1 hcreated), run_bind hrun', createUntil, get_bind,
    if_neg hdone]
  exact ⟨w, rfl⟩

end Loop

/-! ### The search -/

/-- No buffer of the segment is free. -/
def Full (s : Site) (i : ℕ) : Prop := ∀ j < s.numBuffers, (s.bufferAt i j).size ≠ 0

lemma createUntil_created (hi : u.Created i) (hfuel : 0 < fuel) :
    createUntil i fuel u = .ok ((), u) := by
  obtain ⟨fuel, rfl⟩ := Nat.exists_eq_succ_of_ne_zero hfuel.ne'
  rw [createUntil, get_bind, if_neg hi]
  rfl

/-- A full segment is passed. -/
lemma searchSegments_full (hi : u.Created i) (hfull : u.Full i) (hfuel : 0 < u.fuel)
    (remaining : ℕ) :
    searchSegments (remaining + 1) i u = searchSegments remaining (i + 1) u := by
  have hnone : (List.range u.env.buffersPerSegment.toNat).find?
      (fun j => ((u.localSegmentsInfo i).buffers j).size = 0) = none := by
    refine List.find?_eq_none.2 fun j hj => ?_
    simpa [bufferAt] using hfull j (List.mem_range.1 hj)
  rw [searchSegments, get_bind, run_bind (createUntil_created hi hfuel), get_bind, ite_run]
  simp only [hnone, ite_self]

/-- The segments before an entry are passed if they are full. -/
lemma searchSegments_passes {d : ℕ} (h : ∀ k, i ≤ k → k < i + d → u.Created k ∧ u.Full k)
    (hfuel : 0 < u.fuel) (remaining : ℕ) :
    searchSegments (d + remaining) i u = searchSegments remaining (i + d) u
      ∧ (Searched s i u → Searched s (i + d) u) := by
  induction d generalizing i with
  | zero => exact ⟨by rw [Nat.zero_add, Nat.add_zero], id⟩
  | succ d ih =>
      obtain ⟨hi, hfull⟩ := h i le_rfl (by omega)
      obtain ⟨hsearch, hreached⟩ := ih (i := i + 1) fun k hk hlt => h k (by omega) (by omega)
      have hplace : i + 1 + d = i + (d + 1) := by omega
      rw [hplace] at hsearch hreached
      rw [Nat.add_right_comm d 1, searchSegments_full hi hfull hfuel]
      exact ⟨hsearch, fun hs => hreached (hs.tail (.pass hi hfull))⟩

/-- The search ends if it comes upon a free buffer before it has to create a segment. -/
lemma searchSegments_returns {remaining k : ℕ} (huncounted : u.Uncounted) (hfuel : 0 < u.fuel)
    (hcreated : ∀ l ≤ k, u.Created l) (hle : i ≤ k) (hlt : k < i + remaining)
    (hfree : ¬ u.Full k) : ∃ r, searchSegments remaining i u = .ok r := by
  induction remaining generalizing i with
  | zero => omega
  | succ remaining ih =>
      have hi := hcreated i hle
      by_cases hfull : u.Full i
      · rw [searchSegments_full hi hfull hfuel]
        refine ih (Nat.lt_of_le_of_ne hle ?_) (by omega)
        rintro rfl
        exact hfree hfull
      · rw [Full] at hfull
        push Not at hfull
        obtain ⟨j, hj, hsize⟩ := hfull
        have hsome : ((List.range u.env.buffersPerSegment.toNat).find?
            fun j => ((u.localSegmentsInfo i).buffers j).size = 0).isSome = true :=
          List.find?_isSome.2 ⟨j, List.mem_range.2 hj, decide_eq_true hsize⟩
        obtain ⟨l, hl⟩ := Option.isSome_iff_exists.1 hsome
        have hroom : (u.localSegmentsInfo i).bufcount < u.env.buffersPerSegment.toNat := by
          rw [huncounted i hi]
          exact (Nat.zero_le j).trans_lt hj
        rw [searchSegments, get_bind, run_bind (createUntil_created hi hfuel), get_bind,
          if_pos hroom, hl]
        exact ⟨_, rfl⟩

/-- A segment that is there has a free buffer. -/
def HasFree (s : Site) : Prop := ∃ i, s.Created i ∧ ¬ s.Full i

/-- A number of the range can be given to a segment. -/
def Creatable (taken : Finset UInt32) (s : Site) : Prop :=
  ∃ id, s.env.minMsgSegmid ≤ id ∧ id < s.env.maxMsgSegmid ∧ id ∉ taken

/-- The search ends, with enough fuel: with a free buffer if there is one or a segment can be
created, and with none otherwise. -/
def SearchRight (taken : Finset UInt32) (s : Site) : Prop :=
  ∃ enough, ∀ fuel ≥ enough, ∃ found t, getEmptyBuffer { s with fuel } = .ok (found, t)
    ∧ (s.HasFree ∨ s.Creatable taken → ∃ i j, found = some (i, j)
      ∧ t.Created i ∧ j < s.numBuffers ∧ (t.bufferAt i j).size = 0)
    ∧ (¬ (s.HasFree ∨ s.Creatable taken) → found = none)

/-- When that is so: a segment has a free buffer; or all entries are filled, and 0 is taken if it is
a number of the range; or the next segment can have its number, and segments have buffers exactly if
a number of the range is free. -/
def SearchOk (taken : Finset UInt32) (s : Site) : Prop :=
  s.HasFree
    ∨ ((∀ i < s.numSegments, s.Created i) ∧ (s.env.minMsgSegmid = 0 → 0 ∈ taken))
    ∨ ((∃ i < s.numSegments, ¬ s.Created i) ∧ s.NextFree taken
      ∧ (0 < s.numBuffers ↔ s.Creatable taken))

namespace Filled

variable (h : Filled p s)

include h

/-- With a free buffer the search is right. -/
lemma searchRight_of_hasFree (hfree : s.HasFree) : s.SearchRight taken := by
  obtain ⟨k, hk, hfull⟩ := hfree
  refine ⟨1, fun fuel hfuel => ?_⟩
  have hlt := (h.created k).1 hk
  obtain ⟨⟨found, t⟩, hrun⟩ := searchSegments_returns (i := 0) (k := k) (u := { s with fuel })
    h.uncounted hfuel (fun l hl => (h.created l).2 (hl.trans_lt hlt)) (Nat.zero_le k)
    (by rw [Nat.zero_add]; exact hlt.trans_le h.le) hfull
  refine ⟨found, t, hrun, fun _ => ?_, fun hno => absurd (.inl ⟨k, hk, hfull⟩) hno⟩
  obtain ⟨hgrowing, hsome, hnone⟩ := searchSegments_cases hrun
  cases found with
  | some place =>
      obtain ⟨-, -, hj, hcreated, hsize⟩ := hsome _ _ rfl
      exact ⟨_, _, rfl, hcreated, hj, hsize⟩
  | none =>
      -- all buffers would be in use
      refine absurd (fun j hj => ?_) hfull
      have hall := hnone rfl (hgrowing.1.uncounted h.uncounted) k (Nat.zero_le k)
        (by rw [Nat.zero_add]; exact hlt.trans_le h.le) j hj
      exact (hgrowing.1.inUse_iff.1 hall).2

/-- Without one it comes to the first entry that is not filled. -/
lemma getEmptyBuffer_full (hfull : ¬ s.HasFree) (hfuel : 0 < s.fuel) :
    getEmptyBuffer s = searchSegments (s.numSegments - p) p s ∧ Searched s p s := by
  have hpass : ∀ k, 0 ≤ k → k < 0 + p → s.Created k ∧ s.Full k := by
    intro k _ hk
    rw [Nat.zero_add] at hk
    have hcreated := (h.created k).2 hk
    exact ⟨hcreated, by_contra fun hno => hfull ⟨k, hcreated, hno⟩⟩
  obtain ⟨hsearch, hreached⟩ := searchSegments_passes (s := s) hpass hfuel (s.numSegments - p)
  rw [Nat.zero_add, Nat.add_sub_cancel' h.le] at hsearch
  rw [Nat.zero_add] at hreached
  exact ⟨hsearch, hreached .refl⟩

omit h in
/-- A number of the range is that of an entry, unless it is 0. -/
lemma exists_segmentIdOf (hrange : s.Ranged) {id : UInt32} (hmin : s.env.minMsgSegmid ≤ id)
    (hmax : id < s.env.maxMsgSegmid) (hne : id ≠ 0) :
    ∃ k < s.numSegments, s.segmentIdOf k = id := by
  have hpos : 0 < id.toNat := Nat.pos_of_ne_zero fun hzero => hne (UInt32.toNat_inj.1 hzero)
  rw [UInt32.le_iff_toNat_le] at hmin
  rw [UInt32.lt_iff_toNat_lt] at hmax
  set first := if s.env.minMsgSegmid = 0 then 1 else s.env.minMsgSegmid.toNat with hfirst
  have hle : first ≤ id.toNat ∧ s.env.minMsgSegmid.toNat ≤ first := by
    rw [hfirst]
    split
    case isTrue hzero => rw [hzero]; exact ⟨hpos, Nat.zero_le 1⟩
    case isFalse => exact ⟨hmin, le_rfl⟩
  have hlt : id.toNat - first < s.numSegments := by
    rw [numSegments_eq hrange]
    omega
  refine ⟨id.toNat - first, hlt, UInt32.toNat_inj.1 ?_⟩
  rw [toNat_segmentIdOf hrange hlt, ← hfirst]
  omega

/-- With a full table no number of the range is left, except for 0. -/
lemma not_creatable_iff (hrange : s.env.minMsgSegmid < s.env.maxMsgSegmid) (hp : p = s.numSegments)
    (htaken : ∀ i, s.Created i → (s.localSegmentsInfo i).segmentId ∈ taken) :
    ¬ s.Creatable taken ↔ (s.env.minMsgSegmid = 0 → 0 ∈ taken) := by
  constructor
  · intro hno hzero
    by_contra hfree
    exact hno ⟨0, by rw [hzero]; exact UInt32.le_refl 0, hzero ▸ hrange, hfree⟩
  · rintro hzero ⟨id, hmin, hmax, hfree⟩
    rcases eq_or_ne id 0 with rfl | hne
    · exact hfree (hzero (UInt32.le_antisymm hmin UInt32.zero_le))
    · obtain ⟨k, hk, rfl⟩ := exists_segmentIdOf (UInt32.le_of_lt hrange) hmin hmax hne
      rw [← hp] at hk
      exact hfree (h.ids k hk ▸ htaken k ((h.created k).2 hk))

/-- If the next segment can have its number, and no number of the range is free, the entry is the
last one. -/
lemma last_of_nextFree (hrange : s.env.minMsgSegmid < s.env.maxMsgSegmid) (hlt : p < s.numSegments)
    (hnext : s.NextFree taken) (hno : ¬ s.Creatable taken) : p + 1 = s.numSegments := by
  have hranged : s.Ranged := UInt32.le_of_lt hrange
  have hid := toNat_segmentIdOf hranged hlt
  have hbeyond : s.env.maxMsgSegmid.toNat ≤ (s.segmentIdOf p).toNat := by
    by_contra hin
    refine hno ⟨s.segmentIdOf p, ?_, UInt32.lt_iff_toNat_lt.2 (not_le.1 hin), ?_⟩
    · rw [UInt32.le_iff_toNat_le, hid]
      split
      case isTrue hzero => rw [hzero]; exact Nat.zero_le _
      case isFalse => exact Nat.le_add_right _ _
    · rw [← h.next hranged hlt]
      exact hnext.2
  have hnum := numSegments_eq hranged
  split at hid
  case isTrue hzero =>
      rw [hzero, UInt32.toNat_zero] at hnum
      omega
  case isFalse => omega

/-- Where all segments are full and the next one can have its number, the search comes to it. -/
lemma getEmptyBuffer_nextFree (hrange : s.env.minMsgSegmid < s.env.maxMsgSegmid)
    (hfull : ¬ s.HasFree) (hlt : p < s.numSegments) (hnext : s.NextFree taken)
    (hanswers : ∀ i u, Searched s i u → i < u.numSegments → ¬ u.Created i → AnswersAttempt taken u)
    (hfuel : 3 ≤ s.fuel) (hroom : 0 < s.numBuffers ∨ ¬ s.Creatable taken) :
    ∃ found t, getEmptyBuffer s = .ok (found, t)
      ∧ (0 < s.numBuffers → ∃ i j, found = some (i, j)
        ∧ t.Created i ∧ j < s.numBuffers ∧ (t.bufferAt i j).size = 0)
      ∧ (s.numBuffers = 0 → found = none) := by
  obtain ⟨hsearch, hreached⟩ := h.getEmptyBuffer_full hfull (by omega)
  have hi : ¬ s.Created p := fun hi => absurd ((h.created p).1 hi) (lt_irrefl p)
  obtain ⟨v, hcreate⟩ := createUntil_ends hanswers hreached hlt hi hnext hfuel
  obtain ⟨henv, -, -, hnew⟩ := createUntil_cases hcreate
  obtain ⟨hid, hcount, hbuffers, -⟩ := hnew hi
  have hbound : v.env.buffersPerSegment.toNat = s.numBuffers := by rw [henv, numBuffers]
  obtain ⟨rest, hrest⟩ := Nat.exists_eq_succ_of_ne_zero (Nat.sub_ne_zero_of_lt hlt)
  rw [hsearch, hrest, searchSegments, get_bind, run_bind hcreate, get_bind]
  simp only [hcount, hbound, hbuffers]
  rcases Nat.eq_zero_or_pos s.numBuffers with hzero | hpos
  · -- the table ends here
    have hlast := last_of_nextFree h hrange hlt hnext
      (hroom.resolve_left (by rw [hzero]; exact lt_irrefl 0))
    obtain rfl : rest = 0 := by omega
    rw [if_neg (by rw [hzero]; exact lt_irrefl 0)]
    exact ⟨none, v, rfl, fun hpos => absurd hpos (by rw [hzero]; exact lt_irrefl 0), fun _ => rfl⟩
  · rw [if_pos hpos, find_buffersOf hpos]
    refine ⟨_, v, rfl, fun _ => ⟨p, 0, rfl, ?_, hpos, ?_⟩, fun hzero => absurd hzero hpos.ne'⟩
    · rw [Created, hid, h.next (UInt32.le_of_lt hrange) hlt]
      exact segmentIdOf_ne_zero (UInt32.le_of_lt hrange) hlt
    · rw [bufferAt, hbuffers]
      rfl

/-- With a full table the search finds none. -/
lemma searchRight_iff_full (hrange : s.env.minMsgSegmid < s.env.maxMsgSegmid)
    (htaken : ∀ i, s.Created i → (s.localSegmentsInfo i).segmentId ∈ taken)
    (hfree : ¬ s.HasFree) (hp : p = s.numSegments) :
    s.SearchRight taken ↔ (s.env.minMsgSegmid = 0 → 0 ∈ taken) := by
  have hnone (fuel : ℕ) (hfuel : 1 ≤ fuel) :
      getEmptyBuffer { s with fuel } = .ok (none, { s with fuel }) := by
    have hfilled : Filled p { s with fuel } := h.congr rfl rfl fun _ => ⟨rfl, rfl, rfl⟩
    rw [(hfilled.getEmptyBuffer_full hfree hfuel).1]
    change searchSegments (s.numSegments - p) p _ = _
    rw [hp, Nat.sub_self]
    rfl
  rw [← h.not_creatable_iff hrange hp htaken]
  constructor
  · rintro ⟨enough, hright⟩ hcreatable
    obtain ⟨found, t, hrun, hsome, -⟩ := hright (enough + 1) (Nat.le_succ enough)
    obtain ⟨i, j, rfl, -⟩ := hsome (.inr hcreatable)
    rw [hnone _ (Nat.succ_pos enough)] at hrun
    cases hrun
  · intro hno
    refine ⟨1, fun fuel hfuel => ⟨none, _, hnone fuel hfuel, ?_, fun _ => rfl⟩⟩
    rintro (hfree' | hcreatable)
    · exact absurd hfree' hfree
    · exact absurd hcreatable hno

/-- With room in the table it is up to the number that comes next. -/
lemma searchRight_iff_room (hrange : s.env.minMsgSegmid < s.env.maxMsgSegmid)
    (hanswers : s.Answers taken) (hfree : ¬ s.HasFree) (hlt : p < s.numSegments) :
    s.SearchRight taken ↔ s.NextFree taken ∧ (0 < s.numBuffers ↔ s.Creatable taken) := by
  have hfilled (fuel : ℕ) : Filled p { s with fuel } := h.congr rfl rfl fun _ => ⟨rfl, rfl, rfl⟩
  by_cases hnext : s.NextFree taken
  case neg =>
      refine iff_of_false ?_ fun hok => hnext hok.1
      rintro ⟨enough, hright⟩
      obtain ⟨found, t, hrun, -⟩ := hright (enough + 1) (Nat.le_succ enough)
      obtain ⟨hsearch, hreached⟩ := (hfilled (enough + 1)).getEmptyBuffer_full hfree
        (Nat.succ_pos enough)
      obtain ⟨rest, hrest⟩ := Nat.exists_eq_succ_of_ne_zero (Nat.sub_ne_zero_of_lt hlt)
      change _ = searchSegments (s.numSegments - p) p _ at hsearch
      rw [hsearch, hrest, searchSegments, get_bind] at hrun
      obtain ⟨_, u, hcreate, -⟩ := run_bind_ok hrun
      have hi : ¬ s.Created p := fun hi => absurd ((h.created p).1 hi) (lt_irrefl p)
      rw [createUntil_endless (hanswers _) hreached hlt hi hnext] at hcreate
      cases hcreate
  case pos =>
      have hends (fuel : ℕ) (hfuel : 3 ≤ fuel) := (hfilled fuel).getEmptyBuffer_nextFree
        hrange hfree hlt hnext (hanswers fuel) hfuel
      constructor
      · rintro ⟨enough, hright⟩
        obtain ⟨found, t, hrun, hsome, hnone⟩ := hright (enough + 3) (by omega)
        refine ⟨hnext, fun hpos => ?_, fun hcreatable => ?_⟩
        · by_contra hno
          obtain ⟨found', t', hrun', hsome', -⟩ := hends (enough + 3) (by omega) (.inl hpos)
          obtain ⟨i, j, rfl, -⟩ := hsome' hpos
          obtain rfl := hnone (not_or.2 ⟨hfree, hno⟩)
          rw [hrun] at hrun'
          cases hrun'
        · obtain ⟨i, j, -, -, hj, -⟩ := hsome (.inr hcreatable)
          exact (Nat.zero_le j).trans_lt hj
      · rintro ⟨-, hiff⟩
        refine ⟨3, fun fuel hfuel => ?_⟩
        have hroom : 0 < s.numBuffers ∨ ¬ s.Creatable taken := by
          rw [hiff]
          exact em _
        obtain ⟨found, t, hrun, hsome, hnone⟩ := hends fuel hfuel hroom
        refine ⟨found, t, hrun, fun hsearch => ?_, fun hno => ?_⟩
        · exact hsome (hiff.2 (hsearch.resolve_left hfree))
        · exact hnone (Nat.eq_zero_of_not_pos fun hpos => hno (.inr (hiff.1 hpos)))

/-- When the search is right. -/
lemma searchRight_iff (hrange : s.env.minMsgSegmid < s.env.maxMsgSegmid)
    (htaken : ∀ i, s.Created i → (s.localSegmentsInfo i).segmentId ∈ taken)
    (hanswers : s.Answers taken) : s.SearchRight taken ↔ s.SearchOk taken := by
  by_cases hfree : s.HasFree
  · exact iff_of_true (h.searchRight_of_hasFree hfree) (.inl hfree)
  rw [SearchOk, or_iff_right hfree]
  rcases h.le.eq_or_lt with hp | hlt
  · have hall : ∀ i < s.numSegments, s.Created i := fun i hi => (h.created i).2 (hp ▸ hi)
    rw [h.searchRight_iff_full hrange htaken hfree hp, and_iff_right hall, or_iff_left]
    rintro ⟨⟨i, hi, hno⟩, -⟩
    exact hno (hall i hi)
  · have hno : ¬ s.Created p := fun hi => absurd ((h.created p).1 hi) (lt_irrefl p)
    rw [h.searchRight_iff_room hrange hanswers hfree hlt]
    constructor
    · exact fun hok => .inr ⟨⟨p, hlt, hno⟩, hok⟩
    · rintro (⟨hall, -⟩ | ⟨-, hok⟩)
      · exact absurd (hall p hlt) hno
      · exact hok

end Filled

end Site

namespace Allocations

open Site

variable {w w' : Allocations} {c : AllocCall}

/-- Along every sequence of allocations the table is filled from its beginning. -/
lemma filled_run {s : Site} (hzeroed : Zeroed s) (hrange : s.Ranged) {calls : List AllocCall}
    (hrun : Stepper.run step ⟨s, []⟩ calls = some w) :
    (∃ p, Site.Filled p w.site) ∧ w.site.env = s.env := by
  refine Stepper.run_invariant (I := fun w => (∃ p, Site.Filled p w.site) ∧ w.site.env = s.env)
    ?_ ⟨⟨0, hzeroed.filled⟩, rfl⟩ hrun
  rintro u c u' ⟨hfilled, henv⟩ hstep
  have hranged : u.site.Ranged := by rwa [Ranged, henv]
  obtain ⟨hfilled', hsame⟩ := filled_step hranged hfilled hstep
  exact ⟨hfilled', hsame.trans henv⟩

lemma grantsAll_run {s : Site} (h : s.GrantsAll) {calls : List AllocCall}
    (hrun : Stepper.run step ⟨s, []⟩ calls = some w) : w.site.GrantsAll := by
  refine Stepper.run_invariant (I := fun w => w.site.GrantsAll) ?_ h hrun
  intro u c u' hu hstep
  exact GrantsAll.fixed (s := u.before c) hu (fixed_step hstep)

/-- After every sequence of allocations from a zeroed table, the search is right exactly if the
number that comes next is not in the way. -/
theorem search_right {s : Site} (hzeroed : Zeroed s)
    (hrange : s.env.minMsgSegmid < s.env.maxMsgSegmid) {calls : List AllocCall}
    (hrun : Stepper.run step ⟨s, []⟩ calls = some w) {taken : Finset UInt32}
    (htaken : ∀ i, w.site.Created i → (w.site.localSegmentsInfo i).segmentId ∈ taken)
    (hanswers : w.site.Answers taken) : w.site.SearchRight taken ↔ w.site.SearchOk taken := by
  obtain ⟨⟨p, hfilled⟩, henv⟩ := filled_run hzeroed (UInt32.le_of_lt hrange) hrun
  exact hfilled.searchRight_iff (by rwa [henv]) htaken hanswers

/-- Two allocations fill the first segment, and the next number is free. -/
theorem search_right_twoCalls : ∃ w,
    Stepper.run step ⟨Process.granted.site, []⟩ [aCall, aCall] = some w
      ∧ ¬ w.site.HasFree ∧ w.site.SearchRight {100} := by
  have hview : (Stepper.run step ⟨Process.granted.site, []⟩ [aCall, aCall]).map (fun w =>
      ((w.site.currentSegmentId, (w.site.localSegmentsInfo 0).segmentId,
        (w.site.localSegmentsInfo 1).segmentId), (w.site.bufferAt 0 0).size,
        (w.site.bufferAt 0 1).size)) = some ((101, 100, 0), 64, 64) := by decide +kernel
  obtain ⟨w, hrun, hsame⟩ := Option.map_eq_some_iff.1 hview
  simp only [Prod.mk.injEq] at hsame
  obtain ⟨⟨hcurrent, hfirst, hsecond⟩, hbuffer₀, hbuffer₁⟩ := hsame
  have hzeroed : Zeroed Process.granted.site := ⟨fun _ h => h rfl, rfl⟩
  have hrange : Process.granted.site.env.minMsgSegmid < Process.granted.site.env.maxMsgSegmid := by
    decide
  obtain ⟨⟨p, hp⟩, henv⟩ := filled_run hzeroed (UInt32.le_of_lt hrange) hrun
  have hnum : w.site.numBuffers = 2 := by
    rw [numBuffers, henv]
    rfl
  -- only the first segment is there
  have honly (i : ℕ) (hi : w.site.Created i) : i = 0 := by
    have hno : ¬ 1 < p := fun hlt => (hp.created 1).2 hlt hsecond
    have hlt := (hp.created i).1 hi
    omega
  have hfull : ¬ w.site.HasFree := by
    rintro ⟨i, hi, hfull⟩
    obtain rfl := honly i hi
    refine hfull fun j hj => ?_
    rw [hnum] at hj
    interval_cases j
    · rw [hbuffer₀]
      decide
    · rw [hbuffer₁]
      decide
  have hnext : w.site.NextFree {100} := by
    rw [NextFree, hcurrent]
    decide
  have hcreatable : w.site.Creatable {100} := by
    rw [Creatable, henv]
    exact ⟨101, by decide, by decide, by decide⟩
  refine ⟨w, hrun, hfull, (search_right hzeroed hrange hrun ?_ ?_).2 (.inr (.inr ⟨?_, hnext, ?_⟩))⟩
  · intro i hi
    rw [honly i hi, hfirst]
    decide
  · refine GrantsAll.answers (grantsAll_run (fun _ => rfl) hrun) ?_ ?_ hnext.1
    · rw [hnum]
      decide
    · rw [hcurrent]
      decide
  · refine ⟨1, ?_, fun hcreated => hcreated hsecond⟩
    rw [numSegments, henv]
    decide
  · exact iff_of_true (by rw [hnum]; decide) hcreatable

/-- The first number of the range is taken: the library refuses every attempt at its second call. -/
def firstTaken : Site :=
  { Process.granted.site with
    dpa.replies := fun n => ⟨if n % 6 = 1 then .segmentIdUsed else .ok, 7, .ofNode 0, 64⟩ }

lemma firstTaken_answer {d : Dpa} (hreplies : d.replies = firstTaken.dpa.replies)
    (hlength : d.calls.length % 6 = 0) {k : ℕ} (hk : k < 6) :
    d.answer k = if k = 1 then .segmentIdUsed else .ok := by
  have hmod : (d.calls.length + k) % 6 = k := by omega
  rw [Dpa.answer, hreplies, firstTaken]
  dsimp only
  rw [hmod]

/-- In every state of the search the next attempt is at the number that is taken. -/
lemma firstTaken_searched {fuel i : ℕ} {u : Site} (hs : Searched { firstTaken with fuel } i u) :
    i = 0 ∧ ¬ u.Created 0 ∧ u.currentSegmentId = 100 ∧ u.dpa.replies = firstTaken.dpa.replies
      ∧ u.dpa.calls.length % 6 = 0 := by
  have hstays (x : ℕ × Site)
      (hs : Relation.ReflTransGen SearchStep (0, { firstTaken with fuel }) x) :
      x.1 = 0 ∧ ¬ x.2.Created 0 ∧ x.2.currentSegmentId = 100
        ∧ x.2.dpa.replies = firstTaken.dpa.replies ∧ x.2.dpa.calls.length % 6 = 0 := by
    induction hs with
    | refl => exact ⟨rfl, fun h => h rfl, rfl, rfl, rfl⟩
    | tail _ hstep ih =>
        obtain ⟨hi, hno, hcurrent, hreplies, hlength⟩ := ih
        cases hstep with
        | pass hcreated hfull => exact absurd (hi ▸ hcreated) hno
        | @attempt i u v hlt hcreated hrun =>
            dsimp only at hi hno hcurrent hreplies hlength
            have hfails : u.dpa.failsAt = some .creates := by
              have hanswer {k : ℕ} (hk : k < 6) := firstTaken_answer hreplies hlength hk
              rw [Dpa.failsAt, if_neg (by rw [hanswer (by simp)]; decide),
                if_pos (by rw [hanswer (by simp)]; decide)]
            obtain ⟨v', hrun', hdpa, htable, hcurrent'⟩ := createDataSegment_failsAt (i := i) hfails
            obtain ⟨-, rfl⟩ := Prod.mk.inj (Except.ok.inj (hrun.symm.trans hrun'))
            refine ⟨hi, ?_, hcurrent'.trans hcurrent, by rw [hdpa]; exact hreplies, ?_⟩
            · rw [Created, htable, hi, Function.update_self]
              exact fun h => h rfl
            · rw [hdpa, Dpa.length_makes]
              change (u.dpa.calls.length + 6) % 6 = 0
              omega
  exact hstays _ hs

/-- The attempts at the number go on for ever. -/
theorem search_endless : Zeroed firstTaken ∧ firstTaken.Answers {100}
    ∧ firstTaken.Creatable {100} ∧ ¬ firstTaken.SearchRight {100} := by
  have hanswers : firstTaken.Answers {100} := by
    intro fuel i u hs hlt hi
    obtain ⟨-, -, hcurrent, hreplies, hlength⟩ := firstTaken_searched hs
    have htaken : u.currentSegmentId ∈ ({100} : Finset UInt32) := by
      rw [hcurrent]
      decide
    refine ⟨firstTaken_answer hreplies hlength (k := 0) (by simp), ?_, absurd htaken⟩
    refine iff_of_false ?_ (not_not.2 htaken)
    rw [show u.answer 1 = _ from firstTaken_answer hreplies hlength (k := 1) (by simp)]
    decide
  have hzeroed : Zeroed firstTaken := ⟨fun _ h => h rfl, rfl⟩
  refine ⟨hzeroed, hanswers, ⟨101, by decide, by decide, by decide⟩, fun hright => ?_⟩
  have hfree : ¬ firstTaken.HasFree := fun ⟨i, hi, _⟩ => hi rfl
  have hok := (hzeroed.filled.searchRight_iff_room (by decide) hanswers hfree (by decide)).1 hright
  exact hok.1.1 (by decide)

end Allocations

end DpaProvider
