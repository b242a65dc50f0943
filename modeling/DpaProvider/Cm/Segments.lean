import DpaProvider.Objects
import DpaProvider.Cm.Buffers
import DpaProvider.Mr.Regions

/-!
What is left of a segment that could not be allocated.

`dpa_alloc_segment` stops at the first call that fails, and takes nothing back.  Of its two callers
`dpa_mr_reg` takes nothing back either, and `create_data_segment` takes back everything through the
handles in its entry, whether they were set or not.

* `allocSegment_failsAt`, `dpaAllocSegment_failsAt`: the calls of an allocation that fails, which
  are the same for both;
* `unwound_allocCalls_iff`, `unwound_destroyCalls_iff`: when those of a caller leave the library as
  it was;
* `all_or_nothing`: when the allocations of a process that fail leave no trace.
-/

namespace DpaProvider

open Effect

/-! ### The steps of an allocation -/

/-- The steps at which `dpa_alloc_segment` fails. -/
inductive AllocStep where
  | opens
  | creates
  | prepares
  | maps
  | setsAvailable
  deriving DecidableEq, Repr

def AllocStep.number : AllocStep → ℕ
  | .opens => 0
  | .creates => 1
  | .prepares => 2
  | .maps => 3
  | .setsAvailable => 4

namespace Dpa

/-- The step at which the library lets the next allocation fail. -/
def failsAt (d : Dpa) : Option AllocStep :=
  if d.answer 0 ≠ .ok then some .opens
  else if d.answer 1 ≠ .ok then some .creates
  else if d.answer 2 ≠ .ok then some .prepares
  else if d.answer 3 ≠ .ok then some .maps
  else if d.answer 4 ≠ .ok then some .setsAvailable
  else none

/-- The calls of `dpa_alloc_segment`. -/
def allocCalls (d : Dpa) (segmentId : UInt32) (size : UInt64) : List DpaCall :=
  [.dpaOpen, .createSegment (some d.calls.length) segmentId size,
    .prepareSegment (some (d.calls.length + 1)),
    .mapLocalSegment (some (d.calls.length + 1)) size,
    .setSegmentAvailable (some (d.calls.length + 1))]

variable {d : Dpa} {step : AllocStep}

/-- The answers up to the step that fails. -/
lemma answers_failsAt (h : d.failsAt = some step) :
    d.answer step.number ≠ .ok ∧ ∀ k < step.number, d.answer k = .ok := by
  rw [failsAt] at h
  split_ifs at h with h₀ h₁ h₂ h₃ h₄
  all_goals
    obtain rfl := Option.some.inj h
    refine ⟨by assumption, fun k hk => ?_⟩
    rw [AllocStep.number] at hk
    interval_cases k <;> simp_all only [ne_eq, not_not]

/-- The branch that an allocation takes. -/
lemma ite_failsAt {α : Type} (h : d.failsAt = some step) (opens creates prepares maps last : α) :
    (if d.answer 0 ≠ .ok then opens else if d.answer 1 ≠ .ok then creates
      else if d.answer 2 ≠ .ok then prepares else if d.answer 3 ≠ .ok then maps else last)
      = step.casesOn opens creates prepares maps last := by
  obtain ⟨hne, hok⟩ := answers_failsAt h
  cases step with
  | opens => exact if_pos hne
  | creates =>
      rw [if_neg (not_not.2 (hok 0 (by decide)))]
      exact if_pos hne
  | prepares =>
      rw [if_neg (not_not.2 (hok 0 (by decide))), if_neg (not_not.2 (hok 1 (by decide)))]
      exact if_pos hne
  | maps =>
      rw [if_neg (not_not.2 (hok 0 (by decide))), if_neg (not_not.2 (hok 1 (by decide))),
        if_neg (not_not.2 (hok 2 (by decide)))]
      exact if_pos hne
  | setsAvailable =>
      rw [if_neg (not_not.2 (hok 0 (by decide))), if_neg (not_not.2 (hok 1 (by decide))),
        if_neg (not_not.2 (hok 2 (by decide))), if_neg (not_not.2 (hok 3 (by decide)))]

/-- The calls of an allocation that fails, and its error. -/
lemma allocSegment_failsAt (h : d.failsAt = some step) (segmentId : UInt32) (size : UInt64) :
    ∃ info, d.allocSegment segmentId size = ((d.answer step.number, info),
      d.makes ((d.allocCalls segmentId size).take (step.number + 1))) := by
  simp only [allocSegment, lib_bind, ite_apply, pure_apply]
  simp only [call_eq_makes, makes_makes, reply_err, answer_makes, handle_makes, List.cons_append,
    List.nil_append, List.length_cons, List.length_nil, Nat.zero_add, Nat.reduceAdd, Nat.add_zero]
  rw [ite_failsAt h]
  cases step <;> exact ⟨_, rfl⟩

end Dpa

/-- What an allocation that fails leaves in the entry; `n` is the number of its first call. -/
def AllocStep.tried (step : AllocStep) (n : ℕ) (segmentId : UInt32) (size : UInt64)
    (info : LocalSegment) : LocalSegment :=
  { info with
    segmentId, size
    sd := if 0 < step.number then some n else info.sd
    segment := if 1 < step.number then some (n + 1) else info.segment
    map := if 3 < step.number then some (n + 3) else info.map }

namespace Site

variable {s : Site} {i : ℕ} {step : AllocStep}

/-- The same for an entry of the table. -/
lemma dpaAllocSegment_failsAt (h : s.dpa.failsAt = some step) (segmentId : UInt32) (size : UInt64) :
    ∃ t, dpaAllocSegment i segmentId size s = .ok (s.dpa.answer step.number, t)
      ∧ t.dpa = s.dpa.makes ((s.dpa.allocCalls segmentId size).take (step.number + 1))
      ∧ t.localSegmentsInfo = Function.update s.localSegmentsInfo i
        (step.tried s.dpa.calls.length segmentId size (s.localSegmentsInfo i))
      ∧ t.currentSegmentId = s.currentSegmentId := by
  simp only [dpaAllocSegment, setSegment, modify_bind, lib_bind, ite_run, setHost_bind, get_bind]
  simp only [Dpa.call_eq_makes, Dpa.makes_makes, Dpa.reply_err, Dpa.answer_makes, Dpa.handle_makes,
    List.cons_append, List.nil_append, List.length_cons, List.length_nil, Nat.zero_add,
    Nat.reduceAdd, Nat.add_zero, Function.update_self, Function.update_idem]
  rw [Dpa.ite_failsAt h]
  cases step <;> exact ⟨_, rfl, rfl, rfl, rfl⟩

lemma returns_dpaAllocSegment (segmentId : UInt32) (size : UInt64) :
    Returns (dpaAllocSegment i segmentId size) := by
  refine returns_bind (returns_modify _) fun _ => returns_bind (returns_lib _) fun r =>
    returns_ite (returns_pure _) (returns_bind (returns_modify _) fun _ => ?_)
  refine returns_bind (returns_lib _) fun r =>
    returns_ite (returns_pure _) (returns_bind (returns_modify _) fun _ => ?_)
  refine returns_bind (returns_lib _) fun r => returns_ite (returns_pure _) ?_
  refine returns_bind (returns_lib _) fun r =>
    returns_ite (returns_pure _) (returns_bind (returns_modify _) fun _ => ?_)
  exact returns_bind returns_get fun u => returns_bind (returns_modify _) fun _ =>
    returns_bind (returns_lib _) fun _ => returns_pure _

/-- The calls of `dpa_destroy_segment`, for an entry of the table. -/
def destroyCalls (info : LocalSegment) : List DpaCall :=
  [.setSegmentUnavailable info.segment, .unmapSegment info.map, .removeSegment info.segment,
    .close info.sd]

lemma run_dpaDestroySegment (info : LocalSegment) (s : Site) :
    ∃ err, dpaDestroySegment info s
      = .ok (err, { s with dpa := s.dpa.makes (destroyCalls info) }) := by
  simp only [dpaDestroySegment, lib_bind, Dpa.call_eq_makes, Dpa.makes_makes]
  exact ⟨_, rfl⟩

lemma returns_dpaDestroySegment (info : LocalSegment) : Returns (dpaDestroySegment info) := by
  intro s
  obtain ⟨err, hrun⟩ := run_dpaDestroySegment info s
  exact ⟨_, hrun⟩

lemma returns_createDataSegment (i : ℕ) : Returns (createDataSegment i) := by
  refine returns_bind returns_get fun s => returns_bind (returns_dpaAllocSegment _ _) fun err =>
    returns_ite ?_ (returns_bind (returns_modify _) fun _ => returns_modify _)
  exact returns_bind returns_get fun t =>
    returns_bind (returns_dpaDestroySegment _) fun _ => returns_modify _

/-- An attempt at a segment that fails. -/
lemma createDataSegment_failsAt (h : s.dpa.failsAt = some step) :
    ∃ t, createDataSegment i s = .ok ((), t)
      ∧ t.dpa = s.dpa.makes ((s.dpa.allocCalls s.currentSegmentId
          (s.env.alignedBufferSize * s.env.buffersPerSegment)).take (step.number + 1)
        ++ destroyCalls (step.tried s.dpa.calls.length s.currentSegmentId
          (s.env.alignedBufferSize * s.env.buffersPerSegment) (s.localSegmentsInfo i)))
      ∧ t.localSegmentsInfo = Function.update s.localSegmentsInfo i
        { step.tried s.dpa.calls.length s.currentSegmentId
          (s.env.alignedBufferSize * s.env.buffersPerSegment) (s.localSegmentsInfo i) with
          segmentId := 0 }
      ∧ t.currentSegmentId = s.currentSegmentId := by
  obtain ⟨u, halloc, hdpa, htable, hcurrent⟩ := dpaAllocSegment_failsAt (i := i) h
    s.currentSegmentId (s.env.alignedBufferSize * s.env.buffersPerSegment)
  have hne := (Dpa.answers_failsAt h).1
  obtain ⟨err, hdestroy⟩ := run_dpaDestroySegment (u.localSegmentsInfo i) u
  rw [createDataSegment, get_bind, run_bind halloc, ite_run, if_pos hne, get_bind,
    run_bind hdestroy]
  refine ⟨_, rfl, ?_, ?_, hcurrent⟩
  · dsimp only
    rw [hdpa, htable, Function.update_self, Dpa.makes_makes]
  · dsimp only
    rw [htable, Function.update_self, Function.update_idem]

end Site

/-! ### What is taken back -/

namespace Dpa

variable {d : Dpa} {step : AllocStep} {segmentId : UInt32} {size : UInt64} {c : DpaCall}

lemma isRelease_allocCalls (hc : c ∈ d.allocCalls segmentId size) : c.isRelease = false := by
  simp only [allocCalls, List.mem_cons, List.not_mem_nil, or_false] at hc
  rcases hc with rfl | rfl | rfl | rfl | rfl
  all_goals rfl

/-- With nothing taken back, all is well only if nothing was opened. -/
lemma unwound_allocCalls_iff (h : d.failsAt = some step) :
    Unwound d (d.makes ((d.allocCalls segmentId size).take (step.number + 1))) ↔ step = .opens := by
  obtain ⟨hne, hok⟩ := answers_failsAt h
  have hquiet (c : DpaCall) (hc : c ∈ (d.allocCalls segmentId size).take (step.number + 1)) :
      c.isRelease = false := isRelease_allocCalls (List.mem_of_mem_take hc)
  rw [unwound_iff]
  constructor
  · rintro ⟨hback, -⟩
    by_contra hlater
    have hpos : 0 < step.number := by
      cases step
      case opens => exact absurd rfl hlater
      all_goals decide
    obtain ⟨j, c, -, hc, htakes⟩ := hback 0 (.descriptor d.calls.length)
      ⟨by rw [List.getElem?_take_of_lt (Nat.succ_pos _)]; rfl, hok 0 hpos⟩
    have hrelease := DpaCall.isRelease_of_takes htakes
    rw [hquiet c (List.mem_of_getElem? hc)] at hrelease
    exact absurd hrelease (by simp)
  · rintro rfl
    constructor
    · rintro k o ⟨hopens, hanswer⟩
      obtain ⟨c, hc, -⟩ := Option.bind_eq_some_iff.1 hopens
      obtain ⟨hlt, -⟩ := List.getElem?_eq_some_iff.1 hc
      obtain rfl : k = 0 := Nat.lt_one_iff.1 hlt
      exact absurd hanswer hne
    · intro j c hc hrelease
      rw [hquiet c (List.mem_of_getElem? hc)] at hrelease
      exact absurd hrelease (by simp)

/-- A map that this allocation has not set is unmapped unless everything was opened. -/
lemma not_unwound_of_unset (h : d.failsAt = some step) (hearlier : step ≠ .setsAvailable)
    (info : LocalSegment) :
    ¬ Unwound d (d.makes ((d.allocCalls segmentId size).take (step.number + 1)
      ++ Site.destroyCalls (step.tried d.calls.length segmentId size info))) := by
  rw [unwound_iff]
  rintro ⟨-, hown⟩
  obtain ⟨k, o, htakes, ⟨hopens, hanswer⟩, -⟩ := hown (step.number + 2)
    (.unmapSegment (step.tried d.calls.length segmentId size info).map)
    (by cases step <;> rfl) rfl
  -- a call that takes something back names it
  obtain ⟨x, rfl⟩ : ∃ x, o = .map x := by
    cases hmap : (step.tried d.calls.length segmentId size info).map with
    | none =>
        rw [hmap] at htakes
        cases htakes
    | some x =>
        rw [hmap] at htakes
        exact ⟨x, (Option.some.inj htakes).symm⟩
  obtain ⟨c, hc, hmaps⟩ := Option.bind_eq_some_iff.1 hopens
  have hlt : k < step.number + 2 :=
    (List.getElem?_eq_some_iff.1 hc).1.trans_le (List.length_take_le _ _)
  rw [List.getElem?_take_of_lt hlt] at hc
  have hthree : step = .maps ∧ k = 3 := by
    cases step
    case setsAvailable => exact absurd rfl hearlier
    all_goals
      rw [AllocStep.number] at hlt
      interval_cases k
    all_goals
      obtain rfl := Option.some.inj hc
      cases hmaps
    exact ⟨rfl, rfl⟩
  obtain ⟨rfl, rfl⟩ := hthree
  exact (answers_failsAt h).1 hanswer

/-- What was opened in full is taken back in full. -/
lemma unwound_of_set (h : d.failsAt = some .setsAvailable) (info : LocalSegment) :
    Unwound d (d.makes ((d.allocCalls segmentId size).take (AllocStep.setsAvailable.number + 1)
      ++ Site.destroyCalls
        (AllocStep.setsAvailable.tried d.calls.length segmentId size info))) := by
  obtain ⟨-, hok⟩ := answers_failsAt h
  rw [unwound_iff]
  constructor
  · rintro k o ⟨hopens, hanswer⟩
    obtain ⟨c, hc, ho⟩ := Option.bind_eq_some_iff.1 hopens
    have hlt : k < 9 := (List.getElem?_eq_some_iff.1 hc).1
    interval_cases k
    all_goals
      obtain rfl := Option.some.inj hc
      cases ho
    · exact ⟨8, _, by simp, rfl, rfl⟩
    · exact ⟨7, _, by simp, rfl, rfl⟩
    · exact ⟨6, _, by simp, rfl, rfl⟩
  · intro j c hc hrelease
    have hlt : j < 9 := (List.getElem?_eq_some_iff.1 hc).1
    interval_cases j
    all_goals
      obtain rfl := Option.some.inj hc
      cases hrelease
    · refine ⟨3, _, rfl, ⟨rfl, hok 3 (by decide)⟩, fun i c' hi hc' => ?_⟩
      have hlt : i < 6 := (List.getElem?_eq_some_iff.1 hc').1
      interval_cases i
      all_goals
        obtain rfl := Option.some.inj hc'
        exact nofun
    · refine ⟨1, _, rfl, ⟨rfl, hok 1 (by decide)⟩, fun i c' hi hc' => ?_⟩
      have hlt : i < 7 := (List.getElem?_eq_some_iff.1 hc').1
      interval_cases i
      all_goals
        obtain rfl := Option.some.inj hc'
        exact nofun
    · refine ⟨0, _, rfl, ⟨rfl, hok 0 (by decide)⟩, fun i c' hi hc' => ?_⟩
      have hlt : i < 8 := (List.getElem?_eq_some_iff.1 hc').1
      interval_cases i
      all_goals
        obtain rfl := Option.some.inj hc'
        exact nofun

/-- With everything taken back, all is well only if everything was opened. -/
lemma unwound_destroyCalls_iff (h : d.failsAt = some step) (info : LocalSegment) :
    Unwound d (d.makes ((d.allocCalls segmentId size).take (step.number + 1)
      ++ Site.destroyCalls (step.tried d.calls.length segmentId size info)))
      ↔ step = .setsAvailable := by
  constructor
  · intro hunwound
    by_contra hearlier
    exact not_unwound_of_unset h hearlier info hunwound
  · rintro rfl
    exact unwound_of_set h info

end Dpa

/-! ### The two callers -/

/-- The site with the table of data segments, and the memory regions; they share the library. -/
structure SegmentUsers (L : MrLayout) where
  site : Site
  mrMap : HashMap L.mapType
  opened : List DpaFidMr

/-- The calls that allocate segments, with the arguments of `dpa_mr_reg`, or the entry for
`create_data_segment`. -/
inductive SegmentCall where
  | mrReg (fid : DpaFidDomain) (buf : ℕ) (len access requestedKey flags : UInt64) (context : ℕ)
  | createDataSegment (i : ℕ)

/-- The call comes to `dpa_alloc_segment`. -/
def SegmentCall.Allocates : SegmentCall → Prop
  | .mrReg fid _ _ _ requestedKey _ _ => fid.fclass = .domain ∧ fid.mrMode ≠ .basic
      ∧ requestedKey.toUInt32.toUInt64 = requestedKey
  | .createDataSegment _ => True

namespace SegmentUsers

variable {L : MrLayout}

def regions (w : SegmentUsers L) : MrSite L := ⟨w.site.dpa, w.mrMap, w.opened⟩

/-- One call; `create_data_segment` is called for an empty entry only. -/
def step (w : SegmentUsers L) : SegmentCall → Option (SegmentUsers L)
  | .mrReg fid buf len access requestedKey flags context =>
      (w.regions.dpaMrReg fid buf len access requestedKey flags context).map fun r =>
        ⟨{ w.site with dpa := r.2.dpa }, r.2.mrMap, r.2.opened⟩
  | .createDataSegment i =>
      if (w.site.localSegmentsInfo i).segmentId = 0 then
        match Site.createDataSegment i w.site with
        | .ok (_, site) => some { w with site }
        | .error _ => none
      else none

/-- No trace is left of a call: what it opened it took back, and nothing else; `mr_map` and the
numbers are as before, and so is the table, except for the contents of empty entries. -/
structure Restored (w w' : SegmentUsers L) : Prop where
  unwound : Dpa.Unwound w.site.dpa w'.site.dpa
  mrMap : w'.mrMap = w.mrMap
  opened : w'.opened = w.opened
  numbers : ∀ k, (w'.site.localSegmentsInfo k).segmentId = (w.site.localSegmentsInfo k).segmentId
  entries : ∀ k, (w.site.localSegmentsInfo k).segmentId ≠ 0 →
    w'.site.localSegmentsInfo k = w.site.localSegmentsInfo k
  current : w'.site.currentSegmentId = w.site.currentSegmentId

/-- An allocation that fails leaves no trace. -/
def AllOrNothing (w : SegmentUsers L) (c : SegmentCall) : Prop :=
  c.Allocates → w.site.dpa.failsAt ≠ none → ∀ w', step w c = some w' → Restored w w'

/-- If an allocation fails, then a registration at the first step, and a data segment at the last
one. -/
def FailsWell (w : SegmentUsers L) (c : SegmentCall) : Prop :=
  c.Allocates → ∀ step, w.site.dpa.failsAt = some step →
    match c with
    | .mrReg .. => step = .opens
    | .createDataSegment _ => step = .setsAvailable

variable {w w' : SegmentUsers L} {c : SegmentCall} {at' : AllocStep}

/-- A registration that fails. -/
lemma mrReg_failsAt {fid : DpaFidDomain} {buf : ℕ} {len access requestedKey flags : UInt64}
    {context : ℕ}
    (hallocates : (SegmentCall.mrReg fid buf len access requestedKey flags context).Allocates)
    (hfails : w.site.dpa.failsAt = some at') :
    w.step (.mrReg fid buf len access requestedKey flags context) = some { w with
      site.dpa := w.site.dpa.makes
        ((w.site.dpa.allocCalls requestedKey.toUInt32 len).take (at'.number + 1)) } := by
  obtain ⟨hdomain, hmode, hkey⟩ := hallocates
  obtain ⟨info, halloc⟩ :=
    Dpa.allocSegment_failsAt (d := w.regions.dpa) hfails requestedKey.toUInt32 len
  have hne := (Dpa.answers_failsAt hfails).1
  rw [step, MrSite.dpaMrReg, if_neg (not_not.2 hdomain), if_neg hmode, if_neg (not_not.2 hkey)]
  simp only [halloc]
  split
  case isTrue => rfl
  case isFalse =>
      rw [if_pos (show w.regions.dpa.answer at'.number ≠ .ok from hne)]
      rfl

/-- An attempt at a data segment that fails. -/
lemma createDataSegment_failsAt {i : ℕ} (hempty : (w.site.localSegmentsInfo i).segmentId = 0)
    (hfails : w.site.dpa.failsAt = some at') : ∃ t,
    w.step (.createDataSegment i) = some { w with site := t }
      ∧ t.dpa = w.site.dpa.makes ((w.site.dpa.allocCalls w.site.currentSegmentId
          (w.site.env.alignedBufferSize * w.site.env.buffersPerSegment)).take (at'.number + 1)
        ++ Site.destroyCalls (at'.tried w.site.dpa.calls.length w.site.currentSegmentId
          (w.site.env.alignedBufferSize * w.site.env.buffersPerSegment)
          (w.site.localSegmentsInfo i)))
      ∧ (∀ k, (t.localSegmentsInfo k).segmentId = (w.site.localSegmentsInfo k).segmentId)
      ∧ (∀ k ≠ i, t.localSegmentsInfo k = w.site.localSegmentsInfo k)
      ∧ t.currentSegmentId = w.site.currentSegmentId := by
  obtain ⟨t, hrun, hdpa, htable, hcurrent⟩ := Site.createDataSegment_failsAt (i := i) hfails
  refine ⟨t, ?_, hdpa, fun k => ?_, fun k hk => ?_, hcurrent⟩
  · rw [step, if_pos hempty, hrun]
  · rw [htable]
    rcases eq_or_ne k i with rfl | hne
    · rw [Function.update_self, hempty]
    · rw [Function.update_of_ne hne]
  · rw [htable, Function.update_of_ne hk]

/-- One call leaves no trace exactly if it fails well. -/
lemma allOrNothing_iff (hstep : w.step c = some w') : AllOrNothing w c ↔ FailsWell w c := by
  rw [AllOrNothing, FailsWell]
  refine forall_congr' fun hallocates => ?_
  rcases hfails : w.site.dpa.failsAt with _ | at'
  · exact iff_of_true (fun hsome => absurd rfl hsome) nofun
  have hrestored : (∀ w', w.step c = some w' → Restored w w') ↔ Restored w w' := by
    constructor
    · exact fun h => h w' hstep
    · intro h u hu
      rwa [← Option.some.inj (hstep.symm.trans hu)]
  rw [imp_iff_right (Option.some_ne_none at'), hrestored]
  cases c with
  | mrReg fid buf len access requestedKey flags context =>
      rw [mrReg_failsAt hallocates hfails] at hstep
      replace hstep := Option.some.inj hstep
      have hunwound : Restored w w' ↔ Dpa.Unwound w.site.dpa (w.site.dpa.makes
          ((w.site.dpa.allocCalls requestedKey.toUInt32 len).take (at'.number + 1))) := by
        subst hstep
        exact ⟨Restored.unwound, fun h => ⟨h, rfl, rfl, fun _ => rfl, fun _ _ => rfl, rfl⟩⟩
      rw [hunwound, Dpa.unwound_allocCalls_iff hfails]
      simp
  | createDataSegment i =>
      have hempty : (w.site.localSegmentsInfo i).segmentId = 0 := by
        by_contra hne
        rw [step, if_neg hne] at hstep
        cases hstep
      obtain ⟨t, hrun, hdpa, hnumbers, hothers, hcurrent⟩ := createDataSegment_failsAt hempty hfails
      obtain rfl := Option.some.inj (hrun.symm.trans hstep)
      have hentries (k : ℕ) (hk : (w.site.localSegmentsInfo k).segmentId ≠ 0) :
          t.localSegmentsInfo k = w.site.localSegmentsInfo k := by
        refine hothers k ?_
        rintro rfl
        exact hk hempty
      have hunwound : Restored w { w with site := t } ↔ Dpa.Unwound w.site.dpa t.dpa :=
        ⟨Restored.unwound, fun h => ⟨h, rfl, rfl, hnumbers, hentries, hcurrent⟩⟩
      rw [hunwound, hdpa, Dpa.unwound_destroyCalls_iff hfails]
      simp

/-- Along every sequence of registrations and attempts at data segments, failed allocations leave no
trace exactly if registrations fail at opening a descriptor, and data segments at being made
available. -/
theorem all_or_nothing {calls : List SegmentCall} (hrun : Stepper.run step w calls = some w') :
    Stepper.Meets step AllOrNothing w calls ↔ Stepper.Meets step FailsWell w calls :=
  Stepper.meets_iff (I := fun _ => True) (fun _ _ _ _ hstep => allOrNothing_iff hstep)
    (fun _ _ _ _ _ _ => trivial) trivial hrun

/-- A process with a table in which nothing is created, no regions, and the answers of the
library. -/
def fresh (errs : ℕ → DpaError) : SegmentUsers (MrSite.numberOnly 3 (by decide)) where
  site := { Site.granted (Site.opened 0 fiMsg ⟨2, 7⟩) with
    dpa.replies := fun n => ⟨errs n, 0, .ofNode 0, 0⟩ }
  mrMap := .hashCreate _
  opened := []

/-- A region of 64 bytes is registered. -/
def aRegion (requestedKey : UInt64) : SegmentCall :=
  .mrReg ⟨.domain, .scalable⟩ 0 64 0 requestedKey 0 0

/-- A registration that fails at once, and a data segment that fails at last. -/
theorem all_or_nothing_traceless :
    Stepper.Meets step AllOrNothing (fresh fun n => if n = 0 ∨ n = 5 then .system else .ok)
      [aRegion 7, .createDataSegment 0] := by
  have hview : (Stepper.run step (fresh fun n => if n = 0 ∨ n = 5 then .system else .ok)
      [aRegion 7, .createDataSegment 0]).isSome = true
      ∧ (step (fresh fun n => if n = 0 ∨ n = 5 then .system else .ok) (aRegion 7)).map
        (fun w => w.site.dpa.failsAt) = some (some .setsAvailable) := by decide +kernel
  obtain ⟨hsome, hsecond⟩ := hview
  obtain ⟨w', hrun⟩ := Option.isSome_iff_exists.1 hsome
  refine (all_or_nothing hrun).2 ⟨fun _ at' hfails => ?_, fun u hu => ⟨fun _ at' hfails => ?_, ?_⟩⟩
  · have hfirst : (fresh fun n => if n = 0 ∨ n = 5 then .system else .ok).site.dpa.failsAt
        = some .opens := by decide
    exact Option.some.inj (hfails.symm.trans hfirst)
  · rw [hu, Option.map_some, hfails] at hsecond
    exact Option.some.inj (Option.some.inj hsecond)
  · exact fun _ _ => trivial

/-- A number that is refused: the registration leaves a descriptor open, and the attempt at a data
segment takes back a segment and a map that were never there. -/
theorem not_all_or_nothing :
    (¬ Stepper.Meets step AllOrNothing (fresh fun n => if n = 1 then .segmentIdUsed else .ok)
      [aRegion 7])
    ∧ ¬ Stepper.Meets step AllOrNothing (fresh fun n => if n = 1 then .segmentIdUsed else .ok)
      [.createDataSegment 0] := by
  have hfails : (fresh fun n => if n = 1 then .segmentIdUsed else .ok).site.dpa.failsAt
      = some .creates := by decide
  constructor
  · rintro ⟨h, -⟩
    have hsome : (step (fresh fun n => if n = 1 then .segmentIdUsed else .ok)
        (aRegion 7)).isSome = true := by decide +kernel
    obtain ⟨w', hstep⟩ := Option.isSome_iff_exists.1 hsome
    exact absurd ((allOrNothing_iff hstep).1 h ⟨rfl, nofun, rfl⟩ _ hfails) nofun
  · rintro ⟨h, -⟩
    have hsome : (step (fresh fun n => if n = 1 then .segmentIdUsed else .ok)
        (.createDataSegment 0)).isSome = true := by decide +kernel
    obtain ⟨w', hstep⟩ := Option.isSome_iff_exists.1 hsome
    exact absurd ((allOrNothing_iff hstep).1 h trivial _ hfails) nofun

end SegmentUsers

end DpaProvider
