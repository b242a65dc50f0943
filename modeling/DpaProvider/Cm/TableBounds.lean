import DpaProvider.Cm.Allocations
import DpaProvider.Cm.Exits

/-!
How far the table of data segments reaches.

`dpa_cm_init` makes a table of one entry and leaves its memory as it is; `get_empty_buffer` goes
through as many entries as the range has numbers, and `dpa_cm_fini` through those of the table.

* `Erases`: the functions with their accesses to the table do what those without them do;
* `searchSegments_accesses`: the accesses of a search;
* `inside_iff`: when all accesses are inside the table;
* `never_safe`: no run is safe, because its first access reads an entry that nobody has set.
-/

namespace DpaProvider

open Effect

/-- An access to an entry of the table: it is read, part of it is written, or all of it is. -/
inductive EntryAccess where
  | read (i : ℕ)
  | write (i : ℕ)
  | fill (i : ℕ)
  deriving DecidableEq, Repr

def EntryAccess.index : EntryAccess → ℕ
  | .read i | .write i | .fill i => i

/-- A site with the header of its table, and the accesses to the entries so far. -/
structure TableSite where
  site : Site
  count : ℕ
  accesses : List EntryAccess

abbrev TableProg := Effect Stuck TableSite

namespace TableSite

/-! ### The functions with their accesses -/

/-- A call that does not access the table, or whose accesses are noted beside it. -/
def onSite {α : Type} (m : Prog α) : TableProg α :=
  fun w => (m w.site).map fun r => (r.1, { w with site := r.2 })

def note (a : EntryAccess) : TableProg Unit :=
  modify fun w => { w with accesses := w.accesses ++ [a] }

/-- `create_data_segment`; what it reads of the fields that it has just set is not noted. -/
def createDataSegment (i : ℕ) : TableProg Unit := do
  let s := (← get).site
  let size := s.env.alignedBufferSize * s.env.buffersPerSegment
  note (.write i)
  let err ← onSite (Site.dpaAllocSegment i s.currentSegmentId size)
  if err ≠ .ok then
    note (.read i)
    let _ ← onSite (Site.dpaDestroySegment ((← get).site.localSegmentsInfo i))
    note (.write i)
    onSite (Site.setSegment i fun info => { info with segmentId := 0 })
  else
    note (.fill i)
    onSite (Site.setSegment i fun info => { info with bufcount := 0, buffers := fun j =>
      ⟨⟨s.env.localNodeId, info.segmentId, UInt64.ofNat j * s.env.alignedBufferSize⟩, 0⟩ })
    onSite (modify fun s => { s with currentSegmentId := s.currentSegmentId + 1 })

/-- The inner loop of `get_empty_buffer`. -/
def createUntil (i : ℕ) : ℕ → TableProg Unit
  | 0 => throw .endless
  | fuel + 1 => do
      note (.read i)
      if ((← get).site.localSegmentsInfo i).segmentId = 0 then
        createDataSegment i
        createUntil i fuel

/-- Its outer loop; `info->bufcount` and `info->buffers` are read after the inner one. -/
def searchSegments : ℕ → ℕ → TableProg (Option (ℕ × ℕ))
  | 0, _ => return none
  | remaining + 1, i => do
      createUntil i (← get).site.fuel
      note (.read i)
      let s := (← get).site
      let info := s.localSegmentsInfo i
      let bound := s.env.buffersPerSegment.toNat
      if info.bufcount < bound then
        match (List.range bound).find? fun j => (info.buffers j).size = 0 with
        | some j => return some (i, j)
        | none => searchSegments remaining (i + 1)
      else searchSegments remaining (i + 1)

/-- `get_empty_buffer`. -/
def getEmptyBuffer : TableProg (Option (ℕ × ℕ)) := do
  let env := (← get).site.env
  searchSegments (env.maxMsgSegmid - env.minMsgSegmid).toNat 0

/-- `alloc_msg_buffer`. -/
def allocMsgBuffer (data : SegmentData) : TableProg (DpaError × SegmentData) := do
  if !hasAny (← get).site.host.ep.caps (fiRecv ||| fiSend) then return (.ok, data)
  match ← getEmptyBuffer with
  | none => return (.system, data)
  | some (i, j) => onSite (Site.allocHalves i j data)

/-- `dpa_cm_init`: `array_create` takes memory for one entry from the heap, with what is in it. -/
def dpaCmInit (s : Site) (heap : ℕ → LocalSegment) : TableSite where
  site := { s with localSegmentsInfo := heap, currentSegmentId := s.env.minMsgSegmid }
  count := 1
  accesses := []

/-- The loop of `dpa_cm_fini` over the remaining entries, from `i` on; `segment_info` is copied, and
`buffers` is read later. -/
def finiEntries : ℕ → ℕ → TableProg Unit
  | 0, _ => return ()
  | remaining + 1, i => do
      note (.read i)
      let info := (← get).site.localSegmentsInfo i
      if info.segmentId ≠ 0 then
        let _ ← onSite (Site.dpaDestroySegment info)
        note (.read i)
        finiEntries remaining (i + 1)
      else
        note (.read i)
        finiEntries remaining (i + 1)

/-- `dpa_cm_fini`. -/
def dpaCmFini : TableProg Unit := do
  finiEntries (← get).count 0

/-- The table with the endpoint of a call in place. -/
def before (w : TableSite) (c : AllocCall) : TableSite := { w with site.host.ep := c.ep }

/-- The state after a call of `alloc_msg_buffer`, if it returns. -/
def step (w : TableSite) (c : AllocCall) : Option TableSite :=
  match allocMsgBuffer c.data (w.before c) with
  | .ok (_, w') => some w'
  | .error _ => none

/-! ### The functions without them -/

variable {α β : Type}

/-- Without the accesses, `m'` does what `m` does. -/
def Erases (m' : TableProg α) (m : Prog α) : Prop :=
  ∀ w, (m' w).map (fun r => (r.1, r.2.site)) = m w.site

lemma erases_pure (a : α) : Erases (pure a) (pure a) := fun _ => rfl

lemma erases_onSite (m : Prog α) : Erases (onSite m) m := by
  intro w
  rw [onSite]
  cases m w.site <;> rfl

lemma erases_bind {m' : TableProg α} {m : Prog α} {f' : α → TableProg β} {f : α → Prog β}
    (hm : Erases m' m) (hf : ∀ a, Erases (f' a) (f a)) : Erases (m' >>= f') (m >>= f) := by
  intro w
  have hmw := hm w
  cases hrun : m' w with
  | error e =>
      rw [hrun] at hmw
      rw [run_bind_error hrun, run_bind_error hmw.symm]
      rfl
  | ok r =>
      obtain ⟨a, u⟩ := r
      rw [hrun] at hmw
      rw [run_bind hrun, run_bind hmw.symm]
      exact hf a u

lemma erases_note (a : EntryAccess) {m' : TableProg α} {m : Prog α} (hm : Erases m' m) :
    Erases (note a >>= fun _ => m') m :=
  fun w => hm { w with accesses := w.accesses ++ [a] }

lemma erases_get {f' : TableSite → TableProg α} {f : Site → Prog α}
    (hf : ∀ w, Erases (f' w) (f w.site)) : Erases (get >>= f') (get >>= f) :=
  fun w => hf w w

lemma erases_ite {p : Prop} [Decidable p] {m₁' m₂' : TableProg α} {m₁ m₂ : Prog α}
    (h₁ : Erases m₁' m₁) (h₂ : Erases m₂' m₂) :
    Erases (if p then m₁' else m₂') (if p then m₁ else m₂) := by
  split
  · exact h₁
  · exact h₂

lemma createDataSegment_erases (i : ℕ) :
    Erases (createDataSegment i) (Site.createDataSegment i) := by
  refine erases_get fun w => erases_note _ (erases_bind (erases_onSite _) fun err =>
    erases_ite (erases_note _ (erases_get fun u => ?_)) ?_)
  · exact erases_bind (erases_onSite _) fun _ => erases_note _ (erases_onSite _)
  · exact erases_note _ (erases_bind (erases_onSite _) fun _ => erases_onSite _)

lemma createUntil_erases (i fuel : ℕ) : Erases (createUntil i fuel) (Site.createUntil i fuel) := by
  induction fuel with
  | zero => exact fun _ => rfl
  | succ fuel ih =>
      exact erases_note _ (erases_get fun w => erases_ite
        (erases_bind (createDataSegment_erases i) fun _ => ih) (erases_pure _))

lemma searchSegments_erases (remaining i : ℕ) :
    Erases (searchSegments remaining i) (Site.searchSegments remaining i) := by
  induction remaining generalizing i with
  | zero => exact erases_pure _
  | succ remaining ih =>
      refine erases_get fun w => erases_bind (createUntil_erases i _) fun _ => erases_note _
        (erases_get fun u => erases_ite ?_ (ih _))
      cases (List.range u.site.env.buffersPerSegment.toNat).find? fun j =>
        ((u.site.localSegmentsInfo i).buffers j).size = 0 with
      | none => exact ih _
      | some j => exact erases_pure _

lemma getEmptyBuffer_erases : Erases getEmptyBuffer Site.getEmptyBuffer :=
  erases_get fun _ => searchSegments_erases _ _

theorem allocMsgBuffer_erases (data : SegmentData) :
    Erases (allocMsgBuffer data) (Site.allocMsgBuffer data) := by
  refine erases_get fun w => erases_ite (erases_pure _) ?_
  refine erases_bind getEmptyBuffer_erases fun r => ?_
  cases r with
  | none => exact erases_pure _
  | some place => exact erases_onSite _

/-! ### The accesses -/

variable {w w' w'' : TableSite} {a : α} {l l' : List EntryAccess} {i j : ℕ}

/-- The accesses from one state to another. -/
structure Accessed (w w' : TableSite) (l : List EntryAccess) : Prop where
  count : w'.count = w.count
  accesses : w'.accesses = w.accesses ++ l

lemma Accessed.refl (w : TableSite) : Accessed w w [] := ⟨rfl, (List.append_nil _).symm⟩

lemma Accessed.trans (h : Accessed w w' l) (h' : Accessed w' w'' l') : Accessed w w'' (l ++ l') :=
  ⟨h'.count.trans h.count, by rw [h'.accesses, h.accesses, List.append_assoc]⟩

/-- All accesses are to one entry. -/
def onlyAt (i : ℕ) : Frame TableSite where
  rel := fun w w' => ∃ l, Accessed w w' l ∧ ∀ a ∈ l, a.index = i
  refl := fun w => ⟨[], .refl w, nofun⟩
  trans := fun _ _ _ ⟨_, h, hl⟩ ⟨_, h', hl'⟩ =>
    ⟨_, h.trans h', List.forall_mem_append.2 ⟨hl, hl'⟩⟩

lemma accessed_onSite {m : Prog α} (hrun : onSite m w = .ok (a, w')) : Accessed w w' [] := by
  obtain ⟨r, -, heq⟩ := Except.map_eq_ok hrun
  obtain ⟨-, rfl⟩ := Prod.mk.inj heq
  exact ⟨rfl, (List.append_nil _).symm⟩

lemma accessed_note {a : EntryAccess} {r : Unit} (hrun : note a w = .ok (r, w')) :
    Accessed w w' [a] := by
  obtain ⟨-, rfl⟩ := Prod.mk.inj (run_modify_ok hrun)
  exact ⟨rfl, rfl⟩

lemma keeps_onSite (m : Prog α) : Keeps (onlyAt i) (onSite m) :=
  fun _ _ _ hrun => ⟨[], accessed_onSite hrun, nofun⟩

lemma keeps_note {a : EntryAccess} (ha : a.index = i) : Keeps (onlyAt i) (note a) :=
  keeps_modify fun _ => ⟨[a], ⟨rfl, rfl⟩, List.forall_mem_singleton.2 ha⟩

lemma keeps_createDataSegment : Keeps (onlyAt i) (createDataSegment i) := by
  refine keeps_bind keeps_get fun w => keeps_bind (keeps_note rfl) fun _ =>
    keeps_bind (keeps_onSite _) fun err => keeps_ite ?_ ?_
  · exact keeps_bind (keeps_note rfl) fun _ => keeps_bind keeps_get fun u =>
      keeps_bind (keeps_onSite _) fun _ => keeps_bind (keeps_note rfl) fun _ => keeps_onSite _
  · exact keeps_bind (keeps_note rfl) fun _ => keeps_bind (keeps_onSite _) fun _ => keeps_onSite _

lemma keeps_createUntil (fuel : ℕ) : Keeps (onlyAt i) (createUntil i fuel) := by
  induction fuel with
  | zero => exact keeps_throw _
  | succ fuel ih =>
      exact keeps_bind (keeps_note rfl) fun _ => keeps_bind keeps_get fun w =>
        keeps_ite (keeps_bind keeps_createDataSegment fun _ => ih) (keeps_pure _)

/-- The first thing that the inner loop does is to read the entry. -/
lemma createUntil_accesses {fuel : ℕ} (hrun : createUntil i fuel w = .ok ((), w')) :
    ∃ l, Accessed w w' (.read i :: l) ∧ ∀ a ∈ l, a.index = i := by
  cases fuel with
  | zero => exact absurd hrun throw_ne_ok
  | succ fuel =>
      obtain ⟨_, u, hnote, hrun⟩ := run_bind_ok hrun
      obtain ⟨-, rfl⟩ := Prod.mk.inj (run_modify_ok hnote)
      have hkeeps : Keeps (onlyAt i) (do
          if ((← get).site.localSegmentsInfo i).segmentId = 0 then
            createDataSegment i
            createUntil i fuel : TableProg Unit) :=
        keeps_bind keeps_get fun w => keeps_ite
          (keeps_bind keeps_createDataSegment fun _ => keeps_createUntil fuel) (keeps_pure _)
      obtain ⟨l, ⟨hcount, haccesses⟩, hl⟩ := hkeeps _ _ _ hrun
      exact ⟨l, ⟨hcount, by rw [haccesses, List.append_assoc]; rfl⟩, hl⟩

/-- The accesses of a search: it begins with reading the entry it starts from, and stays there
exactly if it finds a buffer there or has no other entry to look at. -/
lemma searchSegments_accesses {remaining : ℕ} {found : Option (ℕ × ℕ)}
    (hrun : searchSegments remaining i w = .ok (found, w')) :
    ∃ l, Accessed w w' l ∧ (remaining = 0 → l = []) ∧ (0 < remaining → l.head? = some (.read i))
      ∧ (∀ k j, found = some (k, j) → i ≤ k)
      ∧ ((∀ a ∈ l, a.index = i) ↔ remaining ≤ 1 ∨ ∃ j, found = some (i, j)) := by
  induction remaining generalizing i w with
  | zero =>
      obtain ⟨rfl, rfl⟩ := Prod.mk.inj (run_pure_ok hrun)
      exact ⟨[], .refl w', fun _ => rfl, fun h => absurd h (lt_irrefl 0), nofun,
        iff_of_true nofun (.inl (Nat.zero_le 1))⟩
  | succ remaining ih =>
      rw [searchSegments, get_bind] at hrun
      obtain ⟨_, u, hcreate, hrun⟩ := run_bind_ok hrun
      obtain ⟨l, hl, hindex⟩ := createUntil_accesses hcreate
      obtain ⟨_, v, hnote, hrun⟩ := run_bind_ok hrun
      obtain ⟨-, rfl⟩ := Prod.mk.inj (run_modify_ok hnote)
      have hread : Accessed u { u with accesses := u.accesses ++ [.read i] } [.read i] :=
        ⟨rfl, rfl⟩
      replace hl := hl.trans hread
      have hhere : ∀ a ∈ .read i :: l ++ [.read i], a.index = i := by
        rw [List.forall_mem_append, List.forall_mem_cons, List.forall_mem_singleton]
        exact ⟨⟨rfl, hindex⟩, rfl⟩
      have hcases : (∃ j, found = some (i, j) ∧ w' = { u with accesses := u.accesses ++ [.read i] })
          ∨ searchSegments remaining (i + 1) { u with accesses := u.accesses ++ [.read i] }
            = .ok (found, w') := by
        rw [get_bind, ite_run] at hrun
        split at hrun
        case isFalse => exact .inr hrun
        case isTrue =>
            rcases hfound : (List.range u.site.env.buffersPerSegment.toNat).find? (fun j =>
              ((u.site.localSegmentsInfo i).buffers j).size = 0) with _ | j
            · rw [hfound] at hrun
              exact .inr hrun
            · rw [hfound] at hrun
              obtain ⟨rfl, rfl⟩ := Prod.mk.inj (run_pure_ok hrun)
              exact .inl ⟨j, rfl, rfl⟩
      rcases hcases with ⟨j, rfl, rfl⟩ | hnext
      · refine ⟨_, hl, nofun, fun _ => rfl, fun k j' heq => ?_, iff_of_true hhere (.inr ⟨j, rfl⟩)⟩
        exact (Prod.mk.inj (Option.some.inj heq)).1.le
      · obtain ⟨l', hl', hempty, hhead, hlater, -⟩ := ih hnext
        refine ⟨_, hl.trans hl', nofun, fun _ => rfl, fun k j heq => ?_, ?_⟩
        · exact (Nat.le_succ i).trans (hlater k j heq)
        · have hno : ¬ ∃ j, found = some (i, j) := fun ⟨j, heq⟩ =>
            absurd (hlater i j heq) (Nat.not_succ_le_self i)
          rw [List.forall_mem_append, and_iff_right hhere, or_iff_left hno]
          rcases Nat.eq_zero_or_pos remaining with rfl | hpos
          · rw [hempty rfl]
            exact iff_of_true nofun le_rfl
          · refine iff_of_false (fun hall => ?_) (by omega)
            have hindex := hall _ (List.mem_of_mem_head? (hhead hpos))
            exact absurd hindex (Nat.succ_ne_self i)

/-! ### Runs -/

/-- The accesses of `alloc_msg_buffer`. -/
lemma step_accesses {c : AllocCall} (hstep : w.step c = some w') : ∃ l, Accessed w w' l
    ∧ (l = [] ∨ l.head? = some (.read 0))
    ∧ ((∀ a ∈ l, a.index = 0) ↔ (hasAny c.ep.caps (fiRecv ||| fiSend) = true →
      w.site.numSegments ≤ 1
        ∨ ∃ j t, Site.getEmptyBuffer (w.before c).site = .ok (some (0, j), t))) := by
  rw [step] at hstep
  split at hstep
  case h_2 => cases hstep
  case h_1 r u hrun =>
  obtain rfl := Option.some.inj hstep
  rw [allocMsgBuffer, get_bind, ite_run] at hrun
  split at hrun
  case isTrue hno =>
      obtain ⟨-, rfl⟩ := Prod.mk.inj (run_pure_ok hrun)
      rw [Bool.not_eq_true'] at hno
      exact ⟨[], ⟨rfl, (List.append_nil _).symm⟩, .inl rfl,
        iff_of_true nofun fun hcarries => absurd (hno.symm.trans hcarries) nofun⟩
  case isFalse hcarries =>
  rw [Bool.not_eq_true', Bool.not_eq_false] at hcarries
  obtain ⟨found, v, hfind, hrun⟩ := run_bind_ok hrun
  have hplain := getEmptyBuffer_erases (w.before c)
  rw [hfind] at hplain
  rw [getEmptyBuffer, get_bind] at hfind
  obtain ⟨l, hl, hempty, hhead, -, hinside⟩ := searchSegments_accesses hfind
  have hlast : Accessed v u [] := by
    cases found with
    | none =>
        obtain ⟨-, rfl⟩ := Prod.mk.inj (run_pure_ok hrun)
        exact .refl u
    | some place => exact accessed_onSite hrun
  have haccessed : Accessed (w.before c) u l := List.append_nil l ▸ hl.trans hlast
  refine ⟨l, ⟨haccessed.count, haccessed.accesses⟩, ?_, ?_⟩
  · rcases Nat.eq_zero_or_pos (w.before c).site.numSegments with hzero | hpos
    · exact .inl (hempty hzero)
    · exact .inr (hhead hpos)
  · rw [hinside, imp_iff_right (show hasAny c.ep.caps (fiRecv ||| fiSend) = true from hcarries)]
    refine or_congr Iff.rfl (exists_congr fun j => ?_)
    constructor
    · rintro rfl
      exact ⟨v.site, hplain.symm⟩
    · rintro ⟨t, ht⟩
      exact (Prod.mk.inj (Except.ok.inj (hplain.trans ht))).1

/-- The search stays in the first entry. -/
def StaysFirst (w : TableSite) (c : AllocCall) : Prop :=
  hasAny c.ep.caps (fiRecv ||| fiSend) = true → w.site.numSegments ≤ 1
    ∨ ∃ j t, Site.getEmptyBuffer (w.before c).site = .ok (some (0, j), t)

/-- The accesses of `dpa_cm_fini`: it reads the entries one after the other. -/
lemma finiEntries_accesses {remaining : ℕ} (hrun : finiEntries remaining i w = .ok ((), w')) :
    ∃ l, Accessed w w' l ∧ ∀ a, a ∈ l ↔ ∃ k, i ≤ k ∧ k < i + remaining ∧ a = .read k := by
  induction remaining generalizing i w with
  | zero =>
      obtain ⟨-, rfl⟩ := Prod.mk.inj (run_pure_ok hrun)
      refine ⟨[], .refl w', fun a => iff_of_false List.not_mem_nil ?_⟩
      rintro ⟨k, hle, hlt, -⟩
      omega
  | succ remaining ih =>
      have hnext : ∃ u, Accessed w u [.read i, .read i]
          ∧ finiEntries remaining (i + 1) u = .ok ((), w') := by
        obtain ⟨_, u, hnote, hrun⟩ := run_bind_ok hrun
        rw [get_bind, ite_run] at hrun
        split at hrun
        case isTrue =>
            obtain ⟨_, u₁, hdestroy, hrun⟩ := run_bind_ok hrun
            obtain ⟨_, u₂, hnote', hrun⟩ := run_bind_ok hrun
            exact ⟨u₂, (accessed_note hnote).trans
              ((accessed_onSite hdestroy).trans (accessed_note hnote')), hrun⟩
        case isFalse =>
            obtain ⟨_, u₂, hnote', hrun⟩ := run_bind_ok hrun
            exact ⟨u₂, (accessed_note hnote).trans (accessed_note hnote'), hrun⟩
      obtain ⟨u, hfirst, hrun⟩ := hnext
      obtain ⟨l, hl, hmem⟩ := ih hrun
      refine ⟨_, hfirst.trans hl, fun a => ?_⟩
      rw [List.mem_append, hmem, List.mem_pair, or_self]
      constructor
      · rintro (rfl | ⟨k, hle, hlt, rfl⟩)
        · exact ⟨i, le_rfl, by omega, rfl⟩
        · exact ⟨k, by omega, by omega, rfl⟩
      · rintro ⟨k, hle, hlt, rfl⟩
        rcases hle.eq_or_lt with rfl | hlt'
        · exact .inl rfl
        · exact .inr ⟨k, hlt', by omega, rfl⟩

/-- What a run up to `w` with `dpa_cm_fini` up to `w'` is to be like: all accesses are inside the
table, an entry is read only after it was filled, and those that were filled are visited at the end.
`array_create` zeroes nothing. -/
structure Safe (w w' : TableSite) : Prop where
  inside : ∀ a ∈ w'.accesses, a.index < w'.count
  initialised : ∀ pre i post, w'.accesses = pre ++ .read i :: post → .fill i ∈ pre
  visited : ∀ i, .fill i ∈ w.accesses →
    ∃ visits, w'.accesses = w.accesses ++ visits ∧ .read i ∈ visits

section Runs

variable {s : Site} {heap : ℕ → LocalSegment} {calls : List AllocCall}
  (hrun : Stepper.run step (dpaCmInit s heap) calls = some w) (hfini : dpaCmFini w = .ok ((), w'))

include hrun

/-- The table keeps its one entry, and the first access of a run reads it. -/
lemma run_accesses : w.count = 1 ∧ (w.accesses = [] ∨ w.accesses.head? = some (.read 0)) := by
  refine Stepper.run_invariant
    (I := fun w => w.count = 1 ∧ (w.accesses = [] ∨ w.accesses.head? = some (.read 0)))
    ?_ ⟨rfl, .inl rfl⟩ hrun
  rintro u c u' ⟨hcount, hfirst⟩ hstep
  obtain ⟨l, ⟨hcount', haccesses⟩, hl, -⟩ := step_accesses hstep
  refine ⟨hcount'.trans hcount, ?_⟩
  rw [haccesses]
  rcases hfirst with hempty | hhead
  · rwa [hempty, List.nil_append]
  · rw [List.head?_append, hhead]
    exact .inr rfl

include hfini

/-- At the end the entry is read once more. -/
lemma fini_accesses : ∃ l, Accessed w w' l ∧ ∀ a, a ∈ l ↔ a = .read 0 := by
  rw [dpaCmFini, get_bind, (run_accesses hrun).1] at hfini
  obtain ⟨l, hl, hmem⟩ := finiEntries_accesses hfini
  refine ⟨l, hl, fun a => (hmem a).trans ⟨?_, fun ha => ⟨0, le_rfl, Nat.one_pos, ha⟩⟩⟩
  rintro ⟨k, -, hlt, rfl⟩
  obtain rfl : k = 0 := by omega
  rfl

/-- All accesses are inside the table exactly if no search goes beyond its first entry. -/
theorem inside_iff : (∀ a ∈ w'.accesses, a.index < w'.count)
    ↔ Stepper.Meets step StaysFirst (dpaCmInit s heap) calls := by
  obtain ⟨l, hl, hmem⟩ := fini_accesses hrun hfini
  have hcount : w'.count = 1 := hl.count.trans (run_accesses hrun).1
  calc (∀ a ∈ w'.accesses, a.index < w'.count) ↔ ∀ a ∈ w.accesses, a.index = 0 := by
        simp only [hcount, Nat.lt_one_iff]
        rw [hl.accesses, List.forall_mem_append, and_iff_left]
        intro a ha
        rw [(hmem a).1 ha]
        rfl
    _ ↔ (∀ a ∈ (dpaCmInit s heap).accesses, a.index = 0)
          ∧ Stepper.Meets step StaysFirst (dpaCmInit s heap) calls := by
        refine Stepper.holds_iff_meets (P := fun w => ∀ a ∈ w.accesses, a.index = 0) ?_ hrun
        intro u c u' hstep
        obtain ⟨l, ⟨-, haccesses⟩, -, hstays⟩ := step_accesses hstep
        rw [haccesses, List.forall_mem_append, hstays]
        rfl
    _ ↔ _ := and_iff_right nofun

/-- No run is safe: the first entry is read before it was filled. -/
theorem never_safe : ¬ Safe w w' := by
  intro h
  obtain ⟨l, hl, hmem⟩ := fini_accesses hrun hfini
  have hhead : w'.accesses.head? = some (.read 0) := by
    rw [hl.accesses]
    rcases (run_accesses hrun).2 with hempty | hhead
    · rw [hempty, List.nil_append]
      cases l with
      | nil => exact absurd ((hmem (.read 0)).2 rfl) List.not_mem_nil
      | cons a rest => rw [(hmem a).1 List.mem_cons_self, List.head?_cons]
    · rw [List.head?_append, hhead]
      rfl
  obtain ⟨rest, hrest⟩ := List.head?_eq_some_iff.1 hhead
  exact absurd (h.initialised [] 0 rest hrest) List.not_mem_nil

end Runs

/-- A heap of zeroes. -/
def zeroes : ℕ → LocalSegment := Process.granted.site.localSegmentsInfo

/-- One allocation, and the end. -/
theorem never_safe_oneCall : ∃ w w',
    Stepper.run step (dpaCmInit Process.granted.site zeroes) [Allocations.aCall] = some w
      ∧ dpaCmFini w = .ok ((), w') ∧ ¬ Safe w w' := by
  have hview : ((Stepper.run step (dpaCmInit Process.granted.site zeroes) [Allocations.aCall]).bind
      fun w => match dpaCmFini w with
        | .ok _ => some ()
        | .error _ => none) = some () := by decide +kernel
  obtain ⟨w, hrun, hview⟩ := Option.bind_eq_some_iff.1 hview
  cases hfini : dpaCmFini w with
  | error e =>
      rw [hfini] at hview
      cases hview
  | ok r => exact ⟨w, r.2, hrun, hfini, never_safe hrun hfini⟩

/-- Even from a heap of zeroes, the third allocation goes to an entry outside the table, where it
makes a segment that is not visited at the end. -/
theorem outside_table : ∃ w w',
    Stepper.run step (dpaCmInit Process.granted.site zeroes)
        [Allocations.aCall, Allocations.aCall, Allocations.aCall] = some w
      ∧ dpaCmFini w = .ok ((), w') ∧ ¬ Safe w w' := by
  have hview : ((Stepper.run step (dpaCmInit Process.granted.site zeroes)
      [Allocations.aCall, Allocations.aCall, Allocations.aCall]).bind
      fun w => match dpaCmFini w with
        | .ok r => some (r.2.count, decide (.fill 1 ∈ r.2.accesses))
        | .error _ => none) = some (1, true) := by decide +kernel
  obtain ⟨w, hrun, hview⟩ := Option.bind_eq_some_iff.1 hview
  cases hfini : dpaCmFini w with
  | error e =>
      rw [hfini] at hview
      cases hview
  | ok r =>
      rw [hfini] at hview
      obtain ⟨hcount, hfill⟩ := Prod.mk.inj (Option.some.inj hview)
      refine ⟨w, r.2, hrun, hfini, fun h => ?_⟩
      have hinside := h.inside _ (of_decide_eq_true hfill)
      rw [hcount] at hinside
      exact absurd hinside (by decide)

end TableSite

end DpaProvider
