import DpaProvider.Cm.Process
import DpaProvider.Library.Stepper

/-!
Which connection interrupts the reads of the event queues wait for.

An event queue has one progress slot.  `dpa_listen`, `dpa_connect` and `dpa_accept` put their
endpoint into it, over whatever was there, and `dpa_pep_close` clears it.  So an endpoint that waits
for a message is polled as long as it is alone on its queue: `polling_covers`.
-/

namespace DpaProvider

open Effect Site

namespace Process

/-- The event queue bound to an endpoint. -/
def bound (p : Process) : Progress → Option ℕ
  | .progressPepEq k => (p.peps k).eq
  | .progressEpEq k => (p.eps k).eq

/-- The interrupt on which an endpoint waits for connection messages. -/
def awaited (p : Process) : Progress → Option Handle
  | .progressPepEq k => (p.peps k).interrupt
  | .progressEpEq k => (p.eps k).connectInterrupt

/-- A read of the queue begins with a wait for the interrupt. -/
def Polls (p : Process) (q : ℕ) (interrupt : Option Handle) : Prop :=
  ∀ timeout r p', p.makeQueueProgress q timeout = .ok (r, p') →
    p'.site.dpa.calls[p.site.dpa.calls.length]? =
      some (.waitForDataInterrupt interrupt (if 0 ≤ timeout then some timeout else none))

end Process

/-- A process, and the endpoints that wait for a connection message: the passive ones between a
successful `dpa_listen` and their close, the active ones between a successful `dpa_connect` or
`dpa_accept` and the end of their handshake. -/
structure Polling where
  process : Process
  waiting : Progress → Bool

namespace Polling

variable {w w' : Polling}

/-- The calls, and a read of an event queue. -/
inductive Event where
  | dpaListen (k : ℕ)
  | dpaConnect (k : ℕ)
  | dpaAccept (k : ℕ)
  | dpaPepClose (k : ℕ)
  | read (q : ℕ) (timeout : ℤ)

/-- The endpoint waits from now on, if the call that makes it wait has succeeded. -/
def started (w : Polling) (u : Progress) (r : FiErr × Process) : Polling where
  process := r.2
  waiting := if r.1 = .success then Function.update w.waiting u true else w.waiting

/-- An endpoint whose wait is not going to time out. -/
def finishes (w : Polling) (q : ℕ) (u : Progress) : Bool :=
  (w.process.site.eqs q).progress = some u && w.process.site.dpa.reply.err ≠ .timeout

def step (w : Polling) : Event → Option Polling
  | .dpaListen k =>
      (w.process.onPep k Site.dpaListen).toOption.map (w.started (.progressPepEq k))
  | .dpaConnect k =>
      (w.process.onEp k Site.dpaConnect).toOption.map (w.started (.progressEpEq k))
  | .dpaAccept k =>
      (w.process.onEp k Site.dpaAccept).toOption.map (w.started (.progressEpEq k))
  | .dpaPepClose k => (w.process.onPep k Site.dpaPepClose).toOption.map fun r =>
      { process := r.2, waiting := Function.update w.waiting (.progressPepEq k) false }
  | .read q timeout => (w.process.makeQueueProgress q timeout).toOption.map fun r =>
      -- the handshake of an active endpoint ends, a passive one listens on
      { process := r.2
        waiting := fun u => match u with
          | .progressPepEq _ => w.waiting u
          | .progressEpEq _ => w.waiting u && !w.finishes q u }

/-- Every endpoint that waits is polled by the reads of its queue. -/
def Covered (w : Polling) : Prop :=
  ∀ u, w.waiting u = true →
    ∃ q, w.process.bound u = some q ∧ w.process.Polls q (w.process.awaited u)

/-- No other endpoint waits on the event queue of this one. -/
def Alone (w : Polling) (u : Progress) : Prop :=
  ∀ v, w.waiting v = true → w.process.bound v = w.process.bound u → v = u

/-- An endpoint is started, and a passive one closed, while no other waits on its queue. -/
def Fine (w : Polling) : Event → Prop
  | .dpaListen k | .dpaPepClose k => w.Alone (.progressPepEq k)
  | .dpaConnect k | .dpaAccept k => w.Alone (.progressEpEq k)
  | .read .. => True

/-! ### The progress slots -/

/-- The slots. -/
def slots (s : Site) (q : ℕ) : Option Progress := (s.eqs q).progress

/-- The slots, and to whom they may be set. -/
def wiring : Frame Site :=
  .same fun s => (slots s, s.host.ep.fid, s.host.ep.eq, s.pep.fid, s.pep.eq)

lemma ignores_wiring {part : Part} (h : part ≠ .slots) : Ignores wiring part := by
  intro s x
  cases part with
  | events =>
      obtain ⟨q, event⟩ := x
      have hslots : slots (Part.apply s .events (q, event)) = slots s := by
        funext r
        rcases eq_or_ne r q with rfl | hne
        · simp [slots, Part.apply]
        · simp [slots, Part.apply, hne]
      exact congrArg (·, s.host.ep.fid, s.host.ep.eq, s.pep.fid, s.pep.eq) hslots
  | slots => exact absurd rfl h
  | _ => rfl

lemma slots_setProgress {q : ℕ} {progress : Option Progress} {s s' : Site} {a : Unit}
    (hrun : setProgress q progress s = .ok (a, s')) :
    s'.host = s.host ∧ s'.pep = s.pep ∧ slots s' = Function.update (slots s) q progress := by
  obtain ⟨-, rfl⟩ := Prod.mk.inj (Except.ok.inj hrun)
  refine ⟨rfl, rfl, funext fun r => ?_⟩
  rcases eq_or_ne r q with rfl | hne
  · simp [slots]
  · simp [slots, hne]

section Calls

variable {s s' : Site}

/-- A call that starts an endpoint sets the slot of its queue, or fails. -/
def Starts (bound : Option ℕ) (u : Progress) (s : Site) (r : FiErr) (s' : Site) : Prop :=
  (r ≠ .success ∧ slots s' = slots s)
    ∨ (r = .success ∧ ∃ q, bound = some q ∧ slots s' = Function.update (slots s) q (some u))

lemma dpaConnect_starts {r : FiErr} (hrun : dpaConnect s = .ok (r, s')) :
    Starts s.host.ep.eq (.progressEpEq s.host.ep.fid) s r s' := by
  rw [dpaConnect, get_bind] at hrun
  cases heq : s.host.ep.eq with
  | none =>
      simp only [heq] at hrun
      obtain ⟨rfl, rfl⟩ := Prod.mk.inj (Except.ok.inj hrun)
      exact .inl ⟨nofun, rfl⟩
  | some q =>
      simp only [heq] at hrun
      obtain ⟨err, s₁, hconnect, hrun⟩ := run_bind_ok hrun
      have hwiring := keeps_ctrlConnectMsg (F := wiring) (ignores_wiring nofun)
        (ignores_wiring nofun) (ignores_wiring nofun) (ignores_wiring nofun) s err s₁ hconnect
      have hslots : slots s₁ = slots s := congrArg Prod.fst hwiring
      rw [ite_run] at hrun
      split at hrun
      case isTrue =>
          obtain ⟨rfl, rfl⟩ := Prod.mk.inj (Except.ok.inj hrun)
          exact .inl ⟨nofun, hslots⟩
      case isFalse =>
          obtain ⟨_, s₂, hset, hrun⟩ := run_bind_ok hrun
          obtain ⟨rfl, rfl⟩ := Prod.mk.inj (Except.ok.inj hrun)
          exact .inr ⟨rfl, q, rfl, hslots ▸ (slots_setProgress hset).2.2⟩

lemma dpaAccept_starts {r : FiErr} (hrun : dpaAccept s = .ok (r, s')) :
    Starts s.host.ep.eq (.progressEpEq s.host.ep.fid) s r s' := by
  rw [dpaAccept] at hrun
  obtain ⟨err, s₁, haccept, hrun⟩ := run_bind_ok hrun
  have hwiring := keeps_sendMsgAcceptData (F := wiring) (.of_ignores fun _ h _ => ignores_wiring h)
    s err s₁ haccept
  simp only [wiring, Frame.same, Prod.mk.injEq] at hwiring
  obtain ⟨hslots, hfid, heq, -, -⟩ := hwiring
  rw [ite_run] at hrun
  split at hrun
  case isTrue =>
      obtain ⟨rfl, rfl⟩ := Prod.mk.inj (Except.ok.inj hrun)
      exact .inl ⟨nofun, hslots⟩
  case isFalse =>
      rw [get_bind] at hrun
      cases hq : s₁.host.ep.eq with
      | none =>
          simp only [hq] at hrun
          exact absurd hrun throw_ne_ok
      | some q =>
          simp only [hq] at hrun
          obtain ⟨_, s₂, hset, hrun⟩ := run_bind_ok hrun
          obtain ⟨rfl, rfl⟩ := Prod.mk.inj (Except.ok.inj hrun)
          refine .inr ⟨rfl, q, heq.symm.trans hq, ?_⟩
          rw [(slots_setProgress hset).2.2, hslots, hfid]

lemma dpaListen_starts {r : FiErr} (hrun : dpaListen s = .ok (r, s')) :
    Starts s.pep.eq (.progressPepEq s.pep.fid) s r s' := by
  rw [dpaListen, get_bind] at hrun
  cases heq : s.pep.eq with
  | none =>
      simp only [heq] at hrun
      obtain ⟨rfl, rfl⟩ := Prod.mk.inj (Except.ok.inj hrun)
      exact .inl ⟨nofun, rfl⟩
  | some q =>
      simp only [heq, lib_bind, ite_run, setPep_bind] at hrun
      split_ifs at hrun
      case neg =>
          obtain ⟨_, s₁, hset, hrun⟩ := run_bind_ok hrun
          obtain ⟨rfl, rfl⟩ := Prod.mk.inj (Except.ok.inj hrun)
          exact .inr ⟨rfl, q, rfl, (slots_setProgress hset).2.2⟩
      all_goals
        obtain ⟨rfl, rfl⟩ := Prod.mk.inj (Except.ok.inj hrun)
        exact .inl ⟨nofun, rfl⟩

lemma dpaPepClose_slots {r : FiErr} (hrun : dpaPepClose s = .ok (r, s')) :
    (s.pep.eq = none → slots s' = slots s)
      ∧ ∀ q, s.pep.eq = some q → slots s' = Function.update (slots s) q none := by
  rw [dpaPepClose, get_bind] at hrun
  cases heq : s.pep.eq with
  | none =>
      simp only [heq, lib_bind] at hrun
      obtain ⟨-, rfl⟩ := Prod.mk.inj (Except.ok.inj hrun)
      exact ⟨fun _ => rfl, nofun⟩
  | some q =>
      simp only [heq] at hrun
      obtain ⟨_, s₁, hset, hrun⟩ := run_bind_ok hrun
      obtain ⟨-, rfl⟩ := Prod.mk.inj (Except.ok.inj hrun)
      refine ⟨nofun, fun r hr => ?_⟩
      obtain rfl := Option.some.inj hr
      exact (slots_setProgress hset).2.2

end Calls

/-! ### Endpoints in a process -/

/-- Who the endpoints are. -/
def identity : Frame Site := .same fun s => (s.host.ep.fid, s.host.ep.eq, s.pep.fid, s.pep.eq)

lemma ignores_identity (part : Part) : Ignores identity part := by
  intro s x
  cases part <;> rfl

variable {p p' : Process} {k : ℕ} {α : Type} {a : α} {m : Prog α}

lemma onEp_identity (hm : Keeps identity m) (h : p.onEp k m = .ok (a, p')) :
    p'.bound = p.bound ∧ (p.Numbered → p'.Numbered) := by
  obtain ⟨s, hrun, rfl⟩ := Process.onEp_ok h
  have hidentity := hm _ a s hrun
  simp only [identity, Frame.same, Prod.mk.injEq] at hidentity
  obtain ⟨hfid, heq, -, -⟩ := hidentity
  constructor
  · funext u
    cases u with
    | progressPepEq j => rfl
    | progressEpEq j =>
        rcases eq_or_ne j k with rfl | hne
        · simp only [Process.bound, Function.update_self]
          exact heq
        · simp [Process.bound, hne]
  · rintro ⟨hep, hpep⟩
    refine ⟨fun j => ?_, hpep⟩
    rcases eq_or_ne j k with rfl | hne
    · simpa using hfid.trans (hep j)
    · simpa [hne] using hep j

lemma onPep_identity (hm : Keeps identity m) (h : p.onPep k m = .ok (a, p')) :
    p'.bound = p.bound ∧ (p.Numbered → p'.Numbered) := by
  obtain ⟨s, hrun, rfl⟩ := Process.onPep_ok h
  have hidentity := hm _ a s hrun
  simp only [identity, Frame.same, Prod.mk.injEq] at hidentity
  obtain ⟨-, -, hfid, heq⟩ := hidentity
  constructor
  · funext u
    cases u with
    | progressEpEq j => rfl
    | progressPepEq j =>
        rcases eq_or_ne j k with rfl | hne
        · simp only [Process.bound, Function.update_self]
          exact heq
        · simp [Process.bound, hne]
  · rintro ⟨hep, hpep⟩
    refine ⟨hep, fun j => ?_⟩
    rcases eq_or_ne j k with rfl | hne
    · simpa using hfid.trans (hpep j)
    · simpa [hne] using hpep j

/-! ### The invariant -/

/-- The slot of the queue of every endpoint that waits is set to it. -/
structure Slotted (w : Polling) : Prop where
  numbered : w.process.Numbered
  slot : ∀ u, w.waiting u = true →
    ∃ q, w.process.bound u = some q ∧ slots w.process.site q = some u

/-- The record of calls grows. -/
def calls : Frame Site := .grows fun s => s.dpa.calls

lemma ignores_calls (part : Part) : Ignores calls part := by
  intro s x
  cases part with
  | library | numbers => exact List.prefix_append _ _
  | _ => exact List.prefix_rfl

/-- A progress function begins with its wait. -/
lemma first_wait {interrupt : Option Handle} {timeout r : ℤ}
    {f : DpaError × SegmentData → Prog ℤ} (hf : ∀ x, Keeps calls (f x)) {s s' : Site}
    (hrun : (progressEq interrupt timeout >>= f) s = .ok (r, s')) :
    s'.dpa.calls[s.dpa.calls.length]? =
      some (.waitForDataInterrupt interrupt (if 0 ≤ timeout then some timeout else none)) := by
  obtain ⟨x, s₁, hwait, hrest⟩ := run_bind_ok hrun
  obtain ⟨l, hl⟩ := hf x s₁ r s' hrest
  obtain ⟨rfl, rfl⟩ := Prod.mk.inj (run_progressEq_ok hwait)
  have hcalls : (s.dpa.call _).calls ++ l = s'.dpa.calls := hl
  rw [← hcalls, List.getElem?_append_left (by simp)]
  exact Dpa.getElem?_handle _ _

/-- A read of a queue polls the endpoint in its slot. -/
lemma polls_of_slot {q : ℕ} {u : Progress} (h : slots p.site q = some u) :
    p.Polls q (p.awaited u) := by
  intro timeout r p' hrun
  rw [Process.makeQueueProgress] at hrun
  cases u with
  | progressPepEq k =>
      rw [show (p.site.eqs q).progress = some (.progressPepEq k) from h] at hrun
      obtain ⟨s, hprogress, rfl⟩ := Process.onPep_ok hrun
      rw [progressPepEq, get_bind] at hprogress
      refine first_wait (s := p.withPep k) (fun x => ?_) hprogress
      exact keeps_ite (keeps_pure _) (keeps_bind
        (keeps_connectionRequest (ignores_calls _) _) fun _ => keeps_pure _)
  | progressEpEq k =>
      rw [show (p.site.eqs q).progress = some (.progressEpEq k) from h] at hrun
      obtain ⟨s, hprogress, rfl⟩ := Process.onEp_ok hrun
      rw [progressEpEq, get_bind] at hprogress
      refine first_wait (s := p.withEp k) (fun x => ?_) hprogress
      exact keeps_ite (keeps_pure _)
        (keeps_finishConnection (.of_ignores fun _ _ _ => ignores_calls _) _ _)

namespace Slotted

lemma covered (h : Slotted w) : Covered w := by
  intro u hu
  obtain ⟨q, hq, hslot⟩ := h.slot u hu
  exact ⟨q, hq, polls_of_slot hslot⟩

/-- A call that starts an endpoint alone on its queue. -/
lemma started (h : Slotted w) {u : Progress} {r : FiErr × Process} (halone : w.Alone u)
    (hbound : r.2.bound = w.process.bound) (hnumbered : r.2.Numbered)
    (hstarts : Starts (w.process.bound u) u w.process.site r.1 r.2.site) :
    Slotted (w.started u r) where
  numbered := hnumbered
  slot := by
    intro v hv
    change ∃ q, r.2.bound v = some q ∧ slots r.2.site q = some v
    rw [hbound]
    rcases hstarts with ⟨hfail, hslots⟩ | ⟨hok, q, hq, hslots⟩
    · rw [Polling.started, if_neg hfail] at hv
      rw [hslots]
      exact h.slot v hv
    · rw [hslots]
      rw [Polling.started, if_pos hok] at hv
      rcases eq_or_ne v u with rfl | hne
      · exact ⟨q, hq, Function.update_self ..⟩
      · replace hv : w.waiting v = true := (Function.update_of_ne hne ..).symm.trans hv
        obtain ⟨q', hq', hslot⟩ := h.slot v hv
        have hother : q' ≠ q := by
          rintro rfl
          exact hne (halone v hv (hq'.trans hq.symm))
        exact ⟨q', hq', (Function.update_of_ne hother ..).trans hslot⟩

/-- A passive endpoint alone on its queue is closed. -/
lemma closed (h : Slotted w) {k : ℕ} (halone : w.Alone (.progressPepEq k)) {p' : Process}
    (hbound : p'.bound = w.process.bound) (hnumbered : p'.Numbered)
    (hnone : (w.process.peps k).eq = none → slots p'.site = slots w.process.site)
    (hsome : ∀ q, (w.process.peps k).eq = some q →
      slots p'.site = Function.update (slots w.process.site) q none) :
    Slotted ⟨p', Function.update w.waiting (.progressPepEq k) false⟩ where
  numbered := hnumbered
  slot := by
    intro v hv
    change ∃ q, p'.bound v = some q ∧ slots p'.site q = some v
    rcases eq_or_ne v (.progressPepEq k) with rfl | hne
    · exact absurd ((Function.update_self ..).symm.trans hv) Bool.false_ne_true
    · replace hv : w.waiting v = true := (Function.update_of_ne hne ..).symm.trans hv
      obtain ⟨q', hq', hslot⟩ := h.slot v hv
      rw [hbound]
      refine ⟨q', hq', ?_⟩
      cases hq : (w.process.peps k).eq with
      | none => rw [hnone hq, hslot]
      | some q =>
          have hother : q' ≠ q := by
            rintro rfl
            exact hne (halone v hv (hq'.trans hq.symm))
          rw [hsome q hq]
          exact (Function.update_of_ne hother ..).trans hslot

/-- A read leaves the slots as they are. -/
lemma read (h : Slotted w) {q : ℕ} {timeout r : ℤ} {p' : Process}
    (hrun : w.process.makeQueueProgress q timeout = .ok (r, p')) {waiting : Progress → Bool}
    (hwaiting : ∀ u, waiting u = true → w.waiting u = true) : Slotted ⟨p', waiting⟩ := by
  obtain ⟨hbound, hnumbered, hslots⟩ : p'.bound = w.process.bound ∧ p'.Numbered
      ∧ slots p'.site = slots w.process.site := by
    rw [Process.makeQueueProgress] at hrun
    split at hrun
    · obtain ⟨-, rfl⟩ := Prod.mk.inj (Except.ok.inj hrun)
      exact ⟨rfl, h.numbered, rfl⟩
    · obtain ⟨hbound, hnumbered⟩ := onPep_identity
        (keeps_progressPepEq (ignores_identity _) (ignores_identity _) _) hrun
      obtain ⟨s, hprogress, rfl⟩ := Process.onPep_ok hrun
      have hwiring := keeps_progressPepEq (F := wiring) (ignores_wiring nofun)
        (ignores_wiring nofun) _ _ _ _ hprogress
      exact ⟨hbound, hnumbered h.numbered, congrArg Prod.fst hwiring⟩
    · obtain ⟨hbound, hnumbered⟩ := onEp_identity
        (keeps_progressEpEq (.of_ignores fun _ _ _ => ignores_identity _) _) hrun
      obtain ⟨s, hprogress, rfl⟩ := Process.onEp_ok hrun
      have hwiring := keeps_progressEpEq (F := wiring) (.of_ignores fun _ h _ => ignores_wiring h)
        _ _ _ _ hprogress
      exact ⟨hbound, hnumbered h.numbered, congrArg Prod.fst hwiring⟩
  refine ⟨hnumbered, fun u hu => ?_⟩
  obtain ⟨q', hq', hslot⟩ := h.slot u (hwaiting u hu)
  exact ⟨q', (congrFun hbound u).trans hq', (congrFun hslots q').trans hslot⟩

/-- Every step that meets the condition keeps the slots. -/
lemma step (h : Slotted w) {e : Event} (hfine : w.Fine e) (hstep : w.step e = some w') :
    Slotted w' := by
  cases e with
  | dpaListen k =>
      obtain ⟨⟨r, p'⟩, hrun, rfl⟩ := Option.map_eq_some_iff.1 hstep
      replace hrun := toOption_eq_some hrun
      obtain ⟨hbound, hnumbered⟩ := onPep_identity
        (keeps_dpaListen (ignores_identity _) (ignores_identity _) (ignores_identity _)
          (ignores_identity _)) hrun
      obtain ⟨s, hcall, rfl⟩ := Process.onPep_ok hrun
      refine h.started hfine hbound (hnumbered h.numbered) ?_
      have hstarts := dpaListen_starts hcall
      rw [show (w.process.withPep k).pep.fid = k from h.numbered.pep k] at hstarts
      exact hstarts
  | dpaConnect k =>
      obtain ⟨⟨r, p'⟩, hrun, rfl⟩ := Option.map_eq_some_iff.1 hstep
      replace hrun := toOption_eq_some hrun
      obtain ⟨hbound, hnumbered⟩ := onEp_identity (keeps_dpaConnect (ignores_identity _)
        (ignores_identity _) (ignores_identity _) (ignores_identity _) (ignores_identity _)) hrun
      obtain ⟨s, hcall, rfl⟩ := Process.onEp_ok hrun
      refine h.started hfine hbound (hnumbered h.numbered) ?_
      have hstarts := dpaConnect_starts hcall
      rw [show (w.process.withEp k).host.ep.fid = k from h.numbered.ep k] at hstarts
      exact hstarts
  | dpaAccept k =>
      obtain ⟨⟨r, p'⟩, hrun, rfl⟩ := Option.map_eq_some_iff.1 hstep
      replace hrun := toOption_eq_some hrun
      obtain ⟨hbound, hnumbered⟩ := onEp_identity
        (keeps_dpaAccept (.of_ignores fun _ _ _ => ignores_identity _) (ignores_identity _)) hrun
      obtain ⟨s, hcall, rfl⟩ := Process.onEp_ok hrun
      refine h.started hfine hbound (hnumbered h.numbered) ?_
      have hstarts := dpaAccept_starts hcall
      rw [show (w.process.withEp k).host.ep.fid = k from h.numbered.ep k] at hstarts
      exact hstarts
  | dpaPepClose k =>
      obtain ⟨⟨r, p'⟩, hrun, rfl⟩ := Option.map_eq_some_iff.1 hstep
      replace hrun := toOption_eq_some hrun
      obtain ⟨hbound, hnumbered⟩ := onPep_identity
        (keeps_dpaPepClose (ignores_identity _) (ignores_identity _) (ignores_identity _)) hrun
      obtain ⟨s, hcall, rfl⟩ := Process.onPep_ok hrun
      obtain ⟨hnone, hsome⟩ := dpaPepClose_slots hcall
      exact h.closed hfine hbound (hnumbered h.numbered) hnone hsome
  | read q timeout =>
      obtain ⟨⟨r, p'⟩, hrun, rfl⟩ := Option.map_eq_some_iff.1 hstep
      refine h.read (toOption_eq_some hrun) fun u hu => ?_
      cases u with
      | progressPepEq k => exact hu
      | progressEpEq k => exact (Bool.and_eq_true_iff.1 hu).1

end Slotted

/-- Reading the event queues polls every endpoint that waits, in every run in which an endpoint is
started, and a passive one closed, only while no other endpoint waits on its queue. -/
theorem polling_covers {p : Process} (hnumbered : p.Numbered) {events : List Event}
    (hfine : Stepper.Meets step Fine ⟨p, fun _ => false⟩ events)
    (hrun : Stepper.run step ⟨p, fun _ => false⟩ events = some w) : Covered w := by
  have hstart : Slotted ⟨p, fun _ => false⟩ := ⟨hnumbered, nofun⟩
  exact (Stepper.run_induction (I := Slotted) (fun _ _ _ h hok hs => h.step hok hs) hstart hfine
    hrun).covered

/-- A server that listens and reads its event queue. -/
theorem polling_covers_server :
    ∃ w, Stepper.run step ⟨.granted, fun _ => false⟩ [.dpaListen 0, .read 0 5] = some w
      ∧ w.waiting (.progressPepEq 0) = true ∧ Covered w := by
  have hview : (Stepper.run step ⟨.granted, fun _ => false⟩ [.dpaListen 0, .read 0 5]).map
      (fun w => w.waiting (.progressPepEq 0)) = some true := by decide +kernel
  obtain ⟨w, hrun, hwaiting⟩ := Option.map_eq_some_iff.1 hview
  refine ⟨w, hrun, hwaiting, polling_covers Process.numbered_granted ?_ hrun⟩
  exact ⟨fun v hv => absurd hv Bool.false_ne_true, fun _ _ => ⟨trivial, fun _ _ => trivial⟩⟩

/-- The server accepts a connection on the same event queue: its reads no longer wait for other
requests. -/
theorem polling_dropped :
    ∃ w, Stepper.run step ⟨.granted, fun _ => false⟩ [.dpaListen 0, .dpaAccept 0] = some w
      ∧ ¬ Covered w := by
  have hview : ((Stepper.run step ⟨.granted, fun _ => false⟩ [.dpaListen 0, .dpaAccept 0]).bind
      fun w => (w.process.makeQueueProgress 0 5).toOption.map fun r =>
        (w.waiting (.progressPepEq 0), w.process.bound (.progressPepEq 0),
          w.process.awaited (.progressPepEq 0),
          r.2.site.dpa.calls[w.process.site.dpa.calls.length]?))
      = some (true, some 0, some 1, some (.waitForDataInterrupt (some 3) (some 5))) := by
    decide +kernel
  obtain ⟨w, hrun, hview⟩ := Option.bind_eq_some_iff.1 hview
  obtain ⟨⟨r, p'⟩, hread, hview⟩ := Option.map_eq_some_iff.1 hview
  simp only [Prod.mk.injEq] at hview
  obtain ⟨hwaiting, hbound, hawaited, hfirst⟩ := hview
  refine ⟨w, hrun, fun h => ?_⟩
  obtain ⟨q, hq, hpolls⟩ := h _ hwaiting
  obtain rfl : 0 = q := Option.some.inj (hbound.symm.trans hq)
  have hwait := hpolls 5 r p' (toOption_eq_some hread)
  rw [hfirst, hawaited] at hwait
  exact absurd hwait (by simp)

end Polling

end DpaProvider
