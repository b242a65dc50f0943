import DpaProvider.Library.Mask
import DpaProvider.Library.Stepper
import DpaProvider.Msg.Endpoint

/-!
Manual progress.

Reading a completion queue or a counter makes the progress of one endpoint: that of the last
bind.  `bindProgress` sets the pair of function and argument of the queue, `dpaEpBind` lets
endpoints use it, and `reading` are the calls that a read then makes.  `Covered` says that these
are calls for every endpoint that uses the queue, and for no other.  `progress_covered`: this
holds after every run of binds in which each bind takes over what is needed, and a bind that
does not breaks it at once.
-/

namespace DpaProvider

/-- The functions in the `queue_progress` of completion queues and counters. -/
inductive ProgressFunc where
  | progressSendQueue
  | progressRecvQueue
  | progressSendrecvQueues
  deriving DecidableEq, Repr

/-- The `queue_progress`. -/
structure QueueProgress where
  func : Option ProgressFunc
  arg : Option ℕ
  deriving DecidableEq, Repr

/-- A completion queue or a counter. -/
inductive Queue where
  | cq (n : ℕ)
  | cntr (n : ℕ)
  deriving DecidableEq, Repr

namespace QueueProgress

/-- `progress_queue`, for a status of `wait_interrupt`: the time left, and the calls of
`process_send_queue` and `process_recv_queue`. -/
def progressQueue (wait : ℤ → DpaError) (ep : Option ℕ) (dir : Direction) (timeout : ℤ) :
    ℤ × List (Option ℕ × Direction) :=
  if timeout ≠ 0 then
    match wait timeout with
    | .timeout => (0, [(ep, dir)])
    | .ok => (timeout, [(ep, dir)])
    | _ => (0, [])
  else (timeout, [(ep, dir)])

/-- `progress_send_queue`, `progress_recv_queue` and `progress_sendrecv_queues`; the interrupts
of the two directions may give different statuses. -/
def call (wait : Direction → ℤ → DpaError) (ep : Option ℕ) (timeout : ℤ) :
    ProgressFunc → ℤ × List (Option ℕ × Direction)
  | .progressSendQueue => progressQueue (wait .send) ep .send timeout
  | .progressRecvQueue => progressQueue (wait .recv) ep .recv timeout
  | .progressSendrecvQueues =>
      let remaining := progressQueue (wait .send) ep .send timeout
      let r := progressQueue (wait .recv) ep .recv remaining.1
      (r.1, remaining.2 ++ r.2)

/-- `make_queue_progress`. -/
def makeQueueProgress (wait : Direction → ℤ → DpaError) (p : QueueProgress) (timeout : ℤ) :
    ℤ × List (Option ℕ × Direction) :=
  match p.func with
  | none => (timeout, [])
  | some func => call wait p.arg timeout func

end QueueProgress

/-- The endpoints, and the progress of the queues.  `boundFor` records the endpoint whose bind
has set the function of a queue. -/
structure Bindings where
  eps : ℕ → Endpoint
  progress : Queue → QueueProgress
  boundFor : Queue → Option ℕ

namespace Bindings

variable {s s' : Bindings} {q : Queue} {ep : ℕ} {flags : UInt64} {dir : Direction}

/-- The function that `bind_progress` sets, if any. -/
def boundFunc (flags : UInt64) : Option ProgressFunc :=
  if flags ||| fiRecv ||| fiSend = flags then some .progressSendrecvQueues
  else if hasAny flags fiRecv then some .progressRecvQueue
  else if hasAny flags fiSend then some .progressSendQueue
  else none

/-- `bind_progress`. -/
def bindProgress (s : Bindings) (ep : ℕ) (q : Queue) (flags : UInt64) : Bindings :=
  if (s.eps ep).autoProgress then s
  else
    match boundFunc flags with
    | none =>
        { s with progress := Function.update s.progress q ⟨(s.progress q).func, some ep⟩ }
    | some func =>
        { s with
          progress := Function.update s.progress q ⟨some func, some ep⟩
          boundFor := Function.update s.boundFor q (some ep) }

/-- The queue is entered in an endpoint. -/
def enter (q : Queue) (flags : UInt64) (ep : Endpoint) : Endpoint :=
  match q with
  | .cq n =>
      { ep with
        sendCq := if hasAny flags fiSend then some n else ep.sendCq
        readCq := if hasAny flags (fiSend ||| fiRead) then some n else ep.readCq
        writeCq := if hasAny flags (fiSend ||| fiWrite) then some n else ep.writeCq
        recvCq := if hasAny flags fiRecv then some n else ep.recvCq }
  | .cntr n =>
      { ep with
        sendCntr := if hasAny flags fiSend then some n else ep.sendCntr
        readCntr := if hasAny flags (fiSend ||| fiRead) then some n else ep.readCntr
        writeCntr := if hasAny flags (fiSend ||| fiWrite) then some n else ep.writeCntr
        recvCntr := if hasAny flags fiRecv then some n else ep.recvCntr }

/-- `dpa_ep_bind`, for a completion queue or a counter of the domain of the endpoint. -/
def dpaEpBind (s : Bindings) (ep : ℕ) (q : Queue) (flags : UInt64) : FiErr × Bindings :=
  if (s.eps ep).connected then (.eisconn, s)
  else
    let s := s.bindProgress ep q flags
    (.success, { s with eps := Function.update s.eps ep (enter q flags (s.eps ep)) })

/-- The calls that a read of the queue makes: each begins with progress that does not wait. -/
def reading (wait : Direction → ℤ → DpaError) (s : Bindings) (q : Queue) :
    List (Option ℕ × Direction) := ((s.progress q).makeQueueProgress wait 0).2

/-- The queue is that of an endpoint for a direction. -/
def IsQueueOf (q : Queue) (dir : Direction) (ep : Endpoint) : Prop :=
  match q with
  | .cq n => ep.cq dir = some n
  | .cntr n => ep.cntr dir = some n

/-- The endpoint uses the queue for a direction. -/
def Uses (s : Bindings) (q : Queue) (ep : ℕ) (dir : Direction) : Prop :=
  IsQueueOf q dir (s.eps ep)

/-- A read of the queue makes the progress of every endpoint that uses it, and every call it
makes is for the endpoint that it was bound for. -/
structure Covered (s : Bindings) (q : Queue) : Prop where
  users : ∀ wait ep dir, s.Uses q ep dir → (some ep, dir) ∈ s.reading wait q
  bound : (s.progress q).func ≠ none → (s.progress q).arg = s.boundFor q

/-- The bit of a direction. -/
def dirFlag : Direction → UInt64
  | .send => fiSend
  | .recv => fiRecv

/-- A bind takes over what is needed: no other endpoint uses the queue, and if the bind names a
direction, it names those for which the endpoint uses the queue; if it names none, the queue makes
the progress of this endpoint already, or of no endpoint. -/
def Fine (s : Bindings) (ep : ℕ) (q : Queue) (flags : UInt64) : Prop :=
  (s.eps ep).connected = true ∨
    (∀ e d, s.Uses q e d → e = ep
        ∧ ((∃ d', hasAny flags (dirFlag d') = true) → hasAny flags (dirFlag d) = true))
      ∧ ((∀ d', hasAny flags (dirFlag d') = false) →
        (s.progress q).func ≠ none → (s.progress q).arg = some ep)

/-- No bind yet, with manual progress. -/
structure Unbound (s : Bindings) : Prop where
  manual : ∀ ep, (s.eps ep).autoProgress = false
  unused : ∀ q ep dir, ¬ s.Uses q ep dir
  idle : ∀ q, (s.progress q).func = none

/-- A bind as a step. -/
def step (s : Bindings) (b : ℕ × Queue × UInt64) : Option Bindings :=
  some (s.dpaEpBind b.1 b.2.1 b.2.2).2

/-! ### What a read calls -/

/-- The directions of a progress function. -/
def directions : Option ProgressFunc → List Direction
  | none => []
  | some .progressSendQueue => [.send]
  | some .progressRecvQueue => [.recv]
  | some .progressSendrecvQueues => [.send, .recv]

lemma reading_eq (wait : Direction → ℤ → DpaError) (s : Bindings) (q : Queue) :
    s.reading wait q = (directions (s.progress q).func).map ((s.progress q).arg, ·) := by
  rw [reading, QueueProgress.makeQueueProgress]
  cases (s.progress q).func with
  | none => rfl
  | some func => cases func <;> rfl

/-- To set a set bit changes nothing. -/
lemma or_bit {flags b : UInt64} (hpos : b ≠ 0) (hbit : flags &&& b = 0 ∨ flags &&& b = b) :
    flags ||| b = flags ↔ hasAny flags b = true := by
  rw [hasAny, bne_iff_ne]
  constructor
  · intro h hzero
    apply hpos
    calc b = (flags ||| b) &&& b := Mask.ext fun i => by simp +contextual
      _ = 0 := by rw [h, hzero]
  · intro h
    have hand := hbit.resolve_left h
    calc flags ||| b = flags ||| flags &&& b := by rw [hand]
      _ = flags := Mask.ext fun i => by simp +contextual

lemma or_or {flags b c : UInt64} :
    flags ||| b ||| c = flags ↔ flags ||| b = flags ∧ flags ||| c = flags := by
  constructor
  · intro h
    constructor
    · calc flags ||| b = (flags ||| b ||| c) ||| b := by rw [h]
        _ = flags ||| b ||| c := by rw [UInt64.or_assoc, UInt64.or_comm c b, ← UInt64.or_assoc,
              UInt64.or_assoc flags b b, UInt64.or_self]
        _ = flags := h
    · calc flags ||| c = (flags ||| b ||| c) ||| c := by rw [h]
        _ = flags ||| b ||| c := by rw [UInt64.or_assoc, UInt64.or_self]
        _ = flags := h
  · rintro ⟨hb, hc⟩
    rw [hb, hc]

lemma flag_bit (flags : UInt64) (dir : Direction) :
    flags &&& dirFlag dir = 0 ∨ flags &&& dirFlag dir = dirFlag dir := by
  cases dir with
  | send => exact Mask.and_bit flags 11 (by simp)
  | recv => exact Mask.and_bit flags 10 (by simp)

/-- The function chosen goes the directions that the flags name. -/
lemma mem_directions (flags : UInt64) (dir : Direction) :
    dir ∈ directions (boundFunc flags) ↔ hasAny flags (dirFlag dir) = true := by
  have hrecv := or_bit (b := fiRecv) (by decide) (flag_bit flags .recv)
  have hsend := or_bit (b := fiSend) (by decide) (flag_bit flags .send)
  simp only [boundFunc, or_or, hrecv, hsend]
  cases hr : hasAny flags fiRecv <;> cases hs : hasAny flags fiSend <;> cases dir <;>
    simp [directions, dirFlag, hr, hs]

lemma boundFunc_eq_none {flags : UInt64} :
    boundFunc flags = none ↔ ∀ dir, hasAny flags (dirFlag dir) = false := by
  constructor
  · intro h dir
    rw [← Bool.not_eq_true, ← mem_directions, h]
    exact List.not_mem_nil
  · intro h
    cases hf : boundFunc flags with
    | none => rfl
    | some func =>
        have hmem : ∀ dir, dir ∉ directions (some func) := fun dir hdir => by
          rw [← hf, mem_directions, h dir] at hdir
          exact absurd hdir (by simp)
        cases func with
        | progressSendQueue => exact absurd (List.mem_singleton.2 rfl) (hmem .send)
        | progressRecvQueue => exact absurd (List.mem_singleton.2 rfl) (hmem .recv)
        | progressSendrecvQueues => exact absurd List.mem_cons_self (hmem .send)

lemma covered_iff : s.Covered q ↔
    (∀ e d, s.Uses q e d → (s.progress q).arg = some e ∧ d ∈ directions (s.progress q).func)
      ∧ ((s.progress q).func ≠ none → (s.progress q).arg = s.boundFor q) := by
  have hmem : ∀ wait e d, (some e, d) ∈ s.reading wait q ↔
      (s.progress q).arg = some e ∧ d ∈ directions (s.progress q).func := by
    intro wait e d
    rw [reading_eq, List.mem_map]
    constructor
    · rintro ⟨d', hd', heq⟩
      obtain ⟨harg, rfl⟩ := Prod.mk.inj heq
      exact ⟨harg, hd'⟩
    · rintro ⟨harg, hd⟩
      exact ⟨d, hd, by rw [harg]⟩
  constructor
  · rintro ⟨husers, hbound⟩
    exact ⟨fun e d hu => (hmem (fun _ _ => .ok) e d).1 (husers _ e d hu), hbound⟩
  · rintro ⟨husers, hbound⟩
    exact ⟨fun wait e d hu => (hmem wait e d).2 (husers e d hu), hbound⟩

/-! ### What a bind does -/

lemma isQueueOf_enter {q q' : Queue} {ep : Endpoint} :
    IsQueueOf q' dir (enter q flags ep) →
      IsQueueOf q' dir ep ∨ (q' = q ∧ hasAny flags (dirFlag dir) = true) := by
  intro h
  cases q <;> cases q' <;> cases dir <;>
    simp only [IsQueueOf, enter, Endpoint.cq, Endpoint.cntr, dirFlag] at h ⊢ <;> grind

lemma isQueueOf_enter_self {q : Queue} {ep : Endpoint} :
    IsQueueOf q dir (enter q flags ep) ↔
      IsQueueOf q dir ep ∨ hasAny flags (dirFlag dir) = true := by
  cases q <;> cases dir <;>
    simp only [IsQueueOf, enter, Endpoint.cq, Endpoint.cntr, dirFlag] <;> grind

lemma enter_autoProgress (q : Queue) (flags : UInt64) (ep : Endpoint) :
    (enter q flags ep).autoProgress = ep.autoProgress := by
  cases q <;> rfl

section Bind

variable (hcon : (s.eps ep).connected = false)

include hcon

lemma bind_eps : (s.dpaEpBind ep q flags).2.eps
    = Function.update s.eps ep (enter q flags (s.eps ep)) := by
  rw [dpaEpBind, hcon, bindProgress]
  cases (s.eps ep).autoProgress <;> cases boundFunc flags <;> rfl

lemma uses_bind {e : ℕ} : (s.dpaEpBind ep q flags).2.Uses q e dir ↔
    s.Uses q e dir ∨ (e = ep ∧ hasAny flags (dirFlag dir) = true) := by
  rw [Uses, Uses, bind_eps hcon]
  by_cases he : e = ep
  · subst he
    rw [Function.update_self, isQueueOf_enter_self]
    tauto
  · rw [Function.update_of_ne he]
    tauto

lemma uses_bind_other {q' : Queue} {e : ℕ} (hq : q' ≠ q)
    (h : (s.dpaEpBind ep q flags).2.Uses q' e dir) : s.Uses q' e dir := by
  rw [Uses, bind_eps hcon] at h
  by_cases he : e = ep
  · subst he
    rw [Function.update_self] at h
    exact (isQueueOf_enter h).resolve_right fun h' => hq h'.1
  · rwa [Function.update_of_ne he] at h

variable (hman : (s.eps ep).autoProgress = false)

include hman

lemma bind_other {q' : Queue} (hq : q' ≠ q) :
    (s.dpaEpBind ep q flags).2.progress q' = s.progress q'
      ∧ (s.dpaEpBind ep q flags).2.boundFor q' = s.boundFor q' := by
  rw [dpaEpBind, hcon, bindProgress, hman]
  cases boundFunc flags with
  | none => exact ⟨Function.update_of_ne hq _ _, rfl⟩
  | some func => exact ⟨Function.update_of_ne hq _ _, Function.update_of_ne hq _ _⟩

lemma bind_none (hf : boundFunc flags = none) :
    (s.dpaEpBind ep q flags).2.progress q = ⟨(s.progress q).func, some ep⟩
      ∧ (s.dpaEpBind ep q flags).2.boundFor q = s.boundFor q := by
  rw [dpaEpBind, hcon, bindProgress, hman, hf]
  exact ⟨Function.update_self _ _ _, rfl⟩

lemma bind_some {func : ProgressFunc} (hf : boundFunc flags = some func) :
    (s.dpaEpBind ep q flags).2.progress q = ⟨some func, some ep⟩
      ∧ (s.dpaEpBind ep q flags).2.boundFor q = some ep := by
  rw [dpaEpBind, hcon, bindProgress, hman, hf]
  exact ⟨Function.update_self _ _ _, Function.update_self _ _ _⟩

lemma covered_bind_other {q' : Queue} (hq : q' ≠ q) (h : s.Covered q') :
    (s.dpaEpBind ep q flags).2.Covered q' := by
  obtain ⟨husers, hbound⟩ := covered_iff.1 h
  have hsame : (s.dpaEpBind ep q flags).2.progress q' = s.progress q'
      ∧ (s.dpaEpBind ep q flags).2.boundFor q' = s.boundFor q' := bind_other hcon hman hq
  rw [covered_iff, hsame.1, hsame.2]
  exact ⟨fun e d hu => husers e d (uses_bind_other hcon hq hu), hbound⟩

/-- The queue of the bind stays covered exactly when the bind takes over what is needed. -/
lemma covered_bind_self (h : s.Covered q) :
    (s.dpaEpBind ep q flags).2.Covered q ↔ s.Fine ep q flags := by
  obtain ⟨husers, hbound⟩ := covered_iff.1 h
  rw [covered_iff, Fine, hcon]
  cases hf : boundFunc flags with
  | none =>
      obtain ⟨hp, hb⟩ := bind_none hcon hman (q := q) hf
      have hnone := boundFunc_eq_none.1 hf
      rw [hp, hb]
      constructor
      · rintro ⟨husers', hbound'⟩
        refine .inr ⟨fun e d hu => ?_, fun _ hfunc => ?_⟩
        · have harg := (husers' e d ((uses_bind hcon).2 (.inl hu))).1
          exact ⟨(Option.some.inj harg).symm, fun ⟨d', hd'⟩ => by simp [hnone d'] at hd'⟩
        · rw [hbound hfunc, ← hbound' hfunc]
      · rintro (hfalse | ⟨hothers, harg⟩)
        · simp at hfalse
        · refine ⟨fun e d hu => ?_, fun hfunc => ?_⟩
          · rcases (uses_bind hcon).1 hu with hu | ⟨-, hd⟩
            · exact ⟨by rw [(hothers e d hu).1], (husers e d hu).2⟩
            · rw [hnone d] at hd
              simp at hd
          · rw [← hbound hfunc, harg hnone hfunc]
  | some func =>
      obtain ⟨hp, hb⟩ := bind_some hcon hman (q := q) hf
      have hmem : ∀ d, d ∈ directions (some func) ↔ hasAny flags (dirFlag d) = true := by
        intro d
        rw [← hf, mem_directions]
      have hsome : ∃ d, hasAny flags (dirFlag d) = true := by
        by_contra hno
        rw [boundFunc_eq_none.2 fun d => Bool.eq_false_iff.2 fun hd => hno ⟨d, hd⟩] at hf
        simp at hf
      rw [hp, hb]
      constructor
      · rintro ⟨husers', -⟩
        refine .inr ⟨fun e d hu => ?_, fun hnone => ?_⟩
        · obtain ⟨harg, hd⟩ := husers' e d ((uses_bind hcon).2 (.inl hu))
          exact ⟨(Option.some.inj harg).symm, fun _ => (hmem d).1 hd⟩
        · obtain ⟨d, hd⟩ := hsome
          rw [hnone d] at hd
          simp at hd
      · rintro (hfalse | ⟨hothers, -⟩)
        · simp at hfalse
        · refine ⟨fun e d hu => ?_, fun _ => rfl⟩
          rcases (uses_bind hcon).1 hu with hu | ⟨rfl, hd⟩
          · obtain ⟨rfl, hd⟩ := hothers e d hu
            exact ⟨rfl, (hmem d).2 (hd hsome)⟩
          · exact ⟨rfl, (hmem d).2 hd⟩

end Bind

/-! ### Runs -/

/-- What every run of binds keeps, while each takes over what is needed. -/
structure Inv (s : Bindings) : Prop where
  manual : ∀ ep, (s.eps ep).autoProgress = false
  covered : ∀ q, s.Covered q

lemma Unbound.inv (h : s.Unbound) : s.Inv where
  manual := h.manual
  covered q := covered_iff.2
    ⟨fun e d hu => absurd hu (h.unused q e d), fun hfunc => absurd (h.idle q) hfunc⟩

lemma bind_manual (h : ∀ e, (s.eps e).autoProgress = false) (e : ℕ) :
    ((s.dpaEpBind ep q flags).2.eps e).autoProgress = false := by
  cases hcon : (s.eps ep).connected with
  | true => rw [dpaEpBind, hcon]; exact h e
  | false =>
      rw [bind_eps hcon]
      by_cases he : e = ep
      · rw [he, Function.update_self, enter_autoProgress, h]
      · rw [Function.update_of_ne he, h]

/-- Every queue stays covered exactly when the bind takes over what is needed. -/
lemma Inv.covered_bind (h : s.Inv) :
    (∀ q', (s.dpaEpBind ep q flags).2.Covered q') ↔ s.Fine ep q flags := by
  cases hcon : (s.eps ep).connected with
  | true =>
      rw [dpaEpBind, hcon]
      exact ⟨fun _ => .inl hcon, fun _ => h.covered⟩
  | false =>
      constructor
      · intro hall
        exact (covered_bind_self hcon (h.manual ep) (h.covered q)).1 (hall q)
      · intro hfine q'
        by_cases hq : q' = q
        · subst hq
          exact (covered_bind_self hcon (h.manual ep) (h.covered q')).2 hfine
        · exact covered_bind_other hcon (h.manual ep) hq (h.covered q')

lemma Inv.step {b : ℕ × Queue × UInt64} (h : s.Inv) (hfine : s.Fine b.1 b.2.1 b.2.2)
    (hstep : s.step b = some s') : s'.Inv := by
  obtain rfl : (s.dpaEpBind b.1 b.2.1 b.2.2).2 = s' := Option.some.inj hstep
  exact ⟨bind_manual h.manual, h.covered_bind.2 hfine⟩

/-- While every bind takes over what is needed, each queue is covered, and after any such run
the next bind keeps all queues covered exactly when it does so as well. -/
theorem progress_covered {binds : List (ℕ × Queue × UInt64)} {t : Bindings} (hs : s.Unbound)
    (hfine : Stepper.Meets step (fun s b => s.Fine b.1 b.2.1 b.2.2) s binds)
    (hrun : Stepper.run step s binds = some t) :
    (∀ q, t.Covered q)
      ∧ ∀ ep q flags, (∀ q', (t.dpaEpBind ep q flags).2.Covered q') ↔ t.Fine ep q flags := by
  have hinv : t.Inv := Stepper.run_induction (I := Inv) (fun _ _ _ h hf hstep => h.step hf hstep)
    hs.inv hfine hrun
  exact ⟨hinv.covered, fun ep q flags => hinv.covered_bind⟩

/-- Endpoints just opened, before any bind. -/
def opened : Bindings where
  eps k := (dpaEpOpen k fiMsg ⟨2, 9⟩ false true fun _ => ⟨fun _ => 0, 0, 0, 0⟩).toOption.get rfl
  progress _ := ⟨none, none⟩
  boundFor _ := none

lemma unbound_opened : opened.Unbound where
  manual _ := rfl
  unused q _ dir := by cases q <;> cases dir <;> exact nofun
  idle _ := rfl

/-- An endpoint with one queue for both directions, and another with a queue of its own. -/
theorem progress_covered_twoEndpoints :
    ∃ t, Stepper.run step opened [(0, .cq 0, fiSend ||| fiRecv), (1, .cq 1, fiRecv)] = some t
      ∧ (∀ q, t.Covered q)
      ∧ ∀ wait, t.reading wait (.cq 0) = [(some 0, .send), (some 0, .recv)] := by
  have hfine : Stepper.Meets step (fun s b => s.Fine b.1 b.2.1 b.2.2) opened
      [(0, .cq 0, fiSend ||| fiRecv), (1, .cq 1, fiRecv)] := by
    refine ⟨.inr ⟨fun e d hu => absurd hu (unbound_opened.unused _ e d), fun _ h => absurd rfl h⟩,
      fun s hs => ?_⟩
    obtain rfl : (opened.dpaEpBind 0 (.cq 0) (fiSend ||| fiRecv)).2 = s := Option.some.inj hs
    refine ⟨.inr ⟨fun e d hu => ?_, fun _ h => absurd rfl h⟩, fun _ _ => trivial⟩
    exact absurd (uses_bind_other rfl (by simp) hu) (unbound_opened.unused _ e d)
  exact ⟨_, rfl, (progress_covered unbound_opened hfine rfl).1, fun _ => rfl⟩

/-- One queue is bound for the sends of an endpoint, and then for its receives: its reads no longer
make the progress of the sends. -/
theorem progress_starved : opened.Unbound ∧
    ∃ t, Stepper.run step opened [(0, .cq 0, fiSend), (0, .cq 0, fiRecv)] = some t
      ∧ t.Uses (.cq 0) 0 .send ∧ (∀ wait, t.reading wait (.cq 0) = [(some 0, .recv)])
      ∧ ¬ t.Covered (.cq 0) := by
  refine ⟨unbound_opened, _, rfl, rfl, fun _ => rfl, fun hcovered => ?_⟩
  have hmem : (some 0, Direction.send) ∈ [(some 0, Direction.recv)] :=
    hcovered.users (fun _ _ => .ok) 0 .send rfl
  exact absurd hmem (by simp)

end Bindings

end DpaProvider
