import DpaProvider.Eq.Events

/-!
Errors in blocking reads of events.

`dpa_eq_sread` takes its result at once, or waits and takes it then.  An error that is pending when
it takes its result should come before any event.

* `vacant_eqAdd`, `vacant_addAll`: an event goes to the queue of its kind;
* `ErrorsFirst`: what a read should return, at the moment when it takes its result;
* `errors_first`: it does, unless an error arrives while it waits.
-/

namespace DpaProvider

namespace DpaFidEq

variable {z : EqSizes} {eq : DpaFidEq} {q : EqList}

/-! ### Which queue is empty -/

/-- Nothing is queued. -/
def Vacant (eq : DpaFidEq) (q : EqList) : Prop := (eq.lists.lists q).isEmpty = true

instance (eq : DpaFidEq) (q : EqList) : Decidable (eq.Vacant q) :=
  inferInstanceAs (Decidable (_ = true))

lemma vacant_eqAdd (hq : q ≠ .freeList) (a : Add) :
    (eq.eqAdd z a).Vacant q ↔ eq.Vacant q ∧ a.queue ≠ q := by
  simp only [Vacant, DpaFidEq.eqAdd]
  rw [Pool.insertTail_isEmpty, Pool.alloc_lists _ hq, and_comm, ne_comm]

lemma vacant_addAll (hq : q ≠ .freeList) (adds : List Add) :
    (adds.foldl (DpaFidEq.eqAdd z) eq).Vacant q ↔ eq.Vacant q ∧ ∀ a ∈ adds, a.queue ≠ q := by
  induction adds generalizing eq with
  | nil => simp
  | cons a rest ih => rw [List.foldl_cons, ih, vacant_eqAdd hq, List.forall_mem_cons, and_assoc]

/-! ### The two looks -/

/-- A read of an empty queue leaves it as it is. -/
lemma eqReadPriv_vacant (h : eq.Vacant q) (len : ℕ) (event : Bool) (flags : UInt64) :
    eq.eqReadPriv q len event flags = (⟨.error .eagain, none, []⟩, eq) := by
  rw [eqReadPriv_eq, Pool.removeHead_of_isEmpty h]

/-- A read of another queue returns an event. -/
lemma eqReadPriv_ret (h : ¬ eq.Vacant q) (len : ℕ) (event : Bool) (flags : UInt64) :
    ∃ n, (eq.eqReadPriv q len event flags).1.ret = .ok n := by
  obtain ⟨node, hnode⟩ := Option.ne_none_iff_exists'.1 (mt Slist.isEmpty_iff_head.2 h)
  rw [eqReadPriv_eq, Pool.removeHead_fst, hnode]
  exact ⟨_, rfl⟩

/-- A read of the event queue never reports an error. -/
lemma eqReadPriv_ne_eavail (len : ℕ) (flags : UInt64) :
    (eq.eqReadPriv q len true flags).1.ret ≠ .error .eavail := by
  by_cases h : eq.Vacant q
  · rw [eqReadPriv_vacant h]
    nofun
  · obtain ⟨n, hn⟩ := eqReadPriv_ret h len true flags
    rw [hn]
    nofun

/-- A look at both queues finds an error first. -/
lemma readOrErr_refused (h : ¬ eq.Vacant .errorQueue) (len : ℕ) (flags : UInt64) :
    eq.readOrErr len flags = (⟨.error .eavail, none, []⟩, eq) := if_neg h

lemma readOrErr_vacant (h : eq.Vacant .errorQueue) (len : ℕ) (flags : UInt64) :
    eq.readOrErr len flags = eq.eqReadPriv .eventQueue len true flags := if_pos h

variable {timeout : ℤ} {first : List Add}

/-- The first look finds nothing, and the read may wait. -/
def Waits (z : EqSizes) (eq : DpaFidEq) (timeout : ℤ) (first : List Add) : Prop :=
  ((first.foldl (DpaFidEq.eqAdd z) eq).Vacant .errorQueue
    ∧ (first.foldl (DpaFidEq.eqAdd z) eq).Vacant .eventQueue) ∧ timeout ≠ 0

/-- A read that waits takes its result from the event queue. -/
lemma dpaEqSread_waits (len : ℕ) (flags : UInt64) (second : List Add)
    (h : Waits z eq timeout first) :
    eq.dpaEqSread z len timeout flags first second
        = (eq.waited z timeout first second).eqReadPriv .eventQueue len true flags
      ∧ eq.waited z timeout first second
        = second.foldl (DpaFidEq.eqAdd z) (first.foldl (DpaFidEq.eqAdd z) eq) := by
  obtain ⟨⟨herror, hevent⟩, htimeout⟩ := h
  have hwaited : eq.waited z timeout first second
      = second.foldl (DpaFidEq.eqAdd z) (first.foldl (DpaFidEq.eqAdd z) eq) := by
    rw [waited, if_pos ⟨herror, hevent, htimeout⟩]
  refine ⟨?_, hwaited⟩
  rw [hwaited, dpaEqSread, readOrErr_vacant herror, eqReadPriv_vacant hevent]
  simp only [if_pos htimeout]

/-- Another read returns what its first look gives. -/
lemma dpaEqSread_immediate (len : ℕ) (flags : UInt64) (second : List Add)
    (h : ¬ Waits z eq timeout first) :
    eq.dpaEqSread z len timeout flags first second
        = (eq.waited z timeout first second).readOrErr len flags
      ∧ eq.waited z timeout first second = first.foldl (DpaFidEq.eqAdd z) eq := by
  have hwaited : eq.waited z timeout first second = first.foldl (DpaFidEq.eqAdd z) eq := by
    rw [waited, if_neg fun hall => h ⟨⟨hall.1, hall.2.1⟩, hall.2.2⟩]
  refine ⟨?_, hwaited⟩
  rw [hwaited, dpaEqSread]
  by_cases herror : (first.foldl (DpaFidEq.eqAdd z) eq).Vacant .errorQueue
  case neg => rw [readOrErr_refused herror]
  case pos =>
      rw [readOrErr_vacant herror]
      by_cases hevent : (first.foldl (DpaFidEq.eqAdd z) eq).Vacant .eventQueue
      case neg =>
          obtain ⟨n, hn⟩ := eqReadPriv_ret hevent len true flags
          simp only [hn]
      case pos =>
          have htimeout : timeout = 0 := by
            by_contra hne
            exact h ⟨⟨herror, hevent⟩, hne⟩
          simp [eqReadPriv_vacant hevent, htimeout]

/-! ### Errors come first -/

/-- A read that takes its result while an error is pending reports that and takes nothing; it
finds nothing only if nothing is queued. -/
structure ErrorsFirst (z : EqSizes) (eq : DpaFidEq) (len : ℕ) (timeout : ℤ) (flags : UInt64)
    (first second : List Add) : Prop where
  eavail : ¬ (eq.waited z timeout first second).Vacant .errorQueue →
    eq.dpaEqSread z len timeout flags first second
      = (⟨.error .eavail, none, []⟩, eq.waited z timeout first second)
  eagain : (eq.dpaEqSread z len timeout flags first second).1.ret = .error .eagain →
    (eq.waited z timeout first second).Vacant .eventQueue
      ∧ (eq.waited z timeout first second).Vacant .errorQueue

/-- So it is with a read of both queues. -/
lemma errorsFirst_of_immediate (len : ℕ) (flags : UInt64) (second : List Add)
    (h : ¬ Waits z eq timeout first) :
    ErrorsFirst z eq len timeout flags first second := by
  obtain ⟨hread, -⟩ := dpaEqSread_immediate len flags second h
  constructor
  · intro herror
    rw [hread, readOrErr_refused herror]
  · intro hret
    rw [hread] at hret
    by_cases herror : (eq.waited z timeout first second).Vacant .errorQueue
    case neg =>
        rw [readOrErr_refused herror] at hret
        exact absurd hret nofun
    case pos =>
        rw [readOrErr_vacant herror] at hret
        refine ⟨?_, herror⟩
        by_contra hevent
        obtain ⟨n, hn⟩ := eqReadPriv_ret hevent len true flags
        exact absurd (hn.symm.trans hret) nofun

/-- A read that looks at the event queue alone is right if no error is pending. -/
lemma errorsFirst_iff_vacant (len : ℕ) (flags : UInt64) (second : List Add)
    (h : Waits z eq timeout first) :
    ErrorsFirst z eq len timeout flags first second
      ↔ (eq.waited z timeout first second).Vacant .errorQueue := by
  obtain ⟨hread, -⟩ := dpaEqSread_waits len flags second h
  constructor
  · intro herrors
    by_contra herror
    have heavail := congrArg (fun r => r.1.ret) (herrors.eavail herror)
    rw [hread] at heavail
    exact eqReadPriv_ne_eavail len flags heavail
  · intro herror
    refine ⟨absurd herror, fun hret => ⟨?_, herror⟩⟩
    by_contra hevent
    obtain ⟨n, hn⟩ := eqReadPriv_ret hevent len true flags
    rw [hread, hn] at hret
    exact absurd hret nofun

lemma Add.queue_ne_errorQueue (a : Add) : a.queue ≠ .errorQueue ↔ a.error = 0 := by
  rw [Add.queue]
  split
  case isTrue herror => simp [herror]
  case isFalse herror => simpa using herror

/-- For every event queue, timeout and flags, and all events added before the first look and during
the wait: errors come first if and only if the first look finds something queued, or the read does
not wait, or no error arrives during the wait. -/
theorem errors_first (z : EqSizes) (eq : DpaFidEq) (len : ℕ) (timeout : ℤ) (flags : UInt64)
    (first second : List Add) :
    ErrorsFirst z eq len timeout flags first second
      ↔ (¬ eq.Vacant .errorQueue ∨ ¬ eq.Vacant .eventQueue ∨ first ≠ []) ∨ timeout = 0
        ∨ ∀ a ∈ second, a.error = 0 := by
  have hfound : ((first.foldl (DpaFidEq.eqAdd z) eq).Vacant .errorQueue
      ∧ (first.foldl (DpaFidEq.eqAdd z) eq).Vacant .eventQueue)
      ↔ eq.Vacant .errorQueue ∧ eq.Vacant .eventQueue ∧ first = [] := by
    rw [vacant_addAll (by simp), vacant_addAll (by simp)]
    constructor
    · rintro ⟨⟨herror, herrors⟩, hevent, hevents⟩
      refine ⟨herror, hevent, List.eq_nil_iff_forall_not_mem.2 fun a ha => ?_⟩
      -- an event is in one of the queues
      have hqueue : a.queue = .errorQueue ∨ a.queue = .eventQueue := by
        rw [Add.queue]
        split
        · exact .inl rfl
        · exact .inr rfl
      exact hqueue.elim (herrors a ha) (hevents a ha)
    · rintro ⟨herror, hevent, rfl⟩
      exact ⟨⟨herror, List.forall_mem_nil _⟩, hevent, List.forall_mem_nil _⟩
  by_cases hwaits : Waits z eq timeout first
  case neg =>
      have hcond : (¬ eq.Vacant .errorQueue ∨ ¬ eq.Vacant .eventQueue ∨ first ≠ [])
          ∨ timeout = 0 := by
        rw [Waits, hfound] at hwaits
        tauto
      exact iff_of_true (errorsFirst_of_immediate len flags second hwaits) (hcond.imp_right .inl)
  case pos =>
      obtain ⟨-, hwaited⟩ := dpaEqSread_waits len flags second hwaits
      obtain ⟨herror, hevent, hfirst⟩ := hfound.1 hwaits.1
      rw [errorsFirst_iff_vacant len flags second hwaits, hwaited, vacant_addAll (by simp)]
      simp only [Add.queue_ne_errorQueue, hwaits.1.1, true_and]
      constructor
      · exact fun hnone => .inr (.inr hnone)
      · rintro (hsome | htimeout | hnone)
        · exact absurd hsome (by tauto)
        · exact absurd htimeout hwaits.2
        · exact hnone

/-- An error arrives while the read waits on an empty queue, and it finds nothing. -/
theorem error_unreported :
    let error : Add := ⟨0, List.replicate 64 0, 64, 5⟩
    let eq := dpaEqOpen 1 fun _ => ⟨0, [], 0, 0⟩
    (eq.dpaEqSread ⟨64, 64⟩ 8 10 0 [] [error]).1.ret = .error .eagain
      ∧ ¬ (eq.waited ⟨64, 64⟩ 10 [] [error]).Vacant .errorQueue
      ∧ ¬ ErrorsFirst ⟨64, 64⟩ eq 8 10 0 [] [error] := by
  intro error eq
  refine ⟨rfl, by decide, fun h => ?_⟩
  obtain ⟨-, hnone⟩ := h.eagain rfl
  exact absurd hnone (by decide)

end DpaFidEq

end DpaProvider
