import DpaProvider.Library.Stepper

/-!
Readers that wait on a condition variable.

A blocking read looks into a shared object, and if it finds nothing it waits for a signal
and looks once more.  Looking and waiting are two critical sections, and a producer sends
its signal after its own.  A signal wakes one reader that waits, if there is one.

* `Monitor`: the critical sections of readers and producers;
* `State.step`: the interleavings, one critical section or signal a step;
* `State.Awaits`: while a reader waits and no signal is due, the object is empty;
* `State.awaits_run`: this holds along every run in which nobody begins to wait, or is left
  waiting by the last signal due, over an object that is not empty.
-/

/-- A shared object with the critical sections of its users: an insertion, the first look of a
read, which says whether the read is over, and the second.  Looking puts nothing in. -/
structure Monitor (σ Ins Rd : Type*) where
  insert : Ins → σ → σ
  check : Rd → σ → Bool × σ
  recheck : Rd → σ → σ
  Empty : σ → Prop
  check_empty : ∀ r s, Empty s → Empty (check r s).2
  recheck_empty : ∀ r s, Empty s → Empty (recheck r s)

namespace Monitor

variable {σ Ins Rd : Type*}

/-- The shared object; the readers before their wait, in it, and behind it; and the number of
producers between their insertion and their signal. -/
structure State (σ Rd : Type*) where
  shared : σ
  missed : List Rd
  parked : List Rd
  awake : List Rd
  signalling : ℕ

/-- The steps of readers and producers; a number picks one of the readers at a place. -/
inductive Action (Ins Rd : Type*) where
  | look (r : Rd)
  | park (k : ℕ)
  | finish (k : ℕ)
  | insert (x : Ins)
  | signal (k : ℕ)

namespace State

variable {m : Monitor σ Ins Rd} {s s' : State σ Rd}

/-- A step; none if there is no such actor. -/
def step (m : Monitor σ Ins Rd) (s : State σ Rd) : Action Ins Rd → Option (State σ Rd)
  | .look r =>
      let result := m.check r s.shared
      some { s with shared := result.2, missed := if result.1 then s.missed else s.missed ++ [r] }
  | .park k =>
      s.missed[k]?.map fun r =>
        { s with missed := s.missed.eraseIdx k, parked := s.parked ++ [r] }
  | .finish k =>
      s.awake[k]?.map fun r =>
        { s with shared := m.recheck r s.shared, awake := s.awake.eraseIdx k }
  | .insert x => some { s with shared := m.insert x s.shared, signalling := s.signalling + 1 }
  | .signal k =>
      if s.signalling = 0 then none
      -- a signal that finds nobody waiting is lost
      else if s.parked = [] then some { s with signalling := s.signalling - 1 }
      else s.parked[k]?.map fun r =>
        { s with parked := s.parked.eraseIdx k, awake := s.awake ++ [r],
                 signalling := s.signalling - 1 }

/-- While a reader waits and no signal is due, the object is empty. -/
def Awaits (m : Monitor σ Ins Rd) (s : State σ Rd) : Prop :=
  s.parked ≠ [] → s.signalling = 0 → m.Empty s.shared

/-- Nobody begins to wait while the object is not empty and no signal is due, and the last signal
due leaves nobody waiting while it is not. -/
def Fine (m : Monitor σ Ins Rd) (s : State σ Rd) : Action Ins Rd → Prop
  | .park _ => s.signalling = 0 → m.Empty s.shared
  | .signal _ => s.signalling = 1 → 2 ≤ s.parked.length → m.Empty s.shared
  | _ => True

/-- One step keeps what the waiting readers rely on. -/
lemma Awaits.step (h : Awaits m s) {a : Action Ins Rd} (hfine : Fine m s a)
    (hstep : State.step m s a = some s') : Awaits m s' := by
  cases a with
  | look r =>
      cases Option.some.inj hstep
      exact fun hparked hsignal => m.check_empty r _ (h hparked hsignal)
  | park k =>
      obtain ⟨r, -, rfl⟩ := Option.map_eq_some_iff.1 hstep
      exact fun _ hsignal => hfine hsignal
  | finish k =>
      obtain ⟨r, -, rfl⟩ := Option.map_eq_some_iff.1 hstep
      exact fun hparked hsignal => m.recheck_empty r _ (h hparked hsignal)
  | insert x =>
      cases Option.some.inj hstep
      exact fun _ hsignal => absurd hsignal (Nat.succ_ne_zero _)
  | signal k =>
      rw [State.step] at hstep
      split_ifs at hstep with hdue hnobody
      · cases Option.some.inj hstep
        exact fun hparked _ => absurd hnobody hparked
      · obtain ⟨r, hr, rfl⟩ := Option.map_eq_some_iff.1 hstep
        intro hparked hsignal
        have hk : k < s.parked.length := (List.getElem?_eq_some_iff.1 hr).1
        have hleft : 0 < (s.parked.eraseIdx k).length := List.length_pos_of_ne_nil hparked
        rw [List.length_eraseIdx_of_lt hk] at hleft
        replace hsignal : s.signalling - 1 = 0 := hsignal
        exact hfine (by omega) (by omega)

/-- It holds along every run that meets the condition. -/
theorem awaits_run {t : State σ Rd} (h : Awaits m s) {actions : List (Action Ins Rd)}
    (hfine : Stepper.Meets (State.step m) (Fine m) s actions)
    (hrun : Stepper.run (State.step m) s actions = some t) : Awaits m t :=
  Stepper.run_induction (I := Awaits m) (fun _ _ _ h hc hs => h.step hc hs) h hfine hrun

end State

end Monitor
