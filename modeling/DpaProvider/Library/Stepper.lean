import Mathlib.Data.List.Basic
import Mathlib.Tactic

/-!
Runs of a partial step function.

A system is a function `step s a` that carries out the action `a` in the state
`s`, or refuses it (`none`).  A run feeds it a list of actions.

* `run`, `run_append`: the run of an action list;
* `Meets`: every step of a run meets a condition that may look at the state
  before the step and at the action;
* `run_induction`: what every step of a run preserves holds at its end, the
  condition of `Meets` being available at each step;
* `run_history`: the same for an invariant that mentions the actions so far;
* `holds_iff_meets`, `flag_iff_since`: what holds at the end of a run exactly if all of its steps
  meet a condition, or all steps since one that meets another;
* `run_related`: two runs in lockstep.
-/

namespace Stepper

variable {S A : Type*} (step : S → A → Option S)

/-- The state reached by a list of actions, if none of them is refused. -/
def run : S → List A → Option S
  | s, [] => some s
  | s, a :: as => (step s a).bind fun s' => run s' as

@[simp] lemma run_nil (s : S) : run step s [] = some s := rfl

lemma run_cons (s : S) (a : A) (as : List A) :
    run step s (a :: as) = (step s a).bind fun s' => run step s' as := rfl

lemma run_cons_some {s t : S} {a : A} {as : List A} (h : run step s (a :: as) = some t) :
    ∃ s', step s a = some s' ∧ run step s' as = some t := by
  simpa [run_cons, Option.bind_eq_some_iff] using h

lemma run_append (s : S) (as bs : List A) :
    run step s (as ++ bs) = (run step s as).bind fun s' => run step s' bs := by
  induction as generalizing s with
  | nil => rfl
  | cons a as ih =>
      rw [List.cons_append, run_cons, run_cons, Option.bind_assoc]
      exact congrArg _ (funext ih)

/-- Every step of the run from `s` along the actions meets `C`. -/
def Meets (C : S → A → Prop) : S → List A → Prop
  | _, [] => True
  | s, a :: as => C s a ∧ ∀ s', step s a = some s' → Meets C s' as

variable {step}

/-- A step that is carried out. -/
lemma meets_cons {C : S → A → Prop} {s s' : S} {a : A} {as : List A} (hs : step s a = some s') :
    Meets step C s (a :: as) ↔ C s a ∧ Meets step C s' as := by
  refine and_congr_right fun _ => ⟨fun h => h s' hs, fun h u hu => ?_⟩
  obtain rfl := Option.some.inj (hs.symm.trans hu)
  exact h

lemma Meets.mono {C D : S → A → Prop} (h : ∀ s a, C s a → D s a) {s : S} {as : List A}
    (hm : Meets step C s as) : Meets step D s as := by
  induction as generalizing s with
  | nil => trivial
  | cons a as ih => exact ⟨h s a hm.1, fun s' hs' => ih (hm.2 s' hs')⟩

lemma Meets.and {C D : S → A → Prop} {s : S} {as : List A} (hc : Meets step C s as)
    (hd : Meets step D s as) : Meets step (fun s a => C s a ∧ D s a) s as := by
  induction as generalizing s with
  | nil => trivial
  | cons a as ih => exact ⟨⟨hc.1, hd.1⟩, fun s' hs' => ih (hc.2 s' hs') (hd.2 s' hs')⟩

/-- The last step of a run meets the condition that all of them meet. -/
lemma Meets.last {C : S → A → Prop} {s t : S} (as : List A) {a : A}
    (h : Meets step C s (as ++ [a])) (hrun : run step s as = some t) : C t a := by
  induction as generalizing s with
  | nil =>
      obtain rfl : s = t := by simpa using hrun
      exact h.1
  | cons b as ih =>
      obtain ⟨s', hs', hrun'⟩ := run_cons_some step hrun
      exact ih (h.2 s' hs') hrun'

/-- A condition on the actions alone is met along every run over such actions. -/
lemma meets_of_forall {C : A → Prop} {s : S} {as : List A} (h : ∀ a ∈ as, C a) :
    Meets step (fun _ a => C a) s as := by
  induction as generalizing s with
  | nil => trivial
  | cons a as ih =>
      exact ⟨h a List.mem_cons_self, fun s' _ => ih fun b hb => h b (List.mem_cons_of_mem a hb)⟩

/-- Along a run that is carried out it is met exactly if all of the actions meet it. -/
lemma meets_forall_iff {C : A → Prop} {s t : S} {as : List A} (hrun : run step s as = some t) :
    Meets step (fun _ a => C a) s as ↔ ∀ a ∈ as, C a := by
  induction as generalizing s with
  | nil => exact ⟨fun _ _ h => absurd h List.not_mem_nil, fun _ => trivial⟩
  | cons a as ih =>
      obtain ⟨s', hs', hrun'⟩ := run_cons_some step hrun
      rw [meets_cons hs', ih hrun', List.forall_mem_cons]

/-- A call: one action, and then the same action a number of times. -/
lemma meets_call {C : S → A → Prop} {s : S} {a b : A} (n : ℕ) (ha : C s a) (hb : ∀ s, C s b) :
    Meets step C s (a :: List.replicate n b) := by
  refine ⟨ha, fun s' _ => Meets.mono (C := fun _ c => c = b) (fun s c hc => hc ▸ hb s) ?_⟩
  exact meets_of_forall fun c hc => List.eq_of_mem_replicate hc

/-- What every step meeting `C` preserves holds at the end of every run whose
steps all meet `C`. -/
theorem run_induction {C : S → A → Prop} {I : S → Prop}
    (hstep : ∀ s a s', I s → C s a → step s a = some s' → I s')
    {s t : S} {as : List A} (hI : I s) (hm : Meets step C s as)
    (hrun : run step s as = some t) : I t := by
  induction as generalizing s with
  | nil =>
      obtain rfl : s = t := by simpa using hrun
      exact hI
  | cons a as ih =>
      obtain ⟨s', hs', hrun'⟩ := run_cons_some step hrun
      exact ih (hstep s a s' hI hm.1 hs') (hm.2 s' hs') hrun'

/-- What every step preserves holds at the end of every run. -/
theorem run_invariant {I : S → Prop} (hstep : ∀ s a s', I s → step s a = some s' → I s')
    {s t : S} {as : List A} (hI : I s) (hrun : run step s as = some t) : I t :=
  run_induction (C := fun _ _ => True) (fun s a s' h _ => hstep s a s' h) hI
    (meets_of_forall (C := fun _ => True) fun _ _ => trivial) hrun

/-- Two conditions are met along the same runs, if they agree wherever an invariant holds that
the steps meeting one of them preserve. -/
theorem meets_iff {C D : S → A → Prop} {I : S → Prop}
    (hiff : ∀ s a s', I s → step s a = some s' → (C s a ↔ D s a))
    (hstep : ∀ s a s', I s → D s a → step s a = some s' → I s')
    {s t : S} {as : List A} (hI : I s) (hrun : run step s as = some t) :
    Meets step C s as ↔ Meets step D s as := by
  induction as generalizing s with
  | nil => exact Iff.rfl
  | cons a as ih =>
      obtain ⟨s', hs', hrun'⟩ := run_cons_some step hrun
      rw [meets_cons hs', meets_cons hs', hiff s a s' hI hs']
      exact and_congr_right fun ha => ih (hstep s a s' hI ha hs') hrun'

/-- What holds at the end of a step if and only if it held before and the step meets `C`, holds at
the end of a run if and only if it held before and all the steps meet `C`. -/
theorem holds_iff_meets {P : S → Prop} {C : S → A → Prop}
    (hstep : ∀ s a s', step s a = some s' → (P s' ↔ P s ∧ C s a)) {s t : S} {as : List A}
    (hrun : run step s as = some t) : P t ↔ P s ∧ Meets step C s as := by
  induction as generalizing s with
  | nil =>
      obtain rfl : s = t := by simpa using hrun
      exact (and_iff_left trivial).symm
  | cons a as ih =>
      obtain ⟨s', hs', hrun'⟩ := run_cons_some step hrun
      rw [ih hrun', hstep s a s' hs', meets_cons hs', and_assoc]

variable (step) in
/-- Some step of the run meets `R`, and all later ones meet `C`. -/
def Since (R C : S → A → Prop) (s : S) (as : List A) : Prop :=
  ∃ pre a post u v, as = pre ++ a :: post ∧ run step s pre = some u ∧ R u a
    ∧ step u a = some v ∧ Meets step C v post

lemma since_cons {R C : S → A → Prop} {s s' : S} {a : A} {as : List A} (hs : step s a = some s') :
    Since step R C s (a :: as) ↔ R s a ∧ Meets step C s' as ∨ Since step R C s' as := by
  constructor
  · rintro ⟨pre, b, post, u, v, heq, hrun, hb, hstep, hpost⟩
    cases pre with
    | nil =>
        obtain ⟨rfl, rfl⟩ := List.cons.inj heq
        obtain rfl : s = u := by simpa using hrun
        obtain rfl := Option.some.inj (hs.symm.trans hstep)
        exact .inl ⟨hb, hpost⟩
    | cons c pre =>
        obtain ⟨rfl, rfl⟩ := List.cons.inj heq
        obtain ⟨s₁, hs₁, hrun⟩ := run_cons_some step hrun
        obtain rfl := Option.some.inj (hs.symm.trans hs₁)
        exact .inr ⟨pre, b, post, u, v, rfl, hrun, hb, hstep, hpost⟩
  · rintro (⟨ha, hmeets⟩ | ⟨pre, b, post, u, v, rfl, hrun, hb, hstep, hpost⟩)
    · exact ⟨[], a, as, s, s', rfl, rfl, ha, hs, hmeets⟩
    · refine ⟨a :: pre, b, post, u, v, rfl, ?_, hb, hstep, hpost⟩
      rw [run_cons, hs, Option.bind_some, hrun]

/-- What the steps meeting `R` make true, and the others keep if and only if they meet `C`, holds at
the end of a run if and only if it was made true and kept since. -/
theorem flag_iff_since {P : S → Prop} {R C : S → A → Prop}
    (hstep : ∀ s a s', step s a = some s' → (P s' ↔ R s a ∨ P s ∧ C s a)) {s t : S} {as : List A}
    (hdown : ¬ P s) (hrun : run step s as = some t) : P t ↔ Since step R C s as := by
  suffices hgeneral : P t ↔ P s ∧ Meets step C s as ∨ Since step R C s as by
    rw [hgeneral, or_iff_right fun h => hdown h.1]
  clear hdown
  induction as generalizing s with
  | nil =>
      obtain rfl : s = t := by simpa using hrun
      have hnot : ¬ Since step R C s [] := by
        rintro ⟨pre, a, post, u, v, heq, -⟩
        exact absurd heq (by simp)
      rw [or_iff_left hnot]
      exact (and_iff_left trivial).symm
  | cons a as ih =>
      obtain ⟨s', hs', hrun'⟩ := run_cons_some step hrun
      rw [ih hrun', hstep s a s' hs', meets_cons hs', since_cons hs']
      tauto

/-- An invariant may mention the actions carried out so far. -/
theorem run_history {I : List A → S → Prop}
    (hstep : ∀ done s a s', I done s → step s a = some s' → I (done ++ [a]) s')
    {s t : S} {done as : List A} (hI : I done s) (hrun : run step s as = some t) :
    I (done ++ as) t := by
  induction as generalizing s done with
  | nil =>
      obtain rfl : s = t := by simpa using hrun
      rwa [List.append_nil]
  | cons a as ih =>
      obtain ⟨s', hs', hrun'⟩ := run_cons_some step hrun
      have h := ih (hstep done s a s' hI hs') hrun'
      rwa [List.append_assoc] at h

/-- Two runs over actions that match keep their states related, if one step does;
the relation and the step may mention the actions so far, which are part of the
whole lists. -/
theorem run_related {S' A' : Type*} {step' : S' → A' → Option S'} {Same : A → A' → Prop}
    {R : List A → List A' → S → S' → Prop} {all : List A} {all' : List A'}
    (hstep : ∀ done done' s s' a a' t, done ++ [a] <+: all → done' ++ [a'] <+: all' →
      Same a a' → R done done' s s' → step s a = some t →
      ∃ t', step' s' a' = some t' ∧ R (done ++ [a]) (done' ++ [a']) t t')
    {s t : S} {s' : S'} {done as : List A} {done' as' : List A'} (hall : done ++ as = all)
    (hall' : done' ++ as' = all') (hsame : List.Forall₂ Same as as') (hR : R done done' s s')
    (hrun : run step s as = some t) : ∃ t', run step' s' as' = some t' ∧ R all all' t t' := by
  induction hsame generalizing s s' done done' with
  | nil =>
      obtain rfl : s = t := by simpa using hrun
      rw [List.append_nil] at hall hall'
      exact ⟨s', rfl, hall ▸ hall' ▸ hR⟩
  | @cons a a' as as' ha hsame ih =>
      obtain ⟨u, hu, hrun⟩ := run_cons_some step hrun
      rw [List.append_cons] at hall hall'
      obtain ⟨u', hu', hR'⟩ := hstep done done' s s' a a' u ⟨as, hall⟩ ⟨as', hall'⟩ ha hR hu
      obtain ⟨t', hrun', hRt⟩ := ih hall hall' hR' hrun
      exact ⟨t', by rw [run_cons, hu', Option.bind_some, hrun'], hRt⟩

end Stepper
