import Mathlib.Tactic

/-!
Computations over a state that may fail to return.

An `Effect ε σ α` is a function of the state that gives a result and the next
state, or an error.  What is said of it is said of the runs that return.

* `run_bind_ok`, `run_pure_ok`, …: a run of a compound computation is taken apart
  into runs of its parts;
* `Ends`: what holds at the end of every run, whatever the beginning;
* `Returns`: there is a run from every state;
* `Frame`: a reflexive and transitive relation on states, such as "this part is the
  same" (`Frame.same`) or "this list has grown" (`Frame.grows`);
* `Keeps`: every run relates its first and its last state by a frame; one rule for
  each way of building a computation (`keeps_bind`, `keeps_modify`, …).
-/

/-- A map returns only if what it is applied to does. -/
lemma Except.map_eq_ok {ε α β : Type*} {x : Except ε α} {f : α → β} {b : β}
    (h : x.map f = .ok b) : ∃ a, x = .ok a ∧ f a = b := by
  cases x with
  | error err => exact absurd h (by simp [Except.map])
  | ok a => exact ⟨a, rfl, by simpa [Except.map] using h⟩

/-- A computation over the states `σ`, which may fail with an `ε`. -/
abbrev Effect (ε σ α : Type) := StateT σ (Except ε) α

namespace Effect

variable {ε σ α β τ : Type}

/-! ### Runs that return -/

lemma run_bind_ok {m : Effect ε σ α} {f : α → Effect ε σ β} {s : σ} {r : β × σ}
    (h : (m >>= f) s = .ok r) : ∃ a s', m s = .ok (a, s') ∧ f a s' = .ok r := by
  cases hm : m s with
  | error err => exact absurd h (by simp [bind, StateT.bind, Except.bind, hm])
  | ok p => exact ⟨p.1, p.2, rfl, by simpa [bind, StateT.bind, Except.bind, hm] using h⟩

lemma run_bind {m : Effect ε σ α} {f : α → Effect ε σ β} {s s' : σ} {a : α}
    (h : m s = .ok (a, s')) : (m >>= f) s = f a s' := by
  simp [bind, StateT.bind, Except.bind, h]

lemma run_bind_error {m : Effect ε σ α} {f : α → Effect ε σ β} {s : σ} {e : ε}
    (h : m s = .error e) : (m >>= f) s = .error e := by
  simp [bind, StateT.bind, Except.bind, h]

/-- A compound computation fails in its first part or in its second one. -/
lemma run_bind_error_cases {m : Effect ε σ α} {f : α → Effect ε σ β} {s : σ} {e : ε}
    (h : (m >>= f) s = .error e) :
    m s = .error e ∨ ∃ a s', m s = .ok (a, s') ∧ f a s' = .error e := by
  cases hm : m s with
  | error err =>
      rw [run_bind_error hm] at h
      exact .inl (congrArg _ (Except.error.inj h))
  | ok p =>
      obtain ⟨a, s'⟩ := p
      rw [run_bind hm] at h
      exact .inr ⟨a, s', rfl, h⟩

lemma run_map_ok {m : Effect ε σ α} {f : α → β} {s s' : σ} {b : β}
    (h : (f <$> m) s = .ok (b, s')) : ∃ a, m s = .ok (a, s') ∧ f a = b := by
  rw [map_eq_pure_bind] at h
  obtain ⟨a, s₁, hm, hpure⟩ := run_bind_ok h
  obtain ⟨rfl, rfl⟩ := Prod.mk.inj (Except.ok.inj hpure)
  exact ⟨a, hm, rfl⟩

lemma run_pure_ok {a : α} {s : σ} {r : α × σ} (h : (pure a : Effect ε σ α) s = .ok r) :
    r = (a, s) := by
  exact (Except.ok.inj h).symm

lemma run_get_ok {s : σ} {r : σ × σ} (h : (get : Effect ε σ σ) s = .ok r) : r = (s, s) := by
  simpa [get, getThe, MonadStateOf.get, StateT.get, pure, Except.pure, eq_comm] using h

lemma run_modify_ok {f : σ → σ} {s : σ} {r : Unit × σ}
    (h : (modify f : Effect ε σ Unit) s = .ok r) : r = ((), f s) := by
  simpa [modify, modifyGet, MonadStateOf.modifyGet, StateT.modifyGet, pure, Except.pure,
    eq_comm] using h

lemma throw_ne_ok {err : ε} {s : σ} {r : α × σ} : (throw err : Effect ε σ α) s ≠ .ok r := by
  simp [throw, throwThe, MonadExceptOf.throw, StateT.lift, bind, Except.bind]

@[simp] lemma pure_run (a : α) (s : σ) : (pure a : Effect ε σ α) s = .ok (a, s) := rfl

@[simp] lemma throw_run (err : ε) (s : σ) : (throw err : Effect ε σ α) s = .error err := rfl

@[simp] lemma get_bind (f : σ → Effect ε σ β) (s : σ) :
    ((get : Effect ε σ σ) >>= f) s = f s s := rfl

@[simp] lemma modify_bind (g : σ → σ) (f : Unit → Effect ε σ β) (s : σ) :
    ((modify g : Effect ε σ Unit) >>= f) s = f () (g s) := rfl

@[simp] lemma ite_run {p : Prop} [Decidable p] (m m' : Effect ε σ α) (s : σ) :
    (if p then m else m') s = if p then m s else m' s := by
  split <;> rfl

/-- What holds of the result and the last state of every run that returns. -/
def Ends (Q : α → σ → Prop) (m : Effect ε σ α) : Prop := ∀ s a s', m s = .ok (a, s') → Q a s'

lemma ends_pure {Q : α → σ → Prop} {a : α} (h : ∀ s, Q a s) :
    Ends Q (pure a : Effect ε σ α) := by
  intro s b s' hrun
  obtain ⟨rfl, rfl⟩ := Prod.mk.inj (run_pure_ok hrun)
  exact h _

lemma ends_bind {Q : β → σ → Prop} {m : Effect ε σ α} {f : α → Effect ε σ β}
    (h : ∀ a, Ends Q (f a)) : Ends Q (m >>= f) := by
  intro s b s'' hrun
  obtain ⟨a, s', -, hf⟩ := run_bind_ok hrun
  exact h a s' b s'' hf

lemma ends_ite {Q : α → σ → Prop} {p : Prop} [Decidable p] {m m' : Effect ε σ α}
    (h : p → Ends Q m) (h' : ¬ p → Ends Q m') : Ends Q (if p then m else m') := by
  split
  case isTrue hp => exact h hp
  case isFalse hp => exact h' hp

/-! ### Computations that always return -/

/-- There is a run from every state. -/
def Returns (m : Effect ε σ α) : Prop := ∀ s, ∃ r, m s = .ok r

lemma returns_pure (a : α) : Returns (pure a : Effect ε σ α) := fun s => ⟨(a, s), rfl⟩

lemma returns_get : Returns (get : Effect ε σ σ) := fun s => ⟨(s, s), rfl⟩

lemma returns_modify (f : σ → σ) : Returns (modify f : Effect ε σ Unit) := fun s => ⟨((), f s), rfl⟩

lemma returns_bind {m : Effect ε σ α} {f : α → Effect ε σ β} (hm : Returns m)
    (hf : ∀ a, Returns (f a)) : Returns (m >>= f) := by
  intro s
  obtain ⟨⟨a, s'⟩, hrun⟩ := hm s
  rw [run_bind hrun]
  exact hf a s'

lemma returns_ite {p : Prop} [Decidable p] {m m' : Effect ε σ α} (h : Returns m)
    (h' : Returns m') : Returns (if p then m else m') := by
  split
  · exact h
  · exact h'

/-! ### Frames -/

/-- A relation between the states before and after a computation. -/
structure Frame (σ : Type) where
  rel : σ → σ → Prop
  refl : ∀ s, rel s s
  trans : ∀ s t u, rel s t → rel t u → rel s u

/-- A part of the state stays the same. -/
def Frame.same (part : σ → τ) : Frame σ where
  rel := fun s t => part t = part s
  refl := fun _ => rfl
  trans := fun _ _ _ h h' => h'.trans h

/-- A list in the state only grows at its end. -/
def Frame.grows (part : σ → List τ) : Frame σ where
  rel := fun s t => part s <+: part t
  refl := fun _ => List.prefix_rfl
  trans := fun _ _ _ h h' => h.trans h'

/-- Every run of `m` that returns is in the frame. -/
def Keeps (F : Frame σ) (m : Effect ε σ α) : Prop :=
  ∀ s a s', m s = .ok (a, s') → F.rel s s'

variable {F : Frame σ}

lemma keeps_pure (a : α) : Keeps F (pure a : Effect ε σ α) := by
  intro s b s' h
  obtain ⟨rfl, rfl⟩ := Prod.mk.inj (run_pure_ok h)
  exact F.refl _

lemma keeps_bind {m : Effect ε σ α} {f : α → Effect ε σ β} (hm : Keeps F m)
    (hf : ∀ a, Keeps F (f a)) : Keeps F (m >>= f) := by
  intro s b s'' h
  obtain ⟨a, s', hm', hf'⟩ := run_bind_ok h
  exact F.trans _ _ _ (hm s a s' hm') (hf a s' b s'' hf')

lemma keeps_map {m : Effect ε σ α} (f : α → β) (hm : Keeps F m) : Keeps F (f <$> m) := by
  rw [map_eq_pure_bind]
  exact keeps_bind hm fun _ => keeps_pure _

lemma keeps_get : Keeps F (get : Effect ε σ σ) := by
  intro s a s' h
  obtain ⟨rfl, rfl⟩ := Prod.mk.inj (run_get_ok h)
  exact F.refl _

lemma keeps_modify {f : σ → σ} (hf : ∀ s, F.rel s (f s)) :
    Keeps F (modify f : Effect ε σ Unit) := by
  intro s a s' h
  obtain ⟨-, rfl⟩ := Prod.mk.inj (run_modify_ok h)
  exact hf s

lemma keeps_throw (err : ε) : Keeps F (throw err : Effect ε σ α) :=
  fun _ _ _ h => absurd h throw_ne_ok

lemma keeps_ite {p : Prop} [Decidable p] {m m' : Effect ε σ α} (h : Keeps F m)
    (h' : Keeps F m') : Keeps F (if p then m else m') := by
  split
  · exact h
  · exact h'

end Effect
