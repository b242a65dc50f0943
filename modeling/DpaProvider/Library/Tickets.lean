import DpaProvider.Library.Monitor

/-!
A condition variable that deals out numbers.

A reader that has to wait draws the next number, and goes on once that number has been called.  A
signal calls the next number, whether or not somebody has drawn it yet.

* `Gate`: the operations on the two counters; `Gate.nat` has unbounded ones;
* `Tickets.step`: the interleavings of readers and producers of a `Monitor`;
* `Tickets.Inv.asleep`: the readers asleep are those whose numbers have been drawn and not called;
* `Tickets.Inv.covered`: while a reader sleeps, the object holds at most one item for every reader
  called and still under way and for every signal due;
* `Tickets.run_inv`: this holds along every run that bounded counters can count.
-/

/-- The counters of a condition variable: a number is drawn, the next number is called, and a
number is tested for having been called. -/
structure Gate (γ N : Type*) where
  draw : γ → N × γ
  call : γ → γ
  called : γ → N → Bool

/-- How many numbers have been drawn and how many called. -/
def Gate.nat : Gate (ℕ × ℕ) ℕ where
  draw := fun g => (g.1, (g.1 + 1, g.2))
  call := fun g => (g.1, g.2 + 1)
  called := fun g n => n < g.2

namespace Monitor

variable {σ Ins Rd γ N : Type*}

namespace Tickets

/-- The shared object; the readers before their wait, in it with their numbers, and behind it; the
numbers of those that are through; the producers between their insertion and their signal; and the
counters. -/
structure State (σ Rd γ N : Type*) where
  shared : σ
  missed : List Rd
  parked : List (Rd × N)
  awake : List (Rd × N)
  through : List N
  signalling : ℕ
  gate : γ

/-- The steps of readers and producers; `alarm` is a signal without an insertion. -/
inductive Action (Ins Rd : Type*) where
  | look (r : Rd)
  | park (k : ℕ)
  | wake (k : ℕ)
  | finish (k : ℕ)
  | insert (x : Ins)
  | signal
  | alarm

/-- A step; none if there is no such actor, or if its number has not been called. -/
def step (m : Monitor σ Ins Rd) (g : Gate γ N) (s : State σ Rd γ N) :
    Action Ins Rd → Option (State σ Rd γ N)
  | .look r =>
      let result := m.check r s.shared
      some { s with shared := result.2, missed := if result.1 then s.missed else s.missed ++ [r] }
  | .park k =>
      s.missed[k]?.map fun r =>
        { s with missed := s.missed.eraseIdx k, parked := s.parked ++ [(r, (g.draw s.gate).1)],
                 gate := (g.draw s.gate).2 }
  | .wake k =>
      s.parked[k]?.bind fun p =>
        if g.called s.gate p.2 then
          some { s with parked := s.parked.eraseIdx k, awake := s.awake ++ [p] }
        else none
  | .finish k =>
      s.awake[k]?.map fun p =>
        { s with shared := m.recheck p.1 s.shared, awake := s.awake.eraseIdx k,
                 through := s.through ++ [p.2] }
  | .insert x => some { s with shared := m.insert x s.shared, signalling := s.signalling + 1 }
  | .signal =>
      if s.signalling = 0 then none
      else some { s with gate := g.call s.gate, signalling := s.signalling - 1 }
  | .alarm => some { s with gate := g.call s.gate }

/-- The readers that go on waiting. -/
def asleep (g : Gate γ N) (s : State σ Rd γ N) : List (Rd × N) :=
  s.parked.filter fun p => !g.called s.gate p.2

/-- The readers whose numbers have been called, and which have not looked again. -/
def underWay (g : Gate γ N) (s : State σ Rd γ N) : ℕ :=
  (s.parked.filter fun p => g.called s.gate p.2).length + s.awake.length

/-- The object holds a number of items: an insertion adds at most one, and the last look of a reader
that `Asks` takes one if there is one. -/
structure Counted (m : Monitor σ Ins Rd) (items : σ → ℕ → Prop) (Asks : Rd → Prop) : Prop where
  insert : ∀ x s n, items s n → ∃ n' ≤ n + 1, items (m.insert x s) n'
  check : ∀ r s n, items s n → ∃ n' ≤ n, items (m.check r s).2 n'
  recheck : ∀ r s n, Asks r → items s n → ∃ n' ≤ n - 1, items (m.recheck r s) n'

/-- Every reader that waits asks for an item. -/
def Fine (m : Monitor σ Ins Rd) (Asks : Rd → Prop) : Action Ins Rd → Prop
  | .look r => ∀ s, (m.check r s).1 = false → Asks r
  | _ => True

/-! ### Unbounded counters -/

section Numbers

variable {m : Monitor σ Ins Rd} {items : σ → ℕ → Prop} {Asks : Rd → Prop}
  {s s' : State σ Rd (ℕ × ℕ) ℕ}

/-- The numbers of the readers behind their wait, and of those that are through. -/
def gone (s : State σ Rd (ℕ × ℕ) ℕ) : List ℕ := s.awake.map Prod.snd ++ s.through

/-- Every number drawn has one reader; those behind their wait have been called; and every item
still there has a call or a signal of its own, besides those that the readers have used up. -/
structure Inv (items : σ → ℕ → Prop) (Asks : Rd → Prop) (s : State σ Rd (ℕ × ℕ) ℕ) : Prop where
  numbers : (s.parked.map Prod.snd ++ gone s).Perm (List.range s.gate.1)
  called : ∀ n ∈ gone s, n < s.gate.2
  missed : ∀ r ∈ s.missed, Asks r
  waiting : ∀ p ∈ s.parked ++ s.awake, Asks p.1
  items : ∃ n, items s.shared n ∧ n + s.through.length ≤ s.gate.2 + s.signalling

/-- Before the first step over an empty object. -/
lemma inv_init {shared : σ} (h : items shared 0) :
    Inv items Asks (⟨shared, [], [], [], [], 0, (0, 0)⟩ : State σ Rd (ℕ × ℕ) ℕ) where
  numbers := .nil
  called := by simp [gone]
  missed := by simp
  waiting := by simp
  items := ⟨0, h, le_rfl⟩

lemma Inv.gone_le (h : Inv items Asks s) : (gone s).length ≤ s.gate.2 := by
  have hnodup : (gone s).Nodup :=
    (h.numbers.nodup_iff.2 List.nodup_range).sublist (List.sublist_append_right _ _)
  have hsub : gone s ⊆ List.range s.gate.2 := fun n hn => List.mem_range.2 (h.called n hn)
  have hle := (List.subperm_of_subset hnodup hsub).length_le
  rwa [List.length_range] at hle

/-- One of a list goes to the end of another. -/
lemma perm_move {α : Type*} {l : List α} {k : ℕ} {a : α} (ha : l[k]? = some a) (l' : List α) :
    (l.eraseIdx k ++ (l' ++ [a])).Perm (l ++ l') := by
  obtain ⟨hk, rfl⟩ := List.getElem?_eq_some_iff.1 ha
  rw [← List.append_assoc]
  exact (List.perm_append_singleton _ _).trans
    ((List.getElem_cons_eraseIdx_perm hk).append_right l')

lemma Inv.look (h : Inv items Asks s) (hcounted : Counted m items Asks) {r : Rd}
    (hasks : (m.check r s.shared).1 = false → Asks r) :
    Inv items Asks { s with
      shared := (m.check r s.shared).2
      missed := if (m.check r s.shared).1 then s.missed else s.missed ++ [r] } := by
  obtain ⟨n, hn, hle⟩ := h.items
  obtain ⟨n', hle', hn'⟩ := hcounted.check r _ n hn
  refine ⟨h.numbers, h.called, fun r' hr' => ?_, h.waiting, n', hn', by dsimp only; omega⟩
  dsimp only at hr'
  split at hr'
  case isTrue => exact h.missed r' hr'
  case isFalse hfalse =>
      rcases List.mem_append.1 hr' with hr' | hr'
      · exact h.missed r' hr'
      · obtain rfl := List.mem_singleton.1 hr'
        exact hasks (Bool.eq_false_of_not_eq_true hfalse)

lemma Inv.park (h : Inv items Asks s) {k : ℕ} {r : Rd} (hr : s.missed[k]? = some r) :
    Inv items Asks { s with missed := s.missed.eraseIdx k, parked := s.parked ++ [(r, s.gate.1)],
                            gate := (s.gate.1 + 1, s.gate.2) } := by
  refine ⟨?_, h.called, fun r' hr' => h.missed r' (List.mem_of_mem_eraseIdx hr'), ?_, h.items⟩
  · have hlast (l : List ℕ) : ([s.gate.1] ++ l).Perm (l ++ [s.gate.1]) := List.perm_append_comm
    rw [List.range_succ, List.map_append, List.map_singleton, List.append_assoc]
    exact (List.perm_append_comm_assoc _ _ _).trans ((hlast _).trans (h.numbers.append_right _))
  · intro p hp
    rw [List.append_assoc, List.mem_append, List.mem_append, List.mem_singleton] at hp
    rcases hp with hp | rfl | hp
    · exact h.waiting p (List.mem_append_left _ hp)
    · exact h.missed r (List.mem_of_getElem? hr)
    · exact h.waiting p (List.mem_append_right _ hp)

lemma Inv.wake (h : Inv items Asks s) {k : ℕ} {p : Rd × ℕ} (hp : s.parked[k]? = some p)
    (hcalled : p.2 < s.gate.2) :
    Inv items Asks { s with parked := s.parked.eraseIdx k, awake := s.awake ++ [p] } := by
  have hmove := perm_move hp s.awake
  refine ⟨?_, fun n hn => ?_, h.missed, fun q hq => h.waiting q (hmove.subset hq), h.items⟩
  · have hnumbers : ((s.parked.eraseIdx k).map Prod.snd
        ++ ((s.awake ++ [p]).map Prod.snd ++ s.through)).Perm
          (s.parked.map Prod.snd ++ gone s) := by
      rw [gone, ← List.append_assoc, ← List.append_assoc, ← List.map_append, ← List.map_append]
      exact (hmove.map Prod.snd).append_right s.through
    exact hnumbers.trans h.numbers
  · rw [gone, List.map_append, List.map_singleton, List.append_assoc, List.mem_append,
      List.mem_append, List.mem_singleton] at hn
    rcases hn with hn | rfl | hn
    · exact h.called n (List.mem_append_left _ hn)
    · exact hcalled
    · exact h.called n (List.mem_append_right _ hn)

lemma Inv.finish (h : Inv items Asks s) (hcounted : Counted m items Asks) {k : ℕ} {p : Rd × ℕ}
    (hp : s.awake[k]? = some p) :
    Inv items Asks { s with shared := m.recheck p.1 s.shared, awake := s.awake.eraseIdx k,
                            through := s.through ++ [p.2] } := by
  have hmem : p ∈ s.awake := List.mem_of_getElem? hp
  obtain ⟨n, hn, hle⟩ := h.items
  obtain ⟨n', hle', hn'⟩ :=
    hcounted.recheck p.1 _ n (h.waiting p (List.mem_append_right _ hmem)) hn
  have hgone : ((s.awake.eraseIdx k).map Prod.snd ++ (s.through ++ [p.2])).Perm (gone s) := by
    have hsnd : (s.awake.map Prod.snd)[k]? = some p.2 := by rw [List.getElem?_map, hp]; rfl
    rw [← List.eraseIdx_map]
    exact perm_move hsnd s.through
  refine ⟨(hgone.append_left _).trans h.numbers, fun a ha => h.called a (hgone.subset ha), h.missed,
    fun q hq => h.waiting q ?_, n', hn', ?_⟩
  · exact (List.mem_append.1 hq).elim (List.mem_append_left _) fun hq =>
      List.mem_append_right _ (List.mem_of_mem_eraseIdx hq)
  · -- a reader that finds nothing has been called by a signal of its own
    have hcount := h.gone_le
    have hpos := List.length_pos_of_mem hmem
    rw [gone, List.length_append, List.length_map] at hcount
    rw [List.length_append, List.length_singleton]
    dsimp only
    omega

lemma Inv.call (h : Inv items Asks s) {d : ℕ} (hd : s.signalling ≤ d + 1) :
    Inv items Asks { s with gate := (s.gate.1, s.gate.2 + 1), signalling := d } := by
  obtain ⟨n, hn, hle⟩ := h.items
  refine ⟨h.numbers, fun a ha => Nat.lt_succ_of_lt (h.called a ha), h.missed, h.waiting, n, hn, ?_⟩
  dsimp only
  omega

lemma Inv.step (h : Inv items Asks s) (hcounted : Counted m items Asks) {a : Action Ins Rd}
    (hfine : Fine m Asks a) (hstep : Tickets.step m .nat s a = some s') : Inv items Asks s' := by
  cases a with
  | look r =>
      cases Option.some.inj hstep
      exact h.look hcounted (hfine s.shared)
  | park k =>
      obtain ⟨r, hr, rfl⟩ := Option.map_eq_some_iff.1 hstep
      exact h.park hr
  | wake k =>
      obtain ⟨p, hp, hstep⟩ := Option.bind_eq_some_iff.1 hstep
      split_ifs at hstep with hcalled
      cases Option.some.inj hstep
      exact h.wake hp (of_decide_eq_true hcalled)
  | finish k =>
      obtain ⟨p, hp, rfl⟩ := Option.map_eq_some_iff.1 hstep
      exact h.finish hcounted hp
  | insert x =>
      cases Option.some.inj hstep
      obtain ⟨n, hn, hle⟩ := h.items
      obtain ⟨n', hle', hn'⟩ := hcounted.insert x _ n hn
      exact ⟨h.numbers, h.called, h.missed, h.waiting, n', hn', by dsimp only; omega⟩
  | signal =>
      rw [Tickets.step] at hstep
      split_ifs at hstep with hdue
      cases Option.some.inj hstep
      exact h.call (by omega)
  | alarm =>
      cases Option.some.inj hstep
      exact h.call (by omega)

/-! ### Who sleeps -/

lemma countP_range (k n : ℕ) : (List.range n).countP (k ≤ ·) = n - k := by
  induction n with
  | zero => simp
  | succ n ih =>
      rw [List.range_succ, List.countP_append, ih, List.countP_singleton]
      by_cases hk : k ≤ n
      · simp only [hk, decide_true, if_true]
        omega
      · simp only [hk, decide_false]
        simp
        omega

/-- The readers asleep are those with a number that has been drawn and not called. -/
lemma Inv.asleep (h : Inv items Asks s) : (asleep .nat s).length = s.gate.1 - s.gate.2 := by
  have hgone : (gone s).countP (s.gate.2 ≤ ·) = 0 :=
    List.countP_eq_zero.2 fun n hn => by simpa using h.called n hn
  have hcount := h.numbers.countP_eq (s.gate.2 ≤ ·)
  rw [List.countP_append, hgone, Nat.add_zero, countP_range, List.countP_map,
    List.countP_eq_length_filter] at hcount
  rw [← hcount]
  simp [Tickets.asleep, Gate.nat, Function.comp_def, ← decide_not]

/-- While a reader sleeps, every number called has a reader that is under way or through. -/
lemma Inv.underWay (h : Inv items Asks s) (hasleep : Tickets.asleep .nat s ≠ []) :
    s.gate.2 = Tickets.underWay .nat s + s.through.length := by
  have hpos := List.length_pos_iff.2 hasleep
  have hlen := h.numbers.length_eq
  have hsplit :=
    List.length_eq_length_filter_add (l := s.parked) fun p => Gate.nat.called s.gate p.2
  have hasleep := h.asleep
  rw [Tickets.asleep] at hasleep hpos
  rw [List.length_append, gone, List.length_append, List.length_map, List.length_map,
    List.length_range] at hlen
  rw [Tickets.underWay]
  omega

/-- While a reader sleeps, the object holds at most one item for every reader under way and for
every signal due. -/
lemma Inv.covered (h : Inv items Asks s) (hasleep : Tickets.asleep .nat s ≠ []) :
    ∃ n, items s.shared n ∧ n ≤ Tickets.underWay .nat s + s.signalling := by
  obtain ⟨n, hn, hle⟩ := h.items
  have hunder := h.underWay hasleep
  exact ⟨n, hn, by omega⟩

end Numbers

/-! ### Bounded counters -/

section Bounded

variable {m : Monitor σ Ins Rd} {g : Gate γ N} {count : γ → ℕ × ℕ} {num : N → ℕ} {bound : ℕ}
  {s s' t : State σ Rd γ N}

/-- The operations count as those of the natural numbers do, up to a bound. -/
structure Counts (g : Gate γ N) (count : γ → ℕ × ℕ) (num : N → ℕ) (bound : ℕ) : Prop where
  draw : ∀ c, (count c).1 < bound → num (g.draw c).1 = (count c).1
    ∧ count (g.draw c).2 = ((count c).1 + 1, (count c).2)
  call : ∀ c, (count c).2 < bound → count (g.call c) = ((count c).1, (count c).2 + 1)
  called : ∀ c n, g.called c n = decide (num n < (count c).2)

/-- The state with natural numbers. -/
def State.counted (count : γ → ℕ × ℕ) (num : N → ℕ) (s : State σ Rd γ N) :
    State σ Rd (ℕ × ℕ) ℕ where
  shared := s.shared
  missed := s.missed
  parked := s.parked.map fun p => (p.1, num p.2)
  awake := s.awake.map fun p => (p.1, num p.2)
  through := s.through.map num
  signalling := s.signalling
  gate := count s.gate

lemma step_nat (hcounts : Counts g count num bound) (hdrawn : (count s.gate).1 < bound)
    (hcalled : (count s.gate).2 < bound) {a : Action Ins Rd} (hstep : step m g s a = some s') :
    step m .nat (s.counted count num) a = some (s'.counted count num)
      ∧ (count s'.gate).1 ≤ (count s.gate).1 + 1 ∧ (count s'.gate).2 ≤ (count s.gate).2 + 1 := by
  cases a with
  | look r =>
      cases Option.some.inj hstep
      exact ⟨rfl, Nat.le_succ _, Nat.le_succ _⟩
  | park k =>
      obtain ⟨r, hr, rfl⟩ := Option.map_eq_some_iff.1 hstep
      obtain ⟨hnum, hcount⟩ := hcounts.draw s.gate hdrawn
      refine ⟨?_, by rw [hcount], by rw [hcount]; exact Nat.le_succ _⟩
      simp only [step, State.counted, hr, Option.map_some, Gate.nat, List.map_append,
        List.map_singleton, hnum, hcount]
  | wake k =>
      obtain ⟨p, hp, hstep⟩ := Option.bind_eq_some_iff.1 hstep
      split_ifs at hstep with hopen
      cases Option.some.inj hstep
      refine ⟨?_, Nat.le_succ _, Nat.le_succ _⟩
      rw [hcounts.called] at hopen
      simp only [step, State.counted, List.getElem?_map, hp, Option.map_some, Option.bind_some,
        Gate.nat, hopen, if_true, List.eraseIdx_map, List.map_append, List.map_singleton]
  | finish k =>
      obtain ⟨p, hp, rfl⟩ := Option.map_eq_some_iff.1 hstep
      refine ⟨?_, Nat.le_succ _, Nat.le_succ _⟩
      simp only [step, State.counted, List.getElem?_map, hp, Option.map_some, List.eraseIdx_map,
        List.map_append, List.map_singleton]
  | insert x =>
      cases Option.some.inj hstep
      exact ⟨rfl, Nat.le_succ _, Nat.le_succ _⟩
  | signal =>
      rw [step] at hstep
      split_ifs at hstep with hdue
      cases Option.some.inj hstep
      have hcount := hcounts.call s.gate hcalled
      refine ⟨?_, by rw [hcount]; exact Nat.le_succ _, by rw [hcount]⟩
      simp only [step, State.counted, hcount, Gate.nat]
      exact if_neg hdue
  | alarm =>
      cases Option.some.inj hstep
      have hcount := hcounts.call s.gate hcalled
      refine ⟨?_, by rw [hcount]; exact Nat.le_succ _, by rw [hcount]⟩
      simp only [step, State.counted, hcount, Gate.nat]

lemma asleep_counted (hcounts : Counts g count num bound) (s : State σ Rd γ N) :
    (asleep .nat (s.counted count num)).length = (asleep g s).length := by
  simp [asleep, State.counted, List.filter_map, Function.comp_def, Gate.nat, hcounts.called]

lemma underWay_counted (hcounts : Counts g count num bound) (s : State σ Rd γ N) :
    underWay .nat (s.counted count num) = underWay g s := by
  simp [underWay, State.counted, List.filter_map, Function.comp_def, Gate.nat, hcounts.called]

/-- A run that is no longer than the bound is one with natural numbers. -/
theorem run_nat (hcounts : Counts g count num bound) {actions : List (Action Ins Rd)}
    (hdrawn : (count s.gate).1 + actions.length ≤ bound)
    (hcalled : (count s.gate).2 + actions.length ≤ bound)
    (hrun : Stepper.run (step m g) s actions = some t) :
    Stepper.run (step m .nat) (s.counted count num) actions = some (t.counted count num) := by
  induction actions generalizing s with
  | nil =>
      obtain rfl : s = t := by simpa using hrun
      rfl
  | cons a actions ih =>
      obtain ⟨s', hs', hrun⟩ := Stepper.run_cons_some _ hrun
      rw [List.length_cons] at hdrawn hcalled
      obtain ⟨hstep, hdrawn', hcalled'⟩ := step_nat hcounts (by omega) (by omega) hs'
      rw [Stepper.run_cons, hstep]
      exact ih (by omega) (by omega) hrun

/-- What holds of natural numbers at the end of every run from an empty object. -/
lemma run_inv (hcounts : Counts g count num bound) {items : σ → ℕ → Prop} {Asks : Rd → Prop}
    (hcounted : Counted m items Asks) {shared : σ} (hempty : items shared 0) {c : γ}
    (hc : count c = (0, 0)) {actions : List (Action Ins Rd)} (hlen : actions.length ≤ bound)
    (hfine : ∀ a ∈ actions, Fine m Asks a)
    (hrun : Stepper.run (step m g) ⟨shared, [], [], [], [], 0, c⟩ actions = some s) :
    Inv items Asks (s.counted count num) := by
  have hnat := run_nat hcounts (by simpa [hc] using hlen) (by simpa [hc] using hlen) hrun
  refine Stepper.run_induction (I := Inv items Asks) (C := fun _ a => Fine m Asks a)
    (fun _ _ _ h hf hs => h.step hcounted hf hs) ?_ (Stepper.meets_of_forall hfine) hnat
  rw [State.counted, hc]
  exact inv_init hempty

end Bounded

end Tickets

end Monitor
