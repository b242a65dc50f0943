import Mathlib.Tactic

/-!
Loops that go on until a test of the state ends them.

The rounds of a loop are numbered, so that what its surroundings do in each of them can differ.

* `Until.run`: the loop, which is given fuel;
* `Until.path`: the states at the beginnings of the rounds, as if the test never ended it;
* `run_eq_some_iff`: the loop ends with the first test that succeeds along the path;
* `returns_iff`: some fuel suffices exactly if a test succeeds.
-/

namespace Until

variable {σ β : Type*} (next : ℕ → σ → σ) (stop : ℕ → σ → Option β)

/-- The loop from the round `k` on. -/
def run : ℕ → ℕ → σ → Option β
  | 0, _, _ => none
  | fuel + 1, k, s =>
      match stop k s with
      | some b => some b
      | none => run fuel (k + 1) (next k s)

/-- The state at the beginning of a round. -/
def path (s : σ) : ℕ → σ
  | 0 => s
  | k + 1 => next k (path s k)

variable {next stop} {s : σ} {b : β}

/-- The tests before the round `j` fail, and that one succeeds. -/
def FirstStop (next : ℕ → σ → σ) (stop : ℕ → σ → Option β) (s : σ) (j : ℕ) (b : β) : Prop :=
  stop j (path next s j) = some b ∧ ∀ i < j, stop i (path next s i) = none

/-- From a round that the loop reaches, it ends with the first success that the fuel allows. -/
lemma run_path {fuel k : ℕ} (hbefore : ∀ i < k, stop i (path next s i) = none) :
    run next stop fuel k (path next s k) = some b ↔ ∃ j < k + fuel, FirstStop next stop s j b := by
  induction fuel generalizing k with
  | zero =>
      refine iff_of_false nofun ?_
      rintro ⟨j, hj, hstop, -⟩
      exact absurd (hbefore j (by omega)) (by simp [hstop])
  | succ fuel ih =>
      rw [run]
      cases hstop : stop k (path next s k) with
      | some b' =>
          constructor
          · intro heq
            exact ⟨k, by omega, hstop.trans heq, hbefore⟩
          · rintro ⟨j, -, hj, hnone⟩
            obtain hlt | rfl | hgt := lt_trichotomy j k
            · exact absurd (hbefore j hlt) (by simp [hj])
            · exact hstop.symm.trans hj
            · exact absurd (hnone k hgt) (by simp [hstop])
      | none =>
          have hnext : ∀ i < k + 1, stop i (path next s i) = none := by
            intro i hi
            obtain hlt | rfl := Nat.lt_succ_iff_lt_or_eq.1 hi
            · exact hbefore i hlt
            · exact hstop
          have hrest := ih hnext
          rw [show k + 1 + fuel = k + (fuel + 1) by omega] at hrest
          exact hrest

/-- The loop ends with the first test that succeeds. -/
lemma run_eq_some_iff {fuel : ℕ} :
    run next stop fuel 0 s = some b ↔ ∃ j < fuel, FirstStop next stop s j b := by
  have hpath : run next stop fuel 0 (path next s 0) = some b ↔ _ := run_path nofun
  rwa [Nat.zero_add] at hpath

/-- The loop ends if a test succeeds, and otherwise goes on for ever. -/
lemma returns_iff :
    (∃ fuel b, run next stop fuel 0 s = some b) ↔ ∃ j, stop j (path next s j) ≠ none := by
  constructor
  · rintro ⟨fuel, b, hrun⟩
    obtain ⟨j, -, hstop, -⟩ := run_eq_some_iff.1 hrun
    exact ⟨j, by simp [hstop]⟩
  · intro hexists
    classical
    obtain ⟨b, hb⟩ := Option.ne_none_iff_exists'.1 (Nat.find_spec hexists)
    have hbefore : ∀ i < Nat.find hexists, stop i (path next s i) = none :=
      fun i hi => not_not.1 (Nat.find_min hexists hi)
    exact ⟨Nat.find hexists + 1, b,
      run_eq_some_iff.2 ⟨Nat.find hexists, Nat.lt_succ_self _, hb, hbefore⟩⟩

end Until
