import DpaProvider.Library.ByteMem

/-!
Circular buffers over absolute positions.

A stream of bytes runs through a buffer of `S` bytes: the byte at the absolute
position `p` sits at the address `p % S`.  A cursor is an absolute position
modulo `2 * S`; the extra factor tells a full buffer from an empty one.

* `mod_inj_of_window`: inside a window of `S` positions the address determines
  the position;
* `patch_window`: a store into a block that does not cross the top of the
  buffer, read back at absolute positions;
* `mod_two_mul_mod`: the address under a cursor;
* `space_of_cursors`: the free space computed from two cursors is `S` less the
  bytes between them;
* `cursor_add`: how a cursor moves;
* `gap`: the bytes between two cursors.
-/

namespace Circular

open ByteMem

variable {S R a x n : ℕ}

/-- The byte at the absolute position `x`. -/
def at_ (S : ℕ) (m : ByteMem) (x : ℕ) : UInt8 := m (x % S)

lemma mod_add_of_lt {j : ℕ} (h : a % S + j < S) : (a + j) % S = a % S + j := by
  rw [Nat.add_mod, Nat.mod_eq_of_lt (show j < S by omega), Nat.mod_eq_of_lt h]

lemma mod_add_of_ge {j : ℕ} (hS : 0 < S) (hj : j ≤ S) (h : S ≤ a % S + j) :
    (a + j) % S = a % S + j - S := by
  have ha := Nat.mod_lt a hS
  have hcalc : (a + j) % S = (a % S + j) % S := by rw [Nat.mod_add_mod]
  rw [hcalc, Nat.mod_eq_sub_mod h, Nat.mod_eq_of_lt (by omega)]

/-- Inside a window of `S` positions the address determines the position. -/
lemma mod_inj_of_window {y : ℕ} (hx : R ≤ x) (hx' : x < R + S) (hy : R ≤ y) (hy' : y < R + S)
    (h : x % S = y % S) : x = y := by
  have key : ∀ u v : ℕ, u ≤ v → v < u + S → u % S = v % S → u = v := by
    intro u v huv hvS huv'
    have hd : (v - u) % S = 0 := Nat.sub_mod_eq_zero_of_mod_eq huv'.symm
    rw [Nat.mod_eq_of_lt (by omega)] at hd
    omega
  rcases le_total x y with hxy | hxy
  · exact key x y hxy (by omega) h
  · exact (key y x hxy (by omega) h.symm).symm

/-- A block that starts at the position `a` and does not cross the top covers
exactly the positions `[a, a + n)` of the window. -/
lemma block_window (hRa : R ≤ a) (han : a + n ≤ R + S) (htop : a % S + n ≤ S)
    (hRx : R ≤ x) (hxS : x < R + S) :
    (a % S ≤ x % S ∧ x % S < a % S + n) ↔ (a ≤ x ∧ x < a + n) := by
  constructor
  · rintro ⟨h₁, h₂⟩
    obtain ⟨j, hj⟩ : ∃ j, x % S = a % S + j := ⟨x % S - a % S, by omega⟩
    have hxj : x % S = (a + j) % S := by rw [mod_add_of_lt (by omega), hj]
    have := mod_inj_of_window hRx hxS (by omega) (by omega) hxj
    omega
  · rintro ⟨h₁, h₂⟩
    obtain ⟨j, rfl⟩ : ∃ j, x = a + j := ⟨x - a, by omega⟩
    rw [mod_add_of_lt (by omega)]
    omega

/-- A store into a block that does not cross the top, read at absolute
positions of one window. -/
lemma patch_window {m : ByteMem} {f : ℕ → UInt8} (hRa : R ≤ a) (han : a + n ≤ R + S)
    (htop : a % S + n ≤ S) (hRx : R ≤ x) (hxS : x < R + S) :
    at_ S (patch m (a % S) n f) x = if a ≤ x ∧ x < a + n then f (x - a) else at_ S m x := by
  have hiff := block_window hRa han htop hRx hxS
  by_cases hx : a ≤ x ∧ x < a + n
  · obtain ⟨j, rfl⟩ : ∃ j, x = a + j := ⟨x - a, by omega⟩
    have hmod : (a + j) % S = a % S + j := mod_add_of_lt (by omega)
    rw [if_pos hx, at_, patch_apply_of_mem (hiff.2 hx).1 (hiff.2 hx).2, hmod]
    congr 1
    omega
  · rw [if_neg hx, at_, patch_apply_of_notMem (fun h => hx (hiff.1 h)), at_]

/-! ### Cursors -/

/-- The address under a cursor. -/
lemma mod_two_mul_mod (P S : ℕ) : P % (2 * S) % S = P % S :=
  Nat.mod_mod_of_dvd P (Dvd.intro_left 2 rfl)

/-- The free space between two cursors at most one buffer apart: a reader's
cursor above the writer's is on the previous page. -/
theorem space_of_cursors {P W : ℕ} (hS : 0 < S) (hPW : P ≤ W) (hWS : W ≤ P + S) :
    (W % (2 * S) < P % (2 * S) →
        S ≤ P % (2 * S) - W % (2 * S) ∧ P % (2 * S) - S - W % (2 * S) = S - (W - P))
      ∧ (P % (2 * S) ≤ W % (2 * S) → P % (2 * S) + S - W % (2 * S) = S - (W - P)
          ∧ W % (2 * S) ≤ P % (2 * S) + S) := by
  obtain ⟨u, rfl⟩ : ∃ u, W = P + u := ⟨W - P, by omega⟩
  have hr : P % (2 * S) < 2 * S := Nat.mod_lt _ (by omega)
  by_cases hlt : P % (2 * S) + u < 2 * S
  · rw [mod_add_of_lt hlt]
    omega
  · rw [mod_add_of_ge (by omega) (by omega) (by omega)]
    omega

/-- A cursor moved by `k` bytes. -/
lemma cursor_add (P k S : ℕ) : (P % (2 * S) + k) % (2 * S) = (P + k) % (2 * S) :=
  Nat.mod_add_mod _ _ _

/-- The bytes from the cursor `a` up to the cursor `b`. -/
def gap (S a b : ℕ) : ℕ := (b + 2 * S - a) % (2 * S)

/-- Cursors less than two buffers apart say how far. -/
lemma gap_of_cursors {P W : ℕ} (hPW : P ≤ W) (hWP : W < P + 2 * S) :
    gap S (P % (2 * S)) (W % (2 * S)) = W - P := by
  obtain ⟨u, rfl⟩ : ∃ u, W = P + u := ⟨W - P, by omega⟩
  have hr : P % (2 * S) < 2 * S := Nat.mod_lt _ (by omega)
  rw [gap, Nat.add_sub_cancel_left]
  by_cases hlt : P % (2 * S) + u < 2 * S
  · rw [mod_add_of_lt hlt, show P % (2 * S) + u + 2 * S - P % (2 * S) = u + 2 * S by omega,
      Nat.add_mod_right, Nat.mod_eq_of_lt (by omega)]
  · rw [mod_add_of_ge (by omega) (by omega) (by omega),
      show P % (2 * S) + u - 2 * S + 2 * S - P % (2 * S) = u by omega, Nat.mod_eq_of_lt (by omega)]

/-- A cursor moved by the gap up to another is that one. -/
lemma add_gap {b : ℕ} (ha : a < 2 * S) (hb : b < 2 * S) : (a + gap S a b) % (2 * S) = b := by
  rw [gap, Nat.add_mod_mod, show a + (b + 2 * S - a) = b + 2 * S by omega, Nat.add_mod_right,
    Nat.mod_eq_of_lt hb]

/-- Positions that are multiples of a divisor of `S` have addresses that are. -/
lemma dvd_mod {d : ℕ} (hS : d ∣ S) (ha : d ∣ a) : d ∣ a % S :=
  (Nat.dvd_mod_iff hS).2 ha

/-- An aligned address leaves room for one alignment unit below the top. -/
lemma mod_add_le_of_dvd {d : ℕ} (hS : d ∣ S) (hpos : 0 < S) (ha : d ∣ a) : a % S + d ≤ S := by
  obtain ⟨k, hk⟩ := dvd_mod hS ha
  obtain ⟨l, hl⟩ := hS
  have hlt := Nat.mod_lt a hpos
  rw [hk, hl] at hlt ⊢
  have hd : 0 < d := by
    rcases Nat.eq_zero_or_pos d with rfl | h
    · simp at hl; omega
    · exact h
  have hkl : k + 1 ≤ l := Nat.lt_of_mul_lt_mul_left hlt
  calc d * k + d = d * (k + 1) := by ring
    _ ≤ d * l := Nat.mul_le_mul_left d hkl

end Circular
