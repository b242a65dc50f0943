import Mathlib.Data.List.TakeWhile
import Mathlib.Tactic

/-!
Numbers written in decimal.

* `strtol`, `atoi`: the number that a string begins with, as the C library reads it, a `long` having
  64 bits and an `int` 32;
* `strtol_digits`: what digits are read as;
* `atoi_toDigits`: every unsigned number of 32 bits can be written down, and is read as it is.
-/

namespace Decimal

/-- `isspace`. -/
def isSpace (c : Char) : Bool := c = ' ' || (9 ≤ c.toNat && c.toNat ≤ 13)

/-- The number that the digits are which a string begins with. -/
def magnitude (s : List Char) : ℤ := Nat.ofDigitChars 10 (s.takeWhile Char.isDigit) 0

/-- `strtol` to the base 10: a number that does not fit is the end of the range that it is
beyond. -/
def strtol (s : List Char) : ℤ :=
  match s.dropWhile isSpace with
  | '-' :: s => max (-2 ^ 63) (-magnitude s)
  | '+' :: s => min (2 ^ 63 - 1) (magnitude s)
  | s => min (2 ^ 63 - 1) (magnitude s)

/-- `atoi`: the `long` becomes an `int`. -/
def atoi (s : List Char) : Int32 := .ofInt (strtol s)

lemma isSpace_of_isDigit {c : Char} (h : c.isDigit = true) : isSpace c = false := by
  have hrange : 48 ≤ c.toNat ∧ c.toNat ≤ 57 := by
    simpa [Char.isDigit, UInt32.le_iff_toNat_le] using h
  have hblank : c ≠ ' ' := fun hc => by
    rw [hc] at hrange
    exact absurd hrange.1 (by simp)
  simp only [isSpace, decide_eq_false hblank, Bool.false_or, Bool.and_eq_false_imp,
    decide_eq_true_eq, decide_eq_false_iff_not]
  omega

/-- A string of digits is read to its end. -/
lemma strtol_digits {s : List Char} (h : ∀ c ∈ s, c.isDigit = true) :
    strtol s = min (2 ^ 63 - 1) (Nat.ofDigitChars 10 s 0 : ℤ) := by
  have hmagnitude : magnitude s = Nat.ofDigitChars 10 s 0 := by
    rw [magnitude, List.takeWhile_eq_self_iff.2 h]
  rw [strtol, ← hmagnitude]
  cases s with
  | nil => rfl
  | cons c s =>
      have hc := h c List.mem_cons_self
      rw [List.dropWhile_cons_of_neg (by rw [isSpace_of_isDigit hc]; decide)]
      split
      case h_1 heq =>
          obtain rfl := (List.cons.inj heq).1
          exact absurd hc (by simp)
      case h_2 heq =>
          obtain rfl := (List.cons.inj heq).1
          exact absurd hc (by simp)
      case h_3 => rfl

lemma strtol_toDigits {n : ℕ} (h : n < 2 ^ 63) : strtol (Nat.toDigits 10 n) = n := by
  rw [strtol_digits fun c hc => Nat.isDigit_of_mem_toDigits (by simp) (by simp) hc,
    Nat.ofDigitChars_ten_toDigits]
  omega

/-- Every `unsigned` can be written down. -/
theorem atoi_toDigits (v : UInt32) : (atoi (Nat.toDigits 10 v.toNat)).toUInt32 = v := by
  have hlt := v.toNat_lt
  rw [atoi, strtol_toDigits (by omega)]
  refine UInt32.toBitVec_inj.1 ?_
  show BitVec.ofInt 32 (v.toNat : ℤ) = v.toBitVec
  rw [BitVec.ofInt_natCast]
  exact (BitVec.ofNat_toNat 32 v.toBitVec).trans (BitVec.setWidth_eq _)

end Decimal
