import DpaProvider.Library.Stepper
import DpaProvider.Msg.Ring

/-!
The algebra of the two cursors of a ring.

The cursors live modulo twice the ring size, and the bytes between them are at most the ring size.
A writer tests the length of a message as it is, and moves its cursor by the length rounded up; and
it goes by a cursor of the reader that is out of date.

* `CursorAlgebra`: what the cursors should do, after one call and along every run of a writer and
  a reader;
* `Placed`: the cursors at absolute positions, which every run keeps;
* `cursorAlgebra_iff`: they do it exactly if three rings fit in a `size_t`.
-/

namespace DpaProvider

open Circular

/-- The bytes between the cursors: `(write - read) mod 2 S`. -/
def used (S read write : UInt64) : ℕ := gap S.toNat read.toNat write.toNat

/-- Two cursors of a ring: whole words below twice its size, and at most the ring size apart. -/
structure Cursors (S read write : UInt64) : Prop where
  read_dvd : 8 ∣ read.toNat
  write_dvd : 8 ∣ write.toNat
  read_lt : read.toNat < 2 * S.toNat
  write_lt : write.toNat < 2 * S.toNat
  used_le : used S read write ≤ S.toNat

/-! ### A writer and a reader -/

/-- The cursors of a writer and a reader: `published` is the cursor of the reader that the writer
sees, and `onTheWay` are those published after it, the oldest first.  `frames` are the lengths of
the messages that are written and not read. -/
structure CursorPair where
  write : UInt64
  read : UInt64
  published : UInt64
  onTheWay : List UInt64
  frames : List UInt64
  deriving DecidableEq

/-- A write that finds room, a read of a whole frame, and the arrival of a published cursor. -/
inductive CursorMove where
  | write (len : UInt64)
  | read
  | arrive
  deriving DecidableEq

namespace CursorPair

variable {S : UInt64} {p p' : CursorPair} {a : CursorMove}

/-- One move; the space that a write looks at is that of the published cursor. -/
def step (S : UInt64) (p : CursorPair) : CursorMove → Option CursorPair
  | .write len =>
      if len.toNat + 8 ≤ (remoteSpace p.published p.write S).toNat then
        some { p with write := newOffset p.write len S, frames := p.frames ++ [len] }
      else none
  | .read =>
      match p.frames with
      | [] => none
      | len :: frames =>
          let read := newOffset p.read len S
          some { p with read, frames, onTheWay := p.onTheWay ++ [read] }
  | .arrive =>
      match p.onTheWay with
      | [] => none
      | published :: onTheWay => some { p with published, onTheWay }

/-- Before the first move the writer sees the cursor of the reader, and the bytes between the
cursors are those of whole frames. -/
structure Start (S : UInt64) (p : CursorPair) : Prop where
  cursors : Cursors S p.read p.write
  published : p.published = p.read
  onTheWay : p.onTheWay = []
  frames : (p.frames.map fun len => frameLen len.toNat).sum = used S p.read p.write

end CursorPair

/-- What the cursors of a ring should do. -/
structure CursorAlgebra (S : UInt64) : Prop where
  space : ∀ read write, Cursors S read write →
    (remoteSpace read write S).toNat = S.toNat - used S read write
  moves : ∀ read write len, Cursors S read write →
    len.toNat + 8 ≤ (remoteSpace read write S).toNat →
    Cursors S read (newOffset write len S)
      ∧ used S read (newOffset write len S) = used S read write + 8 + (len.toNat + 7) / 8 * 8
  lags : ∀ p p' moves, CursorPair.Start S p →
    Stepper.run (CursorPair.step S) p moves = some p' →
    (remoteSpace p'.published p'.write S).toNat ≤ (remoteSpace p'.read p'.write S).toNat

/-! ### Absolute positions -/

section Positions

variable {S : UInt64} {P W : ℕ} {read write : UInt64}

lemma used_of_positions (hread : read.toNat = P % (2 * S.toNat))
    (hwrite : write.toNat = W % (2 * S.toNat)) (hPW : P ≤ W) (hWP : W < P + 2 * S.toNat) :
    used S read write = W - P := by
  rw [used, hread, hwrite, gap_of_cursors hPW hWP]

/-- Cursors have absolute positions. -/
lemma Cursors.positions (h : Cursors S read write) (haligned : 8 ∣ S.toNat) :
    read.toNat = read.toNat % (2 * S.toNat)
      ∧ write.toNat = (read.toNat + used S read write) % (2 * S.toNat)
      ∧ 8 ∣ read.toNat + used S read write := by
  have hwrite := add_gap h.read_lt h.write_lt
  refine ⟨(Nat.mod_eq_of_lt h.read_lt).symm, hwrite.symm, ?_⟩
  have hread := h.read_dvd
  have hdvd := h.write_dvd
  have hread_lt := h.read_lt
  have hwrite_lt := h.write_lt
  rw [used, gap]
  rcases Nat.lt_or_ge write.toNat read.toNat with hlt | hge
  · rw [Nat.mod_eq_of_lt (by omega)]
    omega
  · rw [show write.toNat + 2 * S.toNat - read.toNat
        = write.toNat - read.toNat + 2 * S.toNat by omega,
      Nat.add_mod_right, Nat.mod_eq_of_lt (by omega)]
    omega

/-- What lies at absolute positions at most a ring apart are cursors. -/
lemma cursors_of_positions (hS : WordRing S) (hread : read.toNat = P % (2 * S.toNat))
    (hwrite : write.toNat = W % (2 * S.toNat)) (hP : 8 ∣ P) (hW : 8 ∣ W) (hPW : P ≤ W)
    (hWS : W ≤ P + S.toNat) : Cursors S read write where
  read_dvd := hread ▸ dvd_mod (Dvd.dvd.mul_left hS.aligned 2) hP
  write_dvd := hwrite ▸ dvd_mod (Dvd.dvd.mul_left hS.aligned 2) hW
  read_lt := by
    rw [hread]
    exact Nat.mod_lt _ (by have := hS.pos; omega)
  write_lt := by
    rw [hwrite]
    exact Nat.mod_lt _ (by have := hS.pos; omega)
  used_le := by
    have hpos := hS.pos
    rw [used_of_positions hread hwrite hPW (by omega)]
    omega

/-- A message for which there is room has a frame for which there is, since the room is a number of
whole words. -/
lemma frame_fits (hS : WordRing S) (hP : 8 ∣ P) (hW : 8 ∣ W) (hPW : P ≤ W) {n : ℕ}
    (hn : n + 8 ≤ S.toNat - (W - P)) : W + frameLen n ≤ P + S.toNat := by
  have haligned := hS.aligned
  have hle := frameLen_le_of_dvd (show 8 ∣ S.toNat - (W - P) by omega) hn
  omega

end Positions

/-- Cursors at absolute positions: the writer sees the cursor of the reader at `P`, those on the way
are at the positions `Q`, and the reader's own is at `R`. -/
structure Placed (S : UInt64) (P : ℕ) (Q : List ℕ) (R W : ℕ) (p : CursorPair) : Prop where
  published : p.published.toNat = P % (2 * S.toNat)
  onTheWay : p.onTheWay.map UInt64.toNat = Q.map (· % (2 * S.toNat))
  read : p.read.toNat = R % (2 * S.toNat)
  write : p.write.toNat = W % (2 * S.toNat)
  sorted : (P :: Q).Pairwise (· ≤ ·)
  behind : ∀ q ∈ P :: Q, 8 ∣ q ∧ q ≤ R
  read_dvd : 8 ∣ R
  frames : R + (p.frames.map fun len => frameLen len.toNat).sum = W
  room : W ≤ P + S.toNat

namespace Placed

variable {S : UInt64} {P R W : ℕ} {Q : List ℕ} {p p' : CursorPair}

lemma published_le (h : Placed S P Q R W p) : 8 ∣ P ∧ P ≤ R := h.behind P List.mem_cons_self

lemma read_le (h : Placed S P Q R W p) : R ≤ W := by
  have := h.frames
  omega

lemma write_dvd (h : Placed S P Q R W p) : 8 ∣ W := by
  rw [← h.frames]
  refine dvd_add h.read_dvd (List.dvd_sum fun n hn => ?_)
  obtain ⟨len, -, rfl⟩ := List.mem_map.1 hn
  exact dvd_frameLen _

/-- The first frame. -/
lemma frame_le (h : Placed S P Q R W p) {len : UInt64} {frames : List UInt64}
    (hframes : p.frames = len :: frames) :
    R + frameLen len.toNat + (frames.map fun len => frameLen len.toNat).sum = W := by
  have hsum := h.frames
  rw [hframes, List.map_cons, List.sum_cons] at hsum
  omega

/-- The space that the writer computes, and the space that there is. -/
lemma spaces (hS : WordRing S) (h : Placed S P Q R W p) :
    (remoteSpace p.published p.write S).toNat = S.toNat - (W - P)
      ∧ (remoteSpace p.read p.write S).toNat = S.toNat - (W - R) := by
  obtain ⟨-, hPR⟩ := h.published_le
  have hRW := h.read_le
  have hroom := h.room
  exact ⟨remoteSpace_toNat hS h.published h.write (by omega) (by omega),
    remoteSpace_toNat hS h.read h.write hRW (by omega)⟩

/-- Every move keeps the cursors at absolute positions. -/
lemma step (hS : WordRing S) (h : Placed S P Q R W p) {a : CursorMove}
    (hstep : CursorPair.step S p a = some p') : ∃ P' Q' R' W', Placed S P' Q' R' W' p' := by
  obtain ⟨hP, hPR⟩ := h.published_le
  have hRW := h.read_le
  have hroom := h.room
  cases a with
  | write len =>
      rw [CursorPair.step] at hstep
      split at hstep
      case isFalse => cases hstep
      case isTrue hfits =>
          obtain rfl := Option.some.inj hstep
          rw [(h.spaces hS).1] at hfits
          refine ⟨P, Q, R, W + frameLen len.toNat, { h with
            write := newOffset_toNat hS h.write_dvd h.write (by omega)
            frames := ?_
            room := frame_fits hS hP h.write_dvd (by omega) hfits }⟩
          rw [List.map_append, List.sum_append, List.map_singleton, List.sum_singleton, ← h.frames]
          omega
  | read =>
      rw [CursorPair.step] at hstep
      split at hstep
      case h_1 => cases hstep
      case h_2 len frames hframes =>
          obtain rfl := Option.some.inj hstep
          have hsum := h.frame_le hframes
          have hlen := le_frameLen len.toNat
          have hread : (newOffset p.read len S).toNat = (R + frameLen len.toNat) % (2 * S.toNat) :=
            newOffset_toNat hS h.read_dvd h.read (by omega)
          refine ⟨P, Q ++ [R + frameLen len.toNat], R + frameLen len.toNat, W, { h with
            onTheWay := ?_
            read := hread
            sorted := ?_
            behind := ?_
            read_dvd := dvd_add h.read_dvd (dvd_frameLen _)
            frames := hsum }⟩
          · rw [List.map_append, List.map_append, h.onTheWay, List.map_singleton,
              List.map_singleton, hread]
          · refine List.pairwise_append.2 ⟨h.sorted, List.pairwise_singleton _ _, ?_⟩
            intro q hq r hr
            obtain rfl := List.mem_singleton.1 hr
            exact (h.behind q hq).2.trans (Nat.le_add_right _ _)
          · intro q hq
            rcases List.mem_append.1 (show q ∈ (P :: Q) ++ [R + frameLen len.toNat] from hq)
              with hq | hq
            · exact ⟨(h.behind q hq).1, (h.behind q hq).2.trans (Nat.le_add_right _ _)⟩
            · obtain rfl := List.mem_singleton.1 hq
              exact ⟨dvd_add h.read_dvd (dvd_frameLen _), le_rfl⟩
  | arrive =>
      rw [CursorPair.step] at hstep
      split at hstep
      case h_1 => cases hstep
      case h_2 published onTheWay hway =>
          obtain rfl := Option.some.inj hstep
          have hmap := h.onTheWay
          rw [hway, List.map_cons] at hmap
          cases Q with
          | nil => cases hmap
          | cons q Q =>
              obtain ⟨hq, hQ⟩ := List.cons.inj hmap
              have hPq : P ≤ q := List.rel_of_pairwise_cons h.sorted List.mem_cons_self
              exact ⟨q, Q, R, W, { h with
                published := hq
                onTheWay := hQ
                sorted := h.sorted.of_cons
                behind := fun r hr => h.behind r (List.mem_cons_of_mem P hr)
                room := by omega }⟩

end Placed

/-- Before the first move the cursors have absolute positions. -/
lemma CursorPair.Start.placed {S : UInt64} {p : CursorPair} (h : CursorPair.Start S p)
    (haligned : 8 ∣ S.toNat) :
    Placed S p.read.toNat [] p.read.toNat (p.read.toNat + used S p.read p.write) p := by
  obtain ⟨hread, hwrite, -⟩ := h.cursors.positions haligned
  exact
    { published := by rwa [h.published]
      onTheWay := by rw [h.onTheWay, List.map_nil, List.map_nil]
      read := hread
      write := hwrite
      sorted := List.pairwise_singleton _ _
      behind := fun q hq => by
        obtain rfl := List.mem_singleton.1 hq
        exact ⟨h.cursors.read_dvd, le_rfl⟩
      read_dvd := h.cursors.read_dvd
      frames := by rw [h.frames]
      room := Nat.add_le_add_left h.cursors.used_le _ }

/-! ### The algebra -/

/-- If three rings fit in a `size_t`, nothing wraps around. -/
lemma cursorAlgebra_of_fits {S : UInt64} (hS : WordRing S) : CursorAlgebra S where
  space := by
    intro read write h
    obtain ⟨hread, hwrite, -⟩ := h.positions hS.aligned
    have hused := h.used_le
    rw [remoteSpace_toNat hS hread hwrite (by omega) (by omega), Nat.add_sub_cancel_left]
  moves := by
    intro read write len h hlen
    obtain ⟨hread, hwrite, hdvd⟩ := h.positions hS.aligned
    have hused := h.used_le
    have hpos := hS.pos
    rw [remoteSpace_toNat hS hread hwrite (by omega) (by omega)] at hlen
    have hspace : len.toNat + 8 ≤ S.toNat := by omega
    have hmoved := newOffset_toNat hS hdvd hwrite hspace
    have hfits := frame_fits hS h.read_dvd hdvd (by omega) hlen
    refine ⟨cursors_of_positions hS hread hmoved h.read_dvd (dvd_add hdvd (dvd_frameLen _))
      (by omega) hfits, ?_⟩
    rw [used_of_positions hread hmoved (by omega) (by omega), frameLen]
    omega
  lags := by
    intro p p' moves hstart hrun
    have hplaced : ∃ P Q R W, Placed S P Q R W p' := by
      refine Stepper.run_invariant (I := fun p => ∃ P Q R W, Placed S P Q R W p)
        (fun q m q' hplaced hstep => ?_) ⟨_, _, _, _, hstart.placed hS.aligned⟩ hrun
      obtain ⟨P, Q, R, W, h⟩ := hplaced
      exact h.step hS hstep
    obtain ⟨P, Q, R, W, h⟩ := hplaced
    obtain ⟨-, hPR⟩ := h.published_le
    rw [(h.spaces hS).1, (h.spaces hS).2]
    omega

/-- Else the writer's cursor is wrong after the largest message for an empty ring, from the last
word that a cursor can be at. -/
lemma not_cursorAlgebra {S : UInt64} (haligned : 8 ∣ S.toNat) (hcursors : 2 * S.toNat < 2 ^ 64)
    (hwraps : 2 ^ 64 < 3 * S.toNat) : ¬ CursorAlgebra S := by
  intro h
  have hdouble : (2 * S).toNat = 2 * S.toNat := by
    simp only [UInt64.toNat_mul, UInt64.toNat_ofNat, Nat.reducePow, Nat.reduceMod]
    omega
  have hlast : (2 * S - 8).toNat = 2 * S.toNat - 8 := by
    simp only [UInt64.toNat_sub, hdouble, UInt64.toNat_ofNat, Nat.reducePow, Nat.reduceMod]
    omega
  have hlen : (S - 8).toNat = S.toNat - 8 := by
    simp only [UInt64.toNat_sub, UInt64.toNat_ofNat, Nat.reducePow, Nat.reduceMod]
    omega
  have hempty : used S (2 * S - 8) (2 * S - 8) = 0 := by
    rw [used, gap, Nat.add_sub_cancel_left, Nat.mod_self]
  have hstart : Cursors S (2 * S - 8) (2 * S - 8) :=
    ⟨by omega, by omega, by omega, by omega, by omega⟩
  have hspace := h.space _ _ hstart
  obtain ⟨-, hused⟩ := h.moves _ _ (S - 8) hstart (by omega)
  have hmoved : (newOffset (2 * S - 8) (S - 8) S).toNat = 3 * S.toNat - 8 - 2 ^ 64 := by
    have hsum : (2 * S - 8 + (S - 8) + bufferWord + (bufferWord - 1)).toNat
        = 3 * S.toNat - 1 - 2 ^ 64 := by
      have hword : bufferWord.toNat = 8 := rfl
      have hround : (bufferWord - 1).toNat = 7 := rfl
      rw [UInt64.toNat_add, UInt64.toNat_add, UInt64.toNat_add, hlast, hlen, hword, hround]
      omega
    rw [newOffset, UInt64.toNat_mod, hdouble, toNat_bufferWordAlign, hsum,
      show (3 * S.toNat - 1 - 2 ^ 64) / 8 * 8 = 3 * S.toNat - 8 - 2 ^ 64 by omega,
      Nat.mod_eq_of_lt (by omega)]
  rw [hempty, used, gap, hmoved, hlast, hlen, Nat.mod_eq_of_lt (by omega)] at hused
  omega

/-- The cursors of a ring of whole words, for which they fit in a `size_t`, do what they should
exactly if three rings do. -/
theorem cursorAlgebra_iff {S : UInt64} (haligned : 8 ∣ S.toNat) (hpos : 0 < S.toNat)
    (hcursors : 2 * S.toNat < 2 ^ 64) : CursorAlgebra S ↔ 3 * S.toNat ≤ 2 ^ 64 := by
  constructor
  · intro h
    by_contra hwraps
    exact not_cursorAlgebra haligned hcursors (Nat.lt_of_not_le hwraps) h
  · exact fun hfits => cursorAlgebra_of_fits ⟨haligned, hpos, hfits⟩

/-- The ring of a buffer of 64 kB. -/
theorem cursorAlgebra_iff_default : CursorAlgebra 65528 := by
  have hval : (65528 : UInt64).toNat = 65528 := rfl
  exact (cursorAlgebra_iff (by rw [hval]; decide) (by rw [hval]; decide)
    (by rw [hval]; decide)).2 (by rw [hval]; decide)

/-- A ring of almost `2 ^ 63` bytes. -/
theorem cursors_wrap : ¬ CursorAlgebra 9223372036854775800 := by
  have hval : (9223372036854775800 : UInt64).toNat = 9223372036854775800 := rfl
  refine not_cursorAlgebra ?_ ?_ ?_ <;> rw [hval] <;> decide

end DpaProvider
