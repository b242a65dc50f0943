import DpaProvider.Msg.Locks
import DpaProvider.Msg.Pair

/-!
The advertised message size.

`dpa_getinfo` advertises the size of a ring as the size of the largest message, but a message
also needs a header word.

* `dpaMaxMsgSize`, `ringSize`: the limit of `dpa_info.c`, and the ring that `connect_msg` sets up;
* `wired_run`: a connected endpoint stays connected to the same buffers;
* `max_sendable`: a message within the limit is accepted by every drained ring exactly if there
  is room for its header word too.
-/

namespace DpaProvider

open ByteMem

/-- `DPA_MAX_MSG_SIZE`: `ALIGNED_BUFFER_SIZE - offsetof(buffer_status, data)`. -/
def dpaMaxMsgSize (bufferSize : UInt64) : UInt64 := bufferWordAlign bufferSize - 8

/-- The size of the ring in a buffer, as `connect_msg` sets it: what the buffer has behind its
`buffer_status`. -/
def ringSize (bufferSize : UInt64) : UInt64 :=
  (⟨⟨0, 0, 0⟩, bufferWordAlign bufferSize⟩ : LocalBuffer).recvBufferSize

lemma ringSize_toNat {bufferSize : UInt64} (hsize : 16 ≤ bufferSize.toNat) :
    (ringSize bufferSize).toNat + 8 = (bufferWordAlign bufferSize).toNat := by
  have hword : (8 : UInt64).toNat = 8 := rfl
  have halign := toNat_bufferWordAlign bufferSize
  have hle : 8 ≤ bufferWordAlign bufferSize := by
    rw [UInt64.le_iff_toNat_le, halign, hword]
    omega
  rw [ringSize, LocalBuffer.recvBufferSize, UInt64.toNat_sub_of_le _ _ hle, halign, hword]
  omega

/-! ### Connected endpoints -/

namespace Host

variable {cap : BufferLoc → UInt64} {own peer : BufferLoc} {h g : Host} {e : MsgQueueEntry}

lemma Wired.attempt (hw : Wired cap own peer h) {dir : Direction} {r : FiErr × Host}
    (heq : h.attempt dir e = .ok r) : Wired cap own peer r.2 := by
  cases dir with
  | send =>
      simp only [Host.attempt, trySend, hw.status, hw.remoteBuffer] at heq
      split at heq <;> obtain rfl : _ = r := Except.ok.inj heq <;>
        exact ⟨hw.connected, hw.status, hw.remoteBuffer, hw.size, hw.buffer, hw.remoteStatus⟩
  | recv =>
      simp only [Host.attempt, tryRecv, hw.buffer, hw.remoteStatus] at heq
      split at heq <;> obtain rfl : _ = r := Except.ok.inj heq <;>
        exact ⟨hw.connected, hw.status, hw.remoteBuffer, hw.size, hw.buffer, hw.remoteStatus⟩

lemma Wired.act (hw : Wired cap own peer h) {a : Action} (heq : h.act a = .ok g) :
    Wired cap own peer g :=
  act_keeps (P := Wired cap own peer)
    (fun _ _ _ hw => ⟨hw.connected, hw.status, hw.remoteBuffer, hw.size, hw.buffer,
    hw.remoteStatus⟩)
    (fun _ _ _ _ hw hr => hw.attempt hr) hw heq

/-- A ring without messages, whose read cursor is published, has all its space. -/
lemma remoteSpace_drained (cursor size : UInt64) : remoteSpace cursor cursor size = size := by
  rw [remoteSpace, if_neg (UInt64.lt_irrefl cursor), UInt64.add_comm, UInt64.add_sub_cancel]

/-- Over a drained ring a call of `try_send` succeeds if there is room for the frame, and asks for
a retry else. -/
lemma trySend_drained (hw : Wired cap own peer h) (hread : (h.mem own).read = h.ep.sendInfo.write) :
    if cap peer < e.len + bufferWord then h.trySend e = .ok (.eagain, h.access .readStatus)
      else ∃ g, h.trySend e = .ok (.success, g) := by
  simp only [trySend, hw.status, hw.remoteBuffer, hw.size, hread, remoteSpace_drained]
  split
  · rfl
  · exact ⟨_, rfl⟩

end Host

namespace Pair

open Host

variable {cap : BufferLoc → UInt64} {loc : Bool → BufferLoc} {p q : Pair}

/-- Both endpoints are connected to the same buffers. -/
def AllWired (cap : BufferLoc → UInt64) (loc : Bool → BufferLoc) (p : Pair) : Prop :=
  ∀ side, Wired cap (loc side) (loc !side) (p.host side)

lemma AllWired.call (hw : AllWired cap loc p) {c : Bool × Call} (heq : p.call c = some q) :
    AllWired cap loc q := by
  rw [Pair.call, Option.map_eq_some_iff] at heq
  obtain ⟨g, hcall, rfl⟩ := heq
  rw [call_eq_act] at hcall
  obtain ⟨side, c⟩ := c
  have hfocus : Wired cap (loc side) (loc !side) (p.focus side) := (hw side).congr rfl
  have hg : Wired cap (loc side) (loc !side) g := by
    cases hact : (p.focus side).act c.action with
    | error err => rw [hact] at hcall; exact absurd hcall (by simp [Except.toOption])
    | ok g' =>
        rw [hact] at hcall
        obtain rfl := Option.some.inj hcall
        exact hfocus.act hact
  intro side'
  by_cases hside : side' = side
  · subst hside
    simpa only [Function.update_self] using hg
  · simpa only [Function.update_of_ne hside] using hw side'

lemma wired_run {calls : List (Bool × Call)} (hstart : Start cap loc p)
    (hrun : Stepper.run Pair.call p calls = some q) : AllWired cap loc q :=
  Stepper.run_invariant (fun _ _ _ hw heq => hw.call heq) hstart.wired hrun

/-- The ring that a side sends to is drained: the other side's read cursor has reached its write
cursor, and is published. -/
structure Drained (loc : Bool → BufferLoc) (p : Pair) (side : Bool) : Prop where
  received : (p.host !side).ep.recvInfo.read = (p.host side).ep.sendInfo.write
  published : (p.mem (loc side)).read = (p.host !side).ep.recvInfo.read

/-- Two endpoints just connected, over rings of a given size. -/
def fresh (size : UInt64) : Pair where
  host side := established size ⟨side.toNat.toUInt32, 0, 0⟩ ⟨(!side).toNat.toUInt32, 0, 0⟩
  mem _ := ⟨0, fun _ => 0⟩

lemma start_fresh (size : UInt64) :
    Start (fun _ => size) (fun side => ⟨side.toNat.toUInt32, 0, 0⟩) (fresh size) where
  wired _ := ⟨rfl, rfl, rfl, rfl, rfl, rfl⟩
  write _ := rfl
  read _ := rfl
  zeroed _ _ _ := rfl
  status _ := rfl
  completed _ := rfl

/-- For every buffer size of at least two words and every length up to the advertised maximum:
`try_send` accepts a message of this length in every reachable state of a connected pair whose
ring is drained exactly if the header word fits into the buffer besides. -/
theorem max_sendable {bufferSize len : UInt64} (hsize : 16 ≤ bufferSize.toNat)
    (hlen : len ≤ dpaMaxMsgSize bufferSize) :
    (∀ (loc : Bool → BufferLoc) (p q : Pair) (calls : List (Bool × Call)) (side : Bool)
        (e : MsgQueueEntry), Start (fun _ => ringSize bufferSize) loc p →
        Stepper.run Pair.call p calls = some q → Drained loc q side → e.len = len →
        ∃ g, (q.focus side).trySend e = .ok (.success, g))
      ↔ len.toNat + 16 ≤ (bufferWordAlign bufferSize).toNat := by
  have hring := ringSize_toNat hsize
  have hmax : len.toNat ≤ (ringSize bufferSize).toNat := UInt64.le_iff_toNat_le.1 hlen
  have halign := (bufferWordAlign bufferSize).toNat_lt
  have hneed : ringSize bufferSize < len + bufferWord
      ↔ ¬ len.toNat + 16 ≤ (bufferWordAlign bufferSize).toNat := by
    have hsum : (len + bufferWord).toNat = len.toNat + 8 := by
      rw [UInt64.toNat_add, show bufferWord.toNat = 8 from rfl]
      omega
    rw [UInt64.lt_iff_toNat_lt, hsum]
    omega
  constructor
  · intro h
    by_contra hlong
    obtain ⟨g, hg⟩ := h _ _ _ [] false ⟨fun _ => 0, len, 0, 0⟩ (start_fresh _) rfl ⟨rfl, rfl⟩ rfl
    have hretry := trySend_drained (e := ⟨fun _ => 0, len, 0, 0⟩) (((start_fresh
      (ringSize bufferSize)).wired false).congr (g := (fresh _).focus false) rfl) rfl
    rw [if_pos (hneed.2 hlong), hg] at hretry
    exact absurd hretry (by simp)
  · intro hle loc p q calls side e hstart hrun hdrained he
    have hwired : Wired (fun _ => ringSize bufferSize) (loc side) (loc !side) (q.focus side) :=
      (wired_run hstart hrun side).congr rfl
    have hsend := trySend_drained (e := e) hwired (hdrained.published.trans hdrained.received)
    rwa [he, if_neg fun hlt => hneed.1 hlt hle] at hsend

/-- Over buffers of three words a message of one word is sent and received. -/
def oneWord : List (Bool × Call) :=
  [(false, .dpaSend (fun _ => 1) 8 0), (true, .dpaRecv (fun _ => 0) 8 0)]

/-- It is the longest that such a buffer can take, and the next one finds room again. -/
theorem max_sendable_oneWord :
    ∃ q g, Stepper.run Pair.call (fresh 16) oneWord = some q
      ∧ (q.host false).ep.sendInfo.write = 16
      ∧ (q.focus false).trySend ⟨fun _ => 2, 8, 0, 0⟩ = .ok (.success, g) := by
  have hview : (Stepper.run Pair.call (fresh 16) oneWord).map (fun q =>
      ((q.host true).ep.recvInfo.read, (q.host false).ep.sendInfo.write, (q.mem ⟨0, 0, 0⟩).read))
      = some (16, 16, 16) := by decide +kernel
  obtain ⟨q, hrun, hq⟩ := Option.map_eq_some_iff.1 hview
  simp only [Prod.mk.injEq] at hq
  obtain ⟨hread, hwrite, hstatus⟩ := hq
  have hdrained : Drained (fun side => ⟨side.toNat.toUInt32, 0, 0⟩) q false :=
    ⟨hread.trans hwrite.symm, hstatus.trans hread.symm⟩
  obtain ⟨g, hsend⟩ := (@max_sendable 24 8 (by decide) (by decide)).2 (by decide) _ _ _ oneWord
    false ⟨fun _ => 2, 8, 0, 0⟩ (start_fresh 16) hrun hdrained rfl
  exact ⟨q, g, hrun, hwrite, hsend⟩

/-- A message of the advertised length, posted to a fresh connection with buffers of three words:
it stays at the head of the send queue, and the ring stays drained. -/
theorem max_blocked :
    dpaMaxMsgSize 24 = 16
      ∧ ∃ q, Stepper.run Pair.call (fresh (ringSize 24))
          [(false, .dpaSend (fun _ => 1) 16 0), (false, .processSendQueue false)] = some q
        ∧ ((q.host false).queue .send).contents.map MsgQueueEntry.len = [16]
        ∧ Drained (fun side => ⟨side.toNat.toUInt32, 0, 0⟩) q false
        ∧ (q.focus false).trySend ⟨fun _ => 1, 16, 0, 0⟩
          = .ok (.eagain, (q.focus false).access .readStatus) := by
  have hview : (Stepper.run Pair.call (fresh (ringSize 24))
      [(false, .dpaSend (fun _ => 1) 16 0), (false, .processSendQueue false)]).map (fun q =>
        (((q.host false).queue .send).contents.map MsgQueueEntry.len,
          (q.host true).ep.recvInfo.read, (q.host false).ep.sendInfo.write, (q.mem ⟨0, 0, 0⟩).read))
      = some ([16], 0, 0, 0) := by decide +kernel
  obtain ⟨q, hrun, hq⟩ := Option.map_eq_some_iff.1 hview
  simp only [Prod.mk.injEq] at hq
  obtain ⟨hqueue, hread, hwrite, hstatus⟩ := hq
  have hdrained : Drained (fun side => ⟨side.toNat.toUInt32, 0, 0⟩) q false :=
    ⟨hread.trans hwrite.symm, hstatus.trans hread.symm⟩
  have hwired : Wired (fun _ => ringSize 24) ⟨0, 0, 0⟩ ⟨1, 0, 0⟩ (q.focus false) :=
    (wired_run (start_fresh _) hrun false).congr rfl
  refine ⟨rfl, q, hrun, hqueue, hdrained, ?_⟩
  have hretry := trySend_drained (e := ⟨fun _ => 1, 16, 0, 0⟩) hwired (hstatus.trans hwrite.symm)
  rwa [if_pos (by decide)] at hretry

end Pair

end DpaProvider
