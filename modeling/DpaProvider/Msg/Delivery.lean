import DpaProvider.Msg.Calls
import DpaProvider.Msg.ChannelInv

/-!
What a run of the two sides delivers.

* `Inv.stores_free`: the sender's next store leaves the frames that the receiver
  has not released alone;
* `Inv.nothing_to_receive`: a zero word at the receiver's cursor means that all
  messages sent have been received;
* `delivery`: as long as no receive was too small, the receives have delivered the
  messages accepted, in order and byte by byte.
-/

namespace DpaProvider

open ByteMem Circular

namespace Channel

variable {S : UInt64} {s s' t : Channel}

/-! ### What the steps leave alone -/

lemma beginSend_frame (S : UInt64) (s : Channel) (msg : MsgQueueEntry) :
    (s.beginSend S msg).sent = s.sent ∧ (s.beginSend S msg).taken = s.taken
      ∧ (s.beginSend S msg).completed = s.completed ∧ (s.beginSend S msg).recvPc = s.recvPc := by
  rw [beginSend]
  split <;> exact ⟨rfl, rfl, rfl, rfl⟩

lemma sendStep_frame (h : s.sendStep S = some s') :
    s.sent <+: s'.sent ∧ s'.taken = s.taken ∧ s'.completed = s.completed
      ∧ s'.recvPc = s.recvPc := by
  cases hpc : s.sendPc with
  | idle => simp [sendStep, hpc] at h
  | storeFirst msg | storeSecond msg | advance msg =>
      obtain rfl : _ = s' := by simpa only [sendStep, hpc, Option.some.injEq] using h
      exact ⟨List.prefix_rfl, rfl, rfl, rfl⟩
  | storeSize msg data =>
      obtain rfl : _ = s' := by simpa only [sendStep, hpc, Option.some.injEq] using h
      exact ⟨List.prefix_append _ _, rfl, rfl, rfl⟩

lemma beginRecv_frame (S : UInt64) (s : Channel) (entry : MsgQueueEntry) :
    (s.beginRecv S entry).sent = s.sent ∧ (s.beginRecv S entry).taken = s.taken
      ∧ (s.beginRecv S entry).completed = s.completed := by
  rw [beginRecv]
  split <;> exact ⟨rfl, rfl, rfl⟩

lemma recvStep_completed (h : s.recvStep S = some s') :
    s.completed <+: s'.completed := by
  cases hpc : s.recvPc with
  | idle => simp [recvStep, hpc] at h
  | complete c =>
      obtain rfl : _ = s' := by simpa only [recvStep, hpc, Option.some.injEq] using h
      exact List.prefix_append _ _
  | _ =>
      obtain rfl : _ = s' := by simpa only [recvStep, hpc, Option.some.injEq] using h
      exact List.prefix_rfl

/-- Completions are only ever added. -/
lemma step_completed {a : Act} (h : step S s a = some s') : s.completed <+: s'.completed := by
  cases a with
  | trySend msg =>
      cases hpc : s.sendPc with
      | idle =>
          obtain rfl : _ = s' := by simpa only [step, hpc, Option.some.injEq] using h
          rw [(beginSend_frame S s msg).2.2.1]
      | _ => simp [step, hpc] at h
  | sendStep => rw [(sendStep_frame h).2.2.1]
  | tryRecv entry =>
      cases hpc : s.recvPc with
      | idle =>
          obtain rfl : _ = s' := by simpa only [step, hpc, Option.some.injEq] using h
          rw [(beginRecv_frame S s entry).2.2]
      | _ => simp [step, hpc] at h
  | recvStep => exact recvStep_completed h

/-- A message is accepted when its call begins. -/
lemma step_accepted {a : Act} (h : step S s a = some s') :
    s'.accepted = s.accepted
      ∨ ∃ msg, a = .trySend msg ∧ s'.accepted = s.accepted ++ [msg.bytes] := by
  cases a with
  | trySend msg =>
      cases hpc : s.sendPc with
      | idle =>
          obtain rfl : _ = s' := by simpa only [step, hpc, Option.some.injEq] using h
          rw [beginSend]
          split
          · exact .inr ⟨msg, rfl, rfl⟩
          · exact .inl rfl
      | _ => simp [step, hpc] at h
  | sendStep =>
      cases hpc : s.sendPc with
      | idle => simp [step, sendStep, hpc] at h
      | _ =>
          obtain rfl : _ = s' := by simpa only [step, sendStep, hpc, Option.some.injEq] using h
          exact .inl rfl
  | tryRecv entry =>
      cases hpc : s.recvPc with
      | idle =>
          obtain rfl : _ = s' := by simpa only [step, hpc, Option.some.injEq] using h
          rw [beginRecv]
          split <;> exact .inl rfl
      | _ => simp [step, hpc] at h
  | recvStep =>
      cases hpc : s.recvPc with
      | idle => simp [step, recvStep, hpc] at h
      | _ =>
          obtain rfl : _ = s' := by simpa only [step, recvStep, hpc, Option.some.injEq] using h
          exact .inl rfl

/-! ### Runs without a receive that is too small -/

/-- No completion reports a buffer that was too small. -/
def NoneTooSmall (s : Channel) : Prop := ∀ c ∈ s.completed, c.err ≠ .etoosmall

/-- Between receives every message taken has been reported, so one that was cut
off shows. -/
lemma Inv.harmless_of_noneTooSmall (h : Inv S s) (hpc : s.recvPc = .idle)
    (hsmall : NoneTooSmall s) : Harmless s.sent s.taken := by
  intro k m n hm hn b hb
  have hlen := h.completed
  obtain ⟨hk, -⟩ := List.getElem?_eq_some_iff.1 hn
  simp only [hpc, RecvPc.unreported, Nat.add_zero] at hlen
  obtain ⟨m', n', hm', hn', hrep⟩ := h.reports k _ (List.getElem?_eq_getElem (by omega))
  obtain rfl : m = m' := by simpa [hm] using hm'
  obtain rfl : n = n' := by simpa [hn] using hn'
  rcases hrep.err with ⟨-, rfl⟩ | ⟨herr, -⟩
  · rw [List.drop_length] at hb
    exact absurd hb List.not_mem_nil
  · exact absurd herr (hsmall _ (List.getElem_mem _))

/-- The invariant holds in every run over messages that a frame can carry, as
long as no receive was too small. -/
lemma inv_of_noneTooSmall (hS : RingSize S) {ring : ByteMem} (hring : ∀ a < S.toNat, ring a = 0)
    {acts : List Act} (hmsgs : ∀ msg, Act.trySend msg ∈ acts → msg.Sendable)
    (hrun : Stepper.run (step S) (init ring) acts = some s) : NoneTooSmall s → Inv S s := by
  -- an etoosmall stays in the history, so the hypothesis may be asked of the end
  let C : Act → Prop := fun a => ∀ msg, a = .trySend msg → msg.Sendable
  refine Stepper.run_induction (C := fun _ a => C a) (I := fun s => NoneTooSmall s → Inv S s)
    ?_ (fun _ => inv_init hS hring)
    (Stepper.meets_of_forall fun a ha msg hmsg => hmsgs msg (hmsg ▸ ha)) hrun
  intro s a s' hI hC hstep hsmall
  have hsmall' : NoneTooSmall s := fun c hc => hsmall c ((step_completed hstep).subset hc)
  have hinv := hI hsmall'
  refine hinv.step hS ?_ hstep
  cases a with
  | trySend msg => exact (hC msg rfl).2
  | tryRecv entry =>
      cases hpc : s.recvPc with
      | idle => exact hinv.harmless_of_noneTooSmall hpc hsmall'
      | _ => simp [step, hpc] at hstep
  | _ => trivial

/-- No message accepted is empty. -/
def NonEmpty (s : Channel) : Prop := ∀ m ∈ s.accepted, 0 < m.length

lemma nonEmpty_step {a : Act} (h : NonEmpty s) (hmsg : ∀ msg, a = .trySend msg → 0 < msg.len.toNat)
    (hstep : step S s a = some s') : NonEmpty s' := by
  intro m hm
  rcases step_accepted hstep with heq | ⟨msg, rfl, heq⟩
  · exact h m (heq ▸ hm)
  · rw [heq] at hm
    rcases List.mem_append.1 hm with hm | hm
    · exact h m hm
    · rw [List.mem_singleton.1 hm, MsgQueueEntry.bytes_length]
      exact hmsg msg rfl

lemma nonEmpty_run {ring : ByteMem} {acts : List Act}
    (hmsgs : ∀ msg, Act.trySend msg ∈ acts → 0 < msg.len.toNat)
    (hrun : Stepper.run (step S) (init ring) acts = some s) : NonEmpty s := by
  let C : Act → Prop := fun a => ∀ msg, a = .trySend msg → 0 < msg.len.toNat
  have hall : ∀ a ∈ acts, C a := by
    rintro a ha msg rfl
    exact hmsgs msg ha
  exact Stepper.run_induction (C := fun _ a => C a) (I := NonEmpty)
    (fun _ _ _ h hmsg hstep => nonEmpty_step h hmsg hstep) (fun _ hm => absurd hm List.not_mem_nil)
    (Stepper.meets_of_forall hall) hrun

lemma Inv.sent_pos (h : Inv S s) (hfull : NonEmpty s) : ∀ m ∈ s.sent, 0 < m.length := by
  intro m hm
  exact hfull m (h.accepted ▸ List.mem_append_left _ hm)

/-! ### The sender's stores -/

/-- The header of a frame at the position `W` lies below the top. -/
lemma header_position {W a : ℕ} (len : ℕ) (htop : W % S.toNat + 8 ≤ S.toNat)
    (hge : W % S.toNat ≤ a) (hlt : a < W % S.toNat + 8) :
    ∃ x, W ≤ x ∧ x < W + frameLen len ∧ a = x % S.toNat := by
  have hlen := le_frameLen len
  obtain ⟨i, rfl⟩ : ∃ i, a = W % S.toNat + i := ⟨a - W % S.toNat, by omega⟩
  exact ⟨W + i, by omega, by omega, (mod_add_of_lt (by omega)).symm⟩

/-- So does the part of its payload that is stored first. -/
lemma first_position {W a len : ℕ} (hge : W % S.toNat + 8 ≤ a)
    (hlt : a < W % S.toNat + 8 + min len (S.toNat - (W % S.toNat + 8))) :
    ∃ x, W ≤ x ∧ x < W + frameLen len ∧ a = x % S.toNat := by
  have hlen := le_frameLen len
  obtain ⟨i, rfl⟩ : ∃ i, a = W % S.toNat + (8 + i) := ⟨a - (W % S.toNat + 8), by omega⟩
  exact ⟨W + (8 + i), by omega, by omega, (mod_add_of_lt (by omega)).symm⟩

/-- The rest starts where the first part met the top. -/
lemma second_position (hS : RingSize S) {W a len : ℕ} (htop : W % S.toNat + 8 ≤ S.toNat)
    (hfits : frameLen len ≤ S.toNat) (hlt : a < len - (S.toNat - (W % S.toNat + 8))) :
    ∃ x, W ≤ x ∧ x < W + frameLen len ∧ a = x % S.toNat := by
  have hlen := le_frameLen len
  refine ⟨W + (S.toNat - W % S.toNat + a), by omega, by omega, ?_⟩
  rw [mod_add_of_ge hS.pos (by omega) (by omega)]
  omega

/-- Every store of the sender is at a position behind the frames sent and within
the space that the published cursor leaves. -/
lemma Inv.stores_position (hS : RingSize S) (h : Inv S s) {a : ℕ} (ha : Stores S s a) :
    ∃ x, framePos s.sent s.sent.length ≤ x
      ∧ x < framePos s.sent s.published + S.toNat ∧ a = x % S.toNat := by
  have htop := header_room hS s.sent s.sent.length
  have hroom := h.room
  cases hpc : s.sendPc with
  | idle | advance msg => simp [Stores, hpc] at ha
  | storeFirst msg =>
      obtain ⟨hpay, hbuf⟩ := payload_toNat hS.wordRing (h.data_toNat (by rw [hpc]; rfl)) htop
      simp only [Stores, hpc, hpay, UInt64.toNat_min, hbuf] at ha
      simp only [hpc, SendPc.need] at hroom
      obtain ⟨x, hWx, hxW, rfl⟩ := first_position ha.1 ha.2
      exact ⟨x, hWx, by omega, rfl⟩
  | storeSecond msg =>
      obtain ⟨-, hbuf⟩ := payload_toNat hS.wordRing (h.data_toNat (by rw [hpc]; rfl)) htop
      simp only [Stores, hpc] at ha
      simp only [hpc, SendPc.need] at hroom
      obtain ⟨hlt, ha⟩ := ha
      rw [UInt64.toNat_sub_of_le _ _ (UInt64.le_of_lt hlt), hbuf] at ha
      obtain ⟨hPR, hRW⟩ := h.positions
      obtain ⟨x, hWx, hxW, rfl⟩ := second_position hS htop (by omega) ha
      exact ⟨x, hWx, by omega, rfl⟩
  | storeSize msg data =>
      simp only [Stores, hpc, h.header_ptr msg data hpc] at ha
      simp only [hpc, SendPc.need] at hroom
      obtain ⟨x, hWx, hxW, rfl⟩ := header_position msg.len.toNat htop ha.1 ha.2
      exact ⟨x, hWx, by omega, rfl⟩

/-- The frames not yet released lie between the published position and the end. -/
lemma Inv.unreleased_position (h : Inv S s) {a : ℕ} (ha : Unreleased S s a) :
    ∃ x, framePos s.sent s.published ≤ x ∧ x < framePos s.sent s.sent.length
      ∧ a = x % S.toNat := by
  obtain ⟨i, hi, rfl⟩ := ha
  have hsum : framePos s.sent s.published
      + ((s.sent.drop s.published).map fun m => frameLen m.length).sum
      = framePos s.sent s.sent.length := by
    rw [framePos, framePos, List.take_length, ← List.sum_append, ← List.map_append,
      List.take_append_drop]
  refine ⟨framePos s.sent s.published + i, by omega, by omega, ?_⟩
  rw [h.remoteRead, Nat.add_mod, mod_two_mul_mod, ← Nat.add_mod]

/-- The sender never stores into a frame that the receiver has not released. -/
lemma Inv.stores_free (hS : RingSize S) (h : Inv S s) {a : ℕ} (ha : Stores S s a) :
    a < S.toNat ∧ ¬ Unreleased S s a := by
  obtain ⟨x, hWx, hxP, rfl⟩ := h.stores_position hS ha
  refine ⟨Nat.mod_lt _ hS.pos, fun hun => ?_⟩
  obtain ⟨y, hPy, hyW, hxy⟩ := h.unreleased_position hun
  have hroom := h.room
  have := mod_inj_of_window (R := framePos s.sent s.published) (by omega) hxP hPy (by omega) hxy
  omega

/-! ### Delivery -/

/-- A receiver between calls finds a zero word at its cursor exactly when it has
received all messages sent. -/
lemma Inv.nothing_to_receive (hS : RingSize S) (h : Inv S s) (hpc : s.recvPc = .idle)
    (hharm : Harmless s.sent s.taken) (hfull : NonEmpty s) :
    loadWord s.ring (dataPtr s.read S).toNat = 0 ↔ s.completed.length = s.sent.length := by
  have htop := header_room hS s.sent s.taken.length
  have hlayout := h.layout
  have hcomp := h.completed
  simp only [hpc, RecvPc.cleared, RecvPc.unreported, Nat.add_zero] at hlayout hcomp
  rw [h.readPtr_toNat, hcomp]
  rcases Nat.eq_or_lt_of_le h.layout.rel_le with heq | hlt
  · rw [hlayout.header_empty hharm heq htop (by have := hS.two_words; omega)]
    simp [heq]
  · have hm : s.sent[s.taken.length]? = some s.sent[s.taken.length] := List.getElem?_eq_getElem hlt
    have hfit := h.sent_size _ (List.mem_of_getElem? hm)
    have hpos := h.sent_pos hfull _ (List.mem_of_getElem? hm)
    have hSlt := S.toNat_lt
    rw [hlayout.header hm htop, ← UInt64.toNat_inj, UInt64.toNat_ofNat',
      Nat.mod_eq_of_lt (by omega), UInt64.toNat_zero]
    omega

/-- Every completion that is not too small delivers its message whole. -/
lemma Inv.completed_data (h : Inv S s) (hsmall : NoneTooSmall s) {k : ℕ} {c : RecvCompletion}
    (hc : s.completed[k]? = some c) :
    s.sent[k]? = some c.data ∧ c.err = .success ∧ c.len.toNat = c.data.length := by
  obtain ⟨m, n, hm, -, hrep⟩ := h.reports k c hc
  rcases hrep.err with ⟨herr, rfl⟩ | ⟨herr, -⟩
  · have hdata : c.data = m := by rw [hrep.data, List.take_length]
    exact ⟨by rw [hdata]; exact hm, herr, by rw [hdata]; exact hrep.len⟩
  · exact absurd herr (hsmall c (List.mem_of_getElem? hc))

/-- The messages delivered are a prefix of the messages sent. -/
lemma Inv.delivered_le (h : Inv S s) (hsmall : NoneTooSmall s) :
    s.completed.map RecvCompletion.data <+: s.sent := by
  refine List.prefix_iff_getElem?.2 fun k hk => ?_
  rw [List.length_map] at hk
  rw [(h.completed_data hsmall (List.getElem?_eq_getElem hk)).1, List.getElem_map]

/-- End-to-end delivery over a ring that starts zeroed: for every interleaving of
the memory steps of the two sides, over messages that a frame can carry and with
no receive too small,

* the `k`-th receive has delivered the bytes of the `k`-th message accepted;
* the messages accepted are those sent and the one the sender is storing;
* a receiver that finds nothing has delivered all messages sent;
* the sender's next store is in the ring and outside the unreleased frames. -/
theorem delivery (hS : RingSize S) {ring : ByteMem} (hring : ∀ a < S.toNat, ring a = 0)
    {acts : List Act} (hmsgs : ∀ msg, Act.trySend msg ∈ acts → msg.Sendable)
    (hrun : Stepper.run (step S) (init ring) acts = some s) (hsmall : NoneTooSmall s) :
    (∀ (k : ℕ) (c : RecvCompletion), s.completed[k]? = some c →
        s.accepted[k]? = some c.data ∧ c.err = .success ∧ c.len.toNat = c.data.length)
      ∧ s.accepted = s.sent ++ (s.sendPc.msg.map MsgQueueEntry.bytes).toList
      ∧ (s.recvPc = .idle → loadWord s.ring (dataPtr s.read S).toNat = 0 →
        s.completed.map RecvCompletion.data = s.sent)
      ∧ ∀ a, Stores S s a → a < S.toNat ∧ ¬ Unreleased S s a := by
  have hinv := inv_of_noneTooSmall hS hring hmsgs hrun hsmall
  refine ⟨fun k c hc => ?_, hinv.accepted, fun hpc hzero => ?_, fun a ha => hinv.stores_free hS ha⟩
  · obtain ⟨hsent, hok⟩ := hinv.completed_data hsmall hc
    obtain ⟨hlt, -⟩ := List.getElem?_eq_some_iff.1 hsent
    rw [hinv.accepted, List.getElem?_append_left hlt]
    exact ⟨hsent, hok⟩
  · have hlen := (hinv.nothing_to_receive hS hpc
      (hinv.harmless_of_noneTooSmall hpc hsmall)
      (nonEmpty_run (fun msg hmsg => (hmsgs msg hmsg).1) hrun)).1 hzero
    exact (hinv.delivered_le hsmall).eq_of_length (by rw [List.length_map, hlen])

/-- Two messages through a ring of three words, each followed by its receive. -/
def twoMessages : List Act :=
  sendCall (countingEntry 3) ++ recvCall (countingEntry 3) ++ sendCall (countingEntry 10)
    ++ recvCall (countingEntry 16)

theorem delivery_twoMessages :
    ∃ s, Stepper.run (step 24) (init fun _ => 0) twoMessages = some s
      ∧ s.completed.map RecvCompletion.data = [[1, 2, 3], [1, 2, 3, 4, 5, 6, 7, 8, 9, 10]]
      ∧ s.accepted[1]? = some [1, 2, 3, 4, 5, 6, 7, 8, 9, 10] := by
  have hcompleted : (Stepper.run (step 24) (init fun _ => 0) twoMessages).map completed
      = some [⟨0, [1, 2, 3], 3, 0, .success⟩,
        ⟨0, [1, 2, 3, 4, 5, 6, 7, 8, 9, 10], 10, 0, .success⟩] := by decide +kernel
  obtain ⟨s, hrun, hs⟩ := Option.map_eq_some_iff.1 hcompleted
  have hmsgs : ∀ msg, Act.trySend msg ∈ twoMessages → msg.Sendable := by
    intro msg hmsg
    simp only [twoMessages, sendCall, recvCall, List.mem_append, List.mem_cons, List.mem_replicate,
      reduceCtorEq,
      and_false, or_false, Act.trySend.injEq] at hmsg
    rcases hmsg with rfl | rfl <;> constructor <;> decide
  have hsmall : NoneTooSmall s := by rw [NoneTooSmall, hs]; decide
  have hdeliv := (delivery ⟨by simp, by simp, by simp⟩ (fun _ _ => rfl) hmsgs hrun hsmall).1
  exact ⟨s, hrun, by rw [hs]; rfl, (hdeliv 1 _ (by rw [hs]; rfl)).1⟩

end Channel

end DpaProvider
