import DpaProvider.Msg.Delivery

/-!
When a message sent is received.

A zero header word means that nothing has arrived, so an empty message is never
found; and a receive that cuts a message off leaves the rest of it in the ring,
where a later header word will be looked for.  `StepOk` excludes both, `Tidy` is
what then holds in every state, and `receivable` says that the next receive
returns the next message.
-/

namespace DpaProvider

open ByteMem

namespace Channel

variable {S : UInt64} {s s' : Channel}

/-! ### Receives that cut off zeroes only -/

/-- A receive that begins with this entry leaves nothing but zeroes of its
message in the ring. -/
def CutsZeroes (s : Channel) (entry : MsgQueueEntry) : Prop :=
  ∀ m, s.sent[s.taken.length]? = some m → ∀ b ∈ m.drop entry.len.toNat, b = 0

/-- Messages that a frame can carry, and receives that cut off zeroes only. -/
def StepOk (s : Channel) : Act → Prop
  | .trySend msg => msg.Sendable
  | .tryRecv entry => CutsZeroes s entry
  | _ => True

/-- The same for messages that may be empty. -/
def StepFits (s : Channel) : Act → Prop
  | .trySend msg => msg.Fits
  | .tryRecv entry => CutsZeroes s entry
  | _ => True

lemma StepOk.fits {a : Act} (h : StepOk s a) : StepFits s a := by
  cases a with
  | trySend msg => exact h.2
  | _ => exact h

/-- The invariant of the runs whose steps are `StepFits`. -/
structure Swept (S : UInt64) (s : Channel) : Prop extends Inv S s where
  harmless : Harmless s.sent s.taken
  cut : ∀ entry, s.recvPc.posted = some entry → CutsZeroes s entry

/-- The invariant of the runs whose steps are `StepOk`. -/
structure Tidy (S : UInt64) (s : Channel) : Prop extends Swept S s where
  nonEmpty : NonEmpty s

lemma swept_init (hS : RingSize S) {ring : ByteMem} (hring : ∀ a < S.toNat, ring a = 0) :
    Swept S (init ring) where
  toInv := inv_init hS hring
  harmless := by simp [Harmless, init]
  cut := by simp [init, RecvPc.posted]

lemma tidy_init (hS : RingSize S) {ring : ByteMem} (hring : ∀ a < S.toNat, ring a = 0) :
    Tidy S (init ring) where
  toSwept := swept_init hS hring
  nonEmpty := fun _ hm => absurd hm List.not_mem_nil

lemma Swept.callOk (h : Swept S s) {a : Act} (hok : StepFits s a) : CallOk s a := by
  cases a with
  | trySend msg => exact hok
  | tryRecv entry => exact h.harmless
  | _ => trivial

/-- More frames sent do not change what the earlier receives have cut off. -/
lemma Harmless.append {sent sent' : List (List UInt8)} {taken : List ℕ}
    (h : Harmless sent taken) (hle : taken.length ≤ sent.length) (hpre : sent <+: sent') :
    Harmless sent' taken := by
  intro k m n hm hn
  obtain ⟨hk, -⟩ := List.getElem?_eq_some_iff.1 hn
  obtain ⟨l, rfl⟩ := hpre
  rw [List.getElem?_append_left (by omega)] at hm
  exact h k m n hm hn

/-- A receive in progress has its message. -/
lemma Inv.posted_message (h : Inv S s) {entry : MsgQueueEntry}
    (hposted : s.recvPc.posted = some entry) : ∃ m, s.sent[s.taken.length]? = some m := by
  have hrecv := h.recv
  cases hpc : s.recvPc with
  | idle | publish c | complete c => simp [RecvPc.posted, hpc] at hposted
  | load entry' probed | copyFirst c | zeroFirst c | copySecond c | zeroSecond c | advance c =>
      rw [hpc] at hrecv
      obtain ⟨m, hm, -⟩ := hrecv
      exact ⟨m, hm⟩

lemma Swept.sendStep (hS : RingSize S) (h : Swept S s) (hstep : s.sendStep S = some s') :
    Swept S s' := by
  obtain ⟨hsent, htaken, -, hpc⟩ := sendStep_frame hstep
  refine ⟨h.toInv.sendStep hS hstep, ?_, fun entry hentry m hm => ?_⟩
  · rw [htaken]
    exact Harmless.append h.harmless h.layout.rel_le hsent
  · rw [hpc] at hentry
    rw [htaken] at hm
    obtain ⟨m', hm'⟩ := h.posted_message hentry
    obtain ⟨l, hl⟩ := hsent
    obtain ⟨hlt, -⟩ := List.getElem?_eq_some_iff.1 hm'
    rw [← hl, List.getElem?_append_left hlt] at hm
    exact h.cut entry hentry m hm

lemma Swept.recvStep (hS : RingSize S) (h : Swept S s) (hstep : s.recvStep S = some s') :
    Swept S s' := by
  have hinv := h.toInv.recvStep hS hstep
  have hharm := h.harmless
  have hcut := h.cut
  have hrecv := h.recv
  cases hpc : s.recvPc with
  | idle => simp [Channel.recvStep, hpc] at hstep
  | load entry probed =>
      obtain rfl : _ = s' := by simpa only [Channel.recvStep, hpc, Option.some.injEq] using hstep
      exact ⟨hinv, hharm, fun entry' he => hcut entry' (by rw [hpc]; exact he)⟩
  | copyFirst c | zeroFirst c | copySecond c | zeroSecond c =>
      obtain rfl : _ = s' := by simpa only [Channel.recvStep, hpc, Option.some.injEq] using hstep
      exact ⟨hinv, hharm, fun entry' he => hcut entry' (by rw [hpc]; exact he)⟩
  | advance c =>
      obtain rfl : _ = s' := by simpa only [Channel.recvStep, hpc, Option.some.injEq] using hstep
      refine ⟨hinv, ?_, by simp [RecvPc.posted]⟩
      rw [hpc] at hrecv
      obtain ⟨m, hm, hreading, -⟩ := hrecv
      intro k m' n hm' hn
      rcases Nat.lt_or_ge k s.taken.length with hlt | hge
      · rw [List.getElem?_append_left hlt] at hn
        exact hharm k m' n hm' hn
      · -- the message just taken: what it copied is the posted length or all of it
        obtain ⟨hk, -⟩ := List.getElem?_eq_some_iff.1 hn
        obtain rfl : k = s.taken.length := by simp at hk; omega
        obtain rfl : m = m' := by simpa [hm] using hm'
        obtain rfl : c.locals.readSize.toNat = n := by simpa using hn
        intro b hb
        have hread := hreading.readSize
        rcases Nat.le_total c.entry.len.toNat m.length with hle | hle
        · rw [hread, Nat.min_eq_left hle] at hb
          exact hcut c.entry (by rw [hpc]; rfl) m hm b hb
        · rw [hread, Nat.min_eq_right hle, List.drop_length] at hb
          exact absurd hb List.not_mem_nil
  | publish c | complete c =>
      obtain rfl : _ = s' := by simpa only [Channel.recvStep, hpc, Option.some.injEq] using hstep
      exact ⟨hinv, hharm, by simp [RecvPc.posted]⟩

/-- Every step that is `StepFits` keeps the invariant. -/
theorem Swept.step (hS : RingSize S) (h : Swept S s) {a : Act} (hok : StepFits s a)
    (hstep : Channel.step S s a = some s') : Swept S s' := by
  have hinv := h.toInv.step hS (h.callOk hok) hstep
  cases a with
  | trySend msg =>
      cases hpc : s.sendPc with
      | idle =>
          obtain rfl : _ = s' := by simpa only [Channel.step, hpc, Option.some.injEq] using hstep
          obtain ⟨hsent, htaken, -, hrecv⟩ := beginSend_frame S s msg
          refine ⟨hinv, by rw [hsent, htaken]; exact h.harmless, fun entry he => ?_⟩
          rw [CutsZeroes, hsent, htaken]
          exact h.cut entry (by rw [← hrecv]; exact he)
      | _ => simp [Channel.step, hpc] at hstep
  | sendStep => exact h.sendStep hS hstep
  | tryRecv entry =>
      cases hpc : s.recvPc with
      | idle =>
          obtain rfl : _ = s' := by simpa only [Channel.step, hpc, Option.some.injEq] using hstep
          obtain ⟨hsent, htaken, -⟩ := beginRecv_frame S s entry
          refine ⟨hinv, by rw [hsent, htaken]; exact h.harmless, fun entry' he => ?_⟩
          rw [CutsZeroes, hsent, htaken]
          -- the call in progress, if one began, is for the entry of this step
          have heq : entry' = entry := by
            rw [beginRecv] at he
            split at he
            · simp [hpc, RecvPc.posted] at he
            · simpa [RecvPc.posted] using he.symm
          rw [heq]
          exact hok
      | _ => simp [Channel.step, hpc] at hstep
  | recvStep => exact h.recvStep hS hstep

/-- Every step that is `StepOk` keeps the invariant. -/
theorem Tidy.step (hS : RingSize S) (h : Tidy S s) {a : Act} (hok : StepOk s a)
    (hstep : Channel.step S s a = some s') : Tidy S s' where
  toSwept := h.toSwept.step hS hok.fits hstep
  nonEmpty := nonEmpty_step h.nonEmpty (fun msg hmsg => by subst hmsg; exact hok.1) hstep

lemma tidy_run (hS : RingSize S) {ring : ByteMem} (hring : ∀ a < S.toNat, ring a = 0)
    {acts : List Act} (hok : Stepper.Meets (Channel.step S) StepOk (init ring) acts)
    (hrun : Stepper.run (Channel.step S) (init ring) acts = some s) : Tidy S s :=
  Stepper.run_induction (fun _ _ _ h hok hstep => h.step hS hok hstep)
    (tidy_init hS hring) hok hrun

/-! ### Calls without interruption -/

lemma Tidy.wrote (hS : RingSize S) (h : Tidy S s) (hpc : s.sendPc = .idle) {msg : MsgQueueEntry}
    (hspace : s.hasSpace S msg) (hmsg : msg.Sendable) : Tidy S (s.wrote S msg) :=
  Stepper.run_induction (fun _ _ _ h hok hstep => h.step hS hok hstep) h
    (Stepper.meets_call (C := StepOk) (a := .trySend msg) (b := .sendStep) 4 hmsg fun _ => trivial)
    (run_sendCall hpc hspace)

lemma Tidy.received (hS : RingSize S) (h : Tidy S s) (hpc : s.recvPc = .idle)
    {entry : MsgQueueEntry} (hsize : ¬ loadWord s.ring (dataPtr s.read S).toNat ≤ 0)
    (hcut : CutsZeroes s entry) : Tidy S (s.received S entry) :=
  Stepper.run_induction (fun _ _ _ h hok hstep => h.step hS hok hstep) h
    (Stepper.meets_call (C := StepOk) (a := .tryRecv entry) (b := .recvStep) 8 hcut
      fun _ => trivial)
    (run_recvCall hpc hsize)

/-! ### The next receive -/

/-- A receiver between calls that has not received all messages sent gets the
next one from the next call, whatever buffer it posts. -/
def Receivable (S : UInt64) (s : Channel) : Prop :=
  s.recvPc = .idle → ∀ m, s.sent[s.completed.length]? = some m → ∀ entry, ∃ t c,
    Stepper.run (step S) s (recvCall entry) = some t ∧ t.completed = s.completed ++ [c]
      ∧ c.data = m.take entry.len.toNat ∧ c.len.toNat + c.olen.toNat = m.length

/-- The invariant survives an uninterrupted call of `try_recv`. -/
lemma Inv.received (hS : RingSize S) (h : Inv S s) (hpc : s.recvPc = .idle)
    (hharm : Harmless s.sent s.taken) {entry : MsgQueueEntry}
    (hsize : ¬ loadWord s.ring (dataPtr s.read S).toNat ≤ 0) : Inv S (s.received S entry) :=
  Stepper.run_induction (fun _ _ _ h hcall hstep => h.step hS hcall hstep) h
    (Stepper.meets_call (C := CallOk) (a := .tryRecv entry) (b := .recvStep) 8 hharm
      fun _ => trivial)
    (run_recvCall hpc hsize)

/-- The header word of the next message, for a receiver between calls. -/
lemma Inv.header_next (hS : RingSize S) (h : Inv S s) (hpc : s.recvPc = .idle) {m : List UInt8}
    (hm : s.sent[s.completed.length]? = some m) :
    (loadWord s.ring (dataPtr s.read S).toNat).toNat = m.length := by
  have htop := header_room hS s.sent s.taken.length
  have hlayout := h.layout
  have hcomp := h.completed
  have hfit := h.sent_size m (List.mem_of_getElem? hm)
  have hSlt := S.toNat_lt
  simp only [hpc, RecvPc.cleared, RecvPc.unreported, Nat.add_zero] at hlayout hcomp
  rw [h.readPtr_toNat, hlayout.header (by rw [← hcomp]; exact hm) htop, UInt64.toNat_ofNat',
    Nat.mod_eq_of_lt (by omega)]

/-- A ring without bytes left behind makes the next message receivable. -/
lemma Inv.receivable_next (hS : RingSize S) (h : Inv S s) (hharm : Harmless s.sent s.taken)
    (hfull : NonEmpty s) : Receivable S s := by
  intro hpc m hm entry
  have hload := h.header_next hS hpc hm
  have hsize : ¬ loadWord s.ring (dataPtr s.read S).toNat ≤ 0 := by
    have hpos := h.sent_pos hfull m (List.mem_of_getElem? hm)
    rw [UInt64.le_iff_toNat_le, hload, UInt64.toNat_zero]
    omega
  have hinv : Inv S (s.received S entry) := h.received hS hpc hharm hsize
  obtain ⟨m', n, hm', -, hrep⟩ := hinv.reports s.completed.length (s.completionOf S entry)
    (by simp [Channel.received])
  obtain rfl : m = m' := by
    rw [show (s.received S entry).sent = s.sent from rfl, hm] at hm'
    exact Option.some.inj hm'
  -- what is copied is the posted length, or the whole message
  have hn : n = min entry.len.toNat m.length := by
    rw [← hrep.len, ← hload]
    exact UInt64.toNat_min _ _
  refine ⟨_, _, run_recvCall hpc hsize, rfl, ?_, hrep.olen⟩
  rw [hrep.data, hn, ← List.take_take, List.take_length]

/-- No message sent is invisible: in every run whose messages a frame can carry
and whose receives cut off zeroes only, the next receive returns the next message,
and the receives before it have returned the messages before it in order. -/
theorem receivable (hS : RingSize S) {ring : ByteMem} (hring : ∀ a < S.toNat, ring a = 0)
    {acts : List Act} (hok : Stepper.Meets (step S) StepOk (init ring) acts)
    (hrun : Stepper.run (step S) (init ring) acts = some s) :
    Receivable S s ∧ ∀ (k : ℕ) (c : RecvCompletion), s.completed[k]? = some c →
      ∃ m, s.sent[k]? = some m ∧ c.data = m.take c.len.toNat
        ∧ c.len.toNat + c.olen.toNat = m.length := by
  have htidy := tidy_run hS hring hok hrun
  refine ⟨htidy.toInv.receivable_next hS htidy.harmless htidy.nonEmpty, fun k c hc => ?_⟩
  obtain ⟨m, n, hm, -, hrep⟩ := htidy.reports k c hc
  exact ⟨m, hm, by rw [hrep.len]; exact hrep.data, hrep.olen⟩

theorem receivable_three : ∃ s t,
    Stepper.run (step 24) (init fun _ => 0) (sendCall (countingEntry 3)) = some s
      ∧ Stepper.run (step 24) s (recvCall (countingEntry 2)) = some t
      ∧ t.completed.map RecvCompletion.data = [[1, 2]] := by
  obtain ⟨s, hrun, hsent, hcompleted, hpc⟩ : ∃ s,
      Stepper.run (step 24) (init fun _ => 0) (sendCall (countingEntry 3)) = some s
        ∧ s.sent = [[1, 2, 3]] ∧ s.completed = [] ∧ s.recvPc = .idle := ⟨_, rfl, rfl, rfl, rfl⟩
  have hok : ∀ a ∈ sendCall (countingEntry 3), ∀ s, StepOk s a := by
    intro a ha s
    simp only [sendCall, List.mem_cons, List.mem_replicate] at ha
    rcases ha with rfl | ⟨-, rfl⟩
    · exact ⟨by decide, by decide⟩
    · trivial
  obtain ⟨hnext, -⟩ := receivable ⟨by simp, by simp, by simp⟩ (fun _ _ => rfl)
    ((Stepper.meets_of_forall hok).mono fun s _ h => h s) hrun
  obtain ⟨t, c, hrecv, ht, hdata, -⟩ := hnext hpc [1, 2, 3] (by rw [hsent, hcompleted]; rfl)
    (countingEntry 2)
  exact ⟨s, t, hrun, hrecv, by rw [ht, hcompleted, List.nil_append, List.map_singleton, hdata]; rfl⟩

/-- A posted send of length zero. -/
def emptyEntry : MsgQueueEntry := { buf := fun _ => 0, len := 0, flags := 0, context := 0 }

/-- An empty message is written and counted as sent, and no receive finds it. -/
theorem not_receivable_empty :
    ∃ s, Stepper.run (step 24) (init fun _ => 0) (sendCall emptyEntry) = some s
      ∧ s.sent = [[]] ∧ ¬ Receivable 24 s := by
  obtain ⟨s, hrun, hsent, hcompleted, hpc⟩ : ∃ s,
      Stepper.run (step 24) (init fun _ => 0) (sendCall emptyEntry) = some s
        ∧ s.sent = [[]] ∧ s.completed = [] ∧ s.recvPc = .idle := ⟨_, rfl, rfl, rfl, rfl⟩
  refine ⟨s, hrun, hsent, fun h => ?_⟩
  obtain ⟨t, c, hrecv, -⟩ := h hpc [] (by rw [hsent, hcompleted]; rfl) emptyEntry
  have hnone : (Stepper.run (step 24) (init fun _ => 0)
      (sendCall emptyEntry ++ recvCall emptyEntry)).isSome = false := by decide +kernel
  rw [Stepper.run_append, hrun, Option.bind_some, hrecv] at hnone
  exact Bool.noConfusion hnone

end Channel

end DpaProvider
