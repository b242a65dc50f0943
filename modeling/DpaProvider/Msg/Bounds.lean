import DpaProvider.Library.Blocks
import DpaProvider.Msg.Receivable

/-!
The bytes that `write_msg` and `read_msg` access.

* `writeBlocks`, `writeMsg_of_notMem`: the blocks that `write_msg` stores to;
* `readBlocks`, `clearBlocks`, `fillBlocks`: the blocks that `read_msg` reads, clears, and fills
  in the user buffer, with what they say about `readMsg`;
* `write_bounds`: in every run whose frame sizes do not overflow, unless the call is refused,
  and whose receives cut off zeroes only, `write_msg` stores into free space of the ring
  exactly if the frame size of its message does not overflow;
* `read_bounds`: `read_msg` stays in its ring exactly if what it copies ends less than a whole
  ring behind the payload pointer.
-/

namespace DpaProvider

open ByteMem Circular

/-! ### The blocks -/

/-- The stores of `write_msg`: the payload up to the top, the rest of it, the header word. -/
def writeBlocks (write size len : UInt64) : List Block :=
  let data := dataPtr write size
  let buftop := buftopSize data size
  ⟨(data + bufferWord).toNat, (min len buftop).toNat⟩
    :: (if buftop < len then [⟨0, (len - buftop).toNat⟩] else []) ++ [⟨data.toNat, 8⟩]

/-- The loads of `read_msg`: the header word, the payload up to the top, the rest of it. -/
def readBlocks (l : ReadLocals) : List Block :=
  ⟨l.readPtr.toNat, 8⟩ :: ⟨(l.readPtr + bufferWord).toNat, l.copySize.toNat⟩
    :: (if l.copySize < l.readSize then [⟨0, (l.readSize - l.copySize).toNat⟩] else [])

/-- What `read_msg` zeroes. -/
def clearBlocks (l : ReadLocals) : List Block :=
  ⟨l.readPtr.toNat, (bufferWord + l.copySize).toNat⟩
    :: (if l.copySize < l.readSize then [⟨0, (l.readSize - l.copySize).toNat⟩] else [])

/-- What `read_msg` stores into the user buffer. -/
def fillBlocks (l : ReadLocals) : List Block :=
  ⟨0, l.copySize.toNat⟩
    :: (if l.copySize < l.readSize then [⟨l.copySize.toNat, (l.readSize - l.copySize).toNat⟩]
      else [])

/-- `write_msg` stores to its blocks only. -/
lemma writeMsg_of_notMem {write size : UInt64} {ring : ByteMem} {msg : MsgQueueEntry} {a : ℕ}
    (h : ¬ Covers (writeBlocks write size msg.len) a) :
    (writeMsg write size ring msg).2 a = ring a := by
  simp only [writeBlocks, List.cons_append, covers_cons, covers_append, covers_ite, covers_nil,
    not_or, or_false] at h
  obtain ⟨hfirst, hsecond, hheader⟩ := h
  have hrest : storeSecond write size (storeFirst write size ring msg) msg a = ring a := by
    rw [storeSecond]
    split
    case isTrue hlt =>
        rw [memcpy_of_notMem _ _ fun hmem => hsecond ⟨hlt, hmem⟩]
        exact memcpy_of_notMem _ _ hfirst
    case isFalse => exact memcpy_of_notMem _ _ hfirst
  exact (storeWord_of_notMem _ _ hheader).trans hrest

/-- `read_msg` changes the ring in the blocks that it zeroes only. -/
lemma readMsg_ring_of_notMem {read size : UInt64} {ring : ByteMem} {msg : MsgQueueEntry} {a : ℕ}
    (h : ¬ Covers (clearBlocks (readLocals read size ring msg)) a) :
    (readMsg read size ring msg).ring a = ring a := by
  simp only [clearBlocks, covers_cons, covers_ite, not_or] at h
  obtain ⟨hfirst, hsecond⟩ := h
  simp only [readMsg, zeroSecond]
  split
  case isTrue hlt =>
      rw [memset_of_notMem _ _ fun hmem => hsecond ⟨hlt, hmem⟩]
      exact memset_of_notMem _ _ hfirst
  case isFalse => exact memset_of_notMem _ _ hfirst

/-- `read_msg` changes the user buffer in the blocks that it fills only. -/
lemma readMsg_buf_of_notMem {read size : UInt64} {ring : ByteMem} {msg : MsgQueueEntry} {a : ℕ}
    (h : ¬ Covers (fillBlocks (readLocals read size ring msg)) a) :
    (readMsg read size ring msg).buf a = msg.buf a := by
  simp only [fillBlocks, covers_cons, covers_ite, not_or] at h
  obtain ⟨hfirst, hsecond⟩ := h
  simp only [readMsg, copySecond]
  split
  case isTrue hlt =>
      rw [memcpy_of_notMem _ _ fun hmem => hsecond ⟨hlt, hmem⟩]
      exact memcpy_of_notMem _ _ hfirst
  case isFalse => exact memcpy_of_notMem _ _ hfirst

/-- What `read_msg` copies and returns depends on the blocks that it reads only. -/
lemma readMsg_congr {read size : UInt64} {ring ring' : ByteMem} {msg : MsgQueueEntry}
    (h : ∀ a, Covers (readBlocks (readLocals read size ring msg)) a → ring a = ring' a) :
    (readMsg read size ring msg).buf = (readMsg read size ring' msg).buf
      ∧ (readMsg read size ring msg).readSize = (readMsg read size ring' msg).readSize
      ∧ (readMsg read size ring msg).read = (readMsg read size ring' msg).read := by
  simp only [readBlocks, covers_cons, covers_ite] at h
  have hword : loadWord ring (dataPtr read size).toNat = loadWord ring' (dataPtr read size).toNat :=
    loadWord_congr fun a ha => h a (.inl ha)
  have hlocals : readLocals read size ring msg = readLocals read size ring' msg := by
    rw [readLocals, readLocals, hword]
  have hfirst := memcpy_congr msg.buf (d := 0) fun a ha => h a (.inr (.inl ha))
  refine ⟨?_, by rw [readMsg, readMsg, hlocals], by rw [readMsg, readMsg, hlocals]⟩
  simp only [readMsg, copyFirst, copySecond, ← hlocals, hfirst]
  split
  case isTrue hlt =>
      refine memcpy_congr _ fun a ha => ?_
      rw [zeroFirst, zeroFirst, memset, memset, patch, patch, h a (.inr (.inr ⟨hlt, ha⟩))]
  case isFalse => rfl

/-! ### The footprint of a send -/

/-- Where the byte `a` of the ring is, relative to the `buffer_status` of the peer: its first
word is `read`, then comes the ring. -/
def statusOffset (a : ℕ) : ℕ := (8 + a) % 2 ^ 64

namespace Channel

variable {S : UInt64} {s s' : Channel}

/-- The bytes of a block of `write_msg` are in the frame at the end of the ring. -/
lemma writeBlocks_position (hS : RingSize S) {W : ℕ} {write len : UInt64}
    (hdata : (dataPtr write S).toNat = W % S.toNat) (htop : W % S.toNat + 8 ≤ S.toNat)
    (hlen : frameLen len.toNat ≤ S.toNat) {a : ℕ} (ha : Covers (writeBlocks write S len) a) :
    ∃ x, W ≤ x ∧ x < W + frameLen len.toNat ∧ a = x % S.toNat := by
  obtain ⟨hpay, hbuf⟩ := payload_toNat hS.wordRing hdata htop
  simp only [writeBlocks, List.cons_append, covers_cons, covers_append, covers_ite, covers_nil,
    or_false, Block.Mem, hpay, hdata, UInt64.toNat_min, hbuf] at ha
  rcases ha with ⟨hge, hlt⟩ | ⟨hlt, -, hsecond⟩ | ⟨hge, hlt⟩
  · exact first_position hge hlt
  · rw [UInt64.toNat_sub_of_le _ _ (UInt64.le_of_lt hlt), hbuf] at hsecond
    exact second_position hS htop hlen (by omega)
  · exact header_position _ htop hge hlt

/-- A byte that a send may store: it is in the ring, in no frame that the receiver has not
released, and not in the `read` word of the peer. -/
def Free (S : UInt64) (s : Channel) (a : ℕ) : Prop :=
  a < S.toNat ∧ ¬ Unreleased S s a ∧ 8 ≤ statusOffset a

/-- What is in the ring is behind the `read` word. -/
lemma statusOffset_ge (hS : RingSize S) {a : ℕ} (ha : a < S.toNat) : 8 ≤ statusOffset a := by
  have hfits := hS.fits
  have hpos := hS.pos
  rw [statusOffset, Nat.mod_eq_of_lt (by omega)]
  omega

/-- A message whose call of `try_send` is refused may have any length. -/
def SendFits (S : UInt64) (s : Channel) : Act → Prop
  | .trySend msg => msg.Fits ∨ s.hasSpace S msg = false
  | .tryRecv entry => CutsZeroes s entry
  | _ => True

lemma Swept.step_sendFits (hS : RingSize S) (h : Swept S s) {a : Act} (hok : SendFits S s a)
    (hstep : Channel.step S s a = some s') : Swept S s' := by
  cases a with
  | trySend msg =>
      rcases hok with hfits | hrefused
      · exact h.step hS (a := .trySend msg) hfits hstep
      · -- the call returns without a change
        cases hpc : s.sendPc with
        | idle =>
            obtain rfl : _ = s' := by simpa only [Channel.step, hpc, Option.some.injEq] using hstep
            rwa [beginSend, hrefused, if_neg Bool.false_ne_true]
        | _ => simp [Channel.step, hpc] at hstep
  | tryRecv entry => exact h.step hS (a := .tryRecv entry) hok hstep
  | sendStep => exact h.step hS (a := .sendStep) trivial hstep
  | recvStep => exact h.step hS (a := .recvStep) trivial hstep

lemma swept_run (hS : RingSize S) {ring : ByteMem} (hring : ∀ a < S.toNat, ring a = 0)
    {acts : List Act} (hok : Stepper.Meets (step S) (SendFits S) (init ring) acts)
    (hrun : Stepper.run (step S) (init ring) acts = some s) : Swept S s :=
  Stepper.run_induction (fun _ _ _ h hok hstep => h.step_sendFits hS hok hstep)
    (swept_init hS hring) hok hrun

/-- A call of `try_send` that finds space for a frame stores into free space. -/
lemma Inv.writeBlocks_free (hS : RingSize S) (h : Inv S s) (hpc : s.sendPc = .idle)
    {msg : MsgQueueEntry} (hfits : msg.Fits) (hspace : s.hasSpace S msg = true) {a : ℕ}
    (ha : Covers (writeBlocks s.write S msg.len) a) : Free S s a := by
  have hbegun := h.beginSend hS hpc hfits
  have hroom := hbegun.room
  simp only [Channel.beginSend, hspace, ↓reduceIte, SendPc.need] at hroom
  obtain ⟨hPR, hRW⟩ := h.positions
  obtain ⟨x, hWx, hxW, rfl⟩ := writeBlocks_position hS (h.data_toNat (by rw [hpc]; rfl))
    (header_room hS s.sent s.sent.length) (by omega) ha
  have hlt : x % S.toNat < S.toNat := Nat.mod_lt _ hS.pos
  refine ⟨hlt, fun hun => ?_, statusOffset_ge hS hlt⟩
  obtain ⟨y, hPy, hyW, hxy⟩ := h.unreleased_position hun
  have := mod_inj_of_window (R := framePos s.sent s.published) (by omega) (by omega) hPy (by omega)
    hxy
  omega

/-- A length whose frame size overflows makes `write_msg` leave the ring: the rest of the payload
behind the top is longer than the ring. -/
lemma writeBlocks_escape (hS : RingSize S) (h : Inv S s) (hpc : s.sendPc = .idle)
    {msg : MsgQueueEntry} (hfits : ¬ msg.Fits) :
    Covers (writeBlocks s.write S msg.len) S.toNat := by
  have hpos := hS.pos
  have hSfits := hS.fits
  obtain ⟨-, hbuf⟩ := payload_toNat hS.wordRing (h.data_toNat (by rw [hpc]; rfl))
    (Inv.header_room hS s.sent s.sent.length)
  rw [MsgQueueEntry.Fits] at hfits
  have hlt : buftopSize (dataPtr s.write S) S < msg.len := by
    rw [UInt64.lt_iff_toNat_lt, hbuf]
    omega
  simp only [writeBlocks, List.cons_append, covers_cons, covers_append, covers_ite]
  refine .inr (.inl ⟨hlt, Nat.zero_le _, ?_⟩)
  rw [UInt64.toNat_sub_of_le _ _ (UInt64.le_of_lt hlt), hbuf]
  simp only
  omega

/-- In every run whose frame sizes do not overflow, unless the call is refused, and whose receives
cut off zeroes only,

* the sender's next store is into free space;
* a call of `try_send` that the sender may make, unless it is refused, stores into free space
  exactly if the frame size of its message does not overflow. -/
theorem write_bounds (hS : RingSize S) {ring : ByteMem} (hring : ∀ a < S.toNat, ring a = 0)
    {acts : List Act} (hok : Stepper.Meets (step S) (SendFits S) (init ring) acts)
    (hrun : Stepper.run (step S) (init ring) acts = some s) :
    (∀ a, Stores S s a → Free S s a)
      ∧ (s.sendPc = .idle → ∀ msg : MsgQueueEntry,
        (s.hasSpace S msg = true → ∀ a, Covers (writeBlocks s.write S msg.len) a → Free S s a)
          ↔ (msg.Fits ∨ s.hasSpace S msg = false)) := by
  have hinv := (swept_run hS hring hok hrun).toInv
  refine ⟨fun a ha => ?_, fun hpc msg => ⟨fun hfree => ?_, fun hfits hspace a ha => ?_⟩⟩
  · obtain ⟨hlt, hun⟩ := hinv.stores_free hS ha
    exact ⟨hlt, hun, statusOffset_ge hS hlt⟩
  · by_contra hnot
    obtain ⟨hfits, hspace⟩ := not_or.1 hnot
    have hescape := writeBlocks_escape hS hinv hpc hfits
    exact absurd (hfree (Bool.not_eq_false _ ▸ hspace) _ hescape).1 (lt_irrefl _)
  · have hmsg : msg.Fits := hfits.resolve_right (by rw [hspace]; decide)
    exact hinv.writeBlocks_free hS hpc hmsg hspace ha

/-- The second message of a run. -/
theorem write_bounds_oneMessage :
    ∃ s, Stepper.run (step 32) (init fun _ => 0) (sendCall (countingEntry 3)) = some s
      ∧ ∀ a, Covers (writeBlocks s.write 32 8) a → Free 32 s a := by
  have hok : ∀ a ∈ sendCall (countingEntry 3), ∀ s, SendFits 32 s a := by
    intro a ha s
    simp only [sendCall, List.mem_cons, List.mem_replicate] at ha
    rcases ha with rfl | ⟨-, rfl⟩
    · exact .inl (by rw [MsgQueueEntry.Fits]; decide)
    · trivial
  obtain ⟨s, hrun, hpc, hspace⟩ : ∃ s,
      Stepper.run (step 32) (init fun _ => 0) (sendCall (countingEntry 3)) = some s
        ∧ s.sendPc = .idle ∧ s.hasSpace 32 (countingEntry 8) = true := ⟨_, rfl, rfl, rfl⟩
  have hbounds := write_bounds ⟨by simp, by simp, by simp⟩ (fun _ _ => rfl)
    ((Stepper.meets_of_forall hok).mono fun s _ h => h s) hrun
  have hfits : (countingEntry 8).Fits := by rw [MsgQueueEntry.Fits]; decide
  exact ⟨s, hrun, (hbounds.2 hpc (countingEntry 8)).2 (.inl hfits) hspace⟩

/-- Nine bytes, of which the last is 8 and the others zero. -/
def tailEntry : MsgQueueEntry :=
  { buf := fun i => if i = 8 then 8 else 0, len := 9, flags := 0, context := 0 }

/-- Two messages, the first of them cut off by its receive, and a third receive, which finds what
was cut off. -/
def cutRun : List Act :=
  sendCall tailEntry ++ recvCall (countingEntry 2) ++ sendCall (countingEntry 1)
    ++ recvCall (countingEntry 1) ++ recvCall (countingEntry 8)

/-- A message of `2 ^ 64 - 8` bytes is accepted by a fresh ring of two words, and its second part
leaves the ring.  After a receive has cut off a message, a ring of three words accepts a message
of 100 bytes, which leaves it too. -/
theorem write_escapes :
    ((init fun _ => 0).hasSpace 16 (countingEntry (0 - 8)) = true
        ∧ Covers (writeBlocks 0 16 (0 - 8)) 16 ∧ ¬ Free 16 (init fun _ => 0) 16)
      ∧ ∃ s, Stepper.run (step 24) (init fun _ => 0) cutRun = some s
        ∧ s.sendPc = .idle ∧ s.hasSpace 24 (countingEntry 100) = true
        ∧ Covers (writeBlocks s.write 24 100) 24 ∧ ¬ Free 24 s 24 := by
  have hnotFree (S : UInt64) (s : Channel) : ¬ Free S s S.toNat := fun h => lt_irrefl _ h.1
  refine ⟨⟨by decide, ⟨⟨0, 18446744073709551600⟩, by decide, by decide⟩, hnotFree 16 _⟩, ?_⟩
  have hview : (Stepper.run (step 24) (init fun _ => 0) cutRun).map
      (fun s => (s.sendPc.msg.isNone, s.write, s.remoteRead)) = some (true, 40, 8) := by
    decide +kernel
  obtain ⟨s, hrun, hs⟩ := Option.map_eq_some_iff.1 hview
  obtain ⟨hpc, hwrite, hread⟩ : s.sendPc.msg.isNone = true ∧ s.write = 40 ∧ s.remoteRead = 8 := by
    simpa using hs
  refine ⟨s, hrun, ?_, ?_, ?_, hnotFree 24 s⟩
  · cases hsend : s.sendPc with
    | idle => rfl
    | _ => simp [hsend, SendPc.msg] at hpc
  · rw [hasSpace, hwrite, hread]
    decide
  · rw [hwrite]
    exact ⟨⟨0, 100⟩, by decide, by decide⟩

/-! ### The footprint of a receive -/

/-- `read_msg` reads and clears bytes of its own ring only, stores at most the posted length, and
leaves an aligned cursor. -/
structure Confined (S read : UInt64) (ring : ByteMem) (entry : MsgQueueEntry) : Prop where
  reads : ∀ a, Covers (readBlocks (readLocals read S ring entry)) a → a < S.toNat
  clears : ∀ a, Covers (clearBlocks (readLocals read S ring entry)) a → a < S.toNat
  fills : ∀ a, Covers (fillBlocks (readLocals read S ring entry)) a → a < entry.len.toNat
  aligned : 8 ∣ (readMsg read S ring entry).read.toNat
  cursor : (readMsg read S ring entry).read.toNat < 2 * S.toNat

/-- A cursor is aligned, whatever the size word says. -/
lemma newOffset_aligned (hS : WordRing S) (read len : UInt64) :
    8 ∣ (newOffset read len S).toNat ∧ (newOffset read len S).toNat < 2 * S.toNat := by
  have hpos := hS.pos
  rw [newOffset, UInt64.toNat_mod, hS.two_mul_toNat]
  refine ⟨?_, Nat.mod_lt _ (by omega)⟩
  have hword : 8 ∣ (bufferWordAlign (read + len + bufferWord + (bufferWord - 1))).toNat := by
    simp only [bufferWordAlign, bufferWord, UInt64.toNat_mul, UInt64.toNat_div, UInt64.toNat_ofNat,
      Nat.reducePow, Nat.reduceMod]
    omega
  exact (Nat.dvd_mod_iff (Dvd.dvd.mul_left hS.aligned 2)).2 hword

/-- The blocks of `read_msg` for a payload of which `c` of `n` bytes fit above the pointer `p`. -/
lemma readLocals_blocks (hS : WordRing S) {read : UInt64} {p : ℕ} (hp : (dataPtr read S).toNat = p)
    (htop : p + 8 ≤ S.toNat) (ring : ByteMem) (entry : MsgQueueEntry) :
    let n := min entry.len.toNat (loadWord ring p).toNat
    let c := min n (S.toNat - (p + 8))
    let l := readLocals read S ring entry
    readBlocks l = ⟨p, 8⟩ :: ⟨p + 8, c⟩ :: (if c < n then [⟨0, n - c⟩] else [])
      ∧ clearBlocks l = ⟨p, 8 + c⟩ :: (if c < n then [⟨0, n - c⟩] else [])
      ∧ fillBlocks l = ⟨0, c⟩ :: (if c < n then [⟨c, n - c⟩] else []) := by
  intro n c l
  have hfits := hS.fits
  obtain ⟨hpay, hbuf⟩ := payload_toNat hS hp htop
  have hread : l.readSize.toNat = n := by
    simp only [l, readLocals, n, UInt64.toNat_min, hp]
  have hcopy : l.copySize.toNat = c := by
    simp only [l, readLocals, c, n, UInt64.toNat_min, hp, hbuf]
  have hptr : l.readPtr.toNat = p := hp
  have hafter : (l.readPtr + bufferWord).toNat = p + 8 := hpay
  have hclear : (bufferWord + l.copySize).toNat = 8 + c := by
    simp only [bufferWord, UInt64.toNat_add, UInt64.toNat_ofNat, Nat.reducePow, Nat.reduceMod,
      hcopy]
    omega
  have hlt : l.copySize < l.readSize ↔ c < n := by rw [UInt64.lt_iff_toNat_lt, hread, hcopy]
  have hrest : (l.readSize - l.copySize).toNat = n - c := by
    rw [UInt64.toNat_sub_of_le _ _ (UInt64.le_iff_toNat_le.2 (by omega)), hread, hcopy]
  simp only [readBlocks, clearBlocks, fillBlocks, hptr, hafter, hcopy, hclear, hrest, hlt, and_self]

/-- For every content of the ring, `read_msg` stays in its ring exactly if the bytes to be copied
end before the payload pointer has been passed a second time. -/
theorem read_bounds (hS : WordRing S) {read : UInt64} (hread : 8 ∣ read.toNat) (ring : ByteMem)
    (entry : MsgQueueEntry) :
    Confined S read ring entry
      ↔ (dataPtr read S).toNat + 8
          + min entry.len.toNat (loadWord ring (dataPtr read S).toNat).toNat ≤ 2 * S.toNat := by
  obtain ⟨p, hp⟩ : ∃ p, (dataPtr read S).toNat = p := ⟨_, rfl⟩
  have htop : p + 8 ≤ S.toNat := by
    rw [← hp, dataPtr, UInt64.toNat_mod]
    exact mod_add_le_of_dvd hS.aligned hS.pos hread
  obtain ⟨hreads, hclears, hfills⟩ := readLocals_blocks hS hp htop ring entry
  rw [hp]
  set n := min entry.len.toNat (loadWord ring p).toNat with hn
  set c := min n (S.toNat - (p + 8)) with hc
  constructor
  · intro h
    by_contra hlong
    -- the second block ends behind the ring
    have hlast : S.toNat < n - c := by omega
    refine lt_irrefl S.toNat (h.clears S.toNat ?_)
    rw [hclears, covers_cons, covers_ite]
    exact .inr ⟨by omega, Nat.zero_le _, by simpa using hlast⟩
  · intro hle
    refine ⟨fun a ha => ?_, fun a ha => ?_, fun a ha => ?_, (newOffset_aligned hS _ _).1,
      (newOffset_aligned hS _ _).2⟩
    · simp only [hreads, covers_cons, covers_ite, Block.Mem] at ha
      omega
    · simp only [hclears, covers_cons, covers_ite, Block.Mem] at ha
      omega
    · simp only [hfills, covers_cons, covers_ite, Block.Mem] at ha
      omega

/-- A message that wraps, in a ring of three words. -/
theorem read_bounds_wrapped :
    Confined 24 16 (storeWord (fun _ => 1) 16 10) (countingEntry 16) := by
  refine (read_bounds ⟨by simp, by simp, by simp⟩ (by simp) _ _).2 ?_
  rw [show (dataPtr 16 24).toNat = 16 by decide, loadWord_storeWord]
  decide

/-- A size word of 64 in a ring of two words, and a posted receive of 64 bytes: the second part of
the payload is read from, and zeroed in, the memory behind the ring. -/
theorem read_escapes :
    ¬ Confined 16 0 (storeWord (fun _ => 0) 0 64) (countingEntry 64)
      ∧ Covers (clearBlocks (readLocals 0 16 (storeWord (fun _ => 0) 0 64) (countingEntry 64))) 16
      := by
  have hcovers : Covers (clearBlocks (readLocals 0 16 (storeWord (fun _ => 0) 0 64)
      (countingEntry 64))) 16 := by
    rw [(readLocals_blocks ⟨by decide, by decide, by decide⟩ rfl (by decide) _ _).2.1]
    refine ⟨⟨0, 56⟩, ?_, by decide⟩
    rw [show (dataPtr 0 16).toNat = 0 by decide, loadWord_storeWord]
    decide
  exact ⟨fun h => absurd (h.clears 16 hcovers) (by simp), hcovers⟩

end Channel

end DpaProvider
