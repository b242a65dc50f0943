import DpaProvider.Library.Circular

/-!
The message ring of `dpa_msg.c`.

A message is one frame: a header word with its length, then its bytes, the
whole rounded up to the next word.  The sender keeps `write`, the receiver
`read`; both are cursors modulo twice the ring size.  The receiver publishes
`read` in the peer's `buffer_status`, and zeroes what it has taken, since a
zero header word is what tells it that nothing has arrived.

* `newOffset`, `dataPtr`, `remoteSpace`: the cursor arithmetic in `size_t`;
* `writeMsg`: `write_msg`, as the sequence of its stores;
* `readMsg`: `read_msg`, as the sequence of its copies and clears;
* `RingSize`: the ring sizes a buffer can have (`ringSize_of_bufferSize`);
* the lemmas `newOffset_toNat` and `remoteSpace_toNat` read the cursor
  arithmetic at absolute positions.
-/

namespace DpaProvider

open ByteMem Circular

/-- `BUFFER_WORD`: the size of the header word of a `msg_data`. -/
def bufferWord : UInt64 := 8

/-- `BUFFER_WORD_ALIGN`: integer division and multiplication round down to a
word. -/
def bufferWordAlign (size : UInt64) : UInt64 := size / bufferWord * bufferWord

lemma toNat_bufferWordAlign (size : UInt64) :
    (bufferWordAlign size).toNat = size.toNat / 8 * 8 := by
  have hlt := size.toNat_lt
  have hword : (8 : UInt64).toNat = 8 := rfl
  simp only [bufferWordAlign, bufferWord, UInt64.toNat_mul, UInt64.toNat_div, hword]
  omega

/-- The `msg_queue_entry`: a posted send or receive.  The user buffer is a
pointer, so `buf` gives the byte at every offset from it and `len` says how many
belong to the operation.  The back pointer to the endpoint and the list link are
left out. -/
structure MsgQueueEntry where
  buf : ByteMem
  len : UInt64
  flags : UInt64
  context : ℕ

/-- The bytes of a posted send. -/
def MsgQueueEntry.bytes (e : MsgQueueEntry) : List UInt8 := slice e.buf 0 e.len.toNat

@[simp] lemma MsgQueueEntry.bytes_length (e : MsgQueueEntry) : e.bytes.length = e.len.toNat := by
  simp [bytes]

lemma MsgQueueEntry.getElem_bytes (e : MsgQueueEntry) {i : ℕ} (h : i < e.bytes.length) :
    e.buf i = e.bytes[i] := by
  have hslice := slice_getElem e.buf (a := 0) (n := e.len.toNat) h
  rw [Nat.zero_add] at hslice
  exact hslice.symm

/-- A message that a frame can carry: it is not empty, since a zero header word
means that nothing is there, and its frame size fits in a `size_t`. -/
def MsgQueueEntry.Sendable (e : MsgQueueEntry) : Prop :=
  0 < e.len.toNat ∧ e.len.toNat + 8 < 2 ^ 64

/-- The frame size of the message fits in a `size_t`. -/
def MsgQueueEntry.Fits (e : MsgQueueEntry) : Prop := e.len.toNat + 8 < 2 ^ 64

/-! ### Cursors -/

/-- `new_offset`: the cursor after a frame. -/
def newOffset (prevOffset msgSize bufSize : UInt64) : UInt64 :=
  bufferWordAlign (prevOffset + msgSize + bufferWord + (bufferWord - 1)) % (2 * bufSize)

/-- `data_ptr`: the address under a cursor, relative to the base of the ring. -/
def dataPtr (offset bufSize : UInt64) : UInt64 := offset % bufSize

/-- The distance from the payload at the pointer to the top of the ring, as both
`write_msg` and `read_msg` compute it. -/
def buftopSize (ptr bufSize : UInt64) : UInt64 := bufSize - (ptr + bufferWord)

/-- `remote_space`: the free bytes, from the published read cursor. -/
def remoteSpace (read write size : UInt64) : UInt64 :=
  (if write < read then read - size else read + size) - write

/-! ### Writing a message -/

/-- The first `memcpy` of `write_msg`: the payload up to the top of the ring. -/
def storeFirst (write size : UInt64) (ring : ByteMem) (msg : MsgQueueEntry) : ByteMem :=
  let data := dataPtr write size
  memcpy ring (data + bufferWord).toNat msg.buf 0 (min msg.len (buftopSize data size)).toNat

/-- The second `memcpy` of `write_msg`: the rest of the payload at the base of
the ring. -/
def storeSecond (write size : UInt64) (ring : ByteMem) (msg : MsgQueueEntry) : ByteMem :=
  let buftop := buftopSize (dataPtr write size) size
  if buftop < msg.len then memcpy ring 0 msg.buf buftop.toNat (msg.len - buftop).toNat else ring

/-- `write_msg`: the payload, the cursor, and last the header word at the place
the cursor had before.  Returns the new cursor and the ring. -/
def writeMsg (write size : UInt64) (ring : ByteMem) (msg : MsgQueueEntry) : UInt64 × ByteMem :=
  let data := dataPtr write size
  let ring := storeSecond write size (storeFirst write size ring msg) msg
  (newOffset write msg.len size, storeWord ring data.toNat msg.len)

/-! ### Reading a message -/

/-- The local variables of `read_msg` once the header word has been loaded. -/
structure ReadLocals where
  readPtr : UInt64
  msgSize : UInt64
  readSize : UInt64
  copySize : UInt64

/-- The head of `read_msg`: loads the header word and sizes the copies. -/
def readLocals (read size : UInt64) (ring : ByteMem) (msg : MsgQueueEntry) : ReadLocals :=
  let readPtr := dataPtr read size
  let msgSize := loadWord ring readPtr.toNat
  let readSize := min msg.len msgSize
  { readPtr, msgSize, readSize, copySize := min readSize (buftopSize readPtr size) }

/-- The first `memcpy` of `read_msg`. -/
def copyFirst (l : ReadLocals) (ring buf : ByteMem) : ByteMem :=
  memcpy buf 0 ring (l.readPtr + bufferWord).toNat l.copySize.toNat

/-- The first `memset` of `read_msg`: the header word and what was copied. -/
def zeroFirst (l : ReadLocals) (ring : ByteMem) : ByteMem :=
  memset ring l.readPtr.toNat 0 (bufferWord + l.copySize).toNat

/-- The second `memcpy` of `read_msg`, for a message that wraps. -/
def copySecond (l : ReadLocals) (ring buf : ByteMem) : ByteMem :=
  if l.copySize < l.readSize then
    memcpy buf l.copySize.toNat ring 0 (l.readSize - l.copySize).toNat
  else buf

/-- The second `memset` of `read_msg`. -/
def zeroSecond (l : ReadLocals) (ring : ByteMem) : ByteMem :=
  if l.copySize < l.readSize then memset ring 0 0 (l.readSize - l.copySize).toNat else ring

/-- What `read_msg` returns and leaves behind. -/
structure ReadResult where
  readSize : UInt64
  buf : ByteMem
  ring : ByteMem
  read : UInt64

/-- `read_msg`.  The new cursor is also what gets published to the peer. -/
def readMsg (read size : UInt64) (ring : ByteMem) (msg : MsgQueueEntry) : ReadResult :=
  let l := readLocals read size ring msg
  let buf := copyFirst l ring msg.buf
  let ring := zeroFirst l ring
  let buf := copySecond l ring buf
  let ring := zeroSecond l ring
  { readSize := l.readSize, buf, ring, read := newOffset read l.msgSize size }

/-! ### Ring sizes -/

/-- A ring size: whole words, room for a one-word message, and three rings fit
in a `size_t`. -/
structure RingSize (S : UInt64) : Prop where
  aligned : 8 ∣ S.toNat
  two_words : 16 ≤ S.toNat
  fits : 3 * S.toNat ≤ 2 ^ 64

/-- A ring of whole words, at least one, of which three fit in a `size_t`. -/
structure WordRing (S : UInt64) : Prop where
  aligned : 8 ∣ S.toNat
  pos : 0 < S.toNat
  fits : 3 * S.toNat ≤ 2 ^ 64

lemma RingSize.wordRing {S : UInt64} (hS : RingSize S) : WordRing S where
  aligned := hS.aligned
  pos := by have := hS.two_words; omega
  fits := hS.fits

/-- Every buffer size an environment override can give (an `unsigned` int)
yields a ring size, once there is room for the status word and two words. -/
theorem ringSize_of_bufferSize {bufferSize : UInt64} (hlow : 24 ≤ bufferSize.toNat)
    (hhigh : bufferSize.toNat < 2 ^ 32) : RingSize (bufferWordAlign bufferSize - bufferWord) := by
  have hval : (bufferWordAlign bufferSize - bufferWord).toNat = bufferSize.toNat / 8 * 8 - 8 := by
    simp only [bufferWordAlign, bufferWord, UInt64.toNat_sub, UInt64.toNat_mul, UInt64.toNat_div,
      UInt64.toNat_ofNat, Nat.reducePow, Nat.reduceMod]
    omega
  constructor <;> rw [hval] <;> omega

/-! ### The cursor arithmetic at absolute positions -/

/-- The bytes a frame takes for a message of `n` bytes. -/
def frameLen (n : ℕ) : ℕ := 8 + (n + 7) / 8 * 8

lemma dvd_frameLen (n : ℕ) : 8 ∣ frameLen n := by unfold frameLen; omega

lemma le_frameLen (n : ℕ) : 8 + n ≤ frameLen n := by unfold frameLen; omega

lemma frameLen_le_of_dvd {n k : ℕ} (hk : 8 ∣ k) (h : n + 8 ≤ k) : frameLen n ≤ k := by
  unfold frameLen; omega

section Arithmetic

variable {S : UInt64}

lemma RingSize.pos (hS : RingSize S) : 0 < S.toNat := by
  have := hS.two_words; omega

lemma WordRing.two_mul_toNat (hS : WordRing S) : (2 * S).toNat = 2 * S.toNat := by
  have := hS.fits
  have := hS.pos
  simp only [UInt64.toNat_mul, UInt64.toNat_ofNat, Nat.reducePow, Nat.reduceMod]
  omega

/-- `new_offset` moves a cursor by one frame. -/
lemma newOffset_toNat (hS : WordRing S) {P : ℕ} {off len : UInt64} (hP : 8 ∣ P)
    (hoff : off.toNat = P % (2 * S.toNat)) (hlen : len.toNat + 8 ≤ S.toNat) :
    (newOffset off len S).toNat = (P + frameLen len.toNat) % (2 * S.toNat) := by
  have hlt : off.toNat < 2 * S.toNat := by
    rw [hoff]; exact Nat.mod_lt _ (by have := hS.pos; omega)
  have hdvd : 8 ∣ off.toNat := by
    rw [hoff]; exact dvd_mod (Dvd.dvd.mul_left hS.aligned 2) hP
  have hfits := hS.fits
  have haligned := hS.aligned
  have hround : (bufferWordAlign (off + len + bufferWord + (bufferWord - 1))).toNat
      = off.toNat + frameLen len.toNat := by
    simp only [bufferWordAlign, bufferWord, frameLen, UInt64.toNat_add, UInt64.toNat_sub,
      UInt64.toNat_mul, UInt64.toNat_div, UInt64.toNat_ofNat, Nat.reducePow, Nat.reduceMod]
    omega
  rw [newOffset, UInt64.toNat_mod, hround, hS.two_mul_toNat, hoff, cursor_add]

lemma dataPtr_toNat {P : ℕ} {off : UInt64} (hoff : off.toNat = P % (2 * S.toNat)) :
    (dataPtr off S).toNat = P % S.toNat := by
  rw [dataPtr, UInt64.toNat_mod, hoff, mod_two_mul_mod]

/-- `remote_space` is the ring size less the bytes between the two cursors, also
when the ring is full. -/
lemma remoteSpace_toNat (hS : WordRing S) {P W : ℕ} {read write : UInt64}
    (hread : read.toNat = P % (2 * S.toNat)) (hwrite : write.toNat = W % (2 * S.toNat))
    (hPW : P ≤ W) (hWS : W ≤ P + S.toNat) :
    (remoteSpace read write S).toNat = S.toNat - (W - P) := by
  have hr : read.toNat < 2 * S.toNat := by
    rw [hread]; exact Nat.mod_lt _ (by have := hS.pos; omega)
  have hw : write.toNat < 2 * S.toNat := by
    rw [hwrite]; exact Nat.mod_lt _ (by have := hS.pos; omega)
  have hfits := hS.fits
  obtain ⟨habove, hbelow⟩ := space_of_cursors hS.pos hPW hWS
  rw [← hread, ← hwrite] at habove hbelow
  by_cases h : write < read
  · have hlt := UInt64.lt_iff_toNat_lt.1 h
    obtain ⟨hge, heq⟩ := habove hlt
    rw [remoteSpace, if_pos h]
    simp only [UInt64.toNat_sub]
    omega
  · have hge : read.toNat ≤ write.toNat := by
      rw [UInt64.lt_iff_toNat_lt] at h; omega
    obtain ⟨heq, hle⟩ := hbelow hge
    rw [remoteSpace, if_neg h]
    simp only [UInt64.toNat_sub, UInt64.toNat_add]
    omega

/-- The pointer to the payload and the room above it, for an aligned address. -/
lemma payload_toNat (hS : WordRing S) {p : ℕ} {ptr : UInt64} (hptr : ptr.toNat = p)
    (hp : p + 8 ≤ S.toNat) :
    (ptr + bufferWord).toNat = p + 8 ∧ (buftopSize ptr S).toNat = S.toNat - (p + 8) := by
  have hfits := hS.fits
  constructor <;>
    simp only [buftopSize, bufferWord, UInt64.toNat_sub, UInt64.toNat_add, UInt64.toNat_ofNat,
      Nat.reducePow, Nat.reduceMod] <;>
    omega

end Arithmetic

end DpaProvider
