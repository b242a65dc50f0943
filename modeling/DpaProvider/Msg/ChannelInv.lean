import DpaProvider.Msg.Steps

/-!
The invariant of the two sides of a ring.

`Inv` ties the three cursors to the absolute positions of the frames sent,
released and published, the local variables of a call in progress to the frame
it is working on, and the bytes of the ring to `Layout`.  It survives every
memory step of either side (`Inv.step`) under two conditions on the calls that
begin: a frame can carry the message, and a receive does not begin in a ring in
which an earlier one has cut off non-zero bytes (`Harmless`).
-/

namespace DpaProvider

open ByteMem Circular

/-- The bytes of the first frame that the call in progress has cleared. -/
def RecvPc.cleared : RecvPc → ℕ
  | copySecond c | zeroSecond c => 8 + c.locals.copySize.toNat
  | advance c => 8 + c.locals.readSize.toNat
  | _ => 0

/-- The payload the call in progress is storing. -/
def SendPc.pend : SendPc → List UInt8
  | idle => []
  | storeFirst msg | storeSecond msg | advance msg | storeSize msg _ => msg.bytes

/-- The bytes of that payload stored so far, in a ring whose free space starts
at the position `W`. -/
def SendPc.filled (N W : ℕ) : SendPc → ℕ
  | storeSecond msg => min msg.len.toNat (N - (W % N + 8))
  | advance msg | storeSize msg _ => msg.len.toNat
  | _ => 0

/-- The room the message in progress needs. -/
def SendPc.need : SendPc → ℕ
  | idle => 0
  | storeFirst msg | storeSecond msg | advance msg | storeSize msg _ => frameLen msg.len.toNat

/-- How far the cursor is ahead of the frames sent. -/
def SendPc.moved : SendPc → ℕ
  | storeSize msg _ => frameLen msg.len.toNat
  | _ => 0

/-- `1` between the two cursor updates of a receive. -/
def RecvPc.unpublished : RecvPc → ℕ
  | publish _ => 1
  | _ => 0

/-- `1` between the cursor update and the completion of a receive. -/
def RecvPc.unreported : RecvPc → ℕ
  | publish _ | complete _ => 1
  | _ => 0

/-- The posted receive of a call that has not moved past its message. -/
def RecvPc.posted : RecvPc → Option MsgQueueEntry
  | load entry _ => some entry
  | copyFirst c | zeroFirst c | copySecond c | zeroSecond c | advance c => some c.entry
  | _ => none

/-- The sizes a receive works with for the message `m`. -/
structure Sized (c : RecvCall) (m : List UInt8) : Prop where
  probed : c.probed.toNat = m.length
  readSize : c.locals.readSize.toNat = min c.entry.len.toNat m.length

/-- A receive that is reading the message `m` at the position `R`. -/
structure Reading (N R : ℕ) (c : RecvCall) (m : List UInt8) : Prop extends Sized c m where
  readPtr : c.locals.readPtr.toNat = R % N
  msgSize : c.locals.msgSize.toNat = m.length
  copySize : c.locals.copySize.toNat = min c.locals.readSize.toNat (N - (R % N + 8))

/-- The user buffer holds the first `n` bytes of the message. -/
def Filled (c : RecvCall) (m : List UInt8) (n : ℕ) : Prop :=
  ∀ i (hi : i < m.length), i < n → c.buf i = m[i]

/-- What holds of the local variables of the receiver at each place. -/
def RecvOk (N : ℕ) (sent : List (List UInt8)) (taken : List ℕ) : RecvPc → Prop
  | .idle => True
  | .load _ probed => ∃ m, sent[taken.length]? = some m ∧ probed.toNat = m.length
  | .copyFirst c => ∃ m, sent[taken.length]? = some m
      ∧ Reading N (framePos sent taken.length) c m
  | .zeroFirst c | .copySecond c => ∃ m, sent[taken.length]? = some m
      ∧ Reading N (framePos sent taken.length) c m ∧ Filled c m c.locals.copySize.toNat
  | .zeroSecond c | .advance c => ∃ m, sent[taken.length]? = some m
      ∧ Reading N (framePos sent taken.length) c m ∧ Filled c m c.locals.readSize.toNat
  | .publish c | .complete c => ∃ m, sent[taken.length - 1]? = some m
      ∧ taken[taken.length - 1]? = some c.locals.readSize.toNat ∧ Sized c m
      ∧ Filled c m c.locals.readSize.toNat

/-- What holds of a receive keeps holding when another frame is sent. -/
lemma RecvOk.append {N : ℕ} {sent : List (List UInt8)} {taken : List ℕ} {pc : RecvPc}
    (h : RecvOk N sent taken pc) (hle : taken.length ≤ sent.length) (l : List (List UInt8)) :
    RecvOk N (sent ++ l) taken pc := by
  have hget : ∀ {k : ℕ} {m : List UInt8}, sent[k]? = some m → (sent ++ l)[k]? = some m :=
    fun {k m} hm => by
      obtain ⟨hlt, -⟩ := List.getElem?_eq_some_iff.1 hm
      rw [List.getElem?_append_left hlt, hm]
  cases pc with
  | idle => trivial
  | load _ probed =>
      obtain ⟨m, hm, hrest⟩ := h
      exact ⟨m, hget hm, hrest⟩
  | copyFirst c | zeroFirst c | copySecond c | zeroSecond c | advance c =>
      obtain ⟨m, hm, hrest⟩ := h
      exact ⟨m, hget hm, by rw [framePos_append hle]; exact hrest⟩
  | publish c | complete c =>
      obtain ⟨m, hm, hrest⟩ := h
      exact ⟨m, hget hm, hrest⟩

/-- A completion reports the first `n` bytes of the message `m`. -/
structure Reports (c : RecvCompletion) (m : List UInt8) (n : ℕ) : Prop where
  data : c.data = m.take n
  len : c.len.toNat = n
  len_le : n ≤ m.length
  olen : c.len.toNat + c.olen.toNat = m.length
  err : c.err = .success ∧ n = m.length ∨ c.err = .etoosmall ∧ n < m.length

/-- No receive has cut off a byte other than zero. -/
def Harmless (sent : List (List UInt8)) (taken : List ℕ) : Prop :=
  ∀ (k : ℕ) (m : List UInt8) (n : ℕ), sent[k]? = some m → taken[k]? = some n →
    ∀ b ∈ m.drop n, b = 0

namespace Channel

/-- The invariant of a channel over a ring of size `S`. -/
structure Inv (S : UInt64) (s : Channel) : Prop where
  accepted : s.accepted = s.sent ++ (s.sendPc.msg.map MsgQueueEntry.bytes).toList
  sent_size : ∀ m ∈ s.sent, m.length + 8 ≤ S.toNat
  header_ptr : ∀ msg data, s.sendPc = .storeSize msg data →
    data.toNat = framePos s.sent s.sent.length % S.toNat
  room : framePos s.sent s.sent.length + s.sendPc.need ≤ framePos s.sent s.published + S.toNat
  write : s.write.toNat = (framePos s.sent s.sent.length + s.sendPc.moved) % (2 * S.toNat)
  read : s.read.toNat = framePos s.sent s.taken.length % (2 * S.toNat)
  remoteRead : s.remoteRead.toNat = framePos s.sent s.published % (2 * S.toNat)
  published : s.published + s.recvPc.unpublished = s.taken.length
  completed : s.completed.length + s.recvPc.unreported = s.taken.length
  recv : RecvOk S.toNat s.sent s.taken s.recvPc
  layout : Layout S.toNat s.ring s.sent s.taken.length s.recvPc.cleared s.sendPc.pend
    (s.sendPc.filled S.toNat (framePos s.sent s.sent.length)) (Harmless s.sent s.taken)
  reports : ∀ (k : ℕ) (c : RecvCompletion), s.completed[k]? = some c →
    ∃ m n, s.sent[k]? = some m ∧ s.taken[k]? = some n ∧ Reports c m n

variable {S : UInt64} {s s' : Channel}

theorem inv_init (hS : RingSize S) {ring : ByteMem} (hring : ∀ a < S.toNat, ring a = 0) :
    Inv S (init ring) where
  accepted := rfl
  sent_size := by simp [init]
  header_ptr := by simp [init]
  room := by simp [init, framePos, SendPc.need]
  write := by simp [init, framePos, SendPc.moved]
  read := by simp [init, framePos]
  remoteRead := by simp [init, framePos]
  published := rfl
  completed := rfl
  recv := trivial
  layout := by
    have h := Layout.init hring hS.pos
    exact { h with zero := fun _ => h.zero trivial }
  reports := by simp [init]

namespace Inv

lemma published_le (h : Inv S s) : s.published ≤ s.taken.length := by
  have := h.published
  omega

/-- The published position is at most the receiver's, which is at most the end. -/
lemma positions (h : Inv S s) :
    framePos s.sent s.published ≤ framePos s.sent s.taken.length
      ∧ framePos s.sent s.taken.length ≤ framePos s.sent s.sent.length :=
  ⟨framePos_mono h.published_le, framePos_mono h.layout.rel_le⟩

lemma header_room (hS : RingSize S) (sent : List (List UInt8)) (k : ℕ) :
    framePos sent k % S.toNat + 8 ≤ S.toNat :=
  mod_add_le_of_dvd hS.aligned hS.pos (dvd_framePos sent k)

/-- The address of the next frame, between calls of the sender and up to its
cursor update. -/
lemma data_toNat (h : Inv S s) (hmoved : s.sendPc.moved = 0) :
    (dataPtr s.write S).toNat = framePos s.sent s.sent.length % S.toNat := by
  have hw := h.write
  rw [hmoved, Nat.add_zero] at hw
  exact dataPtr_toNat hw

/-- A receiver between calls, or about to read, stands at the first unreleased
frame. -/
lemma readPtr_toNat (h : Inv S s) :
    (dataPtr s.read S).toNat = framePos s.sent s.taken.length % S.toNat :=
  dataPtr_toNat h.read

/-! ### The steps of the sender -/

/-- A call of `try_send` begins. -/
lemma beginSend (hS : RingSize S) (h : Inv S s) (hpc : s.sendPc = .idle) {msg : MsgQueueEntry}
    (hwrap : msg.Fits) : Inv S (s.beginSend S msg) := by
  rw [MsgQueueEntry.Fits] at hwrap
  rw [Channel.beginSend]
  split
  case isFalse => exact h
  case isTrue hspace =>
    obtain ⟨hPR, hRW⟩ := h.positions
    have hroom := h.room
    have hwrite := h.write
    have hlayout := h.layout
    have haccepted := h.accepted
    simp only [hpc, SendPc.need, SendPc.moved, SendPc.filled, SendPc.msg, Option.map_none,
      Option.toList_none, List.append_nil, Nat.add_zero] at hroom hwrite hlayout haccepted
    have hneed : (msg.len + bufferWord).toNat = msg.len.toNat + 8 := by
      simp only [bufferWord, UInt64.toNat_add, UInt64.toNat_ofNat, Nat.reducePow, Nat.reduceMod]
      omega
    have hle : msg.len.toNat + 8 ≤ S.toNat
        - (framePos s.sent s.sent.length - framePos s.sent s.published) := by
      rw [← remoteSpace_toNat hS.wordRing h.remoteRead hwrite (by omega) hroom, ← hneed]
      simpa [hasSpace, UInt64.le_iff_toNat_le] using hspace
    have hdvd : 8 ∣ S.toNat
        - (framePos s.sent s.sent.length - framePos s.sent s.published) :=
      Nat.dvd_sub hS.aligned (Nat.dvd_sub (dvd_framePos _ _) (dvd_framePos _ _))
    have hframe := frameLen_le_of_dvd hdvd hle
    refine { h with
      accepted := by simp [haccepted, SendPc.msg]
      header_ptr := by simp
      room := by simp only [SendPc.need]; omega
      write := by simpa [SendPc.moved] using hwrite
      layout := hlayout.begin _ }

/-- The first block of the payload starts behind the header word and ends at the
top of the ring. -/
lemma storeFirst_eq (hS : RingSize S) {W : ℕ} {write : UInt64} {ring : ByteMem}
    {msg : MsgQueueEntry} (hdata : (dataPtr write S).toNat = W % S.toNat)
    (htop : W % S.toNat + 8 ≤ S.toNat) :
    storeFirst write S ring msg = patch ring ((W + 8 + 0) % S.toNat)
      (min msg.len.toNat (S.toNat - (W % S.toNat + 8))) fun i => msg.buf (0 + i) := by
  obtain ⟨hpay, hbuf⟩ := payload_toNat hS.wordRing hdata htop
  rw [storeFirst, hpay, UInt64.toNat_min, hbuf, memcpy]
  rcases Nat.lt_or_ge (W % S.toNat + 8) S.toNat with hlt | hge
  · rw [Nat.add_zero, mod_add_of_lt hlt]
  · rw [show min msg.len.toNat (S.toNat - (W % S.toNat + 8)) = 0 by omega, patch_zero, patch_zero]

/-- The second block starts at the base of the ring and holds the rest. -/
lemma storeSecond_eq (hS : RingSize S) {W : ℕ} {write : UInt64} {ring : ByteMem}
    {msg : MsgQueueEntry} (hdata : (dataPtr write S).toNat = W % S.toNat)
    (htop : W % S.toNat + 8 ≤ S.toNat) :
    let filled := min msg.len.toNat (S.toNat - (W % S.toNat + 8))
    storeSecond write S ring msg = patch ring ((W + 8 + filled) % S.toNat)
      (msg.len.toNat - filled) fun i => msg.buf (filled + i) := by
  intro filled
  obtain ⟨-, hbuf⟩ := payload_toNat hS.wordRing hdata htop
  by_cases h : buftopSize (dataPtr write S) S < msg.len
  · have hlt := UInt64.lt_iff_toNat_lt.1 h
    have hle : buftopSize (dataPtr write S) S ≤ msg.len := UInt64.le_of_lt h
    have hfilled : filled = S.toNat - (W % S.toNat + 8) := by omega
    have hmod : (W + (8 + filled)) % S.toNat = 0 := by
      rcases Nat.lt_or_ge (8 + filled) (S.toNat + 1) with hfl | hfl
      · rw [mod_add_of_ge hS.pos (by omega) (by omega)]
        omega
      · omega
    rw [storeSecond, if_pos h, memcpy, UInt64.toNat_sub_of_le _ _ hle, hbuf, Nat.add_assoc, hmod,
      hfilled]
  · have hge : msg.len.toNat ≤ S.toNat - (W % S.toNat + 8) := by
      rw [UInt64.lt_iff_toNat_lt] at h
      omega
    rw [storeSecond, if_neg h, show msg.len.toNat - filled = 0 by omega, patch_zero]

lemma storeFirst (hS : RingSize S) (h : Inv S s) {msg : MsgQueueEntry}
    (hpc : s.sendPc = .storeFirst msg) :
    Inv S { s with ring := DpaProvider.storeFirst s.write S s.ring msg,
                   sendPc := .storeSecond msg } := by
  obtain ⟨hPR, hRW⟩ := h.positions
  have htop := header_room hS s.sent s.sent.length
  have hdata := h.data_toNat (by rw [hpc]; rfl)
  have hlen := le_frameLen msg.len.toNat
  have hroom := h.room
  have hwrite := h.write
  have hlayout := h.layout
  have haccepted := h.accepted
  simp only [hpc, SendPc.need, SendPc.moved, SendPc.filled, SendPc.pend, SendPc.msg]
    at hroom hwrite hlayout haccepted
  refine { h with
    accepted := haccepted
    header_ptr := by simp
    room := hroom
    write := hwrite
    layout := ?_ }
  rw [storeFirst_eq hS hdata htop]
  have hstore := hlayout.store (n := min msg.len.toNat (S.toNat - (framePos s.sent s.sent.length
      % S.toNat + 8))) (f := fun i => msg.buf (0 + i)) (by simp)
    (fun i hi => msg.getElem_bytes hi) (by omega) ?_
  · simp only [Nat.zero_add] at hstore ⊢
    exact hstore
  · rcases Nat.lt_or_ge (framePos s.sent s.sent.length % S.toNat + 8) S.toNat with hlt | hge
    · rw [Nat.add_zero, mod_add_of_lt hlt]
      omega
    · have := Nat.mod_lt (framePos s.sent s.sent.length + 8 + 0) hS.pos
      omega

lemma storeSecond (hS : RingSize S) (h : Inv S s) {msg : MsgQueueEntry}
    (hpc : s.sendPc = .storeSecond msg) :
    Inv S { s with ring := DpaProvider.storeSecond s.write S s.ring msg,
                   sendPc := .advance msg } := by
  obtain ⟨hPR, hRW⟩ := h.positions
  have htop := header_room hS s.sent s.sent.length
  have hdata := h.data_toNat (by rw [hpc]; rfl)
  have hlen := le_frameLen msg.len.toNat
  have hroom := h.room
  have hwrite := h.write
  have hlayout := h.layout
  have haccepted := h.accepted
  simp only [hpc, SendPc.need, SendPc.moved, SendPc.filled, SendPc.pend, SendPc.msg]
    at hroom hwrite hlayout haccepted
  refine { h with
    accepted := haccepted
    header_ptr := by simp
    room := hroom
    write := hwrite
    layout := ?_ }
  rw [storeSecond_eq hS hdata htop]
  set filled := min msg.len.toNat (S.toNat - (framePos s.sent s.sent.length % S.toNat + 8))
  have hfilled : filled + (msg.len.toNat - filled) = msg.len.toNat := by omega
  have hstore := hlayout.store (n := msg.len.toNat - filled) (f := fun i => msg.buf (filled + i))
    (by rw [hfilled, MsgQueueEntry.bytes_length]) (fun i hi => msg.getElem_bytes hi) (by omega) ?_
  · rw [hfilled] at hstore
    exact hstore
  · rcases Nat.lt_or_ge (framePos s.sent s.sent.length % S.toNat + 8 + filled) S.toNat
      with hlt | hge
    · rw [Nat.add_assoc, mod_add_of_lt (by omega)]
      omega
    · -- the first block reached the top, so this one starts at the base
      rw [Nat.add_assoc, mod_add_of_ge hS.pos (by omega) (by omega)]
      omega

/-- The sender moves its cursor before it stores the header word. -/
lemma advanceSend (hS : RingSize S) (h : Inv S s) {msg : MsgQueueEntry}
    (hpc : s.sendPc = .advance msg) :
    Inv S { s with write := newOffset s.write msg.len S,
                   sendPc := .storeSize msg (dataPtr s.write S) } := by
  obtain ⟨hPR, hRW⟩ := h.positions
  have hdata := h.data_toNat (by rw [hpc]; rfl)
  have hlen := le_frameLen msg.len.toNat
  have hroom := h.room
  have hwrite := h.write
  have hlayout := h.layout
  have haccepted := h.accepted
  simp only [hpc, SendPc.need, SendPc.moved, SendPc.filled, SendPc.pend, SendPc.msg,
    Nat.add_zero] at hroom hwrite hlayout haccepted
  refine { h with
    accepted := haccepted
    header_ptr := ?_
    room := hroom
    write := newOffset_toNat hS.wordRing (dvd_framePos _ _) hwrite (by omega)
    layout := hlayout }
  intro msg' data hmsg
  obtain ⟨-, rfl⟩ : msg = msg' ∧ dataPtr s.write S = data := by simpa using hmsg
  exact hdata

/-- A call that clears bytes of the first frame has one to clear. -/
lemma cleared_eq_zero (h : Inv S s) (hrel : s.taken.length = s.sent.length) :
    s.recvPc.cleared = 0 := by
  have hrecv := h.recv
  have hnone : ∀ m, s.sent[s.taken.length]? ≠ some m := fun m hm => by
    obtain ⟨hlt, -⟩ := List.getElem?_eq_some_iff.1 hm
    omega
  cases hpc : s.recvPc with
  | copySecond c | zeroSecond c | advance c =>
      rw [hpc] at hrecv
      obtain ⟨m, hm, -⟩ := hrecv
      exact absurd hm (hnone m)
  | _ => rfl

/-- The sender stores the header word; the frame is sent. -/
lemma storeSize (hS : RingSize S) (h : Inv S s) {msg : MsgQueueEntry} {data : UInt64}
    (hpc : s.sendPc = .storeSize msg data) :
    Inv S { s with ring := storeWord s.ring data.toNat msg.len, sendPc := .idle,
                   sent := s.sent ++ [msg.bytes] } := by
  obtain ⟨hPR, hRW⟩ := h.positions
  have htop := header_room hS s.sent s.sent.length
  have hdata := h.header_ptr msg data hpc
  have hlen := le_frameLen msg.len.toNat
  have hroom := h.room
  have hwrite := h.write
  have hlayout := h.layout
  have haccepted := h.accepted
  simp only [hpc, SendPc.need, SendPc.moved, SendPc.filled, SendPc.pend, SendPc.msg,
    Option.map_some, Option.toList_some] at hroom hwrite hlayout haccepted
  have hword : msg.len = UInt64.ofNat msg.bytes.length := by simp
  have hend : framePos (s.sent ++ [msg.bytes]) (s.sent ++ [msg.bytes]).length
      = framePos s.sent s.sent.length + frameLen msg.len.toNat := by
    rw [List.length_append, List.length_singleton, framePos_succ (m := msg.bytes) (by simp),
      framePos_append (Nat.le_refl _), MsgQueueEntry.bytes_length]
  have htaken := h.layout.rel_le
  have hpub : s.published ≤ s.sent.length := h.published_le.trans htaken
  refine { h with
    accepted := by simp [haccepted, SendPc.msg]
    sent_size := ?_
    header_ptr := by simp
    room := by rw [hend, framePos_append hpub]; simpa [SendPc.need] using hroom
    write := by rw [hend, hwrite]; rfl
    read := by rw [framePos_append htaken]; exact h.read
    remoteRead := by rw [framePos_append hpub]; exact h.remoteRead
    recv := h.recv.append htaken _
    layout := ?_
    reports := ?_ }
  · intro m hm
    rcases List.mem_append.1 hm with hm | hm
    · exact h.sent_size m hm
    · obtain rfl := List.mem_singleton.1 hm
      rw [MsgQueueEntry.bytes_length]
      omega
  · rw [hdata, hword]
    refine (Layout.commit (by simpa using hlayout) h.cleared_eq_zero ?_ htop).imp ?_
    · rw [MsgQueueEntry.bytes_length]
      omega
    · exact fun hharm k m n hm hn => hharm k m n (by
        obtain ⟨hlt, -⟩ := List.getElem?_eq_some_iff.1 hm
        rw [List.getElem?_append_left hlt]
        exact hm) hn
  · intro k c hc
    obtain ⟨m, n, hm, hn, hrep⟩ := h.reports k c hc
    obtain ⟨hlt, -⟩ := List.getElem?_eq_some_iff.1 hm
    exact ⟨m, n, by rw [List.getElem?_append_left hlt]; exact hm, hn, hrep⟩

/-! ### The steps of the receiver -/

/-- A call of `try_recv` begins. -/
lemma beginRecv (hS : RingSize S) (h : Inv S s) (hpc : s.recvPc = .idle)
    (hharm : Harmless s.sent s.taken) (entry : MsgQueueEntry) :
    Inv S (s.beginRecv S entry) := by
  have hptr := h.readPtr_toNat
  have htop := header_room hS s.sent s.taken.length
  have hlayout := h.layout
  have hpub := h.published
  have hcomp := h.completed
  simp only [hpc, RecvPc.cleared, RecvPc.unpublished, RecvPc.unreported] at hlayout hpub hcomp
  rw [Channel.beginRecv, hptr]
  rcases Nat.eq_or_lt_of_le h.layout.rel_le with heq | hlt
  · rw [hlayout.header_empty hharm heq htop (by have := hS.two_words; omega),
      if_pos (UInt64.le_refl 0)]
    exact h
  · obtain ⟨m, hm⟩ : ∃ m, s.sent[s.taken.length]? = some m :=
      ⟨_, List.getElem?_eq_getElem hlt⟩
    have hfit := h.sent_size m (List.mem_of_getElem? hm)
    have hSlt := S.toNat_lt
    have hsize : (UInt64.ofNat m.length).toNat = m.length := by
      rw [UInt64.toNat_ofNat', Nat.mod_eq_of_lt (by omega)]
    rw [hlayout.header hm htop]
    split
    · exact h
    · exact { h with
        published := hpub
        completed := hcomp
        recv := ⟨m, hm, hsize⟩
        layout := hlayout }

/-- `read_msg` loads the header word again and sizes its copies. -/
lemma load (hS : RingSize S) (h : Inv S s) {entry : MsgQueueEntry} {probed : UInt64}
    (hpc : s.recvPc = .load entry probed) :
    let locals := readLocals s.read S s.ring entry
    Inv S { s with recvPc := .copyFirst { entry, probed, locals, buf := entry.buf } } := by
  intro locals
  have hptr := h.readPtr_toNat
  have htop := header_room hS s.sent s.taken.length
  have hlayout := h.layout
  have hpub := h.published
  have hcomp := h.completed
  have hrecv := h.recv
  simp only [hpc, RecvPc.cleared, RecvPc.unpublished, RecvPc.unreported, RecvOk]
    at hlayout hpub hcomp hrecv
  obtain ⟨m, hm, hprobed⟩ := hrecv
  have hsize : (loadWord s.ring (dataPtr s.read S).toNat).toNat = m.length := by
    have hfit := h.sent_size m (List.mem_of_getElem? hm)
    have hSlt := S.toNat_lt
    rw [hptr, hlayout.header hm htop, UInt64.toNat_ofNat', Nat.mod_eq_of_lt (by omega)]
  obtain ⟨-, hbuf⟩ := payload_toNat hS.wordRing hptr htop
  refine { h with
    published := hpub
    completed := hcomp
    recv := ⟨m, hm, ⟨hprobed, ?_⟩, hptr, hsize, ?_⟩
    layout := hlayout }
  · simp only [locals, readLocals, UInt64.toNat_min, hsize]
  · simp only [locals, readLocals, UInt64.toNat_min, hbuf]

/-- The sizes of a receive in progress: nothing is copied past the message, and
the first block ends below the top of the ring. -/
lemma reading_bounds {N R : ℕ} {c : RecvCall} {m : List UInt8} (h : Reading N R c m)
    (htop : R % N + 8 ≤ N) :
    c.locals.copySize.toNat ≤ c.locals.readSize.toNat ∧ c.locals.readSize.toNat ≤ m.length
      ∧ R % N + (8 + c.locals.copySize.toNat) ≤ N := by
  have hread := h.readSize
  have hcopy := h.copySize
  omega

/-- What is left after the first block starts at the base of the ring. -/
lemma reading_rest {N R : ℕ} {c : RecvCall} {m : List UInt8} (h : Reading N R c m)
    (htop : R % N + 8 ≤ N) (hfit : m.length + 8 ≤ N)
    (hlt : c.locals.copySize < c.locals.readSize) {i : ℕ} (hi : i + 8 < N) :
    (R + 8 + c.locals.copySize.toNat) % N = 0
      ∧ (c.locals.copySize.toNat ≤ i → (R + 8 + i) % N = i - c.locals.copySize.toNat) := by
  have hcopy := h.copySize
  have hlt' := UInt64.lt_iff_toNat_lt.1 hlt
  have hreadle := h.readSize
  constructor
  · rw [Nat.add_assoc, mod_add_of_ge (by omega) (by omega) (by omega)]
    omega
  · intro hci
    rw [Nat.add_assoc, mod_add_of_ge (by omega) (by omega) (by omega)]
    omega

lemma copyFirst (hS : RingSize S) (h : Inv S s) {c : RecvCall} (hpc : s.recvPc = .copyFirst c) :
    let buf := DpaProvider.copyFirst c.locals s.ring c.buf
    Inv S { s with recvPc := .zeroFirst { c with buf } } := by
  intro buf
  have htop := header_room hS s.sent s.taken.length
  have hlayout := h.layout
  have hpub := h.published
  have hcomp := h.completed
  have hrecv := h.recv
  simp only [hpc, RecvPc.cleared, RecvPc.unpublished, RecvPc.unreported, RecvOk]
    at hlayout hpub hcomp hrecv
  obtain ⟨m, hm, hreading⟩ := hrecv
  obtain ⟨-, -, hblock⟩ := reading_bounds hreading htop
  obtain ⟨hpay, -⟩ := payload_toNat hS.wordRing hreading.readPtr htop
  refine { h with
    published := hpub
    completed := hcomp
    recv := ⟨m, hm, { hreading with }, fun i hi hi' => ?_⟩
    layout := hlayout }
  have hbyte := hlayout.payload_first hm hi (Nat.zero_le _)
  have hi'' : i < c.locals.copySize.toNat := hi'
  rw [at_, Nat.add_assoc, mod_add_of_lt (by omega)] at hbyte
  change DpaProvider.copyFirst c.locals s.ring c.buf i = m[i]
  rw [DpaProvider.copyFirst, memcpy, patch_apply_of_mem (Nat.zero_le _) (by omega), hpay,
    Nat.sub_zero, Nat.add_assoc]
  exact hbyte

lemma zeroFirst (hS : RingSize S) (h : Inv S s) {c : RecvCall} (hpc : s.recvPc = .zeroFirst c) :
    Inv S { s with ring := DpaProvider.zeroFirst c.locals s.ring, recvPc := .copySecond c } := by
  have htop := header_room hS s.sent s.taken.length
  have hlayout := h.layout
  have hpub := h.published
  have hcomp := h.completed
  have hrecv := h.recv
  simp only [hpc, RecvPc.cleared, RecvPc.unpublished, RecvPc.unreported, RecvOk]
    at hlayout hpub hcomp hrecv
  obtain ⟨m, hm, hreading, hfilled⟩ := hrecv
  obtain ⟨hcr, hrm, hblock⟩ := reading_bounds hreading htop
  have hfit := h.sent_size m (List.mem_of_getElem? hm)
  have hSlt := S.toNat_lt
  have hsum : (bufferWord + c.locals.copySize).toNat = 8 + c.locals.copySize.toNat := by
    simp only [bufferWord, UInt64.toNat_add, UInt64.toNat_ofNat, Nat.reducePow, Nat.reduceMod]
    omega
  refine { h with
    published := hpub
    completed := hcomp
    recv := ⟨m, hm, hreading, hfilled⟩
    layout := ?_ }
  have hclear := hlayout.clear (n := 8 + c.locals.copySize.toNat) hm (by omega)
    (by rw [Nat.add_zero]; exact hblock)
  rw [Nat.add_zero, Nat.zero_add] at hclear
  change Layout _ (DpaProvider.zeroFirst c.locals s.ring) _ _ _ _ _ _
  rw [DpaProvider.zeroFirst, hreading.readPtr, hsum]
  exact hclear

lemma copySecond (hS : RingSize S) (h : Inv S s) {c : RecvCall}
    (hpc : s.recvPc = .copySecond c) :
    let buf := DpaProvider.copySecond c.locals s.ring c.buf
    Inv S { s with recvPc := .zeroSecond { c with buf } } := by
  intro buf
  have htop := header_room hS s.sent s.taken.length
  have hlayout := h.layout
  have hpub := h.published
  have hcomp := h.completed
  have hrecv := h.recv
  simp only [hpc, RecvPc.cleared, RecvPc.unpublished, RecvPc.unreported, RecvOk]
    at hlayout hpub hcomp hrecv
  obtain ⟨m, hm, hreading, hfilled⟩ := hrecv
  obtain ⟨hcr, hrm, hblock⟩ := reading_bounds hreading htop
  have hfit := h.sent_size m (List.mem_of_getElem? hm)
  refine { h with
    published := hpub
    completed := hcomp
    recv := ⟨m, hm, { hreading with }, fun i hi hi' => ?_⟩
    layout := hlayout }
  have hi'' : i < c.locals.readSize.toNat := hi'
  change DpaProvider.copySecond c.locals s.ring c.buf i = m[i]
  rw [DpaProvider.copySecond]
  by_cases hlt : c.locals.copySize < c.locals.readSize
  · have hle : c.locals.copySize ≤ c.locals.readSize := UInt64.le_of_lt hlt
    rw [if_pos hlt, memcpy, UInt64.toNat_sub_of_le _ _ hle]
    by_cases hci : c.locals.copySize.toNat ≤ i
    · have hbyte := hlayout.payload_first hm hi (by omega)
      rw [at_, (reading_rest hreading htop hfit hlt (i := i) (by omega)).2 hci] at hbyte
      rw [patch_apply_of_mem hci (by omega), Nat.zero_add]
      exact hbyte
    · rw [patch_apply_of_notMem (by omega)]
      exact hfilled i hi (by omega)
  · rw [if_neg hlt]
    rw [UInt64.lt_iff_toNat_lt] at hlt
    exact hfilled i hi (by omega)

lemma zeroSecond (hS : RingSize S) (h : Inv S s) {c : RecvCall}
    (hpc : s.recvPc = .zeroSecond c) :
    Inv S { s with ring := DpaProvider.zeroSecond c.locals s.ring, recvPc := .advance c } := by
  have htop := header_room hS s.sent s.taken.length
  have hlayout := h.layout
  have hpub := h.published
  have hcomp := h.completed
  have hrecv := h.recv
  simp only [hpc, RecvPc.cleared, RecvPc.unpublished, RecvPc.unreported, RecvOk]
    at hlayout hpub hcomp hrecv
  obtain ⟨m, hm, hreading, hfilled⟩ := hrecv
  obtain ⟨hcr, hrm, hblock⟩ := reading_bounds hreading htop
  have hfit := h.sent_size m (List.mem_of_getElem? hm)
  refine { h with
    published := hpub
    completed := hcomp
    recv := ⟨m, hm, hreading, hfilled⟩
    layout := ?_ }
  change Layout _ (DpaProvider.zeroSecond c.locals s.ring) _ _ (8 + c.locals.readSize.toNat) _ _ _
  rw [DpaProvider.zeroSecond]
  by_cases hlt : c.locals.copySize < c.locals.readSize
  · have hle : c.locals.copySize ≤ c.locals.readSize := UInt64.le_of_lt hlt
    obtain ⟨hbase, -⟩ := reading_rest hreading htop hfit hlt (i := 0)
      (by have := hS.two_words; omega)
    have hclear := hlayout.clear (n := c.locals.readSize.toNat - c.locals.copySize.toNat) hm
      (by omega) (by rw [← Nat.add_assoc, hbase]; omega)
    rw [← Nat.add_assoc, hbase,
      show 8 + c.locals.copySize.toNat + (c.locals.readSize.toNat - c.locals.copySize.toNat)
        = 8 + c.locals.readSize.toNat by omega] at hclear
    rw [if_pos hlt, UInt64.toNat_sub_of_le _ _ hle]
    exact hclear
  · have heq : c.locals.readSize.toNat = c.locals.copySize.toNat := by
      rw [UInt64.lt_iff_toNat_lt] at hlt
      omega
    rw [if_neg hlt, heq]
    exact hlayout

/-- The receiver moves its cursor past the message. -/
lemma advanceRecv (hS : RingSize S) (h : Inv S s) {c : RecvCall}
    (hpc : s.recvPc = .advance c) :
    Inv S { s with read := newOffset s.read c.locals.msgSize S, recvPc := .publish c,
                   taken := s.taken ++ [c.locals.readSize.toNat] } := by
  have hlayout := h.layout
  have hpub := h.published
  have hcomp := h.completed
  have hrecv := h.recv
  simp only [hpc, RecvPc.cleared, RecvPc.unpublished, RecvPc.unreported, RecvOk]
    at hlayout hpub hcomp hrecv
  obtain ⟨m, hm, hreading, hfilled⟩ := hrecv
  have hfit := h.sent_size m (List.mem_of_getElem? hm)
  have hsize := hreading.msgSize
  have hlast : (s.taken ++ [c.locals.readSize.toNat]).length - 1 = s.taken.length := by simp
  have hnext : (newOffset s.read c.locals.msgSize S).toNat = _ :=
    newOffset_toNat hS.wordRing (dvd_framePos s.sent s.taken.length) h.read (by omega)
  refine { h with
    read := ?_
    published := ?_
    completed := ?_
    recv := ⟨m, by rw [hlast]; exact hm, by rw [hlast]; simp, hreading.toSized, hfilled⟩
    layout := ?_
    reports := ?_ }
  · rw [hnext, hsize, ← framePos_succ hm]
    simp
  · simpa [RecvPc.unpublished] using hpub
  · simpa [RecvPc.unreported] using hcomp
  · have hclean : Harmless s.sent (s.taken ++ [c.locals.readSize.toNat]) →
        Harmless s.sent s.taken ∧ ∀ b ∈ m.drop c.locals.readSize.toNat, b = 0 := fun hharm =>
      ⟨fun k m' n hm' hn => hharm k m' n hm' (by
        obtain ⟨hlt, -⟩ := List.getElem?_eq_some_iff.1 hn
        rw [List.getElem?_append_left hlt]
        exact hn), hharm _ m _ hm (by simp)⟩
    rw [List.length_append, List.length_singleton]
    exact hlayout.release hm rfl hclean
  · intro k c' hc'
    obtain ⟨m', n, hm', hn, hrep⟩ := h.reports k c' hc'
    obtain ⟨hlt, -⟩ := List.getElem?_eq_some_iff.1 hn
    exact ⟨m', n, hm', by rw [List.getElem?_append_left hlt]; exact hn, hrep⟩

/-- The receiver publishes its cursor; the sender gains the room of the frame. -/
lemma publish (h : Inv S s) {c : RecvCall} (hpc : s.recvPc = .publish c) :
    Inv S { s with remoteRead := s.read, published := s.published + 1,
                   recvPc := .complete c } := by
  have hlayout := h.layout
  have hpub := h.published
  have hcomp := h.completed
  have hrecv := h.recv
  simp only [hpc, RecvPc.cleared, RecvPc.unpublished, RecvPc.unreported, RecvOk]
    at hlayout hpub hcomp hrecv
  have hroom := h.room
  have hmono := framePos_le_succ s.sent s.published
  refine { h with
    room := hroom.trans (Nat.add_le_add_right hmono _)
    remoteRead := by rw [hpub]; exact h.read
    published := hpub
    completed := hcomp
    recv := hrecv
    layout := hlayout }

/-- The completion of a receive reports what it has copied. -/
lemma reports_completion {c : RecvCall} {m : List UInt8} (hsized : Sized c m)
    (hfilled : Filled c m c.locals.readSize.toNat) :
    Reports c.completion m c.locals.readSize.toNat := by
  have hread := hsized.readSize
  have hprobed := hsized.probed
  have hle : c.locals.readSize ≤ c.probed := by
    rw [UInt64.le_iff_toNat_le]
    omega
  refine ⟨?_, rfl, by omega, ?_, ?_⟩
  · refine slice_eq_of_getElem (by rw [List.length_take]; omega) fun i hi => ?_
    rw [List.length_take] at hi
    rw [Nat.zero_add, List.getElem_take]
    exact hfilled i (by omega) (by omega)
  · simp only [RecvCall.completion, UInt64.toNat_sub_of_le _ _ hle]
    omega
  · simp only [RecvCall.completion]
    by_cases hlt : c.locals.readSize < c.probed
    · rw [if_pos hlt]
      rw [UInt64.lt_iff_toNat_lt] at hlt
      exact Or.inr ⟨rfl, by omega⟩
    · rw [if_neg hlt]
      rw [UInt64.lt_iff_toNat_lt] at hlt
      exact Or.inl ⟨rfl, by omega⟩

lemma complete (h : Inv S s) {c : RecvCall} (hpc : s.recvPc = .complete c) :
    Inv S { s with completed := s.completed ++ [c.completion], recvPc := .idle } := by
  have hlayout := h.layout
  have hpub := h.published
  have hcomp := h.completed
  have hrecv := h.recv
  simp only [hpc, RecvPc.cleared, RecvPc.unpublished, RecvPc.unreported, RecvOk]
    at hlayout hpub hcomp hrecv
  obtain ⟨m, hm, htaken, hsized, hfilled⟩ := hrecv
  have hlast : s.completed.length = s.taken.length - 1 := by omega
  refine { h with
    published := hpub
    completed := by simpa [RecvPc.unreported] using hcomp
    recv := trivial
    layout := hlayout
    reports := ?_ }
  intro k c' hc'
  rcases Nat.lt_or_ge k s.completed.length with hlt | hge
  · rw [List.getElem?_append_left hlt] at hc'
    exact h.reports k c' hc'
  · obtain ⟨hk, -⟩ := List.getElem?_eq_some_iff.1 hc'
    obtain rfl : k = s.completed.length := by simp at hk; omega
    obtain rfl : c.completion = c' := by simpa using hc'
    rw [hlast]
    exact ⟨m, _, hm, htaken, reports_completion hsized hfilled⟩

/-! ### One step -/

lemma sendStep (hS : RingSize S) (h : Inv S s) (hstep : s.sendStep S = some s') : Inv S s' := by
  cases hpc : s.sendPc with
  | idle => simp [Channel.sendStep, hpc] at hstep
  | storeFirst msg =>
      obtain rfl : _ = s' := by simpa only [Channel.sendStep, hpc, Option.some.injEq] using hstep
      exact h.storeFirst hS hpc
  | storeSecond msg =>
      obtain rfl : _ = s' := by simpa only [Channel.sendStep, hpc, Option.some.injEq] using hstep
      exact h.storeSecond hS hpc
  | advance msg =>
      obtain rfl : _ = s' := by simpa only [Channel.sendStep, hpc, Option.some.injEq] using hstep
      exact h.advanceSend hS hpc
  | storeSize msg data =>
      obtain rfl : _ = s' := by simpa only [Channel.sendStep, hpc, Option.some.injEq] using hstep
      exact h.storeSize hS hpc

lemma recvStep (hS : RingSize S) (h : Inv S s) (hstep : s.recvStep S = some s') : Inv S s' := by
  cases hpc : s.recvPc with
  | idle => simp [Channel.recvStep, hpc] at hstep
  | load entry probed =>
      obtain rfl : _ = s' := by simpa only [Channel.recvStep, hpc, Option.some.injEq] using hstep
      exact h.load hS hpc
  | copyFirst c =>
      obtain rfl : _ = s' := by simpa only [Channel.recvStep, hpc, Option.some.injEq] using hstep
      exact h.copyFirst hS hpc
  | zeroFirst c =>
      obtain rfl : _ = s' := by simpa only [Channel.recvStep, hpc, Option.some.injEq] using hstep
      exact h.zeroFirst hS hpc
  | copySecond c =>
      obtain rfl : _ = s' := by simpa only [Channel.recvStep, hpc, Option.some.injEq] using hstep
      exact h.copySecond hS hpc
  | zeroSecond c =>
      obtain rfl : _ = s' := by simpa only [Channel.recvStep, hpc, Option.some.injEq] using hstep
      exact h.zeroSecond hS hpc
  | advance c =>
      obtain rfl : _ = s' := by simpa only [Channel.recvStep, hpc, Option.some.injEq] using hstep
      exact h.advanceRecv hS hpc
  | publish c =>
      obtain rfl : _ = s' := by simpa only [Channel.recvStep, hpc, Option.some.injEq] using hstep
      exact h.publish hpc
  | complete c =>
      obtain rfl : _ = s' := by simpa only [Channel.recvStep, hpc, Option.some.injEq] using hstep
      exact h.complete hpc

end Inv

/-- What the invariant asks of the calls that begin. -/
def CallOk (s : Channel) : Act → Prop
  | .trySend msg => msg.Fits
  | .tryRecv _ => Harmless s.sent s.taken
  | _ => True

/-- Every step of either side keeps the invariant. -/
theorem Inv.step (hS : RingSize S) (h : Inv S s) {a : Act} (hcall : CallOk s a)
    (hstep : Channel.step S s a = some s') : Inv S s' := by
  cases a with
  | trySend msg =>
      cases hpc : s.sendPc with
      | idle =>
          obtain rfl : _ = s' := by simpa only [Channel.step, hpc, Option.some.injEq] using hstep
          exact h.beginSend hS hpc hcall
      | _ => simp [Channel.step, hpc] at hstep
  | sendStep => exact h.sendStep hS hstep
  | tryRecv entry =>
      cases hpc : s.recvPc with
      | idle =>
          obtain rfl : _ = s' := by simpa only [Channel.step, hpc, Option.some.injEq] using hstep
          exact h.beginRecv hS hpc hcall entry
      | _ => simp [Channel.step, hpc] at hstep
  | recvStep => exact h.recvStep hS hstep

/-- The invariant holds along every run whose calls meet `CallOk`. -/
theorem inv_run (hS : RingSize S) {ring : ByteMem} (hring : ∀ a < S.toNat, ring a = 0)
    {acts : List Act} (hcalls : Stepper.Meets (Channel.step S) CallOk (init ring) acts)
    (hrun : Stepper.run (Channel.step S) (init ring) acts = some s) : Inv S s :=
  Stepper.run_induction (fun _ _ _ h hcall hstep => h.step hS hcall hstep)
    (inv_init hS hring) hcalls hrun

end Channel

end DpaProvider
