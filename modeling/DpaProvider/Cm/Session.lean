import DpaProvider.Cm.Agreement
import DpaProvider.Msg.Transport

/-!
From a handshake to the transport of messages.

A segment is zeroed when it is created, and a buffer that was reserved never becomes free again.  So
no free buffer has anything in its ring (`Blank`), and the ring that an endpoint reserves is zero.
Two endpoints that agree after a handshake (`agreement`) are then ready for each other: each of them
is wired to the ring of the other, the cursors and the rings are zero (`Sound.start`), and what
their applications post from then on is transported (`Handshake.carried`).
-/

namespace DpaProvider

open ByteMem Effect

namespace Site

variable {s t : Site} {data data' : SegmentData} {err : DpaError} {i j : ℕ} {a : Unit}

/-! ### Rings that nobody has written to -/

/-- No free buffer has anything in its ring. -/
def Blank (s : Site) : Prop :=
  ∀ i, s.Created i → ∀ j, (s.bufferAt i j).size = 0 →
    (s.host.mem (s.bufferAt i j).base).data = fun _ => 0

/-- A buffer that is reserved stays so, if its size is not zero. -/
def blank : Frame Site where
  rel s t := t.env = s.env ∧ (s.env.alignedBufferSize ≠ 0 → s.Blank → t.Blank)
  refl _ := ⟨rfl, fun _ => id⟩
  trans _ _ _ h h' := ⟨h'.1.trans h.1, fun hsize hblank =>
    h'.2 (h.1 ▸ hsize) (h.2 hsize hblank)⟩

lemma ignores_blank {part : Part} (htable : part ≠ .table) (hmemory : part ≠ .memory) :
    Ignores blank part := by
  intro s x
  cases part with
  | table => exact absurd rfl htable
  | memory => exact absurd rfl hmemory
  | _ => exact ⟨rfl, fun _ => id⟩

/-- A new segment is zeroed, and the memory of the others is left alone. -/
lemma dpaAllocSegment_mem {segmentId : UInt32} {size : UInt64}
    (hrun : dpaAllocSegment i segmentId size s = .ok (err, t)) :
    t.host.mem = s.host.mem ∧ err ≠ .ok
      ∨ t.host.mem = fun loc => if loc.node = s.env.localNodeId ∧ loc.segment = segmentId
          then ⟨0, fun _ => 0⟩ else s.host.mem loc := by
  simp only [dpaAllocSegment, setSegment, modify_bind, lib_bind, ite_run, setHost_bind,
    get_bind] at hrun
  split_ifs at hrun with hopen hcreate hprepare hmap
  case neg =>
      obtain ⟨-, rfl⟩ := Prod.mk.inj (Except.ok.inj hrun)
      exact .inr rfl
  all_goals
    obtain ⟨rfl, rfl⟩ := Prod.mk.inj (Except.ok.inj hrun)
    exact .inl ⟨rfl, by assumption⟩

/-- The buffers of a segment that was created are zero. -/
lemma createDataSegment_mem (hrun : createDataSegment i s = .ok (a, t)) :
    (∀ loc, t.host.mem loc = s.host.mem loc ∨ t.host.mem loc = ⟨0, fun _ => 0⟩)
      ∧ (t.Created i → ∀ j, t.host.mem (t.bufferAt i j).base = ⟨0, fun _ => 0⟩) := by
  rw [createDataSegment, get_bind] at hrun
  obtain ⟨err, s₁, halloc, hrun⟩ := run_bind_ok hrun
  have hmem (loc : BufferLoc) :
      s₁.host.mem loc = s.host.mem loc ∨ s₁.host.mem loc = ⟨0, fun _ => 0⟩ := by
    rcases dpaAllocSegment_mem halloc with ⟨hkept, -⟩ | hzeroed
    · exact .inl (congrFun hkept loc)
    · rw [hzeroed]
      exact (ite_eq_or_eq _ _ _).symm
  rw [ite_run] at hrun
  split at hrun
  case isTrue =>
      rw [get_bind] at hrun
      obtain ⟨err', s₂, hdestroy, hrun⟩ := run_bind_ok hrun
      have hkept : s₂.host.mem = s₁.host.mem :=
        keeps_dpaDestroySegment (F := .same fun s => s.host.mem) (fun _ _ => rfl) _ _ _ _ hdestroy
      obtain ⟨-, rfl⟩ := Prod.mk.inj (Except.ok.inj hrun)
      refine ⟨fun loc => hkept ▸ hmem loc, fun hcreated => absurd ?_ hcreated⟩
      simp
  case isFalse hok =>
      obtain ⟨_, s₂, hset, hrun⟩ := run_bind_ok hrun
      obtain ⟨-, rfl⟩ := Prod.mk.inj (Except.ok.inj hset)
      obtain ⟨-, rfl⟩ := Prod.mk.inj (Except.ok.inj hrun)
      refine ⟨hmem, fun _ j => ?_⟩
      obtain ⟨hid, -⟩ := dpaAllocSegment_segmentId halloc
      rcases dpaAllocSegment_mem halloc with ⟨-, hfails⟩ | hzeroed
      · exact absurd (not_not.1 hok) hfails
      · simp only [bufferAt, Function.update_self, hzeroed, hid]
        rw [if_pos (by exact ⟨trivial, trivial⟩)]

lemma blank_createDataSegment (i : ℕ) : Keeps blank (createDataSegment i) := by
  intro s a t hrun
  obtain ⟨henv, -, hother⟩ := entry_createDataSegment s a t hrun
  obtain ⟨hmem, hnew⟩ := createDataSegment_mem hrun
  refine ⟨henv, fun _ hblank k hk j hfree => ?_⟩
  rcases eq_or_ne k i with rfl | hne
  · rw [hnew hk j]
  · rw [Created, hother k hne] at hk
    rw [bufferAt, hother k hne] at hfree ⊢
    rcases hmem (s.bufferAt k j).base with hkept | hzeroed
    · exact (congrArg RingBuffer.data hkept).trans (hblank k hk j hfree)
    · exact congrArg RingBuffer.data hzeroed

lemma storeWord_zeros (a : ℕ) : storeWord (fun _ => 0) a 0 = fun _ => 0 := by
  funext i
  simp [storeWord, patch]

lemma mem_clean (h : Host) (loc : BufferLoc) :
    (h.clean loc).mem = Function.update h.mem loc ⟨0, storeWord (h.mem loc).data 0 0⟩ := rfl

/-- Cleaning a ring leaves the zeros of all of them. -/
lemma clean_zeros {h : Host} {loc loc' : BufferLoc} (hzero : (h.mem loc').data = fun _ => 0) :
    ((h.clean loc).mem loc').data = fun _ => 0 := by
  rw [mem_clean]
  rcases eq_or_ne loc' loc with rfl | hne
  · rw [Function.update_self, hzero, storeWord_zeros]
  · rw [Function.update_of_ne hne, hzero]

/-- The buffer is marked and cleaned, and it is that of the endpoint. -/
lemma reserveBuffer_effect (hrun : reserveBuffer i j data s = .ok (data', t)) :
    t.host.mem = (s.host.clean (s.bufferAt i j).base).mem ∧ t.env = s.env
      ∧ (∀ k, t.Created k ↔ s.Created k)
      ∧ (∀ k l, t.bufferAt k l = if k = i ∧ l = j
          then { s.bufferAt i j with size := s.env.alignedBufferSize } else s.bufferAt k l)
      ∧ t.host.ep.recvInfo.buffer = some (t.bufferAt i j) ∧ t.host.ep.recvInfo.read = 0 := by
  simp only [reserveBuffer, get_bind, setSegment, modify_bind, setHost_bind, setRecvInfo_bind,
    setSendInfo_bind] at hrun
  obtain ⟨-, rfl⟩ := Prod.mk.inj (Except.ok.inj hrun)
  refine ⟨rfl, rfl, fun k => ?_, fun k l => ?_, by simp [bufferAt], rfl⟩
  · rcases eq_or_ne k i with rfl | hne
    · simp [Created]
    · simp [Created, hne]
  · rcases eq_or_ne k i with rfl | hne
    · rcases eq_or_ne l j with rfl | hne
      · simp [bufferAt]
      · simp [bufferAt, hne]
    · simp [bufferAt, hne]

lemma blank_reserveBuffer (i j : ℕ) (data : SegmentData) :
    Keeps blank (reserveBuffer i j data) := by
  intro s data' t hrun
  obtain ⟨hmem, henv, hcreated, hbuffer, -, -⟩ := reserveBuffer_effect hrun
  refine ⟨henv, fun hsize hblank k hk l hfree => ?_⟩
  rw [hbuffer] at hfree
  rw [hmem, hbuffer]
  split at hfree
  case isTrue => exact absurd hfree hsize
  case isFalse hother =>
      rw [if_neg hother]
      exact clean_zeros (hblank k ((hcreated k).1 hk) l hfree)

lemma blank_allocSendBuffer (data : SegmentData) : Keeps blank (allocSendBuffer data) :=
  keeps_allocSendBuffer_of blank_createDataSegment blank_reserveBuffer (ignores_blank nofun nofun)
    (ignores_blank nofun nofun) (ignores_blank nofun nofun) data

lemma blank_dpaAccept : Keeps blank dpaAccept := by
  refine keeps_bind (keeps_bind keeps_get fun s => keeps_bind (keeps_createConnectInterrupt
    (ignores_blank nofun nofun) (ignores_blank nofun nofun) (ignores_blank nofun nofun) _)
    fun err => keeps_ite (keeps_pure _) (keeps_bind (blank_allocSendBuffer _) fun _ =>
      keeps_pure _)) fun err => keeps_ite (keeps_pure _) (keeps_bind keeps_get fun s => ?_)
  dsimp only
  split
  · exact keeps_throw _
  · exact keeps_bind (keeps_setProgress (ignores_blank nofun nofun) _ _) fun _ => keeps_pure _

lemma blank_progressEpEq (timeout : ℤ) : Keeps blank (progressEpEq timeout) := by
  intro s r t hrun
  rw [progressEpEq, get_bind] at hrun
  obtain ⟨⟨err, data⟩, s₁, hwait, hrun⟩ := run_bind_ok hrun
  have hwaited : blank.rel s s₁ :=
    keeps_progressEq (ignores_blank (by simp) (by simp)) _ _ _ _ _ hwait
  simp only [ite_run] at hrun
  split at hrun
  case isTrue =>
      obtain ⟨-, rfl⟩ := Prod.mk.inj (Except.ok.inj hrun)
      exact hwaited
  case isFalse =>
      obtain ⟨data', s₂, hprepares, hrest⟩ := run_finishConnection_ok hrun
      have hprepared : blank.rel s₁ s₂ := hprepares.rel (blank_allocSendBuffer _)
      have hrested : blank.rel _ t := keeps_connectOrDisconnect
        (ignores_blank (by simp) (by simp)) (ignores_blank (by simp) (by simp))
        (ignores_blank (by simp) (by simp)) (ignores_blank (by simp) (by simp)) _ _ _ _ _ hrest
      exact blank.trans _ _ _ hwaited (blank.trans _ _ _ hprepared hrested)

end Site

namespace Recycling

open Site

variable {w w' : Recycling} {p : Process} {k : ℕ} {α : Type} {m : Prog α} {a : α}

lemma onEp_blank (hm : Keeps blank m) (hrun : w.process.onEp k m = .ok (a, p)) :
    blank.rel w.process.site p.site := by
  obtain ⟨s, hcall, rfl⟩ := Process.onEp_ok hrun
  have hkept : blank.rel _ s := hm _ _ _ hcall
  exact hkept

lemma onPep_blank (hm : Keeps blank m) (hrun : w.process.onPep k m = .ok (a, p)) :
    blank.rel w.process.site p.site := by
  obtain ⟨s, hcall, rfl⟩ := Process.onPep_ok hrun
  have hkept : blank.rel _ s := hm _ _ _ hcall
  exact hkept

lemma step_blank {e : Event} (hstep : w.step e = some w') :
    blank.rel w.process.site w'.process.site := by
  cases step_cases hstep with
  | dpaConnect _ hrun =>
      exact onEp_blank (keeps_dpaConnect (ignores_blank nofun nofun) (ignores_blank nofun nofun)
        (ignores_blank nofun nofun) (ignores_blank nofun nofun) (ignores_blank nofun nofun)) hrun
  | dpaAccept _ hrun => exact onEp_blank blank_dpaAccept hrun
  | dpaShutdown _ hrun =>
      exact onEp_blank (keeps_dpaShutdown (ignores_blank nofun nofun) (ignores_blank nofun nofun))
        hrun
  | dpaEpClose _ => exact blank.refl _
  | unset => exact blank.refl _
  | progressPepEq hrun =>
      exact onPep_blank (keeps_progressPepEq (ignores_blank nofun nofun)
        (ignores_blank nofun nofun) _) hrun
  | progressEpEq _ hrun => exact onEp_blank (blank_progressEpEq _) hrun

/-- After every history of calls on a process that has begun without segments, no free buffer has
anything in its ring: a segment is zeroed when it is created, and no buffer is given back. -/
theorem blank_run {events : List Event} (hempty : ∀ i, ¬ p.site.Created i)
    (hsize : p.site.env.alignedBufferSize ≠ 0) (hrun : Stepper.run step ⟨p, ∅, ∅⟩ events = some w) :
    w.process.site.Blank := by
  have hrel : blank.rel p.site w.process.site :=
    Stepper.run_invariant (I := fun w => blank.rel p.site w.process.site)
      (fun _ _ _ hw h => blank.trans _ _ _ hw (step_blank h)) (blank.refl _) hrun
  exact hrel.2 hsize fun i hi => absurd hi (hempty i)

end Recycling

namespace Site

variable {s t : Site} {data data' : SegmentData} {err : DpaError} {i j : ℕ}

/-! ### A ring that is ready -/

/-- The ring of an endpoint that has just reserved it. -/
structure Ready (s : Site) : Prop where
  ring : ∀ buffer, s.host.ep.recvInfo.buffer = some buffer →
    s.host.mem buffer.base = ⟨0, fun _ => 0⟩
  read : s.host.ep.recvInfo.read = 0

lemma allocMsgBuffer_ready (hsize : s.env.alignedBufferSize ≠ 0) (hblank : s.Blank)
    (hcarries : s.host.ep.carriesMessages = true)
    (hrun : allocMsgBuffer data s = .ok ((.ok, data'), t)) : t.Ready := by
  cases allocMsgBuffer_run hrun with
  | plain hno => exact absurd (hno.symm.trans hcarries) Bool.false_ne_true
  | recvFails _ _ _ herr | sendFails _ _ _ _ herr => exact absurd rfl herr
  | @reserved i j s₁ s₂ s₃ _ data₁ data₂ _ _ hfind halloc₂ halloc₃ hreserve =>
      obtain ⟨-, hfound⟩ := getEmptyBuffer_cases hfind
      obtain ⟨-, -, hcreated, hfree⟩ := hfound i j rfl
      have hblank₁ := (keeps_getEmptyBuffer blank_createDataSegment _ _ _ hfind).2 hsize hblank
      have hsame : Frame.rel (.same fun s : Site => (s.localSegmentsInfo, s.host.mem)) s₁ s₃ :=
        Frame.trans _ _ _ _
          (keeps_allocRecv (fun _ _ => rfl) (fun _ _ => rfl) _ _ _ _ halloc₂)
          (keeps_allocSend (fun _ _ => rfl) (fun _ _ => rfl) _ _ _ _ halloc₃)
      obtain ⟨htable, hmem₃⟩ := Prod.mk.inj hsame
      obtain ⟨hmem, -, -, hbuffer, howned, hread⟩ := reserveBuffer_effect hreserve
      refine ⟨fun buffer hown => ?_, hread⟩
      obtain rfl := Option.some.inj (howned.symm.trans hown)
      have hzero : (s₃.host.mem (s₃.bufferAt i j).base).data = fun _ => 0 := by
        rw [hmem₃, bufferAt, htable, ← bufferAt]
        exact hblank₁ i hcreated j hfree
      rw [hbuffer, if_pos ⟨rfl, rfl⟩, hmem, mem_clean, Function.update_self, hzero,
        storeWord_zeros]

/-- What the rest of a handshake leaves alone. -/
def contents : Frame Site := .same fun s => s.host.mem

lemma ignores_contents {part : Part} (h : part ≠ .memory) : Ignores contents part := by
  intro s x
  cases part with
  | memory => exact absurd rfl h
  | _ => rfl

/-- A message with the description of the buffer goes out, so the ring is ready. -/
lemma allocSendBuffer_ready (hsize : s.env.alignedBufferSize ≠ 0) (hblank : s.Blank)
    (hcarries : s.host.ep.carriesMessages = true)
    (hrun : allocSendBuffer data s = .ok ((err, data'), t)) (hmessage : t.sent ≠ s.sent) :
    t.Ready := by
  obtain ⟨⟨err₁, data₁⟩, s₁, halloc, hrun⟩ := run_bind_ok hrun
  have hunsent : s₁.sent = s.sent := keeps_allocMsgBuffer (F := unsent) (ignores_unsent nofun)
    (ignores_unsent nofun) (ignores_unsent nofun) (ignores_unsent nofun) (ignores_unsent nofun)
    _ _ _ _ halloc
  simp only [ite_run] at hrun
  split at hrun
  case isTrue =>
      obtain ⟨-, rfl⟩ := Prod.mk.inj (Except.ok.inj hrun)
      exact absurd hunsent hmessage
  case isFalse hok =>
      obtain rfl := not_not.1 hok
      obtain ⟨err₂, s₂, hgoes, hrun⟩ := run_bind_ok hrun
      obtain ⟨-, rfl⟩ := Prod.mk.inj (Except.ok.inj hrun)
      have hkept : Frame.rel (.same fun s : Site => s.host) s₁ s₂ :=
        keeps_sendConnectData (fun _ _ => rfl) (fun _ _ => rfl) _ _ _ _ hgoes
      have hready := allocMsgBuffer_ready hsize hblank hcarries halloc
      exact ⟨by rw [show s₂.host = s₁.host from hkept]; exact hready.ring,
        by rw [show s₂.host = s₁.host from hkept]; exact hready.read⟩

/-- Once the ring of the peer is mapped nothing is sent yet. -/
lemma connectSegment_cursors (hcarries : s.host.ep.carriesMessages = true)
    (hrun : connectSegment data s = .ok (.ok, t)) :
    t.host.ep.sendInfo.write = 0 ∧ t.host.ep.recvInfo.read = s.host.ep.recvInfo.read := by
  simp only [connectSegment, get_bind, lib_bind, ite_run, setSendInfo_bind] at hrun
  split_ifs at hrun with hcaps hconnect hmap
  case pos =>
      rw [Bool.not_eq_true'] at hcaps
      exact absurd (hcaps.symm.trans hcarries) Bool.false_ne_true
  case pos => exact absurd (Prod.mk.inj (Except.ok.inj hrun)).1 hconnect
  case pos => exact absurd (Prod.mk.inj (Except.ok.inj hrun)).1 hmap
  case neg =>
      obtain ⟨sequence, s₁, hsequence, hrun⟩ := run_bind_ok hrun
      have hread : Frame.rel (.same fun s : Site => s.host.ep.recvInfo.read) _ s₁ :=
        keeps_createStartSequence (fun _ _ => rfl) _ _ _ _ hsequence
      obtain ⟨-, rfl⟩ := Prod.mk.inj (Except.ok.inj hrun)
      exact ⟨rfl, hread⟩

/-- Nor is it after the rest of `connect_msg`. -/
lemma connectMsg_cursors (hcarries : s.host.ep.carriesMessages = true)
    (hrun : connectMsg data s = .ok (.ok, t)) :
    t.host.ep.sendInfo.write = 0 ∧ t.host.ep.recvInfo.read = s.host.ep.recvInfo.read := by
  obtain ⟨err₁, s₁, hsegment, hrun⟩ := run_bind_ok hrun
  rw [ite_run] at hrun
  split at hrun
  case isTrue hne => exact absurd (Prod.mk.inj (Except.ok.inj hrun)).1 hne
  case isFalse hok =>
  obtain rfl := not_not.1 hok
  obtain ⟨hwrite, hread⟩ := connectSegment_cursors hcarries hsegment
  rw [get_bind] at hrun
  obtain ⟨err₂, s₂, hrecv, hrun⟩ := run_bind_ok hrun
  rw [ite_run] at hrun
  split at hrun
  case isTrue hne => exact absurd (Prod.mk.inj (Except.ok.inj hrun)).1 hne
  case isFalse hok =>
  obtain rfl := not_not.1 hok
  obtain ⟨err₃, s₃, hsend, hrun⟩ := run_bind_ok hrun
  rw [ite_run] at hrun
  split at hrun
  case isTrue hne => exact absurd (Prod.mk.inj (Except.ok.inj hrun)).1 hne
  case isFalse hok =>
  obtain rfl := not_not.1 hok
  obtain ⟨-, hinfo₂, hrecvInfo₂, -⟩ := connectRemoteInterrupt_send hrecv
  obtain ⟨-, hinfo₃, hsendInfo₃, -⟩ := connectRemoteInterrupt_recv hsend
  obtain ⟨_, s₄, hadd, hrun⟩ := run_bind_ok hrun
  obtain ⟨eqs, rfl⟩ := run_eqAdd_ok hadd
  rw [setEp_bind, ite_run] at hrun
  have hends : t.host.ep.sendInfo = s₃.host.ep.sendInfo
      ∧ t.host.ep.recvInfo = s₃.host.ep.recvInfo := by
    split at hrun
    all_goals
      obtain ⟨-, rfl⟩ := Prod.mk.inj (Except.ok.inj hrun)
      exact ⟨rfl, rfl⟩
  exact ⟨by rw [hends.1, hsendInfo₃, hinfo₂, hwrite], by rw [hends.2, hinfo₃, hrecvInfo₂, hread]⟩

/-- The rest of a handshake leaves the ring as it is. -/
lemma Ready.congr (h : s.Ready) (hmem : t.host.mem = s.host.mem)
    (hbuffer : t.host.ep.recvInfo.buffer = s.host.ep.recvInfo.buffer)
    (hread : t.host.ep.recvInfo.read = s.host.ep.recvInfo.read) : t.Ready where
  ring buffer hown := by
    rw [hmem]
    exact h.ring buffer (hbuffer ▸ hown)
  read := hread.trans h.read

/-- An endpoint that ends connected has a ring that is ready if it was after the first part. -/
lemma finishConnection_ready (hcarries : s.host.ep.carriesMessages = true) {timeout r : ℤ}
    (hrun : finishConnection data timeout s = .ok (r, t))
    (hconnected : t.host.ep.connected = true) :
    ∃ data' s₁, Prepares data data' s s₁ ∧ t.sent = s₁.sent ∧ t.host.ep.sendInfo.write = 0
      ∧ (s₁.Ready → t.Ready) := by
  obtain ⟨data', s₁, hprepares, hrest⟩ := run_finishConnection_ok hrun
  have hfixed : fixed.rel s s₁ := hprepares.rel (keeps_allocSendBuffer (ignores_fixed _)
    (ignores_fixed _) (ignores_fixed _) (ignores_fixed _) (ignores_fixed _) (ignores_fixed _) _)
  obtain ⟨err, s₂, hconnect, ⟨-, _, hdisconnect⟩ | ⟨rfl, rfl⟩⟩ := run_connectOrDisconnect_ok hrest
  · rw [disconnectMsg_connected _ _ _ hdisconnect] at hconnected
    exact absurd hconnected nofun
  · have hcarries₁ : s₁.host.ep.carriesMessages = true :=
      (fixed_carriesMessages hfixed).trans hcarries
    obtain ⟨hwrite, hread⟩ := connectMsg_cursors (by exact hcarries₁) hconnect
    have hmem : contents.rel _ t := keeps_connectMsg (ignores_contents nofun)
      (ignores_contents nofun) (ignores_contents nofun) (ignores_contents nofun) _ _ _ _ hconnect
    have hunsent : unsent.rel _ t := keeps_connectMsg (ignores_unsent nofun)
      (ignores_unsent nofun) (ignores_unsent nofun) (ignores_unsent nofun) _ _ _ _ hconnect
    have hreserved := (connectMsg_connects (by exact hcarries₁) hconnect).reserved
    simp only [reservation, Frame.same, Prod.mk.injEq] at hreserved
    exact ⟨data', s₁, hprepares, hunsent, hwrite, fun hready =>
      hready.congr hmem hreserved.2.1 hread⟩

/-- Nothing was completed, and nothing reported. -/
structure Unused (s : Site) : Prop where
  completed : s.host.completed = []
  events : ∀ q, (s.host.cqs q).eventQueue = []
  errors : ∀ q, (s.host.cqs q).errorQueue = []

/-- What an endpoint has completed and reported. -/
def books : Frame Site := .same fun s => (s.host.completed, s.host.cqs)

lemma ignores_books (part : Part) : Ignores books part := by
  intro s x
  cases part <;> rfl

end Site

/-! ### Two nodes -/

namespace Handshake

open Site

variable (h : Handshake)

lemma books_confirmed : books.rel h.active h.confirmed := by
  obtain ⟨timeout, r, hconfirms⟩ := h.confirms
  have hrequested : books.rel h.active h.requested :=
    keeps_dpaConnect (ignores_books _) (ignores_books _) (ignores_books _) (ignores_books _)
      (ignores_books _) _ _ _ h.connects
  exact books.trans _ _ _ hrequested
    (keeps_progressEpEq (.of_ignores fun _ _ _ => ignores_books _) _ _ _ _ hconfirms)

lemma books_finished : books.rel h.passive h.finished := by
  obtain ⟨timeout, r, hasks⟩ := h.asks
  obtain ⟨timeout', r', hfinishes⟩ := h.finishes
  have hlistening : books.rel h.passive h.listening := keeps_dpaListen (ignores_books _)
    (ignores_books _) (ignores_books _) (ignores_books _) _ _ _ h.listens
  have hasked : books.rel h.passive h.asked := books.trans _ _ _ hlistening
    (keeps_progressPepEq (ignores_books _) (ignores_books _) _ _ _ _ hasks)
  have haccepted : books.rel h.accepting h.accepted :=
    keeps_dpaAccept (.of_ignores fun _ _ _ => ignores_books _) (ignores_books _) _ _ _ h.accepts
  refine books.trans _ _ _ hasked (books.trans _ _ _ haccepted ?_)
  exact keeps_progressEpEq (.of_ignores fun _ _ _ => ignores_books _) _ _ _ _ hfinishes

/-- The active endpoint has sent nothing, and its ring is zero. -/
lemma confirmed_ready (hsize : h.active.env.alignedBufferSize ≠ 0) (hblank : h.active.Blank)
    (hcarries : h.active.host.ep.carriesMessages = true)
    (hconnected : h.confirmed.host.ep.connected = true) :
    h.confirmed.host.ep.sendInfo.write = 0 ∧ h.confirmed.Ready := by
  obtain ⟨timeout, r, hconfirms⟩ := h.confirms
  have hcaps := fixed_carriesMessages h.fixed_requested
  obtain ⟨-, -, hrecvInfo, -⟩ := dpaConnect_sent h.connects
  have hfresh : h.requested.host.ep.recvInfo.buffer = none := hrecvInfo ▸ h.fresh.buffer
  have hblank₁ : blank.rel h.active h.requested := keeps_dpaConnect (ignores_blank nofun nofun)
    (ignores_blank nofun nofun) (ignores_blank nofun nofun) (ignores_blank nofun nofun)
    (ignores_blank nofun nofun) _ _ _ h.connects
  obtain ⟨data, s₁, hprepares, hunsent, hwrite, hready⟩ :=
    finishConnection_ready (by exact hcaps.trans hcarries)
      (progressEpEq_finishes h.answer.1 hconfirms) hconnected
  obtain ⟨-, addr, hmem⟩ := h.confirmation
  have hsince : (addr, h.accepted.dpa.reply.data) ∈ h.requested.sentSince s₁ := by
    rw [sentSince, ← hunsent]
    exact hmem
  refine ⟨hwrite, hready ?_⟩
  rcases hprepares with ⟨-, err, halloc⟩ | ⟨hsome, -⟩
  · refine allocSendBuffer_ready ?_ ?_ (by exact hcaps.trans hcarries) halloc
      (by exact sent_ne hsince)
    · exact hblank₁.1 ▸ hsize
    · exact hblank₁.2 hsize hblank
  · exact absurd hfresh hsome

/-- The passive endpoint is opened while the free buffers are blank. -/
lemma blank_accepting : blank.rel h.passive h.accepting := by
  obtain ⟨timeout, r, hasks⟩ := h.asks
  have hlistening : blank.rel h.passive h.listening := keeps_dpaListen (ignores_blank nofun nofun)
    (ignores_blank nofun nofun) (ignores_blank nofun nofun) (ignores_blank nofun nofun) _ _ _
    h.listens
  have hasked : blank.rel h.passive h.asked := blank.trans _ _ _ hlistening
    (keeps_progressPepEq (ignores_blank nofun nofun) (ignores_blank nofun nofun) _ _ _ _ hasks)
  exact hasked

/-- The ring of the passive endpoint is ready when it has accepted. -/
lemma accepted_ready (hsize : h.passive.env.alignedBufferSize ≠ 0) (hblank : h.passive.Blank)
    (hcarries : h.endpoint.carriesMessages = true) : h.accepted.Ready := by
  obtain ⟨s₁, s₂, data, hcreate, halloc, hhost, -, hsent⟩ := run_dpaAccept_ok h.accepts
  obtain ⟨hunsent, -⟩ := createConnectInterrupt_ep hcreate
  have hfixed : fixed.rel h.accepting s₁ := keeps_createConnectInterrupt (ignores_fixed _)
    (ignores_fixed _) (ignores_fixed _) _ _ _ _ hcreate
  have hblank₁ : blank.rel h.passive s₁ := blank.trans _ _ _ h.blank_accepting
    (keeps_createConnectInterrupt (ignores_blank nofun nofun) (ignores_blank nofun nofun)
      (ignores_blank nofun nofun) _ _ _ _ hcreate)
  have hcarries₁ : s₁.host.ep.carriesMessages = true :=
    (fixed_carriesMessages hfixed).trans hcarries
  obtain ⟨-, addr, hmem⟩ := h.answer
  have hsince : (addr, h.requested.dpa.reply.data) ∈ s₁.sentSince s₂ := by
    rw [sentSince, ← hsent, hunsent]
    exact hmem
  have hready : s₂.Ready := allocSendBuffer_ready (hblank₁.1 ▸ hsize) (hblank₁.2 hsize hblank)
    hcarries₁ halloc (sent_ne hsince)
  exact hready.congr (congrArg Host.mem hhost) (congrArg (·.ep.recvInfo.buffer) hhost)
    (congrArg (·.ep.recvInfo.read) hhost)

/-- So is it when it ends connected. -/
lemma finished_ready (hsize : h.passive.env.alignedBufferSize ≠ 0) (hblank : h.passive.Blank)
    (hcarries : h.endpoint.carriesMessages = true)
    (hbuffer : h.accepted.host.ep.recvInfo.buffer ≠ none)
    (hconnected : h.finished.host.ep.connected = true) :
    h.finished.host.ep.sendInfo.write = 0 ∧ h.finished.Ready := by
  obtain ⟨timeout, r, hfinishes⟩ := h.finishes
  obtain ⟨data, s₁, hprepares, -, hwrite, hkeeps⟩ :=
    finishConnection_ready (by exact (fixed_carriesMessages h.fixed_accepted).trans hcarries)
      (progressEpEq_finishes h.confirmation.1 hfinishes) hconnected
  refine ⟨hwrite, hkeeps ?_⟩
  rcases hprepares with ⟨hnone, -⟩ | ⟨-, -, rfl⟩
  · exact absurd hnone hbuffer
  · have hready := h.accepted_ready hsize hblank hcarries
    exact ⟨hready.ring, hready.read⟩

/-! ### Two endpoints that are wired to each other -/

/-- The nodes at the end, the active one on the side `true`. -/
def node (side : Bool) : Site := if side then h.confirmed else h.finished

/-- The rings that the endpoints have reserved. -/
def ring (side : Bool) : BufferLoc :=
  ((h.node side).host.ep.recvInfo.buffer.map (·.base)).getD ⟨0, 0, 0⟩

/-- The two endpoints; each buffer is in the memory of its node. -/
def pair : Pair where
  host side := (h.node side).host
  mem loc := if loc.node = h.active.env.localNodeId then h.confirmed.host.mem loc
    else h.finished.host.mem loc

/-- The applications have read nothing yet. -/
def apps : Apps where
  pair := h.pair
  events _ _ := []
  errors _ _ := []

/-- The bytes of a ring. -/
def ringSize : UInt64 := h.active.env.alignedBufferSize - 8

/-- Both endpoints carry messages and end connected, they have reserved what coincides, and no free
buffer had been written to. -/
structure Sound : Prop where
  active : h.active.AfterHistory
  passive : h.passive.AfterHistory
  activeBlank : h.active.Blank
  passiveBlank : h.passive.Blank
  activeUnused : h.active.Unused
  passiveUnused : h.passive.Unused
  activeCarries : h.active.host.ep.carriesMessages = true
  passiveCarries : h.endpoint.carriesMessages = true
  confirmed : h.confirmed.host.ep.connected = true
  finished : h.finished.host.ep.connected = true
  coincides : h.Coincides
  nodes : h.active.env.localNodeId ≠ h.passive.env.localNodeId
  size : RingSize h.ringSize

variable {h}

/-- The sizes are those of the buffers, without the cursor. -/
lemma Sound.aligned (hs : h.Sound) : h.active.env.alignedBufferSize ≠ 0 := by
  intro hzero
  have hfits := hs.size.fits
  rw [ringSize, hzero] at hfits
  exact absurd hfits (by decide)

/-- An endpoint that owns a ring. -/
structure Owns (s : Site) (loc : BufferLoc) (size : UInt64) : Prop where
  buffer : s.host.ep.recvInfo.buffer = some ⟨loc, size + 8⟩
  status : s.host.ep.sendInfo.remoteStatus = some loc

/-- Joined endpoints that own rings of one size are wired to each other. -/
lemma Owns.wired {s t : Site} {own peer : BufferLoc} {size : UInt64} (h : Owns s own size)
    (h' : Owns t peer size) (hjoined : Joined s t) (hconnected : s.host.ep.connected = true) :
    Host.Wired (fun _ => size) own peer s.host where
  connected := hconnected
  status := h.status
  remoteBuffer := by rw [hjoined.ring, h'.buffer]; rfl
  size := by
    have hsize := hjoined.size
    rw [h'.buffer, Option.map_some, Option.some.injEq] at hsize
    rw [hsize]
    exact UInt64.add_sub_cancel _ _
  buffer := h.buffer
  remoteStatus := by rw [hjoined.cursor, h'.status]

lemma owns_of_describes {s t : Site} {data data' : SegmentData} (h : Describes s t data data')
    {size : UInt64} (hsize : s.env.alignedBufferSize = size + 8) :
    Owns t ⟨s.env.localNodeId, data'.segmentId, data'.offset⟩ size where
  buffer := by rw [h.buffer, h.size, hsize]
  status := h.status

lemma ring_eq (side : Bool) {loc : BufferLoc} {size : UInt64}
    (h' : Owns (h.node side) loc size) : h.ring side = loc := by
  rw [ring, h'.buffer, Option.map_some, Option.getD_some]

/-- Each endpoint owns its ring, on its node. -/
lemma Sound.owns (hs : h.Sound) :
    (Owns h.confirmed (h.ring true) h.ringSize ∧ (h.ring true).node = h.active.env.localNodeId)
      ∧ (Owns h.finished (h.ring false) h.ringSize
        ∧ (h.ring false).node = h.passive.env.localNodeId)
      ∧ h.accepted.host.ep.recvInfo.buffer ≠ none := by
  have hanswer := h.answer_describes hs.passive.arranged hs.passiveCarries
  obtain ⟨hconfirmation, -⟩ :=
    h.confirmation_describes hs.active.arranged hs.activeCarries hs.confirmed
  have hbuffer : h.accepted.host.ep.recvInfo.buffer ≠ none := by
    rw [hanswer.buffer]
    exact nofun
  obtain ⟨hreserved, -⟩ := h.finish_connects hs.passiveCarries hbuffer hs.finished
  have hsize : h.active.env.alignedBufferSize = h.ringSize + 8 := (UInt64.sub_add_cancel _ _).symm
  have howns := owns_of_describes hconfirmation hsize
  have howns' := owns_of_describes (hanswer.reservation hreserved)
    (by rw [h.accepting_fixed.1, ← hs.coincides.size, hsize])
  rw [ring_eq true howns, ring_eq false howns']
  exact ⟨⟨howns, rfl⟩, ⟨howns', congrArg Env.localNodeId h.accepting_fixed.1⟩, hbuffer⟩

/-- The endpoints are ready for each other. -/
lemma Sound.start (hs : h.Sound) : h.pair.Start (fun _ => h.ringSize) h.ring := by
  obtain ⟨⟨howns, hnode⟩, ⟨howns', hnode'⟩, hbuffer⟩ := hs.owns
  obtain ⟨hjoined, hjoined'⟩ : h.Agreement := (agreement h hs.active hs.passive hs.activeCarries
    hs.passiveCarries hs.confirmed hs.finished).2 hs.coincides
  obtain ⟨hwrite, hready⟩ :=
    h.confirmed_ready hs.aligned hs.activeBlank hs.activeCarries hs.confirmed
  obtain ⟨hwrite', hready'⟩ := h.finished_ready (hs.coincides.size ▸ hs.aligned) hs.passiveBlank
    hs.passiveCarries hbuffer hs.finished
  have hmem : h.pair.mem (h.ring true) = ⟨0, fun _ => 0⟩ :=
    (if_pos hnode).trans (hready.ring _ howns.buffer)
  have hmem' : h.pair.mem (h.ring false) = ⟨0, fun _ => 0⟩ :=
    (if_neg (hnode'.trans_ne hs.nodes.symm)).trans (hready'.ring _ howns'.buffer)
  constructor
  case wired =>
      rintro (_ | _)
      · exact howns'.wired howns hjoined' hs.finished
      · exact howns.wired howns' hjoined hs.confirmed
  case write => rintro (_ | _); exacts [hwrite', hwrite]
  case read => rintro (_ | _); exacts [hready'.read, hready.read]
  case zeroed =>
      rintro (_ | _) a -
      · rw [hmem']
      · rw [hmem]
  case status =>
      rintro (_ | _)
      · rw [hmem']
      · rw [hmem]
  case completed =>
      rintro (_ | _)
      · exact (congrArg Prod.fst h.books_finished).trans hs.passiveUnused.completed
      · exact (congrArg Prod.fst h.books_confirmed).trans hs.activeUnused.completed

/-- So are the applications. -/
lemma Sound.apps_start (hs : h.Sound) : h.apps.Start (fun _ => h.ringSize) h.ring where
  pair := hs.start
  events := by
    rintro (_ | _) q
    · have hcqs : h.finished.host.cqs = h.passive.host.cqs := congrArg Prod.snd h.books_finished
      exact ⟨rfl, (congrArg (fun cqs => (cqs q).eventQueue) hcqs).trans (hs.passiveUnused.events q)⟩
    · have hcqs : h.confirmed.host.cqs = h.active.host.cqs := congrArg Prod.snd h.books_confirmed
      exact ⟨rfl, (congrArg (fun cqs => (cqs q).eventQueue) hcqs).trans (hs.activeUnused.events q)⟩
  errors := by
    rintro (_ | _) q
    · have hcqs : h.finished.host.cqs = h.passive.host.cqs := congrArg Prod.snd h.books_finished
      exact ⟨rfl, (congrArg (fun cqs => (cqs q).errorQueue) hcqs).trans (hs.passiveUnused.errors q)⟩
    · have hcqs : h.confirmed.host.cqs = h.active.host.cqs := congrArg Prod.snd h.books_confirmed
      exact ⟨rfl, (congrArg (fun cqs => (cqs q).errorQueue) hcqs).trans (hs.activeUnused.errors q)⟩

/-- Two endpoints that agree after their handshake are wired to each other's rings, which are zero
like their cursors, and what is posted to them is transported: every application sees its first
sends complete, and its first receives with the whole messages of the other one, in order. -/
theorem carried (hs : h.Sound) {prog : Bool → ℕ → QueueProgress} {acts : List Apps.Act} {a : Apps}
    (hroomy : ∀ side, Apps.Roomy h.pair (acts.flatMap (Apps.Act.calls prog)) side)
    (hrun : Stepper.run (Apps.step prog) h.apps acts = some a) :
    h.pair.Start (fun _ => h.ringSize) h.ring
      ∧ ∃ sent received : Bool → ℕ, ∀ side, received side ≤ sent !side
        ∧ Apps.Seen h.apps (acts.flatMap (Apps.Act.calls prog)) a side (sent side)
          (received side) := by
  refine ⟨hs.start, Apps.transport (fun _ => hs.size) ?_ hs.apps_start hroomy hrun⟩
  obtain ⟨⟨-, hnode⟩, ⟨-, hnode'⟩, -⟩ := hs.owns
  rintro (_ | _) heq
  · exact hs.nodes (hnode.symm.trans ((congrArg BufferLoc.node heq.symm).trans hnode'))
  · exact hs.nodes (hnode.symm.trans ((congrArg BufferLoc.node heq).trans hnode'))

/-! ### One message over a new connection -/

lemma sound_messages : messages.Sound where
  active := afterHistory_empty (p := ⟨messages.active, fun _ => messages.endpoint, fun _ =>
    messages.active.pep⟩) fun _ hi => hi rfl
  passive := afterHistory_empty (p := ⟨messages.passive, fun _ => messages.endpoint, fun _ =>
    messages.passive.pep⟩) fun _ hi => hi rfl
  activeBlank _ hi := absurd rfl hi
  passiveBlank _ hi := absurd rfl hi
  activeUnused := ⟨rfl, fun _ => rfl, fun _ => rfl⟩
  passiveUnused := ⟨rfl, fun _ => rfl, fun _ => rfl⟩
  activeCarries := by decide
  passiveCarries := by decide
  confirmed := by decide +kernel
  finished := by decide +kernel
  coincides := by constructor <;> decide +kernel
  nodes := by decide
  size := by constructor <;> decide

/-- A message of three bytes, and its receive. -/
def threeBytes : List Apps.Act :=
  [.call true (.dpaSend (fun _ => 1) 3 0), .call false (.dpaRecv (fun _ => 0) 3 7)]

lemma posts_threeBytes (side : Bool) (dir : Direction) :
    messages.pair.posts side (threeBytes.flatMap (Apps.Act.calls Apps.bothWays)) dir
      = Apps.onePost side dir := by
  have hempty : ((messages.pair.host side).queue dir).contents = [] := by
    refine List.eq_nil_of_length_eq_zero ?_
    cases side <;> cases dir <;> decide +kernel
  rw [Pair.posts, hempty]
  cases side <;> cases dir <;> rfl

/-- The passive endpoint gets the message of the active one. -/
theorem carried_messages : messages.pair.Start (fun _ => messages.ringSize) messages.ring
    ∧ ∃ a, Stepper.run (Apps.step Apps.bothWays) messages.apps threeBytes = some a
      ∧ (a.pair.host false).received.map Completed.data = [[1, 1, 1]] := by
  have hview : (Stepper.run (Apps.step Apps.bothWays) messages.apps threeBytes).map (fun a =>
      (a.pair.host false).received.length) = some 1 := by
    decide +kernel
  obtain ⟨a, hrun, hone⟩ := Option.map_eq_some_iff.1 hview
  obtain ⟨hstart, sent, received, hseen⟩ :=
    carried sound_messages (Apps.roomy_onePost posts_threeBytes) hrun
  refine ⟨hstart, a, hrun, ?_⟩
  have hmessages : messages.pair.messages true
      (threeBytes.flatMap (Apps.Act.calls Apps.bothWays)) = [[1, 1, 1]] := by
    rw [Pair.messages, posts_threeBytes]
    rfl
  have hbuffers : (a.pair.host false).received.map Completed.data
      = [[1, 1, 1]].take (received false) :=
    hmessages ▸ (hseen false).2.buffers
  have hlen := congrArg List.length hbuffers
  rw [List.length_map, hone, List.length_take, List.length_singleton] at hlen
  rw [hbuffers, List.take_of_length_le (by rw [List.length_singleton]; omega)]

end Handshake

end DpaProvider
