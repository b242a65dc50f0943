import DpaProvider.Cm.Process
import DpaProvider.Library.Stepper

/-!
The numbers of the connection interrupts.

An endpoint that connects or accepts asks for an interrupt with a number, and its message tells the
number to the peer.  Both numbers are fields that are zero and never set: an endpoint waits on the
number it has told, but all endpoints of a process ask for the same one.  So they get in each
other's way unless their handshakes come one after the other: `numbers_distinct`.
-/

namespace DpaProvider

open Effect Site

namespace Site

/-- The number of the interrupt for which an endpoint asks, once it has made a call. -/
def asked (number : Option UInt32) : DpaCall → Option UInt32
  | .createDataInterrupt _ interruptId => some interruptId
  | .removeDataInterrupt _ => none
  | _ => number

lemma asked_unnumbered {l : List DpaCall} (h : ∀ c ∈ l, c.numbers = false)
    (number : Option UInt32) :
    l.foldl asked number = number := by
  induction l with
  | nil => rfl
  | cons c l ih =>
      have hc : asked number c = number := by
        have hnumbers := h c List.mem_cons_self
        cases c with
        | createDataInterrupt sd interruptId => exact absurd hnumbers (Bool.noConfusion ·)
        | removeDataInterrupt interrupt => exact absurd hnumbers (Bool.noConfusion ·)
        | _ => rfl
      rw [List.foldl_cons, hc]
      exact ih fun d hd => h d (List.mem_cons_of_mem c hd)

lemma any_unnumbered {l : List DpaCall} (h : ∀ c ∈ l, c.numbers = false) :
    l.any DpaCall.numbers = false :=
  List.any_eq_false.2 fun c hc => by simp [h c hc]

/-- No interrupt that carries data is created or removed. -/
def unnumbered : Frame Site where
  rel s t := ∃ l, (∀ c ∈ l, c.numbers = false) ∧ t.dpa.calls = s.dpa.calls ++ l
  refl _ := ⟨[], nofun, (List.append_nil _).symm⟩
  trans s t u := by
    rintro ⟨l, hl, ht⟩ ⟨l', hl', hu⟩
    refine ⟨l ++ l', fun c hc => ?_, by rw [hu, ht, List.append_assoc]⟩
    exact (List.mem_append.1 hc).elim (hl c) (hl' c)

lemma ignores_unnumbered {part : Part} (h : part ≠ .numbers) : Ignores unnumbered part := by
  intro s x
  cases part with
  | library => exact ⟨[x.1], fun c hc => List.mem_singleton.1 hc ▸ x.2, rfl⟩
  | numbers => exact absurd rfl h
  | _ => exact unnumbered.refl s

/-- No connection message is sent. -/
def unsent : Frame Site := .same fun s => s.sent

lemma ignores_unsent {part : Part} (h : part ≠ .sent) : Ignores unsent part := by
  intro s x
  cases part with
  | sent => exact absurd rfl h
  | _ => rfl

/-- What an endpoint is to put into the message that accepts a connection. -/
def connectData : Frame Site := .same fun s => s.host.ep.connectData

lemma ignores_connectData (part : Part) : Ignores connectData part := by
  intro s x
  cases part <;> rfl

/-! ### Messages -/

/-- At most one message is sent, with the number `interruptId` for the answer. -/
def Tells (interruptId : UInt32) (s t : Site) : Prop :=
  t.sent = s.sent ∨
    ∃ peer data, data.acceptIntId = interruptId ∧ t.sent = s.sent ++ [(peer, data)]

lemma sendConnectData_sent {data : SegmentData} {s t : Site} {err : DpaError}
    (hrun : sendConnectData data s = .ok (err, t)) :
    t.host = s.host ∧ (t.sent = s.sent ∨ t.sent = s.sent ++ [(s.host.ep.peerAddr, data)]) := by
  simp only [sendConnectData, get_bind, lib_bind, ite_run, modify_bind] at hrun
  split_ifs at hrun
  all_goals obtain ⟨-, rfl⟩ := Prod.mk.inj (Except.ok.inj hrun)
  · exact ⟨rfl, .inl rfl⟩
  · exact ⟨rfl, .inl rfl⟩
  · exact ⟨rfl, .inr rfl⟩
  · exact ⟨rfl, .inl rfl⟩

lemma sendConnectData_tells {data : SegmentData} {s t : Site} {err : DpaError}
    (hrun : sendConnectData data s = .ok (err, t)) : Tells data.acceptIntId s t :=
  (sendConnectData_sent hrun).2.imp_right fun hsent => ⟨_, data, rfl, hsent⟩

/-- The description of a buffer leaves the number as it was. -/
lemma allocRecv_acceptIntId {data data' : SegmentData} {s t : Site} {err : DpaError}
    (hrun : allocRecv data s = .ok ((err, data'), t)) : data'.acceptIntId = data.acceptIntId := by
  simp only [allocRecv, get_bind, lib_bind, ite_run, setRecvInfo_bind] at hrun
  split_ifs at hrun
  all_goals
    obtain ⟨heq, -⟩ := Prod.mk.inj (Except.ok.inj hrun)
    obtain ⟨-, rfl⟩ := Prod.mk.inj heq
    rfl

lemma allocSend_acceptIntId {data data' : SegmentData} {s t : Site} {err : DpaError}
    (hrun : allocSend data s = .ok ((err, data'), t)) : data'.acceptIntId = data.acceptIntId := by
  simp only [allocSend, get_bind, lib_bind, ite_run, setSendInfo_bind] at hrun
  split_ifs at hrun
  case neg =>
      obtain ⟨needed, s₁, -, hrun⟩ := run_bind_ok hrun
      simp only [lib_bind, ite_run, setSendInfo_bind] at hrun
      split_ifs at hrun
      all_goals
        obtain ⟨heq, -⟩ := Prod.mk.inj (Except.ok.inj hrun)
        obtain ⟨-, rfl⟩ := Prod.mk.inj heq
        rfl
  all_goals
    obtain ⟨heq, -⟩ := Prod.mk.inj (Except.ok.inj hrun)
    obtain ⟨-, rfl⟩ := Prod.mk.inj heq
    rfl

lemma reserveBuffer_acceptIntId {i j : ℕ} {data data' : SegmentData} {s t : Site}
    (hrun : reserveBuffer i j data s = .ok (data', t)) : data'.acceptIntId = data.acceptIntId := by
  obtain ⟨rfl, -⟩ := Prod.mk.inj (Except.ok.inj hrun)
  rfl

lemma allocMsgBuffer_acceptIntId {data data' : SegmentData} {s t : Site} {err : DpaError}
    (hrun : allocMsgBuffer data s = .ok ((err, data'), t)) :
    data'.acceptIntId = data.acceptIntId := by
  cases allocMsgBuffer_run hrun with
  | plain | noBuffer => rfl
  | recvFails _ _ hrecv => exact allocRecv_acceptIntId hrecv
  | sendFails _ _ hrecv hsend =>
      exact (allocSend_acceptIntId hsend).trans (allocRecv_acceptIntId hrecv)
  | reserved _ _ hrecv hsend hreserve =>
      calc data'.acceptIntId = _ := reserveBuffer_acceptIntId hreserve
        _ = _ := allocSend_acceptIntId hsend
        _ = data.acceptIntId := allocRecv_acceptIntId hrecv

lemma allocSendBuffer_tells {data data' : SegmentData} {s t : Site} {err : DpaError}
    (hrun : allocSendBuffer data s = .ok ((err, data'), t)) : Tells data.acceptIntId s t := by
  obtain ⟨⟨err₁, data₁⟩, s₁, halloc, hrun⟩ := run_bind_ok hrun
  have hunsent : s₁.sent = s.sent := keeps_allocMsgBuffer (F := unsent) (ignores_unsent nofun)
    (ignores_unsent nofun) (ignores_unsent nofun) (ignores_unsent nofun) (ignores_unsent nofun)
    _ _ _ _ halloc
  simp only [ite_run] at hrun
  split at hrun
  · obtain ⟨-, rfl⟩ := Prod.mk.inj (Except.ok.inj hrun)
    exact .inl hunsent
  obtain ⟨err₂, s₂, hsend, hrun⟩ := run_bind_ok hrun
  obtain ⟨-, rfl⟩ := Prod.mk.inj (Except.ok.inj hrun)
  have htells := sendConnectData_tells hsend
  rwa [allocMsgBuffer_acceptIntId halloc, Tells, hunsent] at htells

/-! ### Calls -/

/-- A call begins a handshake: unless no descriptor is opened for it, it asks for the number 0
and tells the peer no other. -/
def Begins (s t : Site) : Prop :=
  (s.dpa.reply.err ≠ .ok ∧ unnumbered.rel s t ∧ t.sent = s.sent)
    ∨ (s.dpa.reply.err = .ok ∧ Tells 0 s t ∧ ∃ sd l, (∀ c ∈ l, c.numbers = false)
        ∧ t.dpa.calls = s.dpa.calls ++ .dpaOpen :: .createDataInterrupt sd 0 :: l)

variable {s s₁ t : Site}

lemma Tells.quiet {interruptId : UInt32} (h : Tells interruptId s s₁) (hsent : t.sent = s₁.sent) :
    Tells interruptId s t := by
  rwa [Tells, hsent]

lemma createConnectInterrupt_begins {err : DpaError}
    (hrun : createConnectInterrupt 0 s = .ok (err, s₁)) :
    Begins s s₁ ∧ (err = .ok → ∀ t, unnumbered.rel s₁ t → Tells 0 s₁ t → Begins s t) := by
  simp only [createConnectInterrupt, lib_bind, ite_run, setEp_bind] at hrun
  split_ifs at hrun with hopen
  case pos =>
      obtain ⟨rfl, rfl⟩ := Prod.mk.inj (Except.ok.inj hrun)
      refine ⟨.inl ⟨hopen, ⟨[.dpaOpen], ?_, rfl⟩, rfl⟩, fun hok => absurd hok hopen⟩
      exact fun c hc => List.mem_singleton.1 hc ▸ rfl
  all_goals
    obtain ⟨-, rfl⟩ := Prod.mk.inj (Except.ok.inj hrun)
    rw [ne_eq, not_not] at hopen
    refine ⟨.inr ⟨hopen, .inl rfl, some s.dpa.handle, [], nofun, by simp [Dpa.call]⟩, fun _ t => ?_⟩
    · rintro ⟨l, hl, hcalls⟩ htells
      refine .inr ⟨hopen, htells, some s.dpa.handle, l, hl, hcalls.trans ?_⟩
      simp [Dpa.call]

lemma ctrlConnectMsg_begins {err : DpaError} (hrun : ctrlConnectMsg s = .ok (err, t)) :
    Begins s t := by
  rw [ctrlConnectMsg, get_bind] at hrun
  obtain ⟨err₁, s₁, hcreate, hrun⟩ := run_bind_ok hrun
  obtain ⟨hbegins, hmore⟩ := createConnectInterrupt_begins hcreate
  rw [ite_run] at hrun
  split at hrun
  case isTrue =>
      obtain ⟨-, rfl⟩ := Prod.mk.inj (Except.ok.inj hrun)
      exact hbegins
  case isFalse herr =>
      rw [ne_eq, not_not] at herr
      exact hmore herr t (keeps_sendConnectData (ignores_unnumbered nofun)
        (ignores_unnumbered nofun) _ _ _ _
        hrun) (sendConnectData_tells hrun)

lemma sendMsgAcceptData_begins {err : DpaError} (hzero : s.host.ep.connectData.acceptIntId = 0)
    (hrun : sendMsgAcceptData s = .ok (err, t)) : Begins s t := by
  rw [sendMsgAcceptData, get_bind, hzero] at hrun
  obtain ⟨err₁, s₁, hcreate, hrun⟩ := run_bind_ok hrun
  obtain ⟨hbegins, hmore⟩ := createConnectInterrupt_begins hcreate
  rw [ite_run] at hrun
  split at hrun
  case isTrue =>
      obtain ⟨-, rfl⟩ := Prod.mk.inj (Except.ok.inj hrun)
      exact hbegins
  case isFalse herr =>
      rw [ne_eq, not_not] at herr
      obtain ⟨⟨err₂, data⟩, s₂, halloc, hrun⟩ := run_bind_ok hrun
      obtain ⟨-, rfl⟩ := Prod.mk.inj (Except.ok.inj hrun)
      refine hmore herr _ (keeps_allocSendBuffer (ignores_unnumbered nofun)
        (ignores_unnumbered nofun) (ignores_unnumbered nofun) (ignores_unnumbered nofun)
        (ignores_unnumbered nofun) (ignores_unnumbered nofun)
        _ _ _ _ halloc) (allocSendBuffer_tells halloc)

lemma setProgress_same {q : ℕ} {progress : Option Progress} {a : Unit}
    (hrun : setProgress q progress s = .ok (a, t)) : t.dpa = s.dpa ∧ t.sent = s.sent := by
  obtain ⟨-, rfl⟩ := Prod.mk.inj (Except.ok.inj hrun)
  exact ⟨rfl, rfl⟩

lemma Begins.same (h : Begins s s₁) (hdpa : t.dpa = s₁.dpa) (hsent : t.sent = s₁.sent) :
    Begins s t := by
  rcases h with ⟨herr, ⟨l, hl, hcalls⟩, hunsent⟩ | ⟨herr, htells, sd, l, hl, hcalls⟩
  · exact .inl ⟨herr, ⟨l, hl, hdpa ▸ hcalls⟩, hsent.trans hunsent⟩
  · exact .inr ⟨herr, htells.quiet hsent, sd, l, hl, hdpa ▸ hcalls⟩

lemma dpaConnect_begins {r : FiErr} (hrun : dpaConnect s = .ok (r, t)) :
    (s.host.ep.eq = none ∧ t = s) ∨ (s.host.ep.eq ≠ none ∧ Begins s t) := by
  rw [dpaConnect, get_bind] at hrun
  cases heq : s.host.ep.eq with
  | none =>
      simp only [heq] at hrun
      exact .inl ⟨rfl, (Prod.mk.inj (Except.ok.inj hrun)).2.symm⟩
  | some q =>
      simp only [heq] at hrun
      obtain ⟨err, s₁, hconnect, hrun⟩ := run_bind_ok hrun
      have hbegins := ctrlConnectMsg_begins hconnect
      refine .inr ⟨nofun, ?_⟩
      rw [ite_run] at hrun
      split at hrun
      · obtain ⟨-, rfl⟩ := Prod.mk.inj (Except.ok.inj hrun)
        exact hbegins
      · obtain ⟨_, s₂, hset, hrun⟩ := run_bind_ok hrun
        obtain ⟨-, rfl⟩ := Prod.mk.inj (Except.ok.inj hrun)
        exact hbegins.same (setProgress_same hset).1 (setProgress_same hset).2

lemma dpaAccept_begins {r : FiErr} (hzero : s.host.ep.connectData.acceptIntId = 0)
    (hrun : dpaAccept s = .ok (r, t)) : Begins s t := by
  obtain ⟨err, s₁, haccept, hrun⟩ := run_bind_ok hrun
  have hbegins := sendMsgAcceptData_begins hzero haccept
  rw [ite_run] at hrun
  split at hrun
  · obtain ⟨-, rfl⟩ := Prod.mk.inj (Except.ok.inj hrun)
    exact hbegins
  · rw [get_bind] at hrun
    cases heq : s₁.host.ep.eq with
    | none =>
        simp only [heq] at hrun
        exact absurd hrun throw_ne_ok
    | some q =>
        simp only [heq] at hrun
        obtain ⟨_, s₂, hset, hrun⟩ := run_bind_ok hrun
        obtain ⟨-, rfl⟩ := Prod.mk.inj (Except.ok.inj hrun)
        exact hbegins.same (setProgress_same hset).1 (setProgress_same hset).2

/-- A handshake ends with the removal of its interrupt. -/
def Removes (s t : Site) : Prop :=
  ∃ l interrupt l', (∀ c ∈ l', c.numbers = false)
    ∧ t.dpa.calls = s.dpa.calls ++ l ++ .removeDataInterrupt interrupt :: l'

lemma finishConnection_removes {data : SegmentData} {timeout r : ℤ}
    (hrun : finishConnection data timeout s = .ok (r, t)) : Removes s t := by
  obtain ⟨data', s₁, hprepares, hrest⟩ := run_finishConnection_ok hrun
  have hquiet : unnumbered.rel s s₁ := hprepares.rel (keeps_allocSendBuffer
    (ignores_unnumbered nofun) (ignores_unnumbered nofun) (ignores_unnumbered nofun)
    (ignores_unnumbered nofun) (ignores_unnumbered nofun) (ignores_unnumbered nofun) _)
  obtain ⟨l', hl', hcalls⟩ := keeps_connectOrDisconnect (F := unnumbered) (ignores_unnumbered nofun)
    (ignores_unnumbered nofun) (ignores_unnumbered nofun) (ignores_unnumbered nofun) data'
    timeout _ _ _ hrest
  obtain ⟨l, -, hbefore⟩ := hquiet
  refine ⟨l, s.host.ep.connectInterrupt, l', hl', hcalls.trans ?_⟩
  simp [Dpa.call, hbefore]

lemma progressEpEq_removes {timeout r : ℤ} (hrun : progressEpEq timeout s = .ok (r, t)) :
    (unnumbered.rel s t ∧ t.sent = s.sent) ∨ Removes s t := by
  rw [progressEpEq, get_bind] at hrun
  obtain ⟨⟨err, data⟩, s₁, hwait, hrun⟩ := run_bind_ok hrun
  have hquiet := keeps_progressEq (F := unnumbered) (ignores_unnumbered nofun) _ _ _ _ _ hwait
  have hunsent := keeps_progressEq (F := unsent) (ignores_unsent nofun) _ _ _ _ _ hwait
  simp only [ite_run] at hrun
  split at hrun
  · obtain ⟨-, rfl⟩ := Prod.mk.inj (Except.ok.inj hrun)
    exact .inl ⟨hquiet, hunsent⟩
  · obtain ⟨l, interrupt, l', hl', hcalls⟩ := finishConnection_removes hrun
    obtain ⟨l₀, -, hbefore⟩ := hquiet
    refine .inr ⟨l₀ ++ l, interrupt, l', hl', hcalls.trans ?_⟩
    rw [hbefore, List.append_assoc s.dpa.calls]

/-! ### What the calls leave behind -/

/-- The number for which an endpoint asks after a call that led from `s` to `t`. -/
def askedAfter (s t : Site) (number : Option UInt32) : Option UInt32 :=
  (t.dpa.calls.drop s.dpa.calls.length).foldl asked number

/-- The number that its message has told. -/
def toldAfter (s t : Site) (number : Option UInt32) : Option UInt32 :=
  match (t.sent.drop s.sent.length).getLast? with
  | some (_, data) => some data.acceptIntId
  | none => if (t.dpa.calls.drop s.dpa.calls.length).any DpaCall.numbers then none else number

lemma askedAfter_unnumbered (h : unnumbered.rel s t) (number : Option UInt32) :
    askedAfter s t number = number := by
  obtain ⟨l, hl, hcalls⟩ := h
  rw [askedAfter, hcalls, List.drop_left, asked_unnumbered hl]

lemma toldAfter_unnumbered (h : unnumbered.rel s t) (hsent : t.sent = s.sent)
    (number : Option UInt32) :
    toldAfter s t number = number := by
  obtain ⟨l, hl, hcalls⟩ := h
  simp [toldAfter, hsent, hcalls, any_unnumbered hl]

lemma Begins.asked (h : Begins s t) (hok : s.dpa.reply.err = .ok) (number : Option UInt32) :
    askedAfter s t number = some 0 := by
  rcases h with ⟨herr, -⟩ | ⟨-, -, sd, l, hl, hcalls⟩
  · exact absurd hok herr
  · rw [askedAfter, hcalls, List.drop_left]
    exact asked_unnumbered hl (some 0)

lemma Begins.told (h : Begins s t) (hok : s.dpa.reply.err = .ok) {number : Option UInt32}
    {n : UInt32}
    (hn : toldAfter s t number = some n) : n = 0 := by
  rcases h with ⟨herr, -⟩ | ⟨-, htells, sd, l, -, hcalls⟩
  · exact absurd hok herr
  rcases htells with hsent | ⟨peer, data, hzero, hsent⟩
  · simp [toldAfter, hsent, hcalls, DpaCall.numbers] at hn
  · simp only [toldAfter, hsent, List.drop_left, List.getLast?_singleton, Option.some.injEq] at hn
    rw [← hn, hzero]

lemma Removes.asked (h : Removes s t) (number : Option UInt32) : askedAfter s t number = none := by
  obtain ⟨l, interrupt, l', hl', hcalls⟩ := h
  rw [askedAfter, hcalls, List.append_assoc, List.drop_left, List.foldl_append, List.foldl_cons]
  exact asked_unnumbered hl' none

end Site

/-- A process, and for each endpoint the number of the interrupt that it has asked for and not yet
removed, and the number that its message has told the peer. -/
structure Numbers where
  process : Process
  asked : ℕ → Option UInt32
  told : ℕ → Option UInt32

namespace Numbers

variable {w w' : Numbers} {k : ℕ} {p' : Process}

/-- The calls of the connection management, and a read of an event queue. -/
inductive Event where
  | dpaListen (k : ℕ)
  | dpaPepClose (k : ℕ)
  | dpaConnect (k : ℕ)
  | dpaAccept (k : ℕ)
  | dpaShutdown (k : ℕ)
  | read (q : ℕ) (timeout : ℤ)

/-- After a call on the endpoint `k`. -/
def after (w : Numbers) (k : ℕ) (p' : Process) : Numbers where
  process := p'
  asked := Function.update w.asked k (askedAfter w.process.site p'.site (w.asked k))
  told := Function.update w.told k (toldAfter w.process.site p'.site (w.told k))

def step (w : Numbers) : Event → Option Numbers
  | .dpaListen k => (w.process.onPep k Site.dpaListen).toOption.map fun r =>
      { w with process := r.2 }
  | .dpaPepClose k => (w.process.onPep k Site.dpaPepClose).toOption.map fun r =>
      { w with process := r.2 }
  | .dpaConnect k => (w.process.onEp k Site.dpaConnect).toOption.map fun r => w.after k r.2
  | .dpaAccept k => (w.process.onEp k Site.dpaAccept).toOption.map fun r => w.after k r.2
  | .dpaShutdown k => (w.process.onEp k Site.dpaShutdown).toOption.map fun r => w.after k r.2
  | .read q timeout => (w.process.makeQueueProgress q timeout).toOption.map fun r =>
      match (w.process.site.eqs q).progress with
      | some (.progressEpEq k) => w.after k r.2
      | _ => { w with process := r.2 }

/-- Every endpoint waits on the number that it has told its peer, and no two on the same. -/
def Distinct (w : Numbers) : Prop :=
  ∀ k n, w.asked k = some n →
    (∀ m, w.told k = some m → m = n) ∧ ∀ j, w.asked j = some n → j = k

/-- A step leads to distinct numbers. -/
def Lawful (w : Numbers) (e : Event) : Prop := ∀ w', w.step e = some w' → Distinct w'

/-- No endpoint but `k` is in a handshake. -/
def Alone (w : Numbers) (k : ℕ) : Prop := ∀ j, w.asked j ≠ none → j = k

/-- A handshake begins, if a descriptor is opened for it, while no other endpoint is in one. -/
def Fine (w : Numbers) : Event → Prop
  | .dpaConnect k =>
      (w.process.eps k).eq = none ∨ w.process.site.dpa.reply.err ≠ .ok ∨ w.Alone k
  | .dpaAccept k => w.process.site.dpa.reply.err ≠ .ok ∨ w.Alone k
  | _ => True

/-- The fields that no one sets are zero, and so are the numbers. -/
structure Zero (w : Numbers) : Prop where
  connectData : ∀ k, (w.process.eps k).connectData.acceptIntId = 0
  asked : ∀ k n, w.asked k = some n → n = 0
  told : ∀ k n m, w.asked k = some n → w.told k = some m → m = 0

/-- No handshake begins in the step. -/
structure Calm (w w' : Numbers) : Prop where
  connectData : ∀ k, (w'.process.eps k).connectData = (w.process.eps k).connectData
  asked : ∀ k n, w'.asked k = some n → w.asked k = some n ∧ w'.told k = w.told k

/-- The endpoint `k` begins a handshake. -/
structure Begun (w w' : Numbers) (k : ℕ) : Prop where
  connectData : ∀ j, (w'.process.eps j).connectData = (w.process.eps j).connectData
  asked : w'.asked = Function.update w.asked k (some 0)
  told : ∀ n, w'.told k = some n → n = 0
  others : ∀ j, j ≠ k → w'.told j = w.told j

lemma Zero.calm (h : Zero w) (hcalm : Calm w w') : Zero w' where
  connectData k := (congrArg _ (hcalm.connectData k)).trans (h.connectData k)
  asked k n hn := h.asked k n (hcalm.asked k n hn).1
  told k n m hn hm := by
    obtain ⟨hn, htold⟩ := hcalm.asked k n hn
    exact h.told k n m hn (htold ▸ hm)

lemma Zero.begun (h : Zero w) (hbegun : Begun w w' k) : Zero w' where
  connectData j := (congrArg _ (hbegun.connectData j)).trans (h.connectData j)
  asked j n hn := by
    rcases eq_or_ne j k with rfl | hne
    · rw [hbegun.asked, Function.update_self] at hn
      exact (Option.some.inj hn).symm
    · rw [hbegun.asked, Function.update_of_ne hne] at hn
      exact h.asked j n hn
  told j n m hn hm := by
    rcases eq_or_ne j k with rfl | hne
    · exact hbegun.told m hm
    · rw [hbegun.asked, Function.update_of_ne hne] at hn
      exact h.told j n m hn (hbegun.others j hne ▸ hm)

lemma Distinct.calm (h : Distinct w) (hcalm : Calm w w') : Distinct w' := by
  intro k n hn
  obtain ⟨hn, htold⟩ := hcalm.asked k n hn
  obtain ⟨htells, halone⟩ := h k n hn
  exact ⟨fun m hm => htells m (htold ▸ hm), fun j hj => halone j (hcalm.asked j n hj).1⟩

/-- As all numbers are the same, they are distinct if only one endpoint is in a handshake. -/
lemma Zero.distinct_begun (h : Zero w) (hbegun : Begun w w' k) : Distinct w' ↔ w.Alone k := by
  have hzero := h.begun hbegun
  constructor
  · intro hdistinct j hj
    obtain ⟨n, hn⟩ := Option.ne_none_iff_exists'.1 hj
    obtain rfl := h.asked j n hn
    by_contra hne
    have hself : w'.asked k = some 0 := by rw [hbegun.asked, Function.update_self]
    have hother : w'.asked j = some 0 := by rw [hbegun.asked, Function.update_of_ne hne, hn]
    exact hne ((hdistinct k 0 hself).2 j hother)
  · intro halone j n hn
    have honly (i : ℕ) (hi : w'.asked i ≠ none) : i = k := by
      by_contra hne
      rw [hbegun.asked, Function.update_of_ne hne] at hi
      exact hne (halone i hi)
    have hj : j = k := honly j (hn ▸ nofun)
    refine ⟨fun m hm => ?_, fun i hi => (honly i (hi ▸ nofun)).trans hj.symm⟩
    rw [hzero.told j n m hn hm, hzero.asked j n hn]

/-! ### Steps -/

section Endpoint

variable {α : Type} {m : Prog α} {a : α} (hm : Keeps connectData m)

include hm

lemma onEp_connectData (hrun : w.process.onEp k m = .ok (a, p')) (j : ℕ) :
    (p'.eps j).connectData = (w.process.eps j).connectData := by
  obtain ⟨s, hcall, rfl⟩ := Process.onEp_ok hrun
  dsimp only
  rcases eq_or_ne j k with rfl | hne
  · rw [Function.update_self]
    exact hm _ a s hcall
  · rw [Function.update_of_ne hne]

/-- A call that leaves the interrupts alone, or ends a handshake. -/
lemma calm_onEp (hrun : w.process.onEp k m = .ok (a, p'))
    (hcalm : (unnumbered.rel w.process.site p'.site ∧ p'.site.sent = w.process.site.sent)
      ∨ Removes w.process.site p'.site) : Calm w (w.after k p') where
  connectData := onEp_connectData hm hrun
  asked j n hn := by
    rcases eq_or_ne j k with rfl | hne
    · simp only [after, Function.update_self] at hn ⊢
      rcases hcalm with ⟨hquiet, hsent⟩ | hremoves
      · exact ⟨(askedAfter_unnumbered hquiet _).symm.trans hn, toldAfter_unnumbered hquiet hsent _⟩
      · exact absurd ((hremoves.asked _).symm.trans hn) nofun
    · simp only [after, Function.update_of_ne hne] at hn ⊢
      exact ⟨hn, trivial⟩

/-- A call that begins a handshake. -/
lemma begun_onEp (hrun : w.process.onEp k m = .ok (a, p'))
    (hbegins : Begins w.process.site p'.site) (hok : w.process.site.dpa.reply.err = .ok) :
    Begun w (w.after k p') k where
  connectData := onEp_connectData hm hrun
  asked := by rw [after, hbegins.asked hok]
  told n hn := by
    simp only [after, Function.update_self] at hn
    exact hbegins.told hok hn
  others j hne := Function.update_of_ne hne ..

end Endpoint

/-- Handshakes that begin on an endpoint, if a descriptor is opened for them. -/
lemma begins_cases {α : Type} {m : Prog α} {a : α} (hm : Keeps connectData m)
    (hrun : w.process.onEp k m = .ok (a, p')) (hbegins : Begins w.process.site p'.site) :
    (w.process.site.dpa.reply.err ≠ .ok ∧ Calm w (w.after k p'))
      ∨ (w.process.site.dpa.reply.err = .ok ∧ Begun w (w.after k p') k) := by
  rcases eq_or_ne w.process.site.dpa.reply.err .ok with hok | hfail
  · exact .inr ⟨hok, begun_onEp hm hrun hbegins hok⟩
  · rcases hbegins with ⟨-, hquiet, hsent⟩ | ⟨hok, -⟩
    · exact .inl ⟨hfail, calm_onEp hm hrun (.inl ⟨hquiet, hsent⟩)⟩
    · exact absurd hok hfail

/-- Passive endpoints are in no handshake. -/
lemma calm_onPep {α : Type} {m : Prog α} {a : α} (hrun : w.process.onPep k m = .ok (a, p')) :
    Calm w { w with process := p' } := by
  obtain ⟨s, -, rfl⟩ := Process.onPep_ok hrun
  exact ⟨fun _ => rfl, fun _ _ hn => ⟨hn, rfl⟩⟩

/-- A step begins a handshake, which is fine if the endpoint is alone, or is calm. -/
lemma step_cases {e : Event} (h : Zero w) (hstep : w.step e = some w') :
    (w.Fine e ∧ Calm w w') ∨ ∃ k, (w.Fine e ↔ w.Alone k) ∧ Begun w w' k := by
  cases e with
  | dpaListen k =>
      obtain ⟨⟨r, p'⟩, hrun, rfl⟩ := Option.map_eq_some_iff.1 hstep
      exact .inl ⟨trivial, calm_onPep (toOption_eq_some hrun)⟩
  | dpaPepClose k =>
      obtain ⟨⟨r, p'⟩, hrun, rfl⟩ := Option.map_eq_some_iff.1 hstep
      exact .inl ⟨trivial, calm_onPep (toOption_eq_some hrun)⟩
  | dpaConnect k =>
      obtain ⟨⟨r, p'⟩, hcall, rfl⟩ := Option.map_eq_some_iff.1 hstep
      replace hcall := toOption_eq_some hcall
      have hkeeps : Keeps connectData Site.dpaConnect := keeps_dpaConnect (ignores_connectData _)
        (ignores_connectData _) (ignores_connectData _) (ignores_connectData _)
        (ignores_connectData _)
      obtain ⟨s, hrun, hp'⟩ := Process.onEp_ok hcall
      have hsite : p'.site = s := by rw [hp']
      rcases dpaConnect_begins hrun with ⟨heq, rfl⟩ | ⟨heq, hbegins⟩
      · refine .inl ⟨.inl heq, calm_onEp hkeeps hcall (.inl ?_)⟩
        rw [hsite]
        exact ⟨unnumbered.refl _, rfl⟩
      · rcases begins_cases hkeeps hcall (hsite ▸ hbegins) with ⟨hfail, hcalm⟩ | ⟨hok, hbegun⟩
        · exact .inl ⟨.inr (.inl hfail), hcalm⟩
        · refine .inr ⟨k, ⟨fun hfine => ?_, fun halone => .inr (.inr halone)⟩, hbegun⟩
          exact hfine.elim (absurd · heq) fun hfine => hfine.elim (absurd hok) id
  | dpaAccept k =>
      obtain ⟨⟨r, p'⟩, hcall, rfl⟩ := Option.map_eq_some_iff.1 hstep
      replace hcall := toOption_eq_some hcall
      have hkeeps : Keeps connectData Site.dpaAccept :=
        keeps_dpaAccept (.of_ignores fun _ _ _ => ignores_connectData _) (ignores_connectData _)
      obtain ⟨s, hrun, hp'⟩ := Process.onEp_ok hcall
      have hsite : p'.site = s := by rw [hp']
      have hbegins := dpaAccept_begins (h.connectData k) hrun
      rcases begins_cases hkeeps hcall (hsite ▸ hbegins) with ⟨hfail, hcalm⟩ | ⟨hok, hbegun⟩
      · exact .inl ⟨.inl hfail, hcalm⟩
      · exact .inr ⟨k, ⟨fun hfine => hfine.elim (absurd hok) id, .inr⟩, hbegun⟩
  | dpaShutdown k =>
      obtain ⟨⟨r, p'⟩, hcall, rfl⟩ := Option.map_eq_some_iff.1 hstep
      replace hcall := toOption_eq_some hcall
      obtain ⟨s, hrun, hp'⟩ := Process.onEp_ok hcall
      have hsite : p'.site = s := by rw [hp']
      have hquiet := keeps_dpaShutdown (F := unnumbered) (ignores_unnumbered nofun)
        (ignores_unnumbered nofun) _ _ _ hrun
      have hsent := keeps_dpaShutdown (F := unsent) (ignores_unsent nofun) (ignores_unsent nofun)
        _ _ _ hrun
      refine .inl ⟨trivial, calm_onEp (keeps_dpaShutdown (ignores_connectData _)
        (ignores_connectData _)) hcall (.inl ?_)⟩
      rw [hsite]
      exact ⟨hquiet, hsent⟩
  | read q timeout =>
      obtain ⟨⟨r, p'⟩, hcall, rfl⟩ := Option.map_eq_some_iff.1 hstep
      replace hcall := toOption_eq_some hcall
      refine .inl ⟨trivial, ?_⟩
      rw [Process.makeQueueProgress] at hcall
      split at hcall
      case h_1 hslot =>
          obtain ⟨-, rfl⟩ := Prod.mk.inj (Except.ok.inj hcall)
          simp only [hslot]
          exact ⟨fun _ => rfl, fun _ _ hn => ⟨hn, rfl⟩⟩
      case h_2 j hslot =>
          simp only [hslot]
          exact calm_onPep hcall
      case h_3 j hslot =>
          simp only [hslot]
          obtain ⟨s, hrun, hp'⟩ := Process.onEp_ok hcall
          have hsite : p'.site = s := by rw [hp']
          have hremoves := progressEpEq_removes hrun
          exact calm_onEp (keeps_progressEpEq (.of_ignores fun _ _ _ => ignores_connectData _) _)
            hcall (hsite ▸ hremoves)

/-! ### Runs -/

/-- A step is lawful exactly if it is fine. -/
lemma lawful_iff_fine {e : Event} (h : Zero w) (hd : Distinct w) (hstep : w.step e = some w') :
    w.Lawful e ↔ w.Fine e := by
  have hlawful : w.Lawful e ↔ Distinct w' := by
    refine ⟨fun hl => hl w' hstep, fun hl v hv => ?_⟩
    obtain rfl := Option.some.inj (hstep.symm.trans hv)
    exact hl
  rcases step_cases h hstep with ⟨hfine, hcalm⟩ | ⟨k, hfine, hbegun⟩
  · exact iff_of_true (hlawful.2 (hd.calm hcalm)) hfine
  · rw [hlawful, hfine, h.distinct_begun hbegun]

/-- Fine steps keep the numbers zero and distinct. -/
lemma step_sound {e : Event} (h : Zero w ∧ Distinct w) (hfine : w.Fine e)
    (hstep : w.step e = some w') : Zero w' ∧ Distinct w' := by
  rcases step_cases h.1 hstep with ⟨-, hcalm⟩ | ⟨k, halone, hbegun⟩
  · exact ⟨h.1.calm hcalm, h.2.calm hcalm⟩
  · exact ⟨h.1.begun hbegun, (h.1.distinct_begun hbegun).2 (halone.1 hfine)⟩

/-- A process in which no handshake has begun. -/
def start (p : Process) : Numbers := ⟨p, fun _ => none, fun _ => none⟩

/-- From a process in which no handshake has begun, each endpoint waits on a number of its own, the
one it has told its peer, all along exactly those runs in which handshakes do not overlap. -/
theorem numbers_distinct {p : Process} (hzero : ∀ k, (p.eps k).connectData.acceptIntId = 0)
    {events : List Event} (hrun : Stepper.run step (start p) events = some w) :
    Stepper.Meets step Lawful (start p) events ↔ Stepper.Meets step Fine (start p) events :=
  Stepper.meets_iff (I := fun w => Zero w ∧ Distinct w)
    (fun _ _ _ h hstep => lawful_iff_fine h.1 h.2 hstep) (fun _ _ _ h => step_sound h)
    ⟨⟨hzero, nofun, nofun⟩, nofun⟩ hrun

/-- The other endpoints are not in the handshake. -/
lemma asked_connect {j : ℕ} (hstep : w.step (.dpaConnect k) = some w') (hne : j ≠ k) :
    w'.asked j = w.asked j := by
  obtain ⟨r, -, rfl⟩ := Option.map_eq_some_iff.1 hstep
  exact Function.update_of_ne hne ..

lemma asked_read {q j : ℕ} {timeout : ℤ} (hstep : w.step (.read q timeout) = some w')
    (hslot : (w.process.site.eqs q).progress = some (.progressEpEq k)) (hne : j ≠ k) :
    w'.asked j = w.asked j := by
  obtain ⟨r, -, rfl⟩ := Option.map_eq_some_iff.1 hstep
  simp only [hslot]
  exact Function.update_of_ne hne ..

/-- A client connects, its handshake ends, and another one connects. -/
def inTurn : List Event := [.dpaConnect 0, .read 0 5, .dpaConnect 1]

theorem numbers_distinct_inTurn :
    ∃ w, Stepper.run step (start .granted) inTurn = some w ∧ w.asked 0 = none ∧ w.asked 1 = some 0
      ∧ Stepper.Meets step Lawful (start .granted) inTurn := by
  have hview : (Stepper.run step (start .granted) [.dpaConnect 0]).map
      (fun w => (w.process.site.eqs 0).progress) = some (some (.progressEpEq 0)) := by
    decide +kernel
  have hview' : (Stepper.run step (start .granted) [.dpaConnect 0, .read 0 5]).map
      (fun w => w.asked 0) = some none := by decide +kernel
  have hview'' : (Stepper.run step (start .granted) inTurn).map (fun w => (w.asked 0, w.asked 1))
      = some (none, some 0) := by decide +kernel
  obtain ⟨w₁, hfirst, hslot⟩ := Option.map_eq_some_iff.1 hview
  obtain ⟨w₂, hboth, hended⟩ := Option.map_eq_some_iff.1 hview'
  obtain ⟨w, hrun, hasked⟩ := Option.map_eq_some_iff.1 hview''
  obtain ⟨hnone, hsome⟩ := Prod.mk.inj hasked
  obtain ⟨w₁', hconnect, hnil⟩ := Stepper.run_cons_some _ hfirst
  obtain rfl : w₁' = w₁ := Option.some.inj hnil
  obtain ⟨w₁', hconnect', hlast⟩ := Stepper.run_cons_some _ hboth
  obtain rfl := Option.some.inj (hconnect.symm.trans hconnect')
  obtain ⟨w₂', hread, hnil'⟩ := Stepper.run_cons_some _ hlast
  obtain rfl : w₂' = w₂ := Option.some.inj hnil'
  refine ⟨w, hrun, hnone, hsome, (numbers_distinct (fun _ => rfl) hrun).2 ?_⟩
  refine (Stepper.meets_cons hconnect).2 ⟨.inr (.inr fun j hj => absurd rfl hj), ?_⟩
  refine (Stepper.meets_cons hread).2 ⟨trivial, .inr (.inr fun j hj => absurd ?_ hj), ?_⟩
  · rcases eq_or_ne j 0 with rfl | hne
    · exact hended
    · rw [asked_read hread hslot hne, asked_connect hconnect hne]
      rfl
  · exact fun _ _ => trivial

/-! ### Overlapping handshakes -/

/-- Before the call `i`, an interrupt with the number was created and not removed. -/
def inUse (d : Dpa) (interruptId : UInt32) (i : ℕ) : Bool :=
  (List.range i).any fun h =>
    match d.calls[h]? with
    | some (.createDataInterrupt _ n) => n = interruptId && (d.replies h).err = .ok
        && ((List.range i).drop h).all fun j => d.calls[j]? ≠ some (.removeDataInterrupt (some h))
    | _ => false

/-- The library creates no interrupt with a number that is in use. -/
def FixedNumbers (d : Dpa) : Bool :=
  (List.range d.calls.length).all fun i =>
    match d.calls[i]? with
    | some (.createDataInterrupt _ n) => !inUse d n i || (d.replies i).err ≠ .ok
    | _ => true

/-- A library that grants every call but the second of two for an interrupt. -/
def refusing : Process where
  site := { Process.granted.site with
    dpa := { calls := [], replies := fun i =>
      ⟨if i = 8 then .segmentIdUsed else .ok, 7, .ofNode 0, 64⟩ } }
  eps := Process.granted.eps
  peps := Process.granted.peps

/-- Two clients connect: both ask for the number 0, and the second is refused it. -/
theorem numbers_collide :
    ∃ w, Stepper.run step (start refusing) [.dpaConnect 0, .dpaConnect 1] = some w
      ∧ FixedNumbers w.process.site.dpa = true ∧ ¬ Distinct w := by
  have hview : (Stepper.run step (start refusing) [.dpaConnect 0, .dpaConnect 1]).map
      (fun w => (FixedNumbers w.process.site.dpa, w.asked 0, w.asked 1))
      = some (true, some 0, some 0) := by decide +kernel
  obtain ⟨w, hrun, hw⟩ := Option.map_eq_some_iff.1 hview
  simp only [Prod.mk.injEq] at hw
  obtain ⟨hfixed, hfirst, hsecond⟩ := hw
  exact ⟨w, hrun, hfixed, fun h => absurd ((h 0 0 hfirst).2 1 hsecond) one_ne_zero⟩

end Numbers

end DpaProvider
