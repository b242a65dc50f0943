import DpaProvider.Cm.Agreement
import DpaProvider.Lifetimes.References
import DpaProvider.Library.Stepper

/-!
Objects that are used after they are closed.

An application that passes open objects of the right class, and closes each before those it is bound
to, keeps all bindings open.  What is left are the references that no such rule covers: the argument
of a progress slot, and the passive endpoint of a connection request.

* `dpaEpBind_fine`, `closeFid_fine`, …: a call keeps the references as they have to be;
* `dpaEpBind_bindings`: queues and counters are bound as in the model of manual progress;
* `interruptNeeded_recv`, `interruptNeeded_send`: what waits with a queue or counter is found as in
  the model of one process;
* `call_freed`: a stale call uses a closed endpoint;
* `used_after_close`: no other call does.
-/

namespace DpaProvider

open Arena

namespace Objects

/-- A new endpoint is not bound to anything. -/
lemma unbound_of_open {x : OpenDomain} {fid : ℕ} {info : Option FabricInfo}
    {entries : ℕ → MsgQueueEntry} {ep : Endpoint} (hep : x.dpaEpOpen fid info entries = .ok ep) :
    ep.eq = none ∧ (∀ c ∈ [ep.sendCq, ep.recvCq, ep.readCq, ep.writeCq], c = none)
      ∧ (∀ c ∈ [ep.sendCntr, ep.recvCntr, ep.readCntr, ep.writeCntr], c = none)
      ∧ ep.av = none := by
  simp only [OpenDomain.dpaEpOpen] at hep
  split at hep
  case h_1 => cases hep
  case h_2 =>
      split at hep
      case h_1 => cases hep
      case h_2 =>
          split at hep
          case isTrue => cases hep
          case isFalse =>
              rw [DpaProvider.dpaEpOpen] at hep
              split at hep
              case isTrue => cases hep
              case isFalse =>
                  obtain rfl := Except.ok.inj hep
                  simp

/-! ### What the calls do -/

section Calls

variable {a : Objects} {n k d f : ℕ} {o : Fid} {e : FidEp} {p : FidPep} {q : FidEq}
  {c : FidQueue} {err : FiErr} {completed : Bool}

variable (h : Sound Fid.shape a)

include h

lemma bound (he : Open a n (.ep e)) : Bound a e := (bound_of_fits (h.fits n _ he)).1

lemma opening_fine {x : Except FiErr Fid} (hfits : ∀ o, x = .ok o → Fits Fid.shape a o) :
    Fine Fid.shape (.ok (a.opening x)) := by
  cases x with
  | error err => exact h
  | ok o => exact h.add (hfits o rfl)

omit h in
lemma fits_queue_open (hd : HasDomain a d) {waitObj : WaitObj}
    (ho : o = .cq ⟨d, waitObj, ⟨none, none⟩⟩ ∨ o = .cntr ⟨d, waitObj, ⟨none, none⟩⟩) :
    Fits Fid.shape a o :=
  (fits_queue ho).2 ⟨hd, nofun⟩

lemma dpaDomainOpen_fine (fabric : ℕ) (info : Option FabricInfo) :
    Fine Fid.shape (a.dpaDomainOpen fabric info) := by
  refine opening_fine h fun o ho => ?_
  obtain ⟨x, -, rfl⟩ := Except.map_eq_ok ho
  exact fits_domain _

lemma dpaCntrOpen_fine (hd : HasDomain a d) (waitObj : Option WaitObj) :
    Fine Fid.shape (a.dpaCntrOpen d waitObj) := by
  obtain ⟨x, hx⟩ := hd
  rw [dpaCntrOpen, use_bind (f := Fid.domain?) hx rfl]
  exact h.add (fits_queue_open ⟨x, hx⟩ (.inr rfl))

lemma dpaMrReg_fine (hd : HasDomain a d) (err : FiErr) : Fine Fid.shape (a.dpaMrReg d err) := by
  obtain ⟨x, hx⟩ := hd
  rw [dpaMrReg, use_bind (f := Fid.domain?) hx rfl]
  refine opening_fine h fun o ho => ?_
  split at ho
  case isTrue => exact fits_member (.inr (Except.ok.inj ho).symm) ⟨x, hx⟩
  case isFalse => cases ho

lemma dpaPassiveEpOpen_fine (fabric : ℕ) (info : Option FabricInfo) :
    Fine Fid.shape (a.dpaPassiveEpOpen fabric info) := by
  refine opening_fine h fun o ho => ?_
  obtain ⟨pep, hpep, rfl⟩ := Except.map_eq_ok ho
  refine fits_pep.2 fun q hq => ?_
  simp only [DpaProvider.dpaPassiveEpOpen] at hpep
  split at hpep
  case h_1 => cases hpep
  case h_2 =>
      split at hpep
      case h_1 => cases hpep
      case h_2 =>
          split at hpep
          case isTrue => cases hpep
          case isFalse =>
              obtain rfl := Except.ok.inj hpep
              cases hq

lemma dpaEpOpen_fine (hd : HasDomain a d) (info : Option FabricInfo) {handle : Option ℕ}
    (hhandle : ∀ k, handle = some k → ∃ o, a.objects[k]? = some o ∧ o.cls.1 = .pep)
    (entries : ℕ → MsgQueueEntry) : Fine Fid.shape (a.dpaEpOpen d info handle entries) := by
  obtain ⟨x, hx⟩ := hd
  rw [dpaEpOpen, use_bind (f := Fid.domain?) hx rfl]
  refine opening_fine h fun o ho => ?_
  obtain ⟨ep, hep, rfl⟩ := Except.map_eq_ok ho
  obtain ⟨heq, hcqs, hcntrs, hav⟩ := unbound_of_open hep
  refine Bound.fits ⟨⟨x, hx, fun q hq => ?_⟩, fun c hc => ?_, fun c hc => ?_, fun v hv => ?_,
    fun m hm => ?_⟩ fun k hk => ?_
  · cases heq.symm.trans hq
  · exact absurd (hcqs _ hc) (Option.some_ne_none c)
  · exact absurd (hcntrs _ hc) (Option.some_ne_none c)
  · cases hav.symm.trans hv
  · cases hm
  · obtain ⟨o, ho, hcls⟩ := hhandle k hk
    obtain ⟨p, rfl⟩ := cls_pep hcls
    exact ⟨p, ho⟩

/-! ### Data transfer and reads -/

omit h in
lemma useCq_ok (hb : Bound a e) {cq : Option ℕ}
    (hcq : cq ∈ [e.sendCq, e.recvCq, e.readCq, e.writeCq]) : a.useCq cq = .ok () := by
  cases cq with
  | none => rfl
  | some n =>
      obtain ⟨x, hx, hdom⟩ := hb.cqs n hcq
      obtain ⟨y, hy, -⟩ := hb.domain
      rw [useCq, use_bind (f := Fid.cq?) hx rfl, use_bind (f := Fid.domain?) (hdom ▸ hy) rfl]
      rfl

omit h in
lemma useCntr_ok (hb : Bound a e) {cntr : Option ℕ}
    (hcntr : cntr ∈ [e.sendCntr, e.recvCntr, e.readCntr, e.writeCntr]) :
    a.useCntr cntr = .ok () := by
  cases cntr with
  | none => rfl
  | some n =>
      obtain ⟨x, hx, -⟩ := hb.cntrs n hcntr
      rw [useCntr, use_bind (f := Fid.cntr?) hx rfl]
      rfl

omit h in
lemma complete_ok (hb : Bound a e) {cq cntr : Option ℕ}
    (hcq : cq ∈ [e.sendCq, e.recvCq, e.readCq, e.writeCq])
    (hcntr : cntr ∈ [e.sendCntr, e.recvCntr, e.readCntr, e.writeCntr]) :
    a.complete completed cq cntr = .ok () := by
  rw [complete]
  cases completed with
  | false => rfl
  | true =>
      rw [if_pos rfl, useCq_ok hb hcq, useCntr_ok hb hcntr]
      rfl

omit h in
lemma complete_dir_ok (hb : Bound a e) (dir : Direction) :
    a.complete completed (e.cq dir) (e.cntr dir) = .ok () := by
  cases dir with
  | send => exact complete_ok hb (by simp [Endpoint.cq]) (by simp [Endpoint.cntr])
  | recv => exact complete_ok hb (by simp [Endpoint.cq]) (by simp [Endpoint.cntr])

omit h in
/-- The address vector is open, or there is none. -/
lemma acquireTarget_gives (hb : Bound a e) : Gives (fun _ => True) (a.acquireTarget e) := by
  rw [acquireTarget]
  cases e.connected with
  | true => trivial
  | false =>
      rw [Bool.not_false, if_pos rfl]
      cases hav : e.av with
      | none => exact rfl
      | some v =>
          dsimp only
          rw [use_bind (f := Fid.av?) (hb.av v hav) rfl]
          trivial

lemma post_fine (he : Open a n (.ep e)) (op : Operation) : Fine Fid.shape (a.post n op) := by
  have hb := bound h he
  rw [post, use_bind (f := Fid.ep?) he rfl]
  cases op with
  | transfer dir completed =>
      dsimp only
      rw [complete_dir_ok hb]
      exact h
  | read ret =>
      refine (acquireTarget_gives hb).bind fun _ _ => ?_
      rw [complete_ok hb (by simp) (by simp)]
      exact h
  | write ret =>
      refine (acquireTarget_gives hb).bind fun _ _ => ?_
      rw [complete_ok hb (by simp) (by simp)]
      exact h

lemma processQueue_ok (he : Open a n (.ep e)) (dir : Direction) :
    a.processQueue n dir completed = .ok () := by
  rw [processQueue, use_bind (f := Fid.ep?) he rfl, complete_dir_ok (bound h he)]

lemma makeQueueProgress_gives {p : QueueProgress} {completed : Direction → Bool}
    (hep : ∀ k, p.arg = some k → ∃ x, a.objects[k]? = some (.ep x))
    (hopen : p.func.isSome → ∀ k, p.arg = some k → k ∉ a.closed) :
    Gives (fun _ => True) (a.makeQueueProgress p completed) := by
  rw [makeQueueProgress]
  cases harg : p.arg with
  | none =>
      cases p.func with
      | none => trivial
      | some func => exact rfl
  | some k =>
      cases hfunc : p.func with
      | none => trivial
      | some func =>
          obtain ⟨x, hx⟩ := hep k harg
          have hk : Open a k (.ep x) := ⟨hx, hopen (by rw [hfunc]; rfl) k harg⟩
          have hstep (dir : Direction) : a.processQueue k dir (completed dir) = .ok () :=
            processQueue_ok h hk dir
          cases func <;> simp only [Bindings.directions, hstep] <;> trivial

omit h in
lemma makeQueueProgress_freed {p : QueueProgress} (completed : Direction → Bool)
    (hfunc : p.func.isSome) (harg : p.arg = some k) (hk : k ∈ a.closed) :
    a.makeQueueProgress p completed = .error .freed := by
  have hstep (dir : Direction) : a.processQueue k dir (completed dir) = .error .freed :=
    use_freed_bind hk _
  obtain ⟨func, hf⟩ := Option.isSome_iff_exists.1 hfunc
  rw [makeQueueProgress, harg, hf]
  cases func <;> simp only [Bindings.directions, hstep] <;> rfl

lemma readCq_fine {completed : Direction → Bool} (hc : Open a n (.cq c))
    (hstale : ¬ a.Stale (.readCq n completed)) : Fine Fid.shape (a.readCq n completed) := by
  obtain ⟨⟨x, hx⟩, hep⟩ := (fits_queue (.inl rfl)).1 (h.fits n _ hc)
  have hopen : c.progress.func.isSome → ∀ k, c.progress.arg = some k → k ∉ a.closed :=
    fun hfunc k harg hk => hstale ⟨c, k, hc, hfunc, harg, hk⟩
  rw [readCq, use_bind (f := Fid.cq?) hc rfl]
  refine (makeQueueProgress_gives h hep hopen).bind fun _ _ => ?_
  rw [use_bind (f := Fid.domain?) hx rfl]
  exact h

lemma readCntr_fine {completed : Direction → Bool} (hc : Open a n (.cntr c))
    (hstale : ¬ a.Stale (.readCntr n completed)) : Fine Fid.shape (a.readCntr n completed) := by
  obtain ⟨-, hep⟩ := (fits_queue (.inr rfl)).1 (h.fits n _ hc)
  have hopen : c.progress.func.isSome → ∀ k, c.progress.arg = some k → k ∉ a.closed :=
    fun hfunc k harg hk => hstale ⟨c, k, hc, hfunc, harg, hk⟩
  rw [readCntr, use_bind (f := Fid.cntr?) hc rfl]
  exact (makeQueueProgress_gives h hep hopen).bind fun _ _ => h

/-! ### Buffers -/

omit h in
/-- A queue or counter that waits is open, or there is none. -/
lemma waits_gives {f : Fid → Option FidQueue} {tested bound : Option ℕ}
    (hbound : ∀ n, bound = some n → ∃ o x, Open a n o ∧ f o = some x) :
    Gives (fun _ => True) (a.waits f tested bound) := by
  cases tested with
  | none => trivial
  | some t =>
      cases bound with
      | none => exact rfl
      | some n =>
          obtain ⟨o, x, ho, hx⟩ := hbound n rfl
          dsimp only [waits]
          rw [use_bind ho hx]
          trivial

omit h in
lemma open_cq (hb : Bound a e) {dir : Direction} (hk : e.cq dir = some k) :
    ∃ c : FidQueue, Open a k (.cq c) := by
  obtain ⟨c, hc, -⟩ := hb.cqs k (by cases dir <;> simp_all [Endpoint.cq])
  exact ⟨c, hc⟩

omit h in
lemma open_cntr (hb : Bound a e) {dir : Direction} (hk : e.cntr dir = some k) :
    ∃ c : FidQueue, Open a k (.cntr c) := by
  obtain ⟨c, hc, -⟩ := hb.cntrs k (by cases dir <;> simp_all [Endpoint.cntr])
  exact ⟨c, hc⟩

omit h in
lemma interruptNeeded_gives (hb : Bound a e) (x : FidDomain) (dir : Direction) :
    Gives (fun _ => True) (a.interruptNeeded x e dir) := by
  have hcq (k : ℕ) (hk : e.cq dir = some k) : ∃ o c, Open a k o ∧ Fid.cq? o = some c := by
    obtain ⟨c, hc⟩ := open_cq hb hk
    exact ⟨_, c, hc, rfl⟩
  have hcntr (k : ℕ) (hk : e.cntr dir = some k) : ∃ o c, Open a k o ∧ Fid.cntr? o = some c := by
    obtain ⟨c, hc⟩ := open_cntr hb hk
    exact ⟨_, c, hc, rfl⟩
  rw [interruptNeeded]
  split
  case isTrue => trivial
  case isFalse =>
      refine (waits_gives hcq).bind fun w _ => ?_
      cases w with
      | true => trivial
      | false => exact waits_gives hcntr

omit h in
/-- What a queue or counter that is open waits with. -/
lemma waits_eq {f : Fid → Option FidQueue} {waitObj : ℕ → WaitObj} (tested : Option ℕ)
    {bound : Option ℕ}
    (hbound : ∀ n, bound = some n → ∃ o x, Open a n o ∧ f o = some x ∧ waitObj n = x.waitObj) :
    (tested.isSome = true → bound.isSome = true)
        ∧ a.waits f tested bound = .ok (tested.isSome && Site.waitsUnspec waitObj bound)
      ∨ ¬ (tested.isSome = true → bound.isSome = true)
        ∧ a.waits f tested bound = .error .nullPointer := by
  cases tested with
  | none => exact .inl ⟨nofun, rfl⟩
  | some t =>
      cases bound with
      | none => exact .inr ⟨fun h => absurd (h rfl) nofun, rfl⟩
      | some n =>
          obtain ⟨o, x, ho, hx, hwait⟩ := hbound n rfl
          refine .inl ⟨fun _ => rfl, ?_⟩
          dsimp only [waits]
          rw [use_bind ho hx, Option.isSome_some, Bool.true_and, Site.waitsUnspec, hwait]
          rfl

/-- The model of one process has the endpoint, its domain and its queues as they are. -/
structure Mirrors (a : Objects) (x : FidDomain) (e : FidEp) (s : Site) : Prop where
  ep : s.host.ep = e.toEndpoint
  auto : e.autoProgress = decide (x.domain.dataProgress = .auto)
  cqs : ∀ k q, Open a k (.cq q) → (s.host.cqs k).waitObj = q.waitObj
  cntrs : ∀ k c, Open a k (.cntr c) → (s.host.cntrs k).waitObj = c.waitObj

section Mirrors

variable {x : FidDomain} {s : Site} (hs : Mirrors a x e s) (hb : Bound a e)

include hs hb

omit h in
lemma mirrored_cq (dir : Direction) (k : ℕ) (hk : e.cq dir = some k) :
    ∃ o y, Open a k o ∧ Fid.cq? o = some y ∧ (s.host.cqs k).waitObj = y.waitObj := by
  obtain ⟨y, hy⟩ := open_cq hb hk
  exact ⟨_, y, hy, rfl, hs.cqs k y hy⟩

omit h in
lemma mirrored_cntr (dir : Direction) (k : ℕ) (hk : e.cntr dir = some k) :
    ∃ o y, Open a k o ∧ Fid.cntr? o = some y ∧ (s.host.cntrs k).waitObj = y.waitObj := by
  obtain ⟨y, hy⟩ := open_cntr hb hk
  exact ⟨_, y, hy, rfl, hs.cntrs k y hy⟩

omit h in
/-- An interrupt for the receives is needed as in the model of one process. -/
theorem interruptNeeded_recv :
    a.interruptNeeded x e .recv = .ok (Site.recvInterruptNeeded s) := by
  have hsome (waitObj : ℕ → WaitObj) (bound : Option ℕ) :
      (bound.isSome && Site.waitsUnspec waitObj bound) = Site.waitsUnspec waitObj bound := by
    cases bound <;> rfl
  have hcq := (waits_eq e.recvCq (mirrored_cq hs hb .recv)).resolve_right fun h => h.1 id
  have hcntr := (waits_eq e.recvCntr (mirrored_cntr hs hb .recv)).resolve_right fun h => h.1 id
  rw [interruptNeeded, Site.recvInterruptNeeded, hs.ep, hs.auto]
  split
  case isTrue hauto =>
      rw [decide_eq_true hauto]
      rfl
  case isFalse hauto =>
      rw [decide_eq_false hauto, hcq.2, hcntr.2, Endpoint.cq, Endpoint.cntr, hsome, hsome]
      cases Site.waitsUnspec (fun q => (s.host.cqs q).waitObj) e.recvCq <;> rfl

omit h in
/-- So is one for the sends, and the null pointer is followed in the same cases. -/
theorem interruptNeeded_send :
    s.SendBound ∧ a.interruptNeeded x e .send = .ok s.sendNeeded
      ∨ ¬ s.SendBound ∧ a.interruptNeeded x e .send = .error .nullPointer := by
  have hcq := waits_eq e.recvCq (mirrored_cq hs hb .send)
  have hcntr := waits_eq e.recvCntr (mirrored_cntr hs hb .send)
  rw [interruptNeeded, Site.SendBound, Site.sendNeeded, hs.ep, hs.auto]
  split
  case isTrue hauto =>
      refine .inl ⟨.inl (decide_eq_true hauto), ?_⟩
      rw [decide_eq_true hauto]
      rfl
  case isFalse hauto =>
      rw [decide_eq_false hauto]
      rcases hcq with ⟨hbound, hcq⟩ | ⟨hunbound, hcq⟩ <;> rw [hcq]
      · cases hw : e.recvCq.isSome
            && Site.waitsUnspec (fun q => (s.host.cqs q).waitObj) (e.cq .send) with
        | true => exact .inl ⟨.inr ⟨hbound, fun h => absurd (h.symm.trans hw) Bool.false_ne_true⟩, by
            rw [Endpoint.cq] at hw
            rw [hw]
            rfl⟩
        | false =>
            rw [Endpoint.cq] at hw
            rw [hw]
            rcases hcntr with ⟨hbound', hcntr⟩ | ⟨hunbound', hcntr⟩
            · exact .inl ⟨.inr ⟨hbound, fun _ => hbound'⟩, hcntr⟩
            · exact .inr ⟨fun h => hunbound' ((h.resolve_left Bool.false_ne_true).2 rfl), hcntr⟩
      · exact .inr ⟨fun h => hunbound (h.resolve_left Bool.false_ne_true).1, rfl⟩

end Mirrors

omit h in
lemma allocRecv_gives (hb : Bound a e) (x : FidDomain) (r : BufferReplies) :
    Gives (fun _ => True) (a.allocRecv x e r) := by
  rw [allocRecv]
  split
  case isTrue => trivial
  case isFalse =>
      split
      case isTrue => trivial
      case isFalse => exact (interruptNeeded_gives hb x .recv).bind fun w _ => trivial

omit h in
lemma allocSend_gives (hb : Bound a e) (x : FidDomain) (r : BufferReplies) :
    Gives (fun _ => True) (a.allocSend x e r) := by
  rw [allocSend]
  split
  case isTrue => trivial
  case isFalse =>
      split
      case isTrue => trivial
      case isFalse => exact (interruptNeeded_gives hb x .send).bind fun w _ => trivial

omit h in
/-- The buffer is no reference. -/
lemma allocMsgBuffer_gives (he : Fits Fid.shape a (.ep e)) (r : BufferReplies) :
    Gives (fun s => s.2.domain = e.domain ∧ Fits Fid.shape a (.ep s.2))
      (a.allocMsgBuffer e r) := by
  have hb := (bound_of_fits he).1
  obtain ⟨x, hx, -⟩ := hb.domain
  rw [allocMsgBuffer]
  split
  case isTrue => exact ⟨rfl, he⟩
  case isFalse =>
      cases r.buffer with
      | none => exact ⟨rfl, he⟩
      | some buffer =>
          dsimp only
          rw [use_bind (f := Fid.domain?) hx rfl]
          refine (allocRecv_gives hb x r).bind fun err _ => ?_
          split
          case isTrue => exact ⟨rfl, he⟩
          case isFalse =>
              refine (allocSend_gives hb x r).bind fun err _ => ?_
              split
              case isTrue => exact ⟨rfl, he⟩
              case isFalse => exact ⟨rfl, he.held, he.noted, he.agree⟩

omit h in
lemma allocSendBuffer_gives (he : Fits Fid.shape a (.ep e)) (r : BufferReplies) :
    Gives (fun s => s.2.domain = e.domain ∧ Fits Fid.shape a (.ep s.2))
      (a.allocSendBuffer e r) :=
  (allocMsgBuffer_gives he r).bind fun _ hs => hs

/-! ### Events -/

omit h in
/-- The event queue is open, or there is none. -/
lemma useEq_ok {eq : Option ℕ} (heq : ∀ q, eq = some q → HasEq a f q) : a.useEq eq = .ok () := by
  cases eq with
  | none => rfl
  | some q =>
      obtain ⟨x, hx, -⟩ := heq q rfl
      rw [useEq, use_bind (f := Fid.eq?) hx rfl]
      rfl

/-- An endpoint changes, and keeps what it refers to. -/
lemma set_ep_sound (he : Open a n (.ep e)) {e' : FidEp} (hdomain : e'.domain = e.domain)
    (hfits : Fits Fid.shape a (.ep e')) : Sound Fid.shape (a.set n (.ep e')) :=
  h.set he (congrArg (Prod.mk FidClass.ep) hdomain) hfits

omit h in
lemma connectMsg_gives (he : Fits Fid.shape a (.ep e)) (connects : Bool) :
    Gives (fun e' => e'.domain = e.domain ∧ Fits Fid.shape a (.ep e'))
      (a.connectMsg e connects) := by
  obtain ⟨x, -, heq⟩ := (bound_of_fits he).1.domain
  rw [connectMsg]
  cases connects with
  | false => exact ⟨rfl, he⟩
  | true =>
      rw [if_pos rfl, useEq_ok heq]
      exact ⟨rfl, he.held, he.noted, he.agree⟩

omit h in
lemma finishConnection_gives (he : Fits Fid.shape a (.ep e)) (m : Arrival) :
    Gives (fun e' => e'.domain = e.domain ∧ Fits Fid.shape a (.ep e'))
      (a.finishConnection e m) := by
  have hconnect (e₁ : FidEp) (hdomain : e₁.domain = e.domain) (he₁ : Fits Fid.shape a (.ep e₁)) :
      Gives (fun e' => e'.domain = e.domain ∧ Fits Fid.shape a (.ep e')) (do
        let e ← a.connectMsg e₁ m.connects
        return if m.err ≠ .ok then { e with connected := false } else e) := by
    refine (connectMsg_gives he₁ m.connects).bind fun e₂ ⟨hdomain₂, he₂⟩ => ?_
    split
    case isTrue => exact ⟨hdomain₂.trans hdomain, he₂.held, he₂.noted, he₂.agree⟩
    case isFalse => exact ⟨hdomain₂.trans hdomain, he₂⟩
  rw [finishConnection]
  split
  case isTrue =>
      have hbuffer : Gives (fun e' => e'.domain = e.domain ∧ Fits Fid.shape a (.ep e'))
          (Prod.snd <$> a.allocSendBuffer e m.replies) :=
        (allocSendBuffer_gives he m.replies).bind fun _ hs => hs
      exact hbuffer.bind fun e₁ he₁ => hconnect e₁ he₁.1 he₁.2
  case isFalse => exact hconnect e rfl he

lemma readEq_fine {arrives : Option Arrival} (hq : Open a n (.eq q))
    (hstale : ¬ a.Stale (.readEq n arrives)) : Fine Fid.shape (a.readEq n arrives) := by
  have hserves := fits_eq.1 (h.fits n _ hq)
  rw [readEq, use_bind (f := Fid.eq?) hq rfl]
  cases hu : q.progress with
  | none => exact h
  | some u =>
      obtain ⟨x, hx, hcls⟩ := hserves u hu
      have hopen : Open a u.fid x := ⟨hx, fun hclosed => hstale ⟨q, u, hq, hu, hclosed⟩⟩
      cases u with
      | progressPepEq k =>
          obtain ⟨p, rfl⟩ := cls_pep hcls
          replace hopen : Open a k (.pep p) := hopen
          dsimp only
          rw [use_bind (f := Fid.pep?) hopen rfl]
          cases arrives with
          | none => exact h
          | some connected =>
              rw [Option.isSome_some, if_pos rfl, useEq_ok (fits_pep.1 (h.fits _ _ hopen))]
              exact h
      | progressEpEq k =>
          obtain ⟨e, rfl⟩ := cls_ep hcls
          replace hopen : Open a k (.ep e) := hopen
          dsimp only
          rw [use_bind (f := Fid.ep?) hopen rfl]
          cases arrives with
          | none => exact h
          | some m =>
              exact (finishConnection_gives (h.fits _ _ hopen) m).bind fun e' he' =>
                set_ep_sound h hopen he'.1 he'.2

/-! ### Binding, connections and closing -/

omit h in
lemma bindProgress_eq {x : FidDomain} (hd : Open a d (.domain x)) (p : QueueProgress)
    (flags : UInt64) : a.bindProgress n d p flags
      = .ok (p.bind (x.domain.dataProgress = .auto) n flags) := by
  rw [bindProgress, use_bind (f := Fid.domain?) hd rfl]
  rfl

omit h in
/-- A completion queue or a counter is bound as in the model of manual progress. -/
theorem dpaEpBind_bindings {s : Bindings} (he : Open a n (.ep e)) {b : ℕ} {queue : Queue}
    (ho : (o = .cq c ∧ queue = .cq b) ∨ (o = .cntr c ∧ queue = .cntr b)) (hc : Open a b o)
    {x : FidDomain} (hx : Open a e.domain (.domain x)) (hdom : e.domain = c.domain)
    (hep : s.eps n = e.toEndpoint) (hprogress : s.progress queue = c.progress)
    (hauto : e.autoProgress = decide (x.domain.dataProgress = .auto)) (flags : UInt64) :
    ∃ a', a.dpaEpBind n (some b) flags = .ok ((s.dpaEpBind n queue flags).1, a')
      ∧ a'.objects[n]? = some (.ep { e with toEndpoint := (s.dpaEpBind n queue flags).2.eps n })
      ∧ ∃ o', a'.objects[b]? = some o'
        ∧ (o' = .cq { c with progress := (s.dpaEpBind n queue flags).2.progress queue }
          ∨ o' = .cntr { c with progress := (s.dpaEpBind n queue flags).2.progress queue }) := by
  have hne : n ≠ b := fun heq => by
    rcases ho with ⟨rfl, -⟩ | ⟨rfl, -⟩ <;> cases he.unique (heq ▸ hc)
  rw [dpaEpBind, use_bind (f := Fid.ep?) he rfl]
  cases hcon : e.connected with
  | true =>
      have hsame : s.dpaEpBind n queue flags = (.eisconn, s) := by
        rw [Bindings.dpaEpBind, hep, if_pos hcon]
      rw [hsame, hep, hprogress]
      refine ⟨a, rfl, he.1, o, hc.1, ?_⟩
      rcases ho with ⟨rfl, -⟩ | ⟨rfl, -⟩
      · exact .inl rfl
      · exact .inr rfl
  | false =>
      have hcon' : (s.eps n).connected = false := hep ▸ hcon
      have heps : (s.dpaEpBind n queue flags).2.eps n
          = Bindings.enter queue flags e.toEndpoint := by
        rw [Bindings.bind_eps hcon', Function.update_self, hep]
      have hbound : (s.dpaEpBind n queue flags).2.progress queue
          = c.progress.bind (x.domain.dataProgress = .auto) n flags := by
        rw [Bindings.dpaEpBind, hcon', if_neg Bool.false_ne_true]
        dsimp only
        rw [Bindings.bindProgress_progress, hep, hprogress, hauto]
      have herr : (s.dpaEpBind n queue flags).1 = .success := by
        rw [Bindings.dpaEpBind, hcon', if_neg Bool.false_ne_true]
      rw [heps, hbound, herr, if_neg Bool.false_ne_true, use_bind (f := some) hc rfl]
      rcases ho with ⟨rfl, rfl⟩ | ⟨rfl, rfl⟩
      all_goals
        dsimp only
        rw [if_neg (not_not.2 hdom), bindProgress_eq hx]
        exact ⟨_, rfl, set_getElem?_self (he.set_of_ne hne), _,
          (set_getElem?_of_ne hne.symm).trans (set_getElem?_self hc), by simp⟩

/-- The progress of a bound queue is that of an endpoint. -/
lemma fits_bind (he : Open a n (.ep e)) {b : ℕ} (ho : o = .cq c ∨ o = .cntr c)
    (hb : Open a b o) (auto : Bool) (flags : UInt64) {o' : Fid}
    (ho' : o' = .cq { c with progress := c.progress.bind auto n flags }
      ∨ o' = .cntr { c with progress := c.progress.bind auto n flags }) :
    Fits Fid.shape a o' := by
  obtain ⟨hdomain, hep⟩ := (fits_queue ho).1 (h.fits b _ hb)
  refine (fits_queue ho').2 ⟨hdomain, fun k hk => ?_⟩
  rw [QueueProgress.bind] at hk
  split at hk
  case isTrue => exact hep k hk
  case isFalse =>
      obtain rfl := Option.some.inj hk
      exact ⟨e, he.1⟩

omit h in
/-- A completion queue of the domain is entered. -/
lemma Bound.enter_cq (hb : Bound a e) {b : ℕ} (ho : Open a b (.cq c)) (hdom : e.domain = c.domain)
    (flags : UInt64) :
    Bound a { e with toEndpoint := Bindings.enter (.cq b) flags e.toEndpoint } where
  domain := hb.domain
  cqs m hm := by
    have hcases : some m ∈ [e.sendCq, e.recvCq, e.readCq, e.writeCq] ∨ m = b := by
      simp only [Bindings.enter, List.mem_cons, List.not_mem_nil, or_false] at hm ⊢
      grind
    rcases hcases with hold | rfl
    · exact hb.cqs m hold
    · exact ⟨c, ho, hdom.symm⟩
  cntrs := hb.cntrs
  av := hb.av
  mr := hb.mr

omit h in
/-- A counter of the domain is entered. -/
lemma Bound.enter_cntr (hb : Bound a e) {b : ℕ} (ho : Open a b (.cntr c))
    (hdom : e.domain = c.domain) (flags : UInt64) :
    Bound a { e with toEndpoint := Bindings.enter (.cntr b) flags e.toEndpoint } where
  domain := hb.domain
  cqs := hb.cqs
  cntrs m hm := by
    have hcases : some m ∈ [e.sendCntr, e.recvCntr, e.readCntr, e.writeCntr] ∨ m = b := by
      simp only [Bindings.enter, List.mem_cons, List.not_mem_nil, or_false] at hm ⊢
      grind
    rcases hcases with hold | rfl
    · exact hb.cntrs m hold
    · exact ⟨c, ho, hdom.symm⟩
  av := hb.av
  mr := hb.mr

lemma dpaEpBind_fine (he : Open a n (.ep e)) {bfid : Option ℕ}
    (hbfid : ∀ b, bfid = some b → ∃ o, Open a b o) (flags : UInt64) :
    Fine Fid.shape (a.dpaEpBind n bfid flags) := by
  cases bfid with
  | none => exact h
  | some b =>
      obtain ⟨o, ho⟩ := hbfid b rfl
      obtain ⟨hb, hpep⟩ := bound_of_fits (h.fits n _ he)
      obtain ⟨x, hx, heq⟩ := hb.domain
      rw [dpaEpBind, use_bind (f := Fid.ep?) he rfl]
      split
      case isTrue => exact h
      case isFalse =>
          rw [use_bind (f := some) ho rfl]
          cases o with
          | domain | pep | ep => exact h
          | eq q =>
              dsimp only
              rw [use_bind (f := Fid.domain?) hx rfl]
              split
              case isTrue => exact h
              case isFalse hfabric =>
                  refine h.set he rfl (Bound.fits ⟨⟨x, hx, fun q' hq' => ?_⟩, hb.cqs, hb.cntrs,
                    hb.av, hb.mr⟩ hpep)
                  obtain rfl := Option.some.inj hq'
                  exact ⟨q, ho, (not_not.1 hfabric).symm⟩
          | cq c =>
              dsimp only
              split
              case isTrue => exact h
              case isFalse hdom =>
                  have hne : n ≠ b := fun heq => by cases he.unique (heq ▸ ho)
                  rw [bindProgress_eq hx]
                  exact h.set_set he ho hne rfl rfl
                    ((hb.enter_cq ho (not_not.1 hdom) flags).fits hpep)
                    (fits_bind h he (.inl rfl) ho _ flags (.inl rfl))
          | cntr c =>
              dsimp only
              split
              case isTrue => exact h
              case isFalse hdom =>
                  have hne : n ≠ b := fun heq => by cases he.unique (heq ▸ ho)
                  rw [bindProgress_eq hx]
                  exact h.set_set he ho hne rfl rfl
                    ((hb.enter_cntr ho (not_not.1 hdom) flags).fits hpep)
                    (fits_bind h he (.inr rfl) ho _ flags (.inr rfl))
          | av d =>
              dsimp only
              split
              case isTrue => exact h
              case isFalse hdom =>
                  refine h.set he rfl (Bound.fits ⟨hb.domain, hb.cqs, hb.cntrs, fun v hv => ?_,
                    hb.mr⟩ hpep)
                  obtain rfl := Option.some.inj hv
                  exact (not_not.1 hdom) ▸ ho
          | mr d =>
              dsimp only
              split
              case isTrue => exact h
              case isFalse hdom =>
                  refine h.set he rfl (Bound.fits ⟨hb.domain, hb.cqs, hb.cntrs, hb.av,
                    fun m hm => ?_⟩ hpep)
                  obtain rfl := Option.some.inj hm
                  exact (not_not.1 hdom) ▸ ho

lemma dpaPepBind_fine (hp : Open a n (.pep p)) {bfid : Option ℕ}
    (hbfid : ∀ b, bfid = some b → ∃ o, Open a b o) : Fine Fid.shape (a.dpaPepBind n bfid) := by
  cases bfid with
  | none => exact h
  | some b =>
      obtain ⟨o, ho⟩ := hbfid b rfl
      rw [dpaPepBind, use_bind (f := Fid.pep?) hp rfl, use_bind (f := some) ho rfl]
      cases o with
      | eq q =>
          dsimp only
          split
          case isTrue => exact h
          case isFalse hfabric =>
              refine h.set hp rfl (fits_pep.2 fun q' hq' => ?_)
              obtain rfl := Option.some.inj hq'
              exact ⟨q, ho, (not_not.1 hfabric).symm⟩
      | _ => exact h

omit h in
lemma setProgress_eq (hq : Open a k (.eq q)) (progress : Option Progress) :
    a.setProgress k progress = .ok (a.set k (.eq { q with progress })) := by
  rw [setProgress, use_bind (f := Fid.eq?) hq rfl]
  rfl

/-- The progress of an open endpoint is put into the slot of an open queue. -/
lemma setProgress_sound (hq : HasEq a f k) {u : Progress}
    (hu : ∃ x, a.objects[u.fid]? = some x ∧ x.cls.1 = u.cls) :
    ∃ b, a.setProgress k (some u) = .ok b ∧ Sound Fid.shape b := by
  obtain ⟨x, hx, -⟩ := hq
  refine ⟨_, setProgress_eq hx (some u), h.set hx rfl (fits_eq.2 fun u' hu' => ?_)⟩
  obtain rfl := Option.some.inj hu'
  exact hu

lemma dpaListen_fine (hp : Open a n (.pep p)) (err : DpaError) :
    Fine Fid.shape (a.dpaListen n err) := by
  have heq := fits_pep.1 (h.fits n _ hp)
  rw [dpaListen, use_bind (f := Fid.pep?) hp rfl]
  cases hq : p.eq with
  | none => exact h
  | some q =>
      obtain ⟨b, hb, hsound⟩ := setProgress_sound h (heq q hq) (u := .progressPepEq n)
        ⟨_, hp.1, rfl⟩
      dsimp only
      split
      case isTrue => exact h
      case isFalse =>
          split
          case isTrue => exact h
          case isFalse =>
              rw [hb]
              exact hsound

lemma dpaConnect_fine (he : Open a n (.ep e)) (err : DpaError) :
    Fine Fid.shape (a.dpaConnect n err) := by
  obtain ⟨x, hx, heq⟩ := (bound h he).domain
  rw [dpaConnect, use_bind (f := Fid.ep?) he rfl]
  cases hq : e.eq with
  | none => exact h
  | some q =>
      obtain ⟨b, hb, hsound⟩ := setProgress_sound h (heq q hq) (u := .progressEpEq n)
        ⟨_, he.1, rfl⟩
      dsimp only
      split
      case isTrue => exact h
      case isFalse =>
          rw [hb]
          exact hsound

lemma dpaAccept_fine (he : Open a n (.ep e)) (err : DpaError) (r : BufferReplies) :
    Fine Fid.shape (a.dpaAccept n err r) := by
  rw [dpaAccept, use_bind (f := Fid.ep?) he rfl]
  split
  case isTrue => exact h
  case isFalse =>
      refine (allocSendBuffer_gives (h.fits n _ he) r).bind fun s ⟨hdomain, hfits⟩ => ?_
      have hsound := set_ep_sound h he hdomain hfits
      dsimp only
      split
      case isTrue => exact hsound
      case isFalse =>
          cases hq : s.2.eq with
          | none => exact rfl
          | some q =>
              have he' : Open (a.set n (.ep s.2)) n (.ep s.2) := ⟨set_getElem?_self he, he.2⟩
              obtain ⟨x, -, heq⟩ := (bound hsound he').domain
              obtain ⟨b, hb, hsound'⟩ := setProgress_sound hsound (heq q hq)
                (u := .progressEpEq n) ⟨_, he'.1, rfl⟩
              dsimp only
              rw [hb]
              exact hsound'

lemma dpaShutdown_fine (he : Open a n (.ep e)) (err : DpaError) :
    Fine Fid.shape (a.dpaShutdown n err) := by
  rw [dpaShutdown, use_bind (f := Fid.ep?) he rfl]
  have hfits := h.fits n _ he
  split
  case isTrue => exact h
  case isFalse => exact set_ep_sound h he rfl ⟨hfits.held, hfits.noted, hfits.agree⟩

lemma dpaGetname_fine (he : Open a n (.ep e)) (hstale : ¬ a.Stale (.dpaGetname n)) :
    Fine Fid.shape (a.dpaGetname n) := by
  have hpep := (bound_of_fits (h.fits n _ he)).2
  rw [dpaGetname, use_bind (f := Fid.ep?) he rfl]
  cases hk : e.pep with
  | none => exact h
  | some k =>
      obtain ⟨p, hp⟩ := hpep k hk
      have hopen : Open a k (.pep p) := ⟨hp, fun hclosed => hstale ⟨e, k, he, hk, hclosed⟩⟩
      dsimp only
      rw [use_bind (f := Fid.pep?) hopen rfl]
      exact h

lemma closeFid_fine (ho : Open a n o) (hreleased : Released Fid.shape a n) :
    Fine Fid.shape (a.closeFid n) := by
  rw [closeFid, use_bind (f := some) ho rfl]
  cases o with
  | pep p =>
      have heq := fits_pep.1 (h.fits n _ ho)
      cases hq : p.eq with
      | none =>
          dsimp only
          rw [hq]
          exact h.close ho hreleased
      | some q =>
          obtain ⟨x, hx, -⟩ := heq q hq
          have hne : n ≠ q := fun heq => by cases ho.unique (heq ▸ hx)
          have hset : Sound Fid.shape (a.set q (.eq { x with progress := none })) :=
            h.set hx rfl (fits_eq.2 nofun)
          dsimp only
          rw [hq]
          dsimp only
          rw [setProgress_eq hx]
          refine hset.close (ho.set_of_ne hne) fun m y hy hm r hr => ?_
          rcases Open.of_set hx hy with ⟨-, rfl⟩ | ⟨-, hold⟩
          · exact absurd hr List.not_mem_nil
          · exact hreleased m y hold hm r hr
  | _ => exact h.close ho hreleased

/-! ### Runs of calls -/

/-- A call that follows the rules, and that is not stale. -/
lemma call_fine {c : Call} (horderly : a.Orderly c) (hstale : ¬ a.Stale c) :
    Fine Fid.shape (a.call c) := by
  cases c with
  | dpaDomainOpen fabric info => exact dpaDomainOpen_fine h fabric info
  | dpaEqOpen fabric => exact h.add (fits_eq.2 nofun)
  | dpaCqOpen d waitObj => exact h.add (fits_queue_open horderly.domain (.inl rfl))
  | dpaCntrOpen d waitObj => exact dpaCntrOpen_fine h horderly.domain waitObj
  | dpaAvOpen d => exact h.add (fits_member (.inl rfl) horderly.domain)
  | dpaMrReg d err => exact dpaMrReg_fine h horderly.domain err
  | dpaPassiveEpOpen fabric info => exact dpaPassiveEpOpen_fine h fabric info
  | dpaEpOpen d info handle entries =>
      exact dpaEpOpen_fine h horderly.1.domain info horderly.2 entries
  | dpaEpBind n bfid flags =>
      obtain ⟨e, he⟩ := horderly.1.ep
      exact dpaEpBind_fine h he horderly.2 flags
  | dpaPepBind n bfid =>
      obtain ⟨p, hp⟩ := horderly.1.pep
      exact dpaPepBind_fine h hp horderly.2
  | dpaListen n err =>
      obtain ⟨p, hp⟩ := horderly.pep
      exact dpaListen_fine h hp err
  | dpaConnect n err =>
      obtain ⟨e, he⟩ := horderly.ep
      exact dpaConnect_fine h he err
  | dpaAccept n err r =>
      obtain ⟨e, he⟩ := horderly.ep
      exact dpaAccept_fine h he err r
  | dpaShutdown n err =>
      obtain ⟨e, he⟩ := horderly.ep
      exact dpaShutdown_fine h he err
  | dpaGetname n =>
      obtain ⟨e, he⟩ := horderly.ep
      exact dpaGetname_fine h he hstale
  | post n op =>
      obtain ⟨e, he⟩ := horderly.ep
      exact post_fine h he op
  | readCq n completed =>
      obtain ⟨c, hc⟩ := horderly.cq
      exact readCq_fine h hc hstale
  | readCntr n completed =>
      obtain ⟨c, hc⟩ := horderly.cntr
      exact readCntr_fine h hc hstale
  | readEq n arrives =>
      obtain ⟨q, hq⟩ := horderly.eq
      exact readEq_fine h hq hstale
  | close n =>
      obtain ⟨⟨o, ho⟩, hreleased⟩ := horderly
      exact closeFid_fine h ho hreleased

omit h in
/-- A stale call uses the closed endpoint. -/
lemma call_freed {c : Call} (hstale : a.Stale c) : a.call c = .error .freed := by
  cases c with
  | readCq n completed =>
      obtain ⟨q, k, hq, hfunc, harg, hk⟩ := hstale
      rw [call, readCq, use_bind (f := Fid.cq?) hq rfl,
        makeQueueProgress_freed completed hfunc harg hk]
      rfl
  | readCntr n completed =>
      obtain ⟨q, k, hq, hfunc, harg, hk⟩ := hstale
      rw [call, readCntr, use_bind (f := Fid.cntr?) hq rfl,
        makeQueueProgress_freed completed hfunc harg hk]
      rfl
  | readEq n arrives =>
      obtain ⟨q, u, hq, hu, hk⟩ := hstale
      rw [call, readEq, use_bind (f := Fid.eq?) hq rfl, hu]
      cases u with
      | progressPepEq k => exact use_freed_bind hk _
      | progressEpEq k => exact use_freed_bind hk _
  | dpaGetname n =>
      obtain ⟨e, k, he, hpep, hk⟩ := hstale
      rw [call, dpaGetname, use_bind (f := Fid.ep?) he rfl, hpep]
      exact use_freed_bind hk _
  | _ => exact hstale.elim

/-- A call that returns keeps the references as they have to be. -/
lemma step_sound {b : Objects} {c : Call} (horderly : a.Orderly c) (hstep : a.step c = some b) :
    Sound Fid.shape b := by
  rw [step] at hstep
  by_cases hstale : a.Stale c
  · rw [call_freed hstale] at hstep
    cases hstep
  · have hfine := call_fine h horderly hstale
    cases hcall : a.call c with
    | error fault =>
        rw [hcall] at hstep
        cases hstep
    | ok r =>
        rw [hcall] at hstep hfine
        exact Option.some.inj hstep ▸ hfine

end Calls

/-- Objects that are used after they are closed.  In every run of an application that passes open
objects of the right class and closes an object only when nothing that is open is bound to it,

* what an open endpoint is bound to is open, of its domain and of its fabric;
* the next call takes no object for one of another class, and uses a closed one if and only if it
  reads a queue whose progress is that of a closed endpoint, or asks for the name of an endpoint
  whose passive endpoint is closed. -/
theorem used_after_close {calls : List Call} {a : Objects}
    (horderly : Stepper.Meets step Orderly ⟨[], []⟩ calls)
    (hrun : Stepper.run step ⟨[], []⟩ calls = some a) :
    (∀ n e, Open a n (.ep e) → Bound a e)
      ∧ ∀ c, a.Orderly c → a.call c ≠ .error .misused
        ∧ (a.call c = .error .freed ↔ a.Stale c) := by
  have hsound : Sound Fid.shape a :=
    Stepper.run_induction (fun _ _ _ h hc hstep => step_sound h hc hstep) sound_empty horderly hrun
  refine ⟨fun n e he => bound hsound he, fun c hc => ?_⟩
  by_cases hstale : a.Stale c
  · rw [call_freed hstale]
    exact ⟨nofun, iff_of_true rfl hstale⟩
  · have hfine := call_fine hsound hc hstale
    constructor
    · intro hcall
      rw [hcall] at hfine
      cases hfine
    · refine iff_of_false (fun hcall => ?_) hstale
      rw [hcall] at hfine
      cases hfine

/-- What is opened with manual progress, for a peer that is named. -/
def manual : FabricInfo :=
  { locksAndProgress with destAddr := some ⟨1, 2⟩, destAddrlen := 8, domainAttr := none }

/-- An endpoint reports its sends and receives to a completion queue, and is closed. -/
def closedEndpoint : List Call :=
  [.dpaDomainOpen 0 (some manual), .dpaCqOpen 0 .fiWaitNone,
    .dpaEpOpen 0 (some manual) none fun _ => ⟨fun _ => 0, 0, 0, 0⟩,
    .dpaEpBind 2 (some 1) (fiSend ||| fiRecv), .close 2]

/-- The queue is read, and makes the progress of the closed endpoint. -/
theorem used_after_close_closedEndpoint : ∃ a,
    Stepper.run step ⟨[], []⟩ closedEndpoint = some a
      ∧ a.call (.readCq 1 fun _ => false) = .error .freed := by
  obtain ⟨a, hrun, hclosed, c, hget, hprogress⟩ : ∃ a,
      Stepper.run step ⟨[], []⟩ closedEndpoint = some a ∧ a.closed = [2]
        ∧ ∃ c : FidQueue, a.objects[1]? = some (.cq c)
          ∧ c.progress = ⟨some .progressSendrecvQueues, some 2⟩ :=
    ⟨_, rfl, rfl, _, rfl, rfl⟩
  have horderly : Stepper.Meets step Orderly ⟨[], []⟩ closedEndpoint := by
    refine (Stepper.meets_cons rfl).2 ⟨trivial, ?_⟩
    refine (Stepper.meets_cons rfl).2 ⟨⟨_, ⟨rfl, List.not_mem_nil⟩, rfl⟩, ?_⟩
    refine (Stepper.meets_cons rfl).2 ⟨⟨⟨_, ⟨rfl, List.not_mem_nil⟩, rfl⟩, nofun⟩, ?_⟩
    refine (Stepper.meets_cons rfl).2 ⟨⟨⟨_, ⟨rfl, List.not_mem_nil⟩, rfl⟩, fun b hb => ?_⟩, ?_⟩
    · obtain rfl := Option.some.inj hb
      exact ⟨_, rfl, List.not_mem_nil⟩
    refine (Stepper.meets_cons rfl).2 ⟨⟨⟨_, rfl, List.not_mem_nil⟩, fun m o ho hne r hr => ?_⟩,
      trivial⟩
    rcases m with _ | _ | _ | m
    · obtain rfl := Option.some.inj ho.1
      exact absurd hr List.not_mem_nil
    · obtain rfl := Option.some.inj ho.1
      rw [Option.some.inj (List.mem_singleton.1 (mem_refs.1 hr).1)]
      decide
    · exact absurd rfl hne
    · cases ho.1
  have hopen : Open a 1 (.cq c) := ⟨hget, by rw [hclosed]; decide⟩
  have hread : a.Orderly (.readCq 1 fun _ => false) := ⟨_, hopen, rfl⟩
  refine ⟨a, hrun, ((used_after_close horderly hrun).2 _ hread).2.2 ?_⟩
  exact ⟨c, 2, hopen, by rw [hprogress]; rfl, by rw [hprogress], by rw [hclosed]; decide⟩

end Objects

end DpaProvider
