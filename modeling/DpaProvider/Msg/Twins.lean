import DpaProvider.Msg.Limit

/-!
What a call on an endpoint depends on, and what it changes.

* `Simulates`: a relation between endpoints that attempts keep is kept by all calls;
* `Twin`: two connected endpoints over the same two rings, with other completion queues and counters
  and other memory elsewhere, do the same (`simulates_twin`);
* `call_mem`: a call changes the memory in the two rings only;
* `call_ledger`: it enters what it completes into the completion queues and counters.
-/

namespace DpaProvider

namespace Host

/-! ### Two endpoints that do the same -/

section Simulates

variable {R : Host → Host → Prop} {h h' g : Host} {dir : Direction} {e : MsgQueueEntry}

/-- The relation leaves the endpoint the same, with its queues, and attempts keep it. -/
structure Simulates (R : Host → Host → Prop) : Prop where
  ep : ∀ h g, R h g → g.ep = h.ep
  queue : ∀ h g dir q, R h g → R (h.setQueue dir q) (g.setQueue dir q)
  attempt : ∀ h g dir e r, R h g → h.attempt dir e = .ok r →
    ∃ g', g.attempt dir e = .ok (r.1, g') ∧ R r.2 g'

variable (hR : Simulates R)

include hR

lemma Simulates.queue_eq (h' : R h g) (dir : Direction) : g.queue dir = h.queue dir := by
  rw [Host.queue, hR.ep h g h', Host.queue]

lemma Simulates.lockIfNeeded (hr : R h g) (heq : h.lockIfNeeded dir = .ok h') :
    ∃ g', g.lockIfNeeded dir = .ok g' ∧ R h' g' := by
  rw [Host.lockIfNeeded] at heq ⊢
  rw [hR.ep h g hr, hR.queue_eq hr]
  split at heq
  case isTrue hneeded =>
      rw [if_pos hneeded]
      split at heq
      case isTrue => exact absurd heq (by simp)
      case isFalse hfree =>
          obtain rfl : _ = h' := by simpa using heq
          exact ⟨_, if_neg hfree, hR.queue h g dir _ hr⟩
  case isFalse hneeded =>
      obtain rfl : h = h' := by simpa using heq
      exact ⟨g, if_neg hneeded, hr⟩

lemma Simulates.unlockIfNeeded (hr : R h g) (dir : Direction) :
    R (h.unlockIfNeeded dir) (g.unlockIfNeeded dir) := by
  rw [Host.unlockIfNeeded, Host.unlockIfNeeded, hR.ep h g hr, hR.queue_eq hr]
  split
  · exact hR.queue h g dir _ hr
  · exact hr

lemma Simulates.enqueue (hr : R h g) (dir : Direction) (e : MsgQueueEntry) :
    R (h.enqueue dir e) (g.enqueue dir e) := by
  rw [Host.enqueue, Host.enqueue, hR.queue_eq hr]
  exact hR.unlockIfNeeded (hR.queue h g dir _ hr) dir

lemma Simulates.drain {done : FiErr → Bool} {nodes : List ℕ} (hr : R h g)
    (heq : Host.drain done dir nodes h = .ok h') :
    ∃ g', Host.drain done dir nodes g = .ok g' ∧ R h' g' := by
  induction nodes generalizing h g with
  | nil =>
      obtain rfl : h = h' := by simpa [Host.drain] using heq
      exact ⟨g, rfl, hr⟩
  | cons node rest ih =>
      rw [Host.drain] at heq ⊢
      obtain ⟨r, hattempt, heq⟩ := bind_eq_ok heq
      obtain ⟨g₁, hattempt', hr₁⟩ := hR.attempt h g dir _ r hr hattempt
      rw [hR.queue_eq hr, hattempt']
      simp only [bind, Except.bind]
      split at heq
      case isTrue hdone =>
          rw [if_pos hdone, hR.queue_eq hr₁]
          exact ih (hR.queue _ _ dir _ hr₁) heq
      case isFalse hdone =>
          obtain rfl : r.2 = h' := by simpa using heq
          exact ⟨g₁, if_neg hdone, hr₁⟩

lemma Simulates.post {mayTry : Bool} (hr : R h g) (heq : h.post dir mayTry e = .ok h') :
    ∃ g', g.post dir mayTry e = .ok g' ∧ R h' g' := by
  rw [Host.post] at heq ⊢
  obtain ⟨h₁, hlock, heq⟩ := bind_eq_ok heq
  obtain ⟨r, hfirst, heq⟩ := bind_eq_ok heq
  obtain ⟨g₁, hlock', hr₁⟩ := hR.lockIfNeeded hr hlock
  obtain ⟨g₂, hfirst', hr₂⟩ : ∃ g₂, g₁.firstAttempt dir mayTry e = .ok (r.1, g₂) ∧ R r.2 g₂ := by
    rw [firstAttempt] at hfirst ⊢
    rw [hR.queue_eq hr₁]
    split at hfirst
    case isTrue hmay =>
        rw [if_pos hmay]
        exact hR.attempt h₁ g₁ dir e r hr₁ hfirst
    case isFalse hmay =>
        obtain rfl : _ = r := by simpa using hfirst
        exact ⟨g₁, if_neg hmay, hr₁⟩
  rw [hlock']
  simp only [bind, Except.bind, hfirst']
  split at heq
  case isTrue hagain =>
      obtain rfl : r.2.enqueue dir e = h' := by simpa using heq
      exact ⟨_, if_pos hagain, hR.enqueue hr₂ dir e⟩
  case isFalse hagain =>
      obtain rfl : r.2 = h' := by simpa using heq
      exact ⟨g₂, if_neg hagain, hr₂⟩

lemma Simulates.processQueue {done : FiErr → Bool} {locked : Bool} (hr : R h g)
    (heq : h.processQueue done dir locked = .ok h') :
    ∃ g', g.processQueue done dir locked = .ok g' ∧ R h' g' := by
  rw [Host.processQueue] at heq ⊢
  rw [hR.ep h g hr, hR.queue_eq hr]
  split at heq
  case isTrue hdown =>
      rw [if_pos hdown]
      obtain rfl : _ = h' := by simpa using heq
      refine ⟨_, rfl, ?_⟩
      split
      · exact hR.unlockIfNeeded hr dir
      · exact hr
  case isFalse hup =>
      rw [if_neg hup]
      split at heq
      case isTrue hidle =>
          obtain rfl : h = h' := by simpa using heq
          exact ⟨g, if_pos hidle, hr⟩
      case isFalse hbusy =>
          rw [if_neg hbusy]
          obtain ⟨h₁, hlock, heq⟩ := bind_eq_ok heq
          obtain ⟨h₂, hdrain, heq⟩ := bind_eq_ok heq
          obtain rfl : h₂.unlockIfNeeded dir = h' := by simpa using heq
          obtain ⟨g₁, hlock', hr₁⟩ : ∃ g₁, g.lockUnless locked dir = .ok g₁ ∧ R h₁ g₁ := by
            rw [lockUnless] at hlock ⊢
            split at hlock
            case isTrue hheld =>
                obtain rfl : h = h₁ := by simpa using hlock
                exact ⟨g, if_pos hheld, hr⟩
            case isFalse hheld =>
                rw [if_neg hheld]
                exact hR.lockIfNeeded hr hlock
          rw [← hR.queue_eq hr₁] at hdrain
          obtain ⟨g₂, hdrain', hr₂⟩ := hR.drain hr₁ hdrain
          rw [hlock']
          simp only [bind, Except.bind, hdrain']
          exact ⟨_, rfl, hR.unlockIfNeeded hr₂ dir⟩

/-- A call does with one of two related endpoints what it does with the other. -/
lemma Simulates.call {c : Call} (hr : R h g) (heq : h.call c = some h') :
    ∃ g', g.call c = some g' ∧ R h' g' := by
  rw [call_eq_act] at heq ⊢
  obtain ⟨g', hact, hr'⟩ : ∃ g', g.act c.action = .ok g' ∧ R h' g' := by
    cases haction : c.action with
    | post dir e =>
        rw [haction] at heq
        have hmay : g.mayTry dir = h.mayTry dir := by
          cases dir
          · rfl
          · exact congrArg Endpoint.connected (hR.ep h g hr)
        obtain ⟨g', hpost, hr'⟩ := hR.post hr (toOption_eq_some heq)
        exact ⟨g', by rw [act, hmay, hpost], hr'⟩
    | process dir locked =>
        rw [haction] at heq
        exact hR.processQueue hr (toOption_eq_some heq)
    | reject =>
        rw [haction] at heq
        obtain rfl : h = h' := by simpa [act] using toOption_eq_some heq
        exact ⟨g, rfl, hr⟩
  exact ⟨g', by rw [hact]; rfl, hr'⟩

end Simulates

variable {cap : BufferLoc → UInt64} {own peer : BufferLoc} {h h' g : Host} {dir : Direction}
  {e : MsgQueueEntry}

/-! ### What a call does not look at -/

/-- Two connected endpoints over the same two buffers.  They may have different completion queues
and counters, and different memory elsewhere. -/
structure Twin (cap : BufferLoc → UInt64) (own peer : BufferLoc) (h g : Host) : Prop where
  wired : Wired cap own peer h
  ep : g.ep = h.ep
  own : g.mem own = h.mem own
  peer : g.mem peer = h.mem peer
  triggered : g.triggered = h.triggered
  accesses : g.accesses = h.accesses
  tried : g.tried = h.tried
  completed : g.completed = h.completed

lemma trySend_twin (hne : own ≠ peer) (ht : Twin cap own peer h g) {r : FiErr × Host}
    (heq : h.trySend e = .ok r) :
    ∃ g', g.trySend e = .ok (r.1, g') ∧ Twin cap own peer r.2 g' := by
  have hw := ht.wired
  simp only [trySend, hw.status, hw.remoteBuffer] at heq
  simp only [trySend, ht.ep, hw.status, hw.remoteBuffer, ht.own]
  split at heq
  case isTrue hfull =>
      obtain rfl : _ = r := Except.ok.inj heq
      refine ⟨_, if_pos hfull, hw.congr rfl, ht.ep, ht.own, ht.peer, ht.triggered, ?_, ht.tried,
        ht.completed⟩
      simp only [access, ht.ep, ht.accesses]
  case isFalse hspace =>
      obtain rfl : _ = r := Except.ok.inj heq
      refine ⟨_, if_neg hspace, ⟨hw.connected, hw.status, hw.remoteBuffer, hw.size, hw.buffer,
        hw.remoteStatus⟩, ?_, ?_, ?_, ?_, ?_, ht.tried, ?_⟩
      · simp only [complete, trigger, setRing, access, ht.ep, ht.peer]
      · simp only [complete, trigger, setRing, access, Function.update_of_ne hne, ht.own]
      · simp only [complete, trigger, setRing, access, Function.update_self, ht.peer]
      · simp only [complete, trigger, setRing, access, ht.triggered]
      · simp only [complete, trigger, setRing, access, ht.ep, ht.accesses]
      · simp only [complete, trigger, setRing, access, ht.completed]

lemma tryRecv_twin (hne : own ≠ peer) (ht : Twin cap own peer h g) {r : FiErr × Host}
    (heq : h.tryRecv e = .ok r) :
    ∃ g', g.tryRecv e = .ok (r.1, g') ∧ Twin cap own peer r.2 g' := by
  have hw := ht.wired
  simp only [tryRecv, hw.buffer, hw.remoteStatus] at heq
  simp only [tryRecv, ht.ep, hw.buffer, hw.remoteStatus, ht.own]
  split at heq
  case isTrue hempty =>
      obtain rfl : _ = r := Except.ok.inj heq
      refine ⟨_, if_pos hempty, hw.congr rfl, ht.ep, ht.own, ht.peer, ht.triggered, ?_, ht.tried,
        ht.completed⟩
      simp only [access, ht.ep, ht.accesses]
  case isFalse hmessage =>
      obtain rfl : _ = r := Except.ok.inj heq
      refine ⟨_, if_neg hmessage, ⟨hw.connected, hw.status, hw.remoteBuffer, hw.size, hw.buffer,
        hw.remoteStatus⟩, ?_, ?_, ?_, ?_, ?_, ht.tried, ?_⟩
      · simp only [complete, trigger, setRing, setStatus, access, ht.ep, ht.own]
      · simp only [complete, trigger, setRing, setStatus, access, Function.update_of_ne hne,
          Function.update_self, ht.own]
      · simp only [complete, trigger, setRing, setStatus, access, Function.update_of_ne hne.symm,
          Function.update_self, ht.peer]
      · simp only [complete, trigger, setRing, setStatus, access, ht.triggered]
      · simp only [complete, trigger, setRing, setStatus, access, ht.ep, ht.accesses]
      · simp only [complete, trigger, setRing, setStatus, access, ht.completed]

lemma attempt_twin (hne : own ≠ peer) (ht : Twin cap own peer h g) {r : FiErr × Host}
    (heq : h.attempt dir e = .ok r) :
    ∃ g', g.attempt dir e = .ok (r.1, g') ∧ Twin cap own peer r.2 g' := by
  have hrecord {h₁ g₁ : Host} (ht₁ : Twin cap own peer h₁ g₁) (err : FiErr) :
      Twin cap own peer { h₁ with tried := h₁.tried ++ [(dir, err)] }
        { g₁ with tried := g₁.tried ++ [(dir, err)] } :=
    ⟨ht₁.wired.congr rfl, ht₁.ep, ht₁.own, ht₁.peer, ht₁.triggered, ht₁.accesses,
      congrArg (· ++ [(dir, err)]) ht₁.tried, ht₁.completed⟩
  unfold attempt at heq ⊢
  obtain ⟨⟨err, h₁⟩, htry, rfl⟩ := Except.map_eq_ok heq
  cases dir with
  | send =>
      obtain ⟨g₁, htry', ht₁⟩ := trySend_twin hne ht htry
      exact ⟨_, congrArg (Except.map _) htry', hrecord ht₁ err⟩
  | recv =>
      obtain ⟨g₁, htry', ht₁⟩ := tryRecv_twin hne ht htry
      exact ⟨_, congrArg (Except.map _) htry', hrecord ht₁ err⟩

/-- Calls on two twins do the same. -/
lemma simulates_twin (hne : own ≠ peer) : Simulates (Twin cap own peer) where
  ep _ _ ht := ht.ep
  queue _ _ _ _ ht := ⟨⟨ht.wired.connected, ht.wired.status, ht.wired.remoteBuffer, ht.wired.size,
      ht.wired.buffer, ht.wired.remoteStatus⟩, by simp only [setQueue, ht.ep], ht.own, ht.peer,
    ht.triggered, ht.accesses, ht.tried, ht.completed⟩
  attempt _ _ _ _ _ ht heq := attempt_twin hne ht heq

/-! ### What a call changes -/

/-- An attempt changes the two rings of its connection only. -/
lemma attempt_mem (hw : Wired cap own peer h) {r : FiErr × Host} (heq : h.attempt dir e = .ok r)
    {loc : BufferLoc} (hown : loc ≠ own) (hpeer : loc ≠ peer) : r.2.mem loc = h.mem loc := by
  unfold attempt at heq
  obtain ⟨⟨err, h₁⟩, htry, rfl⟩ := Except.map_eq_ok heq
  cases dir with
  | send =>
      simp only [trySend, hw.status, hw.remoteBuffer] at htry
      split at htry
      · obtain ⟨-, rfl⟩ := Prod.mk.inj (Except.ok.inj htry)
        rfl
      · obtain ⟨-, rfl⟩ := Prod.mk.inj (Except.ok.inj htry)
        exact Function.update_of_ne hpeer _ _
  | recv =>
      simp only [tryRecv, hw.buffer, hw.remoteStatus] at htry
      split at htry
      · obtain ⟨-, rfl⟩ := Prod.mk.inj (Except.ok.inj htry)
        rfl
      · obtain ⟨-, rfl⟩ := Prod.mk.inj (Except.ok.inj htry)
        exact (Function.update_of_ne hpeer _ _).trans (Function.update_of_ne hown _ _)

lemma call_mem (hw : Wired cap own peer h) {c : Call} (heq : h.call c = some g) :
    ∀ loc, loc ≠ own → loc ≠ peer → g.mem loc = h.mem loc := by
  rw [call_eq_act] at heq
  have hkept : Wired cap own peer g ∧ ∀ loc, loc ≠ own → loc ≠ peer → g.mem loc = h.mem loc := by
    refine act_keeps (P := fun k => Wired cap own peer k
      ∧ ∀ loc, loc ≠ own → loc ≠ peer → k.mem loc = h.mem loc) (fun k dir q hk => ?_)
      (fun k dir e r hk hr => ?_) ⟨hw, fun _ _ _ => rfl⟩ (toOption_eq_some heq)
    · obtain ⟨⟨h₁, h₂, h₃, h₄, h₅, h₆⟩, hmem⟩ := hk
      exact ⟨⟨h₁, h₂, h₃, h₄, h₅, h₆⟩, hmem⟩
    · exact ⟨hk.1.attempt hr, fun loc hown hpeer =>
        (attempt_mem hk.1 hr hown hpeer).trans (hk.2 loc hown hpeer)⟩
  exact hkept.2

/-- The books of one call: it enters what it completes into the completion queues and counters. -/
lemma call_ledger {c : Call} (heq : h.call c = some g) :
    ∃ new, g.completed = h.completed ++ new ∧ Ledger h { g with completed := new } := by
  rw [call_eq_act] at heq
  refine act_keeps (P := fun k => ∃ new, k.completed = h.completed ++ new
    ∧ Ledger h { k with completed := new }) (fun k dir q hk => ?_) (fun k dir e r hk hr => ?_)
    ⟨[], (List.append_nil _).symm, ?_⟩ (toOption_eq_some heq)
  · obtain ⟨new, hnew, hl⟩ := hk
    exact ⟨new, hnew, hl.cq, hl.cntr, hl.events, hl.errors, hl.counter, hl.err, hl.exact⟩
  · obtain ⟨err, k'⟩ := r
    obtain ⟨new, hnew, hl⟩ := hk
    have hquiet {g : Host} (hq : Quiet k g) : Ledger h { g with completed := new } :=
      hl.congr (Quiet.agree ⟨hq.queue, hq.cq, hq.cntr, hq.cqs, hq.cntrs, rfl⟩)
    rcases attempt_spec hr with ⟨-, hq⟩ | ⟨-, g, c, hq, rfl, hc⟩
    · exact ⟨new, hq.completed.trans hnew, hquiet hq⟩
    · refine ⟨new ++ [c], ?_, (hquiet hq).complete hc.exact⟩
      rw [show (g.complete c).completed = g.completed ++ [c] from rfl, hq.completed, hnew,
        List.append_assoc]
  · constructor <;> simp [entriesFor, incrementsFor]

end Host

end DpaProvider
