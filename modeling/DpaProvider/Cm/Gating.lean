import DpaProvider.Msg.Locks
import DpaProvider.Cm.Reads
import DpaProvider.Cm.Wakeup

/-!
Data moves over a connection.

From its opening on an endpoint is connected and disconnected, operations are posted to it and its
queues are processed, in any order.

* `attempt_touches`: every attempt accesses a ring or a cursor of the connection;
* `progressEpEq_connected`: what becomes of the connection while an answer is read;
* `connection_gating`: all such accesses of a run come between a `connect_msg` that succeeds and the
  next `disconnect_msg`, and what is posted outside of this stays queued, if and only if no send is
  posted to an empty queue of an endpoint that is not connected;
* `send_after_shutdown`: a send that is written to the ring after the shutdown.
-/

namespace DpaProvider

open Effect

namespace Host

variable {h g k : Host} {dir : Direction} {e : MsgQueueEntry}

/-! ### What a call on the queues accesses -/

/-- The endpoint stays connected or not, and has made accesses in that state, to no buffer that is
being cleaned. -/
structure Touches (h g : Host) : Prop where
  connected : g.ep.connected = h.ep.connected
  accesses : ∃ new, g.accesses = h.accesses ++ new
    ∧ ∀ a ∈ new, a.kind ≠ .clean ∧ a.connected = h.ep.connected

lemma Touches.refl (h : Host) : Touches h h := ⟨rfl, [], (List.append_nil _).symm, by simp⟩

lemma Touches.trans (hg : Touches h g) (hk : Touches g k) : Touches h k := by
  obtain ⟨new, hnew, hall⟩ := hg.accesses
  obtain ⟨new', hnew', hall'⟩ := hk.accesses
  refine ⟨hk.connected.trans hg.connected, new ++ new', ?_, fun a ha => ?_⟩
  · rw [hnew', hnew, List.append_assoc]
  · rcases List.mem_append.1 ha with ha | ha
    · exact hall a ha
    · exact ⟨(hall' a ha).1, (hall' a ha).2.trans hg.connected⟩

lemma trySend_touches {err : FiErr} (heq : h.trySend e = .ok (err, g)) :
    Touches h g ∧ g.accesses ≠ h.accesses := by
  simp only [trySend] at heq
  split at heq
  case h_1 => exact absurd heq (by simp)
  case h_2 =>
      split at heq
      case isTrue =>
          obtain ⟨-, rfl⟩ : FiErr.eagain = err ∧ _ = g := by simpa using heq
          exact ⟨⟨rfl, [⟨.readStatus, h.ep.connected⟩], rfl, by simp⟩, by simp [access]⟩
      case isFalse =>
          split at heq
          case h_1 => exact absurd heq (by simp)
          case h_2 =>
              obtain ⟨-, rfl⟩ : FiErr.success = err ∧ _ = g := by simpa using heq
              refine ⟨⟨rfl, [⟨.readStatus, h.ep.connected⟩, ⟨.writeRing, h.ep.connected⟩],
                ?_, ?_⟩, ?_⟩
              · exact List.append_assoc _ _ _
              · simp
              · simp [access, trigger, setRing, complete]

lemma tryRecv_touches {err : FiErr} (heq : h.tryRecv e = .ok (err, g)) :
    Touches h g ∧ g.accesses ≠ h.accesses := by
  simp only [tryRecv] at heq
  split at heq
  case h_1 => exact absurd heq (by simp)
  case h_2 =>
      split at heq
      case isTrue =>
          obtain ⟨-, rfl⟩ : FiErr.eagain = err ∧ _ = g := by simpa using heq
          exact ⟨⟨rfl, [⟨.readRing, h.ep.connected⟩], rfl, by simp⟩, by simp [access]⟩
      case isFalse =>
          split at heq
          case h_1 => exact absurd heq (by simp)
          case h_2 =>
              obtain ⟨-, rfl⟩ : FiErr.success = err ∧ _ = g := by simpa using heq
              refine ⟨⟨rfl, [⟨.readRing, h.ep.connected⟩, ⟨.clearRing, h.ep.connected⟩,
                ⟨.writeStatus, h.ep.connected⟩], ?_, ?_⟩, ?_⟩
              · simp [access, trigger, setRing, setStatus, complete]
              · simp
              · simp [access, trigger, setRing, setStatus, complete]

lemma attempt_touches {r : FiErr × Host} (heq : h.attempt dir e = .ok r) :
    Touches h r.2 ∧ r.2.accesses ≠ h.accesses := by
  unfold attempt at heq
  obtain ⟨⟨err, g⟩, htry, rfl⟩ := Except.map_eq_ok heq
  have htouches : Touches h g ∧ g.accesses ≠ h.accesses := by
    cases dir with
    | send => exact trySend_touches htry
    | recv => exact tryRecv_touches htry
  exact ⟨⟨htouches.1.connected, htouches.1.accesses⟩, htouches.2⟩

lemma act_touches {a : Action} (heq : h.act a = .ok g) : Touches h g :=
  act_keeps (P := Touches h) (fun _ _ _ hg => ⟨hg.connected, hg.accesses⟩)
    (fun _ _ _ _ hg hr => hg.trans (attempt_touches hr).1) (.refl h) heq

/-- A post takes the lock, tries the operation if it may, and enqueues it if it has to wait. -/
lemma post_begins {mayTry : Bool} (heq : h.post dir mayTry e = .ok g) :
    ∃ h₁ r, Unchanged h h₁ ∧ h₁.accesses = h.accesses
      ∧ (if (h.queue dir).isEmpty && mayTry then h₁.attempt dir e else .ok (.eagain, h₁)) = .ok r
      ∧ (if r.1 = .eagain then .ok (r.2.enqueue dir e) else .ok r.2 : Except Stuck Host)
        = .ok g := by
  rw [post] at heq
  obtain ⟨h₁, hlock, heq⟩ := bind_eq_ok heq
  obtain ⟨r, hfirst, heq⟩ := bind_eq_ok heq
  have hu := lockIfNeeded_unchanged hlock
  have haccesses : h₁.accesses = h.accesses :=
    lockIfNeeded_keeps (P := fun k => k.accesses = h.accesses) (fun _ _ _ hk => hk) rfl hlock
  rw [firstAttempt, MsgQueue.isEmpty_eq, hu.contents, ← MsgQueue.isEmpty_eq] at hfirst
  exact ⟨h₁, r, hu, haccesses, hfirst, heq⟩

/-- A post without an attempt is enqueued. -/
lemma post_waits {mayTry : Bool} (hwait : ((h.queue dir).isEmpty && mayTry) = false)
    (heq : h.post dir mayTry e = .ok g) : g.accesses = h.accesses
      ∧ ∀ d, (g.queue d).contents = (h.queue d).contents ++ posting dir e d := by
  obtain ⟨h₁, r, hu, haccesses, hfirst, heq⟩ := post_begins heq
  rw [hwait, if_neg Bool.false_ne_true] at hfirst
  obtain rfl := Except.ok.inj hfirst
  rw [if_pos rfl] at heq
  obtain rfl := Except.ok.inj heq
  refine ⟨?_, fun d => ?_⟩
  · exact unlockIfNeeded_keeps (P := fun k => k.accesses = h.accesses) (fun _ _ _ hk => hk)
      (h := h₁.setQueue dir ((h₁.queue dir).enqueue e)) haccesses dir
  · rw [(enqueue_spec h₁ dir e).2.2, hu.contents]

/-- A post with an attempt makes an access. -/
lemma post_tries {mayTry : Bool} (htries : ((h.queue dir).isEmpty && mayTry) = true)
    (heq : h.post dir mayTry e = .ok g) : g.accesses ≠ h.accesses := by
  obtain ⟨h₁, r, hu, haccesses, hfirst, heq⟩ := post_begins heq
  rw [htries, if_pos rfl] at hfirst
  have hnew : r.2.accesses ≠ h.accesses := haccesses ▸ (attempt_touches hfirst).2
  split at heq
  · obtain rfl := Except.ok.inj heq
    exact unlockIfNeeded_keeps (P := fun k => k.accesses ≠ h.accesses) (fun _ _ _ hk => hk)
      (h := r.2.setQueue dir ((r.2.queue dir).enqueue e)) hnew dir
  · obtain rfl := Except.ok.inj heq
    exact hnew

/-- An endpoint that is not connected does not process its queues. -/
lemma processQueue_waits {done : FiErr → Bool} {locked : Bool} (hconn : h.ep.connected = false)
    (heq : h.processQueue done dir locked = .ok g) : g.accesses = h.accesses
      ∧ ∀ d, (g.queue d).contents = (h.queue d).contents := by
  rw [processQueue, hconn, Bool.not_false, if_pos rfl] at heq
  obtain rfl := Except.ok.inj heq
  cases locked with
  | false => exact ⟨rfl, fun _ => rfl⟩
  | true =>
      exact ⟨unlockIfNeeded_keeps (P := fun k => k.accesses = h.accesses) (fun _ _ _ hk => hk)
        rfl dir, (unlockIfNeeded_unchanged h dir).contents⟩

/-- The call is not a send to an empty queue of an endpoint that is not connected. -/
def Tested (h : Host) (a : Action) : Prop :=
  ∀ e, a = .post .send e → (h.queue .send).isEmpty = true → h.ep.connected = true

/-- Outside a connection a call accesses nothing and leaves what it posts in the queue, unless it is
such a send, which accesses something. -/
lemma act_unconnected {a : Action} (hconn : h.ep.connected = false) (heq : h.act a = .ok g) :
    (h.Tested a → g.accesses = h.accesses
        ∧ ∀ d, (g.queue d).contents = (h.queue d).contents ++ a.posted d)
      ∧ (¬ h.Tested a → g.accesses ≠ h.accesses) := by
  cases a with
  | post dir e =>
      cases htries : (h.queue dir).isEmpty && h.mayTry dir with
      | false =>
          refine ⟨fun _ => post_waits htries heq, fun hnot => ?_⟩
          simp only [Tested, Action.post.injEq, hconn, Bool.false_eq_true, imp_false] at hnot
          push Not at hnot
          obtain ⟨e', ⟨rfl, -⟩, hempty⟩ := hnot
          rw [mayTry, Bool.and_true, hempty] at htries
          exact absurd htries (by simp)
      | true =>
          refine ⟨fun htested => ?_, fun _ => post_tries htries heq⟩
          obtain ⟨hempty, hmay⟩ := Bool.and_eq_true_iff.1 htries
          cases dir with
          | send => exact absurd (hconn.symm.trans (htested e rfl hempty)) (by simp)
          | recv => exact absurd (hconn.symm.trans hmay) (by simp)
  | process dir locked =>
      obtain ⟨haccesses, hcontents⟩ := processQueue_waits hconn heq
      refine ⟨fun _ => ⟨haccesses, fun d => ?_⟩, fun hnot => absurd (fun _ h => nomatch h) hnot⟩
      exact (hcontents d).trans (List.append_nil _).symm
  | reject =>
      obtain rfl := Except.ok.inj heq
      refine ⟨fun _ => ⟨rfl, fun d => ?_⟩, fun hnot => absurd (fun _ h => nomatch h) hnot⟩
      exact (List.append_nil _).symm

end Host

namespace Site

open Host

variable {s t : Site} {data : SegmentData} {timeout r : ℤ}

/-! ### What becomes of the connection -/

/-- The queues stay, and a buffer may be cleaned. -/
def preparing : Frame Site where
  rel s t := t.host.ep.queue = s.host.ep.queue
    ∧ ∃ cleaned, (∀ a ∈ cleaned, a.kind = .clean) ∧ t.host.accesses = s.host.accesses ++ cleaned
  refl s := ⟨rfl, [], by simp, (List.append_nil _).symm⟩
  trans := by
    rintro s t u ⟨hqueue, cleaned, hclean, hnew⟩ ⟨hqueue', cleaned', hclean', hnew'⟩
    refine ⟨hqueue'.trans hqueue, cleaned ++ cleaned', fun a ha => ?_, ?_⟩
    · exact (List.mem_append.1 ha).elim (hclean a) (hclean' a)
    · rw [hnew', hnew, List.append_assoc]

lemma ignores_preparing (part : Part) : Ignores preparing part := by
  intro s x
  cases part with
  | memory =>
      obtain ⟨mem, new, cleaned, hclean, hnew⟩ := x
      exact ⟨rfl, cleaned, hclean, hnew⟩
  | _ => exact preparing.refl s

/-- Whether the endpoint is connected. -/
def connectedField : Frame Site := .same fun s => s.host.ep.connected

lemma ignores_connected {part : Part} (h : part ≠ .connected) : Ignores connectedField part := by
  intro s x
  cases part with
  | connected => exact absurd rfl h
  | _ => rfl

lemma dpaConnect_connected : Keeps connectedField dpaConnect :=
  keeps_dpaConnect (ignores_connected nofun) (ignores_connected nofun)
    (ignores_connected nofun) (ignores_connected nofun) (ignores_connected nofun)

lemma dpaAccept_connected : Keeps connectedField dpaAccept := by
  have hsend (data : SegmentData) : Keeps connectedField (allocSendBuffer data) :=
    keeps_allocSendBuffer (ignores_connected nofun) (ignores_connected nofun)
      (ignores_connected nofun) (ignores_connected nofun) (ignores_connected nofun)
      (ignores_connected nofun) data
  have hinterrupt (id : UInt32) : Keeps connectedField (createConnectInterrupt id) :=
    keeps_createConnectInterrupt (ignores_connected nofun) (ignores_connected nofun)
      (ignores_connected nofun) id
  refine keeps_bind (keeps_bind keeps_get fun s => keeps_bind (hinterrupt _) fun err => ?_)
    fun err => keeps_ite (keeps_pure _) (keeps_bind keeps_get fun s => ?_)
  · exact keeps_ite (keeps_pure _) (keeps_bind (hsend _) fun _ => keeps_pure _)
  · dsimp only
    split
    · exact keeps_throw _
    · exact keeps_bind (keeps_setProgress (ignores_connected nofun) _ _) fun _ => keeps_pure _

/-- The part of `progress_ep_eq` between a wait that did not time out and the return of
`connect_msg`. -/
def establish (data : SegmentData) : Prog DpaError := do
  setEp fun ep => { ep with peerAddr.connectId := data.acceptIntId }
  let ep := (← get).host.ep
  let data ← if ep.recvInfo.buffer.isNone then Prod.snd <$> allocSendBuffer data else pure data
  let _ ← lib (.removeDataInterrupt ep.connectInterrupt)
  connectMsg data

lemma finishConnection_eq (data : SegmentData) (timeout : ℤ) : finishConnection data timeout = (do
    let err ← establish data
    if err ≠ .ok then
      let _ ← disconnectMsg
      return 0
    return timeout) := by
  funext s
  rw [finishConnection, establish, bind_assoc, setEp_bind, setEp_bind, bind_assoc, get_bind,
    get_bind]
  dsimp only
  split <;> simp only [bind_assoc]

/-- A `connect_msg` that succeeds connects. -/
lemma establish_connected (data : SegmentData) :
    Ends (fun err t => err = .ok → t.host.ep.connected = true) (establish data) := by
  have hconnect (data : SegmentData) :
      Ends (fun err t => err = .ok → t.host.ep.connected = true) (connectMsg data) := by
    intro s err t hrun hok
    rcases connectMsg_event hrun with ⟨hne, -⟩ | ⟨-, hconnected, -⟩
    · exact absurd hok hne
    · exact hconnected
  refine ends_bind fun _ => ends_bind fun ep => ends_ite (fun _ => ?_) fun _ => ?_
  · exact ends_bind fun _ => ends_bind fun _ => hconnect _
  · exact ends_bind fun _ => ends_bind fun _ => hconnect _

/-- The status that the `connect_msg` of a `progress_ep_eq` returns, if it comes to one. -/
def connectStatus (s : Site) (timeout : ℤ) : Option DpaError :=
  match progressEq s.host.ep.connectInterrupt timeout s with
  | .error _ => none
  | .ok ((err, data), u) =>
      if err = .timeout then none else (establish data u).toOption.map Prod.fst

/-- A wait that times out leaves the connection; after one that does not, the endpoint is connected
if and only if `connect_msg` has succeeded. -/
lemma progressEpEq_connected (hrun : progressEpEq timeout s = .ok (r, t)) :
    (s.connectStatus timeout = none ∧ t.host.ep.connected = s.host.ep.connected)
      ∨ ∃ err, s.connectStatus timeout = some err ∧ (t.host.ep.connected = true ↔ err = .ok) := by
  rw [progressEpEq, get_bind] at hrun
  obtain ⟨⟨err, data⟩, s₁, hwait, hrun⟩ := run_bind_ok hrun
  dsimp only at hrun
  rw [connectStatus, hwait]
  dsimp only
  rw [ite_run] at hrun
  split at hrun
  case isTrue htimeout =>
      obtain ⟨-, rfl⟩ := Prod.mk.inj (Except.ok.inj hrun)
      obtain ⟨-, rfl⟩ := Prod.mk.inj (run_progressEq_ok hwait)
      exact .inl ⟨if_pos htimeout, rfl⟩
  case isFalse htimeout =>
      rw [finishConnection_eq] at hrun
      obtain ⟨err', u, hestablish, hrun⟩ := run_bind_ok hrun
      refine .inr ⟨err', by rw [if_neg htimeout, hestablish]; rfl, ?_⟩
      rw [ite_run] at hrun
      split at hrun
      case isTrue hne =>
          obtain ⟨_, u', hdisconnect, hrun⟩ := run_bind_ok hrun
          obtain ⟨-, rfl⟩ := Prod.mk.inj (Except.ok.inj hrun)
          rw [disconnectMsg_connected _ _ _ hdisconnect]
          exact iff_of_false Bool.false_ne_true hne
      case isFalse hok =>
          obtain ⟨-, rfl⟩ := Prod.mk.inj (Except.ok.inj hrun)
          rw [not_not] at hok
          exact iff_of_true (establish_connected data _ _ _ hestablish hok) hok

/-- A shutdown disconnects an endpoint for messages, and leaves others. -/
lemma dpaShutdown_connected {result : FiErr} (hrun : dpaShutdown s = .ok (result, t)) :
    t.host.ep.connected = true
      ↔ s.host.ep.connected = true ∧ hasAny s.host.ep.caps fiMsg = false := by
  rw [dpaShutdown, get_bind, ite_run] at hrun
  split at hrun
  case isTrue hcaps =>
      obtain ⟨-, rfl⟩ := Prod.mk.inj (Except.ok.inj hrun)
      exact (and_iff_left (by simpa using hcaps)).symm
  case isFalse hcaps =>
      obtain ⟨_, u, hdisconnect, hrun⟩ := run_bind_ok hrun
      obtain ⟨-, rfl⟩ := Prod.mk.inj (Except.ok.inj hrun)
      rw [disconnectMsg_connected _ _ _ hdisconnect]
      exact iff_of_false Bool.false_ne_true fun h => hcaps (by simp [h.2])

end Site

open Host Site

/-- The endpoint with other objects bound to it. -/
def Endpoint.rebound (ep new : Endpoint) : Endpoint :=
  { ep with
    eq := new.eq, sendCq := new.sendCq, recvCq := new.recvCq, readCq := new.readCq
    writeCq := new.writeCq, sendCntr := new.sendCntr, recvCntr := new.recvCntr
    readCntr := new.readCntr, writeCntr := new.writeCntr, av := new.av }

namespace Gating

/-! ### The life of an endpoint -/

/-- The calls on an endpoint; `others` is what the rest of the process and the peers do between two
of them, and `dpa_ep_bind`: from the endpoint they stay away, but for what is bound to it. -/
inductive Event where
  | call (c : Call)
  | dpaConnect
  | dpaAccept
  | progressEpEq (timeout : ℤ)
  | dpaShutdown
  | others (rest : Site)

/-- The site after a call; none if it does not return. -/
def step (s : Site) : Event → Option Site
  | .call c => (s.host.call c).map fun host => { s with host }
  | .dpaConnect => (Site.dpaConnect s).toOption.map Prod.snd
  | .dpaAccept => (Site.dpaAccept s).toOption.map Prod.snd
  | .progressEpEq timeout => (Site.progressEpEq timeout s).toOption.map Prod.snd
  | .dpaShutdown => (Site.dpaShutdown s).toOption.map Prod.snd
  | .others rest =>
      some { rest with host := { s.host with
        ep := s.host.ep.rebound rest.host.ep
        mem := rest.host.mem, cqs := rest.host.cqs, cntrs := rest.host.cntrs } }

/-- What an event posts in a direction. -/
def Event.posted (dir : Direction) : Event → List MsgQueueEntry
  | .call c => c.action.posted dir
  | _ => []

/-- The step runs a `connect_msg` that succeeds. -/
def Connects (s : Site) : Event → Prop
  | .progressEpEq timeout => s.connectStatus timeout = some .ok
  | _ => False

/-- The step runs a `disconnect_msg`: a shutdown, or a `connect_msg` that fails. -/
def Disconnects (s : Site) : Event → Prop
  | .progressEpEq timeout => ∃ err, s.connectStatus timeout = some err ∧ err ≠ .ok
  | .dpaShutdown => hasAny s.host.ep.caps fiMsg = true
  | _ => False

/-- The step is not a send to an empty queue of an endpoint that is not connected. -/
def Tested (s : Site) : Event → Prop
  | .call c => s.host.Tested c.action
  | _ => True

/-- All accesses to the rings and cursors, but for the cleaning of a buffer before it is made
available, were made while the endpoint was connected. -/
def Gated (s : Site) : Prop := ∀ a ∈ s.host.accesses, a.kind ≠ .clean → a.connected = true

variable {s s' s₀ t : Site} {a : Event}

/-! ### One step -/

lemma run_of_step {α : Type} {m : Prog α} (h : (m s).toOption.map Prod.snd = some s') :
    ∃ r, m s = .ok (r, s') := by
  obtain ⟨⟨r, _⟩, hrun, rfl⟩ := Option.map_eq_some_iff.1 h
  exact ⟨r, toOption_eq_some hrun⟩

/-- A call is one of the actions on the queues. -/
lemma act_of_step {c : Call} (h : step s (.call c) = some s') :
    s.host.act c.action = .ok s'.host := by
  obtain ⟨host, hcall, rfl⟩ := Option.map_eq_some_iff.1 h
  rw [call_eq_act] at hcall
  exact toOption_eq_some hcall

/-- Only the calls on the queues do more than clean buffers. -/
lemma step_preparing (hcall : ∀ c, a ≠ .call c) (h : step s a = some s') : preparing.rel s s' := by
  cases a with
  | call c => exact absurd rfl (hcall c)
  | dpaConnect =>
      obtain ⟨r, hrun⟩ := run_of_step h
      exact keeps_dpaConnect (ignores_preparing _) (ignores_preparing _) (ignores_preparing _)
        (ignores_preparing _) (ignores_preparing _) _ _ _ hrun
  | dpaAccept =>
      obtain ⟨r, hrun⟩ := run_of_step h
      exact keeps_dpaAccept (.of_ignores fun _ _ _ => ignores_preparing _) (ignores_preparing _)
        _ _ _ hrun
  | progressEpEq timeout =>
      obtain ⟨r, hrun⟩ := run_of_step h
      exact keeps_progressEpEq (.of_ignores fun _ _ _ => ignores_preparing _) timeout _ _ _ hrun
  | dpaShutdown =>
      obtain ⟨r, hrun⟩ := run_of_step h
      exact keeps_dpaShutdown (ignores_preparing _) (ignores_preparing _) _ _ _ hrun
  | others rest =>
      obtain rfl := Option.some.inj h
      exact preparing.refl s

/-- The endpoint is connected after a step that runs a `connect_msg` that succeeds, and stays
connected in one that runs no `disconnect_msg`. -/
lemma step_connected (h : step s a = some s') : s'.host.ep.connected = true
    ↔ Connects s a ∨ s.host.ep.connected = true ∧ ¬ Disconnects s a := by
  have hsame (hconnected : s'.host.ep.connected = s.host.ep.connected)
      (hnot : ¬ Connects s a) (hnot' : ¬ Disconnects s a) : s'.host.ep.connected = true
        ↔ Connects s a ∨ s.host.ep.connected = true ∧ ¬ Disconnects s a := by
    rw [hconnected, or_iff_right hnot, and_iff_left hnot']
  cases a with
  | call c => exact hsame (act_touches (act_of_step h)).connected nofun nofun
  | dpaConnect =>
      obtain ⟨r, hrun⟩ := run_of_step h
      exact hsame (dpaConnect_connected _ _ _ hrun) nofun nofun
  | dpaAccept =>
      obtain ⟨r, hrun⟩ := run_of_step h
      exact hsame (dpaAccept_connected _ _ _ hrun) nofun nofun
  | progressEpEq timeout =>
      obtain ⟨r, hrun⟩ := run_of_step h
      rcases progressEpEq_connected hrun with ⟨hnone, hconnected⟩ | ⟨err, hsome, hconnected⟩
      · exact hsame hconnected (by simp [Connects, hnone]) (by simp [Disconnects, hnone])
      · rw [hconnected, Connects, Disconnects, hsome]
        by_cases hok : err = .ok
        · exact iff_of_true hok (.inl (congrArg some hok))
        · refine iff_of_false hok ?_
          rintro (hsuccess | ⟨-, hnot⟩)
          · exact hok (Option.some.inj hsuccess)
          · exact hnot ⟨err, rfl, hok⟩
  | dpaShutdown =>
      obtain ⟨r, hrun⟩ := run_of_step h
      have hnot : ¬ Connects s .dpaShutdown := nofun
      rw [dpaShutdown_connected hrun, or_iff_right hnot, Disconnects, Bool.not_eq_true]
  | others rest =>
      obtain rfl := Option.some.inj h
      exact hsame rfl nofun nofun

/-- A step keeps to the connection if and only if it is no send that does not look at it. -/
lemma step_gated (h : step s a = some s') : Gated s' ↔ Gated s ∧ Tested s a := by
  by_cases hcall : ∃ c, a = .call c
  · obtain ⟨c, rfl⟩ := hcall
    have hact := act_of_step h
    obtain ⟨new, hnew, htouched⟩ := (act_touches hact).accesses
    have hsplit : Gated s' ↔ Gated s ∧ ∀ b ∈ new, b.kind ≠ .clean → b.connected = true := by
      rw [Gated, hnew, List.forall_mem_append, Gated]
    rw [hsplit]
    refine and_congr_right fun _ => ?_
    cases hconn : s.host.ep.connected with
    | true =>
        refine iff_of_true (fun b hb _ => ?_) fun e _ _ => hconn
        exact (htouched b hb).2.trans hconn
    | false =>
        obtain ⟨htested, hnot⟩ := act_unconnected hconn hact
        constructor
        · intro hall
          by_contra huntested
          have hne : new ≠ [] := fun hnil => hnot huntested (by rw [hnew, hnil, List.append_nil])
          obtain ⟨b, hb⟩ := List.exists_mem_of_ne_nil new hne
          have hconnected := hall b hb (htouched b hb).1
          exact absurd (((htouched b hb).2.trans hconn).symm.trans hconnected) (by simp)
        · intro hok b hb
          have hnil : new = [] := List.append_right_eq_self.1 (hnew.symm.trans (htested hok).1)
          exact absurd hb (hnil ▸ List.not_mem_nil)
  · obtain ⟨-, cleaned, hclean, hnew⟩ := step_preparing (fun c hc => hcall ⟨c, hc⟩) h
    have htested : Tested s a := by
      cases a with
      | call c => exact absurd ⟨c, rfl⟩ hcall
      | _ => trivial
    rw [and_iff_left htested, Gated, hnew, List.forall_mem_append, ← Gated]
    exact and_iff_left fun b hb hkind => absurd (hclean b hb) hkind

/-- Outside a connection what is posted goes to the queue, and what is queued stays there. -/
lemma step_queued (hconn : s.host.ep.connected = false) (htested : Tested s a)
    (h : step s a = some s') (dir : Direction) :
    (s'.host.queue dir).contents = (s.host.queue dir).contents ++ a.posted dir := by
  cases a with
  | call c => exact ((act_unconnected hconn (act_of_step h)).1 htested).2 dir
  | _ =>
      have hqueue := (step_preparing (fun _ hc => by cases hc) h).1
      rw [Host.queue, hqueue]
      exact (List.append_nil _).symm

/-! ### Every run -/

/-- An endpoint that was just opened and has accessed nothing. -/
structure Opened (s : Site) : Prop where
  ep : ∃ fid caps destAddr autoProgress lockNeeded entries,
    dpaEpOpen fid caps destAddr autoProgress lockNeeded entries = .ok s.host.ep
  accesses : s.host.accesses = []

/-- While the endpoint is not connected, the queues only grow, by what is posted. -/
lemma run_queued {events : List Event} (hwaits : Stepper.Meets step
      (fun s a => s.host.ep.connected = false ∧ Tested s a) s events)
    (hrun : Stepper.run step s events = some t) (dir : Direction) : (t.host.queue dir).contents
      = (s.host.queue dir).contents ++ events.flatMap (Event.posted dir) := by
  induction events generalizing s with
  | nil =>
      obtain rfl : s = t := by simpa using hrun
      exact (List.append_nil _).symm
  | cons a events ih =>
      obtain ⟨s', hs', hrun'⟩ := Stepper.run_cons_some step hrun
      rw [Stepper.meets_cons hs'] at hwaits
      rw [ih hwaits.2 hrun', step_queued hwaits.1.1 hwaits.1.2 hs', List.append_assoc,
        List.flatMap_cons]

/-- For an endpoint from its opening on, and every state that it reaches:

* all its accesses to the rings and cursors were made while it was connected, if and only if no
  send was posted to its empty queue while it was not;
* it is connected if and only if a `connect_msg` succeeded and no `disconnect_msg` has run since;
* as long as it is not connected from then on and no such send is posted, its queues keep what they
  hold, and get what is posted. -/
theorem connection_gating (hopened : Opened s₀) {events : List Event}
    (hrun : Stepper.run step s₀ events = some s) :
    (Gated s ↔ Stepper.Meets step Tested s₀ events)
      ∧ (s.host.ep.connected = true
        ↔ Stepper.Since step Connects (fun s a => ¬ Disconnects s a) s₀ events)
      ∧ ∀ later t,
          Stepper.Meets step (fun s a => s.host.ep.connected = false ∧ Tested s a) s later →
          Stepper.run step s later = some t → ∀ dir, (t.host.queue dir).contents
            = (s.host.queue dir).contents ++ later.flatMap (Event.posted dir) := by
  obtain ⟨fid, caps, destAddr, autoProgress, lockNeeded, entries, hep⟩ := hopened.ep
  have hdown : ¬ s₀.host.ep.connected = true := by simp [(fresh_dpaEpOpen hep).connected]
  have hgated : Gated s₀ := by simp [Gated, hopened.accesses]
  refine ⟨?_, ?_, fun later t hwaits hlater dir => run_queued hwaits hlater dir⟩
  · rw [Stepper.holds_iff_meets (fun _ _ _ h => step_gated h) hrun]
    exact and_iff_right hgated
  · exact Stepper.flag_iff_since (P := fun s => s.host.ep.connected = true)
      (fun _ _ _ h => step_connected h) hdown hrun

/-- An endpoint of node 1, just opened for an interrupt of node 2, with a library that grants every
call and has the answer of node 2 ready. -/
def justOpened : Site :=
  { Handshake.client fiMsg Handshake.firstBuffer with host.ep.eq := none }

lemma opened_justOpened : Opened justOpened := ⟨⟨0, fiMsg, ⟨2, 9⟩, false, false, _, rfl⟩, rfl⟩

/-- The endpoint is bound to an event queue and connected, and then shut down. -/
def connectAndShutdown : List Event :=
  [.others (Handshake.client fiMsg Handshake.firstBuffer), .dpaConnect, .progressEpEq 5,
    .dpaShutdown]

/-- A send during the connection, and a receive after it. -/
def life : List Event :=
  [.others (Handshake.client fiMsg Handshake.firstBuffer), .dpaConnect, .progressEpEq 5,
    .call (.dpaSend (fun _ => 1) 8 0), .dpaShutdown, .call (.dpaRecv (fun _ => 0) 8 1)]

theorem connection_gating_life : Stepper.Meets step Tested justOpened life
    ∧ ∃ s s', Stepper.run step justOpened life = some s
      ∧ step s (.call (.dpaRecv (fun _ => 0) 8 2)) = some s'
      ∧ s.host.accesses.map Access.kind = [.clean, .readStatus, .writeRing]
      ∧ ¬ Stepper.Since step Connects (fun s a => ¬ Disconnects s a) justOpened life
      ∧ (s'.host.queue .recv).contents.map MsgQueueEntry.context = [1, 2] := by
  have hview : ((Stepper.run step justOpened life).bind fun s =>
      (step s (.call (.dpaRecv (fun _ => 0) 8 2))).map fun _ => (s.host.accesses,
        s.host.ep.connected, (s.host.queue .recv).contents.map MsgQueueEntry.context))
      = some ([⟨.clean, false⟩, ⟨.readStatus, true⟩, ⟨.writeRing, true⟩], false, [1]) := by
    decide +kernel
  obtain ⟨s, hrun, hview⟩ := Option.bind_eq_some_iff.1 hview
  obtain ⟨s', hstep, hview⟩ := Option.map_eq_some_iff.1 hview
  simp only [Prod.mk.injEq] at hview
  obtain ⟨haccesses, hconnected, hqueue⟩ := hview
  obtain ⟨hgated, hsince, hqueued⟩ := connection_gating opened_justOpened hrun
  refine ⟨hgated.1 ?_, s, s', hrun, hstep, by rw [haccesses]; rfl, ?_, ?_⟩
  · rw [Gated, haccesses]
    decide
  · rw [← hsince, hconnected]
    exact Bool.false_ne_true
  · have hwaits : Stepper.Meets step (fun s a => s.host.ep.connected = false ∧ Tested s a) s
        [.call (.dpaRecv (fun _ => 0) 8 2)] := ⟨⟨hconnected, nofun⟩, fun _ _ => trivial⟩
    have hrun' : Stepper.run step s [.call (.dpaRecv (fun _ => 0) 8 2)] = some s' := by
      rw [Stepper.run_cons, hstep]
      rfl
    rw [hqueued _ s' hwaits hrun' .recv, List.map_append, hqueue]
    rfl

/-- After the shutdown the mapping of the ring of the peer is gone, but a send still writes to it,
and is not queued. -/
theorem send_after_shutdown : Opened justOpened
    ∧ ∃ s s', Stepper.run step justOpened connectAndShutdown = some s
      ∧ s.host.ep.connected = false
      ∧ step s (.call (.dpaSend (fun _ => 1) 8 0)) = some s'
      ∧ s'.host.accesses = s.host.accesses ++ [⟨.readStatus, false⟩, ⟨.writeRing, false⟩]
      ∧ (s'.host.queue .send).contents = []
      ∧ ¬ Gated s' := by
  have hview : ((Stepper.run step justOpened connectAndShutdown).bind fun s =>
      (step s (.call (.dpaSend (fun _ => 1) 8 0))).map fun s' => (s.host.ep.connected,
        s.host.accesses, s'.host.accesses,
        (s'.host.queue .send).contents.map MsgQueueEntry.context))
      = some (false, [⟨.clean, false⟩],
        [⟨.clean, false⟩, ⟨.readStatus, false⟩, ⟨.writeRing, false⟩], []) := by decide +kernel
  obtain ⟨s, hrun, hview⟩ := Option.bind_eq_some_iff.1 hview
  obtain ⟨s', hstep, hview⟩ := Option.map_eq_some_iff.1 hview
  simp only [Prod.mk.injEq] at hview
  obtain ⟨hconnected, haccesses, haccesses', hqueue⟩ := hview
  refine ⟨opened_justOpened, s, s', hrun, hconnected, hstep, ?_, List.map_eq_nil_iff.1 hqueue, ?_⟩
  · rw [haccesses, haccesses']
    rfl
  · rw [Gated, haccesses']
    decide

end Gating

end DpaProvider
