import DpaProvider.Cm.Handshake
import DpaProvider.Cm.Polling

/-!
The connection events that reading an event queue adds.

A read runs the function in the progress slot of the queue, which takes every wait that does not
time out for a message: a wait that fails otherwise leaves the variable for the message as it was,
and the slot stays set after the handshake, when the interrupt is gone.

* `received`: the messages of a run of reads, those of the waits that succeed;
* `Fine`: a wait succeeds or times out, and no message arrives for an endpoint that is connected;
* `Reflects`: what the events, the queues and the endpoints then have to do with the messages;
* `events_reflect`: a run of such reads.
-/

namespace DpaProvider

open Effect

namespace Site

variable {s t : Site} {data : SegmentData} {err : DpaError}

/-! ### One message -/

/-- The events of the queues so far. -/
def addedEvents (s : Site) (q : ℕ) : List EqEvent := (s.eqs q).added

lemma eqAdd_added {eq : Option ℕ} {event : EqEvent} {a : Unit}
    (hrun : eqAdd eq event s = .ok (a, t)) :
    ∀ q, t.addedEvents q = s.addedEvents q ++ if eq = some q then [event] else [] := by
  intro q
  cases eq with
  | none =>
      obtain ⟨-, rfl⟩ := Prod.mk.inj (Except.ok.inj hrun)
      rw [if_neg nofun, List.append_nil]
  | some r =>
      obtain ⟨-, rfl⟩ := Prod.mk.inj (Except.ok.inj hrun)
      by_cases hq : q = r
      · subst hq
        rw [if_pos rfl]
        simp [addedEvents]
      · rw [if_neg fun h => hq (Option.some.inj h).symm]
        simp [addedEvents, hq]

/-- Which endpoint it is, what it may do, and which events there are. -/
def profile : Frame Site := .same fun s =>
  (s.addedEvents, s.host.ep.fid, s.host.ep.eq, s.host.ep.caps, s.uninit)

lemma ignores_profile {part : Part} (hevents : part ≠ .events) (hslots : part ≠ .slots) :
    Ignores profile part := by
  intro s x
  cases part with
  | events => exact absurd rfl hevents
  | slots => exact absurd rfl hslots
  | _ => rfl

/-- The endpoint carries messages, or what its status holds by chance is no error. -/
def Succeeds (s : Site) : Prop := s.host.ep.carriesMessages = true ∨ s.uninit = .ok

/-- The events after another one for the endpoint, if it has a queue. -/
def Notes (s t : Site) : Prop := ∀ q, t.addedEvents q = s.addedEvents q
  ++ if s.host.ep.eq = some q then [⟨.fiConnected, s.host.ep.fid, none⟩] else []

lemma succeeds_congr (h : profile.rel s t) : t.Succeeds ↔ s.Succeeds := by
  simp only [profile, Frame.same, Prod.mk.injEq] at h
  obtain ⟨-, -, -, hcaps, huninit⟩ := h
  rw [Succeeds, Succeeds, Endpoint.carriesMessages, Endpoint.carriesMessages, hcaps, huninit]

lemma notes_congr {u : Site} (h : profile.rel s t) : Notes t u ↔ Notes s u := by
  simp only [profile, Frame.same, Prod.mk.injEq] at h
  obtain ⟨hevents, hfid, heq, -, -⟩ := h
  rw [Notes, Notes, hevents, hfid, heq]

/-- `connect_msg` fails before it has added its event, or it has added it. -/
lemma connectMsg_event (hrun : connectMsg data s = .ok (err, t)) :
    (err ≠ .ok ∧ profile.rel s t)
      ∨ ((err = .ok ↔ s.Succeeds) ∧ t.host.ep.connected = true ∧ Notes s t) := by
  have hlibrary : Ignores profile .library := ignores_profile nofun nofun
  have hhandles : Ignores profile .handles := ignores_profile nofun nofun
  obtain ⟨err₁, s₁, hsegment, hrun⟩ := run_bind_ok hrun
  have hprofile₁ : profile.rel s s₁ := keeps_connectSegment hhandles hlibrary _ _ _ _ hsegment
  rw [ite_run] at hrun
  split at hrun
  case isTrue hne =>
      obtain ⟨rfl, rfl⟩ := Prod.mk.inj (Except.ok.inj hrun)
      exact .inl ⟨hne, hprofile₁⟩
  case isFalse =>
      rw [get_bind] at hrun
      obtain ⟨err₂, s₂, hsend, hrun⟩ := run_bind_ok hrun
      have hprofile₂ : profile.rel s s₂ := profile.trans _ _ _ hprofile₁
        (keeps_connectRemoteInterrupt hlibrary _ _ _ (fun _ => keeps_setSendInfo hhandles _)
          _ _ _ hsend)
      rw [ite_run] at hrun
      split at hrun
      case isTrue hne =>
          obtain ⟨rfl, rfl⟩ := Prod.mk.inj (Except.ok.inj hrun)
          exact .inl ⟨hne, hprofile₂⟩
      case isFalse =>
          obtain ⟨err₃, s₃, hrecv, hrun⟩ := run_bind_ok hrun
          have hprofile₃ : profile.rel s s₃ := by
            refine profile.trans _ _ _ hprofile₂
              (keeps_connectRemoteInterrupt hlibrary _ _ _ (fun _ => ?_) _ _ _ hrecv)
            exact keeps_setRecvInfo hhandles fun _ => rfl
          rw [ite_run] at hrun
          split at hrun
          case isTrue hne =>
              obtain ⟨rfl, rfl⟩ := Prod.mk.inj (Except.ok.inj hrun)
              exact .inl ⟨hne, hprofile₃⟩
          case isFalse =>
              refine .inr ?_
              obtain ⟨_, s₄, hadd, hrun⟩ := run_bind_ok hrun
              have hadded := eqAdd_added hadd
              obtain ⟨eqs, rfl⟩ := run_eqAdd_ok hadd
              simp only [profile, Frame.same, Prod.mk.injEq] at hprofile₁ hprofile₃
              obtain ⟨-, hfid, heq, hcaps, -⟩ := hprofile₁
              obtain ⟨hevents, -, -, -, huninit⟩ := hprofile₃
              rw [heq, hfid, hevents] at hadded
              rw [setEp_bind, ite_run, get_bind, hcaps] at hrun
              split at hrun
              case isTrue hcarries =>
                  obtain ⟨rfl, rfl⟩ := Prod.mk.inj (Except.ok.inj hrun)
                  exact ⟨iff_of_true rfl (.inl hcarries), rfl, hadded⟩
              case isFalse hcarries =>
                  obtain ⟨rfl, rfl⟩ := Prod.mk.inj (Except.ok.inj hrun)
                  refine ⟨?_, rfl, hadded⟩
                  rw [Succeeds, ← huninit]
                  exact (or_iff_right hcarries).symm

/-- After a message the endpoint is connected or not; if it is, an event was added, and if it could
be connected and is not, none was. -/
lemma finishConnection_event {timeout r : ℤ} (hrun : finishConnection data timeout s = .ok (r, t)) :
    (t.host.ep.connected = true ∧ s.Succeeds ∧ Notes s t)
      ∨ (t.host.ep.connected = false ∧ profile.rel s t)
      ∨ (t.host.ep.connected = false ∧ ¬ s.Succeeds ∧ Notes s t) := by
  obtain ⟨data', s₁, hprepares, hrest⟩ := run_finishConnection_ok hrun
  have hprofile : profile.rel s s₁ := hprepares.rel (keeps_allocSendBuffer
    (ignores_profile nofun nofun) (ignores_profile nofun nofun) (ignores_profile nofun nofun)
    (ignores_profile nofun nofun) (ignores_profile nofun nofun) (ignores_profile nofun nofun) _)
  obtain ⟨err, s₂, hconnect, hend⟩ := run_connectOrDisconnect_ok hrest
  have hprofile₁ : profile.rel s
      { s₁ with dpa := s₁.dpa.call (.removeDataInterrupt s.host.ep.connectInterrupt) } := hprofile
  have hevent := connectMsg_event hconnect
  rw [succeeds_congr hprofile₁, notes_congr hprofile₁] at hevent
  rcases hend with ⟨hne, _, hdisconnect⟩ | ⟨hok, rfl⟩
  · have hconnected := disconnectMsg_connected _ _ _ hdisconnect
    have hdropped : profile.rel s₂ t := keeps_disconnectMsg (ignores_profile nofun nofun)
      (ignores_profile nofun nofun) _ _ _ hdisconnect
    rcases hevent with ⟨-, hprofile₂⟩ | ⟨hok, -, hnotes⟩
    · exact .inr (.inl ⟨hconnected, profile.trans _ _ _ hprofile₁
        (profile.trans _ _ _ hprofile₂ hdropped)⟩)
    · refine .inr (.inr ⟨hconnected, fun h => hne (hok.2 h), ?_⟩)
      intro q
      rw [← hnotes q]
      exact congrFun (congrArg Prod.fst hdropped) q
  · rcases hevent with ⟨hne, -⟩ | ⟨hsucceeds, hconnected, hnotes⟩
    · exact absurd hok hne
    · exact .inl ⟨hconnected, hsucceeds.1 hok, hnotes⟩

/-- What tells endpoints apart, and what they may do. -/
def identity : Frame Site := .same fun s =>
  (s.host.ep.fid, s.host.ep.eq, s.host.ep.caps, s.uninit, s.pep)

lemma ignores_identity {part : Part} (h : part ≠ .pep) : Ignores identity part := by
  intro s x
  cases part with
  | pep => exact absurd rfl h
  | _ => rfl

/-- The number that the message tells is that of the peer from now on. -/
lemma finishConnection_connectId {timeout r : ℤ}
    (hrun : finishConnection data timeout s = .ok (r, t)) :
    t.host.ep.peerAddr.connectId = data.acceptIntId := by
  obtain ⟨data', s₁, hprepares, hrest⟩ := run_finishConnection_ok hrun
  have hid : s₁.host.ep.peerAddr.connectId = data.acceptIntId :=
    hprepares.rel (keeps_allocSendBuffer (F := connectId) (ignores_connectId nofun)
      (ignores_connectId nofun) (ignores_connectId nofun) (ignores_connectId nofun)
      (ignores_connectId nofun) (ignores_connectId nofun) _)
  have hkept := keeps_connectOrDisconnect (F := connectId) (ignores_connectId nofun)
    (ignores_connectId nofun) (ignores_connectId nofun) (ignores_connectId nofun) data' timeout
    _ _ _ hrest
  exact Eq.trans hkept hid

end Site

open Site

namespace Process

/-- The event that a message is to add. -/
def eventOf (p : Process) : Progress → SegmentData → EqEvent
  | .progressPepEq k, data => ⟨.fiConnreq, (p.peps k).fid, some ⟨data.nodeId, data.acceptIntId⟩⟩
  | .progressEpEq k, _ => ⟨.fiConnected, (p.eps k).fid, none⟩

/-- The endpoint is not connected. -/
def Unconnected (p : Process) : Progress → Prop
  | .progressPepEq _ => True
  | .progressEpEq k => (p.eps k).connected = false

instance (p : Process) (u : Progress) : Decidable (p.Unconnected u) :=
  match u with
  | .progressPepEq _ => inferInstanceAs (Decidable True)
  | .progressEpEq k => inferInstanceAs (Decidable ((p.eps k).connected = false))

/-- The message that a read of the queue receives, if there is one. -/
def message (p : Process) (q : ℕ) : List (Progress × SegmentData) :=
  match (p.site.eqs q).progress with
  | none => []
  | some u => if p.site.dpa.reply.err = .ok then [(u, p.site.dpa.reply.data)] else []

/-- The endpoints and the event queues are what they were. -/
def Unchanged (p p' : Process) : Prop :=
  p'.eps = p.eps ∧ p'.peps = p.peps ∧ p'.site.eqs = p.site.eqs ∧ p'.site.uninit = p.site.uninit

/-- A passive endpoint has received a message. -/
def Requested (p p' : Process) (k : ℕ) (data : SegmentData) : Prop :=
  p'.eps = p.eps ∧ p'.peps = p.peps ∧ p'.site.uninit = p.site.uninit
    ∧ ∀ q, p'.site.addedEvents q = p.site.addedEvents q
      ++ if (p.peps k).eq = some q then [p.eventOf (.progressPepEq k) data] else []

/-- An endpoint has received a message. -/
structure Finished (p p' : Process) (k : ℕ) (data : SegmentData) : Prop where
  others : ∀ j, j ≠ k → p'.eps j = p.eps j
  peps : p'.peps = p.peps
  uninit : p'.site.uninit = p.site.uninit
  same : (p'.eps k).fid = (p.eps k).fid ∧ (p'.eps k).eq = (p.eps k).eq
    ∧ (p'.eps k).caps = (p.eps k).caps
  connectId : (p'.eps k).peerAddr.connectId = data.acceptIntId
  event : ((p'.eps k).connected = true ∧ (p.withEp k).Succeeds ∧ Notes (p.withEp k) p'.site)
    ∨ ((p'.eps k).connected = false ∧ p'.site.addedEvents = p.site.addedEvents)
    ∨ ((p'.eps k).connected = false ∧ ¬ (p.withEp k).Succeeds ∧ Notes (p.withEp k) p'.site)

variable {p p' : Process} {q k : ℕ} {timeout r : ℤ}

lemma progressPepEq_cases (hrun : p.onPep k (progressPepEq timeout) = .ok (r, p')) :
    (p.site.dpa.reply.err = .timeout ∧ Unchanged p p')
      ∨ (p.site.dpa.reply.err ≠ .timeout ∧ Requested p p' k p.site.dpa.reply.data) := by
  obtain ⟨s, hcall, rfl⟩ := onPep_ok hrun
  rw [progressPepEq, get_bind] at hcall
  obtain ⟨⟨err, data⟩, s₁, hwait, hcall⟩ := run_bind_ok hcall
  obtain ⟨hreply, rfl⟩ := Prod.mk.inj (run_progressEq_ok hwait)
  obtain ⟨rfl, rfl⟩ := Prod.mk.inj hreply
  simp only [ite_run] at hcall
  split at hcall
  case isTrue htimeout =>
      obtain ⟨-, rfl⟩ := Prod.mk.inj (Except.ok.inj hcall)
      exact .inl ⟨htimeout, rfl, Function.update_eq_self _ _, rfl, rfl⟩
  case isFalse hsome =>
      obtain ⟨_, s₂, hadd, hcall⟩ := run_bind_ok hcall
      obtain ⟨-, rfl⟩ := Prod.mk.inj (Except.ok.inj hcall)
      rw [connectionRequest, get_bind] at hadd
      have hadded := eqAdd_added hadd
      obtain ⟨eqs, rfl⟩ := run_eqAdd_ok hadd
      exact .inr ⟨hsome, rfl, Function.update_eq_self _ _, rfl, hadded⟩

lemma progressEpEq_cases (hrun : p.onEp k (progressEpEq timeout) = .ok (r, p')) :
    (p.site.dpa.reply.err = .timeout ∧ Unchanged p p')
      ∨ (p.site.dpa.reply.err ≠ .timeout ∧ Finished p p' k p.site.dpa.reply.data) := by
  obtain ⟨s, hcall, rfl⟩ := onEp_ok hrun
  have hidentity : identity.rel (p.withEp k) s := keeps_progressEpEq
    (.of_ignores fun _ _ hpep => ignores_identity hpep) _ _ _ _ hcall
  rw [progressEpEq, get_bind] at hcall
  obtain ⟨⟨err, data⟩, s₁, hwait, hcall⟩ := run_bind_ok hcall
  obtain ⟨hreply, rfl⟩ := Prod.mk.inj (run_progressEq_ok hwait)
  obtain ⟨rfl, rfl⟩ := Prod.mk.inj hreply
  simp only [ite_run] at hcall
  split at hcall
  case isTrue htimeout =>
      obtain ⟨-, rfl⟩ := Prod.mk.inj (Except.ok.inj hcall)
      exact .inl ⟨htimeout, Function.update_eq_self _ _, rfl, rfl, rfl⟩
  case isFalse hsome =>
      simp only [identity, Frame.same, Prod.mk.injEq] at hidentity
      obtain ⟨hfid, heq, hcaps, huninit, -⟩ := hidentity
      refine .inr ⟨hsome, fun j hj => Function.update_of_ne hj _ _, rfl, huninit, ?_, ?_, ?_⟩
      · simp only [Function.update_self]
        exact ⟨hfid, heq, hcaps⟩
      · simp only [Function.update_self]
        exact finishConnection_connectId hcall
      · simp only [Function.update_self]
        rcases finishConnection_event hcall with hevent | ⟨hconnected, hprofile⟩ | hevent
        · exact .inl hevent
        · exact .inr (.inl ⟨hconnected, congrArg Prod.fst hprofile⟩)
        · exact .inr (.inr hevent)

end Process

/-! ### Runs of reads -/

/-- A process, and the messages that the reads have received. -/
structure Reads where
  process : Process
  messages : List (Progress × SegmentData)

namespace Reads

variable {p : Process} {w w' : Reads} {read : ℕ × ℤ}

/-- A read of a queue, with a timeout. -/
def step (w : Reads) (read : ℕ × ℤ) : Option Reads :=
  (w.process.makeQueueProgress read.1 read.2).toOption.map fun r =>
    { process := r.2, messages := w.messages ++ w.process.message read.1 }

/-- The wait times out, or it succeeds and its endpoint is not connected. -/
def Fine (w : Reads) (read : ℕ × ℤ) : Prop :=
  ∀ u ∈ (w.process.site.eqs read.1).progress, w.process.site.dpa.reply.err = .timeout
    ∨ (w.process.site.dpa.reply.err = .ok ∧ w.process.Unconnected u)

instance (w : Reads) (read : ℕ × ℤ) : Decidable (w.Fine read) :=
  inferInstanceAs (Decidable (∀ u ∈ (w.process.site.eqs read.1).progress, _))

/-- A read whose wait does not succeed leaves the endpoints and the queues as they were. -/
def Inert (w : Reads) (read : ℕ × ℤ) : Prop :=
  w.process.site.dpa.reply.err ≠ .ok → ∀ w', w.step read = some w' →
    w'.process.eps = w.process.eps ∧ w'.process.peps = w.process.peps
      ∧ w'.process.site.eqs = w.process.site.eqs

/-- What a read does. -/
lemma step_cases (hfine : w.Fine read) (hstep : w.step read = some w') :
    (w.process.Unchanged w'.process ∧ w'.messages = w.messages)
      ∨ (w.process.site.dpa.reply.err = .ok ∧ ∃ k data,
        w'.messages = w.messages ++ [(.progressPepEq k, data)]
          ∧ w.process.Requested w'.process k data)
      ∨ (w.process.site.dpa.reply.err = .ok ∧ ∃ k data, (w.process.eps k).connected = false
        ∧ w'.messages = w.messages ++ [(.progressEpEq k, data)]
          ∧ w.process.Finished w'.process k data) := by
  obtain ⟨⟨r, p'⟩, hrun, rfl⟩ := Option.map_eq_some_iff.1 hstep
  replace hrun := toOption_eq_some hrun
  cases hslot : (w.process.site.eqs read.1).progress with
  | none =>
      rw [Process.makeQueueProgress, hslot] at hrun
      obtain ⟨-, rfl⟩ := Prod.mk.inj (Except.ok.inj hrun)
      exact .inl ⟨⟨rfl, rfl, rfl, rfl⟩, by simp [Process.message, hslot]⟩
  | some u =>
      rw [Process.makeQueueProgress, hslot] at hrun
      have hmessage : w.process.message read.1 = if w.process.site.dpa.reply.err = .ok
          then [(u, w.process.site.dpa.reply.data)] else [] := by rw [Process.message, hslot]
      dsimp only
      rw [hmessage]
      cases u with
      | progressPepEq k =>
          rcases Process.progressPepEq_cases hrun with ⟨htimeout, hsame⟩ | ⟨hsome, hrequested⟩
          · rw [htimeout, if_neg (by simp), List.append_nil]
            exact .inl ⟨hsame, rfl⟩
          · rcases hfine _ hslot with htimeout | ⟨hok, -⟩
            · exact absurd htimeout hsome
            · rw [if_pos hok]
              exact .inr (.inl ⟨hok, k, _, rfl, hrequested⟩)
      | progressEpEq k =>
          rcases Process.progressEpEq_cases hrun with ⟨htimeout, hsame⟩ | ⟨hsome, hfinished⟩
          · rw [htimeout, if_neg (by simp), List.append_nil]
            exact .inl ⟨hsame, rfl⟩
          · rcases hfine _ hslot with htimeout | ⟨hok, hconnected⟩
            · exact absurd htimeout hsome
            · rw [if_pos hok]
              exact .inr (.inr ⟨hok, k, _, hconnected, rfl, hfinished⟩)

lemma inert_of_fine (hfine : w.Fine read) : w.Inert read := by
  intro hfails w' hstep
  rcases step_cases hfine hstep with ⟨⟨heps, hpeps, heqs, -⟩, -⟩ | ⟨hok, -⟩ | ⟨hok, -⟩
  · exact ⟨heps, hpeps, heqs⟩
  · exact absurd hok hfails
  · exact absurd hok hfails

/-- How often an endpoint was told that it is connected. -/
def told (s : Site) (q k : ℕ) : ℕ := (s.addedEvents q).count ⟨.fiConnected, k, none⟩

/-- The events that are to be added to a queue for the messages. -/
def eventsFor (p : Process) (q : ℕ) (messages : List (Progress × SegmentData)) : List EqEvent :=
  (messages.filter fun m => p.bound m.1 = some q).map fun m => p.eventOf m.1 m.2

lemma eventsFor_concat (p : Process) (q : ℕ) (messages : List (Progress × SegmentData))
    (u : Progress) (data : SegmentData) : eventsFor p q (messages ++ [(u, data)])
      = eventsFor p q messages ++ if p.bound u = some q then [p.eventOf u data] else [] := by
  rw [eventsFor, List.filter_append, List.map_append, ← eventsFor]
  by_cases hq : p.bound u = some q
  · rw [if_pos hq, List.filter_cons_of_pos (by simpa using hq)]
    rfl
  · rw [if_neg hq, List.filter_cons_of_neg (by simpa using hq)]
    rfl

/-- What the events and the endpoints have to do with the messages since `p`: the events of a queue
are built from different messages for its endpoints; an endpoint that was connected is what it was;
and one that gets connected is told once, with a message that told the number of its peer. -/
structure Reflects (p : Process) (w : Reads) : Prop where
  events : ∀ q, ∃ l, w.process.site.addedEvents q = p.site.addedEvents q ++ l
    ∧ l.Sublist (eventsFor p q w.messages)
  established : ∀ k, (p.eps k).connected = true → w.process.eps k = p.eps k
  once : ∀ k q, (p.eps k).eq = some q → (w.process.eps k).connected = true →
    told w.process.site q k = told p.site q k + if (p.eps k).connected then 0 else 1
  origin : ∀ k, (p.eps k).connected = false → (w.process.eps k).connected = true →
    ∃ data, (.progressEpEq k, data) ∈ w.messages
      ∧ (w.process.eps k).peerAddr.connectId = data.acceptIntId

/-- A message adds an event to one queue at most. -/
lemma sum_eventsFor_le (p : Process) (queues : Finset ℕ)
    (messages : List (Progress × SegmentData)) :
    ∑ q ∈ queues, (eventsFor p q messages).length ≤ messages.length := by
  induction messages using List.reverseRecOn with
  | nil => simp [eventsFor]
  | append_singleton messages m ih =>
      have hone : ∑ q ∈ queues, (if p.bound m.1 = some q then 1 else 0) ≤ 1 := by
        cases p.bound m.1 with
        | none => simp
        | some r =>
            simp only [Option.some.injEq, Finset.sum_ite_eq]
            split <;> omega
      have hlength (q : ℕ) : (eventsFor p q (messages ++ [m])).length
          = (eventsFor p q messages).length + if p.bound m.1 = some q then 1 else 0 := by
        rw [show m = (m.1, m.2) from rfl, eventsFor_concat, List.length_append]
        split <;> rfl
      calc ∑ q ∈ queues, (eventsFor p q (messages ++ [m])).length
          = ∑ q ∈ queues, (eventsFor p q messages).length
            + ∑ q ∈ queues, (if p.bound m.1 = some q then 1 else 0) := by
              rw [← Finset.sum_add_distrib]
              exact Finset.sum_congr rfl fun q _ => hlength q
        _ ≤ messages.length + 1 := Nat.add_le_add ih hone
        _ = (messages ++ [m]).length := by rw [List.length_append, List.length_singleton]

/-- There are no more events than messages. -/
lemma Reflects.sum_le (h : Reflects p w) (queues : Finset ℕ) :
    ∑ q ∈ queues, (w.process.site.addedEvents q).length
      ≤ ∑ q ∈ queues, (p.site.addedEvents q).length + w.messages.length := by
  have hq (q : ℕ) : (w.process.site.addedEvents q).length
      ≤ (p.site.addedEvents q).length + (eventsFor p q w.messages).length := by
    obtain ⟨l, hl, hsublist⟩ := h.events q
    rw [hl, List.length_append]
    exact Nat.add_le_add_left hsublist.length_le _
  calc ∑ q ∈ queues, (w.process.site.addedEvents q).length
      ≤ ∑ q ∈ queues, ((p.site.addedEvents q).length + (eventsFor p q w.messages).length) :=
        Finset.sum_le_sum fun q _ => hq q
    _ = ∑ q ∈ queues, (p.site.addedEvents q).length
        + ∑ q ∈ queues, (eventsFor p q w.messages).length := Finset.sum_add_distrib
    _ ≤ ∑ q ∈ queues, (p.site.addedEvents q).length + w.messages.length :=
        Nat.add_le_add_left (sum_eventsFor_le p queues w.messages) _

/-- Besides, endpoints stay on their queues; one that is not connected was not told anything, unless
its status lets every connection fail. -/
structure Sound (p : Process) (w : Reads) : Prop extends Reflects p w where
  peps : w.process.peps = p.peps
  uninit : w.process.site.uninit = p.site.uninit
  same : ∀ k, (w.process.eps k).fid = (p.eps k).fid ∧ (w.process.eps k).eq = (p.eps k).eq
    ∧ (w.process.eps k).caps = (p.eps k).caps
  untold : ∀ k q, (p.eps k).eq = some q → (p.withEp k).Succeeds →
    (w.process.eps k).connected = false → told w.process.site q k = told p.site q k
  fails : ∀ k, ¬ (p.withEp k).Succeeds → (p.eps k).connected = false →
    (w.process.eps k).connected = false

lemma Sound.eventOf (h : Sound p w) (u : Progress) (data : SegmentData) :
    w.process.eventOf u data = p.eventOf u data := by
  cases u with
  | progressPepEq k => rw [Process.eventOf, Process.eventOf, h.peps]
  | progressEpEq k => rw [Process.eventOf, Process.eventOf, (h.same k).1]

lemma Sound.succeeds_iff (h : Sound p w) (k : ℕ) :
    (w.process.withEp k).Succeeds ↔ (p.withEp k).Succeeds := by
  have hcaps : (w.process.withEp k).host.ep.caps = (p.withEp k).host.ep.caps := (h.same k).2.2
  have huninit : (w.process.withEp k).uninit = (p.withEp k).uninit := h.uninit
  rw [Succeeds, Succeeds, Endpoint.carriesMessages, Endpoint.carriesMessages, hcaps, huninit]

lemma sound_start (p : Process) : Sound p ⟨p, []⟩ where
  events q := ⟨[], (List.append_nil _).symm, List.nil_sublist _⟩
  established _ _ := rfl
  once k q _ hconnected := by rw [if_pos hconnected, Nat.add_zero]
  origin k hnot hconnected := absurd (hnot.symm.trans hconnected) nofun
  peps := rfl
  uninit := rfl
  same _ := ⟨rfl, rfl, rfl⟩
  untold _ _ _ _ _ := rfl
  fails _ _ hnot := hnot

lemma Sound.unchanged (h : Sound p w) (hsame : w.process.Unchanged w'.process)
    (hmessages : w'.messages = w.messages) : Sound p w' := by
  obtain ⟨heps, hpeps, heqs, huninit⟩ := hsame
  have hadded : w'.process.site.addedEvents = w.process.site.addedEvents := by
    funext q
    rw [addedEvents, heqs, ← addedEvents]
  have htold (q k : ℕ) : told w'.process.site q k = told w.process.site q k := by
    rw [told, hadded, ← told]
  constructor
  case toReflects =>
      constructor
      case events => rw [hadded, hmessages]; exact h.events
      case established => rw [heps]; exact h.established
      case once => simp only [heps, htold]; exact h.once
      case origin => rw [heps, hmessages]; exact h.origin
  case peps => rw [hpeps, h.peps]
  case uninit => rw [huninit, h.uninit]
  case same => rw [heps]; exact h.same
  case untold => simp only [heps, htold]; exact h.untold
  case fails => rw [heps]; exact h.fails

/-- A request tells no endpoint that it is connected. -/
lemma Sound.requested (h : Sound p w) {k : ℕ} {data : SegmentData}
    (hmessages : w'.messages = w.messages ++ [(.progressPepEq k, data)])
    (hrequested : w.process.Requested w'.process k data) : Sound p w' := by
  obtain ⟨heps, hpeps, huninit, hadded⟩ := hrequested
  have htold (q j : ℕ) : told w'.process.site q j = told w.process.site q j := by
    rw [told, hadded, List.count_append, ← told]
    refine Nat.add_eq_left.2 (List.count_eq_zero_of_not_mem ?_)
    split
    · simp [Process.eventOf]
    · simp
  constructor
  case toReflects =>
      constructor
      case events =>
          intro q
          obtain ⟨l, hl, hsublist⟩ := h.events q
          refine ⟨_, by rw [hadded, hl, List.append_assoc], ?_⟩
          rw [hmessages, eventsFor_concat, h.eventOf, Process.bound, ← h.peps]
          exact hsublist.append (List.Sublist.refl _)
      case established => rw [heps]; exact h.established
      case once => simp only [heps, htold]; exact h.once
      case origin =>
          intro j hnot hconnected
          rw [heps] at hconnected ⊢
          obtain ⟨data', hmem, hid⟩ := h.origin j hnot hconnected
          exact ⟨data', by rw [hmessages]; exact List.mem_append_left _ hmem, hid⟩
  case peps => rw [hpeps, h.peps]
  case uninit => rw [huninit, h.uninit]
  case same => rw [heps]; exact h.same
  case untold => simp only [heps, htold]; exact h.untold
  case fails => rw [heps]; exact h.fails

/-- What a message for an endpoint adds to a queue. -/
lemma finished_added {k : ℕ} {data : SegmentData} (hfinished : w.process.Finished w'.process k data)
    (q : ℕ) : ∃ new, w'.process.site.addedEvents q = w.process.site.addedEvents q ++ new
      ∧ new.Sublist (if w.process.bound (.progressEpEq k) = some q
        then [w.process.eventOf (.progressEpEq k) data] else []) := by
  rcases hfinished.event with ⟨-, -, hnotes⟩ | ⟨-, hsame⟩ | ⟨-, -, hnotes⟩
  · exact ⟨_, hnotes q, List.Sublist.refl _⟩
  · exact ⟨[], by rw [hsame, List.append_nil], List.nil_sublist _⟩
  · exact ⟨_, hnotes q, List.Sublist.refl _⟩

/-- The other endpoints are told nothing. -/
lemma finished_told {j k q : ℕ} {data : SegmentData} (hfid : (w.process.eps k).fid = k) (hj : j ≠ k)
    (hfinished : w.process.Finished w'.process k data) :
    told w'.process.site q j = told w.process.site q j := by
  obtain ⟨new, hadded, hsublist⟩ := finished_added hfinished q
  rw [told, hadded, List.count_append, ← told]
  refine Nat.add_eq_left.2 (List.count_eq_zero_of_not_mem fun hmem => ?_)
  have hevent := hsublist.subset hmem
  split at hevent
  · rw [List.mem_singleton, Process.eventOf, hfid] at hevent
    exact hj (EqEvent.mk.inj hevent).2.1
  · exact absurd hevent List.not_mem_nil

/-- An endpoint that is not connected was not connected at the start. -/
lemma Sound.unconnected_start (h : Sound p w) {k : ℕ}
    (hnot : (w.process.eps k).connected = false) : (p.eps k).connected = false := by
  by_contra hconnected
  rw [Bool.not_eq_false] at hconnected
  rw [h.established k hconnected, hconnected] at hnot
  exact absurd hnot nofun

section Finished

variable (h : Sound p w) (hnumbered : p.Numbered) {k : ℕ} {data : SegmentData}
  (hnot : (w.process.eps k).connected = false)
  (hmessages : w'.messages = w.messages ++ [(.progressEpEq k, data)])
  (hfinished : w.process.Finished w'.process k data)

include h hnumbered hnot hmessages hfinished

/-- The event that is added, if one is, belongs to the message. -/
lemma Sound.finished_reflects : Reflects p w' := by
  have hfid : (w.process.eps k).fid = k := (h.same k).1.trans (hnumbered.ep k)
  have hstart := h.unconnected_start hnot
  constructor
  case events =>
      intro q
      obtain ⟨l, hl, hsublist⟩ := h.events q
      obtain ⟨new, hadded, hnew⟩ := finished_added hfinished q
      refine ⟨l ++ new, by rw [hadded, hl, List.append_assoc], ?_⟩
      have hbound : w.process.bound (.progressEpEq k) = p.bound (.progressEpEq k) :=
        (h.same k).2.1
      rw [hbound, h.eventOf] at hnew
      rw [hmessages, eventsFor_concat]
      exact hsublist.append hnew
  case established =>
      intro j hconnected
      have hj : j ≠ k := by
        rintro rfl
        exact absurd (hstart.symm.trans hconnected) nofun
      rw [hfinished.others j hj, h.established j hconnected]
  case once =>
      intro j q heq hconnected
      by_cases hj : j = k
      · subst hj
        rcases hfinished.event with ⟨-, hsucceeds, hnotes⟩ | ⟨hfails, -⟩ | ⟨hfails, -⟩
        · have huntold := h.untold j q heq ((h.succeeds_iff j).1 hsucceeds) hnot
          have hq : (w.process.withEp j).host.ep.eq = some q := (h.same j).2.1.trans heq
          have hself : (w.process.withEp j).host.ep.fid = j := hfid
          rw [told, hnotes q, if_pos hq, hself, List.count_append, List.count_singleton_self,
            hstart, if_neg nofun]
          exact congrArg (· + 1) huntold
        · exact absurd (hfails.symm.trans hconnected) nofun
        · exact absurd (hfails.symm.trans hconnected) nofun
      · rw [finished_told hfid hj hfinished]
        rw [hfinished.others j hj] at hconnected
        exact h.once j q heq hconnected
  case origin =>
      intro j hbefore hconnected
      rw [hmessages]
      by_cases hj : j = k
      · subst hj
        exact ⟨data, List.mem_append_right _ (List.mem_singleton.2 rfl), hfinished.connectId⟩
      · rw [hfinished.others j hj] at hconnected ⊢
        obtain ⟨data', hmem, hid⟩ := h.origin j hbefore hconnected
        exact ⟨data', List.mem_append_left _ hmem, hid⟩

lemma Sound.finished : Sound p w' := by
  have hfid : (w.process.eps k).fid = k := (h.same k).1.trans (hnumbered.ep k)
  constructor
  case toReflects => exact h.finished_reflects hnumbered hnot hmessages hfinished
  case peps => rw [hfinished.peps, h.peps]
  case uninit => rw [hfinished.uninit, h.uninit]
  case same =>
      intro j
      by_cases hj : j = k
      · subst hj
        obtain ⟨hfid', heq', hcaps'⟩ := hfinished.same
        rw [hfid', heq', hcaps']
        exact h.same j
      · rw [hfinished.others j hj]
        exact h.same j
  case untold =>
      intro j q heq hsucceeds hfails
      by_cases hj : j = k
      · subst hj
        rcases hfinished.event with ⟨hconnected, -⟩ | ⟨-, hsame⟩ | ⟨-, hnever, -⟩
        · exact absurd (hfails.symm.trans hconnected) nofun
        · rw [told, hsame, ← told]
          exact h.untold j q heq hsucceeds hnot
        · exact absurd ((h.succeeds_iff j).2 hsucceeds) hnever
      · rw [finished_told hfid hj hfinished]
        rw [hfinished.others j hj] at hfails
        exact h.untold j q heq hsucceeds hfails
  case fails =>
      intro j hnever hbefore
      by_cases hj : j = k
      · subst hj
        rcases hfinished.event with ⟨-, hsucceeds, -⟩ | ⟨hfails, -⟩ | ⟨hfails, -⟩
        · exact absurd ((h.succeeds_iff j).1 hsucceeds) hnever
        · exact hfails
        · exact hfails
      · rw [hfinished.others j hj]
        exact h.fails j hnever hbefore

end Finished

/-- In a run of reads whose waits time out or bring a message for an endpoint that is not connected,
the events reflect the messages, there are no more of them, and waits without a message change
nothing. -/
theorem events_reflect (hnumbered : p.Numbered) {reads : List (ℕ × ℤ)}
    (hfine : Stepper.Meets step Fine ⟨p, []⟩ reads) :
    Stepper.Meets step Inert ⟨p, []⟩ reads
      ∧ ∀ w, Stepper.run step ⟨p, []⟩ reads = some w → Reflects p w
        ∧ ∀ queues : Finset ℕ, ∑ q ∈ queues, (w.process.site.addedEvents q).length
          ≤ ∑ q ∈ queues, (p.site.addedEvents q).length + w.messages.length := by
  refine ⟨hfine.mono fun w read => inert_of_fine, fun w hrun => ?_⟩
  have hsound : Sound p w := by
    refine Stepper.run_induction (I := Sound p) (fun w read w' h hread hstep => ?_) (sound_start p)
      hfine hrun
    rcases step_cases hread hstep with ⟨hsame, hmessages⟩ | ⟨-, k, data, hmessages, hrequested⟩
      | ⟨-, k, data, hnot, hmessages, hfinished⟩
    · exact h.unchanged hsame hmessages
    · exact h.requested hmessages hrequested
    · exact h.finished hnumbered hnot hmessages hfinished
  exact ⟨hsound.toReflects, hsound.toReflects.sum_le⟩

/-- A process whose endpoint 0 waits for an answer on the event queue 0, and then once more. -/
def expecting (second : DpaError) : Process :=
  { Process.granted with site := { Process.granted.site with
      eqs := Function.update Process.granted.site.eqs 0 ⟨some (.progressEpEq 0), [], []⟩
      dpa :=
        { replies := fun i => ⟨if i = 18 then second else .ok, 7, .ofNode 2, 64⟩
          calls := [] } } }

lemma numbered_expecting (second : DpaError) : (expecting second).Numbered :=
  ⟨fun _ => rfl, fun _ => rfl⟩

/-- The answer arrives, and the next wait times out. -/
theorem events_reflect_answer :
    Stepper.Meets step Inert ⟨expecting .timeout, []⟩ [(0, 5), (0, 5)]
      ∧ ∃ w, Stepper.run step ⟨expecting .timeout, []⟩ [(0, 5), (0, 5)] = some w
        ∧ w.messages.length = 1 ∧ Reflects (expecting .timeout) w := by
  have hfine : Stepper.Meets step Fine ⟨expecting .timeout, []⟩ [(0, 5), (0, 5)] := by
    refine ⟨by decide +kernel, fun w hw => ⟨?_, fun _ _ => trivial⟩⟩
    have hview : (step ⟨expecting .timeout, []⟩ (0, 5)).map (fun w => decide (w.Fine (0, 5)))
        = some true := by decide +kernel
    rw [hw] at hview
    exact of_decide_eq_true (Option.some.inj hview)
  obtain ⟨hinert, hreflects⟩ := events_reflect (numbered_expecting .timeout) hfine
  have hview : (Stepper.run step ⟨expecting .timeout, []⟩ [(0, 5), (0, 5)]).map
      (fun w => w.messages.length) = some 1 := by decide +kernel
  obtain ⟨w, hrun, hmessages⟩ := Option.map_eq_some_iff.1 hview
  exact ⟨hinert, w, hrun, hmessages, (hreflects w hrun).1⟩

/-- The answer arrives, and the next wait fails, since the interrupt was removed: the endpoint is
told a second time that it is connected, without a message. -/
theorem told_twice : ∃ w, Stepper.run step ⟨expecting (.other 3), []⟩ [(0, 5), (0, 5)] = some w
    ∧ w.messages.length = 1 ∧ told w.process.site 0 0 = 2 ∧ ¬ Reflects (expecting (.other 3)) w
    ∧ ¬ Stepper.Meets step Inert ⟨expecting (.other 3), []⟩ [(0, 5), (0, 5)] := by
  have hview : (Stepper.run step ⟨expecting (.other 3), []⟩ [(0, 5), (0, 5)]).map
      (fun w => (w.messages.length, told w.process.site 0 0, (w.process.eps 0).connected))
        = some (1, 2, true) := by decide +kernel
  obtain ⟨w, hrun, hview⟩ := Option.map_eq_some_iff.1 hview
  obtain ⟨hmessages, hview⟩ := Prod.mk.inj hview
  obtain ⟨htold, hconnected⟩ := Prod.mk.inj hview
  refine ⟨w, hrun, hmessages, htold, fun hreflects => ?_, fun hinert => ?_⟩
  · have honce := hreflects.once 0 0 rfl hconnected
    rw [htold] at honce
    exact absurd honce (by decide +kernel)
  · have hfirst : ((step ⟨expecting (.other 3), []⟩ (0, 5)).bind fun w =>
        (step w (0, 5)).map fun w' => (w.process.site.dpa.reply.err,
          (w.process.site.addedEvents 0).length, (w'.process.site.addedEvents 0).length))
          = some (.other 3, 1, 2) := by decide +kernel
    obtain ⟨w₁, hstep, hfirst⟩ := Option.bind_eq_some_iff.1 hfirst
    obtain ⟨w₂, hstep', hfirst⟩ := Option.map_eq_some_iff.1 hfirst
    obtain ⟨herr, hfirst⟩ := Prod.mk.inj hfirst
    obtain ⟨hone, htwo⟩ := Prod.mk.inj hfirst
    obtain ⟨hsecond, -⟩ := hinert.2 w₁ hstep
    obtain ⟨-, -, hqueues⟩ := hsecond (by rw [herr]; exact nofun) w₂ hstep'
    rw [addedEvents, hqueues, ← addedEvents, hone] at htwo
    exact absurd htwo (by simp)

end Reads

end DpaProvider
