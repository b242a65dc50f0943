import DpaProvider.Cm.Connect
import DpaProvider.Library.Ledger
import DpaProvider.Library.Stepper

/-!
The handles of a connection are given back.

`connect_msg` acquires up to five handles in stages, and `disconnect_msg` gives back those that are
not null and leaves them in place.  So a handle is given back once more by the next
`disconnect_msg`, unless a `connect_msg` has overwritten it before.

* `stops`, `Connection.kept`: where the library lets an attempt fail, and what it then leaves of the
  handles that were in place;
* `connectMsg_attempt`: the other handles in place after an attempt are new;
* `Managed`: the handles in place are those of a live connection, or all have been given back;
* `released_once`: every step of a run keeps the discipline iff every step is `ReleaseOk`.
-/

namespace DpaProvider

open Ledger Effect

/-! ### The handles -/

/-- What `connect_msg` acquires. -/
inductive Resource where
  | sequence (h : Handle)
  | map (h : Handle)
  | segment (h : Handle)
  | interrupt (h : Handle)
  deriving DecidableEq

namespace Resource

def handle : Resource → Handle
  | .sequence h | .map h | .segment h | .interrupt h => h

/-- The call that acquires it. -/
def madeBy : Resource → DpaCall → Bool
  | .sequence _, .createMapSequence _ | .map _, .mapRemoteSegment ..
  | .segment _, .connectSegment ..
  | .interrupt _, .connectInterrupt .. => true
  | _, _ => false

/-- The call that gives it back. -/
def back : Resource → DpaCall
  | .sequence h => .removeSequence (some h)
  | .map h => .unmapSegment (some h)
  | .segment h => .disconnectSegment (some h)
  | .interrupt h => .disconnectInterrupt (some h)

end Resource

/-- What a call gives back. -/
def givesBack : DpaCall → Option Resource
  | .removeSequence (some h) => some (.sequence h)
  | .unmapSegment (some h) => some (.map h)
  | .disconnectSegment (some h) => some (.segment h)
  | .disconnectInterrupt (some h) => some (.interrupt h)
  | _ => none

/-- The five handles of an endpoint. -/
structure Connection where
  sequence : Option Handle
  map : Option Handle
  segment : Option Handle
  sendInterrupt : Option Handle
  recvInterrupt : Option Handle

/-- Those that are not null, in the order of `disconnect_msg`. -/
def Connection.resources (c : Connection) : List Resource :=
  c.sequence.toList.map .sequence ++ c.map.toList.map .map ++ c.segment.toList.map .segment
    ++ c.sendInterrupt.toList.map .interrupt ++ c.recvInterrupt.toList.map .interrupt

/-- The handles of the endpoint of a site. -/
def Site.connection (s : Site) : Connection where
  sequence := s.host.ep.sendInfo.sequence
  map := s.host.ep.sendInfo.remoteMap
  segment := s.host.ep.sendInfo.remoteSegment
  sendInterrupt := s.host.ep.sendInfo.remoteInterrupt
  recvInterrupt := s.host.ep.recvInfo.remoteInterrupt

/-- The resource was acquired by one of the calls `l`, which come after `n` others. -/
def Acquired (replies : ℕ → Reply) (n : ℕ) (l : List DpaCall) (r : Resource) : Prop :=
  n ≤ r.handle ∧ (replies r.handle).err = .ok
    ∧ ∃ c, l[r.handle - n]? = some c ∧ r.madeBy c = true

/-- The stages at which `connect_msg` can fail. -/
inductive Stage where
  | segment
  | map
  | sendInterrupt
  | recvInterrupt
  deriving DecidableEq

/-- The handles that an attempt leaves in place when it fails at a stage. -/
def Connection.kept (c : Connection) : Option Stage → Connection
  | none => ⟨none, none, none, none, none⟩
  | some .segment => c
  | some .map => { c with segment := none }
  | some .sendInterrupt => { c with sequence := none, map := none, segment := none }
  | some .recvInterrupt => ⟨none, none, none, none, c.recvInterrupt⟩

namespace Connection

variable {c : Connection} {r : Resource}

lemma mem_resources : r ∈ c.resources ↔ (∃ h, c.sequence = some h ∧ r = .sequence h)
    ∨ (∃ h, c.map = some h ∧ r = .map h) ∨ (∃ h, c.segment = some h ∧ r = .segment h)
    ∨ (∃ h, c.sendInterrupt = some h ∧ r = .interrupt h)
    ∨ ∃ h, c.recvInterrupt = some h ∧ r = .interrupt h := by
  simp only [resources, List.mem_append, List.mem_map, Option.mem_toList, eq_comm, or_assoc]

/-- Only the two interrupts could be the same. -/
lemma nodup_resources :
    c.resources.Nodup ↔ ∀ h, c.sendInterrupt = some h → c.recvInterrupt ≠ some h := by
  obtain ⟨sequence, map, segment, send, recv⟩ := c
  cases sequence <;> cases map <;> cases segment <;> cases send <;> cases recv <;>
    simp [resources, eq_comm]

end Connection

/-- The resource was acquired after the first `n` calls. -/
structure New (n : ℕ) (d : Dpa) (r : Resource) : Prop where
  le : n ≤ r.handle
  ok : (d.replies r.handle).err = .ok
  made : ∃ c, d.calls[r.handle]? = some c ∧ r.madeBy c = true

lemma acquired_iff {n : ℕ} {d : Dpa} {r : Resource} :
    Acquired d.replies n (d.calls.drop n) r ↔ New n d r := by
  rw [Acquired, List.getElem?_drop]
  constructor
  · rintro ⟨hle, hok, hmade⟩
    rw [Nat.add_sub_cancel' hle] at hmade
    exact ⟨hle, hok, hmade⟩
  · rintro ⟨hle, hok, hmade⟩
    rw [Nat.add_sub_cancel' hle]
    exact ⟨hle, hok, hmade⟩

namespace New

variable {n : ℕ} {d d' : Dpa} {r : Resource}

lemma mono (h : New n d r) (he : d.Extends d') : New n d' r := by
  obtain ⟨c, hc, hmade⟩ := h.made
  obtain ⟨hlt, -⟩ := List.getElem?_eq_some_iff.1 hc
  obtain ⟨l, hl⟩ := he.calls
  refine ⟨h.le, by rw [he.replies, h.ok], c, ?_, hmade⟩
  rw [← hl, List.getElem?_append_left hlt, hc]

lemma weaken {n' : ℕ} (h : New n d r) (hn : n' ≤ n) : New n' d r := ⟨hn.trans h.le, h.ok, h.made⟩

lemma handle_lt (h : New n d r) : r.handle < d.calls.length := by
  obtain ⟨c, hc, -⟩ := h.made
  exact (List.getElem?_eq_some_iff.1 hc).1

/-- What a call acquires. -/
lemma of_call {c : DpaCall} (hok : d.reply.err = .ok) (hn : n ≤ d.calls.length)
    (hhandle : r.handle = d.handle) (hmade : r.madeBy c = true) : New n (d.call c) r := by
  refine ⟨by rw [hhandle]; exact hn, ?_, c, ?_, hmade⟩
  · rw [hhandle]
    exact hok
  · rw [hhandle]
    exact Dpa.getElem?_handle d c

end New

namespace Site

variable {s s' : Site} {data : SegmentData} {n : ℕ}

/-- An interrupt of the peer is connected for the sends, and one for the receives. -/
def connectsSend (s : Site) (data : SegmentData) : Bool :=
  hasAny s.host.ep.caps fiSend && data.hasRecvInterrupt

def connectsRecv (s : Site) (data : SegmentData) : Bool :=
  hasAny s.host.ep.caps fiRecv && data.hasSendInterrupt

/-- The status in the answer of the library to the `i`-th call from here. -/
def answer (s : Site) (i : ℕ) : DpaError := (s.dpa.replies (s.dpa.calls.length + i)).err

/-- The stage at which the library lets `connect_msg` fail. -/
def stops (s : Site) (data : SegmentData) : Option Stage :=
  if !hasAny s.host.ep.caps (fiRecv ||| fiSend) then none
  else if s.answer 0 ≠ .ok then some .segment
  else if s.answer 1 ≠ .ok then some .map
  else
    let i := if s.answer 2 ≠ .ok then 3 else 4
    if s.connectsSend data && s.answer i ≠ .ok then some .sendInterrupt
    else
      let j := i + if s.connectsSend data then 1 else 0
      if s.connectsRecv data && s.answer j ≠ .ok then some .recvInterrupt else none

/-- `connect_msg`, with the `disconnect_msg` of `progress_ep_eq` after a failure. -/
def connectOrDisconnect (data : SegmentData) : Prog Unit := do
  let err ← connectMsg data
  if err ≠ .ok then
    let _ ← disconnectMsg

/-- A `connect_msg`, a `dpa_shutdown`, or a change of the peer and of the descriptors. -/
inductive ReleaseEvent where
  | connectMsg (data : SegmentData)
  | dpaShutdown
  | environment (peerAddr : DpaAddr) (sendSd recvSd : Option Handle)

def releaseEvent (s : Site) : ReleaseEvent → Option Site
  | .connectMsg data => ((connectOrDisconnect data s).map Prod.snd).toOption
  | .dpaShutdown => ((dpaShutdown s).map Prod.snd).toOption
  | .environment peerAddr sendSd recvSd =>
      some { s with host.ep.peerAddr := peerAddr, host.ep.sendInfo.sd := sendSd
                    host.ep.recvInfo.sd := recvSd }

/-- Every handle given back after the first `n` calls had been acquired since, and not given back
before. -/
def Disciplined (n : ℕ) (s : Site) : Prop :=
  Once givesBack (Acquired s.dpa.replies n) (s.dpa.calls.drop n)

/-- A step gives nothing back. -/
def GivesNothing (s s' : Site) : Prop :=
  ∀ c ∈ s'.dpa.calls.drop s.dpa.calls.length, givesBack c = none

/-- An endpoint with `FI_MSG` is shut down while it is connected, or has no handle; and a
`connect_msg` that fails finds it connected, or leaves none of its handles in place. -/
def ReleaseOk (s : Site) : ReleaseEvent → Prop
  | .connectMsg data => s.host.ep.connected = true
      ∨ (s.connection.kept (s.stops data)).resources = []
  | .dpaShutdown => hasAny s.host.ep.caps fiMsg = false ∨ s.host.ep.connected = true
      ∨ s.connection.resources = []
  | .environment .. => True

/-! ### Giving back -/

lemma release_eq {handle : Option Handle} {c : Option Handle → DpaCall} {result r : DpaError}
    (hrun : release handle c result s = .ok (r, s')) :
    s' = { s with dpa.calls := s.dpa.calls ++ handle.toList.map fun h => c (some h) } := by
  rw [release] at hrun
  cases handle with
  | none =>
      obtain ⟨-, rfl⟩ := Prod.mk.inj (Except.ok.inj hrun)
      simp
  | some h =>
      obtain ⟨-, rfl⟩ := Prod.mk.inj (Except.ok.inj hrun)
      rfl

/-- `disconnect_msg` gives back every handle that is not null, and keeps it. -/
lemma disconnectMsg_eq {r : DpaError} (hrun : disconnectMsg s = .ok (r, s')) :
    s' = { s with
      dpa.calls := s.dpa.calls ++ s.connection.resources.map Resource.back
      host.ep.connected := false } := by
  rw [disconnectMsg, get_bind] at hrun
  obtain ⟨_, s₁, h₁, hrun⟩ := run_bind_ok hrun
  obtain ⟨_, s₂, h₂, hrun⟩ := run_bind_ok hrun
  obtain ⟨_, s₃, h₃, hrun⟩ := run_bind_ok hrun
  obtain ⟨_, s₄, h₄, hrun⟩ := run_bind_ok hrun
  obtain ⟨_, s₅, h₅, hrun⟩ := run_bind_ok hrun
  obtain ⟨-, rfl⟩ := Prod.mk.inj (Except.ok.inj hrun)
  rw [release_eq h₅, release_eq h₄, release_eq h₃, release_eq h₂, release_eq h₁]
  simp [connection, Connection.resources, Resource.back, Function.comp_def]

/-! ### An attempt to connect -/

/-- The site has made some more calls, none of which gives anything back. -/
structure Calls (s s' : Site) : Prop where
  library : s.dpa.Extends s'.dpa
  quiet : GivesNothing s s'
  caps : s'.host.ep.caps = s.host.ep.caps

def calls : Frame Site where
  rel := Calls
  refl := fun s => ⟨.refl s.dpa, by simp [GivesNothing], rfl⟩
  trans := fun s t u h h' => by
    refine ⟨h.library.trans h'.library, ?_, h'.caps.trans h.caps⟩
    intro c hc
    obtain ⟨l, hl⟩ := h.library.calls
    obtain ⟨l', hl'⟩ := h'.library.calls
    rw [← hl', ← hl, List.append_assoc, List.drop_left] at hc
    rcases List.mem_append.1 hc with hc | hc
    · refine h.quiet c ?_
      rwa [← hl, List.drop_left]
    · refine h'.quiet c ?_
      rwa [← hl', List.drop_left]

lemma calls_lib {c : DpaCall} (hc : givesBack c = none) : Keeps calls (lib c) := by
  intro s a s' hrun
  obtain ⟨-, rfl⟩ := Prod.mk.inj (run_lib_ok hrun)
  refine ⟨.call s.dpa c, fun a ha => ?_, rfl⟩
  rw [Dpa.call, List.drop_left, List.mem_singleton] at ha
  rw [ha, hc]

lemma calls_setEp {f : Endpoint → Endpoint} (hcaps : ∀ ep, (f ep).caps = ep.caps) :
    Keeps calls (setEp f) :=
  keeps_modify fun s => ⟨.refl s.dpa, by simp [GivesNothing], hcaps _⟩

lemma calls_setSendInfo (f : SendInfo → SendInfo) : Keeps calls (setSendInfo f) :=
  calls_setEp fun _ => rfl

lemma calls_setRecvInfo (f : RecvInfo → RecvInfo) : Keeps calls (setRecvInfo f) :=
  calls_setEp fun _ => rfl

lemma calls_createStartSequence (map : Option Handle) : Keeps calls (createStartSequence map) := by
  refine keeps_bind (calls_lib rfl) fun r => keeps_ite (keeps_pure _) ?_
  exact keeps_bind (calls_lib rfl) fun _ => keeps_pure _

lemma calls_connectSegment (data : SegmentData) : Keeps calls (connectSegment data) := by
  refine keeps_bind keeps_get fun s => keeps_ite (keeps_pure _) ?_
  refine keeps_bind (calls_lib rfl) fun r => keeps_ite (keeps_pure _) ?_
  refine keeps_bind (calls_setSendInfo _) fun _ => ?_
  refine keeps_bind (calls_lib rfl) fun r => keeps_ite (keeps_pure _) ?_
  refine keeps_bind (calls_setSendInfo _) fun _ => ?_
  refine keeps_bind (calls_createStartSequence _) fun sequence => ?_
  exact keeps_bind (calls_setEp fun _ => rfl) fun _ => keeps_pure _

/-- How the first part of `connect_msg` ends, for an endpoint that sends or receives. -/
lemma connectSegment_cases (hcaps : hasAny s.host.ep.caps (fiRecv ||| fiSend) = true)
    {err : DpaError} (hrun : connectSegment data s = .ok (err, s')) :
    (err ≠ .ok ∧ s.answer 0 ≠ .ok ∧ s'.connection = s.connection)
      ∨ (err ≠ .ok ∧ s.answer 0 = .ok ∧ s.answer 1 ≠ .ok ∧ ∃ segment,
        s'.connection = { s.connection with segment := some segment }
          ∧ New s.dpa.calls.length s'.dpa (.segment segment))
      ∨ (err = .ok ∧ s.answer 0 = .ok ∧ s.answer 1 = .ok
        ∧ s'.dpa.calls.length = s.dpa.calls.length + (if s.answer 2 ≠ .ok then 3 else 4)
        ∧ ∃ segment map sequence,
          s'.connection = { s.connection with
            segment := some segment, map := some map, sequence := sequence }
            ∧ New s.dpa.calls.length s'.dpa (.segment segment)
            ∧ New s.dpa.calls.length s'.dpa (.map map)
            ∧ ∀ h, sequence = some h → New s.dpa.calls.length s'.dpa (.sequence h)) := by
  simp only [connectSegment, get_bind, hcaps, Bool.not_true, Bool.false_eq_true, if_false, lib_bind,
    setSendInfo_bind, ite_run, ite_not] at hrun
  split at hrun
  case isFalse h₀ =>
      obtain ⟨rfl, rfl⟩ := Prod.mk.inj (Except.ok.inj hrun)
      exact .inl ⟨h₀, h₀, rfl⟩
  case isTrue h₀ =>
  split at hrun
  case isFalse h₁ =>
      obtain ⟨rfl, rfl⟩ := Prod.mk.inj (Except.ok.inj hrun)
      refine .inr (.inl ⟨h₁, h₀, by simpa [answer, Dpa.reply] using h₁, s.dpa.handle, rfl, ?_⟩)
      exact (New.of_call h₀ le_rfl rfl rfl).mono (.call _ _)
  case isTrue h₁ =>
      obtain ⟨sequence, s₁, hsequence, hrun⟩ := run_bind_ok hrun
      simp only [createStartSequence, lib_bind, ite_run, ite_not] at hsequence
      have h₁' : s.answer 1 = .ok := by simpa [answer, Dpa.reply] using h₁
      split at hsequence
      case isTrue h₂ =>
          have h₂' : s.answer 2 = .ok := by simpa [answer, Dpa.reply] using h₂
          obtain ⟨rfl, rfl⟩ := Prod.mk.inj (Except.ok.inj hsequence)
          obtain ⟨rfl, rfl⟩ := Prod.mk.inj (Except.ok.inj hrun)
          refine .inr (.inr ⟨rfl, h₀, h₁', by simp [h₂'], _, _, _, rfl, ?_, ?_, ?_⟩)
          · exact (New.of_call h₀ le_rfl rfl rfl).mono
              (((Dpa.Extends.call _ _).trans (.call _ _)).trans (.call _ _))
          · exact (New.of_call h₁ (by simp) rfl rfl).mono ((Dpa.Extends.call _ _).trans (.call _ _))
          · rintro h ⟨⟩
            exact (New.of_call h₂ (by simp; omega) rfl rfl).mono (.call _ _)
      case isFalse h₂ =>
          have h₂' : s.answer 2 ≠ .ok := by simpa [answer, Dpa.reply] using h₂
          obtain ⟨rfl, rfl⟩ := Prod.mk.inj (Except.ok.inj hsequence)
          obtain ⟨rfl, rfl⟩ := Prod.mk.inj (Except.ok.inj hrun)
          refine .inr (.inr ⟨rfl, h₀, h₁', by simp [h₂'], _, _, _, rfl, ?_, ?_, nofun⟩)
          · exact (New.of_call h₀ le_rfl rfl rfl).mono ((Dpa.Extends.call _ _).trans (.call _ _))
          · exact (New.of_call h₁ (by simp) rfl rfl).mono (.call _ _)

/-- How the connection to an interrupt of the peer ends. -/
lemma connectRemoteInterrupt_cases {needed : Bool} {sd : Option Handle} {id : UInt32}
    {save : Option Handle → Prog Unit} {err : DpaError}
    (hrun : connectRemoteInterrupt needed sd id save s = .ok (err, s')) :
    (err ≠ .ok ∧ needed = true ∧ s.answer 0 ≠ .ok ∧ s'.connection = s.connection)
      ∨ (err = .ok ∧ (needed && s.answer 0 ≠ .ok) = false ∧ ∃ interrupt s₁,
        save interrupt s₁ = .ok ((), s') ∧ s₁.connection = s.connection
          ∧ s₁.dpa.calls.length = s.dpa.calls.length + (if needed then 1 else 0)
          ∧ ∀ h, interrupt = some h → New s.dpa.calls.length s₁.dpa (.interrupt h)) := by
  rw [connectRemoteInterrupt] at hrun
  cases needed with
  | true =>
      simp only [if_true, get_bind, lib_bind, ite_run, ite_not] at hrun
      split at hrun
      case isTrue h =>
          obtain ⟨u, s₁, hsave, hrun⟩ := run_bind_ok hrun
          obtain ⟨rfl, rfl⟩ := Prod.mk.inj (Except.ok.inj hrun)
          refine .inr ⟨rfl, by simpa [answer, Dpa.reply] using h, _, _, hsave, rfl, by simp, ?_⟩
          rintro h' ⟨⟩
          exact New.of_call h le_rfl rfl rfl
      case isFalse h =>
          obtain ⟨rfl, rfl⟩ := Prod.mk.inj (Except.ok.inj hrun)
          exact .inl ⟨h, rfl, h, rfl⟩
  | false =>
      obtain ⟨u, s₁, hsave, hrun⟩ := run_bind_ok hrun
      obtain ⟨rfl, rfl⟩ := Prod.mk.inj (Except.ok.inj hrun)
      exact .inr ⟨rfl, rfl, none, s, hsave, rfl, rfl, nofun⟩

lemma calls_connectRemoteInterrupt (needed : Bool) (sd : Option Handle) (id : UInt32)
    {save : Option Handle → Prog Unit} (hsave : ∀ h, Keeps calls (save h)) :
    Keeps calls (connectRemoteInterrupt needed sd id save) := by
  refine keeps_ite (keeps_bind keeps_get fun s => keeps_bind (calls_lib rfl) fun r => ?_) ?_
  · exact keeps_ite (keeps_pure _) (keeps_bind (hsave _) fun _ => keeps_pure _)
  · exact keeps_bind (hsave _) fun _ => keeps_pure _

/-- A handle is the old one, or it is new where no old one was kept. -/
def Renewed (n : ℕ) (d : Dpa) (resource : Handle → Resource) (old new : Option Handle) : Prop :=
  new = old ∨ old = none ∧ ∀ h, new = some h → New n d (resource h)

/-- What an attempt to connect does to the handles: `kept` are those of the old ones that it leaves
in place, and the others are new. -/
structure Attempt (n : ℕ) (kept : Connection) (s' : Site) : Prop where
  sequence : Renewed n s'.dpa .sequence kept.sequence s'.connection.sequence
  map : Renewed n s'.dpa .map kept.map s'.connection.map
  segment : Renewed n s'.dpa .segment kept.segment s'.connection.segment
  send : Renewed n s'.dpa .interrupt kept.sendInterrupt s'.connection.sendInterrupt
  recv : Renewed n s'.dpa .interrupt kept.recvInterrupt s'.connection.recvInterrupt
  apart : ∀ h, s'.connection.sendInterrupt = some h → s'.connection.recvInterrupt = some h →
    kept.recvInterrupt = some h

lemma answer_of {j : ℕ} (he : s.dpa.Extends s'.dpa)
    (hlen : s'.dpa.calls.length = s.dpa.calls.length + j) (i : ℕ) :
    s'.answer i = s.answer (j + i) := by
  rw [answer, answer, he.replies, hlen, Nat.add_assoc]

/-- The second and the third part of `connect_msg`, and its end. -/
def connectInterrupts (data : SegmentData) : Prog DpaError := do
  let ep := (← get).host.ep
  let err ← connectRemoteInterrupt (hasAny ep.caps fiSend && data.hasRecvInterrupt)
    ep.sendInfo.sd data.recvInterruptId fun h =>
      setSendInfo fun info => { info with remoteInterrupt := h }
  if err ≠ .ok then return err
  let err ← connectRemoteInterrupt (hasAny ep.caps fiRecv && data.hasSendInterrupt)
    ep.recvInfo.sd data.sendInterruptId fun h =>
      setRecvInfo fun info => { info with remoteInterrupt := h }
  if err ≠ .ok then return err
  eqAdd ep.eq ⟨.fiConnected, ep.fid, none⟩
  setEp fun ep => { ep with connected := true }
  if hasAny ep.caps (fiRecv ||| fiSend) then return .ok
  return (← get).uninit

lemma connectMsg_eq : connectMsg data = (do
    let err ← connectSegment data
    if err ≠ .ok then return err
    connectInterrupts data) := rfl

lemma calls_connectInterrupts (data : SegmentData) : Keeps calls (connectInterrupts data) := by
  refine keeps_bind keeps_get fun s => keeps_bind (calls_connectRemoteInterrupt _ _ _ fun _ =>
    calls_setSendInfo _) fun err => keeps_ite (keeps_pure _) ?_
  refine keeps_bind (calls_connectRemoteInterrupt _ _ _ fun _ => calls_setRecvInfo _) fun err =>
    keeps_ite (keeps_pure _) (keeps_bind ?_ fun _ => ?_)
  · intro s a s' hadd
    obtain ⟨eqs, rfl⟩ := run_eqAdd_ok hadd
    exact ⟨.refl s.dpa, by simp [GivesNothing], rfl⟩
  · refine keeps_bind (calls_setEp fun _ => rfl) fun _ => keeps_ite (keeps_pure _) ?_
    exact keeps_bind keeps_get fun _ => keeps_pure _

lemma calls_connectMsg (data : SegmentData) : Keeps calls (connectMsg data) := by
  rw [connectMsg_eq]
  exact keeps_bind (calls_connectSegment data) fun err =>
    keeps_ite (keeps_pure _) (calls_connectInterrupts data)

/-- How it ends. -/
lemma connectInterrupts_cases (hcaps : hasAny s.host.ep.caps (fiRecv ||| fiSend) = true)
    {err : DpaError} (hrun : connectInterrupts data s = .ok (err, s')) :
    (err ≠ .ok ∧ (s.connectsSend data && s.answer 0 ≠ .ok) = true
        ∧ s'.connection = s.connection)
      ∨ (s.connectsSend data && s.answer 0 ≠ .ok) = false ∧ ∃ send,
        (∀ h, send = some h → New s.dpa.calls.length s'.dpa (.interrupt h))
        ∧ ((err ≠ .ok
            ∧ (s.connectsRecv data && s.answer (if s.connectsSend data then 1 else 0) ≠ .ok) = true
            ∧ s'.connection = { s.connection with sendInterrupt := send })
          ∨ err = .ok
            ∧ (s.connectsRecv data && s.answer (if s.connectsSend data then 1 else 0) ≠ .ok) = false
            ∧ s'.host.ep.connected = true ∧ ∃ recv,
              s'.connection = { s.connection with sendInterrupt := send, recvInterrupt := recv }
              ∧ (∀ h, recv = some h → New s.dpa.calls.length s'.dpa (.interrupt h))
              ∧ ∀ h, send = some h → recv ≠ some h) := by
  rw [connectInterrupts, get_bind] at hrun
  obtain ⟨err₁, s₁, hsend, hrun⟩ := run_bind_ok hrun
  have hcalls₁ : Calls s s₁ := calls_connectRemoteInterrupt _ _ _
    (fun _ => calls_setSendInfo _) s err₁ s₁ hsend
  rcases connectRemoteInterrupt_cases hsend with
    ⟨herr, hneeded, hans, hc₁⟩ | ⟨rfl, hans, send, u, hsave, hc, hlen, hnew⟩
  · rw [if_pos herr] at hrun
    obtain ⟨rfl, rfl⟩ := Prod.mk.inj (Except.ok.inj hrun)
    exact .inl ⟨herr, by simp [connectsSend, hneeded, hans], hc₁⟩
  · refine .inr ⟨hans, send, ?_⟩
    obtain ⟨-, rfl⟩ := Prod.mk.inj (Except.ok.inj hsave)
    rw [if_neg (not_not.2 rfl)] at hrun
    obtain ⟨err₂, s₂, hrecv, hrun⟩ := run_bind_ok hrun
    have hcalls₂ : Calls _ s₂ := calls_connectRemoteInterrupt _ _ _
      (fun _ => calls_setRecvInfo _) _ err₂ s₂ hrecv
    have hanswer : ∀ i, u.answer i = s.answer ((if s.connectsSend data then 1 else 0) + i) :=
      answer_of hcalls₁.library hlen
    have hsaved : Connection.mk u.connection.sequence u.connection.map u.connection.segment send
        u.connection.recvInterrupt = { s.connection with sendInterrupt := send } := by rw [hc]
    rcases connectRemoteInterrupt_cases hrecv with
      ⟨herr, hneeded, hans₂, hc₂⟩ | ⟨rfl, hans₂, recv, v, hsave, hc₂, hlen₂, hnew₂⟩
    · rw [if_pos herr] at hrun
      obtain ⟨rfl, rfl⟩ := Prod.mk.inj (Except.ok.inj hrun)
      refine ⟨fun h hh => (hnew h hh).mono hcalls₂.library, .inl ⟨herr, ?_, ?_⟩⟩
      · have hfail : u.answer 0 ≠ .ok := hans₂
        rw [hanswer, Nat.add_zero] at hfail
        simp [connectsRecv, hneeded, hfail]
      · rw [hc₂, ← hsaved]
        rfl
    · obtain ⟨-, rfl⟩ := Prod.mk.inj (Except.ok.inj hsave)
      rw [if_neg (not_not.2 rfl)] at hrun
      obtain ⟨_, s₃, hadd, hrun⟩ := run_bind_ok hrun
      obtain ⟨eqs, rfl⟩ := run_eqAdd_ok hadd
      rw [setEp_bind, if_pos hcaps] at hrun
      obtain ⟨rfl, rfl⟩ := Prod.mk.inj (Except.ok.inj hrun)
      refine ⟨fun h hh => (hnew h hh).mono hcalls₂.library, .inr ⟨rfl, ?_, rfl, recv, ?_, ?_, ?_⟩⟩
      · have hans₃ := hans₂
        change (_ && decide (u.answer 0 ≠ .ok)) = false at hans₃
        rw [hanswer, Nat.add_zero] at hans₃
        exact hans₃
      · have hv : v.connection = { s.connection with sendInterrupt := send } := by
          rw [hc₂, ← hsaved]
          rfl
        have hv' := congrArg (fun c : Connection => { c with recvInterrupt := recv }) hv
        exact hv'
      · exact fun h hh => (hnew₂ h hh).weaken (by simp [hlen])
      · intro h hh hh'
        have hlt := (hnew h hh).handle_lt
        have hle := (hnew₂ h hh').le
        exact absurd hlt (not_lt.2 hle)

/-- An attempt of an endpoint that sends or receives fails where the library lets it. -/
lemma connectMsg_attempt (hcaps : hasAny s.host.ep.caps (fiRecv ||| fiSend) = true)
    {err : DpaError} (hrun : connectMsg data s = .ok (err, s')) :
    Attempt s.dpa.calls.length (s.connection.kept (s.stops data)) s'
      ∧ (err = .ok ↔ s.stops data = none) ∧ (err = .ok → s'.host.ep.connected = true) := by
  rw [connectMsg_eq] at hrun
  obtain ⟨err₁, s₁, hsegment, hrun⟩ := run_bind_ok hrun
  have hcalls₁ : Calls s s₁ := calls_connectSegment data s err₁ s₁ hsegment
  rcases connectSegment_cases hcaps hsegment with
    ⟨herr, h₀, hc⟩ | ⟨herr, h₀, h₁, segment, hc, hnew⟩
      | ⟨rfl, h₀, h₁, hlen, segment, map, sequence, hc, hnew₁, hnew₂, hnew₃⟩
  · rw [if_pos herr] at hrun
    obtain ⟨rfl, rfl⟩ := Prod.mk.inj (Except.ok.inj hrun)
    have hstops : s.stops data = some .segment := by simp [stops, hcaps, h₀]
    rw [hstops]
    refine ⟨?_, by simp [herr], fun h => absurd h herr⟩
    constructor <;> simp +contextual [hc, Renewed, Connection.kept]
  · rw [if_pos herr] at hrun
    obtain ⟨rfl, rfl⟩ := Prod.mk.inj (Except.ok.inj hrun)
    have hstops : s.stops data = some .map := by simp [stops, hcaps, h₀, h₁]
    rw [hstops]
    refine ⟨?_, by simp [herr], fun h => absurd h herr⟩
    constructor <;> simp +contextual [hc, Renewed, Connection.kept, hnew]
  · rw [if_neg (not_not.2 rfl)] at hrun
    have hcaps₁ : hasAny s₁.host.ep.caps (fiRecv ||| fiSend) = true := by rwa [hcalls₁.caps]
    have hsend : s₁.connectsSend data = s.connectsSend data := by
      rw [connectsSend, connectsSend, hcalls₁.caps]
    have hrecv : s₁.connectsRecv data = s.connectsRecv data := by
      rw [connectsRecv, connectsRecv, hcalls₁.caps]
    have hcases := connectInterrupts_cases hcaps₁ hrun
    have hlater : s₁.dpa.Extends s'.dpa := (calls_connectInterrupts data s₁ err s' hrun).library
    have hle : s.dpa.calls.length ≤ s₁.dpa.calls.length := by rw [hlen]; omega
    have hsegment' := hnew₁.mono hlater
    have hmap' := hnew₂.mono hlater
    have hsequence' := fun h hh => (hnew₃ h hh).mono hlater
    rw [hsend, hrecv, answer_of hcalls₁.library hlen, answer_of hcalls₁.library hlen] at hcases
    set i := if s.answer 2 ≠ .ok then 3 else 4 with hi
    have hstops : s.stops data =
        if s.connectsSend data && s.answer i ≠ .ok then some .sendInterrupt
        else if s.connectsRecv data && s.answer (i + if s.connectsSend data then 1 else 0) ≠ .ok
          then some .recvInterrupt else none := by
      simp [stops, hcaps, h₀, h₁, hi]
    rw [hstops]
    rcases hcases with ⟨herr, hfail, hc₂⟩ | ⟨hfine, send, hnew₄, hcases⟩
    · rw [Nat.add_zero] at hfail
      rw [if_pos hfail]
      refine ⟨?_, by simp [herr], fun h => absurd h herr⟩
      rw [hc] at hc₂
      constructor <;>
        simp +contextual [hc₂, Renewed, Connection.kept, hsegment', hmap', hsequence']
    · rw [Nat.add_zero] at hfine
      replace hnew₄ := fun h hh => (hnew₄ h hh).weaken hle
      rw [hfine]
      rcases hcases with ⟨herr, hfail, hc₂⟩ | ⟨rfl, hfine₂, hconnected, recv, hc₂, hnew₅, hapart⟩
      · rw [hfail]
        refine ⟨?_, by simp [herr], fun h => absurd h herr⟩
        rw [hc] at hc₂
        constructor <;>
          simp +contextual [hc₂, Renewed, Connection.kept, hsegment', hmap', hsequence', hnew₄]
      · rw [hfine₂]
        refine ⟨?_, by simp, fun _ => hconnected⟩
        replace hnew₅ := fun h hh => (hnew₅ h hh).weaken hle
        rw [hc] at hc₂
        constructor <;> simp +contextual [hc₂, Renewed, Connection.kept, hsegment', hmap',
          hsequence', hnew₄, hnew₅, hapart]

/-! ### The invariant -/

@[simp] lemma givesBack_back (r : Resource) : givesBack r.back = some r := by
  cases r <;> rfl

lemma Connection.kept_subset {c : Connection} {stage : Option Stage} {r : Resource}
    (h : r ∈ (c.kept stage).resources) : r ∈ c.resources := by
  rw [Connection.mem_resources] at h ⊢
  rcases stage with - | - | - | - | -
  all_goals simp only [Connection.kept, reduceCtorEq, false_and, exists_false, or_false,
    false_or] at h
  · exact h
  · exact h.imp_right (Or.imp_right .inr)
  · exact .inr (.inr (.inr h))
  · exact .inr (.inr (.inr (.inr h)))

lemma Connection.kept_nodup {c : Connection} (h : c.resources.Nodup) (stage : Option Stage) :
    (c.kept stage).resources.Nodup := by
  rw [Connection.nodup_resources] at h ⊢
  rcases stage with - | - | - | - | -
  · exact nofun
  · exact h
  · exact h
  · exact h
  · exact nofun

namespace Renewed

variable {d : Dpa} {resource : Handle → Resource} {old new : Option Handle} {x : Handle}

lemma of_some (h : Renewed n d resource old new) (hx : new = some x) :
    old = some x ∨ New n d (resource x) := by
  rcases h with heq | ⟨-, hnew⟩
  · exact .inl (heq.symm.trans hx)
  · exact .inr (hnew x hx)

lemma keeps (h : Renewed n d resource old new) (hx : old = some x) : new = some x := by
  rcases h with heq | ⟨hnone, -⟩
  · exact heq.trans hx
  · exact absurd (hnone.symm.trans hx) nofun

end Renewed

namespace Attempt

variable {kept : Connection} {r : Resource}

/-- What is in place after an attempt was kept, or is new. -/
lemma of_mem (h : Attempt n kept s') (hr : r ∈ s'.connection.resources) :
    r ∈ kept.resources ∨ New n s'.dpa r := by
  rw [Connection.mem_resources] at hr ⊢
  rcases hr with ⟨x, hx, rfl⟩ | ⟨x, hx, rfl⟩ | ⟨x, hx, rfl⟩ | ⟨x, hx, rfl⟩ | ⟨x, hx, rfl⟩
  · exact (h.sequence.of_some hx).imp_left fun hold => .inl ⟨x, hold, rfl⟩
  · exact (h.map.of_some hx).imp_left fun hold => .inr (.inl ⟨x, hold, rfl⟩)
  · exact (h.segment.of_some hx).imp_left fun hold => .inr (.inr (.inl ⟨x, hold, rfl⟩))
  · exact (h.send.of_some hx).imp_left fun hold => .inr (.inr (.inr (.inl ⟨x, hold, rfl⟩)))
  · exact (h.recv.of_some hx).imp_left fun hold => .inr (.inr (.inr (.inr ⟨x, hold, rfl⟩)))

/-- What was kept is in place. -/
lemma mem_of_kept (h : Attempt n kept s') (hr : r ∈ kept.resources) :
    r ∈ s'.connection.resources := by
  rw [Connection.mem_resources] at hr ⊢
  rcases hr with ⟨x, hx, rfl⟩ | ⟨x, hx, rfl⟩ | ⟨x, hx, rfl⟩ | ⟨x, hx, rfl⟩ | ⟨x, hx, rfl⟩
  · exact .inl ⟨x, h.sequence.keeps hx, rfl⟩
  · exact .inr (.inl ⟨x, h.map.keeps hx, rfl⟩)
  · exact .inr (.inr (.inl ⟨x, h.segment.keeps hx, rfl⟩))
  · exact .inr (.inr (.inr (.inl ⟨x, h.send.keeps hx, rfl⟩)))
  · exact .inr (.inr (.inr (.inr ⟨x, h.recv.keeps hx, rfl⟩)))

/-- The two interrupts stay apart, if those kept are apart and older. -/
lemma nodup (h : Attempt n kept s') (hkept : kept.resources.Nodup)
    (hold : ∀ r ∈ kept.resources, r.handle < n) : s'.connection.resources.Nodup := by
  rw [Connection.nodup_resources] at hkept ⊢
  intro x hsend hrecv
  have hx : kept.recvInterrupt = some x := h.apart x hsend hrecv
  rcases h.send.of_some hsend with hsame | hnew
  · exact hkept x hsame hx
  · have hlt : x < n := hold (.interrupt x) (Connection.mem_resources.2 (by simp [hx]))
    exact absurd hlt (not_lt.2 hnew.le)

end Attempt

/-- The resource was given back after the first `n` calls. -/
def GivenBack (n : ℕ) (d : Dpa) (r : Resource) : Prop :=
  ∃ c ∈ d.calls.drop n, givesBack c = some r

/-- What holds between the steps: the handles in place are those of a live connection, or all of
them have been given back. -/
structure Managed (n : ℕ) (s : Site) : Prop where
  le : n ≤ s.dpa.calls.length
  once : Disciplined n s
  new : ∀ r ∈ s.connection.resources, New n s.dpa r
  nodup : s.connection.resources.Nodup
  live : s.host.ep.connected = true → ∀ r ∈ s.connection.resources, ¬ GivenBack n s.dpa r
  stale : s.host.ep.connected = false → ∀ r ∈ s.connection.resources, GivenBack n s.dpa r
  plain : hasAny s.host.ep.caps (fiRecv ||| fiSend) = false → s.connection.resources = []

lemma acquired_append {replies : ℕ → Reply} (l l' : List DpaCall) (r : Resource)
    (h : Acquired replies n l r) : Acquired replies n (l ++ l') r := by
  obtain ⟨hle, hok, c, hget, hmade⟩ := h
  obtain ⟨hlt, -⟩ := List.getElem?_eq_some_iff.1 hget
  exact ⟨hle, hok, c, by rw [List.getElem?_append_left hlt, hget], hmade⟩

section Calls

variable (hcalls : Calls s s') (hle : n ≤ s.dpa.calls.length)

include hcalls hle

lemma calls_drop : ∃ l, s'.dpa.calls.drop n = s.dpa.calls.drop n ++ l
    ∧ ∀ c ∈ l, givesBack c = none := by
  obtain ⟨l, hl⟩ := hcalls.library.calls
  refine ⟨l, by rw [← hl, List.drop_append_of_le_length hle], fun c hc => hcalls.quiet c ?_⟩
  rwa [← hl, List.drop_left]

lemma calls_disciplined (h : Disciplined n s) : Disciplined n s' := by
  obtain ⟨l, hl, hquiet⟩ := calls_drop hcalls hle
  rw [Disciplined, hl, hcalls.library.replies]
  exact h.append_quiet hquiet

lemma calls_givenBack {r : Resource} : GivenBack n s'.dpa r ↔ GivenBack n s.dpa r := by
  obtain ⟨l, hl, hquiet⟩ := calls_drop hcalls hle
  rw [GivenBack, hl]
  constructor
  · rintro ⟨c, hc, hgives⟩
    rcases List.mem_append.1 hc with hc | hc
    · exact ⟨c, hc, hgives⟩
    · rw [hquiet c hc] at hgives
      cases hgives
  · rintro ⟨c, hc, hgives⟩
    exact ⟨c, List.mem_append_left _ hc, hgives⟩

end Calls

/-- What is new has not been given back. -/
lemma New.not_givenBack {r : Resource} (h : New s.dpa.calls.length s'.dpa r)
    (honce : Disciplined n s) : ¬ GivenBack n s.dpa r := by
  rintro ⟨c, hc, hgives⟩
  obtain ⟨i, hi⟩ := List.getElem?_of_mem hc
  obtain ⟨-, -, c', hget, -⟩ := (honce i c r hi hgives).has
  obtain ⟨hlt, -⟩ := List.getElem?_eq_some_iff.1 hget
  have hle : s.dpa.calls.length ≤ r.handle := h.le
  simp only [List.length_take, List.length_drop] at hlt
  omega

/-- A `disconnect_msg` keeps the discipline iff nothing in place has been given back yet. -/
lemma disconnect_disciplined (hle : n ≤ s.dpa.calls.length) (honce : Disciplined n s)
    (hnew : ∀ r ∈ s.connection.resources, New n s.dpa r) (hnodup : s.connection.resources.Nodup)
    {r : DpaError} (hrun : disconnectMsg s = .ok (r, s')) :
    Disciplined n s' ↔ ∀ r ∈ s.connection.resources, ¬ GivenBack n s.dpa r := by
  rw [disconnectMsg_eq hrun, Disciplined, List.drop_append_of_le_length hle]
  constructor
  · rintro h r hr ⟨c, hc, hgives⟩
    exact not_once_of_twice hc hgives (List.mem_map_of_mem hr) (givesBack_back r) h
  · intro h
    refine honce.append_back acquired_append givesBack_back hnodup fun r hr => ?_
    exact ⟨acquired_iff.2 (hnew r hr), fun c hc hgives => h r hr ⟨c, hc, hgives⟩⟩

/-- After it everything in place has been given back. -/
lemma Managed.disconnect (hle : n ≤ s.dpa.calls.length)
    (hnew : ∀ r ∈ s.connection.resources, New n s.dpa r) (hnodup : s.connection.resources.Nodup)
    (hplain : hasAny s.host.ep.caps (fiRecv ||| fiSend) = false → s.connection.resources = [])
    {r : DpaError} (hrun : disconnectMsg s = .ok (r, s')) (honce : Disciplined n s') :
    Managed n s' := by
  have hs' := disconnectMsg_eq hrun
  have hcalls : s'.dpa.calls = s.dpa.calls ++ s.connection.resources.map Resource.back := by
    rw [hs']
  have hextends : s.dpa.Extends s'.dpa := by
    rw [hs']
    exact ⟨rfl, List.prefix_append _ _⟩
  have hconnection : s'.connection = s.connection := by
    rw [hs']
    rfl
  constructor
  case le => exact hle.trans hextends.calls.length_le
  case once => exact honce
  case new => exact fun r hr => (hnew r (hconnection ▸ hr)).mono hextends
  case nodup => rwa [hconnection]
  case live =>
      intro h
      rw [hs'] at h
      cases h
  case stale =>
      rintro - r hr
      rw [hconnection] at hr
      refine ⟨r.back, ?_, givesBack_back r⟩
      rw [hcalls, List.drop_append_of_le_length hle]
      exact List.mem_append_right _ (List.mem_map_of_mem hr)
  case plain =>
      rw [hconnection, hs']
      exact hplain

/-! ### The steps -/

/-- An attempt of an endpoint that neither sends nor receives leaves no handle in place. -/
lemma connectMsg_plain (hcaps : hasAny s.host.ep.caps (fiRecv ||| fiSend) = false)
    (hnone : s.connection.resources = []) {err : DpaError}
    (hrun : connectMsg data s = .ok (err, s')) :
    s'.connection.resources = [] ∧ s'.host.ep.connected = true := by
  obtain ⟨hrecv, hsend⟩ :
      hasAny s.host.ep.caps fiRecv = false ∧ hasAny s.host.ep.caps fiSend = false := by
    rwa [hasAny_or, Bool.or_eq_false_iff] at hcaps
  have hsegment : connectSegment data s = .ok (.ok, s) := by
    rw [connectSegment, get_bind, hcaps]
    rfl
  rw [connectMsg_eq, run_bind hsegment, if_neg (not_not.2 rfl), connectInterrupts, get_bind] at hrun
  simp only [connectRemoteInterrupt, hsend, hrecv, Bool.false_and, Bool.false_eq_true,
    if_false] at hrun
  obtain ⟨err₁, s₁, h₁, hrun⟩ := run_bind_ok hrun
  obtain ⟨rfl, rfl⟩ := Prod.mk.inj (Except.ok.inj h₁)
  rw [if_neg (not_not.2 rfl)] at hrun
  obtain ⟨err₂, s₂, h₂, hrun⟩ := run_bind_ok hrun
  obtain ⟨rfl, rfl⟩ := Prod.mk.inj (Except.ok.inj h₂)
  rw [if_neg (not_not.2 rfl)] at hrun
  obtain ⟨_, s₃, hadd, hrun⟩ := run_bind_ok hrun
  obtain ⟨eqs, rfl⟩ := run_eqAdd_ok hadd
  rw [setEp_bind, if_neg (by rw [hcaps]; exact Bool.false_ne_true)] at hrun
  obtain ⟨-, hs'⟩ := Prod.mk.inj (Except.ok.inj hrun)
  have hconnection : s'.connection =
      { s.connection with sendInterrupt := none, recvInterrupt := none } := by
    rw [← hs']
    rfl
  have hconnected : s'.host.ep.connected = true := by
    rw [← hs']
  rw [List.eq_nil_iff_forall_not_mem] at hnone ⊢
  refine ⟨fun r hr => hnone r ?_, hconnected⟩
  rw [hconnection, Connection.mem_resources] at hr
  rw [Connection.mem_resources]
  simp only [reduceCtorEq, false_and, exists_false, or_false] at hr
  exact hr.imp_right (Or.imp_right .inl)

/-- Where no handle is in place there is nothing to give back. -/
lemma Managed.of_none (hle : n ≤ s.dpa.calls.length) (honce : Disciplined n s)
    (hnone : s.connection.resources = []) : Managed n s where
  le := hle
  once := honce
  new := by simp [hnone]
  nodup := by simp [hnone]
  live := by simp [hnone]
  stale := by simp [hnone]
  plain := fun _ => hnone

/-- How it runs. -/
lemma connectOrDisconnect_cases {a : Unit} (hrun : connectOrDisconnect data s = .ok (a, s')) :
    ∃ err s₁, connectMsg data s = .ok (err, s₁)
      ∧ ((err ≠ .ok ∧ ∃ r, disconnectMsg s₁ = .ok (r, s')) ∨ (err = .ok ∧ s' = s₁)) := by
  rw [connectOrDisconnect] at hrun
  obtain ⟨err, s₁, hconnect, hrun⟩ := run_bind_ok hrun
  refine ⟨err, s₁, hconnect, ?_⟩
  by_cases herr : err = .ok
  · rw [if_neg (not_not.2 herr)] at hrun
    obtain ⟨-, rfl⟩ := Prod.mk.inj (Except.ok.inj hrun)
    exact .inr ⟨herr, rfl⟩
  · rw [if_pos herr] at hrun
    obtain ⟨r, s₂, hdisconnect, hrun⟩ := run_bind_ok hrun
    obtain ⟨-, rfl⟩ := Prod.mk.inj (Except.ok.inj hrun)
    exact .inl ⟨herr, r, hdisconnect⟩

/-- An endpoint that neither sends nor receives meets the condition. -/
lemma Managed.connect_plain (h : Managed n s)
    (hcaps : hasAny s.host.ep.caps (fiRecv ||| fiSend) = false) {a : Unit}
    (hrun : connectOrDisconnect data s = .ok (a, s')) : Disciplined n s' ∧ Managed n s' := by
  obtain ⟨err, s₁, hconnect, hend⟩ := connectOrDisconnect_cases hrun
  have hcalls : Calls s s₁ := calls_connectMsg data s err s₁ hconnect
  have hle : n ≤ s₁.dpa.calls.length := h.le.trans hcalls.library.calls.length_le
  have honce : Disciplined n s₁ := calls_disciplined hcalls h.le h.once
  obtain ⟨hnone, hconnected⟩ := connectMsg_plain hcaps (h.plain hcaps) hconnect
  have hmanaged : Managed n s₁ := .of_none hle honce hnone
  rcases hend with ⟨-, r, hdisconnect⟩ | ⟨-, rfl⟩
  · have hdisciplined : Disciplined n s' :=
      (disconnect_disciplined hle honce hmanaged.new hmanaged.nodup hdisconnect).2
        (hmanaged.live hconnected)
    exact ⟨hdisciplined, Managed.disconnect hle hmanaged.new hmanaged.nodup hmanaged.plain
      hdisconnect hdisciplined⟩
  · exact ⟨honce, hmanaged⟩

section Attempts

variable {s₁ : Site} {stage : Option Stage} (h : Managed n s) (hcalls : Calls s s₁)
  (hattempt : Attempt s.dpa.calls.length (s.connection.kept stage) s₁)

include h hcalls hattempt

/-- After an attempt everything in place is new. -/
lemma Managed.attempt_new : ∀ r ∈ s₁.connection.resources, New n s₁.dpa r := by
  intro r hr
  rcases hattempt.of_mem hr with hr | hnew
  · exact (h.new r (Connection.kept_subset hr)).mono hcalls.library
  · exact hnew.weaken h.le

omit hcalls in
lemma Managed.attempt_nodup : s₁.connection.resources.Nodup :=
  hattempt.nodup (Connection.kept_nodup h.nodup _) fun r hr =>
    (h.new r (Connection.kept_subset hr)).handle_lt

/-- What of it has been given back is what the attempt has left in place. -/
lemma Managed.attempt_givenBack {r : Resource} (hr : r ∈ s₁.connection.resources)
    (hback : GivenBack n s₁.dpa r) :
    r ∈ (s.connection.kept stage).resources ∧ GivenBack n s.dpa r := by
  rw [calls_givenBack hcalls h.le] at hback
  rcases hattempt.of_mem hr with hr | hnew
  · exact ⟨hr, hback⟩
  · exact absurd hback (New.not_givenBack hnew h.once)

/-- Nothing in place has been given back iff the endpoint was connected, or nothing was left. -/
lemma Managed.attempt_unreleased : (∀ r ∈ s₁.connection.resources, ¬ GivenBack n s₁.dpa r)
    ↔ s.host.ep.connected = true ∨ (s.connection.kept stage).resources = [] := by
  constructor
  · intro hunreleased
    by_cases hs : s.host.ep.connected = true
    · exact .inl hs
    · rw [Bool.not_eq_true] at hs
      refine .inr (List.eq_nil_iff_forall_not_mem.2 fun r hr => ?_)
      refine hunreleased r (hattempt.mem_of_kept hr) ?_
      rw [calls_givenBack hcalls h.le]
      exact h.stale hs r (Connection.kept_subset hr)
  · rintro hok r hr hback
    obtain ⟨hr, hback⟩ := h.attempt_givenBack hcalls hattempt hr hback
    rcases hok with hs | hnone
    · exact h.live hs r (Connection.kept_subset hr) hback
    · rw [hnone] at hr
      cases hr

end Attempts

/-- A `connect_msg`, with what follows it, keeps the discipline iff it meets the condition. -/
lemma Managed.connectOrDisconnect (h : Managed n s) {a : Unit}
    (hrun : connectOrDisconnect data s = .ok (a, s')) :
    (Disciplined n s' ↔ ReleaseOk s (.connectMsg data)) ∧ (Disciplined n s' → Managed n s') := by
  cases hcaps : hasAny s.host.ep.caps (fiRecv ||| fiSend) with
  | false =>
      obtain ⟨hdisciplined, hmanaged⟩ := h.connect_plain hcaps hrun
      have hok : ReleaseOk s (.connectMsg data) := .inr (by
        rw [stops, hcaps]
        rfl)
      exact ⟨iff_of_true hdisciplined hok, fun _ => hmanaged⟩
  | true =>
      obtain ⟨err, s₁, hconnect, hend⟩ := connectOrDisconnect_cases hrun
      have hcalls : Calls s s₁ := calls_connectMsg data s err s₁ hconnect
      have hle : n ≤ s₁.dpa.calls.length := h.le.trans hcalls.library.calls.length_le
      have honce : Disciplined n s₁ := calls_disciplined hcalls h.le h.once
      obtain ⟨hattempt, hstops, hconnected⟩ := connectMsg_attempt hcaps hconnect
      have hcaps₁ : hasAny s₁.host.ep.caps (fiRecv ||| fiSend) ≠ false := by
        simp [hcalls.caps, hcaps]
      have hnew := h.attempt_new hcalls hattempt
      have hnodup := h.attempt_nodup hattempt
      have hunreleased := h.attempt_unreleased hcalls hattempt
      rcases hend with ⟨-, r, hdisconnect⟩ | ⟨rfl, rfl⟩
      · exact ⟨(disconnect_disciplined hle honce hnew hnodup hdisconnect).trans hunreleased,
          Managed.disconnect hle hnew hnodup (fun hplain => absurd hplain hcaps₁) hdisconnect⟩
      · have hkept : (s.connection.kept (s.stops data)).resources = [] := by
          rw [hstops.1 rfl]
          rfl
        refine ⟨iff_of_true honce (.inr hkept), fun _ => ⟨hle, honce, hnew, hnodup, ?_, ?_, ?_⟩⟩
        · exact fun _ => hunreleased.2 (.inr hkept)
        · intro hdisconnected
          rw [hconnected rfl] at hdisconnected
          cases hdisconnected
        · exact fun hplain => absurd hplain hcaps₁

/-- A `dpa_shutdown` keeps the discipline, and gives nothing back where nothing is connected, iff
it meets the condition. -/
lemma Managed.dpaShutdown (h : Managed n s) {r : FiErr} (hrun : dpaShutdown s = .ok (r, s')) :
    ((Disciplined n s' ∧ (s.host.ep.connected = false → GivesNothing s s'))
        ↔ ReleaseOk s .dpaShutdown)
      ∧ (Disciplined n s' → Managed n s') := by
  rw [Site.dpaShutdown, get_bind] at hrun
  cases hmsg : hasAny s.host.ep.caps fiMsg with
  | false =>
      rw [hmsg] at hrun
      obtain ⟨-, rfl⟩ := Prod.mk.inj (Except.ok.inj hrun)
      exact ⟨iff_of_true ⟨h.once, fun _ => by simp [GivesNothing]⟩ (.inl hmsg), fun _ => h⟩
  | true =>
      rw [hmsg] at hrun
      obtain ⟨result, s₁, hdisconnect, hrun⟩ := run_bind_ok hrun
      obtain ⟨-, rfl⟩ := Prod.mk.inj (Except.ok.inj hrun)
      refine ⟨?_, Managed.disconnect h.le h.new h.nodup h.plain hdisconnect⟩
      rw [disconnect_disciplined h.le h.once h.new h.nodup hdisconnect]
      constructor
      · rintro ⟨hunreleased, -⟩
        by_cases hs : s.host.ep.connected = true
        · exact .inr (.inl hs)
        · rw [Bool.not_eq_true] at hs
          refine .inr (.inr (List.eq_nil_iff_forall_not_mem.2 fun r hr => ?_))
          exact hunreleased r hr (h.stale hs r hr)
      · rintro (hplain | hs | hnone)
        · rw [hmsg] at hplain
          cases hplain
        · exact ⟨h.live hs, fun hdisconnected => by simp [hs] at hdisconnected⟩
        · refine ⟨by simp [hnone], fun _ c hc => ?_⟩
          rw [disconnectMsg_eq hdisconnect, hnone, List.map_nil, List.append_nil,
            List.drop_length] at hc
          cases hc

/-- What the steps are to keep: the discipline, and that a `dpa_shutdown` where nothing is connected
gives nothing back. -/
def Lawful (n : ℕ) (s : Site) (e : ReleaseEvent) : Prop :=
  ∀ s', releaseEvent s e = some s' → Disciplined n s'
    ∧ (e = .dpaShutdown → s.host.ep.connected = false → GivesNothing s s')

lemma Managed.step (h : Managed n s) {e : ReleaseEvent} (hevent : releaseEvent s e = some s') :
    (Lawful n s e ↔ ReleaseOk s e) ∧ (ReleaseOk s e → Managed n s') := by
  have hlawful : Lawful n s e ↔ Disciplined n s'
      ∧ (e = .dpaShutdown → s.host.ep.connected = false → GivesNothing s s') := by
    rw [Lawful, hevent]
    exact ⟨fun h => h s' rfl, fun h u hu => Option.some.inj hu ▸ h⟩
  rw [hlawful]
  cases e with
  | connectMsg data =>
      obtain ⟨⟨a, u⟩, hconnect, rfl⟩ := Except.map_eq_ok (toOption_eq_some hevent)
      obtain ⟨hiff, hmanaged⟩ := h.connectOrDisconnect hconnect
      refine ⟨?_, fun hok => hmanaged (hiff.2 hok)⟩
      rw [← hiff]
      exact and_iff_left nofun
  | dpaShutdown =>
      obtain ⟨⟨a, u⟩, hshutdown, rfl⟩ := Except.map_eq_ok (toOption_eq_some hevent)
      obtain ⟨hiff, hmanaged⟩ := h.dpaShutdown hshutdown
      refine ⟨?_, fun hok => hmanaged (hiff.2 hok).1⟩
      rw [← hiff]
      exact and_congr_right fun _ => forall_prop_of_true rfl
  | environment peerAddr sendSd recvSd =>
      obtain rfl := Option.some.inj hevent
      have hmanaged : Managed n { s with
          host.ep.peerAddr := peerAddr, host.ep.sendInfo.sd := sendSd
          host.ep.recvInfo.sd := recvSd } :=
        ⟨h.le, h.once, h.new, h.nodup, h.live, h.stale, h.plain⟩
      exact ⟨iff_of_true ⟨hmanaged.once, nofun⟩ trivial, fun _ => hmanaged⟩

/-- From an endpoint without handles on, every step of a run keeps the discipline iff every step
meets the condition. -/
theorem released_once {s t : Site} {events : List ReleaseEvent}
    (hnone : s.connection.resources = []) (hrun : Stepper.run releaseEvent s events = some t) :
    Stepper.Meets releaseEvent (Lawful s.dpa.calls.length) s events
      ↔ Stepper.Meets releaseEvent ReleaseOk s events := by
  have honce : Disciplined s.dpa.calls.length s := by
    rw [Disciplined, List.drop_length]
    exact once_nil
  exact Stepper.meets_iff (fun _ _ _ h hevent => (h.step hevent).1)
    (fun _ _ _ h hok hevent => (h.step hevent).2 hok) (Managed.of_none le_rfl honce hnone) hrun

/-- A message endpoint that was opened to connect to node 2. -/
def openedMsg : Site := granted (opened 0 fiMsg ⟨2, 7⟩)

/-- A connection to a buffer of the peer and to both of its interrupts. -/
def connectBoth : ReleaseEvent := .connectMsg ⟨2, 0, 100, 0, 72, true, 5, true, 6⟩

/-- One connection and one shutdown. -/
theorem released_once_oneShutdown :
    Stepper.Meets releaseEvent (Lawful 0) openedMsg [connectBoth, .dpaShutdown] := by
  have hview : (Stepper.run releaseEvent openedMsg [connectBoth, .dpaShutdown]).isSome = true
      ∧ (releaseEvent openedMsg connectBoth).map (fun s => s.host.ep.connected) = some true := by
    decide +kernel
  obtain ⟨hsome, hconnected⟩ := hview
  obtain ⟨t, hrun⟩ := Option.isSome_iff_exists.1 hsome
  obtain ⟨s, hs, hconnected⟩ := Option.map_eq_some_iff.1 hconnected
  refine (released_once rfl hrun).2 ⟨.inr rfl, fun u hu => ⟨.inr (.inl ?_), fun _ _ => trivial⟩⟩
  rw [← Option.some.inj (hs.symm.trans hu), hconnected]

/-- A second shutdown gives the sequence back a second time. -/
theorem released_twice :
    ¬ Stepper.Meets releaseEvent (Lawful 0) openedMsg
      [connectBoth, .dpaShutdown, .dpaShutdown] := by
  intro h
  have hview : ((Stepper.run releaseEvent openedMsg [connectBoth, .dpaShutdown]).bind fun s =>
      (releaseEvent s .dpaShutdown).map fun t => (t.dpa.calls[6]?, t.dpa.calls[11]?))
        = some (some (.removeSequence (some 2)), some (.removeSequence (some 2))) := by
    decide +kernel
  obtain ⟨s, hrun, hview⟩ := Option.bind_eq_some_iff.1 hview
  obtain ⟨t, hshutdown, hcalls⟩ := Option.map_eq_some_iff.1 hview
  obtain ⟨hfirst, hsecond⟩ := Prod.mk.inj hcalls
  obtain ⟨honce, -⟩ := h.last [connectBoth, .dpaShutdown] hrun t hshutdown
  rw [Disciplined, List.drop_zero] at honce
  refine (honce 11 _ (.sequence 2) hsecond rfl).kept (.removeSequence (some 2)) ?_ rfl
  exact List.mem_of_getElem? ((List.getElem?_take_of_lt (by norm_num)).trans hfirst)

end Site

end DpaProvider
