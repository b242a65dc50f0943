import DpaProvider.Cm.Agreement
import DpaProvider.Cm.Segments

/-!
The exits of `alloc_msg_buffer`.

Its two halves open a descriptor each, and create an interrupt for it if one is needed.  The half
for the sends was copied from that for the receives, and its labels from those of another order of
steps.

* `allocRecv_run`, `allocSend_run`: the exits of the halves, and the calls made before;
* `BothDone.promised_iff`: when the exit without an error is right;
* `allocHalves_iff`: when all exits are, once a buffer was found;
* `exits_right`: when all exits of `alloc_msg_buffer` are right.
-/

namespace DpaProvider

open Effect

namespace Site

variable {s t u : Site} {data data' : SegmentData} {err : DpaError}

/-! ### The two halves -/

/-- The runs of the half for `FI_RECV`: one case for each of its exits. -/
inductive RecvRun (data : SegmentData) (s : Site) : DpaError → SegmentData → Site → Prop where
  | lacks (hno : hasAny s.host.ep.caps fiRecv = false) : RecvRun data s .ok data s
  | refused (hhas : hasAny s.host.ep.caps fiRecv = true) (hopen : s.dpa.answer 0 ≠ .ok) :
      RecvRun data s (s.dpa.answer 0) data { s with dpa := s.dpa.makes [.dpaOpen] }
  | silent (hhas : hasAny s.host.ep.caps fiRecv = true) (hopen : s.dpa.answer 0 = .ok)
      (hno : s.recvInterruptNeeded = false) :
      RecvRun data s .ok { data with hasRecvInterrupt := false }
        { s with host.ep.recvInfo.sd := some s.dpa.calls.length, dpa := s.dpa.makes [.dpaOpen] }
  | failed (hhas : hasAny s.host.ep.caps fiRecv = true) (hopen : s.dpa.answer 0 = .ok)
      (hneeded : s.recvInterruptNeeded = true) (hcreate : s.dpa.answer 1 ≠ .ok) :
      RecvRun data s (s.dpa.answer 1) data
        { s with
          host.ep.recvInfo.sd := some s.dpa.calls.length
          dpa := s.dpa.makes [.dpaOpen, .createInterrupt (some s.dpa.calls.length),
            .close s.host.ep.sendInfo.sd] }
  | created (hhas : hasAny s.host.ep.caps fiRecv = true) (hopen : s.dpa.answer 0 = .ok)
      (hneeded : s.recvInterruptNeeded = true) (hcreate : s.dpa.answer 1 = .ok) (id : UInt32) :
      RecvRun data s .ok { data with recvInterruptId := id, hasRecvInterrupt := true }
        { s with
          host.ep.recvInfo := { s.host.ep.recvInfo with
            sd := some s.dpa.calls.length, interrupt := some (s.dpa.calls.length + 1) }
          dpa := s.dpa.makes [.dpaOpen, .createInterrupt (some s.dpa.calls.length)] }

lemma allocRecv_run (data : SegmentData) (s : Site) : ∃ err data' t,
    allocRecv data s = .ok ((err, data'), t) ∧ RecvRun data s err data' t := by
  simp only [allocRecv, get_bind, lib_bind, ite_run, setRecvInfo_bind]
  simp only [Dpa.call_eq_makes, Dpa.makes_makes, Dpa.reply_err, Dpa.answer_makes, Dpa.handle_makes,
    List.cons_append, List.nil_append, List.length_cons, List.length_nil, Nat.zero_add,
    Nat.add_zero]
  split_ifs with hno hopen hneeded hcreate
  · rw [Bool.not_eq_true'] at hno
    exact ⟨_, _, _, rfl, .lacks hno⟩
  all_goals rw [Bool.not_eq_true', Bool.not_eq_false] at hno
  · exact ⟨_, _, _, rfl, .refused hno hopen⟩
  all_goals replace hopen := not_not.1 hopen
  · rw [Bool.not_eq_true'] at hneeded
    exact ⟨_, _, _, rfl, .silent hno hopen hneeded⟩
  all_goals rw [Bool.not_eq_true', Bool.not_eq_false] at hneeded
  · exact ⟨_, _, _, rfl, .failed hno hopen hneeded hcreate⟩
  · exact ⟨_, _, _, rfl, .created hno hopen hneeded (not_not.1 hcreate) _⟩

/-- The runs of the half for `FI_SEND` that come to an exit. -/
inductive SendRun (data : SegmentData) (s : Site) : DpaError → SegmentData → Site → Prop where
  | lacks (hno : hasAny s.host.ep.caps fiSend = false) : SendRun data s .ok data s
  | refused (hhas : hasAny s.host.ep.caps fiSend = true) (hopen : s.dpa.answer 0 ≠ .ok) :
      SendRun data s (s.dpa.answer 0) data { s with
        dpa := s.dpa.makes [.dpaOpen, .removeInterrupt s.host.ep.recvInfo.interrupt,
          .close s.host.ep.sendInfo.sd] }
  | silent (hhas : hasAny s.host.ep.caps fiSend = true) (hopen : s.dpa.answer 0 = .ok)
      (hbound : s.SendBound) (hno : s.sendNeeded = false) :
      SendRun data s .ok { data with hasSendInterrupt := false }
        { s with host.ep.sendInfo.sd := some s.dpa.calls.length, dpa := s.dpa.makes [.dpaOpen] }
  | failed (hhas : hasAny s.host.ep.caps fiSend = true) (hopen : s.dpa.answer 0 = .ok)
      (hbound : s.SendBound) (hneeded : s.sendNeeded = true) (hcreate : s.dpa.answer 1 ≠ .ok) :
      SendRun data s .ok { data with hasSendInterrupt := true }
        { s with
          host.ep.sendInfo.sd := some s.dpa.calls.length
          dpa := s.dpa.makes [.dpaOpen, .createInterrupt (some s.dpa.calls.length)] }
  | created (hhas : hasAny s.host.ep.caps fiSend = true) (hopen : s.dpa.answer 0 = .ok)
      (hbound : s.SendBound) (hneeded : s.sendNeeded = true) (hcreate : s.dpa.answer 1 = .ok)
      (id : UInt32) :
      SendRun data s .ok { data with sendInterruptId := id, hasSendInterrupt := true }
        { s with
          host.ep.sendInfo := { s.host.ep.sendInfo with
            sd := some s.dpa.calls.length, interrupt := some (s.dpa.calls.length + 1) }
          dpa := s.dpa.makes [.dpaOpen, .createInterrupt (some s.dpa.calls.length)] }

lemma allocSend_run (data : SegmentData) (s : Site) :
    (∃ err data' t, allocSend data s = .ok ((err, data'), t) ∧ SendRun data s err data' t)
      ∨ hasAny s.host.ep.caps fiSend = true ∧ s.dpa.answer 0 = .ok ∧ ¬ s.SendBound
        ∧ allocSend data s = .error .nullPointer := by
  simp only [allocSend, get_bind, lib_bind, ite_run, setSendInfo_bind]
  simp only [Dpa.call_eq_makes, Dpa.makes_makes, Dpa.reply_err, List.cons_append, List.nil_append]
  split_ifs with hno hopen
  · rw [Bool.not_eq_true'] at hno
    exact .inl ⟨_, _, _, rfl, .lacks hno⟩
  all_goals rw [Bool.not_eq_true', Bool.not_eq_false] at hno
  · exact .inl ⟨_, _, _, rfl, .refused hno hopen⟩
  replace hopen := not_not.1 hopen
  set u : Site := { s with
    host.ep.sendInfo.sd := some s.dpa.handle, dpa := s.dpa.makes [.dpaOpen] } with hu
  rcases sendInterruptNeeded_run u with ⟨hbound, htest⟩ | ⟨hunbound, htest⟩
  · refine .inl ?_
    rw [run_bind htest]
    simp only [lib_bind, ite_run, setSendInfo_bind, hu]
    simp only [Dpa.call_eq_makes, Dpa.makes_makes, Dpa.reply_err, Dpa.answer_makes,
      Dpa.handle_makes, List.cons_append, List.nil_append, List.length_cons, List.length_nil,
      Nat.zero_add, Nat.add_zero]
    split_ifs with hneeded hcreate
    · rw [Bool.not_eq_true'] at hneeded
      exact ⟨_, _, _, rfl, .silent hno hopen hbound hneeded⟩
    all_goals rw [Bool.not_eq_true', Bool.not_eq_false] at hneeded
    · exact ⟨_, _, _, rfl, .created hno hopen hbound hneeded hcreate _⟩
    · exact ⟨_, _, _, rfl, .failed hno hopen hbound hneeded hcreate⟩
  · exact .inr ⟨hno, hopen, hunbound, run_bind_error htest⟩

/-- The calls of a half that comes to its end; `n` is the number of the first one. -/
def halfCalls (n : ℕ) (has needed : Bool) : List DpaCall :=
  if has then .dpaOpen :: if needed then [.createInterrupt (some n)] else [] else []

lemma isRelease_halfCalls {n : ℕ} {has needed : Bool} {c : DpaCall}
    (hc : c ∈ halfCalls n has needed) : c.isRelease = false := by
  cases has
  case false => cases hc
  case true =>
      rcases List.mem_cons.1 hc with rfl | hc
      · rfl
      · cases needed
        case false => cases hc
        case true =>
            obtain rfl := List.mem_singleton.1 hc
            rfl

/-- The half for `FI_RECV` at its end. -/
structure RecvDone (data : SegmentData) (s : Site) (data' : SegmentData) (t : Site) : Prop where
  dpa : t.dpa = s.dpa.makes
    (halfCalls s.dpa.calls.length (hasAny s.host.ep.caps fiRecv) s.recvInterruptNeeded)
  opened : hasAny s.host.ep.caps fiRecv = true → s.dpa.answer 0 = .ok
  created : hasAny s.host.ep.caps fiRecv = true → s.recvInterruptNeeded = true →
    s.dpa.answer 1 = .ok
  sd : hasAny s.host.ep.caps fiRecv = true → t.host.ep.recvInfo.sd = some s.dpa.calls.length
  interrupt : t.host.ep.recvInfo.interrupt =
    if hasAny s.host.ep.caps fiRecv && s.recvInterruptNeeded then some (s.dpa.calls.length + 1)
    else s.host.ep.recvInfo.interrupt
  host : t.host = { s.host with ep.recvInfo := t.host.ep.recvInfo }
  told : data'.hasRecvInterrupt =
    if hasAny s.host.ep.caps fiRecv then s.recvInterruptNeeded else data.hasRecvInterrupt
  untold : data'.hasSendInterrupt = data.hasSendInterrupt

lemma RecvRun.done (hrun : RecvRun data s err data' t) (herr : err = .ok) :
    RecvDone data s data' t := by
  cases hrun with
  | lacks hno =>
      constructor <;> simp [hno, halfCalls, Dpa.makes]
  | refused hhas hopen => exact absurd herr hopen
  | silent hhas hopen hno =>
      constructor <;> simp [hhas, hopen, hno, halfCalls]
  | failed hhas hopen hneeded hcreate => exact absurd herr hcreate
  | created hhas hopen hneeded hcreate id =>
      constructor <;> simp [hhas, hopen, hneeded, hcreate, halfCalls]

/-- The half for `FI_SEND` at its end. -/
structure SendDone (data : SegmentData) (s : Site) (data' : SegmentData) (t : Site) : Prop where
  dpa : t.dpa = s.dpa.makes
    (halfCalls s.dpa.calls.length (hasAny s.host.ep.caps fiSend) s.sendNeeded)
  opened : hasAny s.host.ep.caps fiSend = true → s.dpa.answer 0 = .ok ∧ s.SendBound
  sd : hasAny s.host.ep.caps fiSend = true → t.host.ep.sendInfo.sd = some s.dpa.calls.length
  interrupt : t.host.ep.sendInfo.interrupt =
    if hasAny s.host.ep.caps fiSend && s.sendNeeded && s.dpa.answer 1 = .ok
    then some (s.dpa.calls.length + 1) else s.host.ep.sendInfo.interrupt
  recvInfo : t.host.ep.recvInfo = s.host.ep.recvInfo
  told : data'.hasSendInterrupt =
    if hasAny s.host.ep.caps fiSend then s.sendNeeded else data.hasSendInterrupt
  untold : data'.hasRecvInterrupt = data.hasRecvInterrupt

lemma SendRun.done (hrun : SendRun data s err data' t) (herr : err = .ok) :
    SendDone data s data' t := by
  cases hrun with
  | lacks hno =>
      constructor <;> simp [hno, halfCalls, Dpa.makes]
  | refused hhas hopen => exact absurd herr hopen
  | silent hhas hopen hbound hno =>
      constructor <;> simp [hhas, hopen, hbound, hno, halfCalls]
  | failed hhas hopen hbound hneeded hcreate =>
      constructor <;> simp [hhas, hopen, hbound, hneeded, hcreate, halfCalls]
  | created hhas hopen hbound hneeded hcreate id =>
      constructor <;> simp [hhas, hopen, hbound, hneeded, hcreate, halfCalls]

/-! ### What the exits promise -/

/-- The descriptor of a direction. -/
def sdOf (s : Site) : Direction → Option Handle
  | .send => s.host.ep.sendInfo.sd
  | .recv => s.host.ep.recvInfo.sd

/-- The interrupt of a direction. -/
def interruptOf (s : Site) : Direction → Option Handle
  | .send => s.host.ep.sendInfo.interrupt
  | .recv => s.host.ep.recvInfo.interrupt

/-- The endpoint has the direction. -/
def hasDirection (s : Site) : Direction → Bool
  | .send => hasAny s.host.ep.caps fiSend
  | .recv => hasAny s.host.ep.caps fiRecv

/-- `hasRecvInterrupt` and `hasSendInterrupt`. -/
def saysInterrupt (data : SegmentData) : Direction → Bool
  | .send => data.hasSendInterrupt
  | .recv => data.hasRecvInterrupt

/-- Data progress is automatic, or the queue or the counter of the direction waits with
`FI_WAIT_UNSPEC`. -/
def required (s : Site) (dir : Direction) : Bool :=
  s.host.ep.autoProgress || waitsUnspec (fun q => (s.host.cqs q).waitObj) (s.host.ep.cq dir)
    || waitsUnspec (fun k => (s.host.cntrs k).waitObj) (s.host.ep.cntr dir)

/-- Since the state `s` an interrupt was created for the direction, and it is open. -/
def Interrupted (s t : Site) (dir : Direction) : Prop :=
  ∃ h, t.interruptOf dir = some h ∧ s.dpa.calls.length ≤ h
    ∧ t.dpa.calls[h]? = some (.createInterrupt (t.sdOf dir)) ∧ t.dpa.Held (.interrupt h)

/-- What the exits promise, from the state `s` in which a buffer was looked for: with an error
everything was closed and removed that was opened; the failure to create an interrupt is an error;
without one the directions have the interrupts they are to have, and the data say so. -/
structure Promised (data : SegmentData) (s : Site) (err : DpaError) (data' : SegmentData)
    (t : Site) :
    Prop where
  unwound : err ≠ .ok → Dpa.Unwound s.dpa t.dpa
  reported : ∀ h sd, s.dpa.calls.length ≤ h → t.dpa.calls[h]? = some (.createInterrupt sd) →
    (t.dpa.replies h).err ≠ .ok → err ≠ .ok
  interrupted : err = .ok → ∀ dir, s.hasDirection dir = true →
    (Interrupted s t dir ↔ s.required dir = true)
  told : err = .ok → ∀ dir, s.hasDirection dir = true →
    saysInterrupt data' dir = s.required dir
  untouched : err = .ok → ∀ dir, s.hasDirection dir = false →
    t.interruptOf dir = s.interruptOf dir ∧ saysInterrupt data' dir = saysInterrupt data dir

/-- The state in which `alloc_msg_buffer` has looked for a buffer. -/
def Looked (s u : Site) : Prop :=
  hasAny s.host.ep.caps (fiRecv ||| fiSend) = false ∧ u = s
    ∨ hasAny s.host.ep.caps (fiRecv ||| fiSend) = true ∧ ∃ found, getEmptyBuffer s = .ok (found, u)

/-- All exits of `alloc_msg_buffer` are right: it follows no pointer that is not bound, and keeps
what its exits promise. -/
structure ExitsRight (data : SegmentData) (s : Site) : Prop where
  bound : allocMsgBuffer data s ≠ .error .nullPointer
  promised : ∀ err data' t, allocMsgBuffer data s = .ok ((err, data'), t) →
    ∃ u, Looked s u ∧ Promised data u err data' t

/-- The number of calls of the half for `FI_RECV`. -/
def recvCalls (s : Site) : ℕ :=
  if s.hasDirection .recv then if s.required .recv then 2 else 1 else 0

/-- The descriptor of the receives cannot be opened; or no creation of a receive interrupt fails,
and neither does any step of the sends, whose test follows bound pointers only and says what it
should. -/
def GoesWell (s : Site) : Prop :=
  s.hasDirection .recv = true ∧ s.dpa.answer 0 ≠ .ok
    ∨ (s.hasDirection .recv = true → s.required .recv = true → s.dpa.answer 1 = .ok)
      ∧ (s.hasDirection .send = true → s.dpa.answer s.recvCalls = .ok ∧ s.SendBound
        ∧ s.sendNeeded = s.required .send
        ∧ (s.required .send = true → s.dpa.answer (s.recvCalls + 1) = .ok))

/-- That is so once a buffer was found. -/
def ExitsOk (s : Site) : Prop :=
  hasAny s.host.ep.caps (fiRecv ||| fiSend) = true →
    ∀ i j u, getEmptyBuffer s = .ok (some (i, j), u) → u.GoesWell

/-! ### An exit with an error -/

/-- What was opened before is not to be closed. -/
lemma not_unwound_of_close {d d' : Dpa} {sd : Option Handle}
    (hold : ∀ h, sd = some h → h < d.calls.length)
    {k : ℕ} (hclose : d'.calls[d.calls.length + k]? = some (.close sd)) : ¬ Dpa.Unwound d d' := by
  intro h
  obtain ⟨o, htakes, hle, -⟩ := h.own _ _ (Nat.le_add_right _ k) hclose rfl
  cases sd with
  | none => cases htakes
  | some x =>
      obtain rfl := Option.some.inj htakes
      exact absurd hle (Nat.not_le.2 (hold x rfl))

/-- A descriptor that could not be opened leaves nothing. -/
lemma unwound_refused {d : Dpa} (hopen : d.answer 0 ≠ .ok) :
    Dpa.Unwound d (d.makes [.dpaOpen]) := by
  rw [Dpa.unwound_iff]
  constructor
  · rintro k o ⟨hopens, hanswer⟩
    obtain ⟨c, hc, -⟩ := Option.bind_eq_some_iff.1 hopens
    obtain rfl : k = 0 := Nat.lt_one_iff.1 (List.getElem?_eq_some_iff.1 hc).1
    exact absurd hanswer hopen
  · intro j c hc hrelease
    obtain rfl := List.mem_singleton.1 (List.mem_of_getElem? hc)
    cases hrelease

/-! ### The exit without one -/

/-- Where the two halves create an interrupt. -/
lemma getElem?_halves {n : ℕ} {a b a' b' : Bool} {k : ℕ} {sd : Option Handle} :
    (halfCalls n a b ++ halfCalls (n + (halfCalls n a b).length) a' b')[k]?
        = some (.createInterrupt sd)
      ↔ (a && b) = true ∧ k = 1 ∧ sd = some n
        ∨ (a' && b') = true ∧ k = (halfCalls n a b).length + 1
          ∧ sd = some (n + (halfCalls n a b).length) := by
  cases a <;> cases b <;> cases a' <;> cases b'
  all_goals
    rcases k with _ | _ | _ | _ | k
    all_goals simp [halfCalls, eq_comm]

/-- An interrupt that was created is there, if nothing was released. -/
lemma held_interrupt {d : Dpa} {more : List DpaCall} (hquiet : ∀ c ∈ more, c.isRelease = false)
    {k : ℕ} {sd : Option Handle} (hcreate : more[k]? = some (.createInterrupt sd)) :
    (d.makes more).Held (.interrupt (d.calls.length + k)) ↔ d.answer k = .ok := by
  rw [Dpa.held_makes_new_iff rfl, and_iff_left, Dpa.OpensAt, hcreate, Option.bind_some]
  · exact and_iff_right rfl
  · intro j c _ hc htakes
    have hrelease := DpaCall.isRelease_of_takes htakes
    rw [hquiet c (List.mem_of_getElem? hc)] at hrelease
    exact absurd hrelease nofun

namespace RecvDone

variable {s₁ : Site} {data₁ : SegmentData} (h : RecvDone data s data₁ s₁)

include h

lemma length : s₁.dpa.calls.length = s.dpa.calls.length + s.recvCalls := by
  rw [h.dpa, Dpa.length_makes, recvCalls]
  change _ + (halfCalls _ (s.hasDirection .recv) (s.required .recv)).length = _
  cases s.hasDirection .recv <;> cases s.required .recv <;> rfl

lemma answer (k : ℕ) : s₁.dpa.answer k = s.dpa.answer (s.recvCalls + k) := by
  rw [Dpa.answer, Dpa.answer, h.length, Nat.add_assoc, h.dpa, Dpa.replies_makes]

lemma direction (dir : Direction) : s₁.hasDirection dir = s.hasDirection dir := by
  cases dir <;> rw [hasDirection, hasDirection, h.host]

lemma sendNeeded : s₁.sendNeeded = s.sendNeeded := by
  rw [Site.sendNeeded, Site.sendNeeded, h.host]

lemma sendBound : s₁.SendBound ↔ s.SendBound := by
  rw [SendBound, SendBound, h.host]

lemma sendInfo : s₁.host.ep.sendInfo = s.host.ep.sendInfo := by
  rw [h.host]

end RecvDone

/-- Both halves at their end, and the buffer reserved. -/
structure BothDone (data : SegmentData) (s : Site) (data' : SegmentData) (t : Site) : Prop where
  dpa : t.dpa = s.dpa.makes
    (halfCalls s.dpa.calls.length (s.hasDirection .recv) (s.required .recv)
      ++ halfCalls (s.dpa.calls.length + s.recvCalls) (s.hasDirection .send) s.sendNeeded)
  created : s.hasDirection .recv = true → s.required .recv = true → s.dpa.answer 1 = .ok
  recvSd : s.hasDirection .recv = true → t.sdOf .recv = some s.dpa.calls.length
  sendSd : s.hasDirection .send = true → t.sdOf .send = some (s.dpa.calls.length + s.recvCalls)
  recvInterrupt : t.interruptOf .recv =
    if s.hasDirection .recv && s.required .recv then some (s.dpa.calls.length + 1)
    else s.interruptOf .recv
  sendInterrupt : t.interruptOf .send =
    if s.hasDirection .send && s.sendNeeded && s.dpa.answer (s.recvCalls + 1) = .ok
    then some (s.dpa.calls.length + (s.recvCalls + 1)) else s.interruptOf .send
  toldRecv : saysInterrupt data' .recv =
    if s.hasDirection .recv then s.required .recv else saysInterrupt data .recv
  toldSend : saysInterrupt data' .send =
    if s.hasDirection .send then s.sendNeeded else saysInterrupt data .send

lemma RecvDone.both {s₁ s₂ t : Site} {data₁ data₂ : SegmentData} (hrecv : RecvDone data s data₁ s₁)
    (hsend : SendDone data₁ s₁ data₂ s₂) {i j : ℕ}
    (hreserve : reserveBuffer i j data₂ s₂ = .ok (data', t)) : BothDone data s data' t := by
  obtain ⟨rfl, rfl⟩ := Prod.mk.inj (Except.ok.inj hreserve)
  have hsends : hasAny s₁.host.ep.caps fiSend = s.hasDirection .send := hrecv.direction .send
  constructor
  case dpa =>
      dsimp only
      rw [hsend.dpa, hrecv.length, hsends, hrecv.sendNeeded, hrecv.dpa, Dpa.makes_makes]
      rfl
  case created => exact hrecv.created
  case recvSd =>
      intro hhas
      rw [← hrecv.sd hhas, ← hsend.recvInfo]
      rfl
  case sendSd =>
      intro hhas
      rw [← hrecv.length, ← hsend.sd (hsends.trans hhas)]
      rfl
  case recvInterrupt =>
      refine Eq.trans ?_ hrecv.interrupt
      rw [← hsend.recvInfo]
      rfl
  case sendInterrupt =>
      refine Eq.trans hsend.interrupt ?_
      rw [hsends, hrecv.sendNeeded, hrecv.answer, hrecv.length, hrecv.sendInfo, Nat.add_assoc]
      rfl
  case toldRecv => exact hsend.untold.trans hrecv.told
  case toldSend =>
      refine Eq.trans hsend.told ?_
      rw [hsends, hrecv.sendNeeded, hrecv.untold]
      rfl

namespace BothDone

variable (h : BothDone data s data' t)

include h

lemma getElem?_calls {k : ℕ} {sd : Option Handle} :
    t.dpa.calls[s.dpa.calls.length + k]? = some (.createInterrupt sd)
      ↔ (s.hasDirection .recv && s.required .recv) = true ∧ k = 1 ∧ sd = some s.dpa.calls.length
        ∨ (s.hasDirection .send && s.sendNeeded) = true ∧ k = s.recvCalls + 1
          ∧ sd = some (s.dpa.calls.length + s.recvCalls) := by
  have hlength : (halfCalls s.dpa.calls.length (s.hasDirection .recv) (s.required .recv)).length
      = s.recvCalls := by
    rw [recvCalls]
    cases s.hasDirection .recv <;> cases s.required .recv <;> rfl
  rw [h.dpa, Dpa.getElem?_makes_add, ← hlength]
  exact getElem?_halves

/-- An interrupt that was created is there. -/
lemma held {k : ℕ} {sd : Option Handle}
    (hcreate : t.dpa.calls[s.dpa.calls.length + k]? = some (.createInterrupt sd)) :
    t.dpa.Held (.interrupt (s.dpa.calls.length + k)) ↔ s.dpa.answer k = .ok := by
  rw [h.dpa, Dpa.getElem?_makes_add] at hcreate
  rw [h.dpa]
  refine held_interrupt (fun c hc => ?_) hcreate
  rcases List.mem_append.1 hc with hc | hc
  · exact isRelease_halfCalls hc
  · exact isRelease_halfCalls hc

lemma interrupted_recv (hhas : s.hasDirection .recv = true) :
    Interrupted s t .recv ↔ s.required .recv = true := by
  have hpos : 0 < s.recvCalls := by
    rw [recvCalls, if_pos hhas]
    split <;> decide
  constructor
  · rintro ⟨x, -, hle, hcreate, -⟩
    obtain ⟨k, rfl⟩ := Nat.exists_eq_add_of_le hle
    rw [h.getElem?_calls, h.recvSd hhas] at hcreate
    rcases hcreate with ⟨hneeded, -⟩ | ⟨-, -, hsd⟩
    · exact (Bool.and_eq_true_iff.1 hneeded).2
    · replace hsd := Option.some.inj hsd
      omega
  · intro hneeded
    have hboth : (s.hasDirection .recv && s.required .recv) = true := by rw [hhas, hneeded]; rfl
    have hcreate : t.dpa.calls[s.dpa.calls.length + 1]?
        = some (.createInterrupt (t.sdOf .recv)) := by
      rw [h.getElem?_calls, h.recvSd hhas]
      exact .inl ⟨hboth, rfl, rfl⟩
    refine ⟨s.dpa.calls.length + 1, ?_, Nat.le_add_right _ _, hcreate, ?_⟩
    · rw [h.recvInterrupt, if_pos hboth]
    · exact (h.held hcreate).2 (h.created hhas hneeded)

lemma interrupted_send (hhas : s.hasDirection .send = true) :
    Interrupted s t .send ↔ s.sendNeeded = true ∧ s.dpa.answer (s.recvCalls + 1) = .ok := by
  constructor
  · rintro ⟨x, -, hle, hcreate, hheld⟩
    obtain ⟨k, rfl⟩ := Nat.exists_eq_add_of_le hle
    have hanswer := (h.held hcreate).1 hheld
    rw [h.getElem?_calls, h.sendSd hhas] at hcreate
    rcases hcreate with ⟨hrecv, -, hsd⟩ | ⟨hneeded, rfl, -⟩
    · obtain ⟨hhas', hneeded⟩ := Bool.and_eq_true_iff.1 hrecv
      rw [recvCalls, if_pos hhas', if_pos hneeded] at hsd
      replace hsd := Option.some.inj hsd
      omega
    · exact ⟨(Bool.and_eq_true_iff.1 hneeded).2, hanswer⟩
  · rintro ⟨hneeded, hanswer⟩
    have hboth : (s.hasDirection .send && s.sendNeeded) = true := by rw [hhas, hneeded]; rfl
    have hcreate : t.dpa.calls[s.dpa.calls.length + (s.recvCalls + 1)]?
        = some (.createInterrupt (t.sdOf .send)) := by
      rw [h.getElem?_calls, h.sendSd hhas]
      exact .inr ⟨hboth, rfl, rfl⟩
    refine ⟨s.dpa.calls.length + (s.recvCalls + 1), ?_, Nat.le_add_right _ _, hcreate,
      (h.held hcreate).2 hanswer⟩
    rw [h.sendInterrupt, hboth, hanswer]
    rfl

/-- When the exit without an error is right. -/
lemma promised_iff : Promised data s .ok data' t ↔ (s.hasDirection .send = true →
    s.sendNeeded = s.required .send
      ∧ (s.required .send = true → s.dpa.answer (s.recvCalls + 1) = .ok)) := by
  constructor
  · intro hpromised hhas
    have htold := hpromised.told rfl .send hhas
    rw [h.toldSend, if_pos hhas] at htold
    refine ⟨htold, fun hrequired => ?_⟩
    have hinterrupted := (hpromised.interrupted rfl .send hhas).2 hrequired
    exact ((h.interrupted_send hhas).1 hinterrupted).2
  · intro hsend
    constructor
    case unwound => exact fun hne => absurd rfl hne
    case reported =>
        intro x sd hle hcreate hfailed
        obtain ⟨k, rfl⟩ := Nat.exists_eq_add_of_le hle
        refine absurd ?_ hfailed
        rw [h.dpa, Dpa.replies_makes]
        rcases h.getElem?_calls.1 hcreate with ⟨hneeded, rfl, -⟩ | ⟨hneeded, rfl, -⟩
        · obtain ⟨hhas, hneeded⟩ := Bool.and_eq_true_iff.1 hneeded
          exact h.created hhas hneeded
        · obtain ⟨hhas, hneeded⟩ := Bool.and_eq_true_iff.1 hneeded
          exact (hsend hhas).2 ((hsend hhas).1.symm.trans hneeded)
    case interrupted =>
        rintro - (_ | _) hhas
        · obtain ⟨htest, hcreated⟩ := hsend hhas
          rw [h.interrupted_send hhas, htest]
          exact and_iff_left_of_imp hcreated
        · exact h.interrupted_recv hhas
    case told =>
        rintro - (_ | _) hhas
        · rw [h.toldSend, if_pos hhas, (hsend hhas).1]
        · rw [h.toldRecv, if_pos hhas]
    case untouched =>
        rintro - (_ | _) hlacks
        · rw [h.sendInterrupt, h.toldSend, hlacks]
          exact ⟨rfl, rfl⟩
        · rw [h.recvInterrupt, h.toldRecv, hlacks]
          exact ⟨rfl, rfl⟩

end BothDone

/-! ### All exits -/

/-- What `alloc_msg_buffer` does once a buffer was found. -/
def allocHalves (i j : ℕ) (data : SegmentData) : Prog (DpaError × SegmentData) := do
  let (err, data) ← allocRecv data
  if err ≠ .ok then return (err, data)
  let (err, data) ← allocSend data
  if err ≠ .ok then return (err, data)
  return (.ok, ← reserveBuffer i j data)

/-- A run that comes to an exit is right if the exit is. -/
lemma right_of_exit {m : Prog (DpaError × SegmentData)} {P : DpaError → SegmentData → Site → Prop}
    (hexit : m s = .ok ((err, data'), t)) :
    (m s ≠ .error .nullPointer ∧ ∀ err data' t, m s = .ok ((err, data'), t) → P err data' t)
      ↔ P err data' t := by
  rw [hexit]
  constructor
  · exact fun h => h.2 _ _ _ rfl
  · intro hP
    refine ⟨nofun, fun err' data'' u heq => ?_⟩
    obtain ⟨hpair, rfl⟩ := Prod.mk.inj (Except.ok.inj heq)
    obtain ⟨rfl, rfl⟩ := Prod.mk.inj hpair
    exact hP

/-- Once a descriptor of the receives could be opened, all is up to the rest. -/
lemma RecvDone.goesWell_iff {s₁ : Site} {data₁ : SegmentData} (h : RecvDone data s data₁ s₁) :
    s.GoesWell ↔ (s₁.hasDirection .send = true → s₁.dpa.answer 0 = .ok ∧ s₁.SendBound
      ∧ s.sendNeeded = s.required .send
      ∧ (s.required .send = true → s.dpa.answer (s.recvCalls + 1) = .ok)) := by
  have hcreated : s.hasDirection .recv = true → s.required .recv = true → s.dpa.answer 1 = .ok :=
    h.created
  rw [GoesWell, or_iff_right fun hrefused => hrefused.2 (h.opened hrefused.1),
    and_iff_right hcreated, h.direction, h.answer, h.sendBound]
  exact Iff.rfl

/-- A half for `FI_RECV` that fails does what is promised exactly if it goes well, the descriptor of
the sends being an old one. -/
lemma RecvRun.fails_iff {data₁ : SegmentData} {s₁ : Site} (hrun : RecvRun data s err data₁ s₁)
    (herr : err ≠ .ok) (hold : ∀ h, s.host.ep.sendInfo.sd = some h → h < s.dpa.calls.length) :
    Promised data s err data₁ s₁ ↔ s.GoesWell := by
  cases hrun with
  | lacks | silent | created => exact absurd rfl herr
  | refused hhas hopen =>
      refine iff_of_true ⟨fun _ => unwound_refused hopen, fun _ _ _ _ _ => hopen, ?_, ?_, ?_⟩
        (.inl ⟨hhas, hopen⟩)
      all_goals exact fun hok => absurd hok hopen
  | failed hhas hopen hneeded hcreate =>
      refine iff_of_false (fun hpromised => ?_) ?_
      · exact not_unwound_of_close hold (Dpa.getElem?_makes_add 2) (hpromised.unwound herr)
      · rintro (⟨-, hrefused⟩ | ⟨hcreated, -⟩)
        · exact hrefused hopen
        · exact hcreate (hcreated hhas hneeded)

/-- A half for `FI_SEND` that fails behind it does not, and then a descriptor could not be
opened. -/
lemma SendRun.fails {data₁ data₂ : SegmentData} {s₁ s₂ : Site} (hdone : RecvDone data s data₁ s₁)
    (hrun : SendRun data₁ s₁ err data₂ s₂) (herr : err ≠ .ok)
    (hold : ∀ h, s.host.ep.sendInfo.sd = some h → h < s.dpa.calls.length) :
    ¬ Promised data s err data₂ s₂ ∧ s₁.hasDirection .send = true ∧ s₁.dpa.answer 0 ≠ .ok := by
  cases hrun with
  | lacks | silent | failed | created => exact absurd rfl herr
  | refused hhas hopen =>
      refine ⟨fun hpromised => ?_, hhas, hopen⟩
      refine not_unwound_of_close (k := s.recvCalls + 2) hold ?_ (hpromised.unwound herr)
      rw [← Nat.add_assoc, ← hdone.length, ← hdone.sendInfo]
      exact Dpa.getElem?_makes_add 2

/-- From there the exits are right exactly if it goes well, the descriptor of the sends being an old
one. -/
lemma allocHalves_iff {i j : ℕ} (data : SegmentData)
    (hold : ∀ h, s.host.ep.sendInfo.sd = some h → h < s.dpa.calls.length) :
    (allocHalves i j data s ≠ .error .nullPointer ∧ ∀ err data' t,
        allocHalves i j data s = .ok ((err, data'), t) → Promised data s err data' t)
      ↔ s.GoesWell := by
  obtain ⟨err, data₁, s₁, hrecv, hrun⟩ := allocRecv_run data s
  by_cases herr : err = .ok
  case neg =>
      -- the half for `FI_RECV` fails
      have hexit : allocHalves i j data s = .ok ((err, data₁), s₁) := by
        rw [allocHalves, run_bind hrecv]
        simp only [ite_run, if_pos herr]
        rfl
      rw [right_of_exit hexit]
      exact hrun.fails_iff herr hold
  case pos =>
  have hdone := hrun.done herr
  have hrest : allocHalves i j data s = (do
      let (err, data) ← allocSend data₁
      if err ≠ .ok then return (err, data)
      return (.ok, ← reserveBuffer i j data) : Prog (DpaError × SegmentData)) s₁ := by
    rw [allocHalves, run_bind hrecv]
    simp only [ite_run, herr, ne_eq, not_true_eq_false, if_false]
  rw [hdone.goesWell_iff]
  rcases allocSend_run data₁ s₁ with ⟨err', data₂, s₂, hsend, hrun'⟩
    | ⟨hhas, hopen, hunbound, hsend⟩
  case inr =>
      rw [hrest, run_bind_error hsend]
      refine iff_of_false (fun h => h.1 rfl) fun h => hunbound (h hhas).2.1
  case inl =>
  by_cases herr' : err' = .ok
  case neg =>
      -- the half for `FI_SEND` fails
      have hexit : allocHalves i j data s = .ok ((err', data₂), s₂) := by
        rw [hrest, run_bind hsend]
        simp only [ite_run, if_pos herr']
        rfl
      rw [right_of_exit hexit]
      obtain ⟨hnot, hhas, hopen⟩ := hrun'.fails hdone herr' hold
      exact iff_of_false hnot fun h => hopen (h hhas).1
  case pos =>
      obtain ⟨data', t, hreserve⟩ : ∃ data' t, reserveBuffer i j data₂ s₂ = .ok (data', t) :=
        ⟨_, _, rfl⟩
      have hexit : allocHalves i j data s = .ok ((.ok, data'), t) := by
        rw [hrest, run_bind hsend]
        simp only [ite_run, herr', ne_eq, not_true_eq_false, if_false]
        rw [run_bind hreserve]
        rfl
      have hdone' := hrun'.done herr'
      rw [right_of_exit hexit, (hdone.both hdone' hreserve).promised_iff, ← hdone.direction]
      refine forall_congr' fun hhas => ?_
      obtain ⟨hopen, hbound⟩ := hdone'.opened hhas
      rw [and_iff_right hopen, and_iff_right hbound]

lemma createUntil_error {i fuel : ℕ} {e : Stuck} (h : createUntil i fuel s = .error e) :
    e = .endless := by
  induction fuel generalizing s with
  | zero => exact (Except.error.inj h).symm
  | succ fuel ih =>
      rw [createUntil, get_bind, ite_run] at h
      split at h
      case isTrue =>
          obtain ⟨⟨_, u⟩, hcreate⟩ := returns_createDataSegment i s
          rw [run_bind hcreate] at h
          exact ih h
      case isFalse => cases h

/-- The search follows no pointers. -/
lemma searchSegments_error {remaining i : ℕ} {e : Stuck}
    (h : searchSegments remaining i s = .error e) : e = .endless := by
  induction remaining generalizing s i with
  | zero => cases h
  | succ remaining ih =>
      rw [searchSegments, get_bind] at h
      rcases run_bind_error_cases h with hcreate | ⟨_, u, -, h⟩
      · exact createUntil_error hcreate
      · rw [get_bind, ite_run] at h
        split at h
        case isTrue =>
            rcases hfound : (List.range u.env.buffersPerSegment.toNat).find?
              (fun j => ((u.localSegmentsInfo i).buffers j).size = 0) with _ | j
            · rw [hfound] at h
              exact ih h
            · rw [hfound] at h
              cases h
        case isFalse => exact ih h

lemma getEmptyBuffer_error {e : Stuck} (h : getEmptyBuffer s = .error e) : e = .endless := by
  rw [getEmptyBuffer, get_bind] at h
  exact searchSegments_error h

/-- The endpoint and its queues and counters stay the same, and calls are only added. -/
def searching : Frame Site where
  rel := fun s t => (t.host.ep, t.host.cqs, t.host.cntrs, t.dpa.replies)
      = (s.host.ep, s.host.cqs, s.host.cntrs, s.dpa.replies)
    ∧ s.dpa.calls.length ≤ t.dpa.calls.length
  refl := fun _ => ⟨rfl, le_rfl⟩
  trans := fun _ _ _ h h' => ⟨h'.1.trans h.1, h.2.trans h'.2⟩

lemma searching_getEmptyBuffer : Keeps searching getEmptyBuffer := by
  refine keeps_getEmptyBuffer (keeps_createDataSegment ?_ ?_ ?_)
  · exact fun _ _ => ⟨rfl, le_rfl⟩
  · exact fun s x => ⟨rfl, (Nat.le_succ _).trans_eq (Dpa.length_call s.dpa x.1).symm⟩
  · exact fun _ _ => ⟨rfl, le_rfl⟩

lemma allocMsgBuffer_found {i j : ℕ} (hcarries : hasAny s.host.ep.caps (fiRecv ||| fiSend) = true)
    (hfind : getEmptyBuffer s = .ok (some (i, j), u)) :
    allocMsgBuffer data s = allocHalves i j data u := by
  rw [allocMsgBuffer, get_bind, hcarries, ite_run, if_neg (by simp), run_bind hfind]
  rfl

lemma ExitsRight.of_exit (hexit : allocMsgBuffer data s = .ok ((err, data'), t))
    (hlooked : Looked s u)
    (hpromised : Promised data u err data' t) : ExitsRight data s := by
  obtain ⟨hbound, hall⟩ := (right_of_exit
    (P := fun err data' t => ∃ u, Looked s u ∧ Promised data u err data' t) hexit).2
      ⟨u, hlooked, hpromised⟩
  exact ⟨hbound, hall⟩

/-- An endpoint without a direction gets nothing. -/
lemma promised_plain (data : SegmentData)
    (hno : hasAny s.host.ep.caps (fiRecv ||| fiSend) = false) : Promised data s .ok data s := by
  rw [hasAny_or, Bool.or_eq_false_iff] at hno
  have hlacks (dir : Direction) : s.hasDirection dir = false := by
    cases dir
    · exact hno.2
    · exact hno.1
  constructor
  case unwound => exact fun hne => absurd rfl hne
  case reported =>
      intro h sd hle hcreate
      rw [List.getElem?_eq_none hle] at hcreate
      cases hcreate
  case interrupted => exact fun _ dir hhas => absurd ((hlacks dir).symm.trans hhas) nofun
  case told => exact fun _ dir hhas => absurd ((hlacks dir).symm.trans hhas) nofun
  case untouched => exact fun _ _ _ => ⟨rfl, rfl⟩

/-- All exits of `alloc_msg_buffer` are right exactly if all goes well, or fails at first. -/
theorem exits_right (data : SegmentData)
    (hold : ∀ h, s.host.ep.sendInfo.sd = some h → h < s.dpa.calls.length) :
    ExitsRight data s ↔ s.ExitsOk := by
  have hold' {found : Option (ℕ × ℕ)} {u : Site} (hfind : getEmptyBuffer s = .ok (found, u)) :
      ∀ h, u.host.ep.sendInfo.sd = some h → h < u.dpa.calls.length := by
    obtain ⟨hsame, hle⟩ := searching_getEmptyBuffer _ _ _ hfind
    intro h hh
    rw [(Prod.mk.inj hsame).1] at hh
    exact (hold h hh).trans_le hle
  constructor
  · intro h hcarries i j u hfind
    refine (allocHalves_iff (i := i) (j := j) data (hold' hfind)).1 ⟨?_, fun err data' t hrun => ?_⟩
    · rw [← allocMsgBuffer_found hcarries hfind]
      exact h.bound
    · rw [← allocMsgBuffer_found hcarries hfind] at hrun
      obtain ⟨u', hlooked, hpromised⟩ := h.promised err data' t hrun
      rcases hlooked with ⟨hno, -⟩ | ⟨-, found, hfind'⟩
      · exact absurd (hno.symm.trans hcarries) Bool.false_ne_true
      · obtain ⟨-, rfl⟩ := Prod.mk.inj (Except.ok.inj (hfind.symm.trans hfind'))
        exact hpromised
  · intro hok
    by_cases hcarries : hasAny s.host.ep.caps (fiRecv ||| fiSend) = true
    case neg =>
        rw [Bool.not_eq_true] at hcarries
        have hexit : allocMsgBuffer data s = .ok ((.ok, data), s) := by
          rw [allocMsgBuffer, get_bind, hcarries]
          rfl
        exact .of_exit hexit (.inl ⟨hcarries, rfl⟩) (promised_plain data hcarries)
    case pos =>
    rcases hfind : getEmptyBuffer s with e | ⟨found, u⟩
    · have hexit : allocMsgBuffer data s = .error e := by
        rw [allocMsgBuffer, get_bind, hcarries, ite_run, if_neg (by simp), run_bind_error hfind]
      obtain rfl := getEmptyBuffer_error hfind
      refine ⟨fun hnull => ?_, fun err data' t hrun => ?_⟩
      · cases hexit.symm.trans hnull
      · cases hexit.symm.trans hrun
    · cases found with
      | none =>
          have hexit : allocMsgBuffer data s = .ok ((.system, data), u) := by
            rw [allocMsgBuffer, get_bind, hcarries, ite_run, if_neg (by simp), run_bind hfind]
            rfl
          exact .of_exit hexit (.inr ⟨hcarries, none, hfind⟩)
            ⟨fun _ => .refl u.dpa, by simp, by simp, by simp, by simp⟩
      | some place =>
          obtain ⟨hbound, hpromised⟩ := (allocHalves_iff (i := place.1) (j := place.2) data
            (hold' hfind)).2 (hok hcarries _ _ u hfind)
          rw [← allocMsgBuffer_found hcarries hfind] at hbound hpromised
          exact ⟨hbound, fun err data' t hrun =>
            ⟨u, .inr ⟨hcarries, some place, hfind⟩, hpromised err data' t hrun⟩⟩

/-- An endpoint for messages with two completion queues that wait. -/
def twoQueues : Site :=
  { granted (opened 0 fiMsg ⟨2, 7⟩) with
    host.ep.recvCq := some 0
    host.ep.sendCq := some 1
    host.cqs := fun _ => ⟨.fiWaitUnspec, [], []⟩ }

theorem exits_right_twoQueues : ExitsRight (.ofNode 1) twoQueues := by
  have hnone : twoQueues.host.ep.sendInfo.sd = none := rfl
  refine (exits_right _ (by simp [hnone])).2 fun _ i j u hfind => ?_
  obtain ⟨hsame, -⟩ := searching_getEmptyBuffer _ _ _ hfind
  simp only [Prod.mk.injEq] at hsame
  obtain ⟨hep, hcqs, hcntrs, hreplies⟩ := hsame
  have hok (k : ℕ) : u.dpa.answer k = .ok := by
    rw [Dpa.answer, hreplies]
    rfl
  refine .inr ⟨fun _ _ => hok 1, fun _ => ⟨hok _, ?_, ?_, fun _ => hok _⟩⟩
  · rw [SendBound, hep, hcqs]
    refine .inr ⟨fun _ => rfl, fun hno => ?_⟩
    cases hno
  · rw [sendNeeded, required, hep, hcqs, hcntrs]
    rfl

/-- The same endpoint without a queue for the sends. -/
def oneQueue : Site := { twoQueues with host.ep.sendCq := none }

/-- With a completion queue for the receives only, the pointer to that of the sends is followed. -/
theorem exits_wrong : ¬ ExitsRight (.ofNode 1) oneQueue := by
  intro h
  refine h.bound ?_
  rfl

end Site

end DpaProvider
