import DpaProvider.Cm.Connect
import DpaProvider.Msg.Accounting

/-!
Waking up under automatic progress.

Nobody polls the queues: an operation that has to wait is tried again when the peer
raises an interrupt.  The actors are the application, whose posts are an attempt and then
an enqueue (`beginPost`), the peer, the callbacks of the interrupts, taken apart into the
rounds of their loop (`work`), and `connect_msg`; every step is one `Event`.  `Awake` says
that an operation that could be carried out has a callback coming for it.  Two steps can
break it: a callback that finds the queue empty between the two halves of a post, and the
end of a handshake.  `no_lost_wakeup`: as long as neither comes at a wrong moment, an
endpoint at rest has no operation queued that it could carry out.
-/

namespace DpaProvider

open ByteMem

namespace Host

variable {h g : Host} {own : BufferLoc} {dir d : Direction} {e : MsgQueueEntry}

/-! ### What could be carried out -/

/-- An operation could be carried out: the message fits in the space that the peer has
released, or a message is present at the read position. -/
def Ready (h : Host) (dir : Direction) (e : MsgQueueEntry) : Prop :=
  match dir with
  | .send => ∃ status, h.ep.sendInfo.remoteStatus = some status
      ∧ ¬ remoteSpace (h.mem status).read h.ep.sendInfo.write h.ep.sendInfo.size
          < e.len + bufferWord
  | .recv => ∃ buffer, h.ep.recvInfo.buffer = some buffer
      ∧ ¬ loadWord (h.mem buffer.base).data (dataPtr h.ep.recvInfo.read
        buffer.recvBufferSize).toNat ≤ 0

instance (h : Host) (dir : Direction) (e : MsgQueueEntry) : Decidable (Ready h dir e) :=
  match dir with
  | .send => inferInstanceAs (Decidable (∃ status ∈ h.ep.sendInfo.remoteStatus,
      ¬ remoteSpace (h.mem status).read h.ep.sendInfo.write h.ep.sendInfo.size
        < e.len + bufferWord))
  | .recv => inferInstanceAs (Decidable (∃ buffer ∈ h.ep.recvInfo.buffer,
      ¬ loadWord (h.mem buffer.base).data (dataPtr h.ep.recvInfo.read
        buffer.recvBufferSize).toNat ≤ 0))

/-- The endpoint receives in the buffer `own`, and its peer elsewhere. -/
structure Owner (own : BufferLoc) (h : Host) : Prop where
  status : h.ep.sendInfo.remoteStatus = some own
  buffer : ∃ size, h.ep.recvInfo.buffer = some ⟨own, size⟩
  remoteBuffer : h.ep.sendInfo.remoteBuffer ≠ some own
  remoteStatus : h.ep.recvInfo.remoteStatus ≠ some own

/-- What the work of one direction leaves alone. -/
structure Aside (own : BufferLoc) (dir : Direction) (h g : Host) : Prop where
  owner : Owner own h → Owner own g
  connected : g.ep.connected = h.ep.connected
  ready : Owner own h → ∀ d, d ≠ dir → ∀ e, Ready g d e ↔ Ready h d e
  queued : ∀ d, d ≠ dir → (g.queue d).contents = (h.queue d).contents

lemma Aside.refl (h : Host) : Aside own dir h h :=
  ⟨id, rfl, fun _ _ _ _ => Iff.rfl, fun _ _ => rfl⟩

lemma Aside.trans {k : Host} (ha : Aside own dir h g) (hb : Aside own dir g k) :
    Aside own dir h k where
  owner := fun ho => hb.owner (ha.owner ho)
  connected := hb.connected.trans ha.connected
  ready := fun ho d hd e => (hb.ready (ha.owner ho) d hd e).trans (ha.ready ho d hd e)
  queued := fun d hd => (hb.queued d hd).trans (ha.queued d hd)

lemma aside_setQueue (h : Host) (dir : Direction) (q : MsgQueue) :
    Aside own dir h (h.setQueue dir q) where
  owner := fun ho => ⟨ho.1, ho.2, ho.3, ho.4⟩
  connected := rfl
  ready := fun _ d _ e => by cases d <;> rfl
  queued := fun d hd => by rw [queue_setQueue_of_ne h hd]

/-! ### One attempt -/

/-- The note of an attempt in the history changes nothing here. -/
lemma aside_note (h : Host) (note : List (Direction × FiErr)) :
    Aside own dir h { h with tried := note } where
  owner := fun ho => ⟨ho.1, ho.2, ho.3, ho.4⟩
  connected := rfl
  ready := fun _ d _ e => by cases d <;> rfl
  queued := fun _ _ => rfl

lemma trySend_aside (own : BufferLoc) {err : FiErr} (heq : h.trySend e = .ok (err, g)) :
    Aside own .send h g ∧ (err = .eagain → ¬ Ready g .send e) := by
  simp only [trySend] at heq
  split at heq
  case h_1 => exact absurd heq (by simp)
  case h_2 status hstatus =>
      split at heq
      case isTrue hspace =>
          obtain ⟨rfl, rfl⟩ : FiErr.eagain = err ∧ _ = g := by simpa using heq
          refine ⟨⟨fun ho => ⟨ho.1, ho.2, ho.3, ho.4⟩, rfl, ?_, fun _ _ => rfl⟩, ?_⟩
          · exact fun _ d _ e => by cases d <;> rfl
          · rintro - ⟨status', hstatus', hready⟩
            obtain rfl : status = status' := Option.some.inj (hstatus.symm.trans hstatus')
            exact hready hspace
      case isFalse =>
          split at heq
          case h_1 => exact absurd heq (by simp)
          case h_2 buffer hbuffer =>
              obtain ⟨rfl, rfl⟩ : FiErr.success = err ∧ _ = g := by simpa using heq
              refine ⟨⟨fun ho => ⟨ho.1, ho.2, ho.3, ho.4⟩, rfl, ?_, fun _ _ => rfl⟩,
                fun herr => absurd herr (by simp)⟩
              intro ho d hd e'
              cases d with
              | send => exact absurd rfl hd
              | recv =>
                  obtain ⟨size, hown⟩ := ho.buffer
                  have hne : own ≠ buffer := fun heq => ho.remoteBuffer (heq ▸ hbuffer)
                  simp only [Ready, complete, trigger, setRing, access, hown, Option.some.injEq,
                    exists_eq_left', Function.update_of_ne hne]

lemma tryRecv_aside (own : BufferLoc) {err : FiErr} (heq : h.tryRecv e = .ok (err, g)) :
    Aside own .recv h g ∧ (err = .eagain → ¬ Ready g .recv e) := by
  simp only [tryRecv] at heq
  split at heq
  case h_1 => exact absurd heq (by simp)
  case h_2 buffer hbuffer =>
      split at heq
      case isTrue hempty =>
          obtain ⟨rfl, rfl⟩ : FiErr.eagain = err ∧ _ = g := by simpa using heq
          refine ⟨⟨fun ho => ⟨ho.1, ho.2, ho.3, ho.4⟩, rfl, ?_, fun _ _ => rfl⟩, ?_⟩
          · exact fun _ d _ e => by cases d <;> rfl
          · rintro - ⟨buffer', hbuffer', hready⟩
            obtain rfl : buffer = buffer' := Option.some.inj (hbuffer.symm.trans hbuffer')
            exact hready hempty
      case isFalse =>
          split at heq
          case h_1 => exact absurd heq (by simp)
          case h_2 status hstatus =>
              obtain ⟨rfl, rfl⟩ : FiErr.success = err ∧ _ = g := by simpa using heq
              refine ⟨⟨fun ho => ⟨ho.1, ho.2, ho.3, ho.4⟩, rfl, ?_, fun _ _ => rfl⟩,
                fun herr => absurd herr (by simp)⟩
              intro ho d hd e'
              cases d with
              | recv => exact absurd rfl hd
              | send =>
                  obtain ⟨size, hown⟩ := ho.buffer
                  obtain rfl : buffer = ⟨own, size⟩ := Option.some.inj (hbuffer.symm.trans hown)
                  have hne : own ≠ status := fun heq => ho.remoteStatus (heq ▸ hstatus)
                  simp only [Ready, complete, trigger, setRing, setStatus, access, ho.status,
                    Option.some.injEq, exists_eq_left', Function.update_of_ne hne,
                    Function.update_self]

/-- An attempt works on its own direction, and one that asks for a retry could not be carried
out. -/
lemma attempt_aside (own : BufferLoc) {err : FiErr} (heq : h.attempt dir e = .ok (err, g)) :
    Aside own dir h g ∧ (err = .eagain → ¬ Ready g dir e) := by
  unfold attempt at heq
  obtain ⟨⟨err', h₁⟩, htry, hnote⟩ := Except.map_eq_ok heq
  obtain ⟨rfl, rfl⟩ := Prod.mk.inj hnote
  cases dir with
  | send =>
      obtain ⟨haside, hblocked⟩ := trySend_aside own htry
      exact ⟨haside.trans (aside_note h₁ _), hblocked⟩
  | recv =>
      obtain ⟨haside, hblocked⟩ := tryRecv_aside own htry
      exact ⟨haside.trans (aside_note h₁ _), hblocked⟩

/-! ### Steps that Ready does not see -/

/-- What `Ready` and `Owner` read. -/
def outlook (h : Host) : (BufferLoc → RingBuffer) × Option BufferLoc × Option BufferLoc × UInt64 ×
    UInt64 × Option LocalBuffer × Option BufferLoc × UInt64 :=
  (h.mem, h.ep.sendInfo.remoteStatus, h.ep.sendInfo.remoteBuffer, h.ep.sendInfo.size,
    h.ep.sendInfo.write, h.ep.recvInfo.buffer, h.ep.recvInfo.remoteStatus, h.ep.recvInfo.read)

lemma ready_congr (hv : outlook g = outlook h) : Ready g d e ↔ Ready h d e := by
  simp only [outlook, Prod.mk.injEq] at hv
  obtain ⟨hmem, hstatus, -, hsize, hwrite, hbuffer, -, hread⟩ := hv
  cases d with
  | send => simp only [Ready, hmem, hstatus, hsize, hwrite]
  | recv => simp only [Ready, hmem, hbuffer, hread]

lemma Owner.congr (ho : Owner own h) (hv : outlook g = outlook h) : Owner own g := by
  simp only [outlook, Prod.mk.injEq] at hv
  obtain ⟨-, hstatus, hremoteBuffer, -, -, hbuffer, hremoteStatus, -⟩ := hv
  exact ⟨hstatus.trans ho.status, by rw [hbuffer]; exact ho.buffer,
    by rw [hremoteBuffer]; exact ho.remoteBuffer, by rw [hremoteStatus]; exact ho.remoteStatus⟩

/-- The two states agree but for the locks of the queues. -/
structure Unchanged (h g : Host) : Prop where
  outlook : outlook g = outlook h
  connected : g.ep.connected = h.ep.connected
  contents : ∀ d, (g.queue d).contents = (h.queue d).contents

lemma unchanged_setLocked (h : Host) (dir : Direction) (b : Bool) :
    Unchanged h (h.setQueue dir ((h.queue dir).setLocked b)) where
  outlook := rfl
  connected := rfl
  contents := (h.agree_setQueue dir (q := (h.queue dir).setLocked b) rfl).contents

lemma lockIfNeeded_unchanged (heq : h.lockIfNeeded dir = .ok g) : Unchanged h g := by
  rw [lockIfNeeded] at heq
  split at heq
  · split at heq
    · exact absurd heq (by simp)
    · obtain rfl : _ = g := by simpa using heq
      exact unchanged_setLocked h dir true
  · obtain rfl : h = g := by simpa using heq
    exact ⟨rfl, rfl, fun _ => rfl⟩

lemma unlockIfNeeded_unchanged (h : Host) (dir : Direction) :
    Unchanged h (h.unlockIfNeeded dir) := by
  rw [unlockIfNeeded]
  split
  · exact unchanged_setLocked h dir false
  · exact ⟨rfl, rfl, fun _ => rfl⟩

lemma Unchanged.aside (hu : Unchanged h g) (dir : Direction) : Aside own dir h g where
  owner := fun ho => ho.congr hu.outlook
  connected := hu.connected
  ready := fun _ _ _ _ => ready_congr hu.outlook
  queued := fun d _ => hu.contents d

/-! ### The two halves of a post -/

/-- The first half: the lock is taken, and the operation tried if it may be. -/
def beginPost (h : Host) (dir : Direction) (e : MsgQueueEntry) : Except Stuck (FiErr × Host) :=
  h.lockIfNeeded dir >>= fun h' => h'.firstAttempt dir (h.mayTry dir) e

/-- A post is its two halves. -/
lemma act_post (h : Host) (dir : Direction) (e : MsgQueueEntry) :
    h.act (.post dir e) = (h.beginPost dir e >>= fun r =>
      if r.1 = .eagain then .ok (r.2.enqueue dir e) else .ok r.2) := by
  rw [act, post, beginPost]
  cases h.lockIfNeeded dir <;> rfl

lemma firstAttempt_spec (own : BufferLoc) {mayTry : Bool} {err : FiErr}
    (heq : h.firstAttempt dir mayTry e = .ok (err, g)) :
    Aside own dir h g ∧ (g.queue dir).contents = (h.queue dir).contents
      ∧ (((h.queue dir).contents = [] ∧ mayTry = true ∧ (err = .eagain → ¬ Ready g dir e))
        ∨ err = .eagain ∧ g = h) := by
  rw [firstAttempt] at heq
  split at heq
  case isTrue htry =>
      rw [Bool.and_eq_true, MsgQueue.isEmpty_eq, List.isEmpty_iff] at htry
      have haside := attempt_aside own heq
      refine ⟨haside.1, ?_, .inl ⟨htry.1, htry.2, haside.2⟩⟩
      rcases attempt_spec heq with ⟨-, hq⟩ | ⟨-, g', c, hq, rfl, -⟩
      · exact congrArg MsgQueue.contents (congrFun hq.queue dir)
      · exact congrArg MsgQueue.contents (congrFun hq.queue dir)
  case isFalse =>
      obtain ⟨rfl, rfl⟩ : FiErr.eagain = err ∧ h = g := by simpa using heq
      exact ⟨.refl h, rfl, .inr ⟨rfl, rfl⟩⟩

/-- On a connected endpoint the first half of a post to an empty queue leaves an operation that
has to wait only if it could not be carried out; otherwise the operation is not tried. -/
lemma beginPost_spec (own : BufferLoc) {err : FiErr} (heq : h.beginPost dir e = .ok (err, g)) :
    Aside own dir h g ∧ (g.queue dir).contents = (h.queue dir).contents
      ∧ (h.ep.connected = true → (h.queue dir).contents = [] → err = .eagain → ¬ Ready g dir e)
      ∧ ((h.queue dir).contents ≠ [] → err = .eagain ∧ ∀ e', Ready g dir e' ↔ Ready h dir e') := by
  rw [beginPost] at heq
  obtain ⟨h₁, hlock, heq⟩ := bind_eq_ok heq
  have hu := lockIfNeeded_unchanged hlock
  obtain ⟨haside, hcontents, htried⟩ := firstAttempt_spec own heq
  rw [hu.contents] at hcontents htried
  refine ⟨(hu.aside dir).trans haside, hcontents, fun hconnected hempty herr => ?_, fun hne => ?_⟩
  · rcases htried with ⟨-, -, hblocked⟩ | ⟨-, rfl⟩
    · exact hblocked herr
    · have hmay : h.mayTry dir = true := by cases dir <;> [rfl; exact hconnected]
      rw [firstAttempt, hmay, Bool.and_true, MsgQueue.isEmpty_eq, hu.contents, hempty,
        List.isEmpty_nil, if_pos rfl] at heq
      exact (attempt_aside own heq).2 herr
  · rcases htried with ⟨hempty, -⟩ | ⟨herr, rfl⟩
    · exact absurd hempty hne
    · exact ⟨herr, fun _ => ready_congr hu.outlook⟩

/-- The second half of a post puts the operation behind those queued. -/
lemma enqueue_spec (h : Host) (dir : Direction) (e : MsgQueueEntry) :
    outlook (h.enqueue dir e) = outlook h ∧ (h.enqueue dir e).ep.connected = h.ep.connected
      ∧ ∀ d, ((h.enqueue dir e).queue d).contents = (h.queue d).contents ++ posting dir e d := by
  have hu := unlockIfNeeded_unchanged (h.setQueue dir ((h.queue dir).enqueue e)) dir
  refine ⟨hu.outlook, hu.connected, fun d => ?_⟩
  rw [enqueue, hu.contents, contents_setQueue_enqueue]

/-! ### A callback -/

/-- One round of the loop of `process_send_queue` and of `process_recv_queue`, and the end of
the function if it is the last: whether there is another, and the endpoint. -/
def work (h : Host) (dir : Direction) : Except Stuck (Bool × Host) :=
  match (h.queue dir).entries with
  | [] => .ok (false, h.unlockIfNeeded dir)
  | node :: _ => do
      let r ← h.attempt dir ((h.queue dir).nodes node)
      if goesOn dir r.1 then .ok (true, r.2.setQueue dir (r.2.queue dir).pop)
      else .ok (false, r.2.unlockIfNeeded dir)

/-- The rounds, up to a number of them. -/
def rounds (dir : Direction) : ℕ → Host → Except Stuck Host
  | 0, h => .ok h
  | n + 1, h => do
      let r ← h.work dir
      if r.1 then rounds dir n r.2 else .ok r.2

/-- The rounds are the loop, with the unlock behind it. -/
lemma rounds_eq_drain (nodes : List ℕ) (h : Host) (hnodes : (h.queue dir).entries = nodes) :
    rounds dir (nodes.length + 1) h
      = (drain (goesOn dir) dir nodes h >>= fun g => .ok (g.unlockIfNeeded dir)) := by
  induction nodes generalizing h with
  | nil => simp [rounds, work, hnodes, drain, bind, Except.bind]
  | cons node rest ih =>
      rw [List.length_cons, rounds, work, drain, hnodes]
      cases hattempt : h.attempt dir ((h.queue dir).nodes node) with
      | error err => simp only [hattempt, bind, Except.bind]
      | ok r =>
          cases hgo : goesOn dir r.1 with
          | false => simp [hattempt, hgo, bind, Except.bind]
          | true =>
              simp only [hattempt, hgo, bind, Except.bind, if_true]
              refine ih _ ?_
              have hqueue : r.2.queue dir = h.queue dir := by
                rcases attempt_spec hattempt with ⟨-, hq⟩ | ⟨-, g, c, hq, hg, -⟩
                · exact congrFun hq.queue dir
                · rw [hg]
                  exact congrFun hq.queue dir
              rw [queue_setQueue, MsgQueue.entries_pop, hqueue, hnodes, List.tail_cons]

/-- A callback runs `process_send_queue` or `process_recv_queue`: the two tests, and then the
rounds under the lock. -/
lemma act_process (h : Host) (dir : Direction) :
    h.act (.process dir false) = if h.ep.connected && !(h.queue dir).isEmpty then
      (h.lockIfNeeded dir >>= fun g => rounds dir ((g.queue dir).entries.length + 1) g)
      else .ok h := by
  rw [act, processQueue]
  simp only [rounds_eq_drain _ _ rfl]
  cases h.ep.connected <;> cases (h.queue dir).isEmpty <;> rfl

/-- A round takes the head off the queue, or is the last: it finds the queue empty, or its head
could not be carried out. -/
lemma work_spec (own : BufferLoc) {again : Bool} (heq : h.work dir = .ok (again, g)) :
    Aside own dir h g ∧ (again = false →
      (g.queue dir).contents = (h.queue dir).contents
        ∧ ((h.queue dir).contents = [] → ∀ e, Ready g dir e ↔ Ready h dir e)
        ∧ ∀ e, (g.queue dir).contents.head? = some e → ¬ Ready g dir e) := by
  rw [work] at heq
  cases hentries : (h.queue dir).entries with
  | nil =>
      rw [hentries] at heq
      obtain ⟨rfl, rfl⟩ : false = again ∧ _ = g := by simpa using heq
      have hu := unlockIfNeeded_unchanged h dir
      refine ⟨hu.aside dir, fun _ => ⟨hu.contents dir, fun _ _ => ready_congr hu.outlook, ?_⟩⟩
      rw [hu.contents, MsgQueue.contents, hentries]
      exact fun e he => absurd he (by simp)
  | cons node rest =>
      simp only [hentries] at heq
      obtain ⟨⟨err, h₁⟩, hattempt, heq⟩ := bind_eq_ok heq
      obtain ⟨haside, hblocked⟩ := attempt_aside own hattempt
      split at heq
      case isTrue =>
          obtain ⟨rfl, rfl⟩ : true = again ∧ _ = g := by simpa using heq
          exact ⟨haside.trans (aside_setQueue h₁ dir _), fun h => absurd h (by simp)⟩
      case isFalse hstop =>
          obtain ⟨rfl, rfl⟩ : false = again ∧ _ = g := by simpa using heq
          have hu := unlockIfNeeded_unchanged h₁ dir
          refine ⟨haside.trans (hu.aside dir), fun _ => ?_⟩
          rcases attempt_spec hattempt with ⟨rfl, hq⟩ | ⟨rfl, -⟩
          · have hcontents : ((h₁.unlockIfNeeded dir).queue dir).contents
                = (h.queue dir).contents :=
              (hu.contents dir).trans (congrArg MsgQueue.contents (congrFun hq.queue dir))
            refine ⟨hcontents, fun hempty => ?_, fun e he => ?_⟩
            · exact absurd hempty (by simp [MsgQueue.contents, hentries])
            · rw [hcontents, MsgQueue.contents, hentries, List.map_cons, List.head?_cons] at he
              obtain rfl := Option.some.inj he
              rw [ready_congr hu.outlook]
              exact hblocked rfl
          · exact absurd (goesOn_success dir) hstop

end Host

/-! ### What `connect_msg` changes -/

namespace Site

open Host Effect

variable {s s' : Site} {data : SegmentData}

/-- What a successful `connect_msg` leaves behind, as far as `Ready` sees it: an endpoint without
`FI_SEND` and `FI_RECV` maps nothing. -/
def arrived (data : SegmentData) (h : Host) : Host :=
  if hasAny h.ep.caps (fiRecv ||| fiSend) then
    { h with
      ep := saveRemote ⟨h.ep.peerAddr.nodeId, data.segmentId, data.offset⟩ data.size none h.ep }
  else h

/-- Only handles change. -/
def handles : Frame Site where
  rel := fun s t => Unchanged s.host t.host
  refl := fun _ => ⟨rfl, rfl, fun _ => rfl⟩
  trans := fun _ _ _ h h' => ⟨h'.outlook.trans h.outlook, h'.connected.trans h.connected,
    fun d => (h'.contents d).trans (h.contents d)⟩

lemma lib_handles (c : DpaCall) : Keeps handles (lib c) := by
  intro s a s' h
  obtain ⟨-, rfl⟩ := Prod.mk.inj (run_lib_ok h)
  exact ⟨rfl, rfl, fun _ => rfl⟩

lemma createStartSequence_handles (map : Option Handle) :
    Keeps handles (createStartSequence map) := by
  refine keeps_bind (lib_handles _) fun _ => keeps_ite (keeps_pure _) ?_
  exact keeps_bind (lib_handles _) fun _ => keeps_pure _

lemma connectRemoteInterrupt_handles (needed : Bool) (sd : Option Handle) (id : UInt32)
    {save : Option Handle → Prog Unit} (hsave : ∀ h, Keeps handles (save h)) :
    Keeps handles (connectRemoteInterrupt needed sd id save) := by
  refine keeps_ite ?_ (keeps_bind (hsave none) fun _ => keeps_pure _)
  refine keeps_bind keeps_get fun _ => keeps_bind (lib_handles _) fun _ => ?_
  exact keeps_ite (keeps_pure _) (keeps_bind (hsave _) fun _ => keeps_pure _)

lemma saveSend_handles (h : Option Handle) :
    Keeps handles (setSendInfo fun info => { info with remoteInterrupt := h }) :=
  keeps_modify fun _ => ⟨rfl, rfl, fun _ => rfl⟩

lemma saveRecv_handles (h : Option Handle) :
    Keeps handles (setRecvInfo fun info => { info with remoteInterrupt := h }) :=
  keeps_modify fun _ => ⟨rfl, rfl, fun _ => rfl⟩

lemma eqAdd_handles (eq : Option ℕ) (event : EqEvent) : Keeps handles (eqAdd eq event) := by
  cases eq with
  | none => exact keeps_pure _
  | some q => exact keeps_modify fun _ => ⟨rfl, rfl, fun _ => rfl⟩

/-- The ring of the peer is saved, or nothing but handles has changed. -/
lemma connectSegment_spec {err : DpaError} (hrun : connectSegment data s = .ok (err, s')) :
    s'.host.ep.connected = s.host.ep.connected
      ∧ (∀ d, (s'.host.queue d).contents = (s.host.queue d).contents)
      ∧ (outlook s'.host = outlook (arrived data s.host)
        ∨ err ≠ .ok ∧ outlook s'.host = outlook s.host) := by
  simp only [connectSegment, get_bind] at hrun
  rw [arrived]
  split at hrun
  case isTrue hcaps =>
      obtain ⟨rfl, rfl⟩ := Prod.mk.inj (Except.ok.inj hrun)
      rw [if_neg (by simpa using hcaps)]
      exact ⟨rfl, fun _ => rfl, .inl rfl⟩
  case isFalse hcaps =>
      rw [if_pos (by simpa using hcaps)]
      simp only [lib_bind] at hrun
      split at hrun
      case isTrue herr =>
          obtain ⟨rfl, rfl⟩ := Prod.mk.inj (Except.ok.inj hrun)
          exact ⟨rfl, fun _ => rfl, .inr ⟨herr, rfl⟩⟩
      case isFalse =>
          simp only [setSendInfo_bind, lib_bind] at hrun
          split at hrun
          case isTrue herr =>
              obtain ⟨rfl, rfl⟩ := Prod.mk.inj (Except.ok.inj hrun)
              exact ⟨rfl, fun _ => rfl, .inr ⟨herr, rfl⟩⟩
          case isFalse =>
              rw [setSendInfo_bind] at hrun
              obtain ⟨sequence, s₁, hsequence, hrun⟩ := run_bind_ok hrun
              obtain ⟨rfl, rfl⟩ := Prod.mk.inj (Except.ok.inj hrun)
              have hu : Unchanged _ s₁.host := createStartSequence_handles _ _ _ _ hsequence
              refine ⟨hu.connected, hu.contents, .inl ?_⟩
              have hv := hu.outlook
              simp only [outlook, Prod.mk.injEq] at hv
              obtain ⟨hmem, hstatus, -, -, -, hbuffer, -, hread⟩ := hv
              simp only [outlook, saveRemote, hmem, hstatus, hbuffer, hread]

/-- An endpoint that `connect_msg` leaves connected has saved the ring of the peer, unless it was
connected before. -/
lemma connectMsg_spec {err : DpaError} (hrun : connectMsg data s = .ok (err, s')) :
    (∀ d, (s'.host.queue d).contents = (s.host.queue d).contents)
      ∧ (outlook s'.host = outlook (arrived data s.host)
        ∨ outlook s'.host = outlook s.host ∧ s'.host.ep.connected = s.host.ep.connected) := by
  rw [connectMsg] at hrun
  obtain ⟨err₁, s₁, hsegment, hrun⟩ := run_bind_ok hrun
  obtain ⟨hconnected, hcontents, hview⟩ := connectSegment_spec hsegment
  split at hrun
  case isTrue =>
      obtain ⟨rfl, rfl⟩ := Prod.mk.inj (Except.ok.inj hrun)
      exact ⟨hcontents, hview.imp id fun h => ⟨h.2, hconnected⟩⟩
  case isFalse hok =>
      have hview : outlook s₁.host = outlook (arrived data s.host) :=
        hview.resolve_right fun h => h.1 (not_not.1 hok)
      suffices hu : outlook s'.host = outlook s₁.host
          ∧ ∀ d, (s'.host.queue d).contents = (s₁.host.queue d).contents from
        ⟨fun d => (hu.2 d).trans (hcontents d), .inl (hu.1.trans hview)⟩
      rw [get_bind] at hrun
      obtain ⟨err₂, s₂, hsend, hrun⟩ := run_bind_ok hrun
      have hu₂ : Unchanged s₁.host s₂.host := connectRemoteInterrupt_handles _ _ _
        saveSend_handles _ _ _ hsend
      split at hrun
      case isTrue =>
          obtain ⟨rfl, rfl⟩ := Prod.mk.inj (Except.ok.inj hrun)
          exact ⟨hu₂.outlook, hu₂.contents⟩
      case isFalse =>
          obtain ⟨err₃, s₃, hrecv, hrun⟩ := run_bind_ok hrun
          have hu₃ : Unchanged s₁.host s₃.host := handles.trans _ _ _ hu₂
            (connectRemoteInterrupt_handles _ _ _
            saveRecv_handles _ _ _ hrecv)
          split at hrun
          case isTrue =>
              obtain ⟨rfl, rfl⟩ := Prod.mk.inj (Except.ok.inj hrun)
              exact ⟨hu₃.outlook, hu₃.contents⟩
          case isFalse =>
              obtain ⟨_, s₄, hadd, hrun⟩ := run_bind_ok hrun
              have hu₄ : Unchanged s₁.host s₄.host :=
                handles.trans _ _ _ hu₃ (eqAdd_handles _ _ _ _ _ hadd)
              simp only [setEp_bind] at hrun
              split at hrun
              all_goals
                obtain ⟨rfl, rfl⟩ := Prod.mk.inj (Except.ok.inj hrun)
                exact ⟨hu₄.outlook, hu₄.contents⟩

end Site

/-! ### The actors -/

/-- The endpoint with what is under way around it: the operation of a post between its two
halves, the interrupts raised whose callback has not started, and the callbacks in their
loop. -/
structure Wakeup where
  site : Site
  posting : Direction → Option MsgQueueEntry
  pending : Direction → ℕ
  working : Direction → ℕ

namespace Wakeup

open Host Site

/-- The two halves of a post, the accesses of the peer, the two parts of a callback, and
`connect_msg`, which leaves the endpoint connected or not. -/
inductive Event where
  | attempt (dir : Direction) (e : MsgQueueEntry)
  | enqueue (dir : Direction)
  | peerWrite (ring : ByteMem)
  | peerRead (cursor : UInt64)
  | callback (dir : Direction)
  | work (dir : Direction)
  | connect (data : SegmentData) (connected : Bool)

variable {own : BufferLoc} {w w' w₀ : Wakeup} {dir : Direction}

/-- The start of a callback: it ends where a queue is not worked on. -/
def enter (w : Wakeup) (dir : Direction) : Except Stuck Wakeup :=
  let w := { w with pending := Function.update w.pending dir (w.pending dir - 1) }
  if w.site.host.ep.connected && !(w.site.host.queue dir).isEmpty then
    (w.site.host.lockIfNeeded dir).map fun h =>
      { w with site.host := h, working := Function.update w.working dir (w.working dir + 1) }
  else .ok w

/-- A step; none where the actor has to wait.  The peer writes to the ring of `own` and
publishes its cursor there, and describes a buffer of its own. -/
def step (own : BufferLoc) (w : Wakeup) : Event → Option Wakeup
  | .attempt dir e =>
      if (w.posting dir).isSome then none
      else
        ((w.site.host.beginPost dir e).map fun r =>
          { w with
            site.host := r.2
            posting := Function.update w.posting dir
              (if r.1 = .eagain then some e else none) }).toOption
  | .enqueue dir =>
      (w.posting dir).map fun e =>
        { w with
          site.host := w.site.host.enqueue dir e
          posting := Function.update w.posting dir none }
  | .peerWrite ring =>
      some { w with
             site.host := w.site.host.setRing own ring
             pending := Function.update w.pending .recv (w.pending .recv + 1) }
  | .peerRead cursor =>
      some { w with
             site.host := w.site.host.setStatus own cursor
             pending := Function.update w.pending .send (w.pending .send + 1) }
  | .callback dir => if w.pending dir = 0 then none else (w.enter dir).toOption
  | .work dir =>
      if w.working dir = 0 then none
      else
        ((w.site.host.work dir).map fun r =>
          { w with
            site.host := r.2
            working := Function.update w.working dir
              (if r.1 then w.working dir else w.working dir - 1) }).toOption
  | .connect data connected =>
      if (⟨w.site.host.ep.peerAddr.nodeId, data.segmentId, data.offset⟩ : BufferLoc) = own then none
      else match connectMsg data w.site with
        | .error _ => none
        | .ok (_, s) => if s.host.ep.connected = connected then some { w with site := s } else none

/-- The operation that is next in a direction: the head of the queue, or that of a post to an
empty queue. -/
def next (w : Wakeup) (dir : Direction) : Option MsgQueueEntry :=
  ((w.site.host.queue dir).contents ++ (w.posting dir).toList).head?

/-- No callback is coming. -/
def Quiet (w : Wakeup) (dir : Direction) : Prop := w.pending dir = 0 ∧ w.working dir = 0

/-- The next operation could not be carried out on the endpoint `h`. -/
def Idle (w : Wakeup) (h : Host) (dir : Direction) : Prop :=
  ∀ e, w.next dir = some e → ¬ Ready h dir e

/-- A connected endpoint has a callback coming for an operation that could be carried out. -/
structure Awake (own : BufferLoc) (w : Wakeup) : Prop where
  owner : Owner own w.site.host
  idle : w.site.host.ep.connected = true → ∀ dir, w.Quiet dir → w.Idle w.site.host dir

/-- The last callback that is coming does not end with an empty queue while an operation that
could be carried out is between the two halves of its post. -/
def Caught (w : Wakeup) (dir : Direction) : Prop :=
  w.site.host.ep.connected = true → (w.site.host.queue dir).isEmpty = true →
    w.pending dir + w.working dir = 1 → w.Idle w.site.host dir

/-- The steps that wake an operation up: a callback is not missed, and a connection is made when
the next operation cannot be carried out over it or has a callback coming. -/
def Fine (w : Wakeup) : Event → Prop
  | .callback dir => w.Caught dir
  | .work dir => w.Caught dir
  | .connect data connected =>
      connected = true → ∀ dir, w.Quiet dir → w.Idle (arrived data w.site.host) dir
  | _ => True

/-! ### Every step keeps the endpoint awake -/

/-- A step that works on one direction only has to be looked at there. -/
lemma Awake.aside (hw : Awake own w) (dir : Direction) (ha : Aside own dir w.site.host w'.site.host)
    (hposting : ∀ d, d ≠ dir → w'.posting d = w.posting d)
    (hquiet : ∀ d, d ≠ dir → w'.Quiet d → w.Quiet d)
    (hdir : w'.site.host.ep.connected = true → w'.Quiet dir → w'.Idle w'.site.host dir) :
    Awake own w' where
  owner := ha.owner hw.owner
  idle := by
    intro hconnected d hd
    by_cases hne : d = dir
    · subst hne
      exact hdir hconnected hd
    · intro e he
      rw [next, ha.queued d hne, hposting d hne] at he
      rw [ha.ready hw.owner d hne]
      exact hw.idle (ha.connected.symm.trans hconnected) d (hquiet d hne hd) e he

lemma Awake.attempt (hw : Awake own w) {e : MsgQueueEntry}
    (hstep : step own w (.attempt dir e) = some w') : Awake own w' := by
  rw [step] at hstep
  split at hstep
  case isTrue => exact absurd hstep (by simp)
  case isFalse hnone =>
      obtain ⟨⟨err, h⟩, hbegin, rfl⟩ := Except.map_eq_ok (toOption_eq_some hstep)
      obtain ⟨haside, hcontents, hempty, hqueued⟩ := beginPost_spec own hbegin
      refine hw.aside dir haside (fun d hd => Function.update_of_ne hd _ _) (fun _ _ h => h) ?_
      intro hconnected hquiet e' he'
      replace hconnected : w.site.host.ep.connected = true := haside.connected.symm.trans hconnected
      simp only [next, hcontents, Function.update_self] at he'
      cases hqueue : (w.site.host.queue dir).contents with
      | nil =>
          rw [hqueue] at he'
          split at he'
          case isTrue herr =>
              obtain rfl := Option.some.inj he'
              exact hempty hconnected hqueue herr
          case isFalse => exact absurd he' (by simp)
      | cons head rest =>
          rw [hqueue] at he'
          obtain rfl := Option.some.inj he'
          refine fun hready => hw.idle hconnected dir hquiet head ?_
            (((hqueued (by simp [hqueue])).2 head).1 hready)
          rw [next, hqueue]
          rfl

lemma Awake.enqueue (hw : Awake own w) (hstep : step own w (.enqueue dir) = some w') :
    Awake own w' := by
  obtain ⟨e, hposting, rfl⟩ := Option.map_eq_some_iff.1 hstep
  obtain ⟨hview, hconnected, hcontents⟩ := enqueue_spec w.site.host dir e
  refine ⟨hw.owner.congr hview, fun hc d hd e' he' hready => ?_⟩
  refine hw.idle (hconnected.symm.trans hc) d hd e' ?_ ((ready_congr hview).1 hready)
  simp only [next, hcontents, Host.posting] at he' ⊢
  by_cases hne : d = dir
  · subst hne
    rw [if_pos rfl, Function.update_self, Option.toList_none, List.append_nil] at he'
    rw [hposting]
    exact he'
  · rw [if_neg hne, List.append_nil, Function.update_of_ne hne] at he'
    exact he'

lemma Awake.peerWrite (hw : Awake own w) {ring : ByteMem}
    (hstep : step own w (.peerWrite ring) = some w') : Awake own w' := by
  obtain rfl := Option.some.inj hstep
  refine hw.aside .recv ⟨?_, rfl, ?_, fun _ _ => rfl⟩ (fun _ _ => rfl) ?_ ?_
  · exact fun ho => ⟨ho.1, ho.2, ho.3, ho.4⟩
  · intro ho d hd e
    cases d with
    | recv => exact absurd rfl hd
    | send =>
        simp only [Ready, setRing, ho.status, Option.some.injEq, exists_eq_left',
          Function.update_self]
  · intro d hd hquiet
    exact ⟨(Function.update_of_ne hd _ _).symm.trans hquiet.1, hquiet.2⟩
  · intro _ hquiet
    exact absurd hquiet.1 (by simp)

lemma Awake.peerRead (hw : Awake own w) {cursor : UInt64}
    (hstep : step own w (.peerRead cursor) = some w') : Awake own w' := by
  obtain rfl := Option.some.inj hstep
  refine hw.aside .send ⟨?_, rfl, ?_, fun _ _ => rfl⟩ (fun _ _ => rfl) ?_ ?_
  · exact fun ho => ⟨ho.1, ho.2, ho.3, ho.4⟩
  · intro ho d hd e
    cases d with
    | send => exact absurd rfl hd
    | recv =>
        obtain ⟨size, hbuffer⟩ := ho.buffer
        simp only [Ready, setStatus, hbuffer, Option.some.injEq, exists_eq_left',
          Function.update_self]
  · intro d hd hquiet
    exact ⟨(Function.update_of_ne hd _ _).symm.trans hquiet.1, hquiet.2⟩
  · intro _ hquiet
    exact absurd hquiet.1 (by simp)

lemma Awake.callback (hw : Awake own w) (hfine : w.Caught dir)
    (hstep : step own w (.callback dir) = some w') : Awake own w' := by
  rw [step] at hstep
  split at hstep
  case isTrue => exact absurd hstep (by simp)
  case isFalse hpending =>
      replace hstep := toOption_eq_some hstep
      simp only [enter] at hstep
      have hother (d : Direction) (hd : d ≠ dir) :
          Function.update w.pending dir (w.pending dir - 1) d = w.pending d :=
        Function.update_of_ne hd _ _
      split at hstep
      case isTrue hwork =>
          obtain ⟨h, hlock, rfl⟩ := Except.map_eq_ok hstep
          have hu := lockIfNeeded_unchanged hlock
          refine hw.aside dir (hu.aside dir) (fun _ _ => rfl) (fun d hd hquiet => ?_)
            fun _ hquiet => ?_
          · exact ⟨(hother d hd).symm.trans hquiet.1,
              (Function.update_of_ne hd _ _).symm.trans hquiet.2⟩
          · exact absurd hquiet.2 (by simp)
      case isFalse hend =>
          obtain rfl := Except.ok.inj hstep
          refine hw.aside dir (.refl w.site.host) (fun _ _ => rfl)
            (fun d hd hquiet => ⟨(hother d hd).symm.trans hquiet.1, hquiet.2⟩) fun hc hquiet => ?_
          obtain ⟨hp, hworking⟩ := hquiet
          simp only [Function.update_self] at hp hworking
          have hempty : (w.site.host.queue dir).isEmpty = true := by
            simpa [show w.site.host.ep.connected = true from hc] using hend
          exact hfine hc hempty (by omega)

lemma Awake.work (hw : Awake own w) (hfine : w.Caught dir)
    (hstep : step own w (.work dir) = some w') : Awake own w' := by
  rw [step] at hstep
  split at hstep
  case isTrue => exact absurd hstep (by simp)
  case isFalse hworking =>
      obtain ⟨⟨again, h⟩, hround, rfl⟩ := Except.map_eq_ok (toOption_eq_some hstep)
      obtain ⟨haside, hlast⟩ := work_spec own hround
      refine hw.aside dir haside (fun _ _ => rfl) (fun d hd hquiet => ?_) fun hc hquiet => ?_
      · exact ⟨hquiet.1, (Function.update_of_ne hd _ _).symm.trans hquiet.2⟩
      · obtain ⟨hp, hworking'⟩ := hquiet
        simp only [Function.update_self] at hp hworking'
        split at hworking'
        case isTrue => exact absurd hworking' hworking
        case isFalse hagain =>
            obtain ⟨hcontents, hempty, hblocked⟩ := hlast (by simpa using hagain)
            intro e he
            simp only [next] at he
            cases hqueue : (w.site.host.queue dir).contents with
            | nil =>
                rw [hcontents, hqueue, List.nil_append] at he
                refine fun hready => hfine (haside.connected.symm.trans hc) ?_
                  (by change w.pending dir = 0 at hp; omega) e ?_ ((hempty hqueue e).1 hready)
                · rw [MsgQueue.isEmpty_eq, hqueue]
                  rfl
                · rw [next, hqueue, List.nil_append]
                  exact he
            | cons head rest =>
                refine hblocked e ?_
                rw [hcontents, hqueue] at he ⊢
                exact he

/-- A connection leaves the endpoint with its buffer. -/
lemma owner_arrived {h : Host} {data : SegmentData} (ho : Owner own h)
    (hne : (⟨h.ep.peerAddr.nodeId, data.segmentId, data.offset⟩ : BufferLoc) ≠ own) :
    Owner own (arrived data h) := by
  rw [arrived]
  split
  · refine ⟨ho.status, ho.buffer, ?_, ?_⟩
    · exact fun h => hne (Option.some.inj h)
    · exact fun h => hne (Option.some.inj h)
  · exact ho

lemma Awake.connect (hw : Awake own w) {data : SegmentData} {connected : Bool}
    (hfine : connected = true → ∀ dir, w.Quiet dir → w.Idle (arrived data w.site.host) dir)
    (hstep : step own w (.connect data connected) = some w') : Awake own w' := by
  rw [step] at hstep
  split at hstep
  case isTrue => exact absurd hstep (by simp)
  case isFalse hne =>
      cases hrun : connectMsg data w.site with
      | error err => exact absurd hstep (by simp [hrun])
      | ok r =>
          obtain ⟨err, s⟩ := r
          simp only [hrun] at hstep
          split at hstep
          case isFalse => exact absurd hstep (by simp)
          case isTrue hconnected =>
              obtain rfl := Option.some.inj hstep
              obtain ⟨hcontents, hview⟩ := connectMsg_spec hrun
              have hnext (d : Direction) : Wakeup.next { w with site := s } d = w.next d := by
                rw [next, next, hcontents]
              rcases hview with hview | ⟨hview, hsame⟩
              · refine ⟨(owner_arrived hw.owner hne).congr hview, fun hc d hd e he => ?_⟩
                rw [ready_congr hview]
                exact hfine (hconnected.symm.trans hc) d hd e ((hnext d).symm.trans he)
              · refine ⟨hw.owner.congr hview, fun hc d hd e he => ?_⟩
                rw [ready_congr hview]
                exact hw.idle (hsame.symm.trans hc) d hd e ((hnext d).symm.trans he)

lemma Awake.step (hw : Awake own w) {a : Event} (hfine : w.Fine a)
    (hstep : Wakeup.step own w a = some w') : Awake own w' := by
  cases a with
  | attempt dir e => exact hw.attempt hstep
  | enqueue dir => exact hw.enqueue hstep
  | peerWrite ring => exact hw.peerWrite hstep
  | peerRead cursor => exact hw.peerRead hstep
  | callback dir => exact hw.callback hfine hstep
  | work dir => exact hw.work hfine hstep
  | connect data connected => exact hw.connect hfine hstep

/-! ### No lost wake-up -/

/-- An endpoint with its buffer, before the connection or just after it, between the calls. -/
structure Start (own : BufferLoc) (w : Wakeup) : Prop where
  owner : Owner own w.site.host
  empty : w.site.host.ep.connected = true → ∀ dir, (w.site.host.queue dir).contents = []
  posting : ∀ dir, w.posting dir = none

lemma Start.awake (hs : Start own w) : Awake own w where
  owner := hs.owner
  idle := by
    intro hc dir _ e he
    rw [next, hs.empty hc, hs.posting] at he
    exact absurd he (by simp)

/-- In every run of the actors whose steps are fine: when the endpoint is connected, no callback
is coming in a direction and no post is under way there, then the head of the queue does not fit
in the space that the peer has released, or there is no message at the read position. -/
theorem no_lost_wakeup (hstart : Start own w₀) {events : List Event}
    (hfine : Stepper.Meets (step own) Fine w₀ events)
    (hrun : Stepper.run (step own) w₀ events = some w)
    (hconnected : w.site.host.ep.connected = true) (dir : Direction) (hquiet : w.Quiet dir)
    (hposting : w.posting dir = none) {e : MsgQueueEntry}
    (hhead : (w.site.host.queue dir).contents.head? = some e) : ¬ Ready w.site.host dir e := by
  have hw : Awake own w :=
    Stepper.run_induction (fun _ _ _ h hc hs => h.step hc hs) hstart.awake hfine hrun
  refine hw.idle hconnected dir hquiet e ?_
  rw [next, hposting, Option.toList_none, List.append_nil]
  exact hhead

/-- A callback that comes while no post is under way is not missed. -/
lemma caught_of_posting (hposting : w.posting dir = none) : w.Caught dir := by
  intro _ hempty _ e he
  rw [MsgQueue.isEmpty_eq, List.isEmpty_iff] at hempty
  rw [next, hempty, hposting] at he
  exact absurd he (by simp)

/-- The rounds of a callback leave the posts alone. -/
lemma step_posting {a : Event} (ha : a = .callback dir ∨ a = .work dir)
    (hstep : step own w a = some w') : w'.posting = w.posting := by
  rcases ha with rfl | rfl
  · rw [step] at hstep
    split at hstep
    · exact absurd hstep (by simp)
    · replace hstep := toOption_eq_some hstep
      simp only [enter] at hstep
      split at hstep
      · obtain ⟨h, -, rfl⟩ := Except.map_eq_ok hstep
        rfl
      · obtain rfl := Except.ok.inj hstep
        rfl
  · rw [step] at hstep
    split at hstep
    · exact absurd hstep (by simp)
    · obtain ⟨r, -, rfl⟩ := Except.map_eq_ok (toOption_eq_some hstep)
      rfl

/-- An endpoint at rest, connected or not, that receives in the buffer `own`. -/
def atRest (own : BufferLoc) (connected : Bool) : Wakeup where
  site :=
    let host := Host.established 24 own ⟨2, 0, 0⟩
    Site.granted { host with ep.connected := connected }
  posting := fun _ => none
  pending := fun _ => 0
  working := fun _ => 0

lemma start_atRest (connected : Bool) : Start ⟨1, 0, 0⟩ (atRest ⟨1, 0, 0⟩ connected) where
  owner := ⟨rfl, ⟨_, rfl⟩, by simp [atRest, granted, established],
    by simp [atRest, granted, established]⟩
  empty := fun _ _ => MsgQueue.contents_new _
  posting := fun _ => rfl

/-- A receive of eight bytes. -/
def receive (context : ℕ) : MsgQueueEntry := { buf := fun _ => 0, len := 8, flags := 0, context }

/-- The ring after a message of eight bytes was written to it. -/
def oneMessage : ByteMem := storeWord (fun _ => 0) 0 8

/-- Two receives are posted and a message arrives, which the first of them takes. -/
def twoReceives : List Event :=
  [.attempt .recv (receive 1), .enqueue .recv, .attempt .recv (receive 2), .enqueue .recv,
    .peerWrite oneMessage, .callback .recv, .work .recv, .work .recv]

theorem no_lost_wakeup_twoReceives :
    ∃ w, Stepper.run (step ⟨1, 0, 0⟩) (atRest ⟨1, 0, 0⟩ true) twoReceives = some w
      ∧ ∃ e, (w.site.host.queue .recv).contents.head? = some e ∧ e.context = 2
        ∧ ¬ Ready w.site.host .recv e := by
  have hview : (Stepper.run (step ⟨1, 0, 0⟩) (atRest ⟨1, 0, 0⟩ true) twoReceives).map (fun w =>
      (w.site.host.ep.connected, w.pending .recv, w.working .recv, (w.posting .recv).isNone,
        (w.site.host.queue .recv).contents.head?.map MsgQueueEntry.context))
      = some (true, 0, 0, true, some 2) := by decide +kernel
  obtain ⟨w, hrun, hw⟩ := Option.map_eq_some_iff.1 hview
  simp only [Prod.mk.injEq, Option.isNone_iff_eq_none, Option.map_eq_some_iff] at hw
  obtain ⟨hconnected, hpending, hworking, hposting, e, he, hcontext⟩ := hw
  refine ⟨w, hrun, e, he, hcontext, no_lost_wakeup (start_atRest true) ?_ hrun hconnected .recv
    ⟨hpending, hworking⟩ hposting he⟩
  refine ⟨trivial, fun _ _ => ⟨trivial, fun _ _ => ⟨trivial, fun w₁ _ => ⟨trivial, fun w₂ h₂ =>
    ⟨trivial, fun w₃ h₃ => ?_⟩⟩⟩⟩⟩
  -- the second post is over before the callback
  have hp₃ : w₃.posting .recv = none := by
    obtain ⟨e, -, rfl⟩ := Option.map_eq_some_iff.1 h₂
    obtain rfl := Option.some.inj h₃
    simp
  refine ⟨caught_of_posting hp₃, fun w₄ h₄ => ?_⟩
  have hp₄ : w₄.posting .recv = none := by rw [step_posting (.inl rfl) h₄, hp₃]
  refine ⟨caught_of_posting hp₄, fun w₅ h₅ => ⟨caught_of_posting ?_, fun _ _ => trivial⟩⟩
  rw [step_posting (.inr rfl) h₅, hp₄]

/-- A message arrives between the two halves of a post: its callback finds the queue empty. -/
def missed : List Event :=
  [.attempt .recv (receive 1), .peerWrite oneMessage, .callback .recv, .enqueue .recv]

/-- A message arrives before the connection is made. -/
def early : List Event :=
  [.attempt .recv (receive 1), .enqueue .recv, .peerWrite oneMessage, .callback .recv,
    .connect ⟨2, 0, 0, 0, 32, false, 0, false, 0⟩ true]

/-- The receive stays queued with a message before it, and no callback is coming. -/
theorem wakeup_lost :
    ∃ w, Stepper.run (step ⟨1, 0, 0⟩) (atRest ⟨1, 0, 0⟩ true) missed = some w
      ∧ w.site.host.ep.connected = true ∧ w.Quiet .recv ∧ w.posting .recv = none
      ∧ ∃ e, (w.site.host.queue .recv).contents.head? = some e ∧ Ready w.site.host .recv e := by
  have hview : (Stepper.run (step ⟨1, 0, 0⟩) (atRest ⟨1, 0, 0⟩ true) missed).map (fun w =>
      (w.site.host.ep.connected, w.pending .recv, w.working .recv, (w.posting .recv).isNone,
        (w.site.host.queue .recv).contents.head?.map fun e => decide (Ready w.site.host .recv e)))
      = some (true, 0, 0, true, some true) := by decide +kernel
  obtain ⟨w, hrun, hw⟩ := Option.map_eq_some_iff.1 hview
  simp only [Prod.mk.injEq, Option.isNone_iff_eq_none, Option.map_eq_some_iff,
    decide_eq_true_eq] at hw
  obtain ⟨hconnected, hpending, hworking, hposting, e, he, hready⟩ := hw
  exact ⟨w, hrun, hconnected, ⟨hpending, hworking⟩, hposting, e, he, hready⟩

/-- The same with a message that arrives before the connection is made. -/
theorem wakeup_early :
    ∃ w, Stepper.run (step ⟨1, 0, 0⟩) (atRest ⟨1, 0, 0⟩ false) early = some w
      ∧ w.site.host.ep.connected = true ∧ w.Quiet .recv ∧ w.posting .recv = none
      ∧ ∃ e, (w.site.host.queue .recv).contents.head? = some e ∧ Ready w.site.host .recv e := by
  have hview : (Stepper.run (step ⟨1, 0, 0⟩) (atRest ⟨1, 0, 0⟩ false) early).map (fun w =>
      (w.site.host.ep.connected, w.pending .recv, w.working .recv, (w.posting .recv).isNone,
        (w.site.host.queue .recv).contents.head?.map fun e => decide (Ready w.site.host .recv e)))
      = some (true, 0, 0, true, some true) := by decide +kernel
  obtain ⟨w, hrun, hw⟩ := Option.map_eq_some_iff.1 hview
  simp only [Prod.mk.injEq, Option.isNone_iff_eq_none, Option.map_eq_some_iff,
    decide_eq_true_eq] at hw
  obtain ⟨hconnected, hpending, hworking, hposting, e, he, hready⟩ := hw
  exact ⟨w, hrun, hconnected, ⟨hpending, hworking⟩, hposting, e, he, hready⟩

end Wakeup

end DpaProvider
