import DpaProvider.Msg.Pair

/-!
Two runs of a connected endpoint in lockstep.

The two runs make the same calls, except for the lengths of posted receives.
`Core` is what one endpoint of a run is in between two attempts, and `Blocked` says
when an attempt is retried; it does not depend on posted lengths.  `Alike` relates
the endpoints of the two runs.  As long as the posts are `Fine`, every attempt and so
every call goes the same way in both (`Lockstep.attempt`, `Lockstep.act`).
-/

namespace DpaProvider

open ByteMem

/-- The space that a channel has depends on what was sent and on how much of it was
released. -/
lemma Channel.Inv.hasSpace_congr {S : UInt64} {s t : Channel} (hs : Channel.Inv S s)
    (ht : Channel.Inv S t) (hpcs : s.sendPc = .idle) (hpct : t.sendPc = .idle)
    (hsent : s.sent = t.sent) (hpublished : s.published = t.published) (e : MsgQueueEntry) :
    s.hasSpace S e = t.hasSpace S e := by
  have hread : s.remoteRead = t.remoteRead := by
    rw [← UInt64.toNat_inj, hs.remoteRead, ht.remoteRead, hsent, hpublished]
  have hwrite : s.write = t.write := by
    rw [← UInt64.toNat_inj, hs.write, ht.write, hsent, hpcs, hpct]
  rw [Channel.hasSpace, Channel.hasSpace, hread, hwrite]

namespace Host

variable {cap : BufferLoc → UInt64} {own peer : BufferLoc} {h h' o o' g : Host} {dir : Direction}
  {e e' : MsgQueueEntry} {P P' : Direction → List MsgQueueEntry}
  {M M' : List (List UInt8)}

/-! ### One endpoint in one run -/

/-- An endpoint and its two channels. -/
structure Core (cap : BufferLoc → UInt64) (own peer : BufferLoc) (h o : Host) : Prop where
  wired : Wired cap own peer h
  out : (outFlow own peer h o).Tidy (cap peer)
  into : (inFlow own peer h o).Tidy (cap own)

/-- The posts of an endpoint, against the messages that its peer posts: a frame can
carry what it sends, and its receives cut off zeroes only. -/
structure Fine (P : Direction → List MsgQueueEntry) (M : List (List UInt8)) : Prop where
  sendable : ∀ e ∈ P .send, e.Sendable
  zeroes : ∀ (k : ℕ) (m : List UInt8) (e : MsgQueueEntry), M[k]? = some m →
    (P .recv)[k]? = some e → ∀ b ∈ m.drop e.len.toNat, b = 0

/-- The next operation of a direction is one that the channels can take. -/
def Allowed (h o : Host) (e : MsgQueueEntry) : Direction → Prop
  | .send => e.Sendable
  | .recv => ∀ m, o.sentMsgs[h.received.length]? = some m → ∀ b ∈ m.drop e.len.toNat, b = 0

lemma length_received (h : Host) : h.received.length = (h.done .recv).length := by
  rw [done, List.length_map, received]

/-- The first operation not completed is allowed. -/
lemma Fine.allowed (hf : Fine P M) (hM : o.sentMsgs <+: M) {rest : List MsgQueueEntry}
    (hposts : h.done dir ++ e :: rest = P dir) : Allowed h o e dir := by
  cases dir with
  | send => exact hf.sendable e (hposts ▸ List.mem_append_right _ List.mem_cons_self)
  | recv =>
      intro m hm
      refine hf.zeroes h.received.length m e ?_ ?_
      · obtain ⟨l, rfl⟩ := hM
        obtain ⟨hlt, -⟩ := List.getElem?_eq_some_iff.1 hm
        rw [List.getElem?_append_left hlt]
        exact hm
      · rw [← hposts, length_received, List.getElem?_append_right (Nat.le_refl _), Nat.sub_self]
        rfl

/-- An attempt of the direction asks for a retry: there is no space, or nothing to
receive. -/
def Blocked (cap : BufferLoc → UInt64) (own peer : BufferLoc) (h o : Host)
    (e : MsgQueueEntry) : Direction → Prop
  | .send => (outFlow own peer h o).hasSpace (cap peer) e = false
  | .recv => h.received.length = o.sentMsgs.length

/-- What an attempt with the result `err` has done to an endpoint. -/
structure Tried (h o g : Host) (dir : Direction) (e : MsgQueueEntry) (err : FiErr) : Prop where
  lockNeeded : g.ep.lockNeeded = h.ep.lockNeeded
  queue : g.ep.queue = h.ep.queue
  tried : g.tried = h.tried ++ [(dir, err)]
  completed : err = .eagain ∧ g.completed = h.completed
    ∨ err = .success ∧ ∃ c, g.completed = h.completed ++ [c] ∧ c.dir = dir ∧ c.op = e
      ∧ (dir = .recv → ∃ m, o.sentMsgs[h.received.length]? = some m
        ∧ c.msgSize.toNat = m.length)

/-- The queues, the locks and the history notes do not matter to the channels. -/
lemma Core.congr (hc : Core cap own peer h o) (hconnected : g.ep.connected = h.ep.connected)
    (hsend : g.ep.sendInfo = h.ep.sendInfo) (hrecv : g.ep.recvInfo = h.ep.recvInfo)
    (hmem : g.mem = h.mem) (hcompleted : g.completed = h.completed) : Core cap own peer g o where
  wired := by
    obtain ⟨h₁, h₂, h₃, h₄, h₅, h₆⟩ := hc.wired
    constructor <;> simpa only [hconnected, hsend, hrecv]
  out := by
    rw [outFlow, flow, sentMsgs, done, hsend, hmem, hcompleted]
    exact hc.out
  into := by
    rw [inFlow, flow, received, hrecv, hmem, hcompleted]
    exact hc.into

lemma Core.attempt_send (hS : ∀ loc, RingSize (cap loc)) (hne : own ≠ peer)
    (hc : Core cap own peer h o)
    (hok : Allowed h o e .send) : ∃ err g, h.attempt .send e = .ok (err, g)
      ∧ Core cap own peer g o ∧ Tried h o g .send e err
      ∧ (err = .eagain ↔ Blocked cap own peer h o e .send) := by
  cases hspace : (outFlow own peer h o).hasSpace (cap peer) e with
  | false =>
      have htry := trySend_noSpace hc.wired o hspace
      refine ⟨.eagain, _, Host.attempt_send htry, ?_, ⟨rfl, rfl, rfl, Or.inl ⟨rfl, rfl⟩⟩,
        iff_of_true rfl hspace⟩
      exact hc.congr rfl rfl rfl rfl rfl
  | true =>
      obtain ⟨g, htry, hdid, hout, hinto⟩ := trySend_space hc.wired hne o hspace
      refine ⟨.success, _, Host.attempt_send htry, ?_, ?_,
        iff_of_false (by simp) (by simp [Blocked, hspace])⟩
      · refine Core.congr ⟨hdid.wired, ?_, ?_⟩ rfl rfl rfl rfl rfl
        · rw [hout]
          exact hc.out.wrote (hS peer) rfl hspace hok
        · rw [hinto]
          exact hc.into
      · exact ⟨hdid.steady.lockNeeded, hdid.steady.queue, by rw [hdid.steady.tried],
          Or.inr ⟨rfl, _, hdid.completed, rfl, rfl, by simp⟩⟩

lemma Core.attempt_recv (hS : ∀ loc, RingSize (cap loc)) (hne : own ≠ peer)
    (hc : Core cap own peer h o)
    (hok : Allowed h o e .recv) : ∃ err g, h.attempt .recv e = .ok (err, g)
      ∧ Core cap own peer g o ∧ Tried h o g .recv e err
      ∧ (err = .eagain ↔ Blocked cap own peer h o e .recv) := by
  have hlen : (inFlow own peer h o).completed.length = h.received.length := by
    simp [inFlow, flow]
  have hnothing := hc.into.nothing_to_receive (hS own) rfl hc.into.harmless hc.into.nonEmpty
  rw [hlen] at hnothing
  by_cases hzero : loadWord (inFlow own peer h o).ring
      (dataPtr (inFlow own peer h o).read (cap own)).toNat = 0
  · have htry := tryRecv_nothing (e := e) hc.wired o (by rw [hzero]; exact UInt64.le_refl 0)
    refine ⟨.eagain, _, Host.attempt_recv htry, ?_, ⟨rfl, rfl, rfl, Or.inl ⟨rfl, rfl⟩⟩,
      iff_of_true rfl (hnothing.1 hzero)⟩
    exact hc.congr rfl rfl rfl rfl rfl
  · have hsize : ¬ loadWord (inFlow own peer h o).ring
        (dataPtr (inFlow own peer h o).read (cap own)).toNat ≤ 0 := fun hle => hzero
      (UInt64.toNat_inj.1 (Nat.le_zero.1 (UInt64.le_iff_toNat_le.1 hle)))
    obtain ⟨g, c, htry, hdid, hdir, hop, hmsg, hinto, hout⟩ :=
      tryRecv_message (e := e) hc.wired hne o hsize
    have htaken : (inFlow own peer h o).taken.length = h.received.length := by simp [inFlow, flow]
    refine ⟨.success, _, Host.attempt_recv htry, ?_, ?_,
      iff_of_false (by simp) fun hb => hzero (hnothing.2 hb)⟩
    · refine Core.congr ⟨hdid.wired, by rw [hout]; exact hc.out, ?_⟩ rfl rfl rfl rfl rfl
      rw [hinto]
      refine hc.into.received (hS own) rfl hsize ?_
      rw [Channel.CutsZeroes, htaken]
      exact hok
    · refine ⟨hdid.steady.lockNeeded, hdid.steady.queue, by rw [hdid.steady.tried],
        Or.inr ⟨rfl, c, hdid.completed, hdir, hop, fun _ => ?_⟩⟩
      have hlt : h.received.length < o.sentMsgs.length := by
        have hle := hc.into.layout.rel_le
        rw [htaken] at hle
        exact lt_of_le_of_ne hle fun heq => hzero (hnothing.2 heq)
      have hm : o.sentMsgs[h.received.length]? = some o.sentMsgs[h.received.length] :=
        List.getElem?_eq_getElem hlt
      refine ⟨_, hm, ?_⟩
      rw [hmsg]
      exact hc.into.header_next (hS own) rfl (by rw [hlen]; exact hm)

/-- An attempt of an allowed operation returns; it is retried exactly when it is
blocked. -/
lemma Core.attempt (hS : ∀ loc, RingSize (cap loc)) (hne : own ≠ peer) (hc : Core cap own peer h o)
    (hok : Allowed h o e dir) : ∃ err g, h.attempt dir e = .ok (err, g)
      ∧ Core cap own peer g o ∧ Tried h o g dir e err
      ∧ (err = .eagain ↔ Blocked cap own peer h o e dir) := by
  cases dir with
  | send => exact hc.attempt_send hS hne hok
  | recv => exact hc.attempt_recv hS hne hok

/-! ### One endpoint in two runs -/

/-- The same operation, but for the length of a receive. -/
def AlikeEntry (dir : Direction) (e e' : MsgQueueEntry) : Prop :=
  match dir with
  | .send => e' = e
  | .recv => ∃ len, e' = { e with len }

/-- Two receives that took a message of the same size. -/
structure SameMessage (c c' : Completed) : Prop where
  op : AlikeEntry .recv c.op c'.op
  msgSize : c'.msgSize = c.msgSize

/-- The same endpoint in two runs that differ in the lengths of posted receives. -/
structure Alike (h h' : Host) : Prop where
  lockNeeded : h'.ep.lockNeeded = h.ep.lockNeeded
  locked : ∀ dir, (h'.queue dir).locked = (h.queue dir).locked
  queued : ∀ dir, List.Forall₂ (AlikeEntry dir) (h.queue dir).contents (h'.queue dir).contents
  sent : h'.sentMsgs = h.sentMsgs
  received : List.Forall₂ SameMessage h.received h'.received
  tried : h'.tried = h.tried

lemma Alike.congr {g g' : Host} (ha : Alike h h') (hlock : g.ep.lockNeeded = h.ep.lockNeeded)
    (hlock' : g'.ep.lockNeeded = h'.ep.lockNeeded)
    (hlocked : ∀ dir, (g'.queue dir).locked = (g.queue dir).locked)
    (hqueued : ∀ dir, List.Forall₂ (AlikeEntry dir) (g.queue dir).contents
      (g'.queue dir).contents)
    (hcompleted : g.completed = h.completed) (hcompleted' : g'.completed = h'.completed)
    (htried : g.tried = h.tried) (htried' : g'.tried = h'.tried) : Alike g g' where
  lockNeeded := by rw [hlock, hlock', ha.lockNeeded]
  locked := hlocked
  queued := hqueued
  sent := by
    rw [sentMsgs, sentMsgs, done, done, hcompleted, hcompleted']
    exact ha.sent
  received := by
    rw [Host.received, Host.received, hcompleted, hcompleted']
    exact ha.received
  tried := by rw [htried, htried', ha.tried]

lemma Alike.isEmpty (ha : Alike h h') (dir : Direction) :
    (h'.queue dir).isEmpty = (h.queue dir).isEmpty := by
  rw [MsgQueue.isEmpty_eq, MsgQueue.isEmpty_eq, Bool.eq_iff_iff, List.isEmpty_iff_length_eq_zero,
    List.isEmpty_iff_length_eq_zero, (ha.queued dir).length_eq]

/-- Equal results of attempts keep two endpoints alike. -/
lemma Alike.tried_both (ha : Alike h h') (hsent : o'.sentMsgs = o.sentMsgs) {g' : Host}
    {err : FiErr} (he : AlikeEntry dir e e') (ht : Tried h o g dir e err)
    (ht' : Tried h' o' g' dir e' err) : Alike g g' where
  lockNeeded := by rw [ht.lockNeeded, ht'.lockNeeded, ha.lockNeeded]
  locked := by
    intro d
    rw [Host.queue, Host.queue, ht.queue, ht'.queue]
    exact ha.locked d
  queued := by
    intro d
    rw [Host.queue, Host.queue, ht.queue, ht'.queue]
    exact ha.queued d
  tried := by rw [ht.tried, ht'.tried, ha.tried]
  sent := by
    rcases ht.completed with ⟨herr, hc⟩ | ⟨herr, c, hc, hdir, hop, -⟩
    · rcases ht'.completed with ⟨-, hc'⟩ | ⟨herr', -⟩
      · rw [sentMsgs, sentMsgs, done, done, hc, hc']
        exact ha.sent
      · exact absurd (herr.symm.trans herr') (by simp)
    · rcases ht'.completed with ⟨herr', -⟩ | ⟨-, c', hc', hdir', hop', -⟩
      · exact absurd (herr.symm.trans herr') (by simp)
      · rw [sentMsgs_append hc, sentMsgs_append hc', ha.sent, hdir, hdir', hop, hop']
        cases dir with
        | send => rw [show e' = e from he]
        | recv => rfl
  received := by
    rcases ht.completed with ⟨herr, hc⟩ | ⟨herr, c, hc, hdir, hop, hmsg⟩
    · rcases ht'.completed with ⟨-, hc'⟩ | ⟨herr', -⟩
      · rw [Host.received, Host.received, hc, hc']
        exact ha.received
      · exact absurd (herr.symm.trans herr') (by simp)
    · rcases ht'.completed with ⟨herr', -⟩ | ⟨-, c', hc', hdir', hop', hmsg'⟩
      · exact absurd (herr.symm.trans herr') (by simp)
      · rw [received_append hc, received_append hc', hdir, hdir']
        cases dir with
        | send => simpa using ha.received
        | recv =>
            obtain ⟨m, hm, hsize⟩ := hmsg rfl
            obtain ⟨m', hm', hsize'⟩ := hmsg' rfl
            rw [hsent, ← ha.received.length_eq, hm] at hm'
            obtain rfl : m = m' := Option.some.inj hm'
            refine List.rel_append ha.received (.cons ⟨?_, ?_⟩ .nil)
            · rw [hop, hop']
              exact he
            · exact UInt64.toNat_inj.1 (hsize'.trans hsize.symm)

/-- Two runs of one endpoint `h`, between two attempts; the other endpoint is `o`. -/
structure Lockstep (cap : BufferLoc → UInt64) (own peer : BufferLoc) (o o' h h' : Host) :
    Prop where
  core : Core cap own peer h o
  core' : Core cap own peer h' o'
  alike : Alike h h'
  other : Alike o o'

lemma Lockstep.hasSpace (hl : Lockstep cap own peer o o' h h') (e : MsgQueueEntry) :
    (outFlow own peer h' o').hasSpace (cap peer) e
      = (outFlow own peer h o).hasSpace (cap peer) e := by
  refine Channel.Inv.hasSpace_congr hl.core'.out.toInv hl.core.out.toInv rfl rfl ?_ ?_ e
  · exact hl.alike.sent
  · exact hl.other.received.length_eq.symm

/-- The attempts of alike operations are blocked in both runs or in none. -/
lemma Lockstep.blocked (hl : Lockstep cap own peer o o' h h') (he : AlikeEntry dir e e') :
    Blocked cap own peer h o e dir ↔ Blocked cap own peer h' o' e' dir := by
  cases dir with
  | send =>
      rw [show e' = e from he, Blocked, Blocked, hl.hasSpace]
  | recv => rw [Blocked, Blocked, hl.other.sent, hl.alike.received.length_eq]

/-- Alike operations are attempted with the same result. -/
lemma Lockstep.attempt (hS : ∀ loc, RingSize (cap loc)) (hne : own ≠ peer)
    (hl : Lockstep cap own peer o o' h h') (he : AlikeEntry dir e e') (hok : Allowed h o e dir)
    (hok' : Allowed h' o' e' dir) : ∃ err g g', h.attempt dir e = .ok (err, g)
      ∧ h'.attempt dir e' = .ok (err, g') ∧ Lockstep cap own peer o o' g g'
      ∧ Tried h o g dir e err ∧ Tried h' o' g' dir e' err := by
  obtain ⟨err, g, hg, hcore, htried, hblocked⟩ := hl.core.attempt hS hne hok
  obtain ⟨err', g', hg', hcore', htried', hblocked'⟩ := hl.core'.attempt hS hne hok'
  have herr : err' = err := by
    have hiff : err = .eagain ↔ err' = .eagain :=
      hblocked.trans ((hl.blocked he).trans hblocked'.symm)
    rcases htried.completed with ⟨h₁, -⟩ | ⟨h₁, -⟩ <;>
      rcases htried'.completed with ⟨h₂, -⟩ | ⟨h₂, -⟩ <;> simp [h₁, h₂] at hiff ⊢
  subst herr
  exact ⟨err', g, g', hg, hg', ⟨hcore, hcore', hl.alike.tried_both hl.other.sent he htried htried',
    hl.other⟩, htried, htried'⟩

/-- A queue may be replaced in both runs by queues that are alike. -/
lemma Lockstep.setQueue (hl : Lockstep cap own peer o o' h h') {q q' : MsgQueue}
    (hlocked : q'.locked = q.locked)
    (hqueued : List.Forall₂ (AlikeEntry dir) q.contents q'.contents) :
    Lockstep cap own peer o o' (h.setQueue dir q) (h'.setQueue dir q') where
  core := hl.core.congr rfl rfl rfl rfl rfl
  core' := hl.core'.congr rfl rfl rfl rfl rfl
  other := hl.other
  alike := by
    refine hl.alike.congr rfl rfl (fun d => ?_) (fun d => ?_) rfl rfl rfl rfl
    · by_cases hd : d = dir
      · subst hd
        rw [queue_setQueue, queue_setQueue, hlocked]
      · rw [queue_setQueue_of_ne h hd, queue_setQueue_of_ne h' hd, hl.alike.locked]
    · by_cases hd : d = dir
      · subst hd
        rw [queue_setQueue, queue_setQueue]
        exact hqueued
      · rw [queue_setQueue_of_ne h hd, queue_setQueue_of_ne h' hd]
        exact hl.alike.queued d

lemma Lockstep.lockIfNeeded (hl : Lockstep cap own peer o o' h h')
    (heq : h.lockIfNeeded dir = .ok g) :
    ∃ g', h'.lockIfNeeded dir = .ok g' ∧ Lockstep cap own peer o o' g g' := by
  rw [Host.lockIfNeeded] at heq ⊢
  rw [hl.alike.lockNeeded, hl.alike.locked]
  split at heq
  case isTrue hneeded =>
      rw [if_pos hneeded]
      split at heq
      · exact absurd heq (by simp)
      case isFalse hfree =>
          obtain rfl : _ = g := by simpa using heq
          rw [if_neg hfree]
          exact ⟨_, rfl, hl.setQueue rfl (hl.alike.queued dir)⟩
  case isFalse hneeded =>
      obtain rfl : h = g := by simpa using heq
      rw [if_neg hneeded]
      exact ⟨h', rfl, hl⟩

lemma Lockstep.unlockIfNeeded (hl : Lockstep cap own peer o o' h h') (dir : Direction) :
    Lockstep cap own peer o o' (h.unlockIfNeeded dir) (h'.unlockIfNeeded dir) := by
  rw [Host.unlockIfNeeded, Host.unlockIfNeeded, hl.alike.lockNeeded]
  split
  · exact hl.setQueue rfl (hl.alike.queued dir)
  · exact hl

lemma Lockstep.enqueue (hl : Lockstep cap own peer o o' h h') (he : AlikeEntry dir e e') :
    Lockstep cap own peer o o' (h.enqueue dir e) (h'.enqueue dir e') := by
  refine Lockstep.unlockIfNeeded (hl.setQueue ?_ ?_) dir
  · exact hl.alike.locked dir
  · rw [MsgQueue.contents_enqueue, MsgQueue.contents_enqueue]
    exact List.rel_append (hl.alike.queued dir) (.cons he .nil)

/-! ### The calls in two runs -/

lemma Tried.done (ht : Tried h o g dir e .success) : g.done dir = h.done dir ++ [e] := by
  rcases ht.completed with ⟨herr, -⟩ | ⟨-, c, hc, hdir, hop, -⟩
  · exact absurd herr (by simp)
  · rw [Host.done, Host.done, hc, List.filter_append, List.map_append]
    simp [hdir, hop]

lemma Tried.err_eq {err : FiErr} (ht : Tried h o g dir e err) : err = .eagain ∨ err = .success :=
  ht.completed.imp And.left And.left

/-- The loop over a queue goes equally far in both runs. -/
lemma Lockstep.drain (hS : ∀ loc, RingSize (cap loc)) (hne : own ≠ peer) {test : FiErr → Bool}
    (hsuccess : test .success = true) (heagain : test .eagain = false) (hf : Fine P M)
    (hf' : Fine P' M') (hM : o.sentMsgs <+: M) (hM' : o'.sentMsgs <+: M') {nodes nodes' : List ℕ}
    (hl : Lockstep cap own peer o o' h h')
    (hposts : h.done dir ++ (h.queue dir).contents = P dir)
    (hposts' : h'.done dir ++ (h'.queue dir).contents = P' dir)
    (hnodes : (h.queue dir).entries = nodes) (hnodes' : (h'.queue dir).entries = nodes') :
    ∃ g g', Host.drain test dir nodes h = .ok g ∧ Host.drain test dir nodes' h' = .ok g'
      ∧ Lockstep cap own peer o o' g g' := by
  induction nodes generalizing h h' nodes' with
  | nil =>
      have hlen := (hl.alike.queued dir).length_eq
      rw [MsgQueue.contents, MsgQueue.contents, List.length_map, List.length_map, hnodes,
        hnodes', List.length_nil] at hlen
      obtain rfl : nodes' = [] := List.eq_nil_of_length_eq_zero hlen.symm
      exact ⟨h, h', rfl, rfl, hl⟩
  | cons node rest ih =>
      have hqueued := hl.alike.queued dir
      rw [MsgQueue.contents, MsgQueue.contents, hnodes, hnodes', List.map_cons] at hqueued
      cases nodes' with
      | nil => exact absurd hqueued (by simp)
      | cons node' rest' =>
          rw [List.map_cons, List.forall₂_cons] at hqueued
          obtain ⟨he, hrest⟩ := hqueued
          rw [MsgQueue.contents, hnodes, List.map_cons] at hposts
          rw [MsgQueue.contents, hnodes', List.map_cons] at hposts'
          obtain ⟨err, g, g', hg, hg', hlg, ht, ht'⟩ :=
            hl.attempt hS hne he (hf.allowed hM hposts) (hf'.allowed hM' hposts')
          simp only [Host.drain, hg, hg', bind, Except.bind]
          rcases ht.err_eq with rfl | rfl
          · rw [if_neg (by simp [heagain]), if_neg (by simp [heagain])]
            exact ⟨g, g', rfl, rfl, hlg⟩
          · rw [if_pos hsuccess, if_pos hsuccess]
            have hq : g.queue dir = h.queue dir := congrFun ht.queue dir
            have hq' : g'.queue dir = h'.queue dir := congrFun ht'.queue dir
            refine ih (hlg.setQueue ?_ ?_) ?_ ?_ ?_ ?_
            · exact hlg.alike.locked dir
            · rw [hq, hq', MsgQueue.contents_pop, MsgQueue.contents_pop, MsgQueue.contents,
                MsgQueue.contents, hnodes, hnodes']
              exact hrest
            · rw [queue_setQueue, MsgQueue.contents_pop, hq, MsgQueue.contents, hnodes]
              rw [show (g.setQueue dir (h.queue dir).pop).done dir = g.done dir from rfl, ht.done,
                ← hposts, List.append_assoc]
              rfl
            · rw [queue_setQueue, MsgQueue.contents_pop, hq', MsgQueue.contents, hnodes']
              rw [show (g'.setQueue dir (h'.queue dir).pop).done dir = g'.done dir from rfl,
                ht'.done, ← hposts', List.append_assoc]
              rfl
            · rw [queue_setQueue, MsgQueue.entries_pop, hq, hnodes, List.tail_cons]
            · rw [queue_setQueue, MsgQueue.entries_pop, hq', hnodes', List.tail_cons]

lemma Agree.order (ha : Agree h g) (dir : Direction) :
    g.done dir ++ (g.queue dir).contents = h.done dir ++ (h.queue dir).contents := by
  rw [Host.done, Host.done, ha.completed, ha.contents]

lemma Lockstep.post (hS : ∀ loc, RingSize (cap loc)) (hne : own ≠ peer) {mayTry : Bool}
    (hf : Fine P M) (hf' : Fine P' M') (hM : o.sentMsgs <+: M) (hM' : o'.sentMsgs <+: M')
    (hl : Lockstep cap own peer o o' h h') (he : AlikeEntry dir e e')
    (hposts : h.done dir ++ (h.queue dir).contents ++ [e] = P dir)
    (hposts' : h'.done dir ++ (h'.queue dir).contents ++ [e'] = P' dir)
    (heq : h.post dir mayTry e = .ok g) :
    ∃ g', h'.post dir mayTry e' = .ok g' ∧ Lockstep cap own peer o o' g g' := by
  rw [Host.post] at heq
  obtain ⟨h₁, hlock, heq⟩ := bind_eq_ok heq
  obtain ⟨h₁', hlock', hl₁⟩ := hl.lockIfNeeded hlock
  obtain ⟨⟨err, h₂⟩, hattempt, heq⟩ := bind_eq_ok heq
  have hempty := hl₁.alike.isEmpty dir
  simp only [Host.post, hlock', firstAttempt, hempty, bind, Except.bind]
  rw [firstAttempt] at hattempt
  split at hattempt
  case isTrue htry =>
      rw [if_pos htry]
      rw [Bool.and_eq_true, MsgQueue.isEmpty_eq, List.isEmpty_iff] at htry
      have hnone' : (h₁'.queue dir).contents = [] := by
        rwa [MsgQueue.isEmpty_eq, MsgQueue.isEmpty_eq, htry.1, List.isEmpty_nil,
          List.isEmpty_iff] at hempty
      rw [← (lockIfNeeded_agree hlock).order, htry.1, List.append_nil] at hposts
      rw [← (lockIfNeeded_agree hlock').order, hnone', List.append_nil] at hposts'
      obtain ⟨err', g₁, g₁', hg, hg', hlg, ht, -⟩ := hl₁.attempt hS hne he (hf.allowed hM hposts)
        (hf'.allowed hM' hposts')
      obtain ⟨rfl, rfl⟩ : err' = err ∧ g₁ = h₂ := by simpa [hg] using hattempt
      rw [hg']
      rcases ht.err_eq with rfl | rfl
      · obtain rfl : g₁.enqueue dir e = g := by simpa using heq
        exact ⟨_, rfl, hlg.enqueue he⟩
      · obtain rfl : g₁ = g := by simpa using heq
        exact ⟨_, rfl, hlg⟩
  case isFalse hwait =>
      rw [if_neg hwait]
      obtain ⟨rfl, rfl⟩ : FiErr.eagain = err ∧ h₁ = h₂ := by simpa using hattempt
      obtain rfl : h₁.enqueue dir e = g := by simpa using heq
      exact ⟨_, rfl, hl₁.enqueue he⟩

lemma Lockstep.processQueue (hS : ∀ loc, RingSize (cap loc)) (hne : own ≠ peer)
    {test : FiErr → Bool} (hsuccess : test .success = true) (heagain : test .eagain = false)
    {locked : Bool} (hf : Fine P M) (hf' : Fine P' M') (hM : o.sentMsgs <+: M)
    (hM' : o'.sentMsgs <+: M') (hl : Lockstep cap own peer o o' h h')
    (hposts : h.done dir ++ (h.queue dir).contents = P dir)
    (hposts' : h'.done dir ++ (h'.queue dir).contents = P' dir)
    (heq : h.processQueue test dir locked = .ok g) :
    ∃ g', h'.processQueue test dir locked = .ok g' ∧ Lockstep cap own peer o o' g g' := by
  rw [Host.processQueue] at heq ⊢
  rw [hl.core.wired.connected] at heq
  rw [hl.core'.wired.connected]
  rw [hl.alike.isEmpty]
  simp only [Bool.not_true, Bool.false_eq_true, if_false] at heq ⊢
  split at heq
  case isTrue hskip =>
      obtain rfl : h = g := by simpa using heq
      rw [if_pos hskip]
      exact ⟨h', rfl, hl⟩
  case isFalse hgo =>
      rw [if_neg hgo]
      obtain ⟨h₁, hlock, heq⟩ := bind_eq_ok heq
      obtain ⟨h₂, hdrain, heq⟩ := bind_eq_ok heq
      obtain rfl : h₂.unlockIfNeeded dir = g := by simpa using heq
      obtain ⟨h₁', hlock', hl₁, ha, ha'⟩ : ∃ h₁', h'.lockUnless locked dir = .ok h₁'
          ∧ Lockstep cap own peer o o' h₁ h₁' ∧ Agree h h₁ ∧ Agree h' h₁' := by
        rw [lockUnless] at hlock ⊢
        split at hlock
        case isTrue hlocked =>
            obtain rfl : h = h₁ := by simpa using hlock
            rw [if_pos hlocked]
            exact ⟨h', rfl, hl, (Quiet.refl h).agree, (Quiet.refl h').agree⟩
        case isFalse hlocked =>
            obtain ⟨h₁', hlock', hl₁⟩ := hl.lockIfNeeded hlock
            rw [if_neg hlocked]
            exact ⟨h₁', hlock', hl₁, lockIfNeeded_agree hlock, lockIfNeeded_agree hlock'⟩
      obtain ⟨g₁, g₁', hg, hg', hlg⟩ := hl₁.drain hS hne hsuccess heagain hf hf' hM hM'
        ((ha.order dir).trans hposts) ((ha'.order dir).trans hposts') rfl rfl
      obtain rfl : g₁ = h₂ := by simpa [hg] using hdrain
      simp only [hlock', hg', bind, Except.bind]
      exact ⟨_, rfl, hlg.unlockIfNeeded dir⟩

/-- The same action, but for the length of a posted receive. -/
inductive Action.Alike : Action → Action → Prop where
  | post {dir : Direction} {e e' : MsgQueueEntry} (he : AlikeEntry dir e e') :
      Alike (.post dir e) (.post dir e')
  | process (dir : Direction) (locked : Bool) : Alike (.process dir locked) (.process dir locked)
  | reject : Alike .reject .reject

/-- An action goes the same way in both runs. -/
lemma Lockstep.act (hS : ∀ loc, RingSize (cap loc)) (hne : own ≠ peer) {a a' : Action}
    (haa : a.Alike a') (hf : Fine (fun d => P d ++ a.posted d) M)
    (hf' : Fine (fun d => P' d ++ a'.posted d) M') (hM : o.sentMsgs <+: M)
    (hM' : o'.sentMsgs <+: M') (hl : Lockstep cap own peer o o' h h')
    (hposts : ∀ d, h.done d ++ (h.queue d).contents = P d)
    (hposts' : ∀ d, h'.done d ++ (h'.queue d).contents = P' d) (heq : h.act a = .ok g) :
    ∃ g', h'.act a' = .ok g' ∧ Lockstep cap own peer o o' g g' := by
  cases haa with
  | @post dir e e' he =>
      have hmay : h'.mayTry dir = h.mayTry dir := by
        cases dir with
        | send => rfl
        | recv => exact hl.core'.wired.connected.trans hl.core.wired.connected.symm
      rw [Host.act] at heq ⊢
      rw [hmay]
      refine hl.post hS hne hf hf' hM hM' he ?_ ?_ heq
      · rw [hposts dir, Action.posted, posting, if_pos rfl]
      · rw [hposts' dir, Action.posted, posting, if_pos rfl]
  | process dir locked =>
      simp only [Action.posted, List.append_nil] at hf hf'
      exact hl.processQueue hS hne (goesOn_success dir) (goesOn_eagain dir) hf hf' hM hM'
        (hposts dir) (hposts' dir) heq
  | reject =>
      obtain rfl : h = g := by simpa [Host.act] using heq
      exact ⟨h', rfl, hl⟩

end Host

end DpaProvider
