import DpaProvider.Msg.Limit
import DpaProvider.Msg.Transport

/-!
How soon a message is received.

A call that processes a queue leaves it empty, or waiting for the peer: a send queue for a message
that has not been received, a receive queue for the next message (`Core.processed`).  So two rounds
in which every queue is processed take one more message to its receive (`twoRounds`).  `delivered`
says this of applications that do nothing but read their completion queues, and that no call keeps
them from it if locks are not needed.
-/

namespace DpaProvider

namespace Host

variable {cap : BufferLoc → UInt64} {own peer : BufferLoc} {h o g : Host} {dir : Direction}
  {e : MsgQueueEntry} {P : Direction → List MsgQueueEntry} {M : List (List UInt8)}

/-! ### What a queue waits for -/

/-- What a queue that is not empty waits for. -/
def Waits (h o : Host) : Direction → Prop
  | .send => o.received.length < h.sentMsgs.length
  | .recv => h.received.length = o.sentMsgs.length

/-- The frame of a message of this length is not longer than the ring. -/
def HasRoom (S : UInt64) (e : MsgQueueEntry) : Prop := e.len.toNat + 8 ≤ S.toNat

/-- A ring without messages has space for a frame. -/
lemma Core.hasSpace (hS : RingSize (cap peer)) (hc : Core cap own peer h o)
    (hroom : HasRoom (cap peer) e) (hall : o.received.length = h.sentMsgs.length) :
    (outFlow own peer h o).hasSpace (cap peer) e = true := by
  have hread : (outFlow own peer h o).remoteRead = (outFlow own peer h o).write := by
    rw [← UInt64.toNat_inj, hc.out.remoteRead, hc.out.write]
    exact congrArg (fun n => framePos h.sentMsgs n % (2 * (cap peer).toNat)) hall
  have hfits := hS.fits
  rw [Channel.hasSpace, hread, remoteSpace_drained, Bool.not_eq_true', decide_eq_false_iff_not,
    UInt64.not_lt, UInt64.le_iff_toNat_le, UInt64.toNat_add]
  rw [HasRoom] at hroom
  have hword : bufferWord.toNat = 8 := rfl
  omega

/-- An operation that is blocked waits for the peer. -/
lemma Core.waits (hS : RingSize (cap peer)) (hc : Core cap own peer h o)
    (hroom : dir = .send → HasRoom (cap peer) e) (hb : Blocked cap own peer h o e dir) :
    Waits h o dir := by
  cases dir with
  | send =>
      have hle : o.received.length ≤ h.sentMsgs.length := by
        have hpublished := hc.out.published_le
        have hrel := hc.out.layout.rel_le
        simp only [outFlow, flow, List.length_map] at hpublished hrel
        exact hrel
      refine lt_of_le_of_ne hle fun hall => ?_
      rw [Blocked, hc.hasSpace hS (hroom rfl) hall] at hb
      exact Bool.noConfusion hb
  | recv => exact hb

lemma Core.setQueue (hc : Core cap own peer h o) (dir : Direction) (q : MsgQueue) :
    Core cap own peer (h.setQueue dir q) o := hc.congr rfl rfl rfl rfl rfl

lemma Waits.congr (hw : Waits h o dir) (hcompleted : g.completed = h.completed) :
    Waits g o dir := by
  cases dir with
  | send => rwa [Waits, sentMsgs, done, hcompleted]
  | recv => rwa [Waits, received, hcompleted]

/-- The loop over a queue ends with an empty queue, or with an operation that waits. -/
lemma Core.drain (hS : ∀ loc, RingSize (cap loc)) (hne : own ≠ peer) (hf : Fine P M)
    (hM : o.sentMsgs <+: M) (hroom : ∀ e ∈ P .send, HasRoom (cap peer) e) {nodes : List ℕ}
    (hc : Core cap own peer h o) (hposts : h.done dir ++ (h.queue dir).contents = P dir)
    (hnodes : (h.queue dir).entries = nodes)
    (heq : Host.drain (goesOn dir) dir nodes h = .ok g) :
    (g.queue dir).contents = [] ∨ Waits g o dir := by
  induction nodes generalizing h with
  | nil =>
      obtain rfl : h = g := by simpa [Host.drain] using heq
      exact .inl (by rw [MsgQueue.contents, hnodes, List.map_nil])
  | cons node rest ih =>
      rw [MsgQueue.contents, hnodes, List.map_cons] at hposts
      obtain ⟨err, h₁, hattempt, hc₁, ht, hblocked⟩ := hc.attempt hS hne (hf.allowed hM hposts)
      simp only [Host.drain, hattempt, bind, Except.bind] at heq
      rcases ht.completed with ⟨rfl, hsame⟩ | ⟨rfl, -⟩
      · rw [if_neg (by simp [goesOn_eagain])] at heq
        obtain rfl : h₁ = g := by simpa using heq
        refine .inr (Waits.congr (hc.waits (hS peer) (fun hdir => ?_) (hblocked.1 rfl)) hsame)
        subst hdir
        exact hroom _ (hposts ▸ List.mem_append_right _ List.mem_cons_self)
      · rw [if_pos (goesOn_success dir)] at heq
        have hqueue : h₁.queue dir = h.queue dir := congrFun ht.queue dir
        refine ih (hc₁.setQueue dir _) ?_ ?_ heq
        · rw [queue_setQueue, MsgQueue.contents_pop, hqueue, MsgQueue.contents, hnodes,
            show (h₁.setQueue dir (h.queue dir).pop).done dir = h₁.done dir from rfl, ht.done,
            ← hposts, List.append_assoc]
          rfl
        · rw [queue_setQueue, MsgQueue.entries_pop, hqueue, hnodes, List.tail_cons]

/-- A call that processes a queue leaves it empty or waiting. -/
lemma Core.processed (hS : ∀ loc, RingSize (cap loc)) (hne : own ≠ peer) (hf : Fine P M)
    (hM : o.sentMsgs <+: M) (hroom : ∀ e ∈ P .send, HasRoom (cap peer) e)
    (hc : Core cap own peer h o) (hposts : ∀ d, h.done d ++ (h.queue d).contents = P d)
    {locked : Bool} (heq : h.act (.process dir locked) = .ok g) :
    (g.queue dir).contents = [] ∨ Waits g o dir := by
  rw [Host.act, Host.processQueue, hc.wired.connected] at heq
  simp only [Bool.not_true, Bool.false_eq_true, if_false] at heq
  split at heq
  case isTrue hskip =>
      obtain rfl : h = g := by simpa using heq
      rw [Bool.and_eq_true, MsgQueue.isEmpty_eq, List.isEmpty_iff] at hskip
      exact .inl hskip.2
  case isFalse =>
      obtain ⟨h₁, hlock, heq⟩ := bind_eq_ok heq
      obtain ⟨h₂, hdrain, heq⟩ := bind_eq_ok heq
      obtain rfl : h₂.unlockIfNeeded dir = g := by simpa using heq
      have hlocked : Agree h h₁ ∧ Core cap own peer h₁ o := by
        rw [lockUnless] at hlock
        split at hlock
        case isTrue =>
            obtain rfl : h = h₁ := by simpa using hlock
            exact ⟨(Quiet.refl h).agree, hc⟩
        case isFalse =>
            exact ⟨lockIfNeeded_agree hlock, lockIfNeeded_keeps (P := (Core cap own peer · o))
              (fun _ d q hk => hk.setQueue d q) hc hlock⟩
      obtain ⟨hagree, hc₁⟩ := hlocked
      have hunlock := unlockIfNeeded_agree h₂ dir
      have hend := hc₁.drain hS hne hf hM hroom ((hagree.order dir).trans (hposts dir)) rfl hdrain
      rw [hunlock.contents]
      exact hend.imp_right fun hw => hw.congr hunlock.completed

/-- Completions are never taken back. -/
lemma act_completed {a : Action} (heq : h.act a = .ok g) : h.completed <+: g.completed := by
  refine act_keeps (P := (h.completed <+: ·.completed)) (fun _ _ _ hk => hk)
    (fun k d e r hk hr => ?_) (List.prefix_refl _) heq
  obtain ⟨err, k'⟩ := r
  rcases attempt_spec hr with ⟨-, hquiet⟩ | ⟨-, k₁, c, hquiet, rfl, -⟩
  · exact hk.trans (by rw [hquiet.completed])
  · exact hk.trans (hquiet.completed ▸ List.prefix_append _ _)

end Host

/-! ### Calls without locks -/

namespace Host

variable {h g : Host} {dir : Direction}

/-- No locks are needed, and none is held. -/
structure Unlocked (h : Host) : Prop where
  lockNeeded : h.ep.lockNeeded = false
  free : ∀ d, (h.queue d).locked = false

namespace Unlocked

lemma setQueue (hu : Unlocked h) {q : MsgQueue} (hq : q.locked = false) :
    Unlocked (h.setQueue dir q) where
  lockNeeded := hu.lockNeeded
  free d := by
    by_cases hd : d = dir
    · rw [hd, queue_setQueue, hq]
    · rw [queue_setQueue_of_ne h hd, hu.free]

lemma lockIfNeeded (hu : Unlocked h) (dir : Direction) : h.lockIfNeeded dir = .ok h := by
  rw [Host.lockIfNeeded, hu.lockNeeded]
  rfl

lemma unlockIfNeeded (hu : Unlocked h) (dir : Direction) : h.unlockIfNeeded dir = h := by
  rw [Host.unlockIfNeeded, hu.lockNeeded]
  rfl

lemma attempt (hu : Unlocked h) {e : MsgQueueEntry} {r : FiErr × Host}
    (heq : h.attempt dir e = .ok r) : Unlocked r.2 := by
  by_cases hreach : h.Reaches e dir
  · rcases attempt_reaches hreach with ⟨-, g, hg, hsame⟩ | ⟨-, g, hg, hsame, -⟩ <;>
    · obtain rfl : _ = r := by simpa [hg] using heq
      exact ⟨hsame.lockNeeded.trans hu.lockNeeded, fun d => (hsame.locked d).trans (hu.free d)⟩
  · exact absurd ((attempt_dangles hreach).symm.trans heq) (by simp)

lemma enqueue (hu : Unlocked h) (dir : Direction) (e : MsgQueueEntry) :
    Unlocked (h.enqueue dir e) := by
  have hput : Unlocked (h.setQueue dir ((h.queue dir).enqueue e)) := hu.setQueue (hu.free dir)
  rwa [Host.enqueue, hput.unlockIfNeeded]

lemma drain (hu : Unlocked h) {done : FiErr → Bool} {nodes : List ℕ}
    (heq : Host.drain done dir nodes h = .ok g) : Unlocked g := by
  induction nodes generalizing h with
  | nil =>
      obtain rfl : h = g := by simpa [Host.drain] using heq
      exact hu
  | cons node rest ih =>
      rw [Host.drain] at heq
      obtain ⟨r, hr, heq⟩ := bind_eq_ok heq
      have hu' := hu.attempt hr
      split at heq
      · exact ih (hu'.setQueue (q := (r.2.queue dir).pop) (hu'.free dir)) heq
      · obtain rfl : r.2 = g := by simpa using heq
        exact hu'

lemma post (hu : Unlocked h) {mayTry : Bool} {e : MsgQueueEntry}
    (heq : h.post dir mayTry e = .ok g) : Unlocked g := by
  rw [Host.post] at heq
  obtain ⟨h₁, hlock, heq⟩ := bind_eq_ok heq
  obtain rfl : h = h₁ := by simpa [hu.lockIfNeeded] using hlock
  obtain ⟨r, hfirst, heq⟩ := bind_eq_ok heq
  have hu' : Unlocked r.2 := by
    rw [firstAttempt] at hfirst
    split at hfirst
    · exact hu.attempt hfirst
    · obtain rfl : _ = r := by simpa using hfirst
      exact hu
  split at heq
  · obtain rfl : r.2.enqueue dir e = g := by simpa using heq
    exact hu'.enqueue dir e
  · obtain rfl : r.2 = g := by simpa using heq
    exact hu'

lemma processQueue (hu : Unlocked h) {done : FiErr → Bool} {locked : Bool}
    (heq : h.processQueue done dir locked = .ok g) : Unlocked g := by
  rw [Host.processQueue, hu.unlockIfNeeded, ite_self] at heq
  split at heq
  · obtain rfl : h = g := by simpa using heq
    exact hu
  · split at heq
    · obtain rfl : h = g := by simpa using heq
      exact hu
    · obtain ⟨h₁, hlock, heq⟩ := bind_eq_ok heq
      obtain rfl : h = h₁ := by simpa [lockUnless, hu.lockIfNeeded] using hlock
      obtain ⟨h₂, hdrain, heq⟩ := bind_eq_ok heq
      obtain rfl : h₂.unlockIfNeeded dir = g := by simpa using heq
      have hu' := hu.drain hdrain
      rwa [hu'.unlockIfNeeded]

lemma act (hu : Unlocked h) {a : Action} (heq : h.act a = .ok g) : Unlocked g := by
  cases a with
  | post dir e => exact hu.post heq
  | process dir locked => exact hu.processQueue heq
  | reject =>
      obtain rfl : h = g := by simpa [Host.act] using heq
      exact hu

end Unlocked

lemma Wired.linked {cap : BufferLoc → UInt64} {own peer : BufferLoc} (hw : Wired cap own peer h) :
    Linked h where
  status := by rw [hw.status]; rfl
  remoteBuffer := by rw [hw.remoteBuffer]; rfl
  buffer := by rw [hw.buffer]; rfl
  remoteStatus := by rw [hw.remoteStatus]; rfl

end Host

/-! ### Rounds -/

namespace Pair

open Host

variable {cap : BufferLoc → UInt64} {loc : Bool → BufferLoc} {p₀ p q r : Pair} {side : Bool}
  {dir : Direction} {done calls all : List (Bool × Call)}

/-- Neither side has fewer messages sent or received. -/
def Grown (p q : Pair) : Prop :=
  ∀ side, (p.host side).sentMsgs.length ≤ (q.host side).sentMsgs.length
    ∧ (p.host side).received.length ≤ (q.host side).received.length

lemma Grown.refl (p : Pair) : Grown p p := fun _ => ⟨le_rfl, le_rfl⟩

lemma Grown.trans (h : Grown p q) (h' : Grown q r) : Grown p r := fun side =>
  ⟨(h side).1.trans (h' side).1, (h side).2.trans (h' side).2⟩

lemma call_grown {c : Bool × Call} (heq : p.call c = some q) : Grown p q := by
  obtain ⟨h, hcall, rfl⟩ := Option.map_eq_some_iff.1 heq
  rw [call_eq_act] at hcall
  have hcompleted : (p.focus c.1).completed <+: h.completed :=
    act_completed (toOption_eq_some hcall)
  intro side
  by_cases hside : side = c.1
  · subst hside
    simp only [Function.update_self]
    exact ⟨((hcompleted.filter _).map _ |>.map _).length_le, (hcompleted.filter _).length_le⟩
  · simp only [Function.update_of_ne hside, le_refl, and_self]

lemma run_grown (hrun : Stepper.run call p calls = some q) : Grown p q :=
  Stepper.run_invariant (fun _ _ _ h heq => h.trans (call_grown heq)) (Grown.refl p) hrun

/-- The call processes a queue. -/
def Turn (side : Bool) (dir : Direction) (c : Bool × Call) : Prop :=
  c.1 = side ∧ ∃ locked, c.2.action = .process dir locked

/-- Every queue of both sides is processed. -/
def Round (calls : List (Bool × Call)) : Prop := ∀ side dir, ∃ c ∈ calls, Turn side dir c

/-- Two endpoints just connected, over separate rings, and calls that are fine for them. -/
structure Setting (cap : BufferLoc → UInt64) (loc : Bool → BufferLoc) (p₀ : Pair)
    (all : List (Bool × Call)) : Prop where
  size : ∀ l, RingSize (cap l)
  apart : ∀ side, loc side ≠ loc !side
  start : p₀.Start cap loc
  fine : p₀.Fine all
  room : ∀ side, ∀ e ∈ p₀.posts side all .send, HasRoom (cap (loc !side)) e

namespace Setting

lemma reached (hs : Setting cap loc p₀ all) (hle : done <+: all)
    (hrun : Stepper.run call p₀ done = some p) : Reached cap loc p₀ done p :=
  Pair.reached hs.size hs.apart hs.start hs.fine hle hrun

/-- After its turn a queue is empty, or it waits. -/
lemma turn (hs : Setting cap loc p₀ all) {c : Bool × Call} (hle : done ++ [c] <+: all)
    (h : Reached cap loc p₀ done p) (hc : Turn side dir c) (heq : p.call c = some q) :
    ((q.host side).queue dir).contents = [] ∨ Waits (q.host side) (q.host !side) dir := by
  obtain ⟨rfl, locked, haction⟩ := hc
  have hdone : done <+: all := (List.prefix_append _ _).trans hle
  obtain ⟨g, hcall, rfl⟩ := Option.map_eq_some_iff.1 heq
  rw [call_eq_act, haction] at hcall
  simp only [Function.update_self, Function.update_of_ne (Bool.not_ne_self c.1)]
  exact (h.core c.1).processed hs.size (hs.apart c.1)
    ((hs.fine c.1).mono fun dir => p₀.posts_mono c.1 hdone dir)
    (sentMsgs_mono (h.books !c.1) hdone)
    (fun e he => hs.room c.1 e ((p₀.posts_mono c.1 hdone .send).subset he))
    (h.books c.1).order (toOption_eq_some hcall)

/-- In a round there is a state after the turn of a queue. -/
lemma round (hs : Setting cap loc p₀ all) (hle : done ++ calls <+: all)
    (hrun : Stepper.run call p₀ done = some p) (hround : Round calls)
    (hcalls : Stepper.run call p calls = some q) (side : Bool) (dir : Direction) :
    ∃ done' v, done <+: done' ∧ Reached cap loc p₀ done' v ∧ Grown p v ∧ Grown v q
      ∧ (((v.host side).queue dir).contents = [] ∨ Waits (v.host side) (v.host !side) dir) := by
  obtain ⟨c, hc, hturn⟩ := hround side dir
  obtain ⟨pre, post, rfl⟩ := List.append_of_mem hc
  rw [Stepper.run_append, Option.bind_eq_some_iff] at hcalls
  obtain ⟨u, hpre, hcalls⟩ := hcalls
  obtain ⟨v, hstep, hpost⟩ := Stepper.run_cons_some call hcalls
  have hrun' : Stepper.run call p₀ (done ++ pre) = some u := by
    rw [Stepper.run_append, hrun, Option.bind_some, hpre]
  have hrun'' : Stepper.run call p₀ (done ++ pre ++ [c]) = some v := by
    rw [Stepper.run_append, hrun', Option.bind_some, Stepper.run_cons, hstep]
    rfl
  have hle' : done ++ pre ++ [c] <+: all :=
    List.IsPrefix.trans ⟨post, by simp only [List.append_assoc, List.singleton_append]⟩ hle
  refine ⟨done ++ pre ++ [c], v, ?_, hs.reached hle' hrun'', ?_, run_grown hpost, ?_⟩
  · rw [List.append_assoc]
    exact List.prefix_append _ _
  · exact (run_grown hpre).trans (call_grown hstep)
  · exact hs.turn hle' (hs.reached ((List.prefix_append _ _).trans hle') hrun') hturn hstep

/-- What was sent before a round is received in it, as far as receives were posted. -/
lemma recvRound (hs : Setting cap loc p₀ all) (hle : done ++ calls <+: all)
    (hrun : Stepper.run call p₀ done = some p) (hround : Round calls)
    (hcalls : Stepper.run call p calls = some q) {k : ℕ} (hsent : k ≤ (p.host side).sentMsgs.length)
    (hposted : k ≤ (p₀.posts (!side) done .recv).length) :
    k ≤ (q.host !side).received.length := by
  obtain ⟨done', v, hdone, hreached, hpv, hvq, hturn⟩ :=
    hs.round hle hrun hround hcalls (!side) .recv
  refine le_trans ?_ (hvq !side).2
  rcases hturn with hempty | hwaits
  · have horder := (hreached.books !side).order .recv
    rw [hempty, List.append_nil] at horder
    rw [length_received, horder]
    exact hposted.trans (p₀.posts_mono (!side) hdone .recv).length_le
  · rw [Waits, Bool.not_not] at hwaits
    rw [hwaits]
    exact hsent.trans (hpv side).1

/-- After all that was sent has been received, a round sends one more message, if there is one. -/
lemma sendRound (hs : Setting cap loc p₀ all) (hle : done ++ calls <+: all)
    (hrun : Stepper.run call p₀ done = some p) (hround : Round calls)
    (hcalls : Stepper.run call p calls = some q) {k : ℕ}
    (hreceived : k ≤ (p.host !side).received.length)
    (hposted : k < (p₀.posts side done .send).length) :
    k < (q.host side).sentMsgs.length := by
  obtain ⟨done', v, hdone, hreached, hpv, hvq, hturn⟩ := hs.round hle hrun hround hcalls side .send
  refine lt_of_lt_of_le ?_ (hvq side).1
  rcases hturn with hempty | hwaits
  · have horder := (hreached.books side).order .send
    rw [hempty, List.append_nil] at horder
    rw [sentMsgs, List.length_map, horder]
    exact hposted.trans_le (p₀.posts_mono side hdone .send).length_le
  · exact (hreceived.trans (hpv !side).2).trans_lt hwaits

/-- Two rounds take one more message to its receive. -/
lemma twoRounds (hs : Setting cap loc p₀ all) {first second : List (Bool × Call)}
    (hle : done ++ (first ++ second) <+: all) (hrun : Stepper.run call p₀ done = some p)
    (hfirst : Round first) (hsecond : Round second)
    (hcalls : Stepper.run call p (first ++ second) = some q) {k : ℕ}
    (hreceived : k ≤ (p.host !side).received.length)
    (hsends : k < (p₀.posts side done .send).length)
    (hreceives : k < (p₀.posts (!side) done .recv).length) :
    k < (q.host !side).received.length := by
  rw [Stepper.run_append, Option.bind_eq_some_iff] at hcalls
  obtain ⟨v, hpv, hvq⟩ := hcalls
  rw [← List.append_assoc] at hle
  have hsent := hs.sendRound ((List.prefix_append _ _).trans hle) hrun hfirst hpv hreceived hsends
  have hrun' : Stepper.run call p₀ (done ++ first) = some v := by
    rw [Stepper.run_append, hrun, Option.bind_some, hpv]
  refine hs.recvRound hle hrun' hsecond hvq hsent ?_
  exact hreceives.trans_le (p₀.posts_mono (!side) (List.prefix_append _ _) .recv).length_le

/-- So twice as many rounds as messages take all of them to their receives. -/
lemma rounds (hs : Setting cap loc p₀ all) {n k : ℕ} {rounds : List (List (Bool × Call))}
    (hle : done ++ rounds.flatten <+: all) (hrun : Stepper.run call p₀ done = some p)
    (hrounds : ∀ calls ∈ rounds, Round calls)
    (hcalls : Stepper.run call p rounds.flatten = some q)
    (hreceived : k ≤ (p.host !side).received.length + n) (hlen : 2 * n ≤ rounds.length)
    (hsends : k ≤ (p₀.posts side done .send).length)
    (hreceives : k ≤ (p₀.posts (!side) done .recv).length) :
    k ≤ (q.host !side).received.length := by
  induction n generalizing p done rounds with
  | zero => exact hreceived.trans (run_grown hcalls !side).2
  | succ n ih =>
      obtain ⟨first, second, rest, rfl⟩ :
          ∃ first second rest, rounds = first :: second :: rest := by
        match rounds, hlen with
        | first :: second :: rest, _ => exact ⟨first, second, rest, rfl⟩
      have hflat : (first :: second :: rest).flatten = (first ++ second) ++ rest.flatten := by
        rw [List.flatten_cons, List.flatten_cons, List.append_assoc]
      rw [hflat, Stepper.run_append, Option.bind_eq_some_iff] at hcalls
      obtain ⟨v, hpv, hvq⟩ := hcalls
      rw [hflat, ← List.append_assoc] at hle
      have hrun' : Stepper.run call p₀ (done ++ (first ++ second)) = some v := by
        rw [Stepper.run_append, hrun, Option.bind_some, hpv]
      have hgrown := (run_grown hpv !side).2
      have hmore : k ≤ (v.host !side).received.length + n := by
        rcases Nat.lt_or_ge (p.host !side).received.length k with hlt | hge
        · have htwo := hs.twoRounds ((List.prefix_append _ _).trans hle) hrun
            (hrounds first (by simp)) (hrounds second (by simp)) hpv le_rfl
            (hlt.trans_le hsends) (hlt.trans_le hreceives)
          omega
        · omega
      refine ih hle hrun' (fun calls hc => hrounds calls (by simp [hc])) hvq hmore ?_ ?_ ?_
      · simp only [List.length_cons] at hlen
        omega
      · exact hsends.trans (p₀.posts_mono side (List.prefix_append _ _) .send).length_le
      · exact hreceives.trans (p₀.posts_mono (!side) (List.prefix_append _ _) .recv).length_le

end Setting

/-- Two connected endpoints that need no locks. -/
structure Open (cap : BufferLoc → UInt64) (loc : Bool → BufferLoc) (p : Pair) : Prop where
  wired : AllWired cap loc p
  unlocked : ∀ side, Unlocked (p.host side)

/-- Every call on them returns. -/
lemma Open.call (ho : Open cap loc p) (c : Bool × Call) :
    ∃ q, p.call c = some q ∧ Open cap loc q := by
  have hu : Unlocked (p.focus c.1) := ⟨(ho.unlocked c.1).lockNeeded, (ho.unlocked c.1).free⟩
  have hlinked : Linked (p.focus c.1) := (Wired.congr (g := p.focus c.1) (ho.wired c.1) rfl).linked
  obtain ⟨h, hcall⟩ := call_returns hlinked hu.free c.2
  have heq : p.call c = some { host := Function.update p.host c.1 h, mem := h.mem } := by
    rw [Pair.call, hcall]
    rfl
  refine ⟨_, heq, ho.wired.call heq, fun side => ?_⟩
  rw [call_eq_act] at hcall
  by_cases hside : side = c.1
  · subst hside
    simpa only [Function.update_self] using hu.act (toOption_eq_some hcall)
  · simpa only [Function.update_of_ne hside] using ho.unlocked side

lemma Open.run (ho : Open cap loc p) (calls : List (Bool × Call)) :
    ∃ q, Stepper.run Pair.call p calls = some q := by
  induction calls generalizing p with
  | nil => exact ⟨p, rfl⟩
  | cons c calls ih =>
      obtain ⟨q, hcall, hq⟩ := ho.call c
      obtain ⟨r, hrun⟩ := ih hq
      exact ⟨r, by rw [Stepper.run_cons, hcall, Option.bind_some, hrun]⟩

end Pair

namespace Apps

open Host

variable {prog : Bool → ℕ → QueueProgress} {cap : BufferLoc → UInt64} {loc : Bool → BufferLoc}
  {a₀ : Apps}

/-- The action processes a queue of a side: it is a read of a completion queue that makes the
progress of the direction, or a call that does. -/
def Progresses (prog : Bool → ℕ → QueueProgress) (side : Bool) (dir : Direction) : Act → Prop
  | .call s c => Pair.Turn side dir (s, c)
  | .read s q _ _ timeout =>
      s = side ∧ timeout = 0 ∧ dir ∈ Bindings.directions (prog side q).func
  | .readerr .. => False

lemma Progresses.turn {side : Bool} {dir : Direction} {act : Act}
    (h : Progresses prog side dir act) : ∃ c ∈ act.calls prog, Pair.Turn side dir c := by
  cases act with
  | call s c => exact ⟨(s, c), by simp [Act.calls], h⟩
  | read s q count wait timeout =>
      obtain ⟨rfl, rfl, hdir⟩ := h
      have hcalls : ∃ arg, (arg, dir) ∈ ((prog s q).makeQueueProgress wait 0).2 := by
        rw [QueueProgress.makeQueueProgress]
        cases hfunc : (prog s q).func with
        | none => simp [hfunc, Bindings.directions] at hdir
        | some func =>
            rw [hfunc] at hdir
            refine ⟨(prog s q).arg, ?_⟩
            cases func <;> exact List.mem_map_of_mem (f := ((prog s q).arg, ·)) hdir
      obtain ⟨arg, hmem⟩ := hcalls
      exact ⟨(s, processing dir), List.mem_map.2 ⟨_, hmem, rfl⟩, rfl, false, by cases dir <;> rfl⟩
  | readerr s q => exact h.elim

/-- Liveness: once messages and their receives have been posted, twice as many rounds as messages,
in each of which both applications do nothing more than read their completion queues, take all of
them to their receives.  Without locks no call blocks. -/
theorem rounds_deliver (hS : ∀ l, RingSize (cap l)) (hne : ∀ side, loc side ≠ loc !side)
    (hstart : a₀.Start cap loc) {posting : List Act} {rounds : List (List Act)}
    (hroomy : ∀ side,
      Roomy a₀.pair ((posting ++ rounds.flatten).flatMap (Act.calls prog)) side)
    (hroom : ∀ side,
      ∀ e ∈ a₀.pair.posts side ((posting ++ rounds.flatten).flatMap (Act.calls prog)) .send,
        HasRoom (cap (loc !side)) e)
    (hrounds : ∀ acts ∈ rounds, ∀ side dir, ∃ act ∈ acts, Progresses prog side dir act) :
    ((∀ side, Unlocked (a₀.pair.host side)) →
        ∃ a, Stepper.run (step prog) a₀ (posting ++ rounds.flatten) = some a)
      ∧ ∀ a, Stepper.run (step prog) a₀ (posting ++ rounds.flatten) = some a →
        ∃ sent received : Bool → ℕ,
          (∀ side, received side ≤ sent !side
            ∧ Seen a₀ ((posting ++ rounds.flatten).flatMap (Act.calls prog)) a side (sent side)
              (received side))
          ∧ ∀ side n, 2 * n ≤ rounds.length →
            n ≤ (a₀.pair.posts side (posting.flatMap (Act.calls prog)) .send).length →
            n ≤ (a₀.pair.posts (!side) (posting.flatMap (Act.calls prog)) .recv).length →
            n ≤ received !side := by
  have hs : Pair.Setting cap loc a₀.shelved
      ((posting ++ rounds.flatten).flatMap (Act.calls prog)) :=
    ⟨hS, hne, hstart.shelved, Roomy.fine fun side => (hroomy side).shelved, hroom⟩
  constructor
  · intro hunlocked
    have hopen : Pair.Open cap loc a₀.shelved :=
      ⟨hs.start.wired, fun side => ⟨(hunlocked side).lockNeeded, (hunlocked side).free⟩⟩
    obtain ⟨q, hq⟩ := hopen.run ((posting ++ rounds.flatten).flatMap (Act.calls prog))
    rw [run_shelved] at hq
    obtain ⟨a, ha, -⟩ := Option.map_eq_some_iff.1 hq
    exact ⟨a, ha⟩
  · intro a hrun
    have hrun' : Stepper.run Pair.call a₀.shelved
        ((posting ++ rounds.flatten).flatMap (Act.calls prog)) = some a.shelved := by
      rw [run_shelved, hrun]
      rfl
    have hreached := hs.reached (List.prefix_refl _) hrun'
    refine ⟨fun side => (a.pair.host side).sentMsgs.length,
      fun side => (a.pair.host side).received.length,
      fun side => ⟨(hreached.core side).received_le, seen hstart hreached (hroomy side)⟩,
      fun side n hlen hsends hreceives => ?_⟩
    have hflat : (posting ++ rounds.flatten).flatMap (Act.calls prog)
        = posting.flatMap (Act.calls prog)
          ++ (rounds.map fun acts => acts.flatMap (Act.calls prog)).flatten := by
      rw [List.flatMap_append, ← List.flatMap_id, List.flatMap_assoc, List.flatMap_def]
      rfl
    rw [hflat] at hs hrun'
    rw [Stepper.run_append, Option.bind_eq_some_iff] at hrun'
    obtain ⟨p, hposting, hrounds'⟩ := hrun'
    refine hs.rounds (q := a.shelved) (List.prefix_refl _) hposting ?_ hrounds'
      (Nat.le_add_left n _) ?_ hsends hreceives
    · intro calls hcalls side dir
      obtain ⟨acts, hacts, rfl⟩ := List.mem_map.1 hcalls
      obtain ⟨act, hact, hprogress⟩ := hrounds acts hacts side dir
      obtain ⟨c, hc, hturn⟩ := hprogress.turn
      exact ⟨c, List.mem_flatMap.2 ⟨act, hact, hc⟩, hturn⟩
    · rwa [List.length_map]

/-- Both applications read their completion queues. -/
def bothRead : List Act :=
  [.read false 0 1 (fun _ _ => .ok) 0, .read true 0 1 (fun _ _ => .ok) 0]

lemma posts_bothRead (side : Bool) (dir : Direction) :
    Pair.threeWords.posts side
        ((oneMessage ++ [bothRead, bothRead].flatten).flatMap (Act.calls bothWays)) dir
      = onePost side dir := by
  rw [Pair.posts_threeWords]
  cases side <;> cases dir <;> rfl

/-- Two rounds after one message. -/
theorem rounds_deliver_oneMessage :
    ∃ a, Stepper.run (step bothWays) threeWords (oneMessage ++ [bothRead, bothRead].flatten)
        = some a
      ∧ 1 ≤ (a.pair.host false).received.length := by
  have hroom (side : Bool) : ∀ e ∈ threeWords.pair.posts side
      ((oneMessage ++ [bothRead, bothRead].flatten).flatMap (Act.calls bothWays)) .send,
      HasRoom 24 e := by
    intro e he
    rw [show threeWords.pair = Pair.threeWords from rfl, posts_bothRead, onePost] at he
    cases side with
    | false => simp at he
    | true =>
        obtain rfl : e = _ := by simpa using he
        rw [HasRoom]
        decide
  have hreads : ∀ acts ∈ [bothRead, bothRead], ∀ side dir,
      ∃ act ∈ acts, Progresses bothWays side dir act := by
    intro acts hacts side dir
    obtain rfl : acts = bothRead := by simpa using hacts
    refine ⟨.read side 0 1 (fun _ _ => .ok) 0, by cases side <;> simp [bothRead], rfl, rfl, ?_⟩
    cases dir <;> simp [bothWays, Bindings.directions]
  obtain ⟨hreturns, hdelivered⟩ :=
    rounds_deliver (fun _ => ⟨by decide, by decide, by decide⟩) (by decide)
      start_threeWords (roomy_onePost posts_bothRead) hroom hreads
  obtain ⟨a, hrun⟩ := hreturns fun side => ⟨rfl, fun dir => rfl⟩
  obtain ⟨sent, received, hseen, hall⟩ := hdelivered a hrun
  have hone : 1 ≤ received false := hall true 1 (by decide) (by decide) (by decide)
  have hbuffers := congrArg List.length (hseen false).2.buffers
  rw [List.length_map, List.length_take, Pair.messages, List.length_map,
    show threeWords.pair = Pair.threeWords from rfl, posts_bothRead, onePost,
    if_pos ⟨rfl, rfl⟩, List.length_singleton] at hbuffers
  exact ⟨a, hrun, by omega⟩

end Apps

end DpaProvider
