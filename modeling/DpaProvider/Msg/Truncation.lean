import DpaProvider.Msg.Lockstep

/-!
What the length of a posted receive buffer can change.

Two runs of a connected pair make the same calls, except for the lengths of posted
receives.  As long as the receives cut off zeroes only, the two runs make the same
attempts with the same results, and their receives take the same messages:
`truncation_isolated`.  A receive that cuts off other bytes leaves them in the ring,
where a later call takes them for a header word: `truncation_leaks`.
-/

namespace DpaProvider

open ByteMem

namespace Host

variable {cap : BufferLoc → UInt64} {own peer : BufferLoc} {h h' o o' : Host}
  {P Q : Direction → List MsgQueueEntry} {M : List (List UInt8)}

lemma Fine.mono (hf : Fine Q M) (hle : ∀ dir, P dir <+: Q dir) : Fine P M where
  sendable := fun e he => hf.sendable e ((hle .send).subset he)
  zeroes := by
    intro k m e hm he
    refine hf.zeroes k m e hm ?_
    obtain ⟨l, hl⟩ := hle .recv
    obtain ⟨hlt, -⟩ := List.getElem?_eq_some_iff.1 he
    rw [← hl, List.getElem?_append_left hlt, he]

/-- The lockstep of one side is that of the other, over the same memory. -/
lemma Lockstep.swap (hl : Lockstep cap own peer o o' h h') (hw : Wired cap peer own o)
    (hw' : Wired cap peer own o') :
    Lockstep cap peer own h h' { o with mem := h.mem } { o' with mem := h'.mem } where
  core := ⟨hw.congr rfl, hl.core.into, hl.core.out⟩
  core' := ⟨hw'.congr rfl, hl.core'.into, hl.core'.out⟩
  alike := hl.other.congr rfl rfl hl.other.locked hl.other.queued rfl rfl rfl rfl
  other := hl.alike

/-- A receive has delivered the message of its number, as far as its buffer goes. -/
lemma Core.delivered (hc : Core cap own peer h o) (hexact : ∀ c ∈ h.completed, c.Exact) {k : ℕ}
    {c : Completed} (hk : h.received[k]? = some c) :
    ∃ m, o.sentMsgs[k]? = some m ∧ c.data = m.take c.op.len.toNat := by
  obtain ⟨hmem, hdir⟩ : c ∈ h.completed ∧ c.dir = .recv := by
    simpa [received] using List.mem_of_getElem? hk
  have hreport : (inFlow own peer h o).completed[k]? = some c.report := by
    simp [inFlow, flow, hk]
  obtain ⟨m, n, hm, -, hrep⟩ := hc.into.reports k c.report hreport
  refine ⟨m, hm, ?_⟩
  obtain ⟨-, hlens⟩ := (hexact c hmem).recv hdir
  have hsize : c.msgSize.toNat = m.length := by
    rw [← hlens, ← hrep.olen, Completed.entry, hdir]
    rfl
  have hcopied : n = min c.op.len.toNat m.length := by
    have hcopied := hexact c hmem
    simp only [Completed.Exact, hdir] at hcopied
    rw [← hsize, ← hrep.len, ← UInt64.toNat_min, ← hcopied]
    rfl
  rw [show c.data = c.report.data from rfl, hrep.data, hcopied, ← List.take_take, List.take_length]

end Host

namespace Pair

open Host

variable {cap : BufferLoc → UInt64} {loc : Bool → BufferLoc} {p p' p₀ p₀' q : Pair}
  {calls calls' done done' : List (Bool × Call)}

/-- The same call on the same side, but for the length of a posted receive. -/
structure SameCall (c c' : Bool × Call) : Prop where
  side : c'.1 = c.1
  action : c.2.action.Alike c'.2.action

/-- The calls are fine on both sides: each message can be carried by a frame, and a
receive that is shorter than its message cuts off zeroes only. -/
def Fine (p : Pair) (calls : List (Bool × Call)) : Prop :=
  ∀ side, Host.Fine (p.posts side calls) (p.messages (!side) calls)

/-- Two runs of a pair in lockstep. -/
structure Related (cap : BufferLoc → UInt64) (loc : Bool → BufferLoc) (p₀ p₀' : Pair)
    (done done' : List (Bool × Call)) (p p' : Pair) : Prop where
  lockstep : ∀ side, Lockstep cap (loc side) (loc !side) (p.host !side) (p'.host !side)
    (p.focus side) (p'.focus side)
  books : ∀ side, Books (p₀.host side) (p₀.posts side done) (p.host side)
  books' : ∀ side, Books (p₀'.host side) (p₀'.posts side done') (p'.host side)

lemma posts_append (p : Pair) (side : Bool) (done : List (Bool × Call)) (c : Bool × Call)
    (dir : Direction) : p.posts side (done ++ [c]) dir
      = p.posts side done dir ++ if c.1 = side then c.2.action.posted dir else [] := by
  rw [posts, posts, List.flatMap_append, List.flatMap_singleton, List.append_assoc]

lemma posts_mono (p : Pair) (side : Bool) (hle : done <+: calls) (dir : Direction) :
    p.posts side done dir <+: p.posts side calls dir := by
  obtain ⟨l, rfl⟩ := hle
  rw [posts, posts, List.flatMap_append, ← List.append_assoc]
  exact List.prefix_append _ _

/-- The messages sent are among those posted, in order. -/
lemma sentMsgs_mono {h₀ h : Host} {side : Bool} (hb : Books h₀ (p.posts side done) h)
    (hle : done <+: calls) : h.sentMsgs <+: p.messages side calls := by
  refine List.IsPrefix.map _ (List.IsPrefix.trans ?_ (p.posts_mono side hle .send))
  rw [← hb.order .send]
  exact List.prefix_append _ _

/-- What the posts so far are fine for. -/
lemma Fine.posted {all : List (Bool × Call)} {c : Bool × Call} (hok : p.Fine all)
    (hle : done ++ [c] <+: all) :
    Host.Fine (fun dir => p.posts c.1 done dir ++ c.2.action.posted dir)
      (p.messages (!c.1) all) := by
  refine (hok c.1).mono fun dir => ?_
  have hposts := p.posts_mono c.1 hle dir
  rwa [posts_append, if_pos rfl] at hposts

/-- A call that returns keeps the books of both sides. -/
lemma books_call {c : Bool × Call} {h : Host}
    (hb : ∀ side, Books (p₀.host side) (p₀.posts side done) (p.host side))
    (hact : (p.focus c.1).act c.2.action = .ok h) (side : Bool) :
    Books (p₀.host side) (p₀.posts side (done ++ [c])) (Function.update p.host c.1 h side) := by
  by_cases hside : side = c.1
  · subst hside
    have hfocus : Books (p₀.host c.1) (p₀.posts c.1 done) (p.focus c.1) :=
      (hb c.1).congr ⟨fun _ => rfl, rfl, rfl, rfl, rfl, rfl⟩
    rw [Function.update_self, show p₀.posts c.1 (done ++ [c])
      = fun dir => p₀.posts c.1 done dir ++ c.2.action.posted dir from
        funext fun dir => by rw [posts_append, if_pos rfl]]
    exact hfocus.act hact
  · rw [Function.update_of_ne hside, show p₀.posts side (done ++ [c]) = p₀.posts side done from
      funext fun dir => by rw [posts_append, if_neg (Ne.symm hside), List.append_nil]]
    exact hb side

/-- A call goes the same way in both runs. -/
lemma Related.call (hS : ∀ l, RingSize (cap l)) (hne : ∀ side, loc side ≠ loc !side)
    {all all' : List (Bool × Call)} (hok : p₀.Fine all) (hok' : p₀'.Fine all')
    {c c' : Bool × Call} (hle : done ++ [c] <+: all) (hle' : done' ++ [c'] <+: all')
    (hc : SameCall c c') (hr : Related cap loc p₀ p₀' done done' p p') (heq : p.call c = some q) :
    ∃ q', p'.call c' = some q' ∧ Related cap loc p₀ p₀' (done ++ [c]) (done' ++ [c']) q q' := by
  obtain ⟨side, c⟩ := c
  obtain ⟨side', c'⟩ := c'
  obtain ⟨rfl, haction⟩ : side' = side ∧ c.action.Alike c'.action := ⟨hc.side, hc.action⟩
  obtain ⟨h, hcall, rfl⟩ := Option.map_eq_some_iff.1 heq
  rw [call_eq_act] at hcall
  have hact := toOption_eq_some hcall
  have hM := sentMsgs_mono (hr.books !side') ((List.prefix_append _ _).trans hle)
  have hM' := sentMsgs_mono (hr.books' !side') ((List.prefix_append _ _).trans hle')
  obtain ⟨h', hact', hl⟩ := (hr.lockstep side').act hS (hne side') haction (hok.posted hle)
    (hok'.posted hle') hM hM' (hr.books side').order (hr.books' side').order hact
  refine ⟨{ host := Function.update p'.host side' h', mem := h'.mem }, ?_, ?_⟩
  · rw [Pair.call, call_eq_act, hact']
    rfl
  · refine ⟨fun s => ?_, books_call (c := (side', c)) hr.books hact,
      books_call (c := (side', c')) hr.books' hact'⟩
    have hother := hr.lockstep !side'
    rw [Bool.not_not] at hother
    by_cases hs : s = side'
    · subst hs
      simp only [focus, Function.update_self, Function.update_of_ne (Bool.not_ne_self s)]
      exact hl
    · obtain rfl : s = !side' := by cases s <;> cases side' <;> simp_all
      simp only [focus, Function.update_of_ne hs, Bool.not_not, Function.update_self]
      exact hl.swap (hother.core.wired.congr rfl) (hother.core'.wired.congr rfl)

/-- At the start both channels of a side are as in `Channel.init`. -/
lemma Start.core (hS : ∀ l, RingSize (cap l)) (hp : p.Start cap loc) (side : Bool) :
    Core cap (loc side) (loc !side) (p.focus side) (p.host !side) where
  wired := (hp.wired side).congr rfl
  out := by
    have hinit : outFlow (loc side) (loc !side) (p.focus side) (p.host !side)
        = Channel.init (p.mem (loc !side)).data := by
      simp [outFlow, flow, sentMsgs, received, done, focus, Channel.init, hp.completed, hp.write,
        hp.read, hp.status]
    rw [hinit]
    exact Channel.tidy_init (hS _) (hp.zeroed !side)
  into := by
    have hinit : inFlow (loc side) (loc !side) (p.focus side) (p.host !side)
        = Channel.init (p.mem (loc side)).data := by
      simp [inFlow, flow, sentMsgs, received, done, focus, Channel.init, hp.completed, hp.write,
        hp.read, hp.status]
    rw [hinit]
    exact Channel.tidy_init (hS _) (hp.zeroed side)

lemma Start.books (hp : p.Start cap loc) (side : Bool) :
    Books (p.host side) (p.posts side []) (p.host side) := by
  have hnil : p.posts side [] = fun dir => ((p.host side).queue dir).contents :=
    funext fun dir => by rw [posts, List.flatMap_nil, List.append_nil]
  rw [hnil]
  exact books_self (hp.completed side)

/-- What the lengths of posted receives must not change: the second run makes the
calls that the first one makes, on each side the attempts have the same results, so
that a receive finds nothing in the same states, and in both runs the `k`-th receive
takes the `k`-th message sent, as far as its own buffer goes. -/
def Isolated (p₀ p₀' : Pair) (calls calls' : List (Bool × Call)) : Prop :=
  ∀ p, Stepper.run call p₀ calls = some p → ∃ p', Stepper.run call p₀' calls' = some p'
    ∧ ∀ side, (p'.host side).tried = (p.host side).tried
      ∧ (p'.host side).sentMsgs = (p.host side).sentMsgs
      ∧ (p'.host side).received.length = (p.host side).received.length
      ∧ ∀ (k : ℕ) (c c' : Completed), (p.host side).received[k]? = some c →
        (p'.host side).received[k]? = some c' →
        ∃ m, (p.host !side).sentMsgs[k]? = some m ∧ c.data = m.take c.op.len.toNat
          ∧ c'.data = m.take c'.op.len.toNat

/-- Truncation isolation, as long as the receives cut off zeroes only. -/
theorem truncation_isolated (hS : ∀ l, RingSize (cap l)) (hne : ∀ side, loc side ≠ loc !side)
    (hp : p₀.Start cap loc) (hp' : p₀'.Start cap loc)
    (halike : ∀ side, Alike (p₀.host side) (p₀'.host side))
    (hcalls : List.Forall₂ SameCall calls calls') (hok : p₀.Fine calls) (hok' : p₀'.Fine calls') :
    Isolated p₀ p₀' calls calls' := by
  intro p hrun
  have hstart : Related cap loc p₀ p₀' [] [] p₀ p₀' := by
    refine ⟨fun side => ⟨hp.core hS side, hp'.core hS side, ?_, halike !side⟩, hp.books, hp'.books⟩
    exact (halike side).congr rfl rfl (halike side).locked (halike side).queued rfl rfl rfl rfl
  obtain ⟨p', hrun', hr⟩ := Stepper.run_related
    (fun done done' s s' a a' t hle hle' hc hr heq => hr.call hS hne hok hok' hle hle' hc heq)
    rfl rfl hcalls hstart hrun
  refine ⟨p', hrun', fun side => ?_⟩
  have hl := hr.lockstep side
  refine ⟨hl.alike.tried, hl.alike.sent, hl.alike.received.length_eq.symm,
    fun k c c' hk hk' => ?_⟩
  obtain ⟨m, hm, hdata⟩ := hl.core.delivered (hr.books side).exact hk
  obtain ⟨m', hm', hdata'⟩ := hl.core'.delivered (hr.books' side).exact hk'
  rw [hl.other.sent, hm] at hm'
  obtain rfl : m = m' := Option.some.inj hm'
  exact ⟨m, hm, hdata, hdata'⟩

/-! ### Two runs over rings of three words -/

/-- The buffers of the two sides. -/
def twoBuffers (side : Bool) : BufferLoc := ⟨if side then 1 else 2, 0, 0⟩

/-- Two endpoints just connected, with rings of three words. -/
def threeWords : Pair where
  host := fun side => established 24 (twoBuffers side) (twoBuffers !side)
  mem := fun _ => ⟨0, fun _ => 0⟩

lemma start_threeWords : threeWords.Start (fun _ => 24) twoBuffers where
  wired := fun _ => ⟨rfl, rfl, rfl, rfl, rfl, rfl⟩
  write := fun _ => rfl
  read := fun _ => rfl
  zeroed := fun _ _ _ => rfl
  status := fun _ => rfl
  completed := fun _ => rfl

lemma contents_threeWords (side : Bool) (dir : Direction) :
    ((threeWords.host side).queue dir).contents = [] := MsgQueue.contents_new _

lemma posts_threeWords (side : Bool) (calls : List (Bool × Call)) (dir : Direction) :
    threeWords.posts side calls dir
      = calls.flatMap fun c => if c.1 = side then c.2.action.posted dir else [] := by
  rw [posts, contents_threeWords, List.nil_append]

lemma alike_threeWords (side : Bool) : Alike (threeWords.host side) (threeWords.host side) where
  lockNeeded := rfl
  locked := fun _ => rfl
  queued := fun dir => by
    rw [contents_threeWords]
    exact .nil
  sent := rfl
  received := .nil
  tried := rfl

/-- A message of three bytes, of which the last is zero, and its receive. -/
def shortCalls (len : UInt64) : List (Bool × Call) :=
  [(true, .dpaSend (fun i => if i < 2 then 1 else 0) 3 0), (false, .dpaRecv (fun _ => 0) len 0)]

lemma sameCall_recv (side : Bool) (buf : ByteMem) (len len' : UInt64) (context : ℕ) :
    SameCall (side, .dpaRecv buf len context) (side, .dpaRecv buf len' context) :=
  ⟨rfl, .post ⟨len', rfl⟩⟩

lemma sameCall_send (side : Bool) (buf : ByteMem) (len : UInt64) (context : ℕ) :
    SameCall (side, .dpaSend buf len context) (side, .dpaSend buf len context) :=
  ⟨rfl, .post rfl⟩

lemma fine_shortCalls {len : UInt64} (hlen : 2 ≤ len.toNat) :
    threeWords.Fine (shortCalls len) := by
  intro side
  constructor
  · intro e he
    rw [posts_threeWords] at he
    cases side with
    | false => simp [shortCalls, Call.action, Action.posted, posting] at he
    | true =>
        simp only [shortCalls, Call.action, Action.posted, posting, List.flatMap_cons] at he
        obtain rfl : e = _ := by simpa using he
        constructor <;> decide
  · intro k m e hm he b hb
    rw [messages, posts_threeWords] at hm
    rw [posts_threeWords] at he
    cases side with
    | true => simp [shortCalls, Call.action, Action.posted, posting] at he
    | false =>
        cases k with
        | succ k => simp [shortCalls, Call.action, Action.posted, posting] at he
        | zero =>
            obtain rfl : [1, 1, 0] = m := Option.some.inj hm
            obtain rfl : _ = e := by
              simpa [shortCalls, Call.action, Action.posted, posting] using he
            have hb' : b ∈ [1, 1, 0].drop 2 := (List.drop_subset_drop_left _ hlen) hb
            simpa using hb'

theorem truncation_isolated_short : ∃ p p',
    Stepper.run call threeWords (shortCalls 2) = some p
      ∧ Stepper.run call threeWords (shortCalls 3) = some p'
      ∧ (p'.host false).tried = (p.host false).tried := by
  have hisolated : Isolated threeWords threeWords (shortCalls 2) (shortCalls 3) :=
    truncation_isolated (fun _ => ⟨by decide, by decide, by decide⟩) (by decide) start_threeWords
      start_threeWords alike_threeWords
      (.cons (sameCall_send _ _ _ _) (.cons (sameCall_recv _ _ _ _ _) .nil))
      (fine_shortCalls (by simp)) (fine_shortCalls (by simp))
  obtain ⟨p, hrun⟩ : ∃ p, Stepper.run call threeWords (shortCalls 2) = some p :=
    Option.isSome_iff_exists.1 (by decide +kernel)
  obtain ⟨p', hrun', hsides⟩ := hisolated p hrun
  exact ⟨p, p', hrun, hrun', (hsides false).1⟩

/-- A message that fills the ring and its receive; a shorter message and its
receive; and one more receive. -/
def fullCalls (len : UInt64) : List (Bool × Call) :=
  [(true, .dpaSend (fun _ => 1) 16 0), (false, .dpaRecv (fun _ => 0) len 0),
    (true, .dpaSend (fun _ => 1) 8 0), (false, .dpaRecv (fun _ => 0) 8 0),
    (false, .dpaRecv (fun _ => 0) 8 0)]

/-- After a first receive of length zero the last receive takes payload bytes of the
first message for a message; after one of length 16 it finds nothing. -/
theorem truncation_leaks : threeWords.Start (fun _ => 24) twoBuffers
    ∧ List.Forall₂ SameCall (fullCalls 0) (fullCalls 16)
    ∧ (∀ side, ∀ e ∈ threeWords.posts side (fullCalls 0) .send, e.Sendable)
    ∧ ¬ Isolated threeWords threeWords (fullCalls 0) (fullCalls 16) := by
  refine ⟨start_threeWords, ?_, ?_, fun hisolated => ?_⟩
  · exact .cons (sameCall_send _ _ _ _) (.cons (sameCall_recv _ _ _ _ _) (.cons
      (sameCall_send _ _ _ _) (.cons (sameCall_recv _ _ _ _ _) (.cons (sameCall_recv _ _ _ _ _)
        .nil))))
  · intro side e he
    rw [posts_threeWords] at he
    cases side with
    | false => simp [fullCalls, Call.action, Action.posted, posting] at he
    | true =>
        simp only [fullCalls, Call.action, Action.posted, posting, List.flatMap_cons] at he
        obtain rfl | rfl : e = _ ∨ e = _ := by simpa using he
        all_goals constructor <;> decide
  · have htried : (Stepper.run call threeWords (fullCalls 0)).map (fun p => (p.host false).tried)
        = some [(.recv, .success), (.recv, .success), (.recv, .success)] := by decide +kernel
    have htried' : (Stepper.run call threeWords (fullCalls 16)).map
        (fun p => (p.host false).tried)
        = some [(.recv, .success), (.recv, .success), (.recv, .eagain)] := by decide +kernel
    obtain ⟨p, hrun, hp⟩ := Option.map_eq_some_iff.1 htried
    obtain ⟨p', hrun', hsides⟩ := hisolated p hrun
    rw [hrun', Option.map_some, (hsides false).1, hp] at htried'
    exact absurd htried' (by simp)

end Pair

end DpaProvider
