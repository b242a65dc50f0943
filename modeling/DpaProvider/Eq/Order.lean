import DpaProvider.Eq.Events

/-!
The order and the content of the events of an event queue.

A `Transcript` keeps, beside an event queue, the events added to it and the reads that have
returned one.  Each of the two queues has its stream of events added (`stream`) and its reads
(`answers`).

* `Waiting`: what the nodes of a queue hold of the events added to it, whatever the nodes held
  before; kept by `waiting_eqAdd`, and by `read_busy_eq` after the first event is taken;
* `Ordered`: the events added to a queue are those that its reads have returned, and then those
  waiting in it;
* `order_and_content`: the reads of each queue have returned the first events of its stream, in
  order, each with its number and as many of its bytes as the event, the node and the buffer of
  the read have in common; and what the next read returns.
-/

namespace DpaProvider

namespace DpaFidEq

variable {z : EqSizes} {eq : DpaFidEq} {q : EqList} {ws : EqList → List Add}

/-! ### The events waiting -/

/-- The buffer of an event has as many bytes as its length says. -/
def Add.Backed (a : Add) : Prop := a.len ≤ a.buf.length

instance (a : Add) : Decidable a.Backed := inferInstanceAs (Decidable (_ ≤ _))

/-- What a node holds of an event: its number, and as much of its bytes as there is room for. -/
structure Keeps (z : EqSizes) (node : DpaEqEvent) (a : Add) : Prop where
  event : node.event = a.event
  size : node.entrySize = min a.len z.entry
  bytes : node.entry.take node.entrySize = a.buf.take (min a.len z.entry)

/-- Whatever the node held before. -/
lemma keeps_store {a : Add} (ha : a.Backed) (old : DpaEqEvent) : Keeps z (a.store z old) a where
  event := rfl
  size := rfl
  bytes := by
    have hlen : (a.buf.take (min a.len z.entry)).length = min a.len z.entry :=
      List.length_take_of_le ((min_le_left _ _).trans ha)
    exact List.take_left' hlen

/-- The nodes of the two queues hold the events `ws`. -/
def Waiting (z : EqSizes) (eq : DpaFidEq) (ws : EqList → List Add) : Prop :=
  ∃ xs, eq.lists.Within eq.created xs
    ∧ ∀ q, q ≠ .freeList → List.Forall₂ (fun node a => Keeps z (eq.events node) a) (xs q) (ws q)

lemma Waiting.live (h : Waiting z eq ws) : Live eq := by
  obtain ⟨xs, hwithin, -⟩ := h
  exact ⟨xs, hwithin⟩

/-- The events of a list that go to a queue. -/
def toQueue (q : EqList) (adds : List Add) : List Add := adds.filter fun a => a.queue = q

lemma toQueue_append (q : EqList) (as bs : List Add) :
    toQueue q (as ++ bs) = toQueue q as ++ toQueue q bs := List.filter_append as bs

lemma toQueue_self (a : Add) : toQueue a.queue [a] = [a] := by simp [toQueue]

lemma toQueue_of_ne {a : Add} (h : a.queue ≠ q) : toQueue q [a] = [] := by simp [toQueue, h]

lemma eqAdd_events (eq : DpaFidEq) (a : Add) :
    (eq.eqAdd z a).events = Function.update eq.events (eq.lists.alloc .freeList eq.created).1
      (a.store z (eq.events (eq.lists.alloc .freeList eq.created).1)) := rfl

/-- An event is put behind those waiting in its queue. -/
lemma Waiting.eqAdd (h : Waiting z eq ws) {a : Add} (ha : a.Backed) :
    Waiting z (eq.eqAdd z a) fun q => ws q ++ toQueue q [a] := by
  obtain ⟨xs, hwithin, hkeeps⟩ := h
  obtain ⟨ys, hys, hput, hother, hfresh, -⟩ := hwithin.alloc a.queue_ne_freeList.symm
  refine ⟨ys, hys, fun q hq => ?_⟩
  -- the node allocated is in neither of the queues
  have hold : List.Forall₂ (fun node b => Keeps z ((eq.eqAdd z a).events node) b) (xs q)
      (ws q) := by
    refine (List.forall₂_iff_get.1 (hkeeps q hq)).elim fun hlen hget => ?_
    refine List.forall₂_iff_get.2 ⟨hlen, fun i hi hi' => ?_⟩
    have hne : (xs q).get ⟨i, hi⟩ ≠ (eq.lists.alloc .freeList eq.created).1 :=
      fun h => hfresh q hq (h ▸ List.get_mem _ _)
    rw [eqAdd_events, Function.update_of_ne hne]
    exact hget i hi hi'
  dsimp only
  by_cases hqueue : a.queue = q
  · subst hqueue
    rw [hput, toQueue_self]
    refine List.rel_append hold (.cons ?_ .nil)
    rw [eqAdd_events, Function.update_self]
    exact keeps_store ha _
  · rw [hother q hq fun h => hqueue h.symm, toQueue_of_ne hqueue, List.append_nil]
    exact hold

lemma Waiting.addAll (h : Waiting z eq ws) {adds : List Add} (hadds : ∀ a ∈ adds, a.Backed) :
    Waiting z (adds.foldl (DpaFidEq.eqAdd z) eq) fun q => ws q ++ toQueue q adds := by
  induction adds generalizing eq ws with
  | nil => simpa [toQueue] using h
  | cons a rest ih =>
      have hnext := ih (h.eqAdd (hadds a List.mem_cons_self))
        fun b hb => hadds b (List.mem_cons_of_mem _ hb)
      have hws : (fun q => ws q ++ toQueue q (a :: rest))
          = fun q => ws q ++ toQueue q [a] ++ toQueue q rest := by
        funext q
        rw [List.append_assoc, ← toQueue_append, List.singleton_append]
      rw [hws]
      exact hnext

/-! ### What a read returns -/

/-- The events added in the course of a read. -/
def addsOf (z : EqSizes) (eq : DpaFidEq) : Read → List Add
  | .dpaEqRead _ _ first => first
  | .dpaEqSread _ timeout _ first second =>
      let eq := first.foldl (eqAdd z) eq
      if (eq.lists.lists .errorQueue).isEmpty ∧ (eq.lists.lists .eventQueue).isEmpty
          ∧ timeout ≠ 0 then first ++ second
      else first
  | .dpaEqReaderr _ => []

lemma settled_eq (eq : DpaFidEq) (r : Read) :
    eq.settled z r = (eq.addsOf z r).foldl (eqAdd z) eq := by
  cases r with
  | dpaEqRead len flags first => simp [settled, waited, addsOf]
  | dpaEqSread len timeout flags first second =>
      simp only [settled, waited, addsOf]
      split
      case isTrue => rw [List.foldl_append]
      case isFalse => rfl
  | dpaEqReaderr flags => rfl

/-- The events added in the course of a read have their bytes. -/
def Read.Backed : Read → Prop
  | .dpaEqRead _ _ first => ∀ a ∈ first, a.Backed
  | .dpaEqSread _ _ _ first second => (∀ a ∈ first, a.Backed) ∧ ∀ a ∈ second, a.Backed
  | .dpaEqReaderr _ => True

lemma Read.Backed.addsOf {r : Read} (hr : r.Backed) : ∀ a ∈ eq.addsOf z r, a.Backed := by
  cases r with
  | dpaEqRead len flags first => exact hr
  | dpaEqSread len timeout flags first second =>
      intro a ha
      simp only [DpaFidEq.addsOf] at ha
      split at ha
      case isTrue => exact (List.mem_append.1 ha).elim (hr.1 a) (hr.2 a)
      case isFalse => exact hr.1 a ha
  | dpaEqReaderr flags => exact fun a ha => absurd ha List.not_mem_nil

/-- The events that a step adds have their bytes. -/
def Event.Backed : Event → Prop
  | .eqAdd a => a.Backed
  | .read r => r.Backed

/-- What a read returns of an event. -/
def answer (z : EqSizes) (r : Read) (a : Add) : Result where
  ret := .ok (min (r.len z) (min a.len z.entry))
  event := if r.wantsEvent then some a.event else none
  out := a.buf.take (min (r.len z) (min a.len z.entry))

/-- What a read returns when the events `ws` wait in its queue. -/
def reply (z : EqSizes) (r : Read) : List Add → Result
  | [] => ⟨.error .eagain, none, []⟩
  | a :: _ => answer z r a

lemma Waiting.settled (h : Waiting z eq ws) {r : Read} (hr : r.Backed) :
    Waiting z (eq.settled z r) fun q => ws q ++ toQueue q (eq.addsOf z r) := by
  rw [settled_eq]
  exact h.addAll hr.addsOf

/-- New nodes are in the free list, where nothing waits. -/
lemma Waiting.createNodes (n : ℕ) (h : Waiting z eq ws) : Waiting z (createNodes n eq) ws := by
  induction n generalizing eq with
  | zero => exact h
  | succ n ih =>
      obtain ⟨xs, hwithin, hkeeps⟩ := h
      refine ih ⟨_, hwithin.create .freeList, fun q hq => ?_⟩
      rw [Function.update_of_ne hq]
      exact hkeeps q hq

/-- A queue is empty if no event waits in it. -/
lemma Waiting.isEmpty_iff (h : Waiting z eq ws) (hq : q ≠ .freeList) :
    (eq.lists.lists q).isEmpty = true ↔ ws q = [] := by
  obtain ⟨xs, hwithin, hkeeps⟩ := h
  have hlen := (hkeeps q hq).length_eq
  rw [DpaFidEq.isEmpty_iff hwithin.owns, ← List.length_eq_zero_iff, hlen, List.length_eq_zero_iff]

lemma Read.queue_ne_freeList (r : Read) : r.queue ≠ .freeList := by
  cases r <;> simp [Read.queue]

/-- A read that does not give up returns the first event waiting in its queue, and takes it off. -/
lemma Waiting.eqReadPriv (h : Waiting z eq ws) (r : Read) :
    (eq.eqReadPriv r.queue (r.len z) r.wantsEvent r.flags).1 = reply z r (ws r.queue)
      ∧ (ws r.queue = [] → (eq.eqReadPriv r.queue (r.len z) r.wantsEvent r.flags).2 = eq)
      ∧ Waiting z (eq.eqReadPriv r.queue (r.len z) r.wantsEvent r.flags).2
        (Function.update ws r.queue (ws r.queue).tail) := by
  have hwaiting := h
  obtain ⟨xs, hwithin, hkeeps⟩ := h
  have hqueue := hkeeps r.queue r.queue_ne_freeList
  cases hxs : xs r.queue with
  | nil =>
      rw [hxs] at hqueue
      have hws : ws r.queue = [] := List.forall₂_nil_left_iff.1 hqueue
      have htail : Function.update ws r.queue (ws r.queue).tail = ws := by
        rw [hws, List.tail_nil, ← hws, Function.update_eq_self]
      rw [eqReadPriv_nil hwithin.owns hxs, htail, hws]
      exact ⟨rfl, fun _ => rfl, hwaiting⟩
  | cons node rest =>
      rw [hxs] at hqueue
      obtain ⟨a, as, hkept, hrest, hws⟩ := List.forall₂_cons_left_iff.1 hqueue
      rw [eqReadPriv_cons hwithin.owns hxs, hws, List.tail_cons]
      refine ⟨?_, fun hnil => absurd hnil (List.cons_ne_nil a as), _,
        hwithin.removeHead r.queue, fun q hq => ?_⟩
      · have hbytes : (eq.events node).entry.take (min (eq.events node).entrySize (r.len z))
            = a.buf.take (min (r.len z) (min a.len z.entry)) := by
          rw [Nat.min_comm, ← List.take_take, hkept.bytes, List.take_take]
        rw [hbytes, hkept.size, hkept.event, Nat.min_comm]
        rfl
      · by_cases hsame : q = r.queue
        · subst hsame
          rw [Function.update_self, Function.update_self, hxs]
          exact hrest
        · rw [Function.update_of_ne hsame, Function.update_of_ne hsame]
          exact hkeeps q hq

/-! ### Transcripts -/

/-- An event queue, the events added to it, and the reads that have returned one, with what they
returned. -/
structure Transcript where
  eq : DpaFidEq
  added : List Add
  returned : List (Read × Result)

namespace Transcript

/-- The events added to a queue. -/
def stream (t : Transcript) (q : EqList) : List Add := toQueue q t.added

/-- The reads of a queue that have returned an event. -/
def answers (t : Transcript) (q : EqList) : List (Read × Result) :=
  t.returned.filter fun x => x.1.queue = q

/-- The events of a queue that no read has returned, after those of `adds` as well. -/
def owed (t : Transcript) (adds : List Add) (q : EqList) : List Add :=
  (toQueue q (t.added ++ adds)).drop (t.answers q).length

/-- An event queue as it is opened. -/
def start (size : ℕ) (events : ℕ → DpaEqEvent) : Transcript := ⟨dpaEqOpen size events, [], []⟩

/-- What a read returns is noted, if it is an event. -/
def note (r : Read) (result : Result) : List (Read × Result) :=
  match result.ret with
  | .ok _ => [(r, result)]
  | .error _ => []

/-- An addition or a read, noted. -/
def record (z : EqSizes) (t : Transcript) : Event → Option Transcript
  | .eqAdd a => some { t with eq := t.eq.eqAdd z a, added := t.added ++ [a] }
  | .read r =>
      some { eq := (t.eq.read z r).2, added := t.added ++ t.eq.addsOf z r
             returned := t.returned ++ note r (t.eq.read z r).1 }

/-- The events added to a queue are those returned, and then those waiting. -/
structure Ordered (z : EqSizes) (t : Transcript) (answered ws : EqList → List Add) : Prop where
  waiting : Waiting z t.eq ws
  stream : ∀ q, t.stream q = answered q ++ ws q
  answers : ∀ q, List.Forall₂ (fun x a => x.2 = answer z x.1 a) (t.answers q) (answered q)

variable {t t' : Transcript} {answered : EqList → List Add}

lemma Ordered.owed (h : Ordered z t answered ws) (adds : List Add) (q : EqList) :
    t.owed adds q = ws q ++ toQueue q adds := by
  have hstream : toQueue q t.added = answered q ++ ws q := h.stream q
  rw [Transcript.owed, toQueue_append, hstream, (h.answers q).length_eq, List.append_assoc,
    List.drop_left]

lemma Ordered.eqAdd (h : Ordered z t answered ws) {a : Add} (ha : a.Backed) :
    Ordered z { t with eq := t.eq.eqAdd z a, added := t.added ++ [a] } answered
      fun q => ws q ++ toQueue q [a] where
  waiting := h.waiting.eqAdd ha
  stream := by
    intro q
    have hstream : toQueue q t.added = answered q ++ ws q := h.stream q
    rw [Transcript.stream, toQueue_append, hstream, List.append_assoc]
  answers := h.answers

/-- A read that returns no event changes nothing but what is added in its course. -/
lemma Ordered.idle (h : Ordered z t answered ws) {r : Read} (hr : r.Backed) {err : FiErr}
    (hread : t.eq.read z r = (⟨.error err, none, []⟩, t.eq.settled z r))
    (hrecord : t.record z (.read r) = some t') :
    Ordered z t' answered fun q => ws q ++ toQueue q (t.eq.addsOf z r) := by
  obtain rfl := Option.some.inj hrecord
  simp only [hread, note, List.append_nil]
  refine ⟨h.waiting.settled hr, fun q => ?_, h.answers⟩
  have hstream : toQueue q t.added = answered q ++ ws q := h.stream q
  rw [Transcript.stream, toQueue_append, hstream, List.append_assoc]

/-- A read that returns an event moves it from those waiting to those returned. -/
lemma Ordered.read (h : Ordered z t answered ws) {r : Read} (hr : r.Backed)
    (hrecord : t.record z (.read r) = some t') : ∃ answered' ws', Ordered z t' answered' ws' := by
  have hread := read_eq (z := z) h.waiting.live r
  split at hread
  case isTrue => exact ⟨_, _, h.idle hr hread hrecord⟩
  case isFalse =>
      have hsettled := h.waiting.settled hr
      obtain ⟨hreply, hsame, hrest⟩ := hsettled.eqReadPriv r
      cases hws : ws r.queue ++ toQueue r.queue (t.eq.addsOf z r) with
      | nil =>
          rw [hws] at hreply
          exact ⟨_, _, h.idle hr (hread.trans (Prod.ext hreply (hsame hws))) hrecord⟩
      | cons a rest =>
          simp only [hws, reply, List.tail_cons] at hreply hrest
          rw [← hread] at hreply hrest
          obtain rfl := Option.some.inj hrecord
          refine ⟨Function.update answered r.queue (answered r.queue ++ [a]), _, hrest,
            fun q => ?_, fun q => ?_⟩
          · have hstream : toQueue q t.added = answered q ++ ws q := h.stream q
            rw [Transcript.stream, toQueue_append, hstream]
            by_cases hq : q = r.queue
            · subst hq
              rw [Function.update_self, Function.update_self, List.append_assoc, hws]
              simp
            · rw [Function.update_of_ne hq, Function.update_of_ne hq, List.append_assoc]
          · rw [Transcript.answers, List.filter_append]
            have hnote : note r (t.eq.read z r).1 = [(r, answer z r a)] := by
              rw [hreply]
              rfl
            rw [hnote]
            by_cases hq : q = r.queue
            · subst hq
              rw [Function.update_self, List.filter_cons_of_pos (by simp), List.filter_nil]
              exact List.rel_append (h.answers _) (.cons rfl .nil)
            · rw [Function.update_of_ne hq,
                List.filter_cons_of_neg (by simpa using fun hr => hq hr.symm), List.filter_nil,
                List.append_nil]
              exact h.answers q

lemma ordered_start (size : ℕ) (events : ℕ → DpaEqEvent) :
    Ordered z (start size events) (fun _ => []) fun _ => [] := by
  have hinit : Waiting z { lists := Pool.init EqList, events, created := 0 } fun _ => [] :=
    ⟨_, (Pool.full_init EqList).within, fun q _ => .nil⟩
  exact ⟨hinit.createNodes size, fun q => rfl, fun q => .nil⟩

lemma Ordered.record (h : Ordered z t answered ws) {e : Event} (he : e.Backed)
    (hrecord : t.record z e = some t') : ∃ answered' ws', Ordered z t' answered' ws' := by
  cases e with
  | eqAdd a =>
      obtain rfl := Option.some.inj hrecord
      exact ⟨_, _, h.eqAdd he⟩
  | read r => exact h.read he hrecord

/-- A read gives up when an error is owed, and returns the first event owed otherwise. -/
lemma Ordered.next (h : Ordered z t answered ws) {r : Read} (hr : r.Backed) :
    (t.eq.refused z r = true → t.eq.read z r = (⟨.error .eavail, none, []⟩, t.eq.settled z r))
      ∧ (t.eq.refused z r = false →
        (t.eq.read z r).1 = reply z r (t.owed (t.eq.addsOf z r) r.queue)) := by
  have hread := read_eq (z := z) h.waiting.live r
  refine ⟨fun hrefused => by rwa [if_pos hrefused] at hread, fun hrefused => ?_⟩
  rw [hrefused, if_neg (by simp)] at hread
  rw [hread, h.owed]
  exact ((h.waiting.settled hr).eqReadPriv r).1

/-- A `dpa_eq_read` gives up exactly when an error is owed. -/
lemma Ordered.refused_iff (h : Ordered z t answered ws) {len : ℕ} {flags : UInt64}
    {first : List Add} (hfirst : ∀ a ∈ first, a.Backed) :
    t.eq.refused z (.dpaEqRead len flags first) = true ↔ t.owed first .errorQueue ≠ [] := by
  have hempty := (h.waiting.addAll hfirst).isEmpty_iff (q := .errorQueue) (by simp)
  rw [h.owed, ne_eq, ← hempty, refused, Bool.not_eq_true', Bool.not_eq_true]

/-- In every run of additions (`dpa_eq_write` is one without error) and of reads, blocking or not,
whose events have their bytes: the reads of each of the two queues have returned the first events
added to it, in order, each with its number and the bytes that the event, the node and the buffer of
the read have room for.  The next `dpa_eq_read` gives up, and takes nothing, if an error is owed,
and returns the first event owed otherwise; `dpa_eq_readerr` returns the first error owed. -/
theorem order_and_content (size : ℕ) (events : ℕ → DpaEqEvent) {run : List Event}
    (hbacked : ∀ e ∈ run, e.Backed)
    (hrun : Stepper.run (record z) (start size events) run = some t) :
    (∀ q, ∃ answered, answered <+: t.stream q
      ∧ List.Forall₂ (fun x a => x.2 = answer z x.1 a) (t.answers q) answered)
    ∧ (∀ len flags first, (∀ a ∈ first, a.Backed) →
      (t.owed first .errorQueue ≠ [] → t.eq.read z (.dpaEqRead len flags first)
          = (⟨.error .eavail, none, []⟩, first.foldl (DpaFidEq.eqAdd z) t.eq))
        ∧ (t.owed first .errorQueue = [] → (t.eq.read z (.dpaEqRead len flags first)).1
          = reply z (.dpaEqRead len flags first) (t.owed first .eventQueue)))
    ∧ ∀ flags, (t.eq.read z (.dpaEqReaderr flags)).1
        = reply z (.dpaEqReaderr flags) (t.owed [] .errorQueue) := by
  have hstep (t : Transcript) (e : Event) (t' : Transcript)
      (h : ∃ answered ws, Ordered z t answered ws) (he : e.Backed)
      (hrecord : t.record z e = some t') : ∃ answered ws, Ordered z t' answered ws := by
    obtain ⟨_, _, h⟩ := h
    exact h.record he hrecord
  obtain ⟨answered, ws, h⟩ := Stepper.run_induction hstep ⟨_, _, ordered_start size events⟩
    (Stepper.meets_of_forall hbacked) hrun
  refine ⟨fun q => ⟨answered q, ⟨ws q, (h.stream q).symm⟩, h.answers q⟩,
    fun len flags first hfirst => ?_,
    fun flags => (h.next (r := .dpaEqReaderr flags) trivial).2 rfl⟩
  obtain ⟨hgive, hreply⟩ := h.next (r := .dpaEqRead len flags first) hfirst
  refine ⟨fun hpending => ?_, fun hnone => hreply ?_⟩
  · rw [hgive ((h.refused_iff hfirst).2 hpending), settled_eq]
    rfl
  · rw [← Bool.not_eq_true, h.refused_iff hfirst, not_not]
    exact hnone

/-- An event of 40 bytes for nodes of 32, an error, and reads of both. -/
def mixedRun : List Event :=
  [.eqAdd ⟨3, List.replicate 40 7, 40, 0⟩, .eqAdd ⟨4, [1, 2], 2, 5⟩, .eqAdd ⟨5, [9], 1, 0⟩
    , .read (.dpaEqRead 8 0 []), .read (.dpaEqReaderr 0), .read (.dpaEqRead 36 0 [])]

theorem order_and_content_mixedRun : ∃ t,
    Stepper.run (record ⟨32, 64⟩) (start 1 fun _ => ⟨0, [], 0, 0⟩) mixedRun = some t
      ∧ t.returned = [(.dpaEqReaderr 0, ⟨.ok 2, none, [1, 2]⟩),
        (.dpaEqRead 36 0 [], ⟨.ok 32, some 3, List.replicate 32 7⟩)]
      ∧ ∃ answered, answered <+: t.stream .eventQueue
        ∧ List.Forall₂ (fun x a => x.2 = answer ⟨32, 64⟩ x.1 a) (t.answers .eventQueue)
          answered := by
  obtain ⟨t, hrun, hreturned⟩ : ∃ t,
      Stepper.run (record ⟨32, 64⟩) (start 1 fun _ => ⟨0, [], 0, 0⟩) mixedRun = some t
        ∧ t.returned = [(.dpaEqReaderr 0, ⟨.ok 2, none, [1, 2]⟩),
          (.dpaEqRead 36 0 [], ⟨.ok 32, some 3, List.replicate 32 7⟩)] := ⟨_, rfl, rfl⟩
  have hbacked : ∀ e ∈ mixedRun, e.Backed := by
    simp [mixedRun, Event.Backed, Read.Backed, Add.Backed]
  exact ⟨t, hrun, hreturned, (order_and_content 1 _ hbacked hrun).1 .eventQueue⟩

end Transcript

end DpaFidEq

end DpaProvider
