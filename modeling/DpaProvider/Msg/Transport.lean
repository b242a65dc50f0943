import DpaProvider.Msg.Apps
import DpaProvider.Msg.Truncation

/-!
What two applications get from each other.

`Pair.Reached` is what every run of two connected endpoints keeps, and `Apps.Seen` what an
application has then read and has in its buffers: the `k`-th receive that it has posted is for the
`k`-th message that its peer has posted (`transport`).
-/

namespace DpaProvider

namespace Host

/-! ### What a receive reports -/

/-- The completion entry of a send. -/
def sendReceipt (e : MsgQueueEntry) : CqErrEntry where
  opContext := e.context
  flags := fiMsg ||| fiSend
  len := 0
  data := 0
  olen := 0
  err := .success
  provErrno := .ok

/-- The completion entry of a receive that got a whole message. -/
def receipt (e : MsgQueueEntry) (m : List UInt8) : CqErrEntry where
  opContext := e.context
  flags := fiMsg ||| fiRecv
  len := UInt64.ofNat m.length
  data := 0
  olen := 0
  err := .success
  provErrno := .ok

lemma entry_send {c : Completed} (hdir : c.dir = .send) : c.entry = sendReceipt c.op := by
  simp [Completed.entry, Completed.err, hdir, sendReceipt]

/-- No more messages are received than were sent. -/
lemma Core.received_le {cap : BufferLoc → UInt64} {own peer : BufferLoc} {h o : Host}
    (hc : Core cap own peer h o) : h.received.length ≤ o.sentMsgs.length := by
  have hle := hc.into.layout.rel_le
  simpa [inFlow, flow] using hle

/-- A receive into a buffer that is long enough. -/
lemma Core.receipt {cap : BufferLoc → UInt64} {own peer : BufferLoc} {h o : Host}
    (hc : Core cap own peer h o) (hexact : ∀ c ∈ h.completed, c.Exact) {k : ℕ} {c : Completed}
    {m : List UInt8} (hk : h.received[k]? = some c) (hm : o.sentMsgs[k]? = some m)
    (hroom : m.length ≤ c.op.len.toNat) : c.entry = Host.receipt c.op m ∧ c.data = m := by
  obtain ⟨hmem, hdir⟩ : c ∈ h.completed ∧ c.dir = .recv := by
    simpa [received] using List.mem_of_getElem? hk
  obtain ⟨m', n, hm', -, hrep⟩ := hc.into.reports k c.report (by simp [inFlow, flow, hk])
  obtain rfl : m = m' := Option.some.inj (hm.symm.trans hm')
  have hcopied : c.copied = min c.op.len c.msgSize := by
    simpa only [Completed.Exact, hdir] using hexact c hmem
  have hsize : c.msgSize.toNat = m.length := by
    obtain ⟨-, hlens⟩ := (hexact c hmem).recv hdir
    rw [← hlens, ← hrep.olen, Completed.entry, hdir]
    rfl
  have hall : c.copied = c.msgSize := by
    rw [← UInt64.toNat_inj, hcopied, UInt64.toNat_min, hsize]
    omega
  refine ⟨?_, ?_⟩
  · simp only [Completed.entry, Completed.err, hdir, Host.receipt, hall, UInt64.lt_irrefl, if_false,
      UInt64.sub_self]
    rw [← hsize, UInt64.ofNat_toNat]
  · rw [show c.data = c.report.data from rfl, hrep.data, ← hrep.len,
      show c.report.len = c.copied from rfl, hall, hsize, List.take_length]

lemma Completed.flags_entry (c : Completed) :
    c.entry.flags = fiMsg ||| Bindings.dirFlag c.dir := by
  rw [Completed.entry]
  cases c.dir <;> rfl

/-- The entries of one direction, among those of completions that are all successful. -/
lemma filter_entriesFor (cq : Direction → Option ℕ) {completed : List Completed}
    (hok : ∀ c ∈ completed, c.err = .success) (q : ℕ) (dir : Direction) :
    (entriesFor cq completed q true).filter (hasAny ·.flags (Bindings.dirFlag dir))
      = if cq dir = some q then (completed.filter fun c => c.dir = dir).map Completed.entry
        else [] := by
  have hflags (c : Completed) :
      hasAny c.entry.flags (Bindings.dirFlag dir) = decide (c.dir = dir) := by
    rw [Completed.flags_entry]
    cases c.dir <;> cases dir <;> decide
  rw [entriesFor, List.filter_map, List.filter_filter]
  by_cases hq : cq dir = some q
  · rw [if_pos hq]
    congr 1
    refine List.filter_congr fun c hc => ?_
    rw [Function.comp_apply, hflags]
    by_cases hdir : c.dir = dir
    · simp [hdir, hq, hok c hc]
    · simp [hdir]
  · rw [if_neg hq, List.map_eq_nil_iff, List.filter_eq_nil_iff]
    intro c _
    rw [Function.comp_apply, hflags]
    by_cases hdir : c.dir = dir
    · simp [hdir, hq]
    · simp [hdir]

lemma entriesFor_errors (cq : Direction → Option ℕ) {completed : List Completed}
    (hok : ∀ c ∈ completed, c.err = .success) (q : ℕ) : entriesFor cq completed q false = [] := by
  rw [entriesFor, List.map_eq_nil_iff, List.filter_eq_nil_iff]
  intro c hc
  simp [hok c hc]

end Host

/-! ### One run of two endpoints -/

namespace Pair

open Host

variable {cap : BufferLoc → UInt64} {loc : Bool → BufferLoc} {p₀ p : Pair}
  {done all : List (Bool × Call)}

lemma SameCall.refl (c : Bool × Call) : SameCall c c where
  side := rfl
  action := by
    cases c.2.action with
    | post dir e => cases dir with
      | send => exact .post rfl
      | recv => exact .post ⟨e.len, rfl⟩
    | process dir locked => exact .process dir locked
    | reject => exact .reject

lemma alike_refl (h : Host) : Alike h h where
  lockNeeded := rfl
  locked _ := rfl
  queued dir := List.forall₂_same.2 fun e _ => by
    cases dir with
    | send => rfl
    | recv => exact ⟨e.len, rfl⟩
  sent := rfl
  received := List.forall₂_same.2 fun c _ => ⟨⟨c.op.len, rfl⟩, rfl⟩
  tried := rfl

/-- Two endpoints, after the calls `done` from `p₀`. -/
structure Reached (cap : BufferLoc → UInt64) (loc : Bool → BufferLoc) (p₀ : Pair)
    (done : List (Bool × Call)) (p : Pair) : Prop where
  core : ∀ side, Core cap (loc side) (loc !side) (p.focus side) (p.host !side)
  books : ∀ side, Books (p₀.host side) (p₀.posts side done) (p.host side)

/-- A run is in lockstep with itself. -/
lemma reached (hS : ∀ l, RingSize (cap l)) (hne : ∀ side, loc side ≠ loc !side)
    (hp : p₀.Start cap loc) (hok : p₀.Fine all) (hle : done <+: all)
    (hrun : Stepper.run call p₀ done = some p) : Reached cap loc p₀ done p := by
  have hstart : Related cap loc p₀ p₀ [] [] p₀ p₀ :=
    ⟨fun side => ⟨hp.core hS side, hp.core hS side, alike_refl _, alike_refl _⟩, hp.books, hp.books⟩
  obtain ⟨p', -, hr⟩ := Stepper.run_related
    (fun done done' s s' a a' t hle' hle'' hc hr heq => hr.call hS hne hok hok (hle'.trans hle)
      (hle''.trans hle) hc heq)
    rfl rfl (List.forall₂_same.2 fun c _ => SameCall.refl c) hstart hrun
  exact ⟨fun side => (hr.lockstep side).core, hr.books⟩

end Pair

namespace Apps

open Host

variable {a : Apps}

/-! ### What the applications see -/

/-- Two applications whose endpoints have just been connected. -/
structure Start (cap : BufferLoc → UInt64) (loc : Bool → BufferLoc) (a : Apps) : Prop where
  pair : a.pair.Start cap loc
  events : ∀ side q, a.events side q = [] ∧ ((a.pair.host side).cqs q).eventQueue = []
  errors : ∀ side q, a.errors side q = [] ∧ ((a.pair.host side).cqs q).errorQueue = []

/-- A frame can carry the messages of a side, and its receives are as long as the messages that they
get. -/
structure Roomy (p : Pair) (calls : List (Bool × Call)) (side : Bool) : Prop where
  sendable : ∀ e ∈ p.posts side calls .send, e.Sendable
  room : ∀ (k : ℕ) (m : List UInt8) (e : MsgQueueEntry), (p.messages (!side) calls)[k]? = some m →
    (p.posts side calls .recv)[k]? = some e → m.length ≤ e.len.toNat

/-- The successful entries of a completion queue: those read, and those not yet read. -/
def entries (a : Apps) (side : Bool) (q : ℕ) : List CqErrEntry :=
  a.events side q ++ ((a.pair.host side).cqs q).eventQueue

/-- An application has seen these numbers of its sends and receives complete. -/
structure Seen (a₀ : Apps) (calls : List (Bool × Call)) (a : Apps) (side : Bool)
    (sent received : ℕ) : Prop where
  sent_le : sent ≤ (a₀.pair.posts side calls .send).length
  received_le : received ≤ (a₀.pair.posts side calls .recv).length
  /-- The first messages of the peer are in the buffers of the first receives. -/
  buffers : (a.pair.host side).received.map Completed.data
    = (a₀.pair.messages (!side) calls).take received
  sends : ∀ q, (a.entries side q).filter (hasAny ·.flags fiSend)
    = if (a₀.pair.host side).ep.sendCq = some q then
        ((a₀.pair.posts side calls .send).take sent).map sendReceipt
      else []
  receives : ∀ q, (a.entries side q).filter (hasAny ·.flags fiRecv)
    = if (a₀.pair.host side).ep.recvCq = some q then
        List.zipWith receipt ((a₀.pair.posts side calls .recv).take received)
          ((a₀.pair.messages (!side) calls).take received)
      else []
  others : ∀ q, ∀ e ∈ a.entries side q, hasAny e.flags (fiSend ||| fiRecv) = true
  errors : ∀ q, a.errors side q ++ ((a.pair.host side).cqs q).errorQueue = []

lemma Roomy.fine {p : Pair} {calls : List (Bool × Call)} (h : ∀ side, Roomy p calls side) :
    p.Fine calls := by
  refine fun side => ⟨(h side).sendable, fun k m e hm he b hb => ?_⟩
  rw [List.drop_eq_nil_of_le ((h side).room k m e hm he)] at hb
  exact absurd hb List.not_mem_nil

lemma Roomy.shelved {calls : List (Bool × Call)} {side : Bool} (h : Roomy a.pair calls side) :
    Roomy a.shelved calls side where
  sendable := h.sendable
  room := h.room

lemma Start.shelved {cap : BufferLoc → UInt64} {loc : Bool → BufferLoc} (h : a.Start cap loc) :
    a.shelved.Start cap loc where
  wired side := (h.pair.wired side).congr rfl
  write := h.pair.write
  read := h.pair.read
  zeroed := h.pair.zeroed
  status := h.pair.status
  completed := h.pair.completed

end Apps

namespace Pair

open Host

variable {cap : BufferLoc → UInt64} {loc : Bool → BufferLoc} {p₀ p : Pair}
  {done : List (Bool × Call)} {side : Bool}

/-- The receives completed are the first of those posted, for the first messages sent. -/
lemma Reached.first (h : Reached cap loc p₀ done p) (side : Bool) :
    (p₀.posts side done .recv).take (p.host side).received.length
        = (p.host side).received.map Completed.op
      ∧ (p₀.messages (!side) done).take (p.host side).received.length
        = (p.host !side).sentMsgs.take (p.host side).received.length := by
  constructor
  · rw [← (h.books side).order .recv, List.take_left' (length_received _).symm]
    rfl
  · obtain ⟨l, hl⟩ := sentMsgs_mono (h.books !side) (List.prefix_refl done)
    have hle : (p.host side).received.length ≤ (p.host !side).sentMsgs.length :=
      (h.core side).received_le
    rw [← hl, List.take_append_of_le_length hle]

/-- Every receive completed has got its message. -/
lemma Reached.got (h : Reached cap loc p₀ done p) (hroomy : Apps.Roomy p₀ done side) {k : ℕ}
    {c : Completed} (hk : (p.host side).received[k]? = some c) :
    ∃ m, (p.host !side).sentMsgs[k]? = some m ∧ c.entry = receipt c.op m ∧ c.data = m := by
  have hlt : k < (p.host side).received.length := (List.getElem?_eq_some_iff.1 hk).1
  have hsent : k < (p.host !side).sentMsgs.length := hlt.trans_le (h.core side).received_le
  obtain ⟨hposts, hmessages⟩ := h.first side
  have hm : (p.host !side).sentMsgs[k]? = some (p.host !side).sentMsgs[k] :=
    List.getElem?_eq_getElem hsent
  refine ⟨_, hm, (h.core side).receipt (h.books side).exact hk hm (hroomy.room k _ _ ?_ ?_)⟩
  · rw [← List.getElem?_take_of_lt hlt, hmessages, List.getElem?_take_of_lt hlt, hm]
  · rw [← List.getElem?_take_of_lt hlt, hposts, List.getElem?_map, hk, Option.map_some]

/-- So are the lists of them. -/
lemma Reached.lists (h : Reached cap loc p₀ done p) (hroomy : Apps.Roomy p₀ done side) :
    (p.host side).received.map Completed.entry
        = List.zipWith receipt ((p.host side).received.map Completed.op)
          ((p.host !side).sentMsgs.take (p.host side).received.length)
      ∧ (p.host side).received.map Completed.data
        = (p.host !side).sentMsgs.take (p.host side).received.length := by
  have hget : ∀ k : ℕ, ((p.host side).received[k]? = none
        ∧ ((p.host !side).sentMsgs.take (p.host side).received.length)[k]? = none)
      ∨ ∃ (c : Completed) (m : List UInt8), (p.host side).received[k]? = some c
        ∧ ((p.host !side).sentMsgs.take (p.host side).received.length)[k]? = some m
        ∧ c.entry = receipt c.op m ∧ c.data = m := by
    intro k
    cases hk : (p.host side).received[k]? with
    | none =>
        rw [List.getElem?_eq_none_iff] at hk
        exact .inl ⟨rfl, by rw [List.getElem?_eq_none_iff, List.length_take]; omega⟩
    | some c =>
        obtain ⟨m, hm, hentry, hdata⟩ := h.got hroomy hk
        have hlt := (List.getElem?_eq_some_iff.1 hk).1
        exact .inr ⟨c, m, rfl, by rw [List.getElem?_take_of_lt hlt, hm], hentry, hdata⟩
  constructor
  · refine List.ext_getElem? fun k => ?_
    rw [List.getElem?_map, List.getElem?_zipWith, List.getElem?_map]
    rcases hget k with ⟨hc, hm⟩ | ⟨c, m, hc, hm, hentry, -⟩
    · rw [hc, hm]
      rfl
    · rw [hc, hm, Option.map_some, Option.map_some, hentry]
  · refine List.ext_getElem? fun k => ?_
    rw [List.getElem?_map]
    rcases hget k with ⟨hc, hm⟩ | ⟨c, m, hc, hm, -, hdata⟩
    · rw [hc, hm]
      rfl
    · rw [hc, hm, Option.map_some, hdata]

/-- What was completed in a direction are the first of its posts. -/
lemma Reached.order (h : Reached cap loc p₀ done p) (side : Bool) (dir : Direction) :
    (p.host side).done dir <+: p₀.posts side done dir := ⟨_, (h.books side).order dir⟩

/-- The entries of the sends completed. -/
lemma Reached.sends (h : Reached cap loc p₀ done p) (side : Bool) :
    ((p.host side).completed.filter fun c => c.dir = .send).map Completed.entry
      = ((p₀.posts side done .send).take (p.host side).sentMsgs.length).map sendReceipt := by
  rw [sentMsgs, List.length_map, ← List.prefix_iff_eq_take.1 (h.order side .send), Host.done,
    List.map_map]
  refine List.map_congr_left fun c hc => entry_send ?_
  simpa using (List.mem_filter.1 hc).2

/-- Those of the receives. -/
lemma Reached.receives (h : Reached cap loc p₀ done p) (hroomy : Apps.Roomy p₀ done side) :
    ((p.host side).completed.filter fun c => c.dir = .recv).map Completed.entry
        = List.zipWith receipt ((p₀.posts side done .recv).take (p.host side).received.length)
          ((p₀.messages (!side) done).take (p.host side).received.length)
      ∧ (p.host side).received.map Completed.data
        = (p₀.messages (!side) done).take (p.host side).received.length := by
  obtain ⟨hposts, hmessages⟩ := h.first side
  obtain ⟨hentries, hdata⟩ := h.lists hroomy
  exact ⟨hentries.trans (congrArg₂ (List.zipWith receipt) hposts.symm hmessages.symm),
    hdata.trans hmessages.symm⟩

/-- No completion is an error. -/
lemma Reached.success (h : Reached cap loc p₀ done p) (hroomy : Apps.Roomy p₀ done side) :
    ∀ c ∈ (p.host side).completed, c.err = .success := by
  intro c hc
  cases hdir : c.dir with
  | send => rw [Completed.err, hdir]
  | recv =>
      have hmem : c ∈ (p.host side).received := List.mem_filter.2 ⟨hc, by simp [hdir]⟩
      obtain ⟨k, hk⟩ := List.mem_iff_getElem?.1 hmem
      obtain ⟨m, -, hentry, -⟩ := h.got hroomy hk
      rw [← Completed.err_entry, hentry]
      rfl

end Pair

namespace Apps

open Host

variable {prog : Bool → ℕ → QueueProgress} {cap : BufferLoc → UInt64} {loc : Bool → BufferLoc}
  {a₀ a : Apps}

/-- What an application has seen after a run of the endpoints. -/
lemma seen (hstart : a₀.Start cap loc) {calls : List (Bool × Call)}
    (hreached : Pair.Reached cap loc a₀.shelved calls a.shelved) {side : Bool}
    (hroomy : Roomy a₀.pair calls side) :
    Seen a₀ calls a side (a.pair.host side).sentMsgs.length
      (a.pair.host side).received.length := by
  obtain ⟨hreceives, hdata⟩ := hreached.receives hroomy.shelved
  have hok := hreached.success hroomy.shelved
  have hbooks := hreached.books side
  have hevents (q : ℕ) : a.entries side q
      = entriesFor (a₀.pair.host side).ep.cq (a.pair.host side).completed q true := by
    have heq := hbooks.events q
    simp only [shelved, Host.shelved, hstart.events, List.nil_append] at heq
    exact heq
  constructor
  · rw [sentMsgs, List.length_map]
    exact (hreached.order side .send).length_le
  · rw [length_received]
    exact (hreached.order side .recv).length_le
  · exact hdata
  · intro q
    rw [hevents]
    refine (filter_entriesFor _ hok q .send).trans ?_
    exact if_congr Iff.rfl (hreached.sends side) rfl
  · intro q
    rw [hevents]
    refine (filter_entriesFor _ hok q .recv).trans ?_
    exact if_congr Iff.rfl hreceives rfl
  · intro q e he
    rw [hevents, entriesFor] at he
    obtain ⟨c, -, rfl⟩ := List.mem_map.1 he
    rw [Completed.flags_entry]
    cases c.dir <;> decide
  · intro q
    have heq := hbooks.errors q
    simp only [shelved, Host.shelved, hstart.errors, List.nil_append] at heq
    exact heq.trans (entriesFor_errors _ hok q)

/-- Transport: whatever the order in which the two applications post and read, each of them sees its
first sends complete, and its first receives, the `k`-th of which has got the whole of the `k`-th
message of the peer.  It never receives a message before the peer has sent it, and there are no
other entries. -/
theorem transport (hS : ∀ l, RingSize (cap l)) (hne : ∀ side, loc side ≠ loc !side)
    (hstart : a₀.Start cap loc) {acts : List Act}
    (hroomy : ∀ side, Roomy a₀.pair (acts.flatMap (Act.calls prog)) side)
    (hrun : Stepper.run (step prog) a₀ acts = some a) :
    ∃ sent received : Bool → ℕ, ∀ side, received side ≤ sent !side
      ∧ Seen a₀ (acts.flatMap (Act.calls prog)) a side (sent side) (received side) := by
  have hrun' : Stepper.run Pair.call a₀.shelved (acts.flatMap (Act.calls prog))
      = some a.shelved := by
    rw [run_shelved, hrun]
    rfl
  have hreached : Pair.Reached cap loc a₀.shelved (acts.flatMap (Act.calls prog)) a.shelved :=
    Pair.reached hS hne hstart.shelved (Roomy.fine fun side => (hroomy side).shelved)
      (List.prefix_refl _) hrun'
  exact ⟨fun side => (a.pair.host side).sentMsgs.length,
    fun side => (a.pair.host side).received.length,
    fun side => ⟨(hreached.core side).received_le, seen hstart hreached (hroomy side)⟩⟩

/-! ### Two applications over rings of three words -/

/-- Two endpoints just connected, and nothing read. -/
def threeWords : Apps where
  pair := .threeWords
  events _ _ := []
  errors _ _ := []

lemma start_threeWords : threeWords.Start (fun _ => 24) Pair.twoBuffers where
  pair := Pair.start_threeWords
  events _ _ := ⟨rfl, rfl⟩
  errors _ _ := ⟨rfl, rfl⟩

/-- Both completion queues make progress in both directions. -/
def bothWays (_ : Bool) (_ : ℕ) : QueueProgress := ⟨some .progressSendrecvQueues, some 0⟩

/-- A receive, its message of three bytes, and a read. -/
def oneMessage : List Act :=
  [.call false (.dpaRecv (fun _ => 0) 3 7), .call true (.dpaSend (fun _ => 1) 3 0),
    .read false 0 1 (fun _ _ => .ok) 0]

/-- What is posted when one message and its receive are. -/
def onePost (side : Bool) (dir : Direction) : List MsgQueueEntry :=
  if side = true ∧ dir = .send then [⟨fun _ => 1, 3, 0, 0⟩]
  else if side = false ∧ dir = .recv then [⟨fun _ => 0, 3, 0, 7⟩] else []

lemma posts_oneMessage (side : Bool) (dir : Direction) :
    Pair.threeWords.posts side (oneMessage.flatMap (Act.calls bothWays)) dir
      = onePost side dir := by
  rw [Pair.posts_threeWords]
  cases side <;> cases dir <;> rfl

lemma roomy_onePost {p : Pair} {calls : List (Bool × Call)}
    (hposts : ∀ side dir, p.posts side calls dir = onePost side dir) (side : Bool) :
    Roomy p calls side := by
  constructor
  · intro e he
    rw [hposts, onePost] at he
    cases side with
    | false => simp at he
    | true =>
        obtain rfl : e = _ := by simpa using he
        constructor <;> decide
  · intro k m e hm he
    rw [Pair.messages, hposts, onePost] at hm
    rw [hposts, onePost] at he
    cases side with
    | true => simp at he
    | false =>
        cases k with
        | succ k => simp at he
        | zero =>
            obtain rfl : _ = e := by simpa using he
            obtain rfl : _ = m := by simpa using hm
            decide

/-- The receive is completed by the read. -/
theorem transport_oneMessage :
    ∃ a, Stepper.run (step bothWays) threeWords oneMessage = some a
      ∧ (a.events false 0).length = 1
      ∧ (a.pair.host false).received.map Completed.data = [[1, 1, 1]] := by
  have hview : (Stepper.run (step bothWays) threeWords oneMessage).map (fun a =>
      ((a.events false 0).length, (a.pair.host false).received.length)) = some (1, 1) := by
    decide +kernel
  obtain ⟨a, hrun, ha⟩ := Option.map_eq_some_iff.1 hview
  obtain ⟨hread, hone⟩ := Prod.mk.inj ha
  obtain ⟨sent, received, hseen⟩ :=
    transport (fun _ => ⟨by decide, by decide, by decide⟩) (by decide)
      start_threeWords (roomy_onePost posts_oneMessage) hrun
  refine ⟨a, hrun, hread, ?_⟩
  have hmessages : Pair.threeWords.messages true (oneMessage.flatMap (Act.calls bothWays))
      = [[1, 1, 1]] := by
    rw [Pair.messages, posts_oneMessage]
    rfl
  have hbuffers : (a.pair.host false).received.map Completed.data
      = [[1, 1, 1]].take (received false) :=
    hmessages ▸ (hseen false).2.buffers
  have hlen := congrArg List.length hbuffers
  rw [List.length_map, hone, List.length_take, List.length_singleton] at hlen
  rw [hbuffers, List.take_of_length_le (by rw [List.length_singleton]; omega)]

end Apps

end DpaProvider
