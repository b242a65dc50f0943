import DpaProvider.Msg.Transport
import DpaProvider.Msg.Twins

/-!
Many connections.

A process has many endpoints, which share its completion queues and counters, and all rings lie in
one memory.  `Network.step` lets a process make a call on one of its endpoints, or read a completion
queue, which first makes the progress of the endpoint that was bound to it.

* `shadowed`: what the two ends of a connection do in a network is a run of a pair of endpoints;
* `logged`: a completion queue or counter gets the completions of the endpoints that it is bound to,
  each once;
* `transport_shared`: every connection transports its messages as if it were alone.
-/

namespace DpaProvider

/-! ### Processes with many endpoints -/

/-- Endpoints over one memory.  The endpoints of a process are numbered, and share its completion
queues and counters; what the fields of a `Host` say of these and of the memory is not looked at.
`log` are the completions of all endpoints, the oldest first, and `events` and `errors` the entries
that were read: they record the history. -/
structure Network (ν : Type) where
  host : ν × ℕ → Host
  mem : BufferLoc → RingBuffer
  cqs : ν → ℕ → CompletionQueue
  cntrs : ν → ℕ → Cntr
  log : List ((ν × ℕ) × Completed)
  events : ν → ℕ → List CqErrEntry
  errors : ν → ℕ → List CqErrEntry

namespace Network

open Host Apps

/-! ### The two ends of a connection -/

/-- The other end of each connection, and the ring of each endpoint.  No two endpoints have the same
ring. -/
structure Wiring (ν : Type) where
  ends : Set (ν × ℕ)
  peer : ν × ℕ → ν × ℕ
  loc : ν × ℕ → BufferLoc
  peer_mem : ∀ i ∈ ends, peer i ∈ ends
  peer_peer : ∀ i ∈ ends, peer (peer i) = i
  peer_ne : ∀ i ∈ ends, peer i ≠ i
  apart : Set.InjOn loc ends

namespace Wiring

variable {ν : Type} {W : Wiring ν} {i : ν × ℕ}

/-- An end of the connection of an endpoint. -/
def tip (W : Wiring ν) (i : ν × ℕ) (side : Bool) : ν × ℕ := if side then i else W.peer i

lemma tip_mem (hi : i ∈ W.ends) (side : Bool) : W.tip i side ∈ W.ends := by
  cases side
  · exact W.peer_mem i hi
  · exact hi

lemma peer_tip (hi : i ∈ W.ends) (side : Bool) : W.peer (W.tip i side) = W.tip i !side := by
  cases side
  · exact W.peer_peer i hi
  · rfl

lemma tip_ne (hi : i ∈ W.ends) (side : Bool) : W.tip i side ≠ W.tip i !side := by
  cases side
  · exact W.peer_ne i hi
  · exact (W.peer_ne i hi).symm

lemma loc_tip_ne (hi : i ∈ W.ends) (side : Bool) : W.loc (W.tip i side) ≠ W.loc (W.tip i !side) :=
  fun heq => W.tip_ne hi side (W.apart (W.tip_mem hi side) (W.tip_mem hi !side) heq)

end Wiring

/-! ### Calls and reads -/

variable {ν : Type} [DecidableEq ν]

/-- One endpoint, with what it shares. -/
def focus (n : Network ν) (i : ν × ℕ) : Host :=
  { n.host i with mem := n.mem, cqs := n.cqs i.1, cntrs := n.cntrs i.1 }

/-- A call on one endpoint. -/
def call (n : Network ν) (c : (ν × ℕ) × Call) : Option (Network ν) :=
  ((n.focus c.1).call c.2).map fun h =>
    { n with
      host := Function.update n.host c.1 h
      mem := h.mem
      cqs := Function.update n.cqs c.1.1 h.cqs
      cntrs := Function.update n.cntrs c.1.1 h.cntrs
      log := n.log ++ (h.completed.drop (n.host c.1).completed.length).map fun d => (c.1, d) }

/-- What a process does. -/
inductive Act (ν : Type) where
  | call (i : ν × ℕ) (c : Call)
  /-- One pass of `dpa_cq_sreadfrom`, the first of which has no timeout. -/
  | read (v : ν) (q count : ℕ) (wait : Direction → ℤ → DpaError) (timeout : ℤ)
  | readerr (v : ν) (q : ℕ)

/-- The calls of an action: a read makes the progress of the endpoint that the completion queue was
bound to last.  `bind_progress` sets no function without an endpoint. -/
def Act.calls (prog : ν → ℕ → QueueProgress) : Act ν → List ((ν × ℕ) × Call)
  | .call i c => [(i, c)]
  | .read v q _ wait timeout =>
      ((prog v q).makeQueueProgress wait timeout).2.filterMap fun c =>
        c.1.map fun ep => ((v, ep), processing c.2)
  | .readerr .. => []

/-- A read of a completion queue. -/
def reading (n : Network ν) (v : ν) (q : ℕ) (read : CompletionQueue → CqRead) : Network ν :=
  let r := read (n.cqs v q)
  { n with
    cqs := Function.update n.cqs v (Function.update (n.cqs v) q r.left)
    events := Function.update n.events v
      (Function.update (n.events v) q (n.events v q ++ r.events))
    errors := Function.update n.errors v
      (Function.update (n.errors v) q (n.errors v q ++ r.errors)) }

/-- What an action reads, after its calls. -/
def take (n : Network ν) : Act ν → Network ν
  | .call .. => n
  | .read v q count _ _ => n.reading v q (readEvents count)
  | .readerr v q => n.reading v q (readErrors 1)

/-- An action; none if a call of it does not return. -/
def step (prog : ν → ℕ → QueueProgress) (n : Network ν) (act : Act ν) : Option (Network ν) :=
  (Stepper.run call n (act.calls prog)).map fun n => n.take act

/-- The operations posted to an endpoint: those queued at first, and those of the calls. -/
def posts (n : Network ν) (i : ν × ℕ) (calls : List ((ν × ℕ) × Call)) (dir : Direction) :
    List MsgQueueEntry :=
  ((n.host i).queue dir).contents
    ++ calls.flatMap fun c => if c.1 = i then c.2.action.posted dir else []

/-- The messages posted to an endpoint. -/
def messages (n : Network ν) (i : ν × ℕ) (calls : List ((ν × ℕ) × Call)) : List (List UInt8) :=
  (n.posts i calls .send).map MsgQueueEntry.bytes

/-! ### A pair that does what the ends of a connection do -/

variable {cap : BufferLoc → UInt64} {W : Wiring ν} {n n' : Network ν} {p : Pair} {i : ν × ℕ}
  {calls : List ((ν × ℕ) × Call)}

namespace Wiring

/-- The call on the pair, if it is on an end of the connection. -/
def onPair (W : Wiring ν) (i : ν × ℕ) (c : (ν × ℕ) × Call) : Option (Bool × Call) :=
  if c.1 = i then some (true, c.2) else if c.1 = W.peer i then some (false, c.2) else none

/-- A call is on an end of a connection, or on another endpoint, with other rings. -/
lemma onPair_cases (hi : i ∈ W.ends) {c : (ν × ℕ) × Call} (hc : c.1 ∈ W.ends) :
    (∃ side, c.1 = W.tip i side ∧ W.onPair i c = some (side, c.2))
      ∨ W.onPair i c = none ∧ ∀ side, W.tip i side ≠ c.1
        ∧ W.loc (W.tip i side) ≠ W.loc c.1 ∧ W.loc (W.tip i side) ≠ W.loc (W.peer c.1) := by
  by_cases htrue : c.1 = i
  · exact .inl ⟨true, htrue, if_pos htrue⟩
  · by_cases hfalse : c.1 = W.peer i
    · exact .inl ⟨false, hfalse, by rw [onPair, if_neg htrue, if_pos hfalse]⟩
    · refine .inr ⟨by rw [onPair, if_neg htrue, if_neg hfalse], fun side => ?_⟩
      have hne (side : Bool) : W.tip i side ≠ c.1 := by
        cases side
        · exact Ne.symm hfalse
        · exact Ne.symm htrue
      refine ⟨hne side, fun heq => hne side (W.apart (W.tip_mem hi side) hc heq), fun heq => ?_⟩
      have hpeer := W.apart (W.tip_mem hi side) (W.peer_mem _ hc) heq
      rw [← W.peer_peer _ hc, ← hpeer, W.peer_tip hi] at hne
      exact hne (!side) rfl

end Wiring

/-- A pair of endpoints that does what the two ends of a connection do. -/
def Shadows (cap : BufferLoc → UInt64) (W : Wiring ν) (i : ν × ℕ) (n : Network ν) (p : Pair) :
    Prop :=
  ∀ side, Twin cap (W.loc (W.tip i side)) (W.loc (W.tip i !side)) (n.focus (W.tip i side))
    (p.focus side)

/-- The endpoints of all connections are wired. -/
def AllWired (cap : BufferLoc → UInt64) (W : Wiring ν) (n : Network ν) : Prop :=
  ∀ i ∈ W.ends, Wired cap (W.loc i) (W.loc (W.peer i)) (n.host i)

/-- What a call on an endpoint leaves of the network. -/
lemma call_cases {c : (ν × ℕ) × Call} (heq : n.call c = some n') :
    ∃ h, (n.focus c.1).call c.2 = some h ∧ n'.focus c.1 = h
      ∧ (∀ j, j ≠ c.1 → n'.host j = n.host j) ∧ n'.mem = h.mem := by
  obtain ⟨h, hcall, rfl⟩ := Option.map_eq_some_iff.1 heq
  refine ⟨h, hcall, ?_, fun j hj => Function.update_of_ne hj _ _, rfl⟩
  simp only [focus, Function.update_self]

lemma AllWired.call (hw : AllWired cap W n) {c : (ν × ℕ) × Call} (heq : n.call c = some n') :
    AllWired cap W n' := by
  obtain ⟨h, hcall, hfocus, hother, -⟩ := call_cases heq
  intro j hj
  by_cases hjc : j = c.1
  · subst hjc
    rw [call_eq_act] at hcall
    have hwired : Wired cap (W.loc c.1) (W.loc (W.peer c.1)) (n.focus c.1) := (hw c.1 hj).congr rfl
    exact (hfocus ▸ hwired.act (toOption_eq_some hcall)).congr rfl
  · rw [hother j hjc]
    exact hw j hj

omit [DecidableEq ν] in
/-- The state of an endpoint that makes no call, while its rings stay or those of its twin are
changed alike. -/
lemma Shadows.other {j : ν × ℕ} {own peer : BufferLoc} {q : Pair} {side : Bool}
    (ht : Twin cap own peer (n.focus j) (p.focus side)) (hhost : n'.host j = n.host j)
    (hhost' : q.host side = p.host side) (hown : q.mem own = n'.mem own)
    (hpeer : q.mem peer = n'.mem peer) : Twin cap own peer (n'.focus j) (q.focus side) where
  wired := by
    have hep : (n'.host j).ep = (n.host j).ep := congrArg Host.ep hhost
    exact ht.wired.congr hep
  ep := (congrArg Host.ep hhost').trans (ht.ep.trans (congrArg Host.ep hhost).symm)
  own := hown
  peer := hpeer
  triggered := (congrArg Host.triggered hhost').trans
    (ht.triggered.trans (congrArg Host.triggered hhost).symm)
  accesses := (congrArg Host.accesses hhost').trans
    (ht.accesses.trans (congrArg Host.accesses hhost).symm)
  tried := (congrArg Host.tried hhost').trans (ht.tried.trans (congrArg Host.tried hhost).symm)
  completed := (congrArg Host.completed hhost').trans
    (ht.completed.trans (congrArg Host.completed hhost).symm)

/-- The pair makes the calls of the ends, and no others. -/
lemma Shadows.call (hi : i ∈ W.ends) (hw : AllWired cap W n) (hs : Shadows cap W i n p)
    {c : (ν × ℕ) × Call} (hc : c.1 ∈ W.ends) (heq : n.call c = some n') :
    ∃ p', Stepper.run Pair.call p (W.onPair i c).toList = some p' ∧ Shadows cap W i n' p' := by
  obtain ⟨h, hcall, hfocus, hother, hmem⟩ := call_cases heq
  rcases W.onPair_cases hi hc with ⟨side, hside, hon⟩ | ⟨hon, haway⟩
  · rw [hside] at hcall hfocus hother
    obtain ⟨g, hcall', ht⟩ :=
      (simulates_twin (W.loc_tip_ne hi side)).call (hs side) hcall
    refine ⟨{ host := Function.update p.host side g, mem := g.mem }, ?_, fun s => ?_⟩
    · rw [hon, Option.toList_some, Stepper.run_cons, Pair.call, hcall']
      rfl
    · by_cases hsame : s = side
      · subst hsame
        rw [hfocus]
        simp only [Pair.focus, Function.update_self]
        exact ht
      · obtain rfl : s = !side := by cases s <;> cases side <;> simp_all
        refine Shadows.other (hs !side) (hother _ (W.tip_ne hi side).symm)
          (Function.update_of_ne hsame _ _) ?_ ?_
        · exact ht.peer.trans (congrFun hmem _).symm
        · rw [Bool.not_not]
          exact ht.own.trans (congrFun hmem _).symm
  · refine ⟨p, by rw [hon]; rfl, fun side => ?_⟩
    obtain ⟨hne, hown, hpeer⟩ := haway side
    obtain ⟨-, hown', hpeer'⟩ := haway !side
    have hwired : Wired cap (W.loc c.1) (W.loc (W.peer c.1)) (n.focus c.1) := (hw c.1 hc).congr rfl
    have hkept := call_mem hwired hcall
    refine Shadows.other (hs side) (hother _ hne) rfl ?_ ?_
    · rw [hmem, hkept _ hown hpeer]
      exact (hs side).own
    · rw [hmem, hkept _ hown' hpeer']
      exact (hs side).peer

/-- So it does in a run. -/
lemma Shadows.run (hi : i ∈ W.ends) (hw : AllWired cap W n) (hs : Shadows cap W i n p)
    (hcalls : ∀ c ∈ calls, c.1 ∈ W.ends) (hrun : Stepper.run Network.call n calls = some n') :
    AllWired cap W n' ∧ ∃ p', Stepper.run Pair.call p (calls.filterMap (W.onPair i)) = some p'
      ∧ Shadows cap W i n' p' := by
  induction calls generalizing n p with
  | nil =>
      obtain rfl : n = n' := by simpa using hrun
      exact ⟨hw, p, rfl, hs⟩
  | cons c calls ih =>
      obtain ⟨n₁, hcall, hrun⟩ := Stepper.run_cons_some _ hrun
      obtain ⟨hc, hcalls⟩ := List.forall_mem_cons.1 hcalls
      obtain ⟨p₁, hrun₁, hs₁⟩ := hs.call hi hw hc hcall
      obtain ⟨hw', p', hrun', hs'⟩ := ih (hw.call hcall) hs₁ hcalls hrun
      have hsplit : (c :: calls).filterMap (W.onPair i)
          = (W.onPair i c).toList ++ calls.filterMap (W.onPair i) := by
        rw [List.filterMap_cons]
        cases W.onPair i c <;> rfl
      refine ⟨hw', p', ?_, hs'⟩
      rw [hsplit, Stepper.run_append, hrun₁, Option.bind_some, hrun']

lemma AllWired.take (hw : AllWired cap W n) (act : Act ν) : AllWired cap W (n.take act) := by
  cases act <;> exact hw

/-- The pair does not look at what is read. -/
lemma Shadows.take (hs : Shadows cap W i n p) (act : Act ν) : Shadows cap W i (n.take act) p := by
  cases act with
  | call j c => exact hs
  | read v q count wait timeout | readerr v q =>
      exact fun side => Shadows.other (hs side) rfl rfl (hs side).own (hs side).peer

variable {prog : ν → ℕ → QueueProgress}

/-- A run of the processes, for a connection. -/
theorem shadowed (hi : i ∈ W.ends) (hw : AllWired cap W n) (hs : Shadows cap W i n p)
    {acts : List (Act ν)} (hcalls : ∀ c ∈ acts.flatMap (Act.calls prog), c.1 ∈ W.ends)
    (hrun : Stepper.run (step prog) n acts = some n') :
    ∃ p', Stepper.run Pair.call p ((acts.flatMap (Act.calls prog)).filterMap (W.onPair i)) = some p'
      ∧ Shadows cap W i n' p' := by
  induction acts generalizing n p with
  | nil =>
      obtain rfl : n = n' := by simpa using hrun
      exact ⟨p, rfl, hs⟩
  | cons act acts ih =>
      obtain ⟨n₁, hstep, hrun⟩ := Stepper.run_cons_some _ hrun
      obtain ⟨n₂, hact, rfl⟩ := Option.map_eq_some_iff.1 hstep
      rw [List.flatMap_cons, List.forall_mem_append] at hcalls
      obtain ⟨hw₂, p₂, hrun₂, hs₂⟩ := hs.run hi hw hcalls.1 hact
      obtain ⟨p', hrun', hs'⟩ := ih (hw₂.take act) (hs₂.take act) hcalls.2 hrun
      refine ⟨p', ?_, hs'⟩
      rw [List.flatMap_cons, List.filterMap_append, Stepper.run_append, hrun₂, Option.bind_some,
        hrun']

/-! ### The completion queues and counters of a process -/

/-- The completions that are due to a completion queue or counter of a process, given what is bound
to the endpoints: the successful ones, or the others. -/
def due (bound : ν × ℕ → Direction → Option ℕ) (log : List ((ν × ℕ) × Completed)) (v : ν) (q : ℕ)
    (ok : Bool) : List Completed :=
  (log.filter fun d =>
    d.1.1 = v ∧ bound d.1 d.2.dir = some q ∧ decide (d.2.err = .success) = ok).map Prod.snd

/-- The log holds the completions of each endpoint since `n₀`, each of which has put one entry into
the completion queue that is bound for its direction, and one increment into the counter. -/
structure Logged (n₀ : Network ν) (ends : Set (ν × ℕ)) (n : Network ν) : Prop where
  cq : ∀ i, (n.host i).ep.cq = (n₀.host i).ep.cq
  cntr : ∀ i, (n.host i).ep.cntr = (n₀.host i).ep.cntr
  mem : ∀ d ∈ n.log, d.1 ∈ ends
  completed : ∀ i ∈ ends, (n.log.filter fun d => d.1 = i).map Prod.snd = (n.host i).completed
  events : ∀ v q, n.events v q ++ (n.cqs v q).eventQueue
    = (due (fun i => (n₀.host i).ep.cq) n.log v q true).map Completed.entry
  errors : ∀ v q, n.errors v q ++ (n.cqs v q).errorQueue
    = (due (fun i => (n₀.host i).ep.cq) n.log v q false).map Completed.entry
  counter : ∀ v k, (n.cntrs v k).counter = (n₀.cntrs v k).counter
    + (due (fun i => (n₀.host i).ep.cntr) n.log v k true).length
  err : ∀ v k, (n.cntrs v k).err = (n₀.cntrs v k).err
    + (due (fun i => (n₀.host i).ep.cntr) n.log v k false).length

lemma due_append (bound : ν × ℕ → Direction → Option ℕ) (log : List ((ν × ℕ) × Completed))
    (j : ν × ℕ) (new : List Completed) (v : ν) (q : ℕ) (ok : Bool) :
    due bound (log ++ new.map (j, ·)) v q ok = due bound log v q ok ++ if j.1 = v then
      new.filter fun c => bound j c.dir = some q ∧ decide (c.err = .success) = ok else [] := by
  rw [due, List.filter_append, List.map_append, ← due, List.filter_map, List.map_map]
  by_cases hv : j.1 = v
  · simp [Function.comp_def, hv]
  · simp [Function.comp_def, hv]

variable {n₀ : Network ν} {ends : Set (ν × ℕ)}

lemma Logged.call (hl : Logged n₀ ends n) {c : (ν × ℕ) × Call} (hc : c.1 ∈ ends)
    (heq : n.call c = some n') : Logged n₀ ends n' := by
  obtain ⟨h, hcall, rfl⟩ := Option.map_eq_some_iff.1 heq
  obtain ⟨new, hnew, hledger⟩ := call_ledger hcall
  replace hnew : h.completed = (n.host c.1).completed ++ new := hnew
  have hdrop : h.completed.drop (n.host c.1).completed.length = new := by
    rw [hnew, List.drop_left]
  have hcq : (n.focus c.1).ep.cq = (n₀.host c.1).ep.cq := hl.cq c.1
  have hcntr : (n.focus c.1).ep.cntr = (n₀.host c.1).ep.cntr := hl.cntr c.1
  have hhost {α : Type} (part : Host → α) (hpart : part h = part (n.focus c.1))
      (hfocus : part (n.focus c.1) = part (n.host c.1)) (i : ν × ℕ) :
      part (Function.update n.host c.1 h i) = part (n.host i) := by
    by_cases hi : i = c.1
    · rw [hi, Function.update_self, hpart, hfocus]
    · rw [Function.update_of_ne hi]
  have hqueue (ok : Bool) (read : ν → ℕ → List CqErrEntry)
      (part : CompletionQueue → List CqErrEntry)
      (hold : ∀ v q, read v q ++ part (n.cqs v q)
        = (due (fun i => (n₀.host i).ep.cq) n.log v q ok).map Completed.entry)
      (hcall : ∀ q, part (h.cqs q)
        = part (n.cqs c.1.1 q) ++ entriesFor (n₀.host c.1).ep.cq new q ok) (v : ν) (q : ℕ) :
      read v q ++ part (Function.update n.cqs c.1.1 h.cqs v q)
        = (due (fun i => (n₀.host i).ep.cq) (n.log ++ new.map (c.1, ·)) v q ok).map
          Completed.entry := by
    rw [due_append, List.map_append, ← hold]
    by_cases hv : c.1.1 = v
    · subst hv
      rw [if_pos rfl, Function.update_self, hcall, List.append_assoc]
      rfl
    · rw [if_neg hv, Function.update_of_ne (Ne.symm hv), List.map_nil, List.append_nil]
  have hcount (ok : Bool) (part : Cntr → ℕ)
      (hold : ∀ v k, part (n.cntrs v k) = part (n₀.cntrs v k)
        + (due (fun i => (n₀.host i).ep.cntr) n.log v k ok).length)
      (hcall : ∀ k, part (h.cntrs k)
        = part (n.cntrs c.1.1 k) + incrementsFor (n₀.host c.1).ep.cntr new k ok) (v : ν) (k : ℕ) :
      part (Function.update n.cntrs c.1.1 h.cntrs v k) = part (n₀.cntrs v k)
        + (due (fun i => (n₀.host i).ep.cntr) (n.log ++ new.map (c.1, ·)) v k ok).length := by
    rw [due_append, List.length_append, ← Nat.add_assoc, ← hold]
    by_cases hv : c.1.1 = v
    · subst hv
      rw [if_pos rfl, Function.update_self, hcall]
      rfl
    · rw [if_neg hv, Function.update_of_ne (Ne.symm hv), List.length_nil, Nat.add_zero]
  simp only [hdrop]
  constructor
  case cq => exact fun i => (hhost (·.ep.cq) hledger.cq rfl i).trans (hl.cq i)
  case cntr => exact fun i => (hhost (·.ep.cntr) hledger.cntr rfl i).trans (hl.cntr i)
  case mem =>
    intro d hd
    rcases List.mem_append.1 hd with hd | hd
    · exact hl.mem d hd
    · obtain ⟨x, -, rfl⟩ := List.mem_map.1 hd
      exact hc
  case completed =>
    intro i hi
    rw [List.filter_append, List.map_append, hl.completed i hi, List.filter_map, List.map_map]
    by_cases hic : i = c.1
    · subst hic
      simp [Function.comp_def, hnew]
    · simp [Function.comp_def, Ne.symm hic, hic]
  case events =>
    exact hqueue true n.events (·.eventQueue) hl.events fun q => hcq ▸ hledger.events q
  case errors =>
    exact hqueue false n.errors (·.errorQueue) hl.errors fun q => hcq ▸ hledger.errors q
  case counter =>
    exact hcount true (·.counter) hl.counter fun k => hcntr ▸ hledger.counter k
  case err => exact hcount false (·.err) hl.err fun k => hcntr ▸ hledger.err k

lemma Logged.run (hl : Logged n₀ ends n) (hcalls : ∀ c ∈ calls, c.1 ∈ ends)
    (hrun : Stepper.run Network.call n calls = some n') : Logged n₀ ends n' :=
  Stepper.run_induction (C := fun _ c => c.1 ∈ ends) (fun _ _ _ hl hc heq => hl.call hc heq) hl
    (Stepper.meets_of_forall hcalls) hrun

/-- What is read leaves the queue. -/
lemma Logged.reading (hl : Logged n₀ ends n) (v : ν) (q : ℕ) {read : CompletionQueue → CqRead}
    (hread : ∀ cq, (read cq).events ++ (read cq).left.eventQueue = cq.eventQueue
      ∧ (read cq).errors ++ (read cq).left.errorQueue = cq.errorQueue) :
    Logged n₀ ends (n.reading v q read) := by
  refine ⟨hl.cq, hl.cntr, hl.mem, hl.completed, fun w k => ?_, fun w k => ?_, hl.counter, hl.err⟩
  · rw [show (n.reading v q read).log = n.log from rfl, ← hl.events w k]
    by_cases hw : w = v
    · subst hw
      by_cases hk : k = q
      · subst hk
        simp only [Network.reading, Function.update_self, List.append_assoc, (hread _).1]
      · simp only [Network.reading, Function.update_self, Function.update_of_ne hk]
    · simp only [Network.reading, Function.update_of_ne hw]
  · rw [show (n.reading v q read).log = n.log from rfl, ← hl.errors w k]
    by_cases hw : w = v
    · subst hw
      by_cases hk : k = q
      · subst hk
        simp only [Network.reading, Function.update_self, List.append_assoc, (hread _).2]
      · simp only [Network.reading, Function.update_self, Function.update_of_ne hk]
    · simp only [Network.reading, Function.update_of_ne hw]

lemma Logged.take (hl : Logged n₀ ends n) (act : Act ν) : Logged n₀ ends (n.take act) := by
  cases act with
  | call j c => exact hl
  | read v q count wait timeout =>
      exact hl.reading v q fun cq => ⟨List.take_append_drop _ _, rfl⟩
  | readerr v q => exact hl.reading v q fun cq => ⟨rfl, List.take_append_drop _ _⟩

/-- The log is kept in every run of the processes. -/
theorem logged (hl : Logged n₀ ends n) {acts : List (Act ν)}
    (hcalls : ∀ c ∈ acts.flatMap (Act.calls prog), c.1 ∈ ends)
    (hrun : Stepper.run (step prog) n acts = some n') : Logged n₀ ends n' := by
  refine Stepper.run_induction (C := fun _ act => ∀ c ∈ Act.calls prog act, c.1 ∈ ends)
    (fun n act n' hl hact hstep => ?_) hl (Stepper.meets_of_forall fun act hact c hc =>
      hcalls c (List.mem_flatMap.2 ⟨act, hact, hc⟩)) hrun
  obtain ⟨n₁, hrun, rfl⟩ := Option.map_eq_some_iff.1 hstep
  exact (hl.run hact hrun).take act

/-! ### What the applications see -/

/-- Endpoints that have just been connected. -/
structure Start (cap : BufferLoc → UInt64) (W : Wiring ν) (n : Network ν) : Prop where
  wired : AllWired cap W n
  write : ∀ i ∈ W.ends, (n.host i).ep.sendInfo.write = 0
  read : ∀ i ∈ W.ends, (n.host i).ep.recvInfo.read = 0
  zeroed : ∀ i ∈ W.ends, ∀ a < (cap (W.loc i)).toNat, (n.mem (W.loc i)).data a = 0
  status : ∀ i ∈ W.ends, (n.mem (W.loc i)).read = 0
  completed : ∀ i ∈ W.ends, (n.host i).completed = []
  log : n.log = []
  events : ∀ v q, n.events v q ++ (n.cqs v q).eventQueue = []
  errors : ∀ v q, n.errors v q ++ (n.cqs v q).errorQueue = []

/-- A frame can carry the messages of an endpoint, and its receives are as long as the messages that
they get. -/
structure Roomy (W : Wiring ν) (n : Network ν) (calls : List ((ν × ℕ) × Call)) (i : ν × ℕ) :
    Prop where
  sendable : ∀ e ∈ n.posts i calls .send, e.Sendable
  room : ∀ (k : ℕ) (m : List UInt8) (e : MsgQueueEntry),
    (n.messages (W.peer i) calls)[k]? = some m → (n.posts i calls .recv)[k]? = some e →
      m.length ≤ e.len.toNat

/-- These numbers of sends and receives of an endpoint are complete. -/
structure Seen (W : Wiring ν) (n₀ : Network ν) (calls : List ((ν × ℕ) × Call)) (n : Network ν)
    (i : ν × ℕ) (sent received : ℕ) : Prop where
  sent_le : sent ≤ (n₀.posts i calls .send).length
  received_le : received ≤ (n₀.posts i calls .recv).length
  /-- The first messages of the peer are in the buffers of the first receives. -/
  buffers : (n.host i).received.map Completed.data = (n₀.messages (W.peer i) calls).take received
  sends : ((n.host i).completed.filter fun c => c.dir = .send).map Completed.entry
    = ((n₀.posts i calls .send).take sent).map sendReceipt
  receives : ((n.host i).completed.filter fun c => c.dir = .recv).map Completed.entry
    = List.zipWith receipt ((n₀.posts i calls .recv).take received)
      ((n₀.messages (W.peer i) calls).take received)

/-- The two ends of a connection, as a pair. -/
def pairOf (W : Wiring ν) (i : ν × ℕ) (n : Network ν) : Pair where
  host side := n.host (W.tip i side)
  mem := n.mem

lemma posts_pairOf (hi : i ∈ W.ends) (side : Bool) (dir : Direction) :
    (n.pairOf W i).posts side (calls.filterMap (W.onPair i)) dir
      = n.posts (W.tip i side) calls dir := by
  refine congrArg (((n.host (W.tip i side)).queue dir).contents ++ ·) ?_
  induction calls with
  | nil => rfl
  | cons c calls ih =>
      have hne := W.tip_ne hi
      rw [List.filterMap_cons, List.flatMap_cons, ← ih]
      by_cases htrue : c.1 = i
      · rw [Wiring.onPair, if_pos htrue]
        cases side
        · simp [htrue, Wiring.tip, (W.peer_ne i hi).symm]
        · simp [htrue, Wiring.tip]
      · by_cases hfalse : c.1 = W.peer i
        · rw [Wiring.onPair, if_neg htrue, if_pos hfalse]
          cases side
          · simp [hfalse, Wiring.tip]
          · simp [hfalse, Wiring.tip, W.peer_ne i hi]
        · rw [Wiring.onPair, if_neg htrue, if_neg hfalse]
          cases side
          · simp [Wiring.tip, hfalse]
          · simp [Wiring.tip, htrue]

omit [DecidableEq ν] in
lemma shadows_pairOf (hw : AllWired cap W n) (hi : i ∈ W.ends) :
    Shadows cap W i n (n.pairOf W i) := by
  refine fun side => ⟨?_, rfl, rfl, rfl, rfl, rfl, rfl, rfl⟩
  have hwired := hw (W.tip i side) (W.tip_mem hi side)
  rw [W.peer_tip hi] at hwired
  exact hwired.congr rfl

omit [DecidableEq ν] in
lemma Start.pairOf (hstart : n.Start cap W) (hi : i ∈ W.ends) :
    (n.pairOf W i).Start cap fun side => W.loc (W.tip i side) where
  wired side := (shadows_pairOf hstart.wired hi side).wired.congr rfl
  write side := hstart.write _ (W.tip_mem hi side)
  read side := hstart.read _ (W.tip_mem hi side)
  zeroed side := hstart.zeroed _ (W.tip_mem hi side)
  status side := hstart.status _ (W.tip_mem hi side)
  completed side := hstart.completed _ (W.tip_mem hi side)

lemma Start.logged (hstart : n.Start cap W) :
    Logged n W.ends n where
  cq _ := rfl
  cntr _ := rfl
  mem d hd := by
    rw [hstart.log] at hd
    exact absurd hd List.not_mem_nil
  completed i hi := by rw [hstart.log, hstart.completed i hi]; rfl
  events v q := by rw [hstart.events, hstart.log]; rfl
  errors v q := by rw [hstart.errors, hstart.log]; rfl
  counter v k := by rw [hstart.log]; rfl
  err v k := by rw [hstart.log]; rfl

lemma Roomy.pairOf (hi : i ∈ W.ends) (hroomy : ∀ j ∈ W.ends, Roomy W n calls j) (side : Bool) :
    Apps.Roomy (n.pairOf W i) (calls.filterMap (W.onPair i)) side := by
  have hr := hroomy (W.tip i side) (W.tip_mem hi side)
  constructor
  · rw [posts_pairOf hi]
    exact hr.sendable
  · rw [Pair.messages, posts_pairOf hi, posts_pairOf hi, ← W.peer_tip hi]
    exact hr.room

/-- What the ends of one connection see after the run of its pair. -/
lemma seen_pairOf (hi : i ∈ W.ends) (hroomy : ∀ j ∈ W.ends, Roomy W n calls j)
    (hreached : Pair.Reached cap (fun side => W.loc (W.tip i side)) (n.pairOf W i)
      (calls.filterMap (W.onPair i)) p) (hs : Shadows cap W i n' p) :
    Seen W n calls n' i (n'.host i).sentMsgs.length (n'.host i).received.length := by
  have hcompleted : (p.host true).completed = (n'.host i).completed := (hs true).completed
  have hposts (dir : Direction) : (n.pairOf W i).posts true (calls.filterMap (W.onPair i)) dir
      = n.posts i calls dir := posts_pairOf hi true dir
  have hmessages : (n.pairOf W i).messages (!true) (calls.filterMap (W.onPair i))
      = n.messages (W.peer i) calls :=
    congrArg (List.map MsgQueueEntry.bytes) (posts_pairOf hi false .send)
  have hdone (dir : Direction) : (p.host true).done dir = (n'.host i).done dir := by
    rw [Host.done, hcompleted, Host.done]
  have hreceived : (p.host true).received = (n'.host i).received := by
    rw [Host.received, hcompleted, Host.received]
  have hsent : (p.host true).sentMsgs = (n'.host i).sentMsgs := by
    rw [Host.sentMsgs, hdone, Host.sentMsgs]
  obtain ⟨hreceives, hdata⟩ := hreached.receives (Roomy.pairOf hi hroomy true)
  have hsends := hreached.sends true
  have horder (dir : Direction) := (hreached.order true dir).length_le
  rw [hreceived, hmessages] at hreceives hdata
  rw [hposts, hcompleted] at hreceives
  rw [hcompleted] at hsends
  rw [hsent, hposts] at hsends
  refine ⟨?_, ?_, hdata, hsends, hreceives⟩
  · rw [sentMsgs, List.length_map, ← hposts, ← hdone]
    exact horder .send
  · rw [length_received, ← hposts, ← hdone]
    exact horder .recv

/-- The ends of every connection see what they would see if they were alone, whatever else the
processes do; and a completion queue has got one entry, and a counter one increment, for each of the
completions of the endpoints that it is bound to, in their order, and none for an error. -/
theorem transport_shared (hS : ∀ l, RingSize (cap l)) (hstart : n.Start cap W)
    {acts : List (Act ν)} (hcalls : ∀ c ∈ acts.flatMap (Act.calls prog), c.1 ∈ W.ends)
    (hroomy : ∀ i ∈ W.ends, Roomy W n (acts.flatMap (Act.calls prog)) i)
    (hrun : Stepper.run (step prog) n acts = some n') :
    (∃ sent received : ν × ℕ → ℕ, ∀ i ∈ W.ends, received i ≤ sent (W.peer i)
        ∧ Seen W n (acts.flatMap (Act.calls prog)) n' i (sent i) (received i))
      ∧ Logged n W.ends n'
      ∧ ∀ v q, n'.errors v q ++ (n'.cqs v q).errorQueue = [] := by
  have hlogged := logged hstart.logged hcalls hrun
  have hpair (i : ν × ℕ) (hi : i ∈ W.ends) : ∃ p, Shadows cap W i n' p
      ∧ Pair.Reached cap (fun side => W.loc (W.tip i side)) (n.pairOf W i)
        ((acts.flatMap (Act.calls prog)).filterMap (W.onPair i)) p := by
    obtain ⟨p, hrun', hs⟩ :=
      shadowed hi hstart.wired (shadows_pairOf hstart.wired hi) hcalls hrun
    exact ⟨p, hs, Pair.reached hS (W.loc_tip_ne hi) (hstart.pairOf hi)
      (Apps.Roomy.fine (Roomy.pairOf hi hroomy)) (List.prefix_refl _) hrun'⟩
  have hok : ∀ d ∈ n'.log, d.2.err = .success := by
    intro d hd
    have hi := hlogged.mem d hd
    obtain ⟨p, hs, hreached⟩ := hpair d.1 hi
    have hmem : d.2 ∈ (n'.host d.1).completed := by
      rw [← hlogged.completed d.1 hi]
      exact List.mem_map_of_mem (List.mem_filter.2 ⟨hd, by simp⟩)
    have hcompleted : (p.host true).completed = (n'.host d.1).completed := (hs true).completed
    exact hreached.success (Roomy.pairOf hi hroomy true) d.2 (hcompleted ▸ hmem)
  refine ⟨⟨fun i => (n'.host i).sentMsgs.length, fun i => (n'.host i).received.length,
    fun i hi => ?_⟩, hlogged, fun v q => ?_⟩
  · obtain ⟨p, hs, hreached⟩ := hpair i hi
    refine ⟨?_, seen_pairOf hi hroomy hreached hs⟩
    have hcompleted : (p.host true).completed = (n'.host i).completed := (hs true).completed
    have hcompleted' : (p.host false).completed = (n'.host (W.peer i)).completed :=
      (hs false).completed
    have hle : (p.host true).received.length ≤ (p.host false).sentMsgs.length :=
      (hreached.core true).received_le
    rwa [Host.sentMsgs, Host.received, Host.done, hcompleted, hcompleted'] at hle
  · rw [hlogged.errors, due, List.map_eq_nil_iff, List.map_eq_nil_iff, List.filter_eq_nil_iff]
    intro d hd
    simp [hok d hd]

/-! ### Two connections between two processes -/

/-- The ring of an endpoint in the memory of its process. -/
def twoRings (i : Bool × ℕ) : BufferLoc := ⟨i.1.toNat.toUInt32, i.2.toUInt32, 0⟩

/-- Two processes with two connections. -/
def twoWires : Wiring Bool where
  ends := {i | i.2 < 2}
  peer i := (!i.1, i.2)
  loc := twoRings
  peer_mem _ hi := hi
  peer_peer i _ := by simp
  peer_ne i _ := by simp [Prod.ext_iff]
  apart i hi j hj heq := by
    obtain ⟨v, k⟩ := i
    obtain ⟨w, l⟩ := j
    have hk : k < 2 := hi
    have hl : l < 2 := hj
    revert heq
    cases v <;> cases w <;> interval_cases k <;> interval_cases l <;> decide

/-- Their endpoints, which have just been connected and share a completion queue in each process. -/
def twoPairs : Network Bool where
  host i := established 24 (twoRings i) (twoRings (!i.1, i.2))
  mem _ := ⟨0, fun _ => 0⟩
  cqs _ _ := ⟨.fiWaitUnspec, [], []⟩
  cntrs _ _ := ⟨.fiWaitUnspec, 0, 0⟩
  log := []
  events _ _ := []
  errors _ _ := []

lemma start_twoPairs : twoPairs.Start (fun _ => 24) twoWires where
  wired _ _ := ⟨rfl, rfl, rfl, rfl, rfl, rfl⟩
  write _ _ := rfl
  read _ _ := rfl
  zeroed _ _ _ _ := rfl
  status _ _ := rfl
  completed _ _ := rfl
  log := rfl
  events _ _ := rfl
  errors _ _ := rfl

/-- A message on each connection, the receives in the other order, and a read of both entries. -/
def twoMessages : List (Act Bool) :=
  [.call (true, 0) (.dpaSend (fun _ => 1) 3 0), .call (true, 1) (.dpaSend (fun _ => 2) 3 0),
    .call (false, 1) (.dpaRecv (fun _ => 0) 3 8), .call (false, 0) (.dpaRecv (fun _ => 0) 3 7),
    .read false 0 2 (fun _ _ => .ok) 0]

lemma posts_twoMessages {i : Bool × ℕ} (hi : i ∈ twoWires.ends) (dir : Direction) :
    twoPairs.posts i (twoMessages.flatMap (Act.calls bothWays)) dir
      = if i.1 = true ∧ dir = .send then [⟨fun _ => UInt8.ofNat (i.2 + 1), 3, 0, 0⟩]
        else if i.1 = false ∧ dir = .recv then [⟨fun _ => 0, 3, 0, 7 + i.2⟩] else [] := by
  obtain ⟨v, k⟩ := i
  have hk : k < 2 := hi
  interval_cases k <;> cases v <;> cases dir <;> rfl

lemma messages_twoMessages {i : Bool × ℕ} (hi : i ∈ twoWires.ends) :
    twoPairs.messages (twoWires.peer i) (twoMessages.flatMap (Act.calls bothWays))
      = if i.1 = false then [List.replicate 3 (UInt8.ofNat (i.2 + 1))] else [] := by
  rw [messages, posts_twoMessages (twoWires.peer_mem _ hi)]
  obtain ⟨v, k⟩ := i
  cases v <;> rfl

lemma len_twoMessages {i : Bool × ℕ} (hi : i ∈ twoWires.ends) {dir : Direction}
    {e : MsgQueueEntry}
    (he : e ∈ twoPairs.posts i (twoMessages.flatMap (Act.calls bothWays)) dir) : e.len = 3 := by
  rw [posts_twoMessages hi] at he
  by_cases hsend : i.1 = true ∧ dir = .send
  · rw [if_pos hsend, List.mem_singleton] at he
    rw [he]
  · by_cases hrecv : i.1 = false ∧ dir = .recv
    · rw [if_neg hsend, if_pos hrecv, List.mem_singleton] at he
      rw [he]
    · rw [if_neg hsend, if_neg hrecv] at he
      exact absurd he List.not_mem_nil

lemma roomy_twoMessages {i : Bool × ℕ} (hi : i ∈ twoWires.ends) :
    Roomy twoWires twoPairs (twoMessages.flatMap (Act.calls bothWays)) i := by
  constructor
  · intro e he
    have hlen := len_twoMessages hi he
    constructor
    · rw [hlen]
      decide
    · rw [hlen]
      decide
  · intro k m e hm he
    obtain ⟨e', he', rfl⟩ := List.mem_map.1 (List.mem_of_getElem? hm)
    rw [MsgQueueEntry.bytes_length, len_twoMessages (twoWires.peer_mem _ hi) he',
      len_twoMessages hi (List.mem_of_getElem? he)]

/-- Each receive gets the message of its own connection, and both entries are in the shared
queue. -/
theorem transport_shared_twoMessages :
    ∃ n, Stepper.run (step bothWays) twoPairs twoMessages = some n
      ∧ (n.events false 0).map CqErrEntry.opContext = [8, 7]
      ∧ (n.host (false, 0)).received.map Completed.data = [[1, 1, 1]]
      ∧ (n.host (false, 1)).received.map Completed.data = [[2, 2, 2]] := by
  have hview : (Stepper.run (step bothWays) twoPairs twoMessages).map (fun n =>
      ((n.events false 0).map CqErrEntry.opContext, (n.host (false, 0)).received.length,
        (n.host (false, 1)).received.length)) = some ([8, 7], 1, 1) := by
    decide +kernel
  obtain ⟨n, hrun, hn⟩ := Option.map_eq_some_iff.1 hview
  obtain ⟨hread, hn⟩ := Prod.mk.inj hn
  obtain ⟨hzero, hone⟩ := Prod.mk.inj hn
  obtain ⟨⟨sent, received, hseen⟩, -⟩ :=
    transport_shared (fun _ => ⟨by decide, by decide, by decide⟩) start_twoPairs
      (show ∀ c ∈ twoMessages.flatMap (Act.calls bothWays), c.1.2 < 2 by decide)
      (fun _ hi => roomy_twoMessages hi) hrun
  have hbuffers {k : ℕ} (hk : k < 2) (hlen : (n.host (false, k)).received.length = 1) :
      (n.host (false, k)).received.map Completed.data
        = [List.replicate 3 (UInt8.ofNat (k + 1))] := by
    have hi : (false, k) ∈ twoWires.ends := hk
    have heq := (hseen _ hi).2.buffers
    rw [messages_twoMessages hi, if_pos rfl] at heq
    have hlen' := congrArg List.length heq
    rw [List.length_map, hlen, List.length_take] at hlen'
    rw [heq, List.take_of_length_le (by rw [List.length_singleton] at hlen' ⊢; omega)]
  exact ⟨n, hrun, hread, hbuffers (by decide) hzero, hbuffers (by decide) hone⟩

end Network

end DpaProvider
