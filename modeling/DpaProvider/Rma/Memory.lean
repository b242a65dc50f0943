import DpaProvider.Library.Accesses
import DpaProvider.Rma.Flush
import DpaProvider.Rma.Frames
import DpaProvider.Rma.Vectors

/-!
The remote memory that an endpoint sees.

An endpoint reads and writes the segments of all nodes, through one cached mapping that changes with
the target, and any step of a change can fail.  `remembering` notes what each operation that
succeeds has stored or loaded, and at which target.

* `Measures`: the library gives the size that a segment has;
* `remote_memory`: in every run the segments hold what was stored last at each address, and a read
  gets just that, whatever was mapped in between and whatever has failed.
-/

namespace DpaProvider

open ByteMem Host Dpa Effect

/-- The library gives the size of each segment that it was asked about. -/
def Dpa.Measures (size : DpaAddr → UInt64) (d : Dpa) : Prop :=
  ∀ (h i : ℕ) (sd : Option Handle) (target : DpaAddr),
    d.calls[h]? = some (.connectSegment sd target.nodeId target.connectId) →
      d.calls[i]? = some (.getRemoteSegmentSize (some h)) → (d.replies i).size = size target

lemma Dpa.Measures.before {size : DpaAddr → UInt64} {d d' : Dpa} (h : d'.Measures size)
    (he : d.Extends d') : d.Measures size := by
  intro j i sd target hconnect hsize
  rw [← he.replies]
  exact h j i sd target (he.getElem? hconnect) (he.getElem? hsize)

namespace Site

variable {size : DpaAddr → UInt64} {s s' : Site} {target : DpaAddr} {msg : Option FiMsgRma}
  {m : FiMsgRma} {rma : FiRmaIov} {log : List (MemAccess DpaAddr)}

/-! ### Operations with their results -/

/-- An operation, with what it returns and the vectors that a read has filled. -/
def rmaResult : RmaCall → Prog (FiErr × List Iovec)
  | .readmsg msg flags => dpaReadmsg msg flags
  | .readv iov srcAddr addr key context => dpaReadv iov srcAddr addr key context
  | .read buf len srcAddr addr key context => dpaRead buf len srcAddr addr key context
  | .writemsg msg flags => (·, []) <$> dpaWritemsg msg flags
  | .writev iov destAddr addr key context => (·, []) <$> dpaWritev iov destAddr addr key context
  | .write buf len destAddr addr key context =>
      (·, []) <$> dpaWrite buf len destAddr addr key context
  | .writedata buf len data destAddr addr key context =>
      (·, []) <$> dpaWritedata buf len data destAddr addr key context

/-- The operation reads. -/
def RmaCall.reads : RmaCall → Bool
  | .readmsg .. | .readv .. | .read .. => true
  | .writemsg .. | .writev .. | .write .. | .writedata .. => false

/-- What an operation that succeeds does to the segment that it names: a write stores the bytes of
its vectors and a read loads those that its vectors then hold, as many as there are up to the end of
the segment. -/
def accesses (size : DpaAddr → UInt64) (s : Site) (c : RmaCall) (iovs : List Iovec) :
    List (MemAccess DpaAddr) :=
  match s.aim c.msg with
  | none => []
  | some (m, rma, target) =>
      let room := (size target).toNat - rma.addr.toNat
      if c.reads then [.load target rma.addr.toNat ((gather (buffers iovs)).take room)]
      else [.store target rma.addr.toNat ((gather (buffers m.msgIov)).take room)]

/-- An event, with the accesses so far. -/
def remembering (size : DpaAddr → UInt64) (x : Site × List (MemAccess DpaAddr)) (e : RmaEvent) :
    Option (Site × List (MemAccess DpaAddr)) :=
  match e with
  | .call c =>
      match rmaResult c x.1 with
      | .error _ => none
      | .ok ((ret, iovs), s) =>
          some (s, (if ret = .success then accesses size x.1 c iovs else []) ++ x.2)
  | .environment _ _ _ _ regions => (rmaEvent x.1 e).map fun s => (s, .change regions :: x.2)

/-- The access begins in its segment, or directly behind it. -/
def Inside (size : DpaAddr → UInt64) : MemAccess DpaAddr → Prop
  | .store target a _ | .load target a _ => a ≤ (size target).toNat
  | .change _ => True

/-! ### One operation -/

/-- The mapping of a target has its size. -/
lemma MappedTo.len (hm : s.MappedTo target) (hd : s.dpa.Measures size) :
    s.cache.len = size target := by
  obtain ⟨rfl, handles, hm⟩ := hm
  obtain ⟨i, hi, hsize⟩ := hm.measured
  rw [← hsize]
  exact hd _ i _ _ hm.connected.made hi

lemma signalInterrupt_onward (nodeId : UInt32) (data : UInt64) :
    Keeps onward (signalInterrupt nodeId data) :=
  fun _ _ _ hrun => (signalInterrupt_calls hrun).1

/-- A read only adds calls to the library. -/
lemma dpaReadmsg_onward (msg : Option FiMsgRma) (flags : UInt64) :
    Keeps onward (dpaReadmsg msg flags) :=
  dpaReadmsg_keeps (fun c _ => lib_onward c) (fun _ _ _ => setCache_onward _)
    (fun _ _ _ => keeps_modify fun s => .refl s.dpa) signalInterrupt_onward msg flags

/-- So does a write. -/
lemma dpaWritemsg_onward (msg : Option FiMsgRma) (flags : UInt64) :
    Keeps onward (dpaWritemsg msg flags) :=
  dpaWritemsg_keeps (fun c _ => lib_onward c) (fun _ => lib_onward _)
    (fun _ _ _ => setCache_onward _) (fun _ => keeps_modify fun s => .refl s.dpa)
    (fun _ _ _ => keeps_modify fun s => .refl s.dpa) signalInterrupt_onward msg flags

/-- Every operation with its result is a read or a write with its result. -/
lemma rmaResult_cases {c : RmaCall} {ret : FiErr} {iovs : List Iovec}
    (hrun : rmaResult c s = .ok ((ret, iovs), s')) :
    (c.reads = true ∧ ∃ flags, dpaReadmsg c.msg flags s = .ok ((ret, iovs), s'))
      ∨ c.reads = false ∧ ∃ flags, dpaWritemsg c.msg flags s = .ok (ret, s') := by
  cases c with
  | readmsg | readv | read => exact .inl ⟨rfl, _, hrun⟩
  | writemsg | writev | write | writedata =>
      obtain ⟨ret', h, heq⟩ := run_map_ok hrun
      obtain ⟨rfl, -⟩ := Prod.mk.inj heq
      exact .inr ⟨rfl, _, h⟩

lemma rmaResult_onward {c : RmaCall} {r : FiErr × List Iovec} (hrun : rmaResult c s = .ok (r, s')) :
    s.dpa.Extends s'.dpa := by
  obtain ⟨ret, iovs⟩ := r
  rcases rmaResult_cases hrun with ⟨-, flags, h⟩ | ⟨-, flags, h⟩
  · exact dpaReadmsg_onward _ _ _ _ _ h
  · exact dpaWritemsg_onward _ _ _ _ _ h

section Outcome

variable {moved : FiMsgRma → FiRmaIov → DpaAddr → Prop} {still : FiMsgRma → Prop}

/-- An operation that succeeds has named a segment. -/
lemma Outcome.aimed (ho : Outcome s msg moved still .success s') :
    ∃ m rma target, checkRma msg = some (m, rma) ∧ s.aim msg = some (m, rma, target)
      ∧ s.Names m rma target ∧ s'.MappedTo target := by
  cases hcheck : checkRma msg with
  | none => exact absurd (ho.unchecked hcheck).1 (by simp)
  | some p =>
      obtain ⟨m, rma⟩ := p
      obtain ⟨target, hnames, hmapped, -⟩ := ho.success hcheck
      have hkey : rma.key.toUInt32.toUInt64 = rma.key := by
        by_contra hkey
        exact absurd (ho.truncated m rma hcheck hkey).1 (by simp)
      refine ⟨m, rma, target, rfl, ?_, hnames, hmapped⟩
      simp only [aim, hcheck, Option.bind_eq_bind, Option.bind_some, hnames.1]
      rw [if_pos hkey, ← hnames.2]

/-- One that fails has changed no segment. -/
lemma Outcome.failed {ret : FiErr} (ho : Outcome s msg moved still ret s')
    (hret : ret ≠ .success) : s'.regions = s.regions := by
  cases hcheck : checkRma msg with
  | none => rw [(ho.unchecked hcheck).2]
  | some p =>
      obtain ⟨m, rma⟩ := p
      by_cases hkey : rma.key.toUInt32.toUInt64 = rma.key
      · obtain ⟨nodeId, hnode⟩ := ho.addressed m rma hcheck
        obtain ⟨err, s₁, -, hok, hfail⟩ := ho.connected m rma nodeId hcheck hnode hkey
        by_cases herr : err = .ok
        · exact absurd (hok herr).1 hret
        · exact (hfail herr).2.2.1
      · rw [(ho.truncated m rma hcheck hkey).2.1]

end Outcome

lemma Coherent.writes (hs : s.Coherent) {flags : UInt64}
    (hwrite : Site.dpaWritemsg msg flags s = .ok (.success, s')) (hd : s'.dpa.Measures size) :
    ∃ m rma target, s.aim msg = some (m, rma, target) ∧ (rma.addr ≤ size target →
      s'.regions = Function.update s.regions target (store (s.regions target) rma.addr.toNat
        ((gather (buffers m.msgIov)).take ((size target).toNat - rma.addr.toNat)))) := by
  obtain ⟨m, rma, target, hcheck, haim, hnames, hmapped⟩ := (hs.dpaWritemsg hwrite).aimed
  refine ⟨m, rma, target, haim, fun hle => ?_⟩
  have hlen : s'.cache.len = size target := hmapped.len hd
  obtain ⟨target', hnames', -, hgathered⟩ := hs.gathered hcheck hwrite (hlen ▸ hle)
  obtain rfl := hnames.unique hnames'
  rw [show s'.regions = _ from hgathered, moves, hlen, Nat.min_comm, ← List.take_eq_take_min]

lemma Coherent.reads (hs : s.Coherent) {flags : UInt64} {iovs : List Iovec}
    (hread : Site.dpaReadmsg msg flags s = .ok ((.success, iovs), s'))
    (hd : s'.dpa.Measures size) :
    ∃ m rma target, s.aim msg = some (m, rma, target) ∧ (rma.addr ≤ size target →
      s'.regions = s.regions ∧ ∃ n, (gather (buffers iovs)).take
        ((size target).toNat - rma.addr.toNat) = slice (s.regions target) rma.addr.toNat n) := by
  obtain ⟨m, rma, target, hcheck, haim, hnames, hmapped⟩ := (hs.dpaReadmsg hread).aimed
  refine ⟨m, rma, target, haim, fun hle => ?_⟩
  have hlen : s'.cache.len = size target := hmapped.len hd
  obtain ⟨target', hnames', -, hscattered⟩ := hs.scattered hcheck hread (hlen ▸ hle)
  obtain rfl := hnames.unique hnames'
  refine ⟨hscattered.regions, s'.moves m rma, ?_⟩
  rw [hscattered.filled, moves, hlen]
  rcases Nat.le_total (gather (buffers m.msgIov)).length
    ((size target').toNat - rma.addr.toNat) with hfit | hfull
  · -- the vectors end in the segment
    rw [Nat.min_eq_left hfit, List.drop_length, List.append_nil,
      List.take_of_length_le (by rw [slice_length]; exact hfit)]
  · rw [Nat.min_eq_right hfull, List.take_left' (slice_length _ _ _)]

/-! ### Runs -/

/-- The segments are what the accesses have left there, and every load has got that. -/
structure Remembered (size : DpaAddr → UInt64) (mems : DpaAddr → ByteMem)
    (x : Site × List (MemAccess DpaAddr)) : Prop where
  coherent : x.1.Coherent
  memory : x.1.dpa.Measures size → (∀ a ∈ x.2, Inside size a) →
    x.1.regions = newest mems x.2 ∧ Serial mems x.2

variable {mems : DpaAddr → ByteMem}

lemma Remembered.call (h : Remembered size mems (s, log)) {c : RmaCall} {ret : FiErr}
    {iovs : List Iovec} (hrun : rmaResult c s = .ok ((ret, iovs), s')) :
    Remembered size mems
      (s', (if ret = .success then accesses size s c iovs else []) ++ log) := by
  have hs : s.Coherent := h.coherent
  have hbefore (hd : s'.dpa.Measures size) (hin : ∀ a ∈ log, Inside size a) :
      s.regions = newest mems log ∧ Serial mems log :=
    h.memory (hd.before (rmaResult_onward hrun)) hin
  rcases rmaResult_cases hrun with ⟨hreads, flags, hread⟩ | ⟨hwrites, flags, hwrite⟩
  · refine ⟨(hs.dpaReadmsg hread).coherent hs, fun hd hin => ?_⟩
    by_cases hret : ret = .success
    · subst hret
      obtain ⟨m, rma, target, haim, hloaded⟩ := hs.reads hread hd
      simp only [accesses, haim, hreads, if_true, List.singleton_append, List.forall_mem_cons]
        at hin ⊢
      obtain ⟨hregions, hserial⟩ := hbefore hd hin.2
      obtain ⟨hkept, n, hslice⟩ := hloaded (UInt64.le_iff_toNat_le.2 hin.1)
      refine ⟨hkept.trans hregions, (serial_load mems log ?_).2 hserial⟩
      rw [hslice, slice_length, hregions]
    · rw [if_neg hret, List.nil_append] at hin ⊢
      obtain ⟨hregions, hserial⟩ := hbefore hd hin
      exact ⟨((hs.dpaReadmsg hread).failed hret).trans hregions, hserial⟩
  · refine ⟨(hs.dpaWritemsg hwrite).coherent hs, fun hd hin => ?_⟩
    by_cases hret : ret = .success
    · subst hret
      obtain ⟨m, rma, target, haim, hstored⟩ := hs.writes hwrite hd
      simp only [accesses, haim, hwrites, if_true, Bool.false_eq_true, if_false,
        List.singleton_append, List.forall_mem_cons] at hin ⊢
      obtain ⟨hregions, hserial⟩ := hbefore hd hin.2
      refine ⟨?_, hserial⟩
      rw [newest_store, ← hregions]
      exact hstored (UInt64.le_iff_toNat_le.2 hin.1)
    · rw [if_neg hret, List.nil_append] at hin ⊢
      obtain ⟨hregions, hserial⟩ := hbefore hd hin
      exact ⟨((hs.dpaWritemsg hwrite).failed hret).trans hregions, hserial⟩

lemma Remembered.event {x y : Site × List (MemAccess DpaAddr)} (h : Remembered size mems x)
    {e : RmaEvent} (heq : remembering size x e = some y) : Remembered size mems y := by
  cases e with
  | call c =>
      rw [remembering] at heq
      split at heq
      case h_1 => exact absurd heq (by simp)
      case h_2 ret iovs s' hrun =>
          obtain rfl := Option.some.inj heq
          exact h.call hrun
  | environment connected peerAddr av avLookup regions =>
      obtain rfl := Option.some.inj heq
      refine ⟨h.coherent, fun hd hin => ⟨rfl, (h.memory hd ?_).2⟩⟩
      exact fun a ha => hin a (List.mem_cons_of_mem _ ha)

/-- The remote memory of an endpoint: after any reads and writes of any segments, whatever the
library has refused, every byte of every segment is the one that was stored there last by a write
that succeeded, and every read that succeeded got just these bytes.  Others may change the
segments, and the connection and the address vectors may change.  The library gives the right sizes
of the segments, and no operation that succeeds begins behind the end of its own. -/
theorem remote_memory {s₀ : Site} (hempty : s₀.cache.Unmapped) {events : List RmaEvent}
    (hrun : Stepper.run (remembering size) (s₀, []) events = some (s, log))
    (hd : s.dpa.Measures size) (hin : ∀ a ∈ log, Inside size a) :
    s.regions = newest s₀.regions log ∧ Serial s₀.regions log := by
  have hstart : Remembered size s₀.regions (s₀, []) := ⟨.inl hempty, fun _ _ => ⟨rfl, trivial⟩⟩
  have hremembered : Remembered size s₀.regions (s, log) :=
    Stepper.run_invariant (fun _ _ _ h heq => Remembered.event h heq) hstart hrun
  exact hremembered.memory hd hin

/-- A write to the segment 5 of node 1, one to that of node 2, another one to the first, and a read
of the first. -/
def threeWrites : List RmaEvent :=
  [.call (.write (fun _ => 1) 4 1 0 5 0), .call (.write (fun _ => 2) 4 2 0 5 0),
    .call (.write (fun _ => 3) 2 1 1 5 0), .call (.read (fun _ => 0) 4 1 0 5 0)]

/-- The read gets the bytes of both writes to its segment. -/
theorem remote_memory_threeWrites : ∃ s log,
    Stepper.run (remembering fun _ => 64) (unconnected, []) threeWrites = some (s, log)
      ∧ log.head? = some (.load ⟨1, 5⟩ 0 [1, 3, 3, 1])
      ∧ Serial unconnected.regions log := by
  obtain ⟨s, log, hrun, hhead, hsize, hin⟩ : ∃ s log,
      Stepper.run (remembering fun _ => 64) (unconnected, []) threeWrites = some (s, log)
        ∧ log.head? = some (.load ⟨1, 5⟩ 0 [1, 3, 3, 1]) ∧ (∀ i, (s.dpa.replies i).size = 64)
        ∧ log.map (Inside fun _ => 64) = [0 ≤ 64, 1 ≤ 64, 0 ≤ 64, 0 ≤ 64] :=
    ⟨_, _, rfl, rfl, fun _ => rfl, rfl⟩
  have hempty : unconnected.cache.Unmapped := ⟨rfl, rfl, rfl, rfl, rfl, rfl, rfl⟩
  have hinside : ∀ a ∈ log, Inside (fun _ => 64) a := by
    intro a ha
    have hmem : Inside (fun _ => 64) a ∈ log.map (Inside fun _ => 64) := List.mem_map_of_mem ha
    rw [hin] at hmem
    simp at hmem
    exact hmem
  exact ⟨s, log, hrun, hhead,
    (remote_memory hempty hrun (fun _ i _ _ _ _ => hsize i) hinside).2⟩

end Site

end DpaProvider
