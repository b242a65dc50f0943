import DpaProvider.Rma.Vectors

/-!
What an operation reports of its transfer.

`try_recv` reports a message that was truncated: its completion entry says how much was copied and
how much was not, and the counter of errors goes up.  A transfer is truncated where the mapping
ends.

* `rmaBlocks_size`: the rounds of a copying loop move what is asked for, as far as there is room;
* `copyIn_copied`, `copyOut_copied`: that is what they count;
* `Reported`: the completion that `try_recv` makes of a transfer;
* `rma_reported`: when the operations make it.
-/

namespace DpaProvider

open ByteMem Host Effect

/-- A completion entry tells the entries of a queue apart. -/
lemma cqAdd_inj {cq : CompletionQueue} {entry entry' : CqErrEntry}
    (h : cqAdd cq entry = cqAdd cq entry') : entry = entry' := by
  rw [cqAdd, cqAdd] at h
  split at h
  case isTrue hok =>
      split at h
      case isTrue => simpa using h
      case isFalse => simpa using congrArg CompletionQueue.errorQueue h
  case isFalse hfail =>
      split at h
      case isTrue => simpa using congrArg CompletionQueue.eventQueue h
      case isFalse => simpa using h

namespace Site

/-! ### The length of a transfer -/

section Loops

variable {room addr copied : UInt64} {iovs : List Iovec} {region : ByteMem}

/-- How many bytes the vectors hold. -/
def totalLen (iovs : List Iovec) : ℕ := (iovs.map fun iov => iov.len.toNat).sum

/-- The rounds move the bytes asked for, as far as there is room. -/
lemma rmaBlocks_size (hle : copied ≤ room) :
    copied.toNat + ((rmaBlocks room addr iovs copied).map Block.size).sum
      = min (copied.toNat + totalLen iovs) room.toNat := by
  induction iovs generalizing copied with
  | nil =>
      have hle' := UInt64.le_iff_toNat_le.1 hle
      simp [rmaBlocks, totalLen, hle']
  | cons iov rest ih =>
      have hle' := UInt64.le_iff_toNat_le.1 hle
      rw [rmaBlocks]
      split
      case isTrue hroom =>
          obtain ⟨hcopy, hnext⟩ := copied_add hroom iov.len
          have hnext' : copied + min (room - copied) iov.len ≤ room := by
            rw [UInt64.le_iff_toNat_le, hnext]
            omega
          have hrest := ih hnext'
          rw [hnext] at hrest
          simp only [List.map_cons, List.sum_cons, hcopy, totalLen] at hrest ⊢
          omega
      case isFalse hroom =>
          have hge : room.toNat ≤ copied.toNat := UInt64.le_iff_toNat_le.1 (UInt64.not_lt.1 hroom)
          simp only [List.map_nil, List.sum_nil]
          omega

/-- The count of a write is what its rounds have moved. -/
lemma copyIn_copied : (copyIn room addr iovs copied region).1.toNat
    = copied.toNat + ((rmaBlocks room addr iovs copied).map Block.size).sum := by
  induction iovs generalizing copied region with
  | nil => rfl
  | cons iov rest ih =>
      rw [copyIn, rmaBlocks]
      split
      case isTrue hroom =>
          obtain ⟨hcopy, hnext⟩ := copied_add hroom iov.len
          dsimp only
          rw [ih, hnext, List.map_cons, List.sum_cons, hcopy, Nat.add_assoc]
      case isFalse => rfl

/-- The count of a read is what its rounds have moved. -/
lemma copyOut_copied : (copyOut room addr region iovs copied).1.toNat
    = copied.toNat + ((rmaBlocks room addr iovs copied).map Block.size).sum := by
  induction iovs generalizing copied with
  | nil => rfl
  | cons iov rest ih =>
      rw [copyOut, rmaBlocks]
      split
      case isTrue hroom =>
          obtain ⟨hcopy, hnext⟩ := copied_add hroom iov.len
          dsimp only
          rw [ih, hnext, List.map_cons, List.sum_cons, hcopy, Nat.add_assoc]
      case isFalse => rfl

/-- The sum of the lengths, as the code computes it. -/
lemma sum_len_toNat (iovs : List Iovec) :
    (iovs.map Iovec.len).sum.toNat = totalLen iovs % 2 ^ 64 := by
  induction iovs with
  | nil => rfl
  | cons iov rest ih =>
      rw [List.map_cons, List.sum_cons, UInt64.toNat_add, ih, totalLen, totalLen, List.map_cons,
        List.sum_cons, Nat.add_mod_mod]

end Loops

/-! ### The report -/

/-- An entry tells that `moved` of `requested` bytes were moved. -/
structure Truthful (entry : CqErrEntry) (requested moved : ℕ) : Prop where
  err : entry.err = if moved = requested then .success else .etoosmall
  len : entry.len.toNat = moved
  olen : entry.olen.toNat = requested - moved

/-- The queue or counter that is bound, if any, is updated. -/
def atBound {α : Type} (f : α → α) (bound : Option ℕ) (xs : ℕ → α) : ℕ → α :=
  match bound with
  | none => xs
  | some q => Function.update xs q (f (xs q))

/-- The increment of a counter for a transfer: of the errors if not all was moved. -/
def cntrReport (requested moved : ℕ) : Cntr → Cntr :=
  if moved = requested then dpaCntrInc else dpaCntrErrInc

/-- The completion of a transfer: an entry that tells how much was moved, for the bound queue, and
an increment of the bound counter. -/
structure Reported (s s' : Site) (cq cntr : Option ℕ) (requested moved : ℕ) : Prop where
  cqs : ∃ entry, (cq.isSome → Truthful entry requested moved)
    ∧ s'.host.cqs = atBound (fun c => cqAdd c entry) cq s.host.cqs
  cntrs : s'.host.cntrs = atBound (cntrReport requested moved) cntr s.host.cntrs

variable {s s' s₁ : Site} {cq cntr : Option ℕ} {entry : CqErrEntry} {requested moved : ℕ}

/-- An entry and an increment of the successes are the report if the entry tells the truth, for a
bound queue, and if all was moved, for a bound counter. -/
lemma reported_iff (hcqs : s'.host.cqs = atBound (fun c => cqAdd c entry) cq s.host.cqs)
    (hcntrs : s'.host.cntrs = atBound dpaCntrInc cntr s.host.cntrs) :
    Reported s s' cq cntr requested moved
      ↔ (cq.isSome → Truthful entry requested moved) ∧ (cntr.isSome → moved = requested) := by
  constructor
  · rintro ⟨⟨entry', htrue, hadded⟩, hcounted⟩
    refine ⟨fun hbound => ?_, fun hbound => ?_⟩
    · obtain ⟨q, rfl⟩ := Option.isSome_iff_exists.1 hbound
      have hsame := congrFun (hcqs.symm.trans hadded) q
      simp only [atBound, Function.update_self] at hsame
      exact cqAdd_inj hsame ▸ htrue rfl
    · obtain ⟨k, rfl⟩ := Option.isSome_iff_exists.1 hbound
      have hsame := congrFun (hcntrs.symm.trans hcounted) k
      simp only [atBound, Function.update_self, cntrReport] at hsame
      by_contra hshort
      rw [if_neg hshort] at hsame
      simpa [dpaCntrInc, dpaCntrErrInc] using congrArg Cntr.counter hsame
  · rintro ⟨htrue, hall⟩
    refine ⟨⟨entry, htrue, hcqs⟩, hcntrs.trans ?_⟩
    cases cntr with
    | none => rfl
    | some k => rw [cntrReport, if_pos (hall rfl)]

/-! ### The operations -/

/-- What an operation may report to. -/
def outlets : Frame Site :=
  .same fun s => (s.host.cqs, s.host.cntrs, s.host.ep.readCq, s.host.ep.readCntr,
    s.host.ep.writeCq, s.host.ep.writeCntr)

lemma lib_outlets (c : DpaCall) : Keeps outlets (lib c) := fun _ _ _ hrun => by
  obtain ⟨-, rfl⟩ := Prod.mk.inj (run_lib_ok hrun)
  rfl

lemma setCache_outlets (f : RemoteMrCache → RemoteMrCache) : Keeps outlets (setCache f) :=
  keeps_modify fun _ => rfl

lemma cacheConnect_outlets (target : DpaAddr) : Keeps outlets (cacheConnect target) :=
  cacheConnect_keeps (fun c _ => lib_outlets c) (fun f _ _ => setCache_outlets f) target

lemma acquireTarget_outlets (m : FiMsgRma) (rma : FiRmaIov) :
    Keeps outlets (acquireTarget m rma) := by
  refine keeps_bind keeps_get fun s => ?_
  split
  case h_1 => exact keeps_throw _
  case h_2 =>
      refine keeps_ite (keeps_pure _) ?_
      exact keeps_bind (cacheConnect_outlets _) fun _ => keeps_pure _

lemma signalInterrupt_outlets (nodeId : UInt32) (data : UInt64) :
    Keeps outlets (signalInterrupt nodeId data) :=
  signalInterrupt_keeps (fun c _ => lib_outlets c) (fun _ _ => setCache_outlets _) (fun _ _ => rfl)
    nodeId data

lemma completeRma_bind {α : Type} (cq cntr : Option ℕ) (entry : CqErrEntry) (f : Unit → Prog α)
    (s : Site) : (completeRma cq cntr entry >>= f) s
      = f () { s with
          host.cqs := atBound (fun c => cqAdd c entry) cq s.host.cqs
          host.cntrs := atBound dpaCntrInc cntr s.host.cntrs } := by
  cases cq <;> cases cntr <;> rfl

variable {m : FiMsgRma} {rma : FiRmaIov} {target : DpaAddr} {msg : Option FiMsgRma}
  {flags : UInt64}

/-- A read adds one entry, without error, and increments its counter. -/
lemma finishRead_outlets {read : UInt64 × List Iovec} {r : FiErr × List Iovec}
    (hrun : finishRead m target flags read s = .ok (r, s')) :
    s'.host.cqs = atBound (fun c => cqAdd c
        { opContext := m.context, flags := fiRma ||| fiRead, len := read.1, data := m.data
          olen := 0, err := .success, provErrno := .ok }) s.host.ep.readCq s.host.cqs
      ∧ s'.host.cntrs = atBound dpaCntrInc s.host.ep.readCntr s.host.cntrs := by
  rw [finishRead, get_bind, completeRma_bind] at hrun
  have hkept := keeps_ite (F := outlets)
    (keeps_bind (signalInterrupt_outlets target.nodeId m.data) fun _ =>
      keeps_pure (FiErr.success, read.2))
    (keeps_pure _) _ _ _ hrun
  exact ⟨congrArg Prod.fst hkept, congrArg (fun p => p.2.1) hkept⟩

/-- A write adds one entry, with an error if the lengths differ, and increments its counter. -/
lemma finishWrite_outlets {copied : UInt64} {sequence : Option Handle} {r : FiErr}
    (hrun : finishWrite m target flags copied sequence s = .ok (r, s')) :
    s'.host.cqs = atBound (fun c => cqAdd c
        { opContext := m.context, flags := fiRma ||| fiWrite, len := copied, data := m.data
          olen := (m.msgIov.map Iovec.len).sum - copied
          err := if (m.msgIov.map Iovec.len).sum = copied then .success else .etoosmall
          provErrno := .ok }) s.host.ep.writeCq s.host.cqs
      ∧ s'.host.cntrs = atBound dpaCntrInc s.host.ep.writeCntr s.host.cntrs := by
  rw [finishWrite, get_bind] at hrun
  simp only [completeRma_bind] at hrun
  have hkept := keeps_ite (F := outlets)
    (keeps_bind (signalInterrupt_outlets target.nodeId m.data) fun _ => keeps_pure FiErr.success)
    (keeps_ite (keeps_bind (lib_outlets _) fun _ => keeps_pure _) (keeps_pure _)) _ _ _ hrun
  exact ⟨congrArg Prod.fst hkept, congrArg (fun p => p.2.1) hkept⟩

/-- How many bytes there are from the first one to the end of the mapping, as the code computes
it. -/
def roomFrom (s : Site) (rma : FiRmaIov) : ℕ := (s.cache.len - rma.addr).toNat

/-- How many bytes an operation moves. -/
def transferred (s : Site) (m : FiMsgRma) (rma : FiRmaIov) : ℕ :=
  ((s.accessed m rma).map Block.size).sum

lemma transferred_eq (s : Site) (m : FiMsgRma) (rma : FiRmaIov) :
    s.transferred m rma = min (totalLen m.msgIov) (s.roomFrom rma) := by
  have hsize := @rmaBlocks_size _ rma.addr _ m.msgIov (UInt64.zero_le (a := s.cache.len - rma.addr))
  simpa [transferred, accessed, roomFrom] using hsize

lemma transferred_eq_iff :
    s.transferred m rma = totalLen m.msgIov ↔ totalLen m.msgIov ≤ s.roomFrom rma := by
  rw [transferred_eq, min_eq_left_iff]

lemma read_copied (s : Site) (m : FiMsgRma) (rma : FiRmaIov) (region : ByteMem) :
    (copyOut (s.cache.len - rma.addr) rma.addr region m.msgIov 0).1.toNat
      = s.transferred m rma := by
  rw [copyOut_copied, UInt64.toNat_zero, Nat.zero_add, transferred, accessed]

lemma write_copied (s : Site) (m : FiMsgRma) (rma : FiRmaIov) :
    (s.moving m rma).1.toNat = s.transferred m rma := by
  rw [moving, copyIn_copied, UInt64.toNat_zero, Nat.zero_add, transferred, accessed]

/-- The entry of a read tells the truth if all was moved. -/
lemma truthful_read {copied : UInt64} (hcopied : copied.toNat = moved) :
    Truthful { opContext := m.context, flags := fiRma ||| fiRead, len := copied, data := m.data
               olen := 0, err := .success, provErrno := .ok } requested moved
      ↔ moved = requested := by
  constructor
  · intro h
    by_contra hshort
    have herr := h.err
    rw [if_neg hshort] at herr
    exact absurd herr nofun
  · rintro rfl
    exact ⟨(if_pos rfl).symm, hcopied, (Nat.sub_self _).symm⟩

/-- The entry of a write tells the truth if the rest can be counted. -/
lemma truthful_write {copied total : UInt64} (hcopied : copied.toNat = moved)
    (htotal : total.toNat = requested % 2 ^ 64) (hle : moved ≤ requested) :
    Truthful { opContext := m.context, flags := fiRma ||| fiWrite, len := copied, data := m.data
               olen := total - copied, err := if total = copied then .success else .etoosmall
               provErrno := .ok } requested moved
      ↔ requested < moved + 2 ^ 64 := by
  have hsmall := copied.toNat_lt
  have holen : (total - copied).toNat = (requested - moved) % 2 ^ 64 := by
    rw [UInt64.toNat_sub, hcopied, htotal]
    omega
  constructor
  · intro h
    have hrest := h.olen
    rw [holen] at hrest
    omega
  · intro hrest
    refine ⟨?_, hcopied, by rw [holen]; omega⟩
    have hiff : total = copied ↔ moved = requested := by
      rw [← UInt64.toNat_inj, hcopied, htotal]
      omega
    simp only [hiff]

/-- For every region, offset and list of vectors: a read reports its transfer as `try_recv` does if
and only if all was moved, or there is nothing to report to; a write does if and only if all was
moved, or no counter is bound, and what is left can be counted, or no queue is. -/
theorem rma_reported (hcheck : checkRma msg = some (m, rma))
    (hacquire : acquireTarget m rma s = .ok ((.success, target), s₁)) :
    (∀ flags r s', dpaReadmsg msg flags s = .ok (r, s') →
      (Reported s s' s.host.ep.readCq s.host.ep.readCntr (totalLen m.msgIov) (s₁.transferred m rma)
        ↔ totalLen m.msgIov ≤ s₁.roomFrom rma
          ∨ s.host.ep.readCq = none ∧ s.host.ep.readCntr = none))
      ∧ ∀ flags r s', dpaWritemsg msg flags s = .ok (r, s') →
        (Reported s s' s.host.ep.writeCq s.host.ep.writeCntr (totalLen m.msgIov)
            (s₁.transferred m rma)
          ↔ (totalLen m.msgIov ≤ s₁.roomFrom rma ∨ s.host.ep.writeCntr = none)
            ∧ (totalLen m.msgIov < s₁.roomFrom rma + 2 ^ 64 ∨ s.host.ep.writeCq = none)) := by
  have hout := acquireTarget_outlets m rma _ _ _ hacquire
  simp only [outlets, Frame.same, Prod.mk.injEq] at hout
  obtain ⟨hcqs, hcntrs, hreadCq, hreadCntr, hwriteCq, hwriteCntr⟩ := hout
  have hmoved := transferred_eq s₁ m rma
  have hle : s₁.transferred m rma ≤ totalLen m.msgIov := hmoved ▸ min_le_left _ _
  refine ⟨fun flags r s' hrun => ?_, fun flags r s' hrun => ?_⟩
  · obtain ⟨ret₁, target₁, s₂, hacquire', -, hdone⟩ := dpaReadmsg_checked hcheck hrun
    obtain ⟨⟨rfl, rfl⟩, rfl⟩ : (_ = _ ∧ _ = _) ∧ s₁ = s₂ := by
      simpa using hacquire.symm.trans hacquire'
    obtain ⟨hadded, hcounted⟩ := finishRead_outlets (hdone rfl)
    rw [hcqs, hreadCq] at hadded
    rw [hcntrs, hreadCntr] at hcounted
    rw [reported_iff hadded hcounted, truthful_read (read_copied s₁ m rma _), transferred_eq_iff]
    cases s.host.ep.readCq <;> cases s.host.ep.readCntr <;> simp
  · obtain ⟨ret₁, target₁, s₂, hacquire', -, hdone⟩ := dpaWritemsg_checked hcheck hrun
    obtain ⟨⟨rfl, rfl⟩, rfl⟩ : (_ = _ ∧ _ = _) ∧ s₁ = s₂ := by
      simpa using hacquire.symm.trans hacquire'
    obtain ⟨hadded, hcounted⟩ := finishWrite_outlets (hdone rfl)
    simp only [stored] at hadded hcounted
    rw [hcqs, hwriteCq] at hadded
    rw [hcntrs, hwriteCntr] at hcounted
    rw [reported_iff hadded hcounted,
      truthful_write (write_copied s₁ m rma) (sum_len_toNat m.msgIov) hle, transferred_eq_iff]
    have hrest : totalLen m.msgIov < s₁.transferred m rma + 2 ^ 64
        ↔ totalLen m.msgIov < s₁.roomFrom rma + 2 ^ 64 := by
      rw [hmoved]
      omega
    rw [hrest, and_comm]
    cases s.host.ep.writeCq <;> cases s.host.ep.writeCntr <;> simp

/-- An endpoint with a queue and a counter for each direction. -/
def reporting : Site :=
  { unconnected with
    host.ep.readCq := some 0
    host.ep.readCntr := some 0
    host.ep.writeCq := some 1
    host.ep.writeCntr := some 1 }

/-- A message for eight bytes from the first byte `addr` on. -/
def eightFrom (addr : UInt64) : FiMsgRma := rmaMsg [⟨fun _ => 1, 8⟩] 1 addr 5 0 0

theorem rma_reported_whole : ∃ r s', dpaReadmsg (some (eightFrom 56)) 0 reporting = .ok (r, s')
    ∧ Reported reporting s' (some 0) (some 0) 8 8 := by
  obtain ⟨s₁, hacquire, hlen⟩ : ∃ s₁, acquireTarget (eightFrom 56) ⟨56, 5⟩ reporting
      = .ok ((.success, ⟨1, 5⟩), s₁) ∧ s₁.cache.len = 64 := ⟨_, rfl, rfl⟩
  obtain ⟨r, s', hread⟩ : ∃ r s', dpaReadmsg (some (eightFrom 56)) 0 reporting = .ok (r, s') :=
    ⟨_, _, rfl⟩
  have hroom : s₁.roomFrom ⟨56, 5⟩ = 8 := by rw [roomFrom, hlen]; rfl
  have hfits : totalLen (eightFrom 56).msgIov ≤ s₁.roomFrom ⟨56, 5⟩ := hroom.ge
  have hreported := ((rma_reported rfl hacquire).1 0 r s' hread).2 (.inl hfits)
  rw [transferred_eq, min_eq_left hfits] at hreported
  exact ⟨r, s', hread, hreported⟩

/-- Of eight bytes four lie in the segment: the entry of the read is one of success, the counter of
successes goes up, and so does that of the write. -/
theorem truncated_read_succeeds : ∃ r s' s'',
    dpaReadmsg (some (eightFrom 60)) 0 reporting = .ok (r, s')
      ∧ dpaWritemsg (some (eightFrom 60)) 0 reporting = .ok (.success, s'')
      ∧ ((s'.host.cqs 0).eventQueue.map fun e => (e.len, e.olen)) = [(4, 0)]
      ∧ ¬ Reported reporting s' (some 0) (some 0) 8 4
      ∧ ¬ Reported reporting s'' (some 1) (some 1) 8 4 := by
  obtain ⟨r, s', hread, hentries, hread0⟩ : ∃ r s',
      dpaReadmsg (some (eightFrom 60)) 0 reporting = .ok (r, s')
        ∧ ((s'.host.cqs 0).eventQueue.map fun e => (e.len, e.olen)) = [(4, 0)]
        ∧ (s'.host.cntrs 0).err = (reporting.host.cntrs 0).err := ⟨_, _, rfl, rfl, rfl⟩
  obtain ⟨s'', hwrite, hwrite1⟩ : ∃ s'',
      dpaWritemsg (some (eightFrom 60)) 0 reporting = .ok (.success, s'')
        ∧ (s''.host.cntrs 1).err = (reporting.host.cntrs 1).err := ⟨_, rfl, rfl⟩
  refine ⟨r, s', s'', hread, hwrite, hentries, fun h => ?_, fun h => ?_⟩
  · have hcount := congrArg Cntr.err (congrFun h.cntrs 0)
    rw [hread0] at hcount
    simp [atBound, cntrReport, dpaCntrErrInc] at hcount
  · have hcount := congrArg Cntr.err (congrFun h.cntrs 1)
    rw [hwrite1] at hcount
    simp [atBound, cntrReport, dpaCntrErrInc] at hcount

end Site

end DpaProvider
