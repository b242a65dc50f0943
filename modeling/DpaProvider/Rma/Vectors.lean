import DpaProvider.Library.Blocks
import DpaProvider.Library.Vectors
import DpaProvider.Rma.Coherence

/-!
What the copying loops of the operations move.

A loop goes through the vectors of the caller, each of which is a memory of its own, and stops
at the end of the mapping.  The distance to that end is a difference of pointers, which the guard
of the loop compares as an unsigned number: behind the end it is enormous.

* `rmaBlocks`: the blocks of the mapping that a loop accesses, one for each round;
* `rma_bounds`: they lie in the mapping exactly if the first byte does, or is the one behind it,
  or all vectors are empty;
* `copyIn_eq`, `copyOut_eq`: from a first byte in the mapping, a write gathers the vectors and
  stores as much of them as the mapping has room for, and a read scatters the rest of the mapping;
* `scatter_gather`: so do the operations, in every state of a run, and a read gives back what a
  write of the same length has stored, however the vectors split it.
-/

namespace DpaProvider

open ByteMem Host Effect

namespace Site

variable {room addr copied : UInt64} {iovs : List Iovec} {region : ByteMem}

/-! ### The blocks -/

/-- The block of the mapping that each round of a copying loop moves. -/
def rmaBlocks (room addr : UInt64) : List Iovec → UInt64 → List Block
  | [], _ => []
  | iov :: rest, copied =>
      if room > copied then
        let copy := min (room - copied) iov.len
        ⟨(addr + copied).toNat, copy.toNat⟩ :: rmaBlocks room addr rest (copied + copy)
      else []

/-- A write stores to its blocks only. -/
lemma copyIn_of_notMem {a : ℕ} (h : ¬ Covers (rmaBlocks room addr iovs copied) a) :
    (copyIn room addr iovs copied region).2 a = region a := by
  induction iovs generalizing copied region with
  | nil => rfl
  | cons iov rest ih =>
      rw [rmaBlocks] at h
      rw [copyIn]
      split
      case isTrue hroom =>
          rw [if_pos hroom, covers_cons, not_or] at h
          exact (ih h.2).trans (memcpy_of_notMem _ _ h.1)
      case isFalse => rfl

/-- What a read gives depends on its blocks only. -/
lemma copyOut_congr {region' : ByteMem}
    (h : ∀ a, Covers (rmaBlocks room addr iovs copied) a → region a = region' a) :
    copyOut room addr region iovs copied = copyOut room addr region' iovs copied := by
  induction iovs generalizing copied with
  | nil => rfl
  | cons iov rest ih =>
      rw [rmaBlocks] at h
      rw [copyOut, copyOut]
      split
      case isTrue hroom =>
          rw [if_pos hroom] at h
          simp only [covers_cons] at h
          dsimp only
          rw [ih fun a ha => h a (.inr ha), memcpy_congr iov.base fun a ha => h a (.inl ha)]
      case isFalse => rfl

/-- A round moves no more than the vector holds, nor than there is room for. -/
lemma copied_add (hroom : room > copied) (len : UInt64) :
    (min (room - copied) len).toNat = min (room.toNat - copied.toNat) len.toNat
      ∧ (copied + min (room - copied) len).toNat
        = copied.toNat + min (room.toNat - copied.toNat) len.toNat := by
  have hlt : copied.toNat < room.toNat := UInt64.lt_iff_toNat_lt.1 hroom
  have hcopy : (min (room - copied) len).toNat = min (room.toNat - copied.toNat) len.toNat := by
    rw [UInt64.toNat_min, UInt64.toNat_sub_of_le _ _ (UInt64.le_of_lt hroom)]
  have hbound := room.toNat_lt
  refine ⟨hcopy, ?_⟩
  rw [UInt64.toNat_add, hcopy, Nat.mod_eq_of_lt (by omega)]

/-- Where a round begins. -/
lemma addr_add_copied (hfits : addr.toNat + room.toNat < 2 ^ 64) (hroom : room > copied) :
    (addr + copied).toNat = addr.toNat + copied.toNat := by
  have hlt : copied.toNat < room.toNat := UInt64.lt_iff_toNat_lt.1 hroom
  rw [UInt64.toNat_add, Nat.mod_eq_of_lt (by omega)]

/-- From a first byte in the mapping, the blocks lie between it and the end. -/
lemma rmaBlocks_range (hfits : addr.toNat + room.toNat < 2 ^ 64) {a : ℕ}
    (ha : Covers (rmaBlocks room addr iovs copied) a) :
    addr.toNat + copied.toNat ≤ a ∧ a < addr.toNat + room.toNat := by
  induction iovs generalizing copied with
  | nil => exact absurd ha (covers_nil a)
  | cons iov rest ih =>
      rw [rmaBlocks] at ha
      split at ha
      case isFalse => exact absurd ha (covers_nil a)
      case isTrue hroom =>
          obtain ⟨hcopy, hnext⟩ := copied_add hroom iov.len
          have hlt : copied.toNat < room.toNat := UInt64.lt_iff_toNat_lt.1 hroom
          have hstart := addr_add_copied hfits hroom
          rcases (covers_cons _ _ a).1 ha with hfirst | hrest
          · simp only [Block.Mem, hstart, hcopy] at hfirst
            omega
          · have hlater := ih hrest
            omega

lemma rmaBlocks_empty (hempty : ∀ iov ∈ iovs, iov.len = 0) (a : ℕ) :
    ¬ Covers (rmaBlocks room addr iovs copied) a := by
  induction iovs generalizing copied with
  | nil => exact covers_nil a
  | cons iov rest ih =>
      rw [rmaBlocks]
      split
      case isFalse => exact covers_nil a
      case isTrue hroom =>
          rw [covers_cons, not_or]
          refine ⟨fun hfirst => ?_, ih fun iov h => hempty iov (List.mem_cons_of_mem _ h)⟩
          have hlen := hempty iov List.mem_cons_self
          have hcopy := (copied_add hroom iov.len).1
          rw [hlen, UInt64.toNat_zero, Nat.min_zero] at hcopy
          simp only [Block.Mem, hlen, hcopy] at hfirst
          omega

/-- With any room at all the first byte is moved, unless all vectors are empty. -/
lemma rmaBlocks_first (hroom : 0 < room) (hsome : ∃ iov ∈ iovs, iov.len ≠ 0) :
    Covers (rmaBlocks room addr iovs 0) addr.toNat := by
  induction iovs with
  | nil => exact absurd hsome (by simp)
  | cons iov rest ih =>
      rw [rmaBlocks, if_pos hroom, covers_cons]
      obtain ⟨hcopy, hnext⟩ := copied_add hroom iov.len
      have hpos : 0 < room.toNat := UInt64.lt_iff_toNat_lt.1 hroom
      by_cases hlen : iov.len = 0
      · right
        have hstill : (0 : UInt64) + min (room - 0) iov.len = 0 := by
          rw [← UInt64.toNat_inj, hnext, hlen]
          simp
        rw [hstill]
        obtain ⟨iov', hmem, hlen'⟩ := hsome
        rcases List.mem_cons.1 hmem with rfl | hmem
        · exact absurd hlen hlen'
        · exact ih ⟨iov', hmem, hlen'⟩
      · left
        have hlen' : 0 < iov.len.toNat :=
          Nat.pos_of_ne_zero fun h => hlen (UInt64.toNat_inj.1 h)
        simp only [Block.Mem, UInt64.add_zero, hcopy, UInt64.toNat_zero]
        omega

/-- The accesses of a copying loop stay in a mapping of `len` bytes, and there are none from
behind it. -/
structure InMapping (len addr : UInt64) (iovs : List Iovec) : Prop where
  inside : ∀ a, Covers (rmaBlocks (len - addr) addr iovs 0) a → a < len.toNat
  behind : len ≤ addr → ∀ a, ¬ Covers (rmaBlocks (len - addr) addr iovs 0) a

/-- The first byte is in the mapping or the one behind it, or all vectors are empty. -/
def StartsInside (len addr : UInt64) (iovs : List Iovec) : Prop :=
  addr ≤ len ∨ ∀ iov ∈ iovs, iov.len = 0

lemma inMapping_iff (len addr : UInt64) (iovs : List Iovec) :
    InMapping len addr iovs ↔ StartsInside len addr iovs := by
  constructor
  · intro h
    by_contra hout
    simp only [StartsInside, not_or, not_forall, exists_prop] at hout
    obtain ⟨hlt, hsome⟩ := hout
    have hroom : 0 < len - addr := by
      rw [UInt64.pos_iff_ne_zero]
      intro hzero
      rw [UInt64.sub_eq_iff_eq_add, UInt64.zero_add] at hzero
      exact hlt (UInt64.le_of_eq hzero.symm)
    exact h.behind (UInt64.le_of_lt (UInt64.not_le.1 hlt)) _ (rmaBlocks_first hroom hsome)
  · rintro (hle | hempty)
    · have hsub := UInt64.toNat_sub_of_le _ _ hle
      have hle' : addr.toNat ≤ len.toNat := UInt64.le_iff_toNat_le.1 hle
      have hbound := len.toNat_lt
      refine ⟨fun a ha => ?_, fun hge a ha => ?_⟩
      · have hrange := rmaBlocks_range (by omega) ha
        omega
      · have hrange := rmaBlocks_range (by omega) ha
        have hge' : len.toNat ≤ addr.toNat := UInt64.le_iff_toNat_le.1 hge
        omega
    · exact ⟨fun a ha => absurd ha (rmaBlocks_empty hempty a),
        fun _ a ha => absurd ha (rmaBlocks_empty hempty a)⟩

/-! ### The meaning of the loops -/

/-- The vectors of the caller as buffers. -/
def buffers (iovs : List Iovec) : List Buffer := iovs.map fun iov => ⟨iov.base, iov.len.toNat⟩

lemma buffers_cons (iov : Iovec) (rest : List Iovec) :
    buffers (iov :: rest) = ⟨iov.base, iov.len.toNat⟩ :: buffers rest := rfl

/-- The loop of a write stores the gathered vectors, as far as there is room. -/
lemma copyIn_eq (hfits : addr.toNat + room.toNat < 2 ^ 64) :
    (copyIn room addr iovs copied region).2
      = store region (addr.toNat + copied.toNat)
        ((gather (buffers iovs)).take (room.toNat - copied.toNat)) := by
  induction iovs generalizing copied region with
  | nil => simp [copyIn, buffers]
  | cons iov rest ih =>
      rw [copyIn]
      split
      case isTrue hroom =>
          obtain ⟨hcopy, hnext⟩ := copied_add hroom iov.len
          have hlt : copied.toNat < room.toNat := UInt64.lt_iff_toNat_lt.1 hroom
          -- behind a vector that does not fit there is no room
          have hrest : room.toNat - (copied.toNat + min (room.toNat - copied.toNat) iov.len.toNat)
              = room.toNat - copied.toNat - iov.len.toNat := by omega
          dsimp only
          rw [ih, hnext, addr_add_copied hfits hroom, hcopy, hrest,
            memcpy_eq_store, buffers_cons, gather_cons, List.take_append, Buffer.bytes_length,
            Buffer.bytes, slice_take_min, store_append, slice_length, Nat.add_assoc]
      case isFalse hroom =>
          have hge : room.toNat ≤ copied.toNat := UInt64.le_iff_toNat_le.1 (UInt64.not_lt.1 hroom)
          rw [Nat.sub_eq_zero_of_le hge, List.take_zero, store_nil]

/-- The loop of a read scatters the rest of the mapping over the vectors. -/
lemma copyOut_eq (hfits : addr.toNat + room.toNat < 2 ^ 64) :
    buffers (copyOut room addr region iovs copied).2
      = scatter (buffers iovs)
        (slice region (addr.toNat + copied.toNat) (room.toNat - copied.toNat)) := by
  induction iovs generalizing copied with
  | nil => rfl
  | cons iov rest ih =>
      rw [copyOut]
      split
      case isTrue hroom =>
          obtain ⟨hcopy, hnext⟩ := copied_add hroom iov.len
          have hlt : copied.toNat < room.toNat := UInt64.lt_iff_toNat_lt.1 hroom
          have hrest : slice region
              (addr.toNat + (copied.toNat + min (room.toNat - copied.toNat) iov.len.toNat))
              (room.toNat - (copied.toNat + min (room.toNat - copied.toNat) iov.len.toNat))
              = (slice region (addr.toNat + copied.toNat) (room.toNat - copied.toNat)).drop
                iov.len.toNat := by
            rw [slice_drop]
            rcases Nat.le_total iov.len.toNat (room.toNat - copied.toNat) with hfit | hfull
            · rw [Nat.min_eq_right hfit, ← Nat.add_assoc, Nat.sub_add_eq]
            · -- the mapping ends in this vector
              rw [Nat.min_eq_left hfull, Nat.sub_eq_zero_of_le hfull,
                Nat.add_sub_cancel' hlt.le, Nat.sub_self]
              rfl
          dsimp only
          rw [buffers_cons, ih, hnext, addr_add_copied hfits hroom, hcopy, hrest,
            buffers_cons, scatter, Buffer.fill, slice_take_min, Nat.min_comm, memcpy_eq_store]
      case isFalse hroom =>
          have hge : room.toNat ≤ copied.toNat := UInt64.le_iff_toNat_le.1 (UInt64.not_lt.1 hroom)
          rw [Nat.sub_eq_zero_of_le hge]
          exact (scatter_nil _).symm

/-! ### The operations -/

variable {s s' : Site} {target : DpaAddr} {msg : Option FiMsgRma} {m : FiMsgRma} {rma : FiRmaIov}

/-- The target that an operation names: the segment on its node. -/
def Names (s : Site) (m : FiMsgRma) (rma : FiRmaIov) (target : DpaAddr) : Prop :=
  s.targetNode m = some target.nodeId ∧ target.connectId = rma.key.toUInt32

/-- An operation that succeeds has moved its data at the target that it names. -/
lemma Outcome.success {moved : FiMsgRma → FiRmaIov → DpaAddr → Prop} {still : FiMsgRma → Prop}
    (h : Outcome s msg moved still .success s') (hcheck : checkRma msg = some (m, rma)) :
    ∃ target, s.Names m rma target ∧ s'.MappedTo target ∧ moved m rma target := by
  obtain ⟨nodeId, hnode⟩ := h.addressed m rma hcheck
  by_cases hkey : rma.key.toUInt32.toUInt64 = rma.key
  · obtain ⟨err, s₁, -, hok, hfail⟩ := h.connected m rma nodeId hcheck hnode hkey
    by_cases herr : err = .ok
    · obtain ⟨-, hmapped, hmoved⟩ := hok herr
      exact ⟨_, ⟨hnode, rfl⟩, hmapped, hmoved⟩
    · exact absurd (hfail herr).1 (by simp)
  · exact absurd (h.truncated m rma hcheck hkey).1 (by simp)

/-- The blocks of the mapping that an operation accesses. -/
def accessed (s : Site) (m : FiMsgRma) (rma : FiRmaIov) : List Block :=
  rmaBlocks (s.cache.len - rma.addr) rma.addr m.msgIov 0

/-- No remote byte differs but those in the blocks of the target. -/
def ChangesOnly (s s' : Site) (target : DpaAddr) (bs : List Block) : Prop :=
  ∀ t a, ¬ (t = target ∧ Covers bs a) → s'.regions t a = s.regions t a

/-- The vectors are what a read gives for every content of the target with the same bytes in the
blocks. -/
def DependsOnly (s s' : Site) (target : DpaAddr) (m : FiMsgRma) (rma : FiRmaIov)
    (iovs : List Iovec) (bs : List Block) : Prop :=
  ∀ region : ByteMem, (∀ a, Covers bs a → region a = s.regions target a) →
    iovs = (copyOut (s'.cache.len - rma.addr) rma.addr region m.msgIov 0).2

/-- In every state that operations reach from an empty cache, a write that succeeds changes only
the bytes in its blocks, and a read that succeeds depends on no others.  They all lie in the
mapping, and there are none if the first byte does not, exactly if that byte is in the mapping or
the one behind it, or all vectors are empty. -/
theorem rma_bounds {s₀ : Site} (hempty : s₀.cache.Unmapped) {events : List RmaEvent}
    (hrun : Stepper.run rmaEvent s₀ events = some s) (hcheck : checkRma msg = some (m, rma)) :
    (∀ flags s', dpaWritemsg msg flags s = .ok (.success, s') → ∃ target,
      s.Names m rma target ∧ s'.MappedTo target
        ∧ ChangesOnly s s' target (s'.accessed m rma)
        ∧ (InMapping s'.cache.len rma.addr m.msgIov
          ↔ StartsInside s'.cache.len rma.addr m.msgIov))
      ∧ ∀ flags iovs s', dpaReadmsg msg flags s = .ok ((.success, iovs), s') → ∃ target,
        s.Names m rma target ∧ s'.MappedTo target
          ∧ DependsOnly s s' target m rma iovs (s'.accessed m rma)
          ∧ (InMapping s'.cache.len rma.addr m.msgIov
            ↔ StartsInside s'.cache.len rma.addr m.msgIov) := by
  have hs : s.Coherent := Stepper.run_invariant (I := Coherent) (fun _ _ _ hs heq => hs.event heq)
    (.inl hempty) hrun
  refine ⟨fun flags s' hwrite => ?_, fun flags iovs s' hread => ?_⟩
  · obtain ⟨target, hnames, hmapped, hwritten⟩ := (hs.dpaWritemsg hwrite).success hcheck
    refine ⟨target, hnames, hmapped, fun t a hout => ?_, inMapping_iff _ _ _⟩
    rw [show s'.regions = _ from hwritten]
    by_cases ht : t = target
    · subst ht
      rw [Function.update_self]
      exact copyIn_of_notMem fun hmem => hout ⟨rfl, hmem⟩
    · rw [Function.update_of_ne ht]
  · obtain ⟨target, hnames, hmapped, hcopied, -⟩ := (hs.dpaReadmsg hread).success hcheck
    refine ⟨target, hnames, hmapped, fun region hagree => ?_, inMapping_iff _ _ _⟩
    rw [hcopied, copyOut_congr fun a ha => (hagree a ha).symm]

/-- A write of eight bytes at the begin of a segment of 64. -/
theorem rma_bounds_inside : ∃ s',
    dpaWritemsg (some (rmaMsg [⟨fun _ => 1, 8⟩] 1 0 5 0 0)) 0 unconnected = .ok (.success, s')
      ∧ InMapping s'.cache.len 0 [⟨fun _ => 1, 8⟩] := by
  obtain ⟨s', hwrite⟩ : ∃ s', dpaWritemsg (some (rmaMsg [⟨fun _ => 1, 8⟩] 1 0 5 0 0)) 0 unconnected
      = .ok (.success, s') := ⟨_, rfl⟩
  have hempty : unconnected.cache.Unmapped := ⟨rfl, rfl, rfl, rfl, rfl, rfl, rfl⟩
  have hrun : Stepper.run rmaEvent unconnected [] = some unconnected := rfl
  obtain ⟨target, -, -, -, hiff⟩ := (rma_bounds hempty hrun rfl).1 0 s' hwrite
  exact ⟨s', hwrite, hiff.2 (.inl UInt64.zero_le)⟩

/-- A write of one byte at the offset 72 of a segment of 64 bytes succeeds, and has stored it
there. -/
theorem rma_escapes : ∃ s',
    dpaWritemsg (some (rmaMsg [⟨fun _ => 1, 1⟩] 1 72 5 0 0)) 0 unconnected = .ok (.success, s')
      ∧ s'.cache.len = 64 ∧ s'.regions ⟨1, 5⟩ 72 ≠ unconnected.regions ⟨1, 5⟩ 72
      ∧ ¬ InMapping s'.cache.len 72 [⟨fun _ => 1, 1⟩] := by
  obtain ⟨s', hwrite, hlen, hbyte⟩ : ∃ s',
      dpaWritemsg (some (rmaMsg [⟨fun _ => 1, 1⟩] 1 72 5 0 0)) 0 unconnected = .ok (.success, s')
        ∧ s'.cache.len = 64 ∧ s'.regions ⟨1, 5⟩ 72 = 1 := ⟨_, rfl, rfl, rfl⟩
  refine ⟨s', hwrite, hlen, by rw [hbyte]; decide, fun h => ?_⟩
  rw [inMapping_iff, hlen] at h
  rcases h with hle | hempty
  · exact absurd hle (by simp)
  · exact absurd (hempty _ List.mem_cons_self) (by simp)

/-! ### Scatter and gather -/

/-- How many bytes an operation moves. -/
def moves (s : Site) (m : FiMsgRma) (rma : FiRmaIov) : ℕ :=
  min (gather (buffers m.msgIov)).length (s.cache.len.toNat - rma.addr.toNat)

/-- The bytes from the first one on are those of the vectors, one after the other; no other
remote byte has changed. -/
def Gathered (s s' : Site) (target : DpaAddr) (m : FiMsgRma) (rma : FiRmaIov) : Prop :=
  s'.regions = Function.update s.regions target
    (store (s.regions target) rma.addr.toNat ((gather (buffers m.msgIov)).take (s'.moves m rma)))

/-- The vectors, one after the other, begin with the bytes from the first one on; behind them
they are the same, and no remote byte has changed. -/
structure Scattered (s s' : Site) (target : DpaAddr) (m : FiMsgRma) (rma : FiRmaIov)
    (iovs : List Iovec) : Prop where
  regions : s'.regions = s.regions
  filled : gather (buffers iovs)
    = slice (s.regions target) rma.addr.toNat (s'.moves m rma)
      ++ (gather (buffers m.msgIov)).drop (s'.moves m rma)
  lengths : (buffers iovs).map Buffer.len = (buffers m.msgIov).map Buffer.len
  beyond : List.Forall₂ (fun b b' => ∀ a, b.len ≤ a → b'.mem a = b.mem a) (buffers m.msgIov)
    (buffers iovs)

/-- The room from a first byte in the mapping on. -/
lemma room_toNat {len : UInt64} (hle : addr ≤ len) :
    (len - addr).toNat = len.toNat - addr.toNat ∧ addr.toNat + (len - addr).toNat < 2 ^ 64 := by
  have hsub := UInt64.toNat_sub_of_le _ _ hle
  have hle' : addr.toNat ≤ len.toNat := UInt64.le_iff_toNat_le.1 hle
  have hbound := len.toNat_lt
  exact ⟨hsub, by omega⟩

lemma Coherent.gathered (hs : s.Coherent) (hcheck : checkRma msg = some (m, rma)) {flags : UInt64}
    (hwrite : Site.dpaWritemsg msg flags s = .ok (.success, s')) (hle : rma.addr ≤ s'.cache.len) :
    ∃ target, s.Names m rma target ∧ s'.MappedTo target ∧ Gathered s s' target m rma := by
  obtain ⟨target, hnames, hmapped, hwritten⟩ := (hs.dpaWritemsg hwrite).success hcheck
  obtain ⟨hroom, hfits⟩ := room_toNat hle
  refine ⟨target, hnames, hmapped, hwritten.trans ?_⟩
  have htake : (gather (buffers m.msgIov)).take (s'.cache.len.toNat - rma.addr.toNat)
      = (gather (buffers m.msgIov)).take (s'.moves m rma) := by
    rw [moves, Nat.min_comm]
    exact List.take_eq_take_min
  rw [copyIn_eq hfits, UInt64.toNat_zero, Nat.add_zero, Nat.sub_zero, hroom, htake]

lemma Coherent.scattered (hs : s.Coherent) (hcheck : checkRma msg = some (m, rma)) {flags : UInt64}
    {iovs : List Iovec} (hread : Site.dpaReadmsg msg flags s = .ok ((.success, iovs), s'))
    (hle : rma.addr ≤ s'.cache.len) :
    ∃ target, s.Names m rma target ∧ s'.MappedTo target ∧ Scattered s s' target m rma iovs := by
  obtain ⟨target, hnames, hmapped, hcopied, hregions⟩ := (hs.dpaReadmsg hread).success hcheck
  obtain ⟨hroom, hfits⟩ := room_toNat hle
  have hiovs : buffers iovs = scatter (buffers m.msgIov)
      (slice (s.regions target) rma.addr.toNat (s'.cache.len.toNat - rma.addr.toNat)) := by
    rw [hcopied, copyOut_eq hfits, UInt64.toNat_zero, Nat.add_zero, Nat.sub_zero,
      hroom]
  refine ⟨target, hnames, hmapped, hregions, ?_, ?_, ?_⟩
  · rw [hiovs, gather_scatter, slice_take_min, slice_length, moves]
    congr 1
    rcases Nat.le_total (gather (buffers m.msgIov)).length
      (s'.cache.len.toNat - rma.addr.toNat) with hfit | hfull
    · rw [Nat.min_eq_left hfit, List.drop_length, List.drop_eq_nil_of_le hfit]
    · rw [Nat.min_eq_right hfull]
  · rw [hiovs, scatter_len]
  · rw [hiovs]
    exact scatter_beyond _ _

lemma Names.unique {target' : DpaAddr} (h : s.Names m rma target) (h' : s.Names m rma target') :
    target' = target := by
  obtain ⟨nodeId, connectId⟩ := target
  obtain ⟨nodeId', connectId'⟩ := target'
  obtain ⟨hnode, rfl⟩ := h
  obtain ⟨hnode', rfl⟩ := h'
  obtain rfl : nodeId' = nodeId := Option.some.inj (hnode'.symm.trans hnode)
  rfl

/-- An operation on the target mapped last finds the mapping as it is. -/
lemma acquireTarget_again (hmapped : s.MappedTo target) (hnames : s.Names m rma target)
    {ret : FiErr} {target' : DpaAddr} (hrun : acquireTarget m rma s = .ok ((ret, target'), s')) :
    s' = s := by
  obtain ⟨nodeId, hnode, htarget', hinvalid, hvalid⟩ := acquireTarget_cases hrun
  obtain rfl : target' = target :=
    hnames.unique (by rw [htarget']; exact ⟨hnode, rfl⟩)
  by_cases hkey : rma.key.toUInt32.toUInt64 = rma.key
  · obtain ⟨err, hconnect, -⟩ := hvalid hkey
    obtain ⟨htarget, handles, hm⟩ := hmapped
    exact (cacheConnect_spec hconnect).2.1 (by simp [cacheHit, htarget, hm.base])
  · exact (hinvalid hkey).2

lemma dpaReadmsg_again (hmapped : s.MappedTo target) (hnames : s.Names m rma target)
    (hcheck : checkRma msg = some (m, rma)) {flags : UInt64} {iovs : List Iovec}
    (hread : dpaReadmsg msg flags s = .ok ((.success, iovs), s')) : s'.cache.len = s.cache.len := by
  obtain ⟨ret₁, target₁, s₁, hacquire, hfail, hdone⟩ := dpaReadmsg_checked hcheck hread
  obtain rfl := acquireTarget_again hmapped hnames hacquire
  by_cases hret : ret₁ = .success
  · exact (finishRead_steady _ _ _ _ _ _ _ (hdone hret)).len
  · rw [(hfail hret).2.2]

/-- In every state that operations reach from an empty cache, for every first byte up to the end
of the mapping: a write that succeeds gathers, a read that succeeds scatters, and a read of the
range just written, into vectors of the same length in all, gives the bytes written. -/
theorem scatter_gather {s₀ : Site} (hempty : s₀.cache.Unmapped) {events : List RmaEvent}
    (hrun : Stepper.run rmaEvent s₀ events = some s) (hcheck : checkRma msg = some (m, rma)) :
    (∀ flags s', dpaWritemsg msg flags s = .ok (.success, s') → rma.addr ≤ s'.cache.len →
      ∃ target, s.Names m rma target ∧ s'.MappedTo target ∧ Gathered s s' target m rma
        ∧ ∀ msg' m' flags' iovs t, checkRma msg' = some (m', rma) → s'.Names m' rma target →
          (gather (buffers m'.msgIov)).length = (gather (buffers m.msgIov)).length →
          dpaReadmsg msg' flags' s' = .ok ((.success, iovs), t) →
            (gather (buffers iovs)).take (s'.moves m rma)
              = (gather (buffers m.msgIov)).take (s'.moves m rma))
      ∧ ∀ flags iovs s', dpaReadmsg msg flags s = .ok ((.success, iovs), s') →
        rma.addr ≤ s'.cache.len →
          ∃ target, s.Names m rma target ∧ s'.MappedTo target
            ∧ Scattered s s' target m rma iovs := by
  have hs : s.Coherent := Stepper.run_invariant (I := Coherent) (fun _ _ _ hs heq => hs.event heq)
    (.inl hempty) hrun
  refine ⟨fun flags s' hwrite hle => ?_, fun flags iovs s' hread hle =>
    hs.scattered hcheck hread hle⟩
  obtain ⟨target, hnames, hmapped, hgathered⟩ := hs.gathered hcheck hwrite hle
  refine ⟨target, hnames, hmapped, hgathered, ?_⟩
  intro msg' m' flags' iovs t hcheck' hnames' hlength hread
  have hs' : s'.Coherent := (hs.dpaWritemsg hwrite).coherent hs
  have hlen : t.cache.len = s'.cache.len := dpaReadmsg_again hmapped hnames' hcheck' hread
  obtain ⟨target', htarget, -, hscattered⟩ := hs'.scattered hcheck' hread (by rwa [hlen])
  obtain rfl := hnames'.unique htarget
  have hmoves : t.moves m' rma = s'.moves m rma := by rw [moves, moves, hlen, hlength]
  have hfull : ((gather (buffers m.msgIov)).take (s'.moves m rma)).length = s'.moves m rma :=
    List.length_take_of_le (min_le_left _ _)
  have hslice := slice_store (s.regions target') rma.addr.toNat
    ((gather (buffers m.msgIov)).take (s'.moves m rma))
  rw [hfull] at hslice
  calc (gather (buffers iovs)).take (s'.moves m rma)
      = slice (s'.regions target') rma.addr.toNat (s'.moves m rma) := by
        rw [hscattered.filled, hmoves, List.take_left' (slice_length _ _ _)]
    _ = (gather (buffers m.msgIov)).take (s'.moves m rma) := by
        rw [show s'.regions = _ from hgathered, Function.update_self, hslice]

/-- Three vectors, of two, no and three bytes, for which the mapping has room for four. -/
def threeVectors : FiMsgRma :=
  rmaMsg [⟨fun _ => 1, 2⟩, ⟨fun _ => 2, 0⟩, ⟨fun i => .ofNat i, 3⟩] 1 60 5 0 0

theorem scatter_gather_threeVectors : ∃ s' target,
    dpaWritemsg (some threeVectors) 0 unconnected = .ok (.success, s')
      ∧ s'.moves threeVectors ⟨60, 5⟩ = 4
      ∧ Gathered unconnected s' target threeVectors ⟨60, 5⟩ := by
  obtain ⟨s', hwrite, hlen⟩ : ∃ s', dpaWritemsg (some threeVectors) 0 unconnected
      = .ok (.success, s') ∧ s'.cache.len = 64 := ⟨_, rfl, rfl⟩
  have hempty : unconnected.cache.Unmapped := ⟨rfl, rfl, rfl, rfl, rfl, rfl, rfl⟩
  have hle : (60 : UInt64) ≤ s'.cache.len := by rw [hlen]; decide
  have hrun : Stepper.run rmaEvent unconnected [] = some unconnected := rfl
  obtain ⟨target, -, -, hgathered, -⟩ := (scatter_gather hempty hrun rfl).1 0 s' hwrite hle
  exact ⟨s', target, hwrite, by rw [moves, hlen]; rfl, hgathered⟩

end Site

end DpaProvider
