import DpaProvider.Cm.Agreement
import DpaProvider.Library.Decimal
import DpaProvider.Msg.Limit

/-!
The settings that the environment may override.

`ENV_OVERRIDE_INT` stores any unsigned number of 32 bits in the variables that the rings, the table
of segments and the hash map of the regions depend on, and nothing looks at it afterwards.

* `envOverrideInt_surjective`: every such number can be stored;
* `Settings.init`: the settings of a node;
* `Defined`: the arithmetic of a node that is connected to another one, from the constants to the
  sizes that `alloc_msg_buffer` and `connect_msg` work with;
* `defined_iff`: it is defined exactly if the buffers of both nodes have two words, the numbers of
  the segments are not the wrong way round, and the hash map has a bucket.
-/

namespace DpaProvider

open Site

/-! ### Overrides -/

/-- `!strcasecmp(s, word)`, for a word in small letters. -/
def isWord (s : List Char) (word : String) : Bool := s.map Char.toLower = word.toList

/-- `ENV_OVERRIDE_INT`: the value that is stored for what `getenv` returns, if any is. -/
def envOverrideInt (s : Option (List Char)) : Option UInt32 :=
  s.bind fun s =>
    let var := if s.head?.any Char.isDigit then some (Decimal.atoi s).toUInt32 else none
    let var := if isWord s "yes" || isWord s "on" then some 1 else var
    if isWord s "no" || isWord s "off" then some 0 else var

/-- What starts with a digit is not a word that starts with something else. -/
lemma isWord_of_digit {s : List Char} {c : Char} {word : String} (hs : s.head? = some c)
    (hc : c.isDigit = true) (hword : word.toList.head?.any Char.isDigit = false) :
    isWord s word = false := by
  rw [isWord, decide_eq_false_iff_not]
  intro heq
  have hlower : c.toLower = c := by
    have hrange : 48 ≤ c.toNat ∧ c.toNat ≤ 57 := by
      simpa [Char.isDigit, UInt32.le_iff_toNat_le] using hc
    refine dif_neg fun hupper => ?_
    have hle : 65 ≤ c.toNat := UInt32.le_iff_toNat_le.1 hupper.1
    omega
  have hhead := congrArg List.head? heq
  rw [List.head?_map, hs, Option.map_some, hlower] at hhead
  rw [← hhead, Option.any_some, hc] at hword
  cases hword

/-- Every `unsigned` can be stored. -/
theorem envOverrideInt_surjective (v : UInt32) : ∃ s, envOverrideInt (some s) = some v := by
  obtain ⟨c, rest, hs⟩ := List.exists_cons_of_ne_nil (Nat.toDigits_ne_nil (n := v.toNat) (b := 10))
  have hc : c.isDigit = true :=
    Nat.isDigit_of_mem_toDigits (b := 10) (n := v.toNat) (by simp) (by simp)
      (hs ▸ List.mem_cons_self)
  have hno (word : String) (hword : word.toList.head?.any Char.isDigit = false) :
      isWord (Nat.toDigits 10 v.toNat) word = false :=
    isWord_of_digit (by rw [hs, List.head?_cons]) hc hword
  refine ⟨Nat.toDigits 10 v.toNat, ?_⟩
  simp only [envOverrideInt, Option.bind_some, hno "yes" rfl, hno "on" rfl, hno "no" rfl,
    hno "off" rfl]
  rw [hs, List.head?_cons, ← hs]
  simp [hc, Decimal.atoi_toDigits]

/-! ### The settings of a node -/

/-- The variables that arithmetic depends on. -/
structure Settings where
  bufferSize : UInt64
  buffersPerSegment : UInt64
  minMsgSegmid : UInt32
  maxMsgSegmid : UInt32
  mrMapSize : UInt64
  deriving DecidableEq, Repr

namespace Settings

/-- The values that are compiled in. -/
def initial : Settings where
  bufferSize := 64 * 2 ^ 10
  buffersPerSegment := 16
  minMsgSegmid := 0x80000000
  maxMsgSegmid := 0x80000000 + 1024
  mrMapSize := 251

/-- The overrides of `dpa_cm_init` and of `dpa_mr_init`. -/
def init (getenv : String → Option (List Char)) : Settings where
  bufferSize := (envOverrideInt (getenv "FI_DPA_BUFFER_SIZE")).elim initial.bufferSize
    UInt32.toUInt64
  buffersPerSegment := (envOverrideInt (getenv "FI_DPA_BUFFERS_PER_SEGMENT")).elim
    initial.buffersPerSegment UInt32.toUInt64
  minMsgSegmid := (envOverrideInt (getenv "FI_DPA_MIN_MSG_SEGMID")).getD initial.minMsgSegmid
  maxMsgSegmid := (envOverrideInt (getenv "FI_DPA_MAX_MSG_SEGMID")).getD initial.maxMsgSegmid
  mrMapSize := (envOverrideInt (getenv "FI_DPA_MR_MAP_SIZE")).elim initial.mrMapSize UInt32.toUInt64

/-- The constants of a process with these settings. -/
def env (σ : Settings) (localNodeId : UInt32) : Env where
  localNodeId
  bufferSize := σ.bufferSize
  buffersPerSegment := σ.buffersPerSegment
  minMsgSegmid := σ.minMsgSegmid
  maxMsgSegmid := σ.maxMsgSegmid

/-- `ALIGNED_BUFFER_SIZE`. -/
def alignedBufferSize (σ : Settings) : UInt64 := bufferWordAlign σ.bufferSize

lemma toNat_bufferSize_init (getenv : String → Option (List Char)) :
    (init getenv).bufferSize.toNat < 2 ^ 32 := by
  show (Option.elim _ _ _ : UInt64).toNat < _
  cases envOverrideInt (getenv "FI_DPA_BUFFER_SIZE") with
  | none => exact of_decide_eq_true rfl
  | some v => exact (UInt32.toNat_toUInt64 v).trans_lt v.toNat_lt

end Settings

/-! ### The arithmetic -/

/-- What the arithmetic needs of the size of a buffer: the buffer does not look as if it were free,
there is room for its `buffer_status`, and `data_ptr` and `new_offset` do not divide by zero. -/
structure Addressable (size : UInt64) : Prop where
  inUse : size ≠ 0
  header : (size - 8).toNat + 8 = size.toNat
  dataPtr : size - 8 ≠ 0
  newOffset : 2 * (size - 8) ≠ 0

/-- A buffer needs two words. -/
lemma addressable_iff {size : UInt64} (hsize : size.toNat < 2 ^ 32) :
    Addressable size ↔ 9 ≤ size.toNat := by
  have hword : (8 : UInt64).toNat = 8 := rfl
  constructor
  case mp =>
      intro h
      have hne : (size - 8).toNat ≠ 0 := fun h0 => h.dataPtr (UInt64.toNat_inj.1 h0)
      have hheader := h.header
      omega
  case mpr =>
      intro h
      have hsub : (size - 8).toNat = size.toNat - 8 :=
        UInt64.toNat_sub_of_le _ _ (UInt64.le_iff_toNat_le.2 (by omega))
      have hdouble : (2 * (size - 8)).toNat = 2 * (size.toNat - 8) := by
        rw [UInt64.toNat_mul, hsub]
        exact Nat.mod_eq_of_lt (by show 2 * (size.toNat - 8) < _; omega)
      constructor
      case inUse =>
          rintro rfl
          exact absurd h (by simp)
      case header => omega
      case dataPtr =>
          intro h0
          rw [h0, UInt64.toNat_zero] at hsub
          omega
      case newOffset =>
          intro h0
          rw [h0, UInt64.toNat_zero] at hdouble
          omega

/-- The arithmetic of a node with the settings `own`, whose peer has the settings `peer`. -/
structure Defined (own peer : Settings) : Prop where
  /-- `ALIGNED_BUFFER_SIZE`, from which `recv_buffer_size` takes the header. -/
  aligned : Addressable own.alignedBufferSize
  /-- The same for the size that the peer tells, from which `connect_msg` takes the header. -/
  remote : Addressable peer.alignedBufferSize
  /-- `DPA_MAX_MSG_SIZE`. -/
  maxMsgSize : (dpaMaxMsgSize own.bufferSize).toNat + 8 = own.alignedBufferSize.toNat
  /-- `NUM_SEGMENTS`. -/
  numSegments : (own.maxMsgSegmid - own.minMsgSegmid).toNat + own.minMsgSegmid.toNat
    = own.maxMsgSegmid.toNat
  /-- The `map_size` by which `uint_hash` divides. -/
  mapSize : own.mrMapSize ≠ 0
  /-- A buffer that `alloc_msg_buffer` reserves is marked as in use, and receives can address it. -/
  reserved : ∀ (nodeId : UInt32) (s t : Site) (data told : SegmentData), s.env = own.env nodeId →
    s.host.ep.carriesMessages = true →
    allocMsgBuffer data s = .ok ((.ok, told), t) →
    ∃ i j, t.InUse i j ∧ t.host.ep.recvInfo.buffer = some (t.bufferAt i j)
      ∧ Addressable (t.bufferAt i j).size
  /-- Once `connect_msg` has saved what a peer tells of its buffer, sends can address it. -/
  connected : ∀ (nodeId : UInt32) (p q s t : Site) (data told : SegmentData),
    p.env = peer.env nodeId → p.host.ep.carriesMessages = true →
    allocMsgBuffer data p = .ok ((.ok, told), q) →
    s.host.ep.carriesMessages = true →
    connectSegment told s = .ok (.ok, t) →
    Addressable told.size ∧ t.host.ep.sendInfo.size = told.size - 8

/-- What a reserved buffer is, and what the peer is told of it. -/
lemma alloc_size {σ : Settings} {nodeId : UInt32} {s t : Site} {data told : SegmentData}
    (henv : s.env = σ.env nodeId) (hcarries : s.host.ep.carriesMessages = true)
    (hrun : allocMsgBuffer data s = .ok ((.ok, told), t)) :
    ∃ i j, t.Created i ∧ t.host.ep.recvInfo.buffer = some (t.bufferAt i j)
      ∧ (t.bufferAt i j).size = σ.alignedBufferSize ∧ told.size = σ.alignedBufferSize := by
  obtain ⟨i, j, hreserves, htold⟩ := (allocMsgBuffer_run hrun).reserves hcarries
  have hsize : (t.bufferAt i j).size = σ.alignedBufferSize := by
    rw [hreserves.size, henv]
    rfl
  exact ⟨i, j, hreserves.created, hreserves.owner, hsize, htold.size.trans hsize⟩

/-- The buffers of a node have two words. -/
lemma addressable_aligned_iff (getenv : String → Option (List Char)) :
    Addressable (Settings.init getenv).alignedBufferSize
      ↔ 16 ≤ (Settings.init getenv).bufferSize := by
  have hword : (16 : UInt64).toNat = 16 := rfl
  have hlt := Settings.toNat_bufferSize_init getenv
  have halign : (Settings.init getenv).alignedBufferSize.toNat
      = (Settings.init getenv).bufferSize.toNat / 8 * 8 := toNat_bufferWordAlign _
  rw [addressable_iff (by omega), halign, UInt64.le_iff_toNat_le, hword]
  omega

/-- The difference of two numbers does not wrap. -/
lemma toNat_sub_add_iff (m n : UInt32) : (n - m).toNat + m.toNat = n.toNat ↔ m ≤ n := by
  rw [UInt32.le_iff_toNat_le]
  constructor
  case mp => intro h; omega
  case mpr =>
      intro h
      rw [UInt32.toNat_sub_of_le _ _ (UInt32.le_iff_toNat_le.2 h)]
      omega

/-- The arithmetic of a node is defined exactly if its buffers and those of its peer have two words,
the numbers of its segments are not the wrong way round, and its hash map has a bucket; the number
of buffers in a segment does not matter. -/
theorem defined_iff (getenv getenv' : String → Option (List Char)) :
    Defined (.init getenv) (.init getenv')
      ↔ 16 ≤ (Settings.init getenv).bufferSize ∧ 16 ≤ (Settings.init getenv').bufferSize
        ∧ (Settings.init getenv).minMsgSegmid ≤ (Settings.init getenv).maxMsgSegmid
        ∧ (Settings.init getenv).mrMapSize ≠ 0 := by
  rw [← addressable_aligned_iff, ← addressable_aligned_iff]
  constructor
  case mp =>
      intro h
      exact ⟨h.aligned, h.remote, (toNat_sub_add_iff _ _).1 h.numSegments, h.mapSize⟩
  case mpr =>
      rintro ⟨haligned, hremote, hrange, hmap⟩
      refine ⟨haligned, hremote, haligned.header, (toNat_sub_add_iff _ _).2 hrange, hmap, ?_, ?_⟩
      · intro nodeId s t data told henv hcarries hrun
        obtain ⟨i, j, hcreated, howner, hsize, -⟩ := alloc_size henv hcarries hrun
        rw [← hsize] at haligned
        exact ⟨i, j, ⟨hcreated, haligned.inUse⟩, howner, haligned⟩
      · intro nodeId p q s t data told henv hpeer halloc hcarries hconnect
        obtain ⟨-, -, -, -, -, htold⟩ := alloc_size henv hpeer halloc
        rw [← htold] at hremote
        exact ⟨hremote, (connectSegment_connects hcarries hconnect).2.1⟩

/-- An environment with one variable. -/
def oneVariable (name value : String) : String → Option (List Char) :=
  fun other => if other = name then some value.toList else none

/-- With `FI_DPA_BUFFER_SIZE=8` a ring has no bytes, and `data_ptr` divides by zero; without buffers
a buffer in use looks free, and its size is less than that of its header; with
`FI_DPA_MR_MAP_SIZE=off` `uint_hash` divides by zero; with `FI_DPA_MAX_MSG_SEGMID=1` the range ends
before it begins. -/
theorem settings_undefined :
    ¬ Defined (.init (oneVariable "FI_DPA_BUFFER_SIZE" "8")) (.init fun _ => none)
      ∧ ¬ Defined (.init (oneVariable "FI_DPA_BUFFER_SIZE" "0")) (.init fun _ => none)
      ∧ ¬ Defined (.init (oneVariable "FI_DPA_MR_MAP_SIZE" "off")) (.init fun _ => none)
      ∧ ¬ Defined (.init (oneVariable "FI_DPA_MAX_MSG_SEGMID" "1")) (.init fun _ => none) := by
  refine ⟨fun h => h.aligned.dataPtr ?_, fun h => h.aligned.inUse ?_, fun h => h.mapSize ?_,
    fun h => absurd h.numSegments ?_⟩
  · decide +kernel
  · decide +kernel
  · decide +kernel
  · decide +kernel

end DpaProvider
