import DpaProvider.Library.Buckets
import DpaProvider.Library.Stepper

/-!
The hash map.

The entries of a map are in buckets, which are lists of nodes with a copy of a value each; the
bucket of a key is the hash of it, converted to an `int` on the way.

* `hashPut`, `hashGet`, `hashRemove`, `hashDestroy`: the operations, each of which may access a
  bucket outside the array or not end its loop (`none`);
* `Represents`: a bucket holds the values of a list that belong there, in the order of the list;
* `refines_iff`: a run of operations returns exactly if every key hashes to an `int`, and the map
  is then the multimap of the values put, less the oldest value with the key for each removal;
* `uintType_fits_iff`: with `uint_hash` every key does so in a map of at most 2³¹ buckets.
-/

namespace DpaProvider

/-- What `hash_create` fixes for a map: where the key is in a value, how many buckets there are, and
the hash function, which looks at the bytes of the key and gives the index of a bucket. -/
structure HashType where
  keyOffset : ℕ
  keyLength : ℕ
  valueSize : ℕ
  mapSize : ℕ
  inside : keyOffset + keyLength ≤ valueSize
  hashFunc : (Fin keyLength → UInt8) → UInt32
  below : ∀ key, (hashFunc key).toNat < mapSize

namespace HashType

/-- The bytes of a key. -/
abbrev Key (T : HashType) := Fin T.keyLength → UInt8

/-- The bytes of a value. -/
abbrev Value (T : HashType) := Fin T.valueSize → UInt8

/-- The key in a value. -/
def keyOf (T : HashType) (value : T.Value) : T.Key :=
  fun i => value ⟨T.keyOffset + i, by have := T.inside; omega⟩

/-- `gethash`: the hash as an `int`. -/
def gethash (T : HashType) (key : T.Key) : ℤ := ((T.hashFunc key).toNat : ℤ).bmod (2 ^ 32)

/-- The index of a bucket, unless it is before the array. -/
def bucket (T : HashType) (key : T.Key) : Option ℕ :=
  if 0 ≤ T.gethash key then some (T.gethash key).toNat else none

/-- The hash of a key is an `int`. -/
def HashFits (T : HashType) (key : T.Key) : Prop := (T.hashFunc key).toNat < 2 ^ 31

instance (T : HashType) (key : T.Key) : Decidable (T.HashFits key) :=
  inferInstanceAs (Decidable (_ < _))

variable {T : HashType} {key : T.Key}

/-- A hash that is no `int` becomes negative on the way. -/
lemma gethash_eq : T.gethash key = if T.HashFits key then ((T.hashFunc key).toNat : ℤ)
    else ((T.hashFunc key).toNat : ℤ) - 2 ^ 32 := by
  have hlt : (T.hashFunc key).toNat < 2 ^ 32 := UInt32.toNat_lt _
  by_cases h : T.HashFits key
  · have h' : (T.hashFunc key).toNat < 2 ^ 31 := h
    rw [if_pos h]
    unfold gethash
    apply Int.bmod_eq_of_le <;> omega
  · have h' : ¬ (T.hashFunc key).toNat < 2 ^ 31 := h
    rw [if_neg h]
    unfold gethash
    have hshift : (((T.hashFunc key).toNat : ℤ) - 2 ^ 32).bmod (2 ^ 32)
        = ((T.hashFunc key).toNat : ℤ) - 2 ^ 32 := by
      apply Int.bmod_eq_of_le <;> omega
    rw [← hshift]
    exact (Int.sub_bmod_right _ _).symm

lemma bucket_of_fits (h : T.HashFits key) : T.bucket key = some (T.hashFunc key).toNat := by
  rw [bucket, gethash_eq, if_pos h, if_pos (Int.natCast_nonneg _), Int.toNat_natCast]

lemma bucket_of_not_fits (h : ¬ T.HashFits key) : T.bucket key = none := by
  have hlt : (T.hashFunc key).toNat < 2 ^ 32 := UInt32.toNat_lt _
  rw [bucket, gethash_eq, if_neg h, if_neg (by omega)]

end HashType

/-- The number in four bytes, the lowest first. -/
def uintOf (key : Fin 4 → UInt8) : ℕ :=
  (key 0).toNat + 2 ^ 8 * (key 1).toNat + 2 ^ 16 * (key 2).toNat + 2 ^ 24 * (key 3).toNat

/-- `uint_hash`, for a key of four bytes. -/
def uintHash (mapSize : ℕ) (key : Fin 4 → UInt8) : UInt32 := .ofNat (uintOf key % mapSize)

/-- The `hash_map`: its buckets, the values in the nodes, and the number of nodes ever created. -/
structure HashMap (T : HashType) where
  buckets : Pool ℕ
  values : ℕ → T.Value
  created : ℕ

variable {T : HashType}

namespace HashMap

/-- `hash_create`. -/
def hashCreate (T : HashType) : HashMap T := ⟨Pool.init ℕ, fun _ _ => 0, 0⟩

/-- `hash_put`. -/
def hashPut (m : HashMap T) (value : T.Value) : Option (HashMap T) :=
  (T.bucket (T.keyOf value)).map fun i =>
    { buckets := m.buckets.insertTail i m.created
      values := Function.update m.values m.created value
      created := m.created + 1 }

/-- A node holds a value with the key. -/
def matchKey (m : HashMap T) (key : T.Key) (n : ℕ) : Bool := T.keyOf (m.values n) = key

/-- `hash_get`: the value it returns a pointer to, if any. -/
def hashGet (m : HashMap T) (key : T.Key) : Option (Option T.Value) :=
  (T.bucket key).bind fun i =>
    (Slist.firstMatch m.buckets.links (m.matchKey key) m.created (m.buckets.lists i).head).map
      (Option.map m.values)

/-- `hash_remove`. -/
def hashRemove (m : HashMap T) (key : T.Key) : Option (HashMap T) :=
  (T.bucket key).bind fun i =>
    (m.buckets.removeFirstMatch i (m.matchKey key) m.created).map fun r =>
      { m with buckets := r.2 }

/-- `hash_destroy`: the nodes it calls the destroyer for.  Its loop counter is an `int`. -/
def hashDestroy (m : HashMap T) : Option (List ℕ) :=
  m.buckets.visited m.created (min T.mapSize (2 ^ 31))

/-! ### Operations -/

/-- An operation that changes the map. -/
inductive Operation (T : HashType) where
  | put (value : T.Value)
  | remove (key : T.Key)

/-- The key an operation hashes. -/
def Operation.key : Operation T → T.Key
  | .put value => T.keyOf value
  | .remove key => key

/-- The map after an operation. -/
def step (m : HashMap T) : Operation T → Option (HashMap T)
  | .put value => m.hashPut value
  | .remove key => m.hashRemove key

/-- The values in the map, the oldest first, after an operation. -/
def Operation.apply (l : List T.Value) : Operation T → List T.Value
  | .put value => l ++ [value]
  | .remove key => l.eraseP fun value => T.keyOf value = key

/-! ### The multimap -/

/-- The map holds the values of a list, whose keys all hash to an `int`. -/
structure Represents (m : HashMap T) (l : List T.Value) : Prop where
  fits : ∀ value ∈ l, T.HashFits (T.keyOf value)
  buckets : m.buckets.Buckets m.created m.values
    (fun value => (T.hashFunc (T.keyOf value)).toNat) l

variable {m : HashMap T} {l : List T.Value} {key : T.Key}

lemma represents_nil (T : HashType) : (hashCreate T).Represents [] :=
  ⟨by simp, Pool.buckets_init _ _⟩

lemma Represents.put (h : m.Represents l) (value : T.Value) (hfits : T.HashFits (T.keyOf value)) :
    ∃ m', m.hashPut value = some m' ∧ m'.Represents (l ++ [value]) := by
  refine ⟨_, by rw [hashPut, HashType.bucket_of_fits hfits]; rfl, fun v hv => ?_,
    h.buckets.insert value⟩
  rcases List.mem_append.1 hv with hv | hv
  · exact h.fits v hv
  · rwa [List.mem_singleton.1 hv]

/-- Values with the key are in the bucket of the key. -/
lemma index_of_key {v : T.Value} (h : decide (T.keyOf v = key) = true) :
    (T.hashFunc (T.keyOf v)).toNat = (T.hashFunc key).toNat := by
  rw [of_decide_eq_true h]

lemma Represents.remove (h : m.Represents l) (key : T.Key) (hfits : T.HashFits key) :
    ∃ m', m.hashRemove key = some m' ∧ m'.Represents (l.eraseP fun v => T.keyOf v = key) := by
  obtain ⟨r, hrun, hbuckets⟩ := h.buckets.remove (q := fun v => T.keyOf v = key)
    fun v hv => index_of_key hv
  refine ⟨{ m with buckets := r.2 }, ?_, fun v hv => h.fits v (List.mem_of_mem_eraseP hv),
    hbuckets⟩
  rw [hashRemove, HashType.bucket_of_fits hfits, Option.bind_some]
  exact congrArg (Option.map fun r : Option ℕ × Pool ℕ => { m with buckets := r.2 }) hrun

lemma Represents.get (h : m.Represents l) :
    m.hashGet key = if T.HashFits key then some (l.find? fun v => T.keyOf v = key) else none := by
  by_cases hfits : T.HashFits key
  · rw [if_pos hfits, hashGet, HashType.bucket_of_fits hfits]
    exact h.buckets.firstMatch (q := fun v => T.keyOf v = key) fun v hv => index_of_key hv
  · rw [if_neg hfits, hashGet, HashType.bucket_of_not_fits hfits, Option.bind_none]

lemma Represents.destroy (h : m.Represents l) :
    ∃ nodes, m.hashDestroy = some nodes ∧ nodes.Nodup ∧ (nodes.map m.values).Perm l :=
  h.buckets.visited fun v hv => lt_min (T.below _) (h.fits v hv)

lemma Represents.step (h : m.Represents l) {o : Operation T} (hfits : T.HashFits o.key) :
    ∃ m', m.step o = some m' ∧ m'.Represents (o.apply l) := by
  cases o with
  | put value => exact h.put value hfits
  | remove key => exact h.remove key hfits

lemma step_of_not_fits {o : Operation T} (hfits : ¬ T.HashFits o.key) : m.step o = none := by
  cases o with
  | put value =>
      have hbucket : T.bucket (T.keyOf value) = none := HashType.bucket_of_not_fits hfits
      rw [step, hashPut, hbucket, Option.map_none]
  | remove key =>
      have hbucket : T.bucket key = none := HashType.bucket_of_not_fits hfits
      rw [step, hashRemove, hbucket, Option.bind_none]

/-- What a map that represents a list does: the value that `hash_get` returns is the oldest with the
key, `hash_remove` takes that one and leaves the results for other keys alone, and `hash_destroy`
visits the node of each value once. -/
structure Multimap (m : HashMap T) (l : List T.Value) : Prop where
  get : ∀ key, m.hashGet key = some (l.find? fun v => T.keyOf v = key) ↔ T.HashFits key
  remove : ∀ key, T.HashFits key → ∃ m', m.hashRemove key = some m'
    ∧ m'.hashGet key = some ((l.eraseP fun v => T.keyOf v = key).find? fun v => T.keyOf v = key)
    ∧ ∀ key', key' ≠ key → m'.hashGet key' = m.hashGet key'
  destroy : ∃ nodes, m.hashDestroy = some nodes ∧ nodes.Nodup ∧ (nodes.map m.values).Perm l

/-- A removal by one key is not seen by a search for another. -/
lemma find?_eraseP_of_ne {key' : T.Key} (hne : key' ≠ key) :
    (l.eraseP fun v => T.keyOf v = key).find? (fun v => T.keyOf v = key')
      = l.find? fun v => T.keyOf v = key' := by
  have hdrop (v : T.Value) (hv : decide (T.keyOf v = key) = true) :
      decide (T.keyOf v = key') = false :=
    decide_eq_false fun h => hne (h.symm.trans (of_decide_eq_true hv))
  rw [← List.head?_filter, ← List.head?_filter, List.filter_eraseP_of_drop hdrop]

lemma Represents.multimap (h : m.Represents l) : m.Multimap l where
  get key := by
    rw [h.get]
    split
    case isTrue hfits => exact iff_of_true rfl hfits
    case isFalse hfits => exact iff_of_false (by simp) hfits
  remove key hfits := by
    obtain ⟨m', hrun, h'⟩ := h.remove key hfits
    refine ⟨m', hrun, by rw [h'.get, if_pos hfits], fun key' hne => ?_⟩
    rw [h'.get, h.get, find?_eraseP_of_ne hne]
  destroy := h.destroy

/-- A run of operations returns if every key hashes to an `int`. -/
lemma Represents.run (h : m.Represents l) {operations : List (Operation T)}
    (hfits : ∀ o ∈ operations, T.HashFits o.key) :
    ∃ m', Stepper.run HashMap.step m operations = some m'
      ∧ m'.Represents (operations.foldl Operation.apply l) := by
  induction operations generalizing m l with
  | nil => exact ⟨m, rfl, h⟩
  | cons o rest ih =>
      obtain ⟨m₁, hstep, h₁⟩ := h.step (hfits o List.mem_cons_self)
      obtain ⟨m₂, hrun, h₂⟩ := ih h₁ fun o' ho' => hfits o' (List.mem_cons_of_mem o ho')
      exact ⟨m₂, by rw [Stepper.run_cons, hstep, Option.bind_some, hrun], h₂⟩

/-- A run that returns has hashed no key to a negative `int`. -/
lemma fits_of_run {m' : HashMap T} {operations : List (Operation T)}
    (hrun : Stepper.run step m operations = some m') : ∀ o ∈ operations, T.HashFits o.key := by
  induction operations generalizing m with
  | nil => simp
  | cons o rest ih =>
      obtain ⟨m₁, hstep, hrest⟩ := Stepper.run_cons_some step hrun
      refine List.forall_mem_cons.2 ⟨?_, ih hrest⟩
      by_contra hfits
      rw [step_of_not_fits hfits] at hstep
      exact absurd hstep (by simp)

/-- A run of operations returns, and the map is then the multimap of the values put and not removed,
exactly if every key hashes to an `int`. -/
lemma refines_iff (operations : List (Operation T)) :
    (∃ m, Stepper.run step (hashCreate T) operations = some m
        ∧ m.Multimap (operations.foldl Operation.apply []))
      ↔ ∀ o ∈ operations, T.HashFits o.key := by
  constructor
  · rintro ⟨m, hrun, -⟩
    exact fits_of_run hrun
  · intro hfits
    obtain ⟨m, hrun, h⟩ := (represents_nil T).run hfits
    exact ⟨m, hrun, h.multimap⟩

end HashMap

/-! ### Keys of four bytes -/

lemma uintOf_lt (key : Fin 4 → UInt8) : uintOf key < 2 ^ 32 := by
  have h0 : (key 0).toNat < 2 ^ 8 := UInt8.toNat_lt _
  have h1 : (key 1).toNat < 2 ^ 8 := UInt8.toNat_lt _
  have h2 : (key 2).toNat < 2 ^ 8 := UInt8.toNat_lt _
  have h3 : (key 3).toNat < 2 ^ 8 := UInt8.toNat_lt _
  unfold uintOf
  omega

/-- Four bytes are known by their number. -/
lemma uintOf_injective : Function.Injective uintOf := by
  intro key key' h
  have hlt (k : Fin 4 → UInt8) (i : Fin 4) : (k i).toNat < 2 ^ 8 := UInt8.toNat_lt _
  have h0 := hlt key 0
  have h1 := hlt key 1
  have h2 := hlt key 2
  have h3 := hlt key 3
  have h0' := hlt key' 0
  have h1' := hlt key' 1
  have h2' := hlt key' 2
  have h3' := hlt key' 3
  simp only [uintOf] at h
  funext i
  rw [← UInt8.toNat_inj]
  fin_cases i <;> simp only [Fin.zero_eta, Fin.mk_one, Fin.reduceFinMk] <;> omega

lemma uintHash_toNat (mapSize : ℕ) (key : Fin 4 → UInt8) :
    (uintHash mapSize key).toNat = uintOf key % mapSize := by
  have hle : uintOf key % mapSize ≤ uintOf key := Nat.mod_le _ _
  have hlt := uintOf_lt key
  rw [uintHash, UInt32.toNat_ofNat', Nat.mod_eq_of_lt (by omega)]

/-- A map with `uint_hash`. -/
def uintType (keyOffset valueSize mapSize : ℕ) (inside : keyOffset + 4 ≤ valueSize)
    (hpos : 0 < mapSize) : HashType where
  keyOffset
  keyLength := 4
  valueSize
  mapSize
  inside
  hashFunc := uintHash mapSize
  below key := by
    rw [uintHash_toNat]
    exact Nat.mod_lt _ hpos

/-- Every key hashes to an `int` exactly if the map is not too large. -/
lemma uintType_fits_iff {keyOffset valueSize mapSize : ℕ} (inside : keyOffset + 4 ≤ valueSize)
    (hpos : 0 < mapSize) :
    (∀ key, (uintType keyOffset valueSize mapSize inside hpos).HashFits key)
      ↔ mapSize ≤ 2 ^ 31 := by
  constructor
  · intro h
    have hkey : uintOf ![0, 0, 0, 128] = 2 ^ 31 := by decide
    have hfits : (uintHash mapSize ![0, 0, 0, 128]).toNat < 2 ^ 31 := h ![0, 0, 0, 128]
    rw [uintHash_toNat, hkey] at hfits
    by_contra hlarge
    rw [Nat.mod_eq_of_lt (by omega)] at hfits
    omega
  · intro hsmall key
    exact ((uintType keyOffset valueSize mapSize inside hpos).below key).trans_le hsmall

end DpaProvider
