import DpaProvider.Dpa
import DpaProvider.Library.Effect
import DpaProvider.Library.Stepper
import DpaProvider.Library.Vectors

/-!
Address vectors.

The table of an address vector is an `array` that insertions reallocate, and a handle (`fi_addr_t`)
is the index of an entry or a pointer to it, which the field `type` decides.  `dpa_av_open` computes
a type and does not store it, so that the field is never `FI_AV_TABLE` and handles are pointers; and
a vector that is no table has no array.

* `Sound`: what every run of insertions keeps of the table, of the handles and of the addresses
  in it;
* `roundTrip_iff`: the handles of a run do what they should only if there are none, and the vector
  is no table; a handle of a table is good as long as no insertion has moved the table since.
-/

namespace DpaProvider

open ByteMem

/-- The `fi_av_type`. -/
inductive FiAvType where
  | unspec
  | map
  | table
  deriving DecidableEq, Repr

/-- The `fi_av_attr`, as far as it is looked at. -/
structure FiAvAttr where
  flags : UInt64
  type : FiAvType
  count : UInt64

/-- What ends a call before it returns. -/
inductive Fault where
  | nullPointer
  /-- Memory is accessed outside the block it should be in, of which nothing is known. -/
  | outOfBounds
  deriving DecidableEq, Repr

/-- The eight bytes of a `dpa_addr_t`. -/
def DpaAddr.bytes (a : DpaAddr) : List UInt8 :=
  (List.range 8).map (byteOf (a.nodeId.toUInt64 ||| a.connectId.toUInt64 <<< 32))

@[simp] lemma DpaAddr.bytes_length (a : DpaAddr) : a.bytes.length = 8 := by simp [bytes]

/-! ### Arrays -/

/-- The answer of `malloc` or `realloc`: a block in the address space, or none. -/
def allocated (answer : Option ℕ) (size : UInt64) : Option ℕ :=
  answer.filter fun a => 0 < a ∧ a + size.toNat ≤ 2 ^ 64

/-- The `array`: where its entries are, what its header says of their number, and how many bytes of
its block they have. -/
structure DpaArray where
  entries : ℕ
  count : UInt64
  size : ℕ

/-- `array_create`, for entries of eight bytes. -/
def arrayCreate (count : UInt64) (answer : Option ℕ) : Except Fault DpaArray :=
  let size := 16 + 8 * count
  match allocated answer size with
  | none => .error .nullPointer
  | some a =>
      if size.toNat < 16 then .error .outOfBounds
      else .ok ⟨a + 16, count, size.toNat - 16⟩

/-- `array_request_size`: the array, and the memory.  What is copied is the begin of the old
block; the header keeps its count. -/
def arrayRequestSize (mem : ByteMem) (arr : DpaArray) (count : UInt64) (answer : Option ℕ) :
    Option (DpaArray × ByteMem) :=
  if count ≤ arr.count then some (arr, mem)
  else
    let newcount := 2 * arr.count + count
    let size := 16 + newcount * 8
    (allocated answer size).map fun a =>
      ({ arr with entries := a + 16, size := size.toNat - 16 },
        store mem (a + 16) (slice mem arr.entries (min arr.size (size.toNat - 16))))

/-! ### Address vectors -/

/-- The `dpa_fid_av`, with the memory that its table is in. -/
structure DpaFidAv where
  type : FiAvType
  table : Option DpaArray
  last : UInt64
  mem : ByteMem

/-- The type asked for: the local variable `type` of `dpa_av_open`. -/
def askedType (attr : Option FiAvAttr) : FiAvType :=
  match attr with
  | some a => if a.type = .table then .table else .map
  | none => .map

/-- The arguments of a `dpa_av_insert`, and the answer of `realloc` should it be called. -/
structure InsertCall where
  addrs : List DpaAddr
  fits : 8 * addrs.length < 2 ^ 64
  answer : Option ℕ

namespace DpaFidAv

/-- `dpa_av_open`; the field `type` is cleared with the rest of the record. -/
def dpaAvOpen (attr : Option FiAvAttr) (answer : Option ℕ) (mem : ByteMem) :
    Except Fault (Except FiErr DpaFidAv) :=
  if (attr.elim 0 FiAvAttr.flags) ≠ 0 then .ok (.error .enodata)
  else if askedType attr = .table then
    (arrayCreate (attr.elim 0 FiAvAttr.count) answer).map fun arr => .ok ⟨.unspec, some arr, 0, mem⟩
  else .ok (.ok ⟨.unspec, none, 0, mem⟩)

/-- The pointer `table`. -/
def entries (av : DpaFidAv) : ℕ := av.table.elim 0 DpaArray.entries

/-- The conversion to the parameter `i` of `_get_fi_addr`. -/
def toIndex (i : UInt64) : ℤ := (i.toNat : ℤ).bmod (2 ^ 32)

/-- `_get_fi_addr`. -/
def getFiAddr (av : DpaFidAv) (i : ℤ) : UInt64 :=
  if av.type = .table then .ofInt i else .ofInt (av.entries + 8 * i)

/-- `dpa_av_insert`, with `check_table_size`: the return value, and the handles. -/
def dpaAvInsert (av : DpaFidAv) (a : InsertCall) :
    Except Fault ((Except FiErr UInt64 × List UInt64) × DpaFidAv) :=
  let count := UInt64.ofNat a.addrs.length
  match av.table with
  | none => .error .nullPointer
  | some arr =>
      match arrayRequestSize av.mem arr (av.last + count) a.answer with
      | none => .ok ((.error .enomem, []), av)
      | some (arr, mem) =>
          if 8 * (av.last.toNat + a.addrs.length) ≤ arr.size then
            let av := { av with table := some arr
                                mem := store mem (arr.entries + 8 * av.last.toNat)
                                  (a.addrs.flatMap DpaAddr.bytes) }
            let fiAddr := (List.range a.addrs.length).map fun i =>
              av.getFiAddr (toIndex (av.last + .ofNat i))
            .ok ((.ok count, fiAddr), { av with last := av.last + count })
          else .error .outOfBounds

/-- A read of `n` bytes through a pointer, which should be one into the table. -/
def load (av : DpaFidAv) (p n : ℕ) : Except Fault (List UInt8) :=
  match av.table with
  | none => .error .outOfBounds
  | some arr =>
      if arr.entries ≤ p ∧ p + n ≤ arr.entries + arr.size then .ok (slice av.mem p n)
      else .error .outOfBounds

/-- `dpa_av_lookup`: the return value, and the bytes copied.  There is no `addrlen` if one of the
two pointers is null. -/
def dpaAvLookup (av : DpaFidAv) (fiAddr : UInt64) (addrlen : Option UInt64) :
    Except Fault (FiErr × List UInt8) :=
  match addrlen with
  | none => .ok (.einval, [])
  | some n =>
      if av.type = .table ∧ fiAddr > av.last then .ok (.einval, [])
      else
        let result := if av.type = .table then (av.entries + 8 * fiAddr.toNat) % 2 ^ 64
          else fiAddr.toNat
        (av.load result (min n 8).toNat).map fun bytes => (.success, bytes)

/-! ### Runs of insertions -/

/-- A handle given by an insertion, its address, and where the table was then. -/
structure Given where
  handle : UInt64
  addr : DpaAddr
  entries : ℕ
  deriving DecidableEq

/-- An address vector with the handles given so far. -/
structure Filled where
  av : DpaFidAv
  given : List Given

namespace Filled

/-- An insertion, unless it does not return. -/
def step (f : Filled) (a : InsertCall) : Option Filled :=
  match f.av.dpaAvInsert a with
  | .ok ((_, fiAddr), av) =>
      some ⟨av, f.given ++ List.zipWith (fun h addr => ⟨h, addr, av.entries⟩) fiAddr a.addrs⟩
  | .error _ => none

/-- What the handles should do: every one of them is looked up to the address it was given for, and
those of a table are its indices, all others being rejected. -/
structure RoundTrip (attr : Option FiAvAttr) (f : Filled) : Prop where
  found : ∀ g ∈ f.given, ∀ n,
    f.av.dpaAvLookup g.handle (some n) = .ok (.success, g.addr.bytes.take n.toNat)
  indices : askedType attr = .table →
    f.given.map Given.handle = (List.range f.given.length).map UInt64.ofNat
  rejected : askedType attr = .table → ∀ h, h ∉ f.given.map Given.handle → ∀ n,
    f.av.dpaAvLookup h (some n) = .ok (.einval, [])

/-- What insertions keep: the type is not set; the table lies in the address space and holds the
addresses in order; a handle is the pointer to its entry in the table of its time. -/
structure Sound (f : Filled) : Prop where
  type : f.av.type = .unspec
  last : f.av.last.toNat = f.given.length
  placed : ∀ arr, f.av.table = some arr →
    0 < arr.entries ∧ arr.entries + arr.size ≤ 2 ^ 64 ∧ 8 * f.given.length ≤ arr.size
  held : ∀ k g, f.given[k]? = some g → slice f.av.mem (f.av.entries + 8 * k) 8 = g.addr.bytes
  handles : ∀ k g, f.given[k]? = some g → g.handle = .ofInt (g.entries + 8 * toIndex (.ofNat k))
    ∧ 0 < g.entries ∧ g.entries + 8 * (k + 1) ≤ 2 ^ 64

end Filled

lemma allocated_spec {answer : Option ℕ} {size : UInt64} {a : ℕ}
    (h : allocated answer size = some a) : 0 < a ∧ a + size.toNat ≤ 2 ^ 64 := by
  obtain ⟨-, hfits⟩ := Option.filter_eq_some_iff.1 h
  simpa using hfits

/-- A new array lies in the address space. -/
lemma arrayCreate_spec {count : UInt64} {answer : Option ℕ} {arr : DpaArray}
    (h : arrayCreate count answer = .ok arr) :
    0 < arr.entries ∧ arr.entries + arr.size ≤ 2 ^ 64 := by
  rw [arrayCreate] at h
  cases hblock : allocated answer (16 + 8 * count) with
  | none => simp [hblock] at h
  | some a =>
      obtain ⟨hpos, hfits⟩ := allocated_spec hblock
      simp only [hblock] at h
      split at h
      case isTrue => simp at h
      case isFalse hheader =>
          obtain rfl := Except.ok.inj h
          exact ⟨by simp only; omega, by simp only; omega⟩

/-- The array requested lies in the address space and begins as the old one. -/
lemma arrayRequestSize_spec {mem mem' : ByteMem} {arr arr' : DpaArray} {count : UInt64}
    {answer : Option ℕ} (h : arrayRequestSize mem arr count answer = some (arr', mem'))
    (hplaced : 0 < arr.entries ∧ arr.entries + arr.size ≤ 2 ^ 64)
    (hroom : 8 * count.toNat ≤ arr'.size) {n : ℕ} (hn : n ≤ arr.size) (hn' : n ≤ arr'.size) :
    (0 < arr'.entries ∧ arr'.entries + arr'.size ≤ 2 ^ 64)
      ∧ slice mem' arr'.entries n = slice mem arr.entries n := by
  rw [arrayRequestSize] at h
  split at h
  case isTrue =>
      obtain ⟨rfl, rfl⟩ := Prod.mk.inj (Option.some.inj h)
      exact ⟨hplaced, rfl⟩
  case isFalse hlt =>
      obtain ⟨a, ha, heq⟩ := Option.map_eq_some_iff.1 h
      obtain ⟨rfl, rfl⟩ := Prod.mk.inj heq
      obtain ⟨hpos, hfits⟩ := allocated_spec ha
      have hcount : 0 < count.toNat := by
        have := UInt64.lt_iff_toNat_lt.1 (UInt64.not_le.1 hlt)
        omega
      dsimp only at hroom hn' ⊢
      refine ⟨⟨by omega, by omega⟩, ?_⟩
      have hcopied := slice_store mem (a + 16) (slice mem arr.entries
        (min arr.size ((16 + (2 * arr.count + count) * 8).toNat - 16)))
      rw [slice_length] at hcopied
      have hle : n ≤ min arr.size ((16 + (2 * arr.count + count) * 8).toNat - 16) :=
        le_min hn hn'
      rw [← slice_take _ hle, hcopied, slice_take _ hle]

/-- What `dpa_av_open` gives: a table if one is asked for, and never the type of one. -/
lemma dpaAvOpen_cases {attr : Option FiAvAttr} {answer : Option ℕ} {mem : ByteMem} {av : DpaFidAv}
    (hopen : dpaAvOpen attr answer mem = .ok (.ok av)) :
    av.type = .unspec ∧ av.last = 0
      ∧ (askedType attr ≠ .table → av.table = none)
      ∧ (askedType attr = .table → ∃ arr, av.table = some arr
        ∧ 0 < arr.entries ∧ arr.entries + arr.size ≤ 2 ^ 64) := by
  rw [dpaAvOpen] at hopen
  split at hopen
  case isTrue => simp at hopen
  case isFalse =>
      split at hopen
      case isFalse hmap =>
          obtain rfl := Except.ok.inj (Except.ok.inj hopen)
          exact ⟨rfl, rfl, fun _ => rfl, fun h => absurd h hmap⟩
      case isTrue htable =>
          obtain ⟨arr, hcreate, heq⟩ := Except.map_eq_ok hopen
          obtain rfl := Except.ok.inj heq
          exact ⟨rfl, rfl, fun h => absurd htable h, fun _ => ⟨arr, rfl, arrayCreate_spec hcreate⟩⟩

/-- An insertion that returns has found a table.  It fails and changes nothing, or it puts the
addresses behind those there. -/
lemma dpaAvInsert_cases {av : DpaFidAv} {a : InsertCall}
    {r : (Except FiErr UInt64 × List UInt64) × DpaFidAv} (h : av.dpaAvInsert a = .ok r) :
    ∃ arr, av.table = some arr ∧ (r = ((.error .enomem, []), av)
      ∨ ∃ arr' mem', arrayRequestSize av.mem arr (av.last + .ofNat a.addrs.length) a.answer
          = some (arr', mem')
        ∧ 8 * (av.last.toNat + a.addrs.length) ≤ arr'.size
        ∧ r.1.2 = (List.range a.addrs.length).map (fun i =>
          ({ av with table := some arr' } : DpaFidAv).getFiAddr
            (toIndex (av.last + UInt64.ofNat i)))
        ∧ r.2 = { av with table := some arr', last := av.last + .ofNat a.addrs.length
                          mem := store mem' (arr'.entries + 8 * av.last.toNat)
                            (a.addrs.flatMap DpaAddr.bytes) }) := by
  rw [dpaAvInsert] at h
  cases htable : av.table with
  | none => simp [htable] at h
  | some arr =>
      refine ⟨arr, rfl, ?_⟩
      simp only [htable] at h
      cases hrequest : arrayRequestSize av.mem arr (av.last + .ofNat a.addrs.length) a.answer with
      | none =>
          simp only [hrequest] at h
          exact .inl (Except.ok.inj h).symm
      | some p =>
          simp only [hrequest] at h
          split at h
          case isFalse => simp at h
          case isTrue hroom =>
              obtain rfl := Except.ok.inj h
              exact .inr ⟨_, _, rfl, hroom, List.map_congr_left fun _ _ => rfl, rfl⟩

namespace Filled

variable {f f' : Filled}

/-- A handle is one given before, or one of those given now. -/
lemma getElem?_given {given : List Given} {fiAddr : List UInt64} {addrs : List DpaAddr}
    {entries k : ℕ} {g : Given}
    (h : (given ++ List.zipWith (fun h addr => (⟨h, addr, entries⟩ : Given)) fiAddr addrs)[k]?
      = some g) :
    (k < given.length ∧ given[k]? = some g)
      ∨ given.length ≤ k ∧ k - given.length < addrs.length
        ∧ fiAddr[k - given.length]? = some g.handle
        ∧ addrs[k - given.length]? = some g.addr ∧ g.entries = entries := by
  rcases Nat.lt_or_ge k given.length with hk | hk
  · rw [List.getElem?_append_left hk] at h
    exact .inl ⟨hk, h⟩
  · rw [List.getElem?_append_right hk, List.getElem?_zipWith_eq_some] at h
    obtain ⟨x, y, hx, hy, rfl⟩ := h
    exact .inr ⟨hk, (List.getElem?_eq_some_iff.1 hy).1, hx, hy, rfl⟩

/-- An entry is the same after the table has been copied and more is put behind it. -/
lemma slice_kept {mem mem' : ByteMem} {e e' n k : ℕ} (l : List UInt8)
    (hkept : slice mem' e' (8 * n) = slice mem e (8 * n)) (hk : k < n) :
    slice (store mem' (e' + 8 * n) l) (e' + 8 * k) 8 = slice mem (e + 8 * k) 8 := by
  have hbefore : slice (store mem' (e' + 8 * n) l) (e' + 8 * k) 8 = slice mem' (e' + 8 * k) 8 :=
    slice_congr fun i hi => store_of_notMem (by omega)
  rw [hbefore, slice_slice mem' e' (n := 8 * n) (by omega), hkept, ← slice_slice mem e (by omega)]

/-- The number of the `k`th address. -/
lemma last_add_ofNat {last : UInt64} {n k : ℕ} (hlast : last.toNat = n) (hk : n ≤ k) :
    last + UInt64.ofNat (k - n) = UInt64.ofNat k := by
  rw [← UInt64.toNat_inj, UInt64.toNat_add, UInt64.toNat_ofNat', UInt64.toNat_ofNat', hlast]
  omega

lemma Sound.step (h : Sound f) {a : InsertCall} (hstep : f.step a = some f') : Sound f' := by
  rw [Filled.step] at hstep
  cases hinsert : f.av.dpaAvInsert a with
  | error fault => simp [hinsert] at hstep
  | ok r =>
      obtain ⟨arr, htable, rfl | ⟨arr', mem', hrequest, hroom, haddr, hav⟩⟩ :=
        dpaAvInsert_cases hinsert
      · simp only [hinsert] at hstep
        obtain rfl := Option.some.inj hstep
        simpa using h
      · obtain ⟨⟨ret, fiAddr⟩, av⟩ := r
        dsimp only at haddr hav
        simp only [hinsert] at hstep
        obtain rfl := Option.some.inj hstep
        obtain ⟨hpos, hspace, hold⟩ := h.placed arr htable
        have hlast := h.last
        have hfits := a.fits
        -- neither the number of addresses nor the end of the table overflows
        have hcount : (f.av.last + .ofNat a.addrs.length).toNat
            = f.given.length + a.addrs.length := by
          rw [UInt64.toNat_add, UInt64.toNat_ofNat', hlast]
          omega
        have hgiven : (List.zipWith (fun h addr => (⟨h, addr, av.entries⟩ : Given)) fiAddr
            a.addrs).length = a.addrs.length := by simp [haddr]
        obtain ⟨⟨hpos', hspace'⟩, hkept⟩ := arrayRequestSize_spec hrequest ⟨hpos, hspace⟩
          (by rw [hcount]; omega) hold (by omega)
        have hentries : av.entries = arr'.entries := by rw [hav]; rfl
        have hmem : av.mem = store mem' (arr'.entries + 8 * f.given.length)
            (a.addrs.flatMap DpaAddr.bytes) := by rw [hav, ← hlast]
        refine ⟨by rw [hav]; exact h.type, ?_, ?_, fun k g hg => ?_, fun k g hg => ?_⟩
        · rw [List.length_append, hgiven, hav]
          exact hcount
        · intro arr'' harr
          obtain rfl : arr' = arr'' := by
            rw [hav] at harr
            exact Option.some.inj harr
          rw [List.length_append, hgiven]
          exact ⟨hpos', hspace', by omega⟩
        · rw [hentries, hmem]
          rcases getElem?_given hg with ⟨hk, hg⟩ | ⟨hk, -, -, hx, -⟩
          · rw [slice_kept _ hkept hk, ← h.held k g hg, entries, htable]
            rfl
          · rw [show arr'.entries + 8 * k
              = arr'.entries + 8 * f.given.length + 8 * (k - f.given.length) by omega]
            exact slice_store_entry mem' _ DpaAddr.bytes_length hx
        · rcases getElem?_given hg with ⟨-, hg⟩ | ⟨hk, hlt, hx, -, hg⟩
          · exact h.handles k g hg
          · rw [hg, hentries]
            refine ⟨?_, hpos', by omega⟩
            rw [haddr, List.getElem?_map, List.getElem?_range hlt, Option.map_some] at hx
            rw [← Option.some.inj hx, getFiAddr, if_neg (by rw [h.type]; decide),
              last_add_ofNat hlast hk]
            rfl

/-! ### Opening and looking up -/

lemma sound_open {attr : Option FiAvAttr} {answer : Option ℕ} {mem : ByteMem} {av : DpaFidAv}
    (hopen : dpaAvOpen attr answer mem = .ok (.ok av)) : Sound ⟨av, []⟩ := by
  obtain ⟨htype, hlast, hmap, htable⟩ := dpaAvOpen_cases hopen
  refine ⟨htype, by simp [hlast], fun arr harr => ?_, by simp, by simp⟩
  by_cases hasked : askedType attr = .table
  · obtain ⟨arr', harr', hpos, hspace⟩ := htable hasked
    obtain rfl : arr' = arr := Option.some.inj (harr'.symm.trans harr)
    exact ⟨hpos, hspace, Nat.zero_le _⟩
  · exact absurd harr (by simp [hmap hasked])

/-- No handle is rejected. -/
lemma Sound.not_rejected (h : Sound f) (fiAddr n : UInt64) :
    f.av.dpaAvLookup fiAddr (some n) ≠ .ok (.einval, []) := by
  intro hlookup
  simp only [dpaAvLookup, h.type, reduceCtorEq, false_and, if_false] at hlookup
  obtain ⟨bytes, -, heq⟩ := Except.map_eq_ok hlookup
  simp at heq

lemma toIndex_ofNat {k : ℕ} (hk : k < 2 ^ 31) : toIndex (.ofNat k) = k := by
  have hnat : (UInt64.ofNat k).toNat = k := by
    rw [UInt64.toNat_ofNat', Nat.mod_eq_of_lt (by omega)]
  unfold toIndex
  rw [hnat]
  apply Int.bmod_eq_of_le <;> omega

lemma ofInt_toNat (n : ℕ) : (UInt64.ofInt n).toNat = n % 2 ^ 64 := by
  rw [UInt64.ofInt, UInt64.toNat_ofNat']
  omega

/-- A handle below the range of `int` is the address of its entry. -/
lemma Sound.handle_toNat (h : Sound f) {k : ℕ} {g : Given} (hg : f.given[k]? = some g)
    (hk : k < 2 ^ 31) : g.handle.toNat = g.entries + 8 * k := by
  obtain ⟨hhandle, hpos, hspace⟩ := h.handles k g hg
  rw [hhandle, toIndex_ofNat hk, show (g.entries + 8 * k : ℤ) = (g.entries + 8 * k : ℕ) by simp,
    ofInt_toNat, Nat.mod_eq_of_lt (by omega)]

/-- A handle is looked up to its address as long as the table is where it was. -/
lemma Sound.found (h : Sound f) {k : ℕ} {g : Given} (hg : f.given[k]? = some g) (hk : k < 2 ^ 31)
    {arr : DpaArray} (harr : f.av.table = some arr) (hsame : arr.entries = g.entries) (n : UInt64) :
    f.av.dpaAvLookup g.handle (some n) = .ok (.success, g.addr.bytes.take n.toNat) := by
  have hhandle := h.handle_toNat hg hk
  obtain ⟨-, -, hold⟩ := h.placed arr harr
  have hlt : k < f.given.length := (List.getElem?_eq_some_iff.1 hg).1
  have hlen : (min n 8).toNat = min n.toNat 8 := UInt64.toNat_min n 8
  have hheld := h.held k g hg
  rw [entries, harr, Option.elim_some, hsame] at hheld
  simp only [dpaAvLookup, h.type, reduceCtorEq, false_and, if_false, load, harr, hlen, hhandle,
    hsame]
  rw [if_pos (by omega), ← hheld, slice_take_min]
  rfl

/-- The handles of a table are no indices, and if there is none, none is rejected. -/
lemma Sound.not_roundTrip (h : Sound f) {attr : Option FiAvAttr}
    (hasked : askedType attr = .table) : ¬ RoundTrip attr f := by
  intro hround
  cases hgiven : f.given with
  | nil => exact h.not_rejected 0 8 (hround.rejected hasked 0 (by simp [hgiven]) 8)
  | cons g rest =>
      have hfirst : f.given[0]? = some g := by rw [hgiven]; rfl
      obtain ⟨-, hpos, hspace⟩ := h.handles 0 g hfirst
      have haddress := h.handle_toNat hfirst (by simp)
      have hindices := hround.indices hasked
      rw [hgiven, List.length_cons, List.range_succ_eq_map, List.map_cons, List.map_cons]
        at hindices
      rw [(List.cons.inj hindices).1] at haddress
      have hzero : (UInt64.ofNat 0).toNat = 0 := rfl
      omega

end Filled

/-- For every type and count that `dpa_av_open` accepts, and every run of insertions, wherever the
table is put and moved: the run returns and its handles do what they should only if there is no
insertion and the vector is no table.  Of a run on a table that returns, a handle that was given
while the table was where it is at the end is looked up to its address, if its index fits an
`int`. -/
theorem roundTrip_iff {attr : Option FiAvAttr} {answer : Option ℕ} {mem : ByteMem} {av : DpaFidAv}
    (hopen : dpaAvOpen attr answer mem = .ok (.ok av)) (run : List InsertCall) :
    ((∃ f, Stepper.run Filled.step ⟨av, []⟩ run = some f ∧ f.RoundTrip attr)
        ↔ askedType attr ≠ .table ∧ run = [])
      ∧ ∀ f, Stepper.run Filled.step ⟨av, []⟩ run = some f → ∀ k g arr, f.given[k]? = some g →
        k < 2 ^ 31 → f.av.table = some arr → arr.entries = g.entries → ∀ n,
          f.av.dpaAvLookup g.handle (some n) = .ok (.success, g.addr.bytes.take n.toNat) := by
  have hsound (f : Filled) (hrun : Stepper.run Filled.step ⟨av, []⟩ run = some f) : f.Sound :=
    Stepper.run_invariant (fun _ _ _ h hstep => h.step hstep) (Filled.sound_open hopen) hrun
  refine ⟨⟨?_, ?_⟩, fun f hrun k g arr hg hk harr hsame n =>
    (hsound f hrun).found hg hk harr hsame n⟩
  · rintro ⟨f, hrun, hround⟩
    by_cases hasked : askedType attr = .table
    · exact absurd hround ((hsound f hrun).not_roundTrip hasked)
    · refine ⟨hasked, ?_⟩
      cases run with
      | nil => rfl
      | cons a rest =>
          -- the first insertion follows the null pointer of the table
          obtain ⟨f', hstep, -⟩ := Stepper.run_cons_some _ hrun
          have hnone : av.table = none := (dpaAvOpen_cases hopen).2.2.1 hasked
          simp [Filled.step, dpaAvInsert, hnone] at hstep
  · rintro ⟨hmap, rfl⟩
    exact ⟨_, rfl, by simp, fun h => absurd h hmap, fun h => absurd h hmap⟩

/-- The attributes of a table. -/
def tableAttr (count : UInt64) : Option FiAvAttr := some ⟨0, .table, count⟩

/-- A table as `dpa_av_open` gives it, with its entries at the address 4112. -/
def opened (count : UInt64) (size : ℕ) : DpaFidAv :=
  ⟨.unspec, some ⟨4112, count, size⟩, 0, fun _ => 0⟩

/-- An insertion of one address. -/
def insertOne (addr : DpaAddr) (answer : Option ℕ) : InsertCall := ⟨[addr], by simp, answer⟩

lemma dpaAvOpen_opened :
    dpaAvOpen (tableAttr 1) (some 4096) (fun _ => 0) = .ok (.ok (opened 1 8))
      ∧ dpaAvOpen (tableAttr 2) (some 4096) (fun _ => 0) = .ok (.ok (opened 2 16)) := by
  constructor <;>
    simp [dpaAvOpen, tableAttr, askedType, arrayCreate, allocated, opened, Except.map,
      Option.filter]

/-- Two addresses in a table with room for both. -/
theorem roundTrip_iff_roomy : ∃ f,
    Stepper.run Filled.step ⟨opened 2 16, []⟩
        [insertOne ⟨1, 2⟩ none, insertOne ⟨3, 4⟩ none] = some f
      ∧ f.given.map Given.handle = [4112, 4120]
      ∧ f.av.dpaAvLookup 4120 (some 8) = .ok (.success, (⟨3, 4⟩ : DpaAddr).bytes.take 8) := by
  have hview : (Stepper.run Filled.step ⟨opened 2 16, []⟩
      [insertOne ⟨1, 2⟩ none, insertOne ⟨3, 4⟩ none]).map
        (fun f => (f.given, f.av.table.map DpaArray.entries))
      = some ([⟨4112, ⟨1, 2⟩, 4112⟩, ⟨4120, ⟨3, 4⟩, 4112⟩], some 4112) := by decide +kernel
  obtain ⟨f, hrun, hf⟩ := Option.map_eq_some_iff.1 hview
  obtain ⟨hgiven, htable⟩ := Prod.mk.inj hf
  obtain ⟨arr, harr, hsame⟩ := Option.map_eq_some_iff.1 htable
  exact ⟨f, hrun, by rw [hgiven]; rfl, (roundTrip_iff dpaAvOpen_opened.2 _).2 f hrun 1
    ⟨4120, ⟨3, 4⟩, 4112⟩ arr (by rw [hgiven]; rfl) (by simp) harr hsame 8⟩

/-- The second of two addresses in a table for one moves the table: the handles are pointers, the
first of them into memory given back. -/
theorem roundTrip_fails : ∃ f,
    Stepper.run Filled.step ⟨opened 1 8, []⟩
        [insertOne ⟨1, 2⟩ none, insertOne ⟨3, 4⟩ (some 8192)] = some f
      ∧ f.given.map Given.handle = [4112, 8216]
      ∧ f.av.dpaAvLookup 4112 (some 8) = .error .outOfBounds
      ∧ ¬ f.RoundTrip (tableAttr 1) := by
  have hview : (Stepper.run Filled.step ⟨opened 1 8, []⟩
      [insertOne ⟨1, 2⟩ none, insertOne ⟨3, 4⟩ (some 8192)]).map
        (fun f => (f.given, f.av.dpaAvLookup 4112 (some 8)))
      = some ([⟨4112, ⟨1, 2⟩, 4112⟩, ⟨8216, ⟨3, 4⟩, 8208⟩], .error .outOfBounds) := by
    decide +kernel
  obtain ⟨f, hrun, hf⟩ := Option.map_eq_some_iff.1 hview
  obtain ⟨hgiven, hlookup⟩ := Prod.mk.inj hf
  refine ⟨f, hrun, by rw [hgiven]; rfl, hlookup, fun hround => ?_⟩
  have hfound := hround.found ⟨4112, ⟨1, 2⟩, 4112⟩ (by rw [hgiven]; exact List.mem_cons_self) 8
  exact absurd (hlookup.symm.trans hfound) (by simp)

end DpaFidAv

end DpaProvider
