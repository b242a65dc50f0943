import DpaProvider.Msg.Ring

/-!
What the ring holds, at absolute positions.

The frames ever sent lie one behind the other from position `0` on: `framePos`
is where a frame starts.  `Layout` describes the ring between the receiver's
position and one ring further: the frames the receiver has not released (the
first of them cleared up to some byte), the part of the payload the sender has
stored behind them, and zeroes elsewhere.  The zeroes are promised only while
`clean` holds, as a receive that cuts a message off leaves bytes behind.

Each store of the two sides is one lemma: `Layout.store` and `Layout.commit`
for the sender, `Layout.clear` and `Layout.release` for the receiver.
-/

namespace DpaProvider

open ByteMem Circular

/-- The byte `j` of the frame of a message: the header word, the payload, and
zeroes up to the next word. -/
def frameByte (m : List UInt8) (j : ℕ) : UInt8 :=
  if j < 8 then byteOf (UInt64.ofNat m.length) j else m.getD (j - 8) 0

lemma frameByte_header {m : List UInt8} {j : ℕ} (h : j < 8) :
    frameByte m j = byteOf (UInt64.ofNat m.length) j := if_pos h

lemma frameByte_payload {m : List UInt8} {i : ℕ} (h : i < m.length) :
    frameByte m (8 + i) = m[i] := by
  rw [frameByte, if_neg (by omega), Nat.add_sub_cancel_left, List.getD_eq_getElem?_getD,
    List.getElem?_eq_getElem h, Option.getD_some]

/-- The position of the frame number `k`: the frames before it, one behind the
other. -/
def framePos (sent : List (List UInt8)) (k : ℕ) : ℕ :=
  ((sent.take k).map fun m => frameLen m.length).sum

section FramePos

variable {sent : List (List UInt8)} {k k' : ℕ} {m : List UInt8}

lemma framePos_succ (h : sent[k]? = some m) :
    framePos sent (k + 1) = framePos sent k + frameLen m.length := by
  simp [framePos, List.take_add_one, h]

lemma framePos_le_succ (sent : List (List UInt8)) (k : ℕ) :
    framePos sent k ≤ framePos sent (k + 1) := by
  cases h : sent[k]? with
  | none => simp [framePos, List.take_add_one, h]
  | some m => rw [framePos_succ h]; exact Nat.le_add_right _ _

lemma framePos_mono (h : k ≤ k') : framePos sent k ≤ framePos sent k' :=
  monotone_nat_of_le_succ (framePos_le_succ sent) h

lemma framePos_append (h : k ≤ sent.length) (l : List (List UInt8)) :
    framePos (sent ++ l) k = framePos sent k := by
  rw [framePos, framePos, List.take_append_of_le_length h]

/-- A frame ends where the sent frames end, at the latest. -/
lemma framePos_add_le (h : sent[k]? = some m) :
    framePos sent k + frameLen m.length ≤ framePos sent sent.length := by
  obtain ⟨hk, -⟩ := List.getElem?_eq_some_iff.1 h
  rw [← framePos_succ h]
  exact framePos_mono hk

/-- A byte of a frame from number `k` on lies between the position `k` and the
end. -/
lemma framePos_window {j : ℕ} (hk : k ≤ k') (hm : sent[k']? = some m) (hj : j < 8 + m.length) :
    framePos sent k ≤ framePos sent k' + j
      ∧ framePos sent k' + j < framePos sent sent.length := by
  have hmono : framePos sent k ≤ framePos sent k' := framePos_mono hk
  have hend := framePos_add_le hm
  have hlen := le_frameLen m.length
  omega

lemma dvd_framePos (sent : List (List UInt8)) (k : ℕ) : 8 ∣ framePos sent k := by
  refine List.dvd_sum fun n hn => ?_
  obtain ⟨m, -, rfl⟩ := List.mem_map.1 hn
  exact dvd_frameLen _

end FramePos

/-! ### The layout of the ring -/

/-- The positions that hold a byte of an unreleased frame, or of the payload the
sender is storing. -/
def Occupied (sent : List (List UInt8)) (rel cleared filled x : ℕ) : Prop :=
  (∃ k m j, rel ≤ k ∧ sent[k]? = some m ∧ j < 8 + m.length ∧ (k = rel → cleared ≤ j)
      ∧ x = framePos sent k + j)
    ∨ ∃ j, 8 ≤ j ∧ j < 8 + filled ∧ x = framePos sent sent.length + j

/-- The ring of `S` bytes once the frames `sent` have been sent and `rel` of them
released, the next one being cleared up to its byte `cleared` and the sender
having stored `filled` bytes of the payload `pend`. -/
structure Layout (S : ℕ) (ring : ByteMem) (sent : List (List UInt8)) (rel cleared : ℕ)
    (pend : List UInt8) (filled : ℕ) (clean : Prop) : Prop where
  rel_le : rel ≤ sent.length
  room : framePos sent sent.length ≤ framePos sent rel + S
  room_stored : 0 < filled → framePos sent sent.length + 8 + filled ≤ framePos sent rel + S
  payload : ∀ k m j, rel ≤ k → sent[k]? = some m → j < 8 + m.length → (k = rel → cleared ≤ j) →
    at_ S ring (framePos sent k + j) = frameByte m j
  stored : ∀ j, 8 ≤ j → j < 8 + filled →
    at_ S ring (framePos sent sent.length + j) = frameByte pend j
  zero : clean → ∀ x, framePos sent rel ≤ x → x < framePos sent rel + S →
    ¬ Occupied sent rel cleared filled x → at_ S ring x = 0

namespace Layout

variable {S : ℕ} {ring : ByteMem} {sent : List (List UInt8)} {rel cleared filled : ℕ}
  {pend m : List UInt8} {clean : Prop}

/-- A zeroed ring holds nothing. -/
lemma init (hring : ∀ x < S, ring x = 0) (hS : 0 < S) : Layout S ring [] 0 0 [] 0 True where
  rel_le := Nat.le_refl _
  room := by simp [framePos]
  room_stored := by simp
  payload := by simp
  stored := by omega
  zero := fun _ x _ _ _ => hring _ (Nat.mod_lt x hS)

lemma imp (h : Layout S ring sent rel cleared pend filled clean) {clean' : Prop}
    (hclean : clean' → clean) : Layout S ring sent rel cleared pend filled clean' :=
  { h with zero := fun hcl => h.zero (hclean hcl) }

/-- Before a payload byte is stored, any message may be the one to come. -/
lemma begin (h : Layout S ring sent rel cleared pend 0 clean) (pend' : List UInt8) :
    Layout S ring sent rel cleared pend' 0 clean :=
  { h with stored := fun j hj hj' => absurd hj' (by omega) }

/-- The sender stores payload bytes behind those it has stored, in one block
below the top of the ring. -/
lemma store (h : Layout S ring sent rel cleared pend filled clean) {n : ℕ} {f : ℕ → UInt8}
    (hn : filled + n ≤ pend.length)
    (hf : ∀ i (hi : filled + i < pend.length), f i = pend[filled + i])
    (hroom : framePos sent sent.length + 8 + (filled + n) ≤ framePos sent rel + S)
    (htop : (framePos sent sent.length + 8 + filled) % S + n ≤ S) :
    Layout S (patch ring ((framePos sent sent.length + 8 + filled) % S) n f) sent rel cleared
      pend (filled + n) clean := by
  set W := framePos sent sent.length with hW
  set R := framePos sent rel with hR
  have hRW : R ≤ W := framePos_mono h.rel_le
  have hread : ∀ x, R ≤ x → x < R + S →
      at_ S (patch ring ((W + 8 + filled) % S) n f) x
        = if W + 8 + filled ≤ x ∧ x < W + 8 + filled + n then f (x - (W + 8 + filled))
          else at_ S ring x :=
    fun x hx hx' => patch_window (by omega) (by omega) htop hx hx'
  refine ⟨h.rel_le, h.room, fun _ => by omega, ?_, ?_, ?_⟩
  · intro k m j hk hm hj hc
    obtain ⟨h₁, h₂⟩ := framePos_window hk hm hj
    rw [hread _ h₁ (by omega), if_neg (by omega)]
    exact h.payload k m j hk hm hj hc
  · intro j hj hj'
    rw [hread _ (by omega) (by omega)]
    by_cases hin : W + 8 + filled ≤ W + j
    · rw [if_pos ⟨hin, by omega⟩, hf _ (by omega)]
      obtain ⟨i, rfl⟩ : ∃ i, j = 8 + i := ⟨j - 8, by omega⟩
      rw [frameByte_payload (by omega)]
      congr 1
      omega
    · rw [if_neg (by omega)]
      exact h.stored j hj (by omega)
  · intro hcl x hx hx' hocc
    have hout : ¬ (W + 8 + filled ≤ x ∧ x < W + 8 + filled + n) := fun hin =>
      hocc (Or.inr ⟨x - W, by omega, by omega, by omega⟩)
    rw [hread x hx hx', if_neg hout]
    refine h.zero hcl x hx hx' fun ho => hocc ?_
    rcases ho with ho | ⟨j, hj, hj', rfl⟩
    · exact Or.inl ho
    · exact Or.inr ⟨j, hj, by omega, rfl⟩

/-- The sender stores the header word: the frame is sent. -/
lemma commit (h : Layout S ring sent rel cleared pend pend.length clean)
    (hcl0 : rel = sent.length → cleared = 0)
    (hroom : framePos sent sent.length + frameLen pend.length ≤ framePos sent rel + S)
    (htop : framePos sent sent.length % S + 8 ≤ S) :
    Layout S (storeWord ring (framePos sent sent.length % S) (UInt64.ofNat pend.length))
      (sent ++ [pend]) rel cleared [] 0 clean := by
  set W := framePos sent sent.length with hW
  have hlen := le_frameLen pend.length
  have hRW : framePos sent rel ≤ W := framePos_mono h.rel_le
  have hread : ∀ x, framePos sent rel ≤ x → x < framePos sent rel + S →
      at_ S (storeWord ring (W % S) (UInt64.ofNat pend.length)) x
        = if W ≤ x ∧ x < W + 8 then byteOf (UInt64.ofNat pend.length) (x - W) else at_ S ring x :=
    fun x hx hx' => patch_window (by omega) (by omega) htop hx hx'
  have hrel' : framePos (sent ++ [pend]) rel = framePos sent rel := framePos_append h.rel_le _
  have hW' : framePos (sent ++ [pend]) (sent ++ [pend]).length = W + frameLen pend.length := by
    rw [List.length_append, List.length_singleton,
      framePos_succ (m := pend) (by simp), framePos_append (Nat.le_refl _)]
  refine ⟨by simpa using Nat.le_succ_of_le h.rel_le, by rw [hW', hrel']; exact hroom, by simp,
    ?_, by omega, ?_⟩
  · intro k m j hk hm hj hc
    by_cases hlt : k < sent.length
    · have hm' : sent[k]? = some m := by rwa [List.getElem?_append_left hlt] at hm
      obtain ⟨h₁, h₂⟩ := framePos_window hk hm' hj
      rw [framePos_append hlt.le, hread _ h₁ (by omega), if_neg (by omega)]
      exact h.payload k m j hk hm' hj hc
    · -- the new frame: its header is the word just stored
      obtain ⟨hk', -⟩ := List.getElem?_eq_some_iff.1 hm
      obtain rfl : k = sent.length := by simp at hk'; omega
      obtain rfl : pend = m := by simpa using hm
      rw [framePos_append (Nat.le_refl _), ← hW, hread _ (by omega) (by omega)]
      by_cases hj8 : j < 8
      · rw [if_pos ⟨by omega, by omega⟩, frameByte_header hj8, Nat.add_sub_cancel_left]
      · rw [if_neg (by omega)]
        exact h.stored j (by omega) hj
  · intro hcl x hx hx' hocc
    rw [hrel'] at hx hx'
    have hnew : ∀ j < 8 + pend.length, x ≠ W + j := fun j hj hxj =>
      hocc (Or.inl ⟨sent.length, pend, j, h.rel_le, by simp, hj,
        fun heq => by rw [hcl0 heq.symm]; exact Nat.zero_le _, by
          rw [framePos_append (Nat.le_refl _)]; exact hxj⟩)
    have hout : ¬ (W ≤ x ∧ x < W + 8) := fun hin => hnew (x - W) (by omega) (by omega)
    rw [hread x hx hx', if_neg hout]
    refine h.zero hcl x hx hx' fun ho => ?_
    rcases ho with ⟨k, m, j, hk, hm, hj, hc, rfl⟩ | ⟨j, hj, hj', rfl⟩
    · obtain ⟨hlt, -⟩ := List.getElem?_eq_some_iff.1 hm
      exact hocc (Or.inl ⟨k, m, j, hk, by rw [List.getElem?_append_left hlt]; exact hm, hj, hc,
        by rw [framePos_append hlt.le]⟩)
    · exact hnew j hj' rfl

/-- The receiver clears the next bytes of the first frame, in one block below the
top of the ring. -/
lemma clear (h : Layout S ring sent rel cleared pend filled clean) {n : ℕ}
    (hm : sent[rel]? = some m) (hn : cleared + n ≤ 8 + m.length)
    (htop : (framePos sent rel + cleared) % S + n ≤ S) :
    Layout S (memset ring ((framePos sent rel + cleared) % S) 0 n) sent rel (cleared + n)
      pend filled clean := by
  set R := framePos sent rel with hR
  have hend := framePos_add_le hm
  have hlen := le_frameLen m.length
  have hroom := h.room
  have hread : ∀ x, R ≤ x → x < R + S →
      at_ S (memset ring ((R + cleared) % S) 0 n) x
        = if R + cleared ≤ x ∧ x < R + cleared + n then 0 else at_ S ring x :=
    fun x hx hx' => patch_window (by omega) (by omega) htop hx hx'
  refine ⟨h.rel_le, h.room, h.room_stored, ?_, ?_, ?_⟩
  · intro k m' j hk hm' hj hc
    obtain ⟨h₁, h₂⟩ := framePos_window hk hm' hj
    rw [hread _ h₁ (by omega), if_neg ?_]
    · exact h.payload k m' j hk hm' hj fun heq => by have := hc heq; omega
    · by_cases heq : k = rel
      · subst heq
        have := hc rfl
        omega
      · -- a later frame starts behind the first one
        have hnext : framePos sent (rel + 1) ≤ framePos sent k := framePos_mono (by omega)
        rw [framePos_succ hm] at hnext
        omega
  · intro j hj hj'
    have := h.room_stored (by omega)
    rw [hread _ (by omega) (by omega), if_neg (by omega)]
    exact h.stored j hj hj'
  · intro hcl x hx hx' hocc
    rw [hread x hx hx']
    by_cases hin : R + cleared ≤ x ∧ x < R + cleared + n
    · rw [if_pos hin]
    · rw [if_neg hin]
      refine h.zero hcl x hx hx' fun ho => hocc ?_
      rcases ho with ⟨k, m', j, hk, hm', hj, hc, rfl⟩ | ho
      · refine Or.inl ⟨k, m', j, hk, hm', hj, fun heq => ?_, rfl⟩
        have := hc heq
        subst heq
        omega
      · exact Or.inr ho

/-- The receiver moves its cursor past the first frame.  The bytes it has not
cleared stay behind, so the ring stays clean only if they are zero. -/
lemma release (h : Layout S ring sent rel cleared pend filled clean) {clean' : Prop} {n : ℕ}
    (hm : sent[rel]? = some m) (hcleared : cleared = 8 + n)
    (hclean : clean' → clean ∧ ∀ b ∈ m.drop n, b = 0) :
    Layout S ring sent (rel + 1) 0 pend filled clean' := by
  obtain ⟨hlt, -⟩ := List.getElem?_eq_some_iff.1 hm
  have hsucc := framePos_succ hm
  have hend := framePos_add_le hm
  have hlen := le_frameLen m.length
  have hroom := h.room
  refine ⟨hlt, by omega, fun hf => by have := h.room_stored hf; omega, ?_, h.stored, ?_⟩
  · intro k m' j hk hm' hj hc
    exact h.payload k m' j (by omega) hm' hj (by omega)
  · intro hcl' x hx hx' hocc
    obtain ⟨hcl, hzero⟩ := hclean hcl'
    -- a position of the old window is vacant in both layouts
    have hold : x < framePos sent rel + S → at_ S ring x = 0 := fun hxS => by
      refine h.zero hcl x (by omega) hxS fun ho => hocc ?_
      rcases ho with ⟨k, m', j, hk, hm', hj, hc, rfl⟩ | ho
      · rcases Nat.eq_or_lt_of_le hk with rfl | hk
        · obtain rfl : m = m' := by simpa [hm] using hm'
          omega
        · exact Or.inl ⟨k, m', j, hk, hm', hj, fun _ => Nat.zero_le _, rfl⟩
      · exact Or.inr ho
    by_cases hxS : x < framePos sent rel + S
    · exact hold hxS
    · -- a new position is one of the released frame, one ring further
      obtain ⟨j, rfl⟩ : ∃ j, x = framePos sent rel + j + S := ⟨x - S - framePos sent rel, by omega⟩
      have hwrap : at_ S ring (framePos sent rel + j + S) = at_ S ring (framePos sent rel + j) :=
        congrArg ring (Nat.add_mod_right _ _)
      rw [hwrap]
      by_cases hj : cleared ≤ j ∧ j < 8 + m.length
      · obtain ⟨i, rfl⟩ : ∃ i, j = 8 + i := ⟨j - 8, by omega⟩
        rw [h.payload rel m _ (Nat.le_refl _) hm hj.2 fun _ => hj.1, frameByte_payload (by omega)]
        refine hzero _ (List.mem_iff_getElem.2 ⟨i - n, by simp; omega, ?_⟩)
        rw [List.getElem_drop]
        congr 1
        omega
      · refine h.zero hcl _ (by omega) (by omega) fun ho => ?_
        rcases ho with ⟨k, m', j', hk, hm', hj', hc, heq⟩ | ⟨j', hj', hj'', heq⟩
        · rcases Nat.eq_or_lt_of_le hk with rfl | hk
          · obtain rfl : m = m' := by simpa [hm] using hm'
            have := hc rfl
            omega
          · have hnext : framePos sent (rel + 1) ≤ framePos sent k := framePos_mono (by omega)
            omega
        · omega

/-! ### What the receiver reads -/

/-- The header word of the first frame is the length of its message. -/
lemma header (h : Layout S ring sent rel 0 pend filled clean) (hm : sent[rel]? = some m)
    (htop : framePos sent rel % S + 8 ≤ S) :
    loadWord ring (framePos sent rel % S) = UInt64.ofNat m.length := by
  refine loadWord_of_bytes fun i hi => ?_
  have hmod : (framePos sent rel + i) % S = framePos sent rel % S + i :=
    mod_add_of_lt (by omega)
  have hbyte := h.payload rel m i (Nat.le_refl _) hm (by omega) fun _ => Nat.zero_le _
  rwa [frameByte_header hi, at_, hmod] at hbyte

/-- A ring without unreleased frames has a zero word at the receiver's position,
whatever the sender has stored of the next payload. -/
lemma header_empty (h : Layout S ring sent rel 0 pend filled clean) (hcl : clean)
    (hrel : rel = sent.length) (htop : framePos sent rel % S + 8 ≤ S) (hS : 8 ≤ S) :
    loadWord ring (framePos sent rel % S) = 0 := by
  refine loadWord_eq_zero fun i hi => ?_
  have hmod : (framePos sent rel + i) % S = framePos sent rel % S + i :=
    mod_add_of_lt (by omega)
  have hzero := h.zero hcl (framePos sent rel + i) (by omega) (by omega) fun ho => by
    rcases ho with ⟨k, m, j, hk, hm, -, -, -⟩ | ⟨j, hj, -, heq⟩
    · obtain ⟨hlt, -⟩ := List.getElem?_eq_some_iff.1 hm
      omega
    · rw [← hrel] at heq
      omega
  rwa [at_, hmod] at hzero

/-- The payload bytes of the first frame that have not been cleared. -/
lemma payload_first (h : Layout S ring sent rel cleared pend filled clean)
    (hm : sent[rel]? = some m) {i : ℕ} (hi : i < m.length) (hc : cleared ≤ 8 + i) :
    at_ S ring (framePos sent rel + 8 + i) = m[i] := by
  have hbyte := h.payload rel m (8 + i) (Nat.le_refl _) hm (by omega) fun _ => hc
  rwa [frameByte_payload hi, ← Nat.add_assoc] at hbyte

end Layout

end DpaProvider
