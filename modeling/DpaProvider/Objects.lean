import DpaProvider.Dpa

/-!
What a process has open at the library.

Descriptors, segments, maps and interrupts are opened by a call, and taken back by another one.

* `Held`: opened, and not taken back since;
* `Unwound`: a piece of the record after which everything is as it was, and in which nothing else
  was taken back;
* `unwound_iff`: what that means for the calls of the piece.
-/

namespace DpaProvider

/-- Something that a process can have open, with the handle of the call that opened it. -/
inductive Object where
  | descriptor (h : Handle)
  | segment (h : Handle)
  | map (h : Handle)
  | interrupt (h : Handle)
  deriving DecidableEq, Repr

def Object.handle : Object → ℕ
  | .descriptor h | .segment h | .map h | .interrupt h => h

namespace DpaCall

/-- What a call with the number `h` opens. -/
def opens (h : ℕ) : DpaCall → Option Object
  | .dpaOpen => some (.descriptor h)
  | .createSegment .. => some (.segment h)
  | .mapLocalSegment .. => some (.map h)
  | .createInterrupt _ => some (.interrupt h)
  | _ => none

/-- The call takes something back. -/
def isRelease : DpaCall → Bool
  | .close _ | .removeSegment _ | .unmapSegment _ | .removeInterrupt _ => true
  | _ => false

/-- What it takes back; a handle that was never set is that of nothing. -/
def takes : DpaCall → Option Object
  | .close (some h) => some (.descriptor h)
  | .removeSegment (some h) => some (.segment h)
  | .unmapSegment (some h) => some (.map h)
  | .removeInterrupt (some h) => some (.interrupt h)
  | _ => none

variable {c : DpaCall} {h : ℕ} {o : Object}

lemma handle_of_opens (hopens : c.opens h = some o) : o.handle = h := by
  cases c <;> cases hopens <;> rfl

lemma isRelease_of_takes (htakes : c.takes = some o) : c.isRelease = true := by
  cases c
  case close | removeSegment | unmapSegment | removeInterrupt => rfl
  all_goals cases htakes

end DpaCall

namespace Dpa

/-- The library after more calls. -/
def makes (d : Dpa) (more : List DpaCall) : Dpa := { d with calls := d.calls ++ more }

/-- The status in the answer to the `k`-th call from here. -/
def answer (d : Dpa) (k : ℕ) : DpaError := (d.replies (d.calls.length + k)).err

/-- A call has opened the object. -/
def Opened (d : Dpa) (o : Object) : Prop :=
  d.calls[o.handle]?.bind (DpaCall.opens o.handle) = some o ∧ (d.replies o.handle).err = .ok

/-- The object is open. -/
structure Held (d : Dpa) (o : Object) : Prop where
  opened : d.Opened o
  kept : ∀ i c, o.handle < i → d.calls[i]? = some c → c.takes ≠ some o

/-- Between two states of the library everything that was opened was taken back, and nothing else
was. -/
structure Unwound (d d' : Dpa) : Prop where
  same : ∀ o, d'.Held o ↔ d.Held o
  own : ∀ i c, d.calls.length ≤ i → d'.calls[i]? = some c → c.isRelease = true →
    ∃ o, c.takes = some o ∧ d.calls.length ≤ o.handle
      ∧ ({ d' with calls := d'.calls.take i } : Dpa).Held o

lemma Unwound.refl (d : Dpa) : Unwound d d where
  same _ := Iff.rfl
  own i c hi hc := by
    rw [List.getElem?_eq_none hi] at hc
    cases hc

/-- The `k`-th of the calls opens the object. -/
def OpensAt (d : Dpa) (more : List DpaCall) (k : ℕ) (o : Object) : Prop :=
  more[k]?.bind (DpaCall.opens (d.calls.length + k)) = some o ∧ d.answer k = .ok

variable {d : Dpa} {more : List DpaCall} {o : Object} {k : ℕ}

lemma call_eq_makes (d : Dpa) (c : DpaCall) : d.call c = d.makes [c] := rfl

lemma reply_err (d : Dpa) : d.reply.err = d.answer 0 := rfl

@[simp] lemma makes_makes (d : Dpa) (more more' : List DpaCall) :
    (d.makes more).makes more' = d.makes (more ++ more') := by
  simp [makes]

@[simp] lemma replies_makes : (d.makes more).replies = d.replies := rfl

@[simp] lemma answer_makes : (d.makes more).answer k = d.answer (more.length + k) := by
  simp [makes, answer, Nat.add_assoc]

@[simp] lemma handle_makes : (d.makes more).handle = d.calls.length + more.length := by
  simp [handle, makes]

@[simp] lemma length_makes : (d.makes more).calls.length = d.calls.length + more.length := by
  simp [makes]

lemma getElem?_makes_add (j : ℕ) : (d.makes more).calls[d.calls.length + j]? = more[j]? := by
  rw [makes, List.getElem?_append_right (Nat.le_add_right _ _), Nat.add_sub_cancel_left]

lemma getElem?_makes_lt {i : ℕ} (hi : i < d.calls.length) :
    (d.makes more).calls[i]? = d.calls[i]? :=
  List.getElem?_append_left hi

lemma OpensAt.handle (h : d.OpensAt more k o) : o.handle = d.calls.length + k := by
  obtain ⟨c, -, hopens⟩ := Option.bind_eq_some_iff.1 h.1
  exact DpaCall.handle_of_opens hopens

lemma OpensAt.opened (h : d.OpensAt more k o) : (d.makes more).Opened o := by
  rw [Opened, h.handle, getElem?_makes_add]
  exact h

/-- A later object was not there before. -/
lemma not_held_of_le (hle : d.calls.length ≤ o.handle) : ¬ d.Held o := by
  rintro ⟨⟨hopens, -⟩, -⟩
  rw [List.getElem?_eq_none hle] at hopens
  cases hopens

lemma opened_makes_iff (hlt : o.handle < d.calls.length) :
    (d.makes more).Opened o ↔ d.Opened o := by
  rw [Opened, Opened, getElem?_makes_lt hlt, replies_makes]

/-- An older object is still there if none of the calls takes it back. -/
lemma held_makes_iff (hlt : o.handle < d.calls.length) :
    (d.makes more).Held o ↔ d.Held o ∧ ∀ c ∈ more, c.takes ≠ some o := by
  constructor
  · rintro ⟨hopened, hkept⟩
    refine ⟨⟨(opened_makes_iff hlt).1 hopened, fun i c hi hc => ?_⟩, fun c hc => ?_⟩
    · obtain ⟨hlength, -⟩ := List.getElem?_eq_some_iff.1 hc
      exact hkept i c hi (by rw [getElem?_makes_lt hlength, hc])
    · obtain ⟨j, hj⟩ := List.getElem?_of_mem hc
      exact hkept (d.calls.length + j) c (by omega) (by rw [getElem?_makes_add, hj])
  · rintro ⟨⟨hopened, hkept⟩, hmore⟩
    refine ⟨(opened_makes_iff hlt).2 hopened, fun i c hi hc => ?_⟩
    rcases lt_or_ge i d.calls.length with hlength | hlength
    · exact hkept i c hi (by rw [← getElem?_makes_lt hlength, hc])
    · obtain ⟨j, rfl⟩ := Nat.exists_eq_add_of_le hlength
      rw [getElem?_makes_add] at hc
      exact hmore c (List.mem_of_getElem? hc)

/-- A new object is there if none of the calls after the one that opened it takes it back. -/
lemma held_makes_new_iff (hk : o.handle = d.calls.length + k) : (d.makes more).Held o ↔
    d.OpensAt more k o ∧ ∀ j c, k < j → more[j]? = some c → c.takes ≠ some o := by
  have hopened : (d.makes more).Opened o ↔ d.OpensAt more k o := by
    rw [Opened, hk, getElem?_makes_add]
    exact Iff.rfl
  constructor
  · rintro ⟨hnew, hkept⟩
    refine ⟨hopened.1 hnew, fun j c hj hc => hkept (d.calls.length + j) c (by omega) ?_⟩
    rw [getElem?_makes_add, hc]
  · rintro ⟨hnew, hkept⟩
    refine ⟨hopened.2 hnew, fun i c hi hc => ?_⟩
    obtain ⟨j, rfl⟩ := Nat.exists_eq_add_of_le (show d.calls.length ≤ i by omega)
    rw [getElem?_makes_add] at hc
    exact hkept j c (by omega) hc

lemma take_makes (j : ℕ) : ({ d.makes more with
    calls := (d.makes more).calls.take (d.calls.length + j) } : Dpa) = d.makes (more.take j) := by
  simp [makes, List.take_append]

/-- Everything the calls open they take back later, and they take back nothing else. -/
theorem unwound_iff : Unwound d (d.makes more) ↔
    (∀ k o, d.OpensAt more k o → ∃ j c, k < j ∧ more[j]? = some c ∧ c.takes = some o)
      ∧ ∀ j c, more[j]? = some c → c.isRelease = true → ∃ k o, c.takes = some o
        ∧ d.OpensAt (more.take j) k o
        ∧ ∀ i c', k < i → (more.take j)[i]? = some c' → c'.takes ≠ some o := by
  constructor
  · rintro ⟨hsame, hown⟩
    constructor
    · intro k o hopens
      by_contra hno
      push Not at hno
      refine not_held_of_le (d := d) (o := o) (by rw [hopens.handle]; omega) ((hsame o).1 ?_)
      exact (held_makes_new_iff hopens.handle).2 ⟨hopens, hno⟩
    · intro j c hc hrelease
      obtain ⟨o, htakes, hle, hheld⟩ :=
        hown (d.calls.length + j) c (by omega) (by rw [getElem?_makes_add, hc]) hrelease
      obtain ⟨k, hk⟩ := Nat.exists_eq_add_of_le hle
      rw [take_makes, held_makes_new_iff hk] at hheld
      exact ⟨k, o, htakes, hheld⟩
  · rintro ⟨hback, hown⟩
    constructor
    · intro o
      rcases lt_or_ge o.handle d.calls.length with hlt | hge
      · rw [held_makes_iff hlt, and_iff_left]
        intro c hc htakes
        obtain ⟨j, hj⟩ := List.getElem?_of_mem hc
        obtain ⟨k, o', htakes', hopens, -⟩ := hown j c hj (DpaCall.isRelease_of_takes htakes)
        obtain rfl := Option.some.inj (htakes.symm.trans htakes')
        rw [hopens.handle] at hlt
        omega
      · obtain ⟨k, hk⟩ := Nat.exists_eq_add_of_le hge
        refine iff_of_false ?_ (not_held_of_le hge)
        rw [held_makes_new_iff hk]
        rintro ⟨hopens, hkept⟩
        obtain ⟨j, c, hj, hc, htakes⟩ := hback k o hopens
        exact hkept j c hj hc htakes
    · intro i c hi hc hrelease
      obtain ⟨j, rfl⟩ := Nat.exists_eq_add_of_le hi
      rw [getElem?_makes_add] at hc
      obtain ⟨k, o, htakes, hopens, hkept⟩ := hown j c hc hrelease
      refine ⟨o, htakes, by rw [hopens.handle]; omega, ?_⟩
      rw [take_makes, held_makes_new_iff hopens.handle]
      exact ⟨hopens, hkept⟩

end Dpa

end DpaProvider
