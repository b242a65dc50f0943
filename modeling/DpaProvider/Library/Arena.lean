import Mathlib.Data.List.Basic
import Mathlib.Tactic

/-!
Objects that refer to one another by number.

An arena has the objects in the order in which they were opened.  A closed object keeps its number,
and to use it is a fault.  An object *holds* others, which have to stay open for as long as it is
open, and *notes* others, which may be closed before it.

* `Shape`: what the objects refer to, and of which class these have to be;
* `Fits`, `Sound`: what is held is open, and all references are of the right class;
* `Gives`, `Fine`: a computation that uses nothing closed and nothing of another class;
* `Sound.add`, `Sound.set`, `Sound.close`: an object may be closed when no open one holds it.
-/

/-- Why the use of an object fails. -/
inductive UseError where
  | freed
  | misused
  | nullPointer
  deriving DecidableEq, Repr

/-- The objects in the order in which they were opened, and the numbers of those that are closed. -/
structure Arena (O : Type) where
  objects : List O
  closed : List ℕ

namespace Arena

variable {O C α β : Type}

/-- The object with a number, which is open. -/
def Open (a : Arena O) (n : ℕ) (o : O) : Prop := a.objects[n]? = some o ∧ n ∉ a.closed

/-- An object is used as one of the class that `f` tells. -/
def use (a : Arena O) (f : O → Option α) (n : ℕ) : Except UseError α :=
  if n ∈ a.closed then .error .freed
  else
    match a.objects[n]?.bind f with
    | none => .error .misused
    | some x => .ok x

/-- A new object. -/
def add (a : Arena O) (o : O) : Arena O := { a with objects := a.objects ++ [o] }

def set (a : Arena O) (n : ℕ) (o : O) : Arena O := { a with objects := a.objects.set n o }

def close (a : Arena O) (n : ℕ) : Arena O := { a with closed := n :: a.closed }

/-- A reference, and what is expected of the class of the object. -/
structure Ref (C : Type) where
  target : ℕ
  expects : C → Prop

/-- The classes of the objects, and their references; `agree` are pairs of objects referred to
whose classes have to be alike. -/
structure Shape (O C : Type) where
  cls : O → C
  held : O → List (Ref C)
  noted : O → List (Ref C)
  agree : O → List (ℕ × ℕ)
  alike : C → C → Prop

variable (S : Shape O C)

/-- The references of an object are as they have to be. -/
structure Fits (a : Arena O) (o : O) : Prop where
  held : ∀ r ∈ S.held o, ∃ x, a.Open r.target x ∧ r.expects (S.cls x)
  noted : ∀ r ∈ S.noted o, ∃ x, a.objects[r.target]? = some x ∧ r.expects (S.cls x)
  agree : ∀ p ∈ S.agree o, ∃ x y, a.objects[p.1]? = some x ∧ a.objects[p.2]? = some y
    ∧ S.alike (S.cls x) (S.cls y)

structure Sound (a : Arena O) : Prop where
  closed : ∀ n ∈ a.closed, n < a.objects.length
  fits : ∀ n o, a.Open n o → Fits S a o

/-- A computation gives something with `P`, or it has followed a null pointer. -/
def Gives (P : α → Prop) : Except UseError α → Prop
  | .ok x => P x
  | .error fault => fault = .nullPointer

/-- How a call ends: the arena is sound, or the call has followed a null pointer. -/
def Fine (x : Except UseError (β × Arena O)) : Prop := Gives (fun r => Sound S r.2) x

/-- No open object but this one holds it. -/
def Released (a : Arena O) (n : ℕ) : Prop :=
  ∀ m o, a.Open m o → m ≠ n → ∀ r ∈ S.held o, r.target ≠ n

variable {S} {a b : Arena O} {n m : ℕ} {o x y : O} {f : O → Option α} {z : α}

lemma Open.unique (h : a.Open n x) (h' : a.Open n y) : x = y :=
  Option.some.inj (h.1.symm.trans h'.1)

lemma use_ok (h : a.Open n o) (hf : f o = some z) : a.use f n = .ok z := by
  rw [use, if_neg h.2, h.1, Option.bind_some, hf]

lemma use_freed (h : n ∈ a.closed) : a.use f n = .error .freed := if_pos h

/-- The first use of a call decides what follows. -/
lemma use_bind (h : a.Open n o) (hf : f o = some z) (g : α → Except UseError β) :
    (a.use f n >>= g) = g z := by
  rw [use_ok h hf]
  rfl

lemma use_freed_bind (h : n ∈ a.closed) (g : α → Except UseError β) :
    (a.use f n >>= g) = .error .freed := by
  rw [use_freed h]
  rfl

/-- One computation after another. -/
lemma Gives.bind {P : α → Prop} {Q : β → Prop} {x : Except UseError α}
    {g : α → Except UseError β} (hx : Gives P x) (hg : ∀ y, P y → Gives Q (g y)) :
    Gives Q (x >>= g) := by
  cases x with
  | ok y => exact hg y hx
  | error fault => exact hx

/-! ### Objects after a change -/

lemma add_getElem? (h : a.objects[n]? = some x) : (a.add o).objects[n]? = some x := by
  obtain ⟨hlt, -⟩ := List.getElem?_eq_some_iff.1 h
  rw [add, List.getElem?_append_left hlt, h]

lemma Open.add (h : a.Open n x) : (a.add o).Open n x := ⟨add_getElem? h.1, h.2⟩

/-- The objects after the addition of one. -/
lemma Open.of_add (h : (a.add o).Open n x) : a.Open n x ∨ x = o := by
  have hget : (a.objects ++ [o])[n]? = some x := h.1
  rw [List.getElem?_append] at hget
  split at hget
  case isTrue => exact .inl ⟨hget, h.2⟩
  case isFalse => exact .inr (List.mem_singleton.1 (List.mem_of_getElem? hget))

lemma set_getElem?_self (h : a.Open n x) : (a.set n o).objects[n]? = some o := by
  obtain ⟨hlt, -⟩ := List.getElem?_eq_some_iff.1 h.1
  exact List.getElem?_set_self hlt

lemma set_getElem?_of_ne (hne : m ≠ n) : (a.set n o).objects[m]? = a.objects[m]? :=
  List.getElem?_set_ne hne.symm

lemma Open.set_of_ne (h : a.Open m y) (hne : m ≠ n) : (a.set n o).Open m y :=
  ⟨(set_getElem?_of_ne hne).trans h.1, h.2⟩

/-- An object changes, and the others stay. -/
lemma Open.of_set (hn : a.Open n x) (h : (a.set n o).Open m y) :
    (m = n ∧ y = o) ∨ (m ≠ n ∧ a.Open m y) := by
  by_cases hm : m = n
  · subst hm
    exact .inl ⟨rfl, Option.some.inj (h.1.symm.trans (set_getElem?_self hn))⟩
  · exact .inr ⟨hm, (set_getElem?_of_ne hm).symm.trans h.1, h.2⟩

/-- Some object of the same class is there still. -/
lemma set_getElem? (hn : a.Open n x) (hcls : S.cls o = S.cls x) (h : a.objects[m]? = some y) :
    ∃ y', (a.set n o).objects[m]? = some y' ∧ S.cls y' = S.cls y := by
  by_cases hm : m = n
  · subst hm
    refine ⟨o, set_getElem?_self hn, ?_⟩
    rw [hcls, Option.some.inj (hn.1.symm.trans h)]
  · exact ⟨y, (set_getElem?_of_ne hm).trans h, rfl⟩

lemma Open.set (hn : a.Open n x) (hcls : S.cls o = S.cls x) (h : a.Open m y) :
    ∃ y', (a.set n o).Open m y' ∧ S.cls y' = S.cls y := by
  obtain ⟨y', hget, hy⟩ := set_getElem? hn hcls h.1
  exact ⟨y', ⟨hget, h.2⟩, hy⟩

/-! ### What is kept -/

lemma Fits.add (h : Fits S a x) : Fits S (a.add o) x where
  held r hr := by
    obtain ⟨y, hy, hcls⟩ := h.held r hr
    exact ⟨y, hy.add, hcls⟩
  noted r hr := by
    obtain ⟨y, hy, hcls⟩ := h.noted r hr
    exact ⟨y, add_getElem? hy, hcls⟩
  agree p hp := by
    obtain ⟨y, z, hy, hz, halike⟩ := h.agree p hp
    exact ⟨y, z, add_getElem? hy, add_getElem? hz, halike⟩

lemma Fits.set (h : Fits S a y) (hn : a.Open n x) (hcls : S.cls o = S.cls x) :
    Fits S (a.set n o) y where
  held r hr := by
    obtain ⟨z, hz, hexpects⟩ := h.held r hr
    obtain ⟨z', hz', hsame⟩ := Open.set hn hcls hz
    exact ⟨z', hz', hsame ▸ hexpects⟩
  noted r hr := by
    obtain ⟨z, hz, hexpects⟩ := h.noted r hr
    obtain ⟨z', hz', hsame⟩ := set_getElem? hn hcls hz
    exact ⟨z', hz', hsame ▸ hexpects⟩
  agree p hp := by
    obtain ⟨z, w, hz, hw, halike⟩ := h.agree p hp
    obtain ⟨z', hz', hzsame⟩ := set_getElem? hn hcls hz
    obtain ⟨w', hw', hwsame⟩ := set_getElem? hn hcls hw
    exact ⟨z', w', hz', hw', hzsame.symm ▸ hwsame.symm ▸ halike⟩

lemma Sound.add (h : Sound S a) (hfits : Fits S a o) : Sound S (a.add o) where
  closed n hn := by
    rw [Arena.add, List.length_append]
    exact Nat.lt_add_right _ (h.closed n hn)
  fits n x hx := by
    rcases hx.of_add with hold | rfl
    · exact (h.fits n x hold).add
    · exact hfits.add

lemma Sound.set (h : Sound S a) (hn : a.Open n x) (hcls : S.cls o = S.cls x)
    (hfits : Fits S a o) : Sound S (a.set n o) where
  closed m hm := by
    rw [Arena.set, List.length_set]
    exact h.closed m hm
  fits m y hy := by
    rcases Open.of_set hn hy with ⟨-, rfl⟩ | ⟨-, hold⟩
    · exact hfits.set hn hcls
    · exact (h.fits m y hold).set hn hcls

/-- Two objects change. -/
lemma Sound.set_set (h : Sound S a) {x' y' : O} (hn : a.Open n x) (hm : a.Open m y) (hne : n ≠ m)
    (hx : S.cls x' = S.cls x) (hy : S.cls y' = S.cls y) (hfx : Fits S a x') (hfy : Fits S a y') :
    Sound S ((a.set m y').set n x') :=
  (h.set hm hy hfy).set (hn.set_of_ne hne) hx (hfx.set hm hy)

lemma Sound.close (h : Sound S a) (hn : a.Open n x) (hreleased : a.Released S n) :
    Sound S (a.close n) where
  closed m hm := by
    rcases List.mem_cons.1 hm with rfl | hm
    · exact (List.getElem?_eq_some_iff.1 hn.1).1
    · exact h.closed m hm
  fits m y hy := by
    have hne : m ≠ n := fun heq => hy.2 (heq ▸ List.mem_cons_self)
    have hopen : a.Open m y := ⟨hy.1, fun hm => hy.2 (List.mem_cons_of_mem _ hm)⟩
    refine ⟨fun r hr => ?_, (h.fits m y hopen).noted, (h.fits m y hopen).agree⟩
    obtain ⟨z, hz, hexpects⟩ := (h.fits m y hopen).held r hr
    refine ⟨z, ⟨hz.1, fun hclosed => ?_⟩, hexpects⟩
    rcases List.mem_cons.1 hclosed with heq | hclosed
    · exact hreleased m y hopen hne r hr heq
    · exact hz.2 hclosed

lemma sound_empty : Sound S (⟨[], []⟩ : Arena O) where
  closed := by simp
  fits n o h := absurd h.1 (by simp)

end Arena
