import Mathlib.Tactic

/-!
Resources in a record of calls.

A call may give a resource back.  Which resources the calls of a record have acquired is a
parameter (`has`), and a longer record has acquired no less.

* `Owned`: acquired, and not given back;
* `Once`: whatever was given back was owned at that moment;
* `once_concat`, `Once.append_quiet`, `Once.append_back`: how a record goes on;
* `not_once_of_twice`: a resource given back again.
-/

namespace Ledger

variable {C R : Type*} (gives : C → Option R) (has : List C → R → Prop)

/-- The resource was acquired, and has not been given back. -/
structure Owned (l : List C) (r : R) : Prop where
  has : has l r
  kept : ∀ c ∈ l, gives c ≠ some r

/-- Every call that gave a resource back owned it. -/
def Once (l : List C) : Prop :=
  ∀ i c r, l[i]? = some c → gives c = some r → Owned gives has (l.take i) r

variable {gives has} {l l' : List C} {c : C} {r : R}

lemma once_nil : Once gives has [] := by
  intro i c r hget
  simp at hget

/-- One more call. -/
lemma once_concat : Once gives has (l ++ [c]) ↔
    Once gives has l ∧ ∀ r, gives c = some r → Owned gives has l r := by
  constructor
  · intro h
    constructor
    · intro i a r hget hgives
      obtain ⟨hlt, -⟩ := List.getElem?_eq_some_iff.1 hget
      have howned := h i a r (by rw [List.getElem?_append_left hlt, hget]) hgives
      rwa [List.take_append_of_le_length hlt.le] at howned
    · intro r hgives
      have howned := h l.length c r (by simp) hgives
      rwa [List.take_left'] at howned
      rfl
  · rintro ⟨hl, hc⟩ i a r hget hgives
    rcases lt_or_ge i l.length with hlt | hge
    · rw [List.getElem?_append_left hlt] at hget
      rw [List.take_append_of_le_length hlt.le]
      exact hl i a r hget hgives
    · rw [List.getElem?_append_right hge] at hget
      obtain rfl := List.mem_singleton.1 (List.mem_of_getElem? hget)
      obtain ⟨hlt, -⟩ := List.getElem?_eq_some_iff.1 hget
      have hi : i = l.length := by
        rw [List.length_singleton] at hlt
        omega
      rw [hi, List.take_left' rfl]
      exact hc r hgives

/-- Calls that give nothing back. -/
lemma Once.append_quiet (h : Once gives has l) (hquiet : ∀ c ∈ l', gives c = none) :
    Once gives has (l ++ l') := by
  induction l' using List.reverseRecOn with
  | nil => rwa [List.append_nil]
  | append_singleton l' c ih =>
      rw [← List.append_assoc, once_concat]
      refine ⟨ih fun a ha => hquiet a (List.mem_append_left _ ha), fun r hr => ?_⟩
      rw [hquiet c (by simp)] at hr
      exact absurd hr (by simp)

/-- What is owned stays so while it is not given back. -/
lemma Owned.append (hmono : ∀ l l' r, has l r → has (l ++ l') r) (h : Owned gives has l r)
    (hl' : ∀ c ∈ l', gives c ≠ some r) : Owned gives has (l ++ l') r where
  has := hmono l l' r h.has
  kept := by
    intro c hc
    rcases List.mem_append.1 hc with hc | hc
    · exact h.kept c hc
    · exact hl' c hc

/-- Different resources that are owned are given back one after the other. -/
lemma Once.append_back (hmono : ∀ l l' r, has l r → has (l ++ l') r) {back : R → C}
    (hback : ∀ r, gives (back r) = some r) (h : Once gives has l) {rs : List R} (hnodup : rs.Nodup)
    (howned : ∀ r ∈ rs, Owned gives has l r) : Once gives has (l ++ rs.map back) := by
  induction rs using List.reverseRecOn with
  | nil => rwa [List.map_nil, List.append_nil]
  | append_singleton rs r ih =>
      obtain ⟨hrs, -, hdisjoint⟩ := List.nodup_append.1 hnodup
      rw [List.map_append, List.map_singleton, ← List.append_assoc, once_concat]
      refine ⟨ih hrs fun a ha => howned a (List.mem_append_left _ ha), fun r' hr' => ?_⟩
      rw [hback] at hr'
      obtain rfl := Option.some.inj hr'
      refine (howned r (by simp)).append hmono fun c hc => ?_
      obtain ⟨a, ha, rfl⟩ := List.mem_map.1 hc
      rw [hback]
      exact fun heq => hdisjoint a ha r (by simp) (Option.some.inj heq)

/-- A resource that was given back is given back again. -/
lemma not_once_of_twice {c' : C} (hc : c ∈ l) (hgives : gives c = some r) (hc' : c' ∈ l')
    (hgives' : gives c' = some r) : ¬ Once gives has (l ++ l') := by
  intro h
  obtain ⟨j, hj⟩ := List.getElem?_of_mem hc'
  have hget : (l ++ l')[l.length + j]? = some c' := by
    rw [List.getElem?_append_right (by omega), Nat.add_sub_cancel_left, hj]
  refine (h _ c' r hget hgives').kept c ?_ hgives
  rw [List.take_append, List.take_of_length_le (by omega)]
  exact List.mem_append_left _ hc

end Ledger
