import DpaProvider.Library.Slist

/-!
Loops along a singly linked list.

A loop follows the links from the head of a list to the end.  It is given fuel, and `none` says
that this was not enough; as much of it as there are nodes suffices.

* `Slist.walk`, `Slist.firstMatch`: the nodes on the way, and the first that matches;
* `Slist.destroy`: every node is freed when the loop has gone on to the next one;
* `Slist.removeFirstMatch`: that node is taken out, wherever it is in the list;
* `Pool.Within.removeFirstMatch`: of the lists over the same links only this one changes.
-/

namespace Slist

variable {links : Links} {l : Slist} {xs : List ℕ} {p : ℕ → Bool} {fuel x : ℕ}

/-! ### Looking -/

/-- The nodes on the way along the links. -/
def walk (links : Links) : ℕ → Option ℕ → Option (List ℕ)
  | _, none => some []
  | 0, some _ => none
  | fuel + 1, some item => (walk links fuel (links item)).map (item :: ·)

/-- The first node on the way that matches, if there is one. -/
def firstMatch (links : Links) (p : ℕ → Bool) : ℕ → Option ℕ → Option (Option ℕ)
  | _, none => some none
  | 0, some _ => none
  | fuel + 1, some item =>
      if p item then some (some item) else firstMatch links p fuel (links item)

lemma Chained.walk (h : Chained links xs) (hfuel : xs.length ≤ fuel) :
    walk links fuel xs.head? = some xs := by
  induction xs generalizing fuel with
  | nil => cases fuel <;> rfl
  | cons x rest ih =>
      obtain ⟨fuel, rfl⟩ := Nat.exists_eq_add_of_le' (Nat.one_le_of_lt hfuel)
      rw [List.head?_cons, Slist.walk, h.1, ih h.2 (Nat.le_of_succ_le_succ hfuel), Option.map_some]

lemma Chained.firstMatch (h : Chained links xs) (hfuel : xs.length ≤ fuel) :
    firstMatch links p fuel xs.head? = some (xs.find? p) := by
  induction xs generalizing fuel with
  | nil => cases fuel <;> rfl
  | cons x rest ih =>
      obtain ⟨fuel, rfl⟩ := Nat.exists_eq_add_of_le' (Nat.one_le_of_lt hfuel)
      rw [List.head?_cons, Slist.firstMatch]
      cases hx : p x with
      | true => rw [if_pos rfl, List.find?_cons_of_pos hx]
      | false =>
          rw [if_neg (by simp), h.1, ih h.2 (Nat.le_of_succ_le_succ hfuel),
            List.find?_cons_of_neg (by simp [hx])]

/-! ### Freeing -/

/-- The nodes in the order in which they are freed: `prev` is freed once the node behind it has been
reached. -/
def destroy (links : Links) : ℕ → Option ℕ → Option ℕ → Option (List ℕ)
  | _, prev, none => some prev.toList
  | 0, _, some _ => none
  | fuel + 1, prev, some item =>
      (destroy links fuel (some item) (links item)).map (prev.toList ++ ·)

lemma Chained.destroy (h : Chained links xs) (hfuel : xs.length ≤ fuel) (prev : Option ℕ) :
    destroy links fuel prev xs.head? = some (prev.toList ++ xs) := by
  induction xs generalizing fuel prev with
  | nil => cases fuel <;> rw [List.head?_nil, Slist.destroy, List.append_nil]
  | cons x rest ih =>
      obtain ⟨fuel, rfl⟩ := Nat.exists_eq_add_of_le' (Nat.one_le_of_lt hfuel)
      rw [List.head?_cons, Slist.destroy, h.1, ih h.2 (Nat.le_of_succ_le_succ hfuel),
        Option.map_some]
      rfl

/-! ### Taking a node out -/

/-- The node `item` is taken out; `prev` is the one before it. -/
def unlink (links : Links) (l : Slist) (prev : Option ℕ) (item : ℕ) : Links × Slist :=
  let tail := if (links item).isNone then prev else l.tail
  match prev with
  | some x => (Function.update links x (links item), { l with tail })
  | none => (links, { head := links item, tail })

/-- The first node from `item` on that matches is taken out, if there is one. -/
def removeFirstMatch (links : Links) (p : ℕ → Bool) (l : Slist) :
    ℕ → Option ℕ → Option ℕ → Option (Option ℕ × Links × Slist)
  | _, _, none => some (none, links, l)
  | 0, _, some _ => none
  | fuel + 1, prev, some item =>
      if p item then some (some item, unlink links l prev item)
      else removeFirstMatch links p l fuel (some item) (links item)

lemma Chained.suffix (pre : List ℕ) (h : Chained links (pre ++ xs)) : Chained links xs := by
  induction pre with
  | nil => exact h
  | cons y pre ih => exact ih h.2

/-- The node before the one taken out gets its link. -/
lemma Chained.unlink {pre rest : List ℕ} {x last : ℕ} (h : Chained links (pre ++ x :: rest))
    (hnodup : (pre ++ x :: rest).Nodup) (hlast : pre.getLast? = some last) :
    Chained (Function.update links last (links x)) (pre ++ rest) := by
  induction pre with
  | nil => exact absurd hlast (by simp)
  | cons y pre ih =>
      have hy : y ∉ pre ++ x :: rest := (List.nodup_cons.1 hnodup).1
      cases pre with
      | nil =>
          obtain rfl : y = last := by simpa using hlast
          obtain ⟨-, hx, hrest⟩ := h
          refine ⟨?_, hrest.update (fun hmem => hy (List.mem_cons_of_mem x hmem)) _⟩
          rw [Function.update_self, hx]
          rfl
      | cons w pre =>
          have hmem : last ∈ w :: pre := List.mem_of_getLast? (by simpa using hlast)
          have hne : y ≠ last := fun heq => hy (heq ▸ List.mem_append_left _ hmem)
          refine ⟨?_, ih h.2 (List.nodup_cons.1 hnodup).2 (by simpa using hlast)⟩
          rw [Function.update_of_ne hne, h.1]
          rfl

/-- A node is taken out of the middle of a list, or from one of its ends. -/
lemma Holds.unlink {pre rest : List ℕ} (h : Holds links l (pre ++ x :: rest)) :
    Holds (unlink links l pre.getLast? x).1 (unlink links l pre.getLast? x).2 (pre ++ rest)
      ∧ ∀ n, n ∉ pre → (Slist.unlink links l pre.getLast? x).1 n = links n := by
  have hlink : links x = rest.head? := (h.chained.suffix pre).1
  have hnodup : (pre ++ rest).Nodup :=
    h.nodup.sublist ((List.Sublist.refl pre).append (List.sublist_cons_self x rest))
  have htail : (if (links x).isNone then pre.getLast? else l.tail) = (pre ++ rest).getLast? := by
    rw [hlink, h.tail]
    cases rest with
    | nil => simp
    | cons y rest => simp [List.getLast?_append]
  cases hlast : pre.getLast? with
  | none =>
      obtain rfl := List.getLast?_eq_none_iff.1 hlast
      rw [hlast] at htail
      exact ⟨⟨hlink, htail, h.chained.2, hnodup⟩, fun _ _ => rfl⟩
  | some last =>
      rw [hlast] at htail
      have hhead : (pre ++ x :: rest).head? = (pre ++ rest).head? := by
        cases pre with
        | nil => exact absurd hlast (by simp)
        | cons y pre => rfl
      refine ⟨⟨h.head.trans hhead, htail, h.chained.unlink h.nodup hlast, hnodup⟩, fun n hn => ?_⟩
      have hne : n ≠ last := fun heq => hn (by rw [heq]; exact List.mem_of_getLast? hlast)
      exact Function.update_of_ne hne _ _

/-- The list without its first node that matches; no other node has its link changed. -/
lemma Holds.removeFirstMatch {pre : List ℕ} (h : Holds links l (pre ++ xs))
    (hfuel : xs.length ≤ fuel) :
    ∃ links' l', removeFirstMatch links p l fuel pre.getLast? xs.head?
        = some (xs.find? p, links', l')
      ∧ Holds links' l' (pre ++ xs.eraseP p) ∧ ∀ n, n ∉ pre ++ xs → links' n = links n := by
  induction xs generalizing pre fuel with
  | nil =>
      refine ⟨links, l, ?_, h, fun _ _ => rfl⟩
      cases fuel <;> rfl
  | cons x rest ih =>
      obtain ⟨fuel, rfl⟩ := Nat.exists_eq_add_of_le' (Nat.one_le_of_lt hfuel)
      have hlink : links x = rest.head? := (h.chained.suffix pre).1
      rw [List.head?_cons, Slist.removeFirstMatch]
      cases hx : p x with
      | false =>
          have hnext : Holds links l ((pre ++ [x]) ++ rest) := by rwa [List.append_cons] at h
          obtain ⟨links', l', hrun, hholds, hframe⟩ := ih hnext (Nat.le_of_succ_le_succ hfuel)
          rw [List.getLast?_concat] at hrun
          rw [if_neg (by simp), hlink, hrun, List.find?_cons_of_neg (by simp [hx])]
          refine ⟨links', l', rfl, ?_, fun n hn => hframe n (by rwa [List.append_cons] at hn)⟩
          rwa [List.eraseP_cons_of_neg (by simp [hx]), List.append_cons]
      | true =>
          obtain ⟨hholds, hframe⟩ := h.unlink
          rw [if_pos rfl, List.find?_cons_of_pos hx, List.eraseP_cons_of_pos hx]
          exact ⟨_, _, rfl, hholds, fun n hn => hframe n fun hmem =>
            hn (List.mem_append_left _ hmem)⟩

end Slist

/-! ### Several lists -/

namespace Pool

variable {ι : Type*} [DecidableEq ι] {pool : Pool ι} {xs : ι → List ℕ} {i : ι} {p : ℕ → Bool}
  {created : ℕ}

/-- The first node of a list that matches is taken out of it. -/
def removeFirstMatch (pool : Pool ι) (i : ι) (p : ℕ → Bool) (fuel : ℕ) :
    Option (Option ℕ × Pool ι) :=
  (Slist.removeFirstMatch pool.links p (pool.lists i) fuel none (pool.lists i).head).map fun r =>
    (r.1, ⟨r.2.1, Function.update pool.lists i r.2.2⟩)

omit [DecidableEq ι] in
/-- There is fuel enough if there is as much of it as there are nodes. -/
lemma Within.length_le (h : Within pool created xs) (i : ι) : (xs i).length ≤ created := by
  have hsub : (xs i).toFinset ⊆ Finset.range created := fun n hn =>
    Finset.mem_range.2 (h.lt i n (List.mem_toFinset.1 hn))
  calc (xs i).length
      = (xs i).toFinset.card := (List.toFinset_card_of_nodup (h.owns.holds i).nodup).symm
    _ ≤ (Finset.range created).card := Finset.card_le_card hsub
    _ = created := Finset.card_range created

omit [DecidableEq ι] in
lemma Within.walk (h : Within pool created xs) (i : ι) :
    Slist.walk pool.links created (pool.lists i).head = some (xs i) := by
  rw [(h.owns.holds i).head]
  exact (h.owns.holds i).chained.walk (h.length_le i)

omit [DecidableEq ι] in
lemma Within.firstMatch (h : Within pool created xs) (i : ι) (p : ℕ → Bool) :
    Slist.firstMatch pool.links p created (pool.lists i).head = some ((xs i).find? p) := by
  rw [(h.owns.holds i).head]
  exact (h.owns.holds i).chained.firstMatch (h.length_le i)

lemma Within.removeFirstMatch (h : Within pool created xs) (i : ι) (p : ℕ → Bool) :
    ∃ pool', pool.removeFirstMatch i p created = some ((xs i).find? p, pool')
      ∧ Within pool' created (Function.update xs i ((xs i).eraseP p)) := by
  obtain ⟨links', l', hrun, hholds, hframe⟩ :=
    @Slist.Holds.removeFirstMatch _ _ _ p _ [] (h.owns.holds i) (h.length_le i)
  have hsub (j : ι) (n : ℕ) (hn : n ∈ Function.update xs i ((xs i).eraseP p) j) : n ∈ xs j := by
    by_cases hj : j = i
    · subst hj
      rw [Function.update_self] at hn
      exact List.mem_of_mem_eraseP hn
    · rwa [Function.update_of_ne hj] at hn
  refine ⟨⟨links', Function.update pool.lists i l'⟩, ?_, ⟨fun j => ?_, fun j k n hj hk =>
    h.owns.disjoint j k n (hsub j n hj) (hsub k n hk)⟩, fun j n hn => h.lt j n (hsub j n hn)⟩
  · rw [Pool.removeFirstMatch, (h.owns.holds i).head]
    simp only [List.getLast?_nil] at hrun
    rw [hrun]
    rfl
  · by_cases hj : j = i
    · subst hj
      simpa only [Function.update_self, List.nil_append] using hholds
    · dsimp only
      rw [Function.update_of_ne hj, Function.update_of_ne hj]
      have hold := h.owns.holds j
      refine ⟨hold.head, hold.tail, hold.chained.congr fun n hn => hframe n fun hmem => ?_,
        hold.nodup⟩
      exact hj (h.owns.disjoint j i n hn hmem)

end Pool
