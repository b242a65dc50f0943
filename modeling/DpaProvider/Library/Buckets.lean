import DpaProvider.Library.Search

/-!
A list of values kept in buckets.

Each value belongs in the bucket that an index of it names, and the buckets are lists of nodes over
the same links.  `Buckets` says that every bucket holds the values of one list that belong there, in
their order in the list.

* `Buckets.insert`: a value is put at the end of its bucket, and of the list;
* `Buckets.firstMatch`: a search in one bucket finds what a search in the list does;
* `Buckets.remove`: so does a removal;
* `Buckets.visited`: the nodes of all buckets are those of the list.
-/

namespace List

variable {α : Type*} {l : List α}

/-- A value that a filter drops may be removed before. -/
lemma filter_eraseP_of_drop {p q : α → Bool} (h : ∀ a, p a → q a = false) :
    (l.eraseP p).filter q = l.filter q := by
  induction l with
  | nil => rfl
  | cons a rest ih =>
      cases ha : p a with
      | true => rw [eraseP_cons_of_pos ha, filter_cons_of_neg (by simp [h a ha])]
      | false =>
          rw [eraseP_cons_of_neg (by simp [ha]), filter_cons, filter_cons, ih]

/-- The first value with a key is the one value with the key. -/
lemma eraseP_eq_eraseIdx_of_nodup {β : Type*} [DecidableEq β] {key : α → β} {i : ℕ} {a : α}
    (hnodup : (l.map key).Nodup) (hi : l[i]? = some a) :
    (l.eraseP fun b => key b = key a) = l.eraseIdx i := by
  induction l generalizing i with
  | nil => rfl
  | cons b rest ih =>
      obtain ⟨hb, hrest⟩ := nodup_cons.1 hnodup
      cases i with
      | zero =>
          obtain rfl := Option.some.inj hi
          rw [eraseP_cons_of_pos (by simp), eraseIdx_cons_zero]
      | succ i =>
          have ha : a ∈ rest := mem_of_getElem? hi
          have hne : key b ≠ key a := fun heq => hb (heq ▸ mem_map_of_mem ha)
          rw [eraseP_cons_of_neg (by simpa using hne), eraseIdx_cons_succ, ih hrest hi]

/-- A list is made of its parts by an index. -/
lemma flatMap_filter_perm (index : α → ℕ) (n : ℕ) :
    ((range n).flatMap fun i => l.filter (index · = i)).Perm (l.filter (index · < n)) := by
  induction n with
  | zero => simp
  | succ n ih =>
      have hbefore : (l.filter (index · < n + 1)).filter (index · < n)
          = l.filter (index · < n) := by
        rw [filter_filter]
        refine filter_congr fun a _ => ?_
        rw [Bool.eq_iff_iff]
        simp only [Bool.and_eq_true, decide_eq_true_eq]
        omega
      have hlast : (l.filter (index · < n + 1)).filter (fun a => !decide (index a < n))
          = l.filter (index · = n) := by
        rw [filter_filter]
        refine filter_congr fun a _ => ?_
        rw [Bool.eq_iff_iff]
        simp only [Bool.and_eq_true, Bool.not_eq_true', decide_eq_false_iff_not, decide_eq_true_eq]
        omega
      have hsplit := filter_append_perm (index · < n) (l.filter (index · < n + 1))
      rw [hbefore, hlast] at hsplit
      rw [range_succ, flatMap_append, flatMap_singleton]
      exact (ih.append_right _).trans hsplit

end List

namespace Pool

variable {α : Type*} {p : Pool ℕ} {created : ℕ} {val : ℕ → α} {index : α → ℕ} {l : List α}

/-- Every bucket holds, in the order of the list, the values that belong there. -/
def Buckets (p : Pool ℕ) (created : ℕ) (val : ℕ → α) (index : α → ℕ) (l : List α) : Prop :=
  ∃ xs, p.Within created xs ∧ ∀ i, (xs i).map val = l.filter (index · = i)

lemma buckets_init (val : ℕ → α) (index : α → ℕ) : Buckets (init ℕ) 0 val index [] :=
  ⟨fun _ => [], (full_init ℕ).within, fun _ => rfl⟩

lemma Buckets.insert (h : p.Buckets created val index l) (a : α) :
    (p.insertTail (index a) created).Buckets (created + 1) (Function.update val created a) index
      (l ++ [a]) := by
  obtain ⟨xs, hwithin, hxs⟩ := h
  have hold (i : ℕ) : (xs i).map (Function.update val created a) = (xs i).map val := by
    refine List.map_congr_left fun n hn => Function.update_of_ne ?_ _ _
    exact (hwithin.lt i n hn).ne
  refine ⟨_, hwithin.create (index a), fun i => ?_⟩
  rw [List.filter_append, ← hxs i]
  by_cases hi : i = index a
  · subst hi
    rw [Function.update_self, List.map_append, hold, List.map_singleton, Function.update_self,
      List.filter_cons_of_pos (by simp)]
    rfl
  · rw [Function.update_of_ne hi, hold, List.filter_cons_of_neg (by simpa using Ne.symm hi),
      List.filter_nil, List.append_nil]

/-- A search for values of one bucket finds the first in the list. -/
lemma Buckets.firstMatch (h : p.Buckets created val index l) {q : α → Bool} {i : ℕ}
    (hindex : ∀ a, q a → index a = i) :
    (Slist.firstMatch p.links (fun n => q (val n)) created (p.lists i).head).map
      (Option.map val) = some (l.find? q) := by
  obtain ⟨xs, hwithin, hxs⟩ := h
  have hboth (a : α) : decide (decide (index a = i) = true ∧ q a = true) = q a := by
    rw [Bool.eq_iff_iff, decide_eq_true_eq, decide_eq_true_eq]
    exact and_iff_right_of_imp (hindex a)
  have hfind : ((xs i).find? fun n => q (val n)).map val = l.find? q :=
    calc ((xs i).find? fun n => q (val n)).map val
        = ((xs i).map val).find? q := List.find?_map.symm
      _ = l.find? q := by rw [hxs i, List.find?_filter]; simp only [hboth]
  rw [hwithin.firstMatch, Option.map_some, hfind]

/-- A removal of values of one bucket takes the first in the list. -/
lemma Buckets.remove (h : p.Buckets created val index l) {q : α → Bool} {i : ℕ}
    (hindex : ∀ a, q a → index a = i) :
    ∃ r, p.removeFirstMatch i (fun n => q (val n)) created = some r
      ∧ r.2.Buckets created val index (l.eraseP q) := by
  obtain ⟨xs, hwithin, hxs⟩ := h
  obtain ⟨p', hrun, hwithin'⟩ := hwithin.removeFirstMatch i fun n => q (val n)
  have hboth (a : α) : (q a && decide (index a = i)) = q a := by
    rw [Bool.eq_iff_iff, Bool.and_eq_true, decide_eq_true_eq]
    exact and_iff_left_of_imp (hindex a)
  refine ⟨_, hrun, _, hwithin', fun j => ?_⟩
  by_cases hj : j = i
  · subst hj
    calc (Function.update xs j ((xs j).eraseP fun n => q (val n)) j).map val
        = ((xs j).map val).eraseP q := by rw [Function.update_self, List.eraseP_map]; rfl
      _ = (l.eraseP q).filter (index · = j) := by
          rw [hxs j, List.eraseP_filter]
          simp only [hboth]
  · rw [Function.update_of_ne hj, hxs j]
    refine (List.filter_eraseP_of_drop fun a ha => ?_).symm
    rw [hindex a ha]
    exact decide_eq_false (Ne.symm hj)

/-- The nodes on the way along the first `n` buckets. -/
def visited (p : Pool ℕ) (created : ℕ) : ℕ → Option (List ℕ)
  | 0 => some []
  | n + 1 =>
      (p.visited created n).bind fun before =>
        (Slist.walk p.links created (p.lists n).head).map (before ++ ·)

lemma Within.visited {xs : ℕ → List ℕ} (h : p.Within created xs) (n : ℕ) :
    p.visited created n = some ((List.range n).flatMap xs) := by
  induction n with
  | zero => rfl
  | succ n ih =>
      rw [Pool.visited, ih, Option.bind_some, h.walk, Option.map_some, List.range_succ,
        List.flatMap_append, List.flatMap_singleton]

/-- The nodes of all buckets hold the values of the list, each once. -/
lemma Buckets.visited (h : p.Buckets created val index l) {n : ℕ} (hindex : ∀ a ∈ l, index a < n) :
    ∃ nodes, p.visited created n = some nodes ∧ nodes.Nodup ∧ (nodes.map val).Perm l := by
  obtain ⟨xs, hwithin, hxs⟩ := h
  refine ⟨_, hwithin.visited n, ?_, ?_⟩
  · refine List.nodup_flatMap.2 ⟨fun i _ => (hwithin.owns.holds i).nodup, ?_⟩
    refine List.nodup_range.imp fun {i j} hne x hi hj => hne ?_
    exact hwithin.owns.disjoint i j x hi hj
  · have hmap : ((List.range n).flatMap xs).map val
        = (List.range n).flatMap fun i => l.filter (index · = i) := by
      rw [List.map_flatMap]
      exact List.flatMap_congr fun i _ => hxs i
    have hperm := List.flatMap_filter_perm (l := l) index n
    rwa [List.filter_eq_self.2 fun a ha => decide_eq_true (hindex a ha), ← hmap] at hperm

end Pool
