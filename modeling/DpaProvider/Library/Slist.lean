import Mathlib.Data.List.Nodup
import Mathlib.Tactic

/-!
Singly linked lists threaded through shared nodes.

A node carries its own link, so it can be in one list at a time.  `Links` are the links
of all nodes, by number; a `Slist` is the pair of pointers of one list.

* `Slist.insertTail`, `Slist.insertHead`, `Slist.removeHead`: the operations on the pointers;
* `Slist.Holds`: the pointers and the links represent a list of nodes;
* `Pool`: several lists over the same links, and `Pool.Owns`: what they represent, no
  node being in two of them;
* `Pool.Owns.removeHead`, `Pool.Owns.insertTail`, `Pool.Owns.insertHead`: the operations take one
  node off a list, and put a node that is in no list at the end or at the head of one;
* `Pool.Owns.move`: the first node of a list goes to the end of another, and no node is lost
  (`Pool.mem_moved`);
* `Pool.alloc`: a node off a free list, or a new one; `Pool.Full`: the nodes in the lists are
  those created.
-/

/-- The links of the nodes. -/
abbrev Links := ℕ → Option ℕ

/-- The two pointers of a list. -/
structure Slist where
  head : Option ℕ
  tail : Option ℕ
  deriving DecidableEq, Repr

namespace Slist

variable {links : Links} {l : Slist} {xs : List ℕ} {item x : ℕ}

/-- A list without nodes. -/
def init : Slist := ⟨none, none⟩

def isEmpty (l : Slist) : Bool := l.head.isNone

/-- The node `item` is put behind the last one. -/
def insertTail (item : ℕ) (links : Links) (l : Slist) : Links × Slist :=
  if l.isEmpty then (Function.update links item none, ⟨some item, some item⟩)
  else
    let links := match l.tail with
      | none => links
      | some last => Function.update links last (some item)
    (Function.update links item none, ⟨l.head, some item⟩)

/-- The node `item` is put before the first one. -/
def insertHead (item : ℕ) (links : Links) (l : Slist) : Links × Slist :=
  if l.isEmpty then (Function.update links item none, ⟨some item, some item⟩)
  else (Function.update links item l.head, ⟨some item, l.tail⟩)

/-- The first node is taken off, if there is one. -/
def removeHead (links : Links) (l : Slist) : Option ℕ × Slist :=
  if l.head = l.tail then (l.head, init) else (l.head, ⟨l.head.bind links, l.tail⟩)

/-! ### Empty lists -/

lemma isEmpty_iff_head : l.isEmpty = true ↔ l.head = none := Option.isNone_iff_eq_none

lemma removeHead_fst (links : Links) (l : Slist) : (l.removeHead links).1 = l.head := by
  rw [removeHead]
  split <;> rfl

/-- Nothing is taken off an empty list. -/
lemma removeHead_of_isEmpty (links : Links) (h : l.isEmpty = true) :
    l.removeHead links = (none, l) := by
  obtain ⟨head, tail⟩ := l
  obtain rfl : head = none := isEmpty_iff_head.1 h
  rw [removeHead]
  split
  case isTrue htail => exact Prod.ext rfl (congrArg (Slist.mk none) htail)
  case isFalse => rfl

lemma insertTail_isEmpty (item : ℕ) (links : Links) (l : Slist) :
    (l.insertTail item links).2.isEmpty = false := by
  rw [insertTail]
  split
  case isTrue => rfl
  case isFalse hsome => exact Bool.eq_false_of_not_eq_true hsome

/-! ### What a list represents -/

/-- Every node is linked to the one behind it. -/
def Chained (links : Links) : List ℕ → Prop
  | [] => True
  | x :: rest => links x = rest.head? ∧ Chained links rest

lemma Chained.congr {links' : Links} (h : Chained links xs) (heq : ∀ x ∈ xs, links' x = links x) :
    Chained links' xs := by
  induction xs with
  | nil => trivial
  | cons x rest ih =>
      exact ⟨(heq x List.mem_cons_self).trans h.1,
        ih h.2 fun y hy => heq y (List.mem_cons_of_mem x hy)⟩

/-- A link to a node outside may be stored in such a node. -/
lemma Chained.update (h : Chained links xs) (hx : x ∉ xs) (link : Option ℕ) :
    Chained (Function.update links x link) xs :=
  h.congr fun _ hy => Function.update_of_ne (ne_of_mem_of_not_mem hy hx) _ _

/-- The last node gets a link to a new one. -/
lemma Chained.append (h : Chained links xs) (hitem : item ∉ xs) (hnodup : xs.Nodup)
    {last : ℕ} (hlast : xs.getLast? = some last) :
    Chained (Function.update (Function.update links last (some item)) item none)
      (xs ++ [item]) := by
  induction xs with
  | nil => exact absurd hlast (by simp)
  | cons x rest ih =>
      have hx : item ≠ x := fun heq => hitem (heq ▸ List.mem_cons_self)
      cases rest with
      | nil =>
          obtain rfl : x = last := by simpa using hlast
          refine ⟨?_, Function.update_self _ _ _, trivial⟩
          rw [Function.update_of_ne hx.symm, Function.update_self]
          rfl
      | cons y rest =>
          have hmem : last ∈ y :: rest := List.mem_of_getLast? (by simpa using hlast)
          have hne : x ≠ last := fun heq => (List.nodup_cons.1 hnodup).1 (heq ▸ hmem)
          refine ⟨?_, ih h.2 (fun hmem => hitem (List.mem_cons_of_mem x hmem))
            (List.nodup_cons.1 hnodup).2 (by simpa using hlast)⟩
          calc Function.update (Function.update links last (some item)) item none x
              = links x := by rw [Function.update_of_ne hx.symm, Function.update_of_ne hne]
            _ = (y :: rest).head? := h.1
            _ = (y :: rest ++ [item]).head? := rfl

/-- The pointers and the links represent the nodes `xs`, from head to tail. -/
structure Holds (links : Links) (l : Slist) (xs : List ℕ) : Prop where
  head : l.head = xs.head?
  tail : l.tail = xs.getLast?
  chained : Chained links xs
  nodup : xs.Nodup

lemma Chained.unique {ys : List ℕ} (h : Chained links xs) (h' : Chained links ys)
    (hhead : xs.head? = ys.head?) : xs = ys := by
  induction xs generalizing ys with
  | nil => exact (List.head?_eq_none_iff.1 hhead.symm).symm
  | cons x rest ih =>
      cases ys with
      | nil => exact absurd hhead (by simp)
      | cons y rest' =>
          obtain rfl : x = y := by simpa using hhead
          rw [ih h.2 h'.2 (h.1.symm.trans h'.1)]

/-- The pointers and the links say which nodes are in the list. -/
lemma Holds.unique {ys : List ℕ} (h : Holds links l xs) (h' : Holds links l ys) : xs = ys :=
  h.chained.unique h'.chained (h.head.symm.trans h'.head)

lemma holds_init (links : Links) : Holds links init [] := ⟨rfl, rfl, trivial, List.nodup_nil⟩

lemma Holds.congr {links' : Links} (h : Holds links l xs) (heq : ∀ x ∈ xs, links' x = links x) :
    Holds links' l xs :=
  { h with chained := h.chained.congr heq }

lemma Holds.isEmpty_eq (h : Holds links l xs) : l.isEmpty = xs.isEmpty := by
  rw [isEmpty, h.head]
  cases xs <;> rfl

lemma Holds.insertTail (h : Holds links l xs) (hitem : item ∉ xs) :
    Holds (insertTail item links l).1 (insertTail item links l).2 (xs ++ [item]) := by
  have hnodup : (xs ++ [item]).Nodup :=
    List.nodup_append.2 ⟨h.nodup, List.nodup_singleton item, fun a ha b hb heq =>
      hitem (by rwa [← List.mem_singleton.1 hb, ← heq])⟩
  rw [Slist.insertTail, h.isEmpty_eq]
  cases hxs : xs with
  | nil => exact ⟨rfl, rfl, ⟨Function.update_self _ _ _, trivial⟩, List.nodup_singleton item⟩
  | cons x rest =>
      obtain ⟨last, hlast⟩ : ∃ last, xs.getLast? = some last :=
        Option.isSome_iff_exists.1 (by simp [hxs])
      have htail : l.tail = some last := h.tail.trans hlast
      rw [← hxs, hxs, List.isEmpty_cons, if_neg (by simp), ← hxs, htail]
      refine ⟨?_, ?_, h.chained.append hitem h.nodup hlast, hnodup⟩
      · rw [h.head, hxs]
        rfl
      · rw [List.getLast?_concat]

/-- An insertion at the end changes the links of the new node and of the last one before it only. -/
lemma Holds.insertTail_links (h : Holds links l xs) {y : ℕ} (hy : y ∉ xs) (hne : y ≠ item) :
    (Slist.insertTail item links l).1 y = links y := by
  rw [Slist.insertTail]
  split
  · exact Function.update_of_ne hne _ _
  · cases htail : l.tail with
    | none => exact Function.update_of_ne hne _ _
    | some last =>
        have hlast : last ∈ xs := List.mem_of_getLast? (h.tail.symm.trans htail)
        calc Function.update (Function.update links last (some item)) item none y
            = Function.update links last (some item) y := Function.update_of_ne hne _ _
          _ = links y := Function.update_of_ne (ne_of_mem_of_not_mem hlast hy).symm _ _

lemma Holds.insertHead (h : Holds links l xs) (hitem : item ∉ xs) :
    Holds (insertHead item links l).1 (insertHead item links l).2 (item :: xs) := by
  rw [Slist.insertHead, h.isEmpty_eq]
  cases hxs : xs with
  | nil => exact ⟨rfl, rfl, ⟨Function.update_self _ _ _, trivial⟩, List.nodup_singleton item⟩
  | cons x rest =>
      rw [← hxs, hxs, List.isEmpty_cons, if_neg (by simp), ← hxs]
      refine ⟨rfl, ?_, ⟨?_, h.chained.update hitem _⟩, List.nodup_cons.2 ⟨hitem, h.nodup⟩⟩
      · rw [h.tail, hxs, List.getLast?_cons_cons]
      · exact (Function.update_self _ _ _).trans h.head

lemma insertHead_links {y : ℕ} (hne : y ≠ item) (links : Links) (l : Slist) :
    (insertHead item links l).1 y = links y := by
  rw [insertHead]
  split <;> exact Function.update_of_ne hne _ _

/-- In a list of two or more nodes the first is not the last. -/
lemma head_ne_getLast {y : ℕ} {rest : List ℕ} (hnodup : (x :: y :: rest).Nodup) :
    (x :: y :: rest).head? ≠ (x :: y :: rest).getLast? := by
  intro heq
  have hmem : x ∈ y :: rest := by
    refine List.mem_of_getLast? ?_
    rw [← List.getLast?_cons_cons, ← heq]
    rfl
  exact (List.nodup_cons.1 hnodup).1 hmem

lemma Holds.removeHead (h : Holds links l xs) :
    (removeHead links l).1 = xs.head? ∧ Holds links (removeHead links l).2 xs.tail := by
  rw [Slist.removeHead, h.head, h.tail]
  match xs, h with
  | [], _ => exact ⟨rfl, holds_init links⟩
  | [x], _ =>
      rw [if_pos (by rfl)]
      exact ⟨rfl, holds_init links⟩
  | x :: y :: rest, h =>
      rw [if_neg (head_ne_getLast h.nodup)]
      refine ⟨rfl, h.chained.1, ?_, h.chained.2, (List.nodup_cons.1 h.nodup).2⟩
      exact List.getLast?_cons_cons

end Slist

/-! ### Several lists -/

/-- The links, and the lists over them. -/
structure Pool (ι : Type*) where
  links : Links
  lists : ι → Slist

namespace Pool

variable {ι : Type*} [DecidableEq ι] {p : Pool ι} {xs : ι → List ℕ} {i : ι} {item : ℕ}

/-- Lists without nodes. -/
def init (ι : Type*) : Pool ι := ⟨fun _ => none, fun _ => Slist.init⟩

def insertTail (p : Pool ι) (i : ι) (item : ℕ) : Pool ι :=
  let r := (p.lists i).insertTail item p.links
  ⟨r.1, Function.update p.lists i r.2⟩

def insertHead (p : Pool ι) (i : ι) (item : ℕ) : Pool ι :=
  let r := (p.lists i).insertHead item p.links
  ⟨r.1, Function.update p.lists i r.2⟩

def removeHead (p : Pool ι) (i : ι) : Option ℕ × Pool ι :=
  let r := (p.lists i).removeHead p.links
  (r.1, { p with lists := Function.update p.lists i r.2 })

lemma removeHead_fst (p : Pool ι) (i : ι) : (p.removeHead i).1 = (p.lists i).head :=
  Slist.removeHead_fst _ _

lemma removeHead_of_isEmpty (h : (p.lists i).isEmpty = true) : p.removeHead i = (none, p) := by
  rw [removeHead, Slist.removeHead_of_isEmpty _ h, Function.update_eq_self]

/-- Taking off puts nothing in a list. -/
lemma removeHead_isEmpty (i : ι) {j : ι} (h : (p.lists j).isEmpty = true) :
    ((p.removeHead i).2.lists j).isEmpty = true := by
  by_cases hj : j = i
  · subst hj
    rwa [removeHead_of_isEmpty h]
  · simpa only [removeHead, Function.update_of_ne hj] using h

lemma insertTail_isEmpty (p : Pool ι) (i : ι) (item : ℕ) (j : ι) :
    ((p.insertTail i item).lists j).isEmpty = true ↔ j ≠ i ∧ (p.lists j).isEmpty = true := by
  by_cases hj : j = i
  · subst hj
    simp [insertTail, Slist.insertTail_isEmpty]
  · simp [insertTail, hj]

/-- The lists represent `xs`, and no node is in two of them. -/
structure Owns (p : Pool ι) (xs : ι → List ℕ) : Prop where
  holds : ∀ i, (p.lists i).Holds p.links (xs i)
  disjoint : ∀ i j x, x ∈ xs i → x ∈ xs j → i = j

omit [DecidableEq ι] in
lemma Owns.unique {ys : ι → List ℕ} (h : Owns p xs) (h' : Owns p ys) : xs = ys :=
  funext fun i => (h.holds i).unique (h'.holds i)

lemma owns_init (ι : Type*) : Owns (init ι) fun _ => [] :=
  ⟨fun _ => Slist.holds_init _, fun _ _ _ h => absurd h List.not_mem_nil⟩

lemma Owns.removeHead (h : Owns p xs) (i : ι) :
    (p.removeHead i).1 = (xs i).head?
      ∧ Owns (p.removeHead i).2 (Function.update xs i (xs i).tail) := by
  have hi := (h.holds i).removeHead
  have hsub (j : ι) (x : ℕ) (hx : x ∈ Function.update xs i (xs i).tail j) : x ∈ xs j := by
    by_cases hj : j = i
    · subst hj
      rw [Function.update_self] at hx
      exact List.mem_of_mem_tail hx
    · rwa [Function.update_of_ne hj] at hx
  refine ⟨hi.1, fun j => ?_, fun j k x hj hk => h.disjoint j k x (hsub j x hj) (hsub k x hk)⟩
  by_cases hj : j = i
  · subst hj
    simpa only [Pool.removeHead, Function.update_self] using hi.2
  · simpa only [Pool.removeHead, Function.update_of_ne hj] using h.holds j

/-- A list gets other nodes: some of those that it had, and some that were in no list.  Only links
of nodes that are or were in it change. -/
lemma Owns.replace (h : Owns p xs) {links : Links} {l : Slist} {ys : List ℕ}
    (hholds : l.Holds links ys) (hmem : ∀ x ∈ ys, x ∈ xs i ∨ ∀ j, x ∉ xs j)
    (hlinks : ∀ x, x ∉ ys → x ∉ xs i → links x = p.links x) :
    Owns ⟨links, Function.update p.lists i l⟩ (Function.update xs i ys) where
  holds := by
    intro j
    by_cases hj : j = i
    · subst hj
      simpa only [Function.update_self] using hholds
    · have hkept : (p.lists j).Holds links (xs j) := by
        refine (h.holds j).congr fun x hx => hlinks x (fun hys => ?_) fun hi => hj ?_
        · exact (hmem x hys).elim (fun hi => hj (h.disjoint j i x hx hi)) fun hfresh => hfresh j hx
        · exact h.disjoint j i x hx hi
      simpa only [Function.update_of_ne hj] using hkept
  disjoint := by
    have hcases (j : ι) (x : ℕ) (hx : x ∈ Function.update xs i ys j) :
        j = i ∨ x ∈ xs j ∧ x ∉ ys := by
      by_cases hj : j = i
      · exact .inl hj
      · rw [Function.update_of_ne hj] at hx
        exact .inr ⟨hx, fun hys => (hmem x hys).elim (fun hi => hj (h.disjoint j i x hx hi))
          fun hfresh => hfresh j hx⟩
    intro j k x hj hk
    rcases hcases j x hj with rfl | ⟨hxj, hnot⟩ <;> rcases hcases k x hk with rfl | ⟨hxk, hnot'⟩
    · rfl
    · rw [Function.update_self] at hj
      exact absurd hj hnot'
    · rw [Function.update_self] at hk
      exact absurd hk hnot
    · exact h.disjoint j k x hxj hxk

lemma Owns.insertTail (h : Owns p xs) (i : ι) (hitem : ∀ j, item ∉ xs j) :
    Owns (p.insertTail i item) (Function.update xs i (xs i ++ [item])) := by
  refine h.replace ((h.holds i).insertTail (hitem i)) (fun x hx => ?_) fun x hx _ => ?_
  · rcases List.mem_append.1 hx with hx | hx
    · exact .inl hx
    · exact .inr (List.mem_singleton.1 hx ▸ hitem)
  · rw [List.mem_append, List.mem_singleton, not_or] at hx
    exact (h.holds i).insertTail_links hx.1 hx.2

lemma Owns.insertHead (h : Owns p xs) (i : ι) (hitem : ∀ j, item ∉ xs j) :
    Owns (p.insertHead i item) (Function.update xs i (item :: xs i)) := by
  refine h.replace ((h.holds i).insertHead (hitem i)) (fun x hx => ?_) fun x hx _ => ?_
  · rcases List.mem_cons.1 hx with rfl | hx
    · exact .inr hitem
    · exact .inl hx
  · exact Slist.insertHead_links (ne_of_mem_of_not_mem List.mem_cons_self hx).symm _ _

omit [DecidableEq ι] in
/-- The link of a node that is in no list may change. -/
lemma Owns.relink (h : Owns p xs) (hitem : ∀ j, item ∉ xs j) (link : Option ℕ) :
    Owns { p with links := Function.update p.links item link } xs :=
  ⟨fun j => (h.holds j).congr fun _ hx =>
    Function.update_of_ne (ne_of_mem_of_not_mem hx (hitem j)) _ _,
    h.disjoint⟩

/-- Several nodes are put at the head, one after the other. -/
lemma Owns.insertHeads (h : Owns p xs) (i : ι) {items : List ℕ} (hnodup : items.Nodup)
    (hitems : ∀ item ∈ items, ∀ j, item ∉ xs j) :
    Owns (items.foldl (fun p item => p.insertHead i item) p)
      (Function.update xs i (items.reverse ++ xs i)) := by
  induction items generalizing p xs with
  | nil =>
      rw [List.foldl_nil, List.reverse_nil, List.nil_append, Function.update_eq_self]
      exact h
  | cons item items ih =>
      obtain ⟨hitem, hnodup⟩ := List.nodup_cons.1 hnodup
      have hput := h.insertHead i (hitems item List.mem_cons_self)
      have hfresh : ∀ x ∈ items, ∀ j, x ∉ Function.update xs i (item :: xs i) j := by
        intro x hx j hj
        have hold := hitems x (List.mem_cons_of_mem item hx)
        by_cases hji : j = i
        · subst hji
          rw [Function.update_self] at hj
          rcases List.mem_cons.1 hj with rfl | hj
          · exact hitem hx
          · exact hold j hj
        · rw [Function.update_of_ne hji] at hj
          exact hold j hj
      have hall := ih hput hnodup hfresh
      rw [Function.update_self, Function.update_idem] at hall
      rwa [List.foldl_cons, List.reverse_cons, List.append_assoc, List.singleton_append]

/-- The nodes after an insertion. -/
lemma mem_insertTail (xs : ι → List ℕ) (i : ι) (item x : ℕ) :
    (∃ k, x ∈ Function.update xs i (xs i ++ [item]) k) ↔ x = item ∨ ∃ k, x ∈ xs k := by
  constructor
  · rintro ⟨k, hk⟩
    by_cases hi : k = i
    · subst hi
      rw [Function.update_self] at hk
      rcases List.mem_append.1 hk with hk | hk
      · exact .inr ⟨k, hk⟩
      · exact .inl (List.mem_singleton.1 hk)
    · rw [Function.update_of_ne hi] at hk
      exact .inr ⟨k, hk⟩
  · rintro (rfl | ⟨k, hk⟩)
    · exact ⟨i, by simp⟩
    · by_cases hi : k = i
      · subst hi
        exact ⟨k, by rw [Function.update_self]; exact List.mem_append_left _ hk⟩
      · exact ⟨k, by rwa [Function.update_of_ne hi]⟩

/-- The lists after the first node of `i` has gone to the end of `j`. -/
def moved (xs : ι → List ℕ) (i j : ι) : ι → List ℕ :=
  Function.update (Function.update xs i (xs i).tail) j (xs j ++ (xs i).head?.toList)

lemma moved_self (xs : ι → List ℕ) (i j : ι) :
    moved xs i j j = xs j ++ (xs i).head?.toList := Function.update_self _ _ _

lemma moved_source (xs : ι → List ℕ) {i j : ι} (hne : i ≠ j) : moved xs i j i = (xs i).tail := by
  rw [moved, Function.update_of_ne hne, Function.update_self]

lemma moved_of_ne (xs : ι → List ℕ) {i j k : ι} (hi : k ≠ i) (hj : k ≠ j) :
    moved xs i j k = xs k := by
  rw [moved, Function.update_of_ne hj, Function.update_of_ne hi]

/-- A node that has been taken off is in no list. -/
lemma Owns.notMem_tail (h : Owns p xs) {rest : List ℕ} (hi : xs i = item :: rest) (k : ι) :
    item ∉ Function.update xs i (xs i).tail k := by
  intro hmem
  by_cases hk : k = i
  · subst hk
    rw [Function.update_self, hi] at hmem
    have hnodup := (h.holds k).nodup
    rw [hi] at hnodup
    exact (List.nodup_cons.1 hnodup).1 hmem
  · rw [Function.update_of_ne hk] at hmem
    exact hk (h.disjoint k i item hmem (hi ▸ List.mem_cons_self))

/-- A node that goes to another list is in one list before and after. -/
lemma Owns.move (h : Owns p xs) {j : ι} (hne : i ≠ j) {rest : List ℕ} (hi : xs i = item :: rest) :
    Owns ((p.removeHead i).2.insertTail j item) (moved xs i j) := by
  have htaken := (h.removeHead i).2
  have hj : Function.update xs i (xs i).tail j = xs j := Function.update_of_ne hne.symm _ _
  have hput := htaken.insertTail j (h.notMem_tail hi)
  rwa [hj, show xs j ++ [item] = xs j ++ (xs i).head?.toList by rw [hi]; rfl] at hput

/-- No node is lost or created on the way. -/
lemma mem_moved (xs : ι → List ℕ) {i j : ι} (hne : i ≠ j) (x : ℕ) :
    (∃ k, x ∈ moved xs i j k) ↔ ∃ k, x ∈ xs k := by
  constructor
  · rintro ⟨k, hk⟩
    by_cases hj : k = j
    · subst hj
      rw [moved_self] at hk
      rcases List.mem_append.1 hk with hk | hk
      · exact ⟨k, hk⟩
      · exact ⟨i, List.mem_of_mem_head? (Option.mem_toList.1 hk)⟩
    · by_cases hi : k = i
      · subst hi
        rw [moved_source xs hne] at hk
        exact ⟨k, List.mem_of_mem_tail hk⟩
      · rw [moved_of_ne xs hi hj] at hk
        exact ⟨k, hk⟩
  · rintro ⟨k, hk⟩
    by_cases hj : k = j
    · subst hj
      exact ⟨k, by rw [moved_self]; exact List.mem_append_left _ hk⟩
    · by_cases hi : k = i
      · subst hi
        cases hxs : xs k with
        | nil => exact absurd hk (by simp [hxs])
        | cons y rest =>
            rw [hxs] at hk
            rcases List.mem_cons.1 hk with rfl | hk
            · exact ⟨j, by rw [moved_self, hxs]; simp⟩
            · exact ⟨k, by rw [moved_source xs hne, hxs]; exact hk⟩
      · exact ⟨k, by rwa [moved_of_ne xs hi hj]⟩

/-! ### Nodes that are created when the free list is empty -/

/-- The first node of the list `free`, or a new one; and the number of nodes then created. -/
def alloc (p : Pool ι) (free : ι) (created : ℕ) : ℕ × Pool ι × ℕ :=
  let r := p.removeHead free
  match r.1 with
  | some node => (node, r.2, created)
  | none => (created, r.2, created + 1)

lemma alloc_lists (p : Pool ι) {free j : ι} (hj : j ≠ free) (created : ℕ) :
    (p.alloc free created).2.1.lists j = p.lists j := by
  rw [alloc]
  cases hfirst : (p.removeHead free).1 <;> exact Function.update_of_ne hj _ _

/-- The nodes in the lists have been created, and each is in one list. -/
structure Within (p : Pool ι) (created : ℕ) (xs : ι → List ℕ) : Prop where
  owns : p.Owns xs
  lt : ∀ i n, n ∈ xs i → n < created

/-- The nodes in the lists are those created, each in one list. -/
structure Full (p : Pool ι) (created : ℕ) (xs : ι → List ℕ) : Prop where
  owns : p.Owns xs
  created : ∀ n, n < created ↔ ∃ i, n ∈ xs i

omit [DecidableEq ι] in
lemma Full.within {created : ℕ} (h : Full p created xs) : Within p created xs :=
  ⟨h.owns, fun i n hn => (h.created n).2 ⟨i, hn⟩⟩

lemma full_init (ι : Type*) [DecidableEq ι] : Full (init ι) 0 fun _ => [] :=
  ⟨owns_init ι, by simp⟩

omit [DecidableEq ι] in
/-- Every node created is in one list. -/
lemma Full.existsUnique {created : ℕ} (h : Full p created xs) {n : ℕ} (hn : n < created) :
    ∃! i, n ∈ xs i := by
  obtain ⟨i, hi⟩ := (h.created n).1 hn
  exact ⟨i, hi, fun j hj => h.owns.disjoint j i n hj hi⟩

/-- A new node is put in a list. -/
lemma Within.create {created : ℕ} (h : Within p created xs) (i : ι) :
    Within (p.insertTail i created) (created + 1)
      (Function.update xs i (xs i ++ [created])) where
  owns := h.owns.insertTail i fun j hj => lt_irrefl _ (h.lt j created hj)
  lt := by
    intro j n hn
    rcases (mem_insertTail xs i created n).1 ⟨j, hn⟩ with rfl | ⟨k, hk⟩
    · exact Nat.lt_succ_self n
    · exact Nat.lt_succ_of_lt (h.lt k n hk)

lemma Full.create {created : ℕ} (h : Full p created xs) (i : ι) :
    Full (p.insertTail i created) (created + 1) (Function.update xs i (xs i ++ [created])) where
  owns := (h.within.create i).owns
  created := by
    intro n
    rw [mem_insertTail, ← h.created n]
    omega

/-- A node is taken off a list and put nowhere. -/
lemma Within.removeHead {created : ℕ} (h : Within p created xs) (i : ι) :
    Within (p.removeHead i).2 created (Function.update xs i (xs i).tail) where
  owns := (h.owns.removeHead i).2
  lt := by
    intro j n hn
    by_cases hj : j = i
    · subst hj
      rw [Function.update_self] at hn
      exact h.lt j n (List.mem_of_mem_tail hn)
    · rw [Function.update_of_ne hj] at hn
      exact h.lt j n hn

/-- The first node of a list is lost when it is taken off and put nowhere. -/
lemma Full.not_full_removeHead {created : ℕ} (h : Full p created xs) {rest : List ℕ}
    (hi : xs i = item :: rest) {ys : ι → List ℕ} : ¬ Full (p.removeHead i).2 created ys := by
  intro hys
  obtain rfl := hys.owns.unique (h.owns.removeHead i).2
  have hmem : item ∈ xs i := hi ▸ List.mem_cons_self
  obtain ⟨k, hk⟩ := (hys.created item).1 ((h.created item).2 ⟨i, hmem⟩)
  exact h.owns.notMem_tail hi k hk

/-- Nothing changes when the first node of an empty list is asked for. -/
lemma Owns.removeHead_nil (h : Owns p xs) (hi : xs i = []) :
    (p.removeHead i).1 = none ∧ (p.removeHead i).2 = p := by
  have hempty : (p.lists i).isEmpty = true := by rw [(h.holds i).isEmpty_eq, hi, List.isEmpty_nil]
  rw [removeHead_of_isEmpty hempty]
  exact ⟨rfl, rfl⟩

/-- A node goes from one list to another. -/
lemma Full.move {created : ℕ} (h : Full p created xs) {j : ι} (hne : i ≠ j) {rest : List ℕ}
    (hi : xs i = item :: rest) :
    Full ((p.removeHead i).2.insertTail j item) created (moved xs i j) :=
  ⟨h.owns.move hne hi, fun n => by rw [mem_moved xs hne, h.created n]⟩

/-- A node is allocated and put in a list other than the free list: it is in no other list before,
all lists but these two stay, and no node is lost. -/
lemma Within.alloc {created : ℕ} (h : Within p created xs) {free j : ι} (hne : free ≠ j) :
    ∃ ys, Within ((p.alloc free created).2.1.insertTail j (p.alloc free created).1)
        (p.alloc free created).2.2 ys
      ∧ ys j = xs j ++ [(p.alloc free created).1] ∧ (∀ k, k ≠ free → k ≠ j → ys k = xs k)
      ∧ (∀ k, k ≠ free → (p.alloc free created).1 ∉ xs k)
      ∧ ∀ n, ((∃ k, n ∈ ys k) ↔ n = (p.alloc free created).1 ∨ ∃ k, n ∈ xs k)
        ∧ (n < (p.alloc free created).2.2 ↔ n = (p.alloc free created).1 ∨ n < created) := by
  obtain ⟨hhead, -⟩ := h.owns.removeHead free
  cases hfree : xs free with
  | nil =>
      obtain ⟨hnone, hsame⟩ := h.owns.removeHead_nil hfree
      simp only [Pool.alloc, hnone, hsame]
      refine ⟨_, h.create j, Function.update_self _ _ _, fun k _ hk => Function.update_of_ne hk _ _,
        fun k _ hmem => lt_irrefl _ (h.lt k created hmem),
        fun n => ⟨mem_insertTail xs j created n, ?_⟩⟩
      omega
  | cons node rest =>
      rw [hfree] at hhead
      have hmem : node ∈ xs free := hfree ▸ List.mem_cons_self
      have hkept (n : ℕ) : (∃ k, n ∈ moved xs free j k) ↔ n = node ∨ ∃ k, n ∈ xs k := by
        rw [mem_moved xs hne, or_iff_right_of_imp]
        rintro rfl
        exact ⟨free, hmem⟩
      simp only [Pool.alloc, hhead, List.head?_cons]
      refine ⟨_, ⟨h.owns.move hne hfree, fun i n hn => ?_⟩, ?_, fun k hk hj => moved_of_ne xs hk hj,
        fun k hk hmem' => hk (h.owns.disjoint k free node hmem' hmem), fun n => ⟨hkept n, ?_⟩⟩
      · obtain ⟨k, hk⟩ := (mem_moved xs hne n).1 ⟨i, hn⟩
        exact h.lt k n hk
      · rw [moved_self, hfree]
        rfl
      · rw [or_iff_right_of_imp]
        rintro rfl
        exact h.lt free n hmem

lemma Full.alloc {created : ℕ} (h : Full p created xs) {free j : ι} (hne : free ≠ j) :
    ∃ ys, Full ((p.alloc free created).2.1.insertTail j (p.alloc free created).1)
        (p.alloc free created).2.2 ys
      ∧ ys j = xs j ++ [(p.alloc free created).1] ∧ (∀ k, k ≠ free → k ≠ j → ys k = xs k)
      ∧ ∀ k, k ≠ free → (p.alloc free created).1 ∉ xs k := by
  obtain ⟨ys, hwithin, hput, hother, hfresh, hnodes⟩ := h.within.alloc hne
  refine ⟨ys, ⟨hwithin.owns, fun n => ?_⟩, hput, hother, hfresh⟩
  rw [(hnodes n).1, (hnodes n).2, h.created n]

end Pool
