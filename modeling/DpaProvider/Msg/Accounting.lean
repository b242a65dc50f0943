import DpaProvider.Library.Stepper
import DpaProvider.Msg.Endpoint

/-!
One completion for each posted operation, in the order of the posts.

An attempt either changes nothing that the books record (`Quiet`) or ends in one
completion (`attempt_spec`).  `Ledger` says what the completion queues and the
counters must hold after the completions so far, and `accounting` that every run of
calls keeps it and completes the posts in order.  Between the calls the connection,
the memory and the ring pointers may change in any way (`Event.environment`).
-/

namespace DpaProvider

open ByteMem

/-- The operations completed in a direction. -/
def Host.done (h : Host) (dir : Direction) : List MsgQueueEntry :=
  (h.completed.filter fun c => c.dir = dir).map Completed.op

/-- The contexts in the entries that completions of a direction come with. -/
def Host.contexts (h : Host) (dir : Direction) : List ℕ :=
  (h.completed.filter fun c => c.dir = dir).map fun c => c.entry.opContext

lemma Completed.opContext_entry (c : Completed) : c.entry.opContext = c.op.context := by
  rw [entry]
  cases c.dir <;> rfl

/-- They are those of the operations. -/
lemma Host.contexts_eq (h : Host) (dir : Direction) :
    h.contexts dir = (h.done dir).map MsgQueueEntry.context := by
  rw [contexts, done, List.map_map]
  exact List.map_congr_left fun c _ => c.opContext_entry

/-- What is right about a completion: a send is whole, and a receive has copied
the posted length or the whole message, whichever is less. -/
def Completed.Exact (c : Completed) : Prop :=
  match c.dir with
  | .send => c.copied = c.op.len ∧ c.msgSize = c.op.len
  | .recv => c.copied = min c.op.len c.msgSize

/-- A receive is too small exactly when the message is longer than the buffer, and
the two lengths reported add up to that of the message. -/
lemma Completed.Exact.recv {c : Completed} (h : c.Exact) (hdir : c.dir = .recv) :
    (c.entry.err = .etoosmall ↔ c.op.len < c.msgSize)
      ∧ c.entry.len.toNat + c.entry.olen.toNat = c.msgSize.toNat := by
  simp only [Exact, hdir] at h
  have hcopied : c.copied.toNat = min c.op.len.toNat c.msgSize.toNat := by
    rw [h]
    exact UInt64.toNat_min _ _
  have hle : c.copied ≤ c.msgSize := by
    rw [UInt64.le_iff_toNat_le]
    omega
  simp only [entry, err, hdir]
  constructor
  · by_cases hlt : c.copied < c.msgSize
    · rw [if_pos hlt]
      rw [UInt64.lt_iff_toNat_lt] at hlt ⊢
      exact iff_of_true rfl (by omega)
    · rw [if_neg hlt]
      rw [UInt64.lt_iff_toNat_lt] at hlt ⊢
      exact iff_of_false (by simp) (by omega)
  · rw [UInt64.toNat_sub_of_le _ _ hle]
    rw [UInt64.le_iff_toNat_le] at hle
    omega

namespace Host

variable {h h' g : Host} {dir : Direction} {e : MsgQueueEntry} {c : Completed}

/-! ### One attempt -/

/-- The two states agree on all that the books record. -/
structure Quiet (h g : Host) : Prop where
  queue : g.ep.queue = h.ep.queue
  cq : g.ep.cq = h.ep.cq
  cntr : g.ep.cntr = h.ep.cntr
  cqs : g.cqs = h.cqs
  cntrs : g.cntrs = h.cntrs
  completed : g.completed = h.completed

lemma Quiet.refl (h : Host) : Quiet h h := ⟨rfl, rfl, rfl, rfl, rfl, rfl⟩

/-- The completion belongs to the posted operation. -/
structure CompletionOf (dir : Direction) (e : MsgQueueEntry) (c : Completed) : Prop where
  dir : c.dir = dir
  op : c.op = e
  exact : c.Exact

lemma trySend_spec {err : FiErr} (heq : h.trySend e = .ok (err, h')) :
    (err = .eagain ∧ Quiet h h')
      ∨ err = .success ∧ ∃ g c, Quiet h g ∧ h' = g.complete c ∧ CompletionOf .send e c := by
  simp only [trySend] at heq
  split at heq
  case h_1 => exact absurd heq (by simp)
  case h_2 status hstatus =>
      split at heq
      case isTrue =>
          obtain ⟨rfl, rfl⟩ : FiErr.eagain = err ∧ _ = h' := by simpa using heq
          exact Or.inl ⟨rfl, rfl, rfl, rfl, rfl, rfl, rfl⟩
      case isFalse =>
          split at heq
          case h_1 => exact absurd heq (by simp)
          case h_2 buffer hbuffer =>
              obtain ⟨rfl, rfl⟩ : FiErr.success = err ∧ _ = h' := by simpa using heq
              refine Or.inr ⟨rfl, _, _, ?_, rfl, rfl, rfl, ?_⟩
              · exact ⟨rfl, rfl, rfl, rfl, rfl, rfl⟩
              · exact ⟨rfl, rfl⟩

lemma tryRecv_spec {err : FiErr} (heq : h.tryRecv e = .ok (err, h')) :
    (err = .eagain ∧ Quiet h h')
      ∨ err = .success ∧ ∃ g c, Quiet h g ∧ h' = g.complete c ∧ CompletionOf .recv e c := by
  simp only [tryRecv] at heq
  split at heq
  case h_1 => exact absurd heq (by simp)
  case h_2 buffer hbuffer =>
      split at heq
      case isTrue =>
          obtain ⟨rfl, rfl⟩ : FiErr.eagain = err ∧ _ = h' := by simpa using heq
          exact Or.inl ⟨rfl, rfl, rfl, rfl, rfl, rfl, rfl⟩
      case isFalse =>
          split at heq
          case h_1 => exact absurd heq (by simp)
          case h_2 status hstatus =>
              obtain ⟨rfl, rfl⟩ : FiErr.success = err ∧ _ = h' := by simpa using heq
              refine Or.inr ⟨rfl, _, _, ?_, rfl, rfl, rfl, ?_⟩
              · exact ⟨rfl, rfl, rfl, rfl, rfl, rfl⟩
              · rfl

/-- An attempt asks for a retry and leaves the books alone, or ends in one
completion of the operation. -/
lemma attempt_spec {err : FiErr} (heq : h.attempt dir e = .ok (err, h')) :
    (err = .eagain ∧ Quiet h h')
      ∨ err = .success ∧ ∃ g c, Quiet h g ∧ h' = g.complete c ∧ CompletionOf dir e c := by
  unfold attempt at heq
  obtain ⟨⟨err', h₁⟩, htry, hnote⟩ := Except.map_eq_ok heq
  obtain ⟨rfl, rfl⟩ := Prod.mk.inj hnote
  have hspec : (err' = .eagain ∧ Quiet h h₁)
      ∨ err' = .success ∧ ∃ g c, Quiet h g ∧ h₁ = g.complete c ∧ CompletionOf dir e c := by
    cases dir with
    | send => exact trySend_spec htry
    | recv => exact tryRecv_spec htry
  rcases hspec with ⟨rfl, hq⟩ | ⟨rfl, g, c, hq, rfl, hc⟩
  · exact Or.inl ⟨rfl, hq.queue, hq.cq, hq.cntr, hq.cqs, hq.cntrs, hq.completed⟩
  · -- the note may as well be made before the completion
    exact Or.inr ⟨rfl, { g with tried := g.tried ++ [(dir, .success)] }, c,
      ⟨hq.queue, hq.cq, hq.cntr, hq.cqs, hq.cntrs, hq.completed⟩, rfl, hc⟩

/-! ### The ledger -/

/-- The entries that completions owe to a completion queue, given the queue bound
for each direction: those of successes, or the others. -/
def entriesFor (cq : Direction → Option ℕ) (completed : List Completed) (q : ℕ) (ok : Bool) :
    List CqErrEntry :=
  (completed.filter fun c => cq c.dir = some q ∧ decide (c.err = .success) = ok).map
    Completed.entry

/-- The increments that completions owe to a counter. -/
def incrementsFor (cntr : Direction → Option ℕ) (completed : List Completed) (k : ℕ)
    (ok : Bool) : ℕ :=
  (completed.filter fun c => cntr c.dir = some k ∧ decide (c.err = .success) = ok).length

/-- Every completion since `h₀` has put one entry into the queue bound for its
direction, and one increment into the counter. -/
structure Ledger (h₀ h : Host) : Prop where
  cq : h.ep.cq = h₀.ep.cq
  cntr : h.ep.cntr = h₀.ep.cntr
  events : ∀ q, (h.cqs q).eventQueue
    = (h₀.cqs q).eventQueue ++ entriesFor h₀.ep.cq h.completed q true
  errors : ∀ q, (h.cqs q).errorQueue
    = (h₀.cqs q).errorQueue ++ entriesFor h₀.ep.cq h.completed q false
  counter : ∀ k, (h.cntrs k).counter = (h₀.cntrs k).counter
    + incrementsFor h₀.ep.cntr h.completed k true
  err : ∀ k, (h.cntrs k).err = (h₀.cntrs k).err + incrementsFor h₀.ep.cntr h.completed k false
  exact : ∀ c ∈ h.completed, c.Exact

variable {h₀ : Host}

lemma entriesFor_append (cq : Direction → Option ℕ) (l : List Completed) (c : Completed) (q : ℕ)
    (ok : Bool) : entriesFor cq (l ++ [c]) q ok = entriesFor cq l q ok
      ++ if cq c.dir = some q ∧ decide (c.err = .success) = ok then [c.entry] else [] := by
  rw [entriesFor, List.filter_append, List.map_append, entriesFor]
  congr 1
  split
  case isTrue hin => rw [List.filter_cons_of_pos (by rw [decide_eq_true hin])]; rfl
  case isFalse hout => rw [List.filter_cons_of_neg (by rw [decide_eq_false hout]; decide)]; rfl

lemma incrementsFor_append (cntr : Direction → Option ℕ) (l : List Completed) (c : Completed)
    (k : ℕ) (ok : Bool) : incrementsFor cntr (l ++ [c]) k ok = incrementsFor cntr l k ok
      + if cntr c.dir = some k ∧ decide (c.err = .success) = ok then 1 else 0 := by
  rw [incrementsFor, List.filter_append, List.length_append, incrementsFor]
  congr 1
  split
  case isTrue hin => rw [List.filter_cons_of_pos (by rw [decide_eq_true hin])]; rfl
  case isFalse hout => rw [List.filter_cons_of_neg (by rw [decide_eq_false hout]; decide)]; rfl

lemma complete_cqs (h : Host) (c : Completed) (q : ℕ) :
    (h.complete c).cqs q = if h.ep.cq c.dir = some q then cqAdd (h.cqs q) c.entry else h.cqs q := by
  cases hcq : h.ep.cq c.dir with
  | none => simp [complete, hcq]
  | some q' =>
      by_cases heq : q = q'
      · subst heq
        simp [complete, hcq]
      · simp [complete, hcq, Function.update_of_ne heq, Ne.symm heq]

lemma complete_cntrs (h : Host) (c : Completed) (k : ℕ) :
    (h.complete c).cntrs k = if h.ep.cntr c.dir = some k then
      (if c.err = .success then dpaCntrInc (h.cntrs k) else dpaCntrErrInc (h.cntrs k))
      else h.cntrs k := by
  cases hcntr : h.ep.cntr c.dir with
  | none => simp [complete, hcntr]
  | some k' =>
      by_cases heq : k = k'
      · subst heq
        simp [complete, hcntr]
      · simp [complete, hcntr, Function.update_of_ne heq, Ne.symm heq]

@[simp] lemma Completed.err_entry (c : Completed) : c.entry.err = c.err := by
  rw [Completed.entry]
  cases c.dir <;> rfl

/-- A completion enters the ledger. -/
lemma Ledger.complete (hl : Ledger h₀ h) (hc : c.Exact) : Ledger h₀ (h.complete c) where
  cq := hl.cq
  cntr := hl.cntr
  events := by
    intro q
    rw [complete_cqs, show (h.complete c).completed = h.completed ++ [c] from rfl,
      entriesFor_append, ← List.append_assoc, ← hl.events q, hl.cq]
    by_cases hq : h₀.ep.cq c.dir = some q <;> by_cases herr : c.err = .success <;>
      simp [hq, herr, cqAdd]
  errors := by
    intro q
    rw [complete_cqs, show (h.complete c).completed = h.completed ++ [c] from rfl,
      entriesFor_append, ← List.append_assoc, ← hl.errors q, hl.cq]
    by_cases hq : h₀.ep.cq c.dir = some q <;> by_cases herr : c.err = .success <;>
      simp [hq, herr, cqAdd]
  counter := by
    intro k
    rw [complete_cntrs, show (h.complete c).completed = h.completed ++ [c] from rfl,
      incrementsFor_append, ← Nat.add_assoc, ← hl.counter k, hl.cntr]
    by_cases hk : h₀.ep.cntr c.dir = some k <;> by_cases herr : c.err = .success <;>
      simp [hk, herr, dpaCntrInc, dpaCntrErrInc]
  err := by
    intro k
    rw [complete_cntrs, show (h.complete c).completed = h.completed ++ [c] from rfl,
      incrementsFor_append, ← Nat.add_assoc, ← hl.err k, hl.cntr]
    by_cases hk : h₀.ep.cntr c.dir = some k <;> by_cases herr : c.err = .success <;>
      simp [hk, herr, dpaCntrInc, dpaCntrErrInc]
  exact := by
    intro c' hc'
    rcases List.mem_append.1 hc' with hc' | hc'
    · exact hl.exact c' hc'
    · obtain rfl := List.mem_singleton.1 hc'
      exact hc

/-! ### The books -/

/-- The ledger, and the posts `posts` of each direction in order: first those
completed, then those queued. -/
structure Books (h₀ : Host) (posts : Direction → List MsgQueueEntry) (h : Host) : Prop
    extends Ledger h₀ h where
  order : ∀ dir, h.done dir ++ (h.queue dir).contents = posts dir

/-- The books depend on these parts of the state only. -/
structure Agree (h g : Host) : Prop where
  contents : ∀ dir, (g.queue dir).contents = (h.queue dir).contents
  cq : g.ep.cq = h.ep.cq
  cntr : g.ep.cntr = h.ep.cntr
  cqs : g.cqs = h.cqs
  cntrs : g.cntrs = h.cntrs
  completed : g.completed = h.completed

lemma Quiet.agree (hq : Quiet h g) : Agree h g where
  contents := fun dir => by rw [Host.queue, hq.queue, Host.queue]
  cq := hq.cq
  cntr := hq.cntr
  cqs := hq.cqs
  cntrs := hq.cntrs
  completed := hq.completed

variable {posts : Direction → List MsgQueueEntry}

lemma Ledger.congr (hl : Ledger h₀ h) (ha : Agree h g) : Ledger h₀ g where
  cq := ha.cq.trans hl.cq
  cntr := ha.cntr.trans hl.cntr
  events := fun q => by rw [ha.cqs, ha.completed]; exact hl.events q
  errors := fun q => by rw [ha.cqs, ha.completed]; exact hl.errors q
  counter := fun k => by rw [ha.cntrs, ha.completed]; exact hl.counter k
  err := fun k => by rw [ha.cntrs, ha.completed]; exact hl.err k
  exact := by rw [ha.completed]; exact hl.exact

lemma Books.congr (hb : Books h₀ posts h) (ha : Agree h g) : Books h₀ posts g where
  toLedger := hb.toLedger.congr ha
  order := fun dir => by rw [done, ha.completed, ha.contents]; exact hb.order dir

/-! ### The calls keep the books -/

@[simp] lemma queue_setQueue (h : Host) (dir : Direction) (q : MsgQueue) :
    (h.setQueue dir q).queue dir = q := Function.update_self _ _ _

lemma queue_setQueue_of_ne (h : Host) {d : Direction} (hd : d ≠ dir) (q : MsgQueue) :
    (h.setQueue dir q).queue d = h.queue d := Function.update_of_ne hd _ _

/-- A queue whose contents stay may be replaced. -/
lemma agree_setQueue (h : Host) (dir : Direction) {q : MsgQueue}
    (hq : q.contents = (h.queue dir).contents) : Agree h (h.setQueue dir q) where
  contents := fun d => by
    by_cases hd : d = dir
    · subst hd
      rw [queue_setQueue, hq]
    · rw [queue_setQueue_of_ne h hd]
  cq := rfl
  cntr := rfl
  cqs := rfl
  cntrs := rfl
  completed := rfl

lemma lockIfNeeded_agree (heq : h.lockIfNeeded dir = .ok h') : Agree h h' := by
  rw [lockIfNeeded] at heq
  split at heq
  · split at heq
    · exact absurd heq (by simp)
    · obtain rfl : _ = h' := by simpa using heq
      exact h.agree_setQueue dir rfl
  · obtain rfl : h = h' := by simpa using heq
    exact (Quiet.refl h).agree

lemma unlockIfNeeded_agree (h : Host) (dir : Direction) : Agree h (h.unlockIfNeeded dir) := by
  rw [unlockIfNeeded]
  split
  · exact h.agree_setQueue dir rfl
  · exact (Quiet.refl h).agree

/-- The post of one operation, seen from a direction. -/
def posting (dir : Direction) (e : MsgQueueEntry) (d : Direction) : List MsgQueueEntry :=
  if d = dir then [e] else []

/-- A completed operation joins those done in its direction. -/
lemma done_complete (h : Host) {c : Completed} (hc : CompletionOf dir e c) (d : Direction) :
    (h.complete c).done d = h.done d ++ posting dir e d := by
  rw [done, show (h.complete c).completed = h.completed ++ [c] from rfl, List.filter_append,
    List.map_append, done, posting, ← hc.dir, ← hc.op]
  congr 1
  by_cases hd : c.dir = d
  · simp [hd]
  · simp [hd, Ne.symm hd]

lemma contents_setQueue_enqueue (h : Host) (dir : Direction) (e : MsgQueueEntry) (d : Direction) :
    ((h.setQueue dir ((h.queue dir).enqueue e)).queue d).contents
      = (h.queue d).contents ++ posting dir e d := by
  rw [posting]
  by_cases hd : d = dir
  · subst hd
    rw [queue_setQueue, MsgQueue.contents_enqueue, if_pos rfl]
  · rw [queue_setQueue_of_ne h hd, if_neg hd, List.append_nil]

lemma contents_eq_pop (h : Host) (dir : Direction) {rest : List MsgQueueEntry}
    (hcontents : (h.queue dir).contents = e :: rest) (d : Direction) :
    (h.queue d).contents
      = posting dir e d ++ ((h.setQueue dir (h.queue dir).pop).queue d).contents := by
  rw [posting]
  by_cases hd : d = dir
  · subst hd
    rw [queue_setQueue, MsgQueue.contents_pop, hcontents, if_pos rfl, List.tail_cons,
      List.singleton_append]
  · rw [queue_setQueue_of_ne h hd, if_neg hd, List.nil_append]

/-- An operation is enqueued. -/
lemma Books.enqueue (hb : Books h₀ posts h) (dir : Direction) (e : MsgQueueEntry) :
    Books h₀ (fun d => posts d ++ posting dir e d) (h.enqueue dir e) := by
  have hqueued : Books h₀ (fun d => posts d ++ posting dir e d)
      (h.setQueue dir ((h.queue dir).enqueue e)) := by
    refine ⟨⟨hb.cq, hb.cntr, hb.events, hb.errors, hb.counter, hb.err, hb.exact⟩, fun d => ?_⟩
    rw [contents_setQueue_enqueue, ← List.append_assoc]
    exact congrArg (· ++ _) (hb.order d)
  exact hqueued.congr (unlockIfNeeded_agree _ dir)

/-- An operation completes at once; its queue is empty. -/
lemma Books.complete (hb : Books h₀ posts h) (hempty : (h.queue dir).contents = [])
    (hc : CompletionOf dir e c) :
    Books h₀ (fun d => posts d ++ posting dir e d) (h.complete c) where
  toLedger := hb.toLedger.complete hc.exact
  order := by
    intro d
    rw [done_complete h hc, ← hb.order d, List.append_assoc, List.append_assoc]
    congr 1
    by_cases hd : d = dir
    · subst hd
      rw [show (h.complete c).queue d = h.queue d from rfl, hempty, List.nil_append,
        List.append_nil]
    · rw [posting, if_neg hd, List.nil_append, List.append_nil]
      rfl

/-- The head of a queue completes and leaves it. -/
lemma Books.completeHead (hb : Books h₀ posts h) {rest : List MsgQueueEntry}
    (hcontents : (h.queue dir).contents = e :: rest) (hc : CompletionOf dir e c) :
    Books h₀ posts ((h.complete c).setQueue dir (h.queue dir).pop) where
  toLedger := by
    have hl := hb.toLedger.complete hc.exact
    exact ⟨hl.cq, hl.cntr, hl.events, hl.errors, hl.counter, hl.err, hl.exact⟩
  order := by
    intro d
    rw [show ((h.complete c).setQueue dir (h.queue dir).pop).done d = (h.complete c).done d
      from rfl, done_complete h hc, List.append_assoc, ← hb.order d,
      h.contents_eq_pop dir hcontents d]
    rfl

/-- A post adds its operation to the books, completed or queued. -/
lemma Books.post (hb : Books h₀ posts h) {mayTry : Bool} (heq : h.post dir mayTry e = .ok h') :
    Books h₀ (fun d => posts d ++ posting dir e d) h' := by
  rw [Host.post] at heq
  obtain ⟨h₁, hlock, heq⟩ := bind_eq_ok heq
  obtain ⟨⟨err, h₂⟩, hattempt, heq⟩ := bind_eq_ok heq
  have hb₁ := hb.congr (lockIfNeeded_agree hlock)
  rw [firstAttempt] at hattempt
  split at hattempt
  case isTrue hempty =>
      have hempty' : (h₁.queue dir).contents = [] := by
        rw [Bool.and_eq_true, MsgQueue.isEmpty_eq, List.isEmpty_iff] at hempty
        exact hempty.1
      rcases attempt_spec hattempt with ⟨rfl, hq⟩ | ⟨rfl, g, c, hq, rfl, hc⟩
      · obtain rfl : h₂.enqueue dir e = h' := by simpa using heq
        exact (hb₁.congr hq.agree).enqueue dir e
      · obtain rfl : g.complete c = h' := by simpa using heq
        refine (hb₁.congr hq.agree).complete ?_ hc
        rw [Host.queue, hq.queue]
        exact hempty'
  case isFalse =>
      obtain ⟨rfl, rfl⟩ : FiErr.eagain = err ∧ h₁ = h₂ := by simpa using hattempt
      obtain rfl : h₁.enqueue dir e = h' := by simpa using heq
      exact hb₁.enqueue dir e

/-- The loop over a queue keeps the books. -/
lemma Books.drain {done : FiErr → Bool} (hsuccess : done .success = true)
    (heagain : done .eagain = false) {nodes : List ℕ} (hb : Books h₀ posts h)
    (hnodes : (h.queue dir).entries = nodes) (heq : Host.drain done dir nodes h = .ok h') :
    Books h₀ posts h' := by
  induction nodes generalizing h with
  | nil =>
      obtain rfl : h = h' := by simpa [Host.drain] using heq
      exact hb
  | cons node rest ih =>
      rw [Host.drain] at heq
      obtain ⟨⟨err, h₁⟩, hattempt, heq⟩ := bind_eq_ok heq
      rcases attempt_spec hattempt with ⟨rfl, hq⟩ | ⟨rfl, g, c, hq, rfl, hc⟩
      · obtain rfl : h₁ = h' := by simpa [heagain] using heq
        exact hb.congr hq.agree
      · rw [if_pos hsuccess] at heq
        have hqueue : g.queue dir = h.queue dir := congrFun hq.queue dir
        have hcontents : (g.queue dir).contents
            = (h.queue dir).nodes node :: rest.map (h.queue dir).nodes := by
          rw [hqueue, MsgQueue.contents, hnodes, List.map_cons]
        refine ih ((hb.congr hq.agree).completeHead hcontents hc) ?_ heq
        rw [queue_setQueue, MsgQueue.entries_pop, hqueue, hnodes, List.tail_cons]

lemma Books.processQueue {done : FiErr → Bool} (hsuccess : done .success = true)
    (heagain : done .eagain = false) {locked : Bool} (hb : Books h₀ posts h)
    (heq : h.processQueue done dir locked = .ok h') : Books h₀ posts h' := by
  rw [Host.processQueue] at heq
  split at heq
  · obtain rfl : _ = h' := by simpa using heq
    split
    · exact hb.congr (unlockIfNeeded_agree h dir)
    · exact hb
  · split at heq
    · obtain rfl : h = h' := by simpa using heq
      exact hb
    · obtain ⟨h₁, hlock, heq⟩ := bind_eq_ok heq
      obtain ⟨h₂, hdrain, heq⟩ := bind_eq_ok heq
      obtain rfl : h₂.unlockIfNeeded dir = h' := by simpa using heq
      have hb₁ : Books h₀ posts h₁ := by
        rw [lockUnless] at hlock
        split at hlock
        · obtain rfl : h = h₁ := by simpa using hlock
          exact hb
        · exact hb.congr (lockIfNeeded_agree hlock)
      exact (hb₁.drain hsuccess heagain rfl hdrain).congr (unlockIfNeeded_agree h₂ dir)

/-! ### What a call does -/

/-- A call posts an operation, processes a queue, or is rejected. -/
inductive Action where
  | post (dir : Direction) (e : MsgQueueEntry)
  | process (dir : Direction) (locked : Bool)
  | reject

def Call.action : Call → Action
  | .dpaSend buf len context => .post .send { buf, len, flags := 0, context }
  | .dpaRecv buf len context => .post .recv { buf, len, flags := 0, context }
  | .dpaSendmsg msg _ => match checkMsg msg with
      | none => .reject
      | some (buf, len, context) => .post .send { buf, len, flags := 0, context }
  | .dpaRecvmsg msg flags => match checkMsg msg with
      | none => .reject
      | some (buf, len, context) => .post .recv { buf, len, flags, context }
  | .processSendQueue locked => .process .send locked
  | .processRecvQueue locked => .process .recv locked

/-- A send is tried whatever the state of the connection. -/
def mayTry (h : Host) : Direction → Bool
  | .send => true
  | .recv => h.ep.connected

/-- The results after which the loop of a direction goes on. -/
def goesOn : Direction → FiErr → Bool
  | .send => fun err => err ≠ .eagain
  | .recv => fun err => err = .success

lemma goesOn_success (dir : Direction) : goesOn dir .success = true := by cases dir <;> rfl

lemma goesOn_eagain (dir : Direction) : goesOn dir .eagain = false := by cases dir <;> rfl

def act (h : Host) : Action → Except Stuck Host
  | .post dir e => h.post dir (h.mayTry dir) e
  | .process dir locked => h.processQueue (goesOn dir) dir locked
  | .reject => .ok h

/-- The endpoint after a call that also returns a value. -/
lemma toOption_map_pair (x : Except Stuck Host) (err : FiErr) :
    ((x.map (err, ·)).map Prod.snd).toOption = x.toOption := by
  cases x <;> rfl

lemma call_eq_act (h : Host) (c : Call) : h.call c = (h.act c.action).toOption := by
  cases c with
  | dpaSend | dpaRecv | processSendQueue | processRecvQueue => rfl
  | dpaSendmsg msg flags =>
      rw [call, dpaSendmsg, Call.action]
      cases checkMsg msg with
      | none => rfl
      | some r => exact toOption_map_pair _ _
  | dpaRecvmsg msg flags =>
      rw [call, dpaRecvmsg, Call.action]
      cases checkMsg msg with
      | none => rfl
      | some r => exact toOption_map_pair _ _

/-- The operation that a call posts in a direction. -/
def Action.posted (dir : Direction) : Action → List MsgQueueEntry
  | .post d e => posting d e dir
  | _ => []

/-- An action adds its post to the books. -/
lemma Books.act (hb : Books h₀ posts h) {a : Action} (heq : h.act a = .ok h') :
    Books h₀ (fun dir => posts dir ++ a.posted dir) h' := by
  cases a with
  | post dir e => exact hb.post heq
  | process dir locked =>
      simpa [Action.posted] using hb.processQueue (goesOn_success dir) (goesOn_eagain dir) heq
  | reject =>
      obtain rfl : h = h' := by simpa [Host.act] using heq
      simpa [Action.posted] using hb

/-! ### Calls that return -/

/-- The pointers that the attempts follow are set. -/
structure Linked (h : Host) : Prop where
  status : h.ep.sendInfo.remoteStatus.isSome
  remoteBuffer : h.ep.sendInfo.remoteBuffer.isSome
  buffer : h.ep.recvInfo.buffer.isSome
  remoteStatus : h.ep.recvInfo.remoteStatus.isSome

/-- An attempt over set pointers returns, and leaves them set. -/
lemma Linked.attempt (hl : Linked h) (dir : Direction) (e : MsgQueueEntry) :
    ∃ r, h.attempt dir e = .ok r ∧ Linked r.2 := by
  obtain ⟨status, hstatus⟩ := Option.isSome_iff_exists.1 hl.status
  obtain ⟨remoteBuffer, hremoteBuffer⟩ := Option.isSome_iff_exists.1 hl.remoteBuffer
  obtain ⟨buffer, hbuffer⟩ := Option.isSome_iff_exists.1 hl.buffer
  obtain ⟨remoteStatus, hremoteStatus⟩ := Option.isSome_iff_exists.1 hl.remoteStatus
  cases dir with
  | send =>
      simp only [Host.attempt, trySend, hstatus, hremoteBuffer]
      split
      · exact ⟨_, rfl, hl.status, hl.remoteBuffer, hl.buffer, hl.remoteStatus⟩
      · exact ⟨_, rfl, hl.status, hl.remoteBuffer, hl.buffer, hl.remoteStatus⟩
  | recv =>
      simp only [Host.attempt, tryRecv, hbuffer, hremoteStatus]
      split
      · exact ⟨_, rfl, hl.status, hl.remoteBuffer, hl.buffer, hl.remoteStatus⟩
      · exact ⟨_, rfl, hl.status, hl.remoteBuffer, hl.buffer, hl.remoteStatus⟩

lemma Linked.drain (hl : Linked h) (done : FiErr → Bool) (dir : Direction) (nodes : List ℕ) :
    ∃ h', Host.drain done dir nodes h = .ok h' := by
  induction nodes generalizing h with
  | nil => exact ⟨h, rfl⟩
  | cons node rest ih =>
      obtain ⟨r, hr, hl'⟩ := hl.attempt dir ((h.queue dir).nodes node)
      simp only [Host.drain, hr, bind, Except.bind]
      split
      · exact ih ⟨hl'.status, hl'.remoteBuffer, hl'.buffer, hl'.remoteStatus⟩
      · exact ⟨r.2, rfl⟩

lemma Linked.lockIfNeeded (hl : Linked h) (hfree : (h.queue dir).locked = false) :
    ∃ h', h.lockIfNeeded dir = .ok h' ∧ Linked h' := by
  rw [Host.lockIfNeeded, hfree]
  split
  · exact ⟨_, rfl, hl.status, hl.remoteBuffer, hl.buffer, hl.remoteStatus⟩
  · exact ⟨_, rfl, hl⟩

lemma Linked.post (hl : Linked h) (hfree : (h.queue dir).locked = false) (mayTry : Bool)
    (e : MsgQueueEntry) : ∃ h', h.post dir mayTry e = .ok h' := by
  obtain ⟨h₁, hlock, hl₁⟩ := hl.lockIfNeeded hfree
  obtain ⟨r, hr⟩ : ∃ r, h₁.firstAttempt dir mayTry e = .ok r := by
    rw [firstAttempt]
    split
    · obtain ⟨r, hr, -⟩ := hl₁.attempt dir e
      exact ⟨r, hr⟩
    · exact ⟨_, rfl⟩
  simp only [Host.post, hlock, hr, bind, Except.bind]
  split <;> exact ⟨_, rfl⟩

lemma Linked.processQueue (hl : Linked h) (hfree : (h.queue dir).locked = false)
    (done : FiErr → Bool) (locked : Bool) : ∃ h', h.processQueue done dir locked = .ok h' := by
  rw [Host.processQueue]
  split
  · exact ⟨_, rfl⟩
  · split
    · exact ⟨_, rfl⟩
    · obtain ⟨h₁, hlock, hl₁⟩ : ∃ h', h.lockUnless locked dir = .ok h' ∧ Linked h' := by
        rw [lockUnless]
        split
        · exact ⟨h, rfl, hl⟩
        · exact hl.lockIfNeeded hfree
      obtain ⟨h₂, hdrain⟩ := hl₁.drain done dir (h₁.queue dir).entries
      simp only [hlock, hdrain, bind, Except.bind]
      exact ⟨_, rfl⟩

/-- A call returns if the pointers are set and the queue locks are free. -/
theorem call_returns (hl : Linked h) (hfree : ∀ dir, (h.queue dir).locked = false) (c : Call) :
    ∃ h', h.call c = some h' := by
  rw [call_eq_act]
  cases c.action with
  | post dir e =>
      obtain ⟨h', heq⟩ := hl.post (hfree dir) (h.mayTry dir) e
      exact ⟨h', congrArg Except.toOption heq⟩
  | process dir locked =>
      obtain ⟨h', heq⟩ := hl.processQueue (hfree dir) (goesOn dir) locked
      exact ⟨h', congrArg Except.toOption heq⟩
  | reject => exact ⟨h, rfl⟩

/-! ### Every run keeps the books -/

/-- A call, or a change of what is around the endpoint: the connection, the
pointers and cursors of the rings, and the memory. -/
inductive Event where
  | call (c : Call)
  | environment (connected : Bool) (sendInfo : SendInfo) (recvInfo : RecvInfo)
      (mem : BufferLoc → RingBuffer)

def event (h : Host) : Event → Option Host
  | .call c => h.call c
  | .environment connected sendInfo recvInfo mem =>
      some { h with mem, ep.connected := connected, ep.sendInfo := sendInfo
                    ep.recvInfo := recvInfo }

/-- What an event posts in a direction. -/
def Event.posted (dir : Direction) : Event → List MsgQueueEntry
  | .call c => c.action.posted dir
  | .environment .. => []

lemma Books.event (hb : Books h₀ posts h) {a : Event} (heq : h.event a = some h') :
    Books h₀ (fun dir => posts dir ++ a.posted dir) h' := by
  cases a with
  | call c =>
      rw [Host.event, call_eq_act] at heq
      exact hb.act (toOption_eq_some heq)
  | environment connected sendInfo recvInfo mem =>
      obtain rfl : _ = h' := by simpa only [Host.event, Option.some.injEq] using heq
      simp only [Event.posted, List.append_nil]
      exact hb.congr ⟨fun _ => rfl, rfl, rfl, rfl, rfl, rfl⟩

/-- An endpoint before its first post, whatever is bound to it. -/
structure Fresh (h : Host) : Prop where
  queue : ∀ dir, (h.queue dir).contents = []
  completed : h.completed = []

/-- The books begin with what is queued. -/
lemma books_self (hcompleted : h.completed = []) :
    Books h (fun dir => (h.queue dir).contents) h where
  cq := rfl
  cntr := rfl
  events := by simp [entriesFor, hcompleted]
  errors := by simp [entriesFor, hcompleted]
  counter := by simp [incrementsFor, hcompleted]
  err := by simp [incrementsFor, hcompleted]
  exact := by simp [hcompleted]
  order := by simp [done, hcompleted]

lemma Fresh.books (hf : Fresh h) : Books h (fun _ => []) h := by
  have hbooks := books_self hf.completed
  rwa [show (fun dir => (h.queue dir).contents) = fun _ => [] from funext hf.queue] at hbooks

/-- Every run keeps the books. -/
lemma Fresh.books_run (hf : Fresh h₀) {events : List Event}
    (hrun : Stepper.run event h₀ events = some h) :
    Books h₀ (fun dir => events.flatMap (Event.posted dir)) h := by
  have hbooks : Books h₀ (fun dir => ([] ++ events).flatMap (Event.posted dir)) h :=
    Stepper.run_history
      (I := fun done s => Books h₀ (fun dir => done.flatMap (Event.posted dir)) s)
      (fun done s a s' hb heq => by simpa using hb.event heq) hf.books hrun
  exact hbooks

/-- Exactly one completion for each posted operation, in order: after every run of
calls, in any connection state and over any ring contents, and for each direction,

* the operations completed, followed by those queued, are those posted;
* the contexts in the entries for the completions, followed by those queued, are the
  contexts posted;
* a bound completion queue has got one entry for each completion, an error entry
  exactly for the receives that were too small, with the lengths adding up;
* a bound counter has got one increment for each completion. -/
theorem accounting {h₀ h : Host} (hfresh : Fresh h₀) {events : List Event}
    (hrun : Stepper.run event h₀ events = some h) :
    (∀ dir, h.done dir ++ (h.queue dir).contents = events.flatMap (Event.posted dir))
      ∧ (∀ dir, h.contexts dir ++ (h.queue dir).contents.map MsgQueueEntry.context
        = (events.flatMap (Event.posted dir)).map MsgQueueEntry.context)
      ∧ (∀ q, (h.cqs q).eventQueue
            = (h₀.cqs q).eventQueue ++ entriesFor h₀.ep.cq h.completed q true
          ∧ (h.cqs q).errorQueue
            = (h₀.cqs q).errorQueue ++ entriesFor h₀.ep.cq h.completed q false)
      ∧ (∀ k, (h.cntrs k).counter
            = (h₀.cntrs k).counter + incrementsFor h₀.ep.cntr h.completed k true
          ∧ (h.cntrs k).err = (h₀.cntrs k).err + incrementsFor h₀.ep.cntr h.completed k false)
      ∧ ∀ c ∈ h.completed, (c.dir = .send → c.entry.err = .success)
          ∧ (c.dir = .recv → (c.entry.err = .etoosmall ↔ c.op.len < c.msgSize)
            ∧ c.entry.len.toNat + c.entry.olen.toNat = c.msgSize.toNat) := by
  have hbooks := hfresh.books_run hrun
  have hcontexts (dir : Direction) : h.contexts dir
      ++ (h.queue dir).contents.map MsgQueueEntry.context
        = (events.flatMap (Event.posted dir)).map MsgQueueEntry.context := by
    rw [contexts_eq, ← List.map_append, hbooks.order dir]
  refine ⟨hbooks.order, hcontexts, fun q => ⟨hbooks.events q, hbooks.errors q⟩,
    fun k => ⟨hbooks.counter k, hbooks.err k⟩, fun c hc => ⟨fun hdir => ?_, fun hdir => ?_⟩⟩
  · rw [Completed.err_entry, Completed.err, hdir]
  · exact (hbooks.exact c hc).recv hdir

/-- An endpoint connected to itself: two sends, of which the second finds no space,
and two receives, of which the second finds nothing. -/
def fourPosts : List Event :=
  [.call (.dpaSend (fun i => UInt8.ofNat i) 3 1), .call (.dpaSend (fun i => UInt8.ofNat i) 9 2),
    .call (.dpaRecv (fun _ => 0) 2 3), .call (.dpaRecv (fun _ => 0) 2 4),
    .call (.processRecvQueue false)]

theorem accounting_fourPosts :
    ∃ h, Stepper.run event (established 24 ⟨1, 0, 0⟩ ⟨1, 0, 0⟩) fourPosts = some h
      ∧ h.contexts .send ++ (h.queue .send).contents.map MsgQueueEntry.context = [1, 2]
      ∧ h.contexts .recv ++ (h.queue .recv).contents.map MsgQueueEntry.context = [3, 4]
      ∧ (h.cqs 0).errorQueue = [⟨3, fiMsg ||| fiRecv, 2, 0, 1, .etoosmall, .ok⟩] := by
  have herrors : (Stepper.run event (established 24 ⟨1, 0, 0⟩ ⟨1, 0, 0⟩) fourPosts).map
      (fun h => entriesFor (established 24 ⟨1, 0, 0⟩ ⟨1, 0, 0⟩).ep.cq h.completed 0 false)
      = some [⟨3, fiMsg ||| fiRecv, 2, 0, 1, .etoosmall, .ok⟩] := by decide +kernel
  obtain ⟨h, hrun, hh⟩ := Option.map_eq_some_iff.1 herrors
  have hfresh : Fresh (established 24 ⟨1, 0, 0⟩ ⟨1, 0, 0⟩) :=
    ⟨fun _ => MsgQueue.contents_new _, rfl⟩
  obtain ⟨-, hcontexts, hcqs, -⟩ := accounting hfresh hrun
  refine ⟨h, hrun, ?_, ?_, ?_⟩
  · rw [hcontexts .send]
    rfl
  · rw [hcontexts .recv]
    rfl
  · rw [(hcqs 0).2, hh]
    rfl

end Host

end DpaProvider
