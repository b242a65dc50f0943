import DpaProvider.Cm.Footprint

/-!
A process with its endpoints.

The endpoints and the passive endpoints of a process share everything else in a site: the event
queues, the table of data segments, the library.  A call is run on the site with its endpoint put in
place (`onEp`, `onPep`).  Reading an event queue runs the function in its progress slot
(`makeQueueProgress`).
-/

namespace DpaProvider

open Effect Site

/-- The endpoints by number; `site` is the rest. -/
structure Process where
  site : Site
  eps : ℕ → Endpoint
  peps : ℕ → PassiveEp

namespace Process

variable {p p' : Process} {k : ℕ} {α : Type} {a : α} {m : Prog α}

/-- The site with an endpoint in place. -/
def withEp (p : Process) (k : ℕ) : Site := { p.site with host.ep := p.eps k }

def withPep (p : Process) (k : ℕ) : Site := { p.site with pep := p.peps k }

/-- A call on an endpoint. -/
def onEp (p : Process) (k : ℕ) (m : Prog α) : Except Stuck (α × Process) :=
  (m (p.withEp k)).map fun r =>
    (r.1, { p with site := r.2, eps := Function.update p.eps k r.2.host.ep })

/-- A call on a passive endpoint. -/
def onPep (p : Process) (k : ℕ) (m : Prog α) : Except Stuck (α × Process) :=
  (m (p.withPep k)).map fun r =>
    (r.1, { p with site := r.2, peps := Function.update p.peps k r.2.pep })

lemma onEp_ok (h : p.onEp k m = .ok (a, p')) : ∃ s, m (p.withEp k) = .ok (a, s)
    ∧ p' = { p with site := s, eps := Function.update p.eps k s.host.ep } := by
  obtain ⟨⟨b, s⟩, hrun, heq⟩ := Except.map_eq_ok h
  obtain ⟨rfl, rfl⟩ := Prod.mk.inj heq
  exact ⟨s, hrun, rfl⟩

lemma onPep_ok (h : p.onPep k m = .ok (a, p')) : ∃ s, m (p.withPep k) = .ok (a, s)
    ∧ p' = { p with site := s, peps := Function.update p.peps k s.pep } := by
  obtain ⟨⟨b, s⟩, hrun, heq⟩ := Except.map_eq_ok h
  obtain ⟨rfl, rfl⟩ := Prod.mk.inj heq
  exact ⟨s, hrun, rfl⟩

/-- `make_queue_progress`, for an event queue. -/
def makeQueueProgress (p : Process) (q : ℕ) (timeout : ℤ) : Except Stuck (ℤ × Process) :=
  match (p.site.eqs q).progress with
  | none => .ok (timeout, p)
  | some (.progressPepEq k) => p.onPep k (progressPepEq timeout)
  | some (.progressEpEq k) => p.onEp k (progressEpEq timeout)

/-- The endpoints go by their numbers. -/
structure Numbered (p : Process) : Prop where
  ep : ∀ k, (p.eps k).fid = k
  pep : ∀ k, (p.peps k).fid = k

/-- A process with a library that grants every call; its message endpoints were opened for node 2,
and all of its endpoints are on the event queue 0. -/
def granted : Process where
  site := Site.granted (opened 0 fiMsg ⟨2, 7⟩)
  eps k := (opened k fiMsg ⟨2, 7⟩).ep
  peps k := { fid := k, eq := some 0, sd := none, interruptId := 9, interrupt := none }

lemma numbered_granted : granted.Numbered := ⟨fun _ => rfl, fun _ => rfl⟩

end Process

end DpaProvider
