import DpaProvider.Lifetimes.Objects

/-!
What the references of an object have to be like, class by class.

* `Bound`: an endpoint is bound to open objects of its own domain and fabric;
* `bound_of_fits`, `Bound.fits`, `fits_queue`, `fits_eq`, `fits_pep`, `fits_member`: the references
  of each class in terms of the fields that hold them.
-/

namespace DpaProvider

open Arena

namespace Objects

variable {a : Objects} {n k d f : ℕ} {o : Fid}

lemma cls_domain (h : o.cls.1 = .domain) : ∃ x, o = .domain x := by
  cases o <;> simp_all [Fid.cls]

lemma cls_eq (h : o.cls.1 = .eq) : ∃ x, o = .eq x := by
  cases o <;> simp_all [Fid.cls]

lemma cls_pep (h : o.cls.1 = .pep) : ∃ x, o = .pep x := by
  cases o <;> simp_all [Fid.cls]

lemma cls_ep (h : o.cls.1 = .ep) : ∃ x, o = .ep x := by
  cases o <;> simp_all [Fid.cls]

lemma cls_cq (h : o.cls = (.cq, d)) : ∃ x : FidQueue, o = .cq x ∧ x.domain = d := by
  cases o <;> simp_all [Fid.cls]

lemma cls_cntr (h : o.cls = (.cntr, d)) : ∃ x : FidQueue, o = .cntr x ∧ x.domain = d := by
  cases o <;> simp_all [Fid.cls]

lemma cls_av (h : o.cls = (.av, d)) : o = .av d := by
  cases o <;> simp_all [Fid.cls]

lemma cls_mr (h : o.cls = (.mr, d)) : o = .mr d := by
  cases o <;> simp_all [Fid.cls]

/-- A domain that is open. -/
def HasDomain (a : Objects) (d : ℕ) : Prop := ∃ x, Open a d (.domain x)

/-- An event queue of a fabric that is open. -/
def HasEq (a : Objects) (f q : ℕ) : Prop := ∃ x : FidEq, Open a q (.eq x) ∧ x.fabric = f

/-- What an endpoint is bound to is open and of its own domain, and of the fabric of its domain. -/
structure Bound (a : Objects) (e : FidEp) : Prop where
  domain : ∃ x, Open a e.domain (.domain x) ∧ ∀ q, e.eq = some q → HasEq a x.fabric q
  cqs : ∀ c, some c ∈ [e.sendCq, e.recvCq, e.readCq, e.writeCq] →
    ∃ x : FidQueue, Open a c (.cq x) ∧ x.domain = e.domain
  cntrs : ∀ c, some c ∈ [e.sendCntr, e.recvCntr, e.readCntr, e.writeCntr] →
    ∃ x : FidQueue, Open a c (.cntr x) ∧ x.domain = e.domain
  av : ∀ v, e.av = some v → Open a v (.av e.domain)
  mr : ∀ m, e.mr = some m → Open a m (.mr e.domain)

lemma mem_refs {l : List (Option ℕ)} {expects : FidClass × ℕ → Prop}
    {r : Ref (FidClass × ℕ)} :
    r ∈ Fid.refs l expects ↔ some r.target ∈ l ∧ r.expects = expects := by
  simp only [Fid.refs, List.mem_map, List.reduceOption_mem_iff]
  constructor
  · rintro ⟨n, hn, rfl⟩
    exact ⟨hn, rfl⟩
  · rintro ⟨hn, rfl⟩
    exact ⟨r.target, hn, rfl⟩

/-- What an endpoint holds. -/
lemma mem_held {e : FidEp} {r : Ref (FidClass × ℕ)} : r ∈ Fid.shape.held (.ep e) ↔
    (some r.target ∈ [some e.domain] ∧ r.expects = (·.1 = .domain))
    ∨ (some r.target ∈ [e.eq] ∧ r.expects = (·.1 = .eq))
    ∨ (some r.target ∈ [e.sendCq, e.recvCq, e.readCq, e.writeCq]
      ∧ r.expects = (· = (.cq, e.domain)))
    ∨ (some r.target ∈ [e.sendCntr, e.recvCntr, e.readCntr, e.writeCntr]
      ∧ r.expects = (· = (.cntr, e.domain)))
    ∨ (some r.target ∈ [e.av] ∧ r.expects = (· = (.av, e.domain)))
    ∨ (some r.target ∈ [e.mr] ∧ r.expects = (· = (.mr, e.domain))) := by
  simp only [Fid.shape, Fid.held, List.mem_append, mem_refs, or_assoc]

/-- What an endpoint refers to is as it has to be. -/
lemma bound_of_fits {e : FidEp} (h : Fits Fid.shape a (.ep e)) :
    Bound a e ∧ ∀ k, e.pep = some k → ∃ x, a.objects[k]? = some (.pep x) := by
  obtain ⟨hh, hn, ha⟩ := h
  have hdomain : ∃ x, Open a e.domain (.domain x) := by
    obtain ⟨x, hx, hcls⟩ := hh ⟨e.domain, (·.1 = .domain)⟩ (mem_held.2 (.inl (by simp)))
    obtain ⟨x, rfl⟩ := cls_domain hcls
    exact ⟨x, hx⟩
  refine ⟨⟨?_, fun c hc => ?_, fun c hc => ?_, fun v hv => ?_, fun m hm => ?_⟩, fun k hk => ?_⟩
  · obtain ⟨d, hd⟩ := hdomain
    refine ⟨d, hd, fun q hq => ?_⟩
    obtain ⟨x, hx, hcls⟩ := hh ⟨q, (·.1 = .eq)⟩ (mem_held.2 (.inr (.inl (by simp [hq]))))
    obtain ⟨x, rfl⟩ := cls_eq hcls
    obtain ⟨y, z, hy, hz, halike⟩ := ha (q, e.domain) (by simp [Fid.shape, Fid.agree, hq])
    obtain rfl := Option.some.inj (hx.1.symm.trans hy)
    obtain rfl := Option.some.inj (hd.1.symm.trans hz)
    exact ⟨x, hx, halike⟩
  · obtain ⟨x, hx, hcls⟩ := hh ⟨c, (· = (.cq, e.domain))⟩
      (mem_held.2 (.inr (.inr (.inl ⟨hc, rfl⟩))))
    obtain ⟨x, rfl, hdom⟩ := cls_cq hcls
    exact ⟨x, hx, hdom⟩
  · obtain ⟨x, hx, hcls⟩ := hh ⟨c, (· = (.cntr, e.domain))⟩
      (mem_held.2 (.inr (.inr (.inr (.inl ⟨hc, rfl⟩)))))
    obtain ⟨x, rfl, hdom⟩ := cls_cntr hcls
    exact ⟨x, hx, hdom⟩
  · obtain ⟨x, hx, hcls⟩ := hh ⟨v, (· = (.av, e.domain))⟩
      (mem_held.2 (.inr (.inr (.inr (.inr (.inl (by simp [hv])))))))
    exact cls_av hcls ▸ hx
  · obtain ⟨x, hx, hcls⟩ := hh ⟨m, (· = (.mr, e.domain))⟩
      (mem_held.2 (.inr (.inr (.inr (.inr (.inr (by simp [hm])))))))
    exact cls_mr hcls ▸ hx
  · obtain ⟨x, hx, hcls⟩ := hn ⟨k, (·.1 = .pep)⟩ (mem_refs.2 (by simp [hk]))
    obtain ⟨x, rfl⟩ := cls_pep hcls
    exact ⟨x, hx⟩

lemma Bound.fits {e : FidEp} (h : Bound a e)
    (hpep : ∀ k, e.pep = some k → ∃ x, a.objects[k]? = some (.pep x)) :
    Fits Fid.shape a (.ep e) := by
  obtain ⟨⟨d, hd, heq⟩, hcqs, hcntrs, hav, hmr⟩ := h
  refine ⟨fun r hr => ?_, fun r hr => ?_, fun p hp => ?_⟩
  · rcases mem_held.1 hr with ⟨h, hr⟩ | ⟨h, hr⟩ | ⟨h, hr⟩ | ⟨h, hr⟩ | ⟨h, hr⟩ | ⟨h, hr⟩ <;> rw [hr]
    · rw [Option.some.inj (List.mem_singleton.1 h)]
      exact ⟨_, hd, rfl⟩
    · obtain ⟨x, hx, -⟩ := heq r.target (List.mem_singleton.1 h).symm
      exact ⟨_, hx, rfl⟩
    · obtain ⟨x, hx, hdom⟩ := hcqs r.target h
      exact ⟨_, hx, by rw [← hdom]; rfl⟩
    · obtain ⟨x, hx, hdom⟩ := hcntrs r.target h
      exact ⟨_, hx, by rw [← hdom]; rfl⟩
    · exact ⟨_, hav r.target (List.mem_singleton.1 h).symm, rfl⟩
    · exact ⟨_, hmr r.target (List.mem_singleton.1 h).symm, rfl⟩
  · obtain ⟨h, hr⟩ := mem_refs.1 hr
    obtain ⟨x, hx⟩ := hpep r.target (List.mem_singleton.1 h).symm
    exact ⟨_, hx, by rw [hr]; rfl⟩
  · obtain ⟨q, hq, rfl⟩ : ∃ q, e.eq = some q ∧ (q, e.domain) = p := by
      simpa [Fid.shape, Fid.agree] using hp
    obtain ⟨x, hx, hfabric⟩ := heq q hq
    exact ⟨_, _, hx.1, hd.1, hfabric⟩

/-- So is what a completion queue or a counter refers to. -/
lemma fits_queue {c : FidQueue} (ho : o = .cq c ∨ o = .cntr c) : Fits Fid.shape a o ↔
    HasDomain a c.domain
      ∧ ∀ k, c.progress.arg = some k → ∃ x, a.objects[k]? = some (.ep x) := by
  have hheld : Fid.shape.held o = Fid.refs [some c.domain] (·.1 = .domain) := by
    rcases ho with rfl | rfl <;> rfl
  have hnoted : Fid.shape.noted o = Fid.refs [c.progress.arg] (·.1 = .ep) := by
    rcases ho with rfl | rfl <;> rfl
  have hagree : Fid.shape.agree o = [] := by
    rcases ho with rfl | rfl <;> rfl
  constructor
  · rintro ⟨hh, hn, -⟩
    refine ⟨?_, fun k hk => ?_⟩
    · obtain ⟨x, hx, hcls⟩ := hh ⟨c.domain, (·.1 = .domain)⟩ (by rw [hheld, mem_refs]; simp)
      obtain ⟨x, rfl⟩ := cls_domain hcls
      exact ⟨x, hx⟩
    · obtain ⟨x, hx, hcls⟩ := hn ⟨k, (·.1 = .ep)⟩ (by rw [hnoted, mem_refs]; simp [hk])
      obtain ⟨x, rfl⟩ := cls_ep hcls
      exact ⟨x, hx⟩
  · rintro ⟨⟨d, hd⟩, harg⟩
    refine ⟨fun r hr => ?_, fun r hr => ?_, fun p hp => by simp [hagree] at hp⟩
    · rw [hheld, mem_refs] at hr
      rw [Option.some.inj (List.mem_singleton.1 hr.1), hr.2]
      exact ⟨_, hd, rfl⟩
    · rw [hnoted, mem_refs] at hr
      obtain ⟨x, hx⟩ := harg r.target (List.mem_singleton.1 hr.1).symm
      exact ⟨_, hx, by rw [hr.2]; rfl⟩

lemma fits_eq {q : FidEq} : Fits Fid.shape a (.eq q) ↔
    ∀ u, q.progress = some u → ∃ x, a.objects[u.fid]? = some x ∧ x.cls.1 = u.cls := by
  have hnoted (u : Progress) (hu : q.progress = some u) :
      Fid.shape.noted (.eq q) = Fid.refs [some u.fid] (·.1 = u.cls) := by
    simp [Fid.shape, Fid.noted, hu]
  constructor
  · rintro ⟨-, hn, -⟩ u hu
    rw [hnoted u hu] at hn
    exact hn ⟨u.fid, (·.1 = u.cls)⟩ (mem_refs.2 ⟨List.mem_singleton.2 rfl, rfl⟩)
  · intro hserves
    refine ⟨fun _ hr => absurd hr List.not_mem_nil, fun r hr => ?_,
      fun _ hp => absurd hp List.not_mem_nil⟩
    cases hu : q.progress with
    | none => simp [Fid.shape, Fid.noted, hu] at hr
    | some u =>
        rw [hnoted u hu, mem_refs] at hr
        rw [hr.2, Option.some.inj (List.mem_singleton.1 hr.1)]
        exact hserves u hu

lemma fits_pep {p : FidPep} :
    Fits Fid.shape a (.pep p) ↔ ∀ q, p.eq = some q → HasEq a p.fabric q := by
  constructor
  · rintro ⟨hh, -, -⟩ q hq
    obtain ⟨x, hx, hcls⟩ := hh ⟨q, (· = (.eq, p.fabric))⟩ (mem_refs.2 (by simp [hq]))
    obtain ⟨x, rfl⟩ := cls_eq (congrArg Prod.fst hcls)
    exact ⟨x, hx, congrArg Prod.snd hcls⟩
  · intro heq
    refine ⟨fun r hr => ?_, fun _ hr => absurd hr List.not_mem_nil,
      fun _ hp => absurd hp List.not_mem_nil⟩
    obtain ⟨hmem, hr⟩ := mem_refs.1 hr
    obtain ⟨x, hx, hfabric⟩ := heq r.target (List.mem_singleton.1 hmem).symm
    exact ⟨_, hx, by rw [hr, ← hfabric]; rfl⟩

lemma fits_domain (x : FidDomain) : Fits Fid.shape a (.domain x) where
  held _ hr := absurd hr List.not_mem_nil
  noted _ hr := absurd hr List.not_mem_nil
  agree _ hp := absurd hp List.not_mem_nil

/-- An address vector or a region. -/
lemma fits_member (ho : o = .av d ∨ o = .mr d) (hd : HasDomain a d) : Fits Fid.shape a o := by
  obtain ⟨x, hx⟩ := hd
  rcases ho with rfl | rfl
  all_goals
    refine ⟨fun r hr => ?_, fun _ hr => absurd hr List.not_mem_nil,
      fun _ hp => absurd hp List.not_mem_nil⟩
    obtain ⟨hmem, hr⟩ := mem_refs.1 hr
    rw [Option.some.inj (List.mem_singleton.1 hmem), hr]
    exact ⟨_, hx, rfl⟩

lemma Is.ep (h : a.Is .ep n) : ∃ e, Open a n (.ep e) := by
  obtain ⟨o, ho, hcls⟩ := h
  obtain ⟨e, rfl⟩ := cls_ep hcls
  exact ⟨e, ho⟩

lemma Is.pep (h : a.Is .pep n) : ∃ p, Open a n (.pep p) := by
  obtain ⟨o, ho, hcls⟩ := h
  obtain ⟨p, rfl⟩ := cls_pep hcls
  exact ⟨p, ho⟩

lemma Is.eq (h : a.Is .eq n) : ∃ q, Open a n (.eq q) := by
  obtain ⟨o, ho, hcls⟩ := h
  obtain ⟨q, rfl⟩ := cls_eq hcls
  exact ⟨q, ho⟩

lemma Is.domain (h : a.Is .domain n) : HasDomain a n := by
  obtain ⟨o, ho, hcls⟩ := h
  obtain ⟨x, rfl⟩ := cls_domain hcls
  exact ⟨x, ho⟩

lemma Is.cq (h : a.Is .cq n) : ∃ c, Open a n (.cq c) := by
  obtain ⟨o, ho, hcls⟩ := h
  obtain ⟨c, rfl, -⟩ := cls_cq (Prod.ext hcls rfl)
  exact ⟨c, ho⟩

lemma Is.cntr (h : a.Is .cntr n) : ∃ c, Open a n (.cntr c) := by
  obtain ⟨o, ho, hcls⟩ := h
  obtain ⟨c, rfl, -⟩ := cls_cntr (Prod.ext hcls rfl)
  exact ⟨c, ho⟩

end Objects

end DpaProvider
