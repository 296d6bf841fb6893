import PagedMemory.Proofs.Session.History

/-! Accessors over time. However long ago an accessor was linked and whatever happened
since, it answers exactly for pages of its kind in the table that it was linked for, as long
as that is the current one of its space; then it does what a plain access does. -/

set_option autoImplicit false

namespace PagedMemory.Session

/-- The accessors of a run: those that were linked at one of its moments, and those that
the session keeps or one of its sites has cached. -/
inductive Produced (h : List Memory) (x : Session) : Linked → Prop where
  | linked {a : Linked} {m : Memory} {s : SpaceId} {op : Operation} {sig : Signature}
      {vs : List Value} (hm : m ∈ h) (ha : (m.link s op sig vs).1 = .ok (some a)) :
      Produced h x a
  | kept {a : Linked} (ha : a ∈ x.accessors) : Produced h x a
  | cached {sh : Shape} {site : CallSite sh} {g : Guard} (hs : ⟨sh, site⟩ ∈ x.sites)
      (hg : site.linked = some g) : Produced h x ⟨sh, g⟩

theorem Produced.published {h : List Memory} {x : Session} {l : Ledger} {a : Linked}
    (ha : Produced h x a) (hk : x.Keeps (Published h) l) :
    Published h a.guard.owner a.guard.table := by
  cases ha with
  | @linked a m s op sig vs hm hl =>
    obtain ⟨hs, kind, hg⟩ := Memory.guard_of_link hl
    rw [hg]
    exact ⟨m, hm, hs, rfl⟩
  | kept hmem => exact hk.accessors _ hmem
  | cached hs hg => exact hk.sites _ hs _ hg

/-- An accessor answers a value exactly when its space and its table are the ones at hand
and the page has its kind; the value and what is stored are then those of a plain access.
Otherwise it asks to be linked again and changes nothing at all. -/
theorem invoke_iff (origin : Nat) (options : EventLog.Options) (supply : Supply)
    (sts : List Step) {a : Linked}
    (ha : Produced ((start origin options supply).history sts)
      ((start origin options supply).run sts).2 a)
    (s : SpaceId) (args : a.shape.Args) :
    let m := ((start origin options supply).run sts).2.memory
    ((∃ v, (m.invoke s a.guard a.shape args).1 = .value v) ↔
      a.guard.owner = s ∧ a.guard.table = m.table s ∧
        ∃ p, (m.table s).page? (a.shape.page args) = some p ∧ p.kind = a.guard.kind) ∧
    (∀ v m', m.invoke s a.guard a.shape args = (.value v, m') →
      m.plain s a.shape args = (.ok v, m')) ∧
    (∀ m', m.invoke s a.guard a.shape args = (.relink, m') → m' = m) := by
  intro m
  have hf := fits_run origin options supply sts
  have hm : m.Sound := hf.sound
  have hg : m.Past a.guard.owner a.guard.table :=
    past_of_published_run (ha.published hf.known)
  cases hserved : a.guard.served? m s (a.shape.page args) with
  | none =>
    rw [Memory.invoke_of_not_served hserved]
    refine ⟨⟨?_, ?_⟩, ?_, ?_⟩
    · rintro ⟨v, hv⟩
      contradiction
    · rintro ⟨ho, ht, p, hp, hkind⟩
      have hsome := (Guard.served?_eq_some_iff hm hg).mpr ⟨ho, ht, hp, hkind⟩
      rw [hserved] at hsome
      contradiction
    · intro v m' hv
      simp at hv
    · intro m' hv
      exact (Prod.mk.inj hv).2.symm
  | some p =>
    obtain ⟨ho, ht, hp, hkind⟩ := (Guard.served?_eq_some_iff hm hg).mp hserved
    rw [Memory.invoke_of_served hserved, Memory.plain_of_page hp]
    refine ⟨⟨?_, ?_⟩, ?_, ?_⟩
    · intro _
      exact ⟨ho, ht, p, hp, hkind⟩
    · intro _
      exact ⟨_, rfl⟩
    · intro v m' hv
      simp only [Prod.mk.injEq, Access.value.injEq] at hv
      rw [hv.1, hv.2]
    · intro m' hv
      simp at hv

/-- A setter that was linked for one heap page writes another one like the space does, and
asks to be linked again for a direct page. -/
theorem invoke_other_page :
    let sts : List Step := [.openDefault, .allocate 0 (some .heap), .allocate 0 (some .heap),
      .allocate 0 (some .direct),
      .link 0 "SET:ELEMENT:memory" .elementSet [.address 0, .int 0] false]
    let x := ((start 1 {}).run sts).2
    ∃ a, x.accessors[0]? = some ⟨.setElement, a⟩ ∧
      (∃ v, (x.memory.invoke 0 a .setElement (4096, 5)).1 = .value v) ∧
      ¬ ∃ v, (x.memory.invoke 0 a .setElement (8192, 5)).1 = .value v := by
  intro sts x
  refine ⟨_, rfl, ?_, ?_⟩
  · have ha : Produced ((start 1 {}).history sts) x ⟨.setElement, _⟩ :=
      .kept (Array.mem_of_getElem? (i := 0) rfl)
    exact (invoke_iff 1 {} .unlimited sts ha 0 (4096, 5)).1.mpr ⟨rfl, rfl, _, rfl, rfl⟩
  · have ha : Produced ((start 1 {}).history sts) x ⟨.setElement, _⟩ :=
      .kept (Array.mem_of_getElem? (i := 0) rfl)
    rw [(invoke_iff 1 {} .unlimited sts ha 0 (8192, 5)).1]
    rintro ⟨_, _, p, hp, hkind⟩
    cases hp
    contradiction

end PagedMemory.Session
