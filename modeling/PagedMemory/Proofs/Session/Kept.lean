import Mathlib.Data.List.Forall2
import PagedMemory.Proofs.Memory.Effects
import PagedMemory.Proofs.Session.Sweep

/-! What a session keeps, and how its steps account for it. Whatever tables a client holds,
alone, in accessors, in call sites or through a page, are tables that it was given; and the
stores of a step are those that the ledger has for it. -/

set_option autoImplicit false

namespace PagedMemory

theorem forall₂_getElem? {α β : Type} {R : α → β → Prop} {as : List α} {bs : List β}
    (h : List.Forall₂ R as bs) {i : Nat} {a : α} (ha : as[i]? = some a) :
    ∃ b, bs[i]? = some b ∧ R a b := by
  obtain ⟨hi, rfl⟩ := List.getElem?_eq_some_iff.mp ha
  have hi' : i < bs.length := h.length_eq ▸ hi
  exact ⟨bs[i], List.getElem?_eq_getElem hi', h.get hi hi'⟩

theorem Memory.lt_size_of_isOpen {m : Memory} {s : SpaceId} (h : (m.space s).isOpen = true) :
    s < m.spaces.size := by
  apply Nat.lt_of_not_le
  intro hle
  simp [Memory.space, Array.getElem?_eq_none hle, Space.missing] at h

theorem Shape.args?_eq_some {sh : Shape} {vs : List Value} {args : sh.Args}
    (h : sh.args? vs = some args) : vs = sh.values args := by
  unfold args? at h
  split at h
  · cases h; rfl
  · cases h; rfl
  · cases h; rfl
  · contradiction

namespace Session

variable {K : SpaceId → PageTable → Prop} {x : Session} {l : Ledger}

/-- All that a session holds on to is known, and the ledger says where it is from. -/
structure Keeps (K : SpaceId → PageTable → Prop) (x : Session) (l : Ledger) : Prop where
  snapshots : List.Forall₂ (fun t s => K s t) x.snapshots.toList l.owners
  handles : List.Forall₂ (fun p o => ∃ t, K o.1 t ∧ t.page? o.2 = some p)
    x.handles.toList l.origins
  accessors : ∀ a ∈ x.accessors, K a.guard.owner a.guard.table
  sites : ∀ site ∈ x.sites, site.2.Bound K
  named : ∀ site ∈ x.sites, Operation.parse site.2.name = .ok site.2.operation

theorem Keeps.mono {K' : SpaceId → PageTable → Prop} (h : x.Keeps K l)
    (hK : ∀ s t, K s t → K' s t) : x.Keeps K' l where
  snapshots := h.snapshots.imp fun t s => hK s t
  handles := h.handles.imp fun _ o => fun ⟨t, ht, hp⟩ => ⟨t, hK o.1 t ht, hp⟩
  accessors := fun a ha => hK _ _ (h.accessors a ha)
  sites := fun site hs g hg => hK _ _ (h.sites site hs g hg)
  named := h.named

theorem Keeps.snapshot (h : x.Keeps K l) {i : Nat} {t : PageTable}
    (ht : x.snapshots[i]? = some t) : ∃ s, l.owners[i]? = some s ∧ K s t :=
  forall₂_getElem? h.snapshots (by simpa using ht)

theorem Keeps.handle (h : x.Keeps K l) {i : Nat} {p : Page} (hp : x.handles[i]? = some p) :
    ∃ s q t, l.origins[i]? = some (s, q) ∧ K s t ∧ t.page? q = some p := by
  obtain ⟨⟨s, q⟩, ho, t, ht, hq⟩ := forall₂_getElem? h.handles (by simpa using hp)
  exact ⟨s, q, t, ho, ht, hq⟩

structure Fits (K : SpaceId → PageTable → Prop) (x : Session) (l : Ledger) : Prop where
  sound : x.memory.Sound
  past : x.Keeps x.memory.Past l
  known : x.Keeps K l
  current : ∀ s < x.memory.spaces.size, K s (x.memory.table s)

theorem Fits.mono {K' : SpaceId → PageTable → Prop} (h : x.Fits K l)
    (hK : ∀ s t, K s t → K' s t) : x.Fits K' l :=
  ⟨h.sound, h.past, h.known.mono hK, fun s hs => hK s _ (h.current s hs)⟩

structure Grows (x y : Session) : Prop where
  snapshots : x.snapshots.toList <+: y.snapshots.toList
  handles : x.handles.toList <+: y.handles.toList
  accessors : x.accessors.toList <+: y.accessors.toList

theorem Grows.refl (x : Session) : x.Grows x :=
  ⟨List.prefix_rfl, List.prefix_rfl, List.prefix_rfl⟩

theorem Grows.trans {y z : Session} (h : x.Grows y) (h' : y.Grows z) : x.Grows z :=
  ⟨h.snapshots.trans h'.snapshots, h.handles.trans h'.handles, h.accessors.trans h'.accessors⟩

/-- A step with this result gives nothing up and does what the ledger has for it. -/
structure Taken (K : SpaceId → PageTable → Prop) (x : Session) (l : Ledger) (st : Step)
    (r : Outcome × Session) : Prop where
  evolves : x.memory.Evolves (l.written r.1 st) r.2.memory
  grows : x.Grows r.2
  keeps : r.2.Keeps K (l.after st r.1)

theorem onSpace_induction {P : Outcome × Session → Prop} {s : SpaceId}
    {f : Memory → Outcome × Session} (misuse : P (.misuse, x))
    (isOpen : (x.memory.space s).isOpen = true → P (f x.memory)) : P (x.onSpace s f) := by
  unfold onSpace
  split
  · rename_i h
    exact isOpen h
  · exact misuse

theorem onKept_induction {P : Outcome × Session → Prop} {α : Type} {kept : Option α}
    {f : α → Outcome × Session} (misuse : P (.misuse, x))
    (found : ∀ v, kept = some v → P (f v)) : P (x.onKept kept f) := by
  unfold onKept
  split
  · exact found _ rfl
  · exact misuse

section Results
variable {st : Step} {o : Outcome} {m' : Memory} {w : List (Cell × Int32)}

theorem Keeps.after (h : x.Keeps K l) (ho : Ledger.keptOwner o st = [])
    (hg : l.keptOrigin o st = []) : x.Keeps K (l.after st o) := by
  refine ⟨?_, ?_, h.accessors, h.sites, h.named⟩
  · simpa [Ledger.after, ho] using h.snapshots
  · simpa [Ledger.after, hg] using h.handles

theorem Fits.memory (h : x.Fits K l) (he : x.memory.Evolves w m') (hw : l.written o st = w)
    (ho : Ledger.keptOwner o st = []) (hg : l.keptOrigin o st = []) :
    Taken K x l st (o, { x with memory := m' }) := by
  refine ⟨hw ▸ he, ⟨List.prefix_rfl, List.prefix_rfl, List.prefix_rfl⟩, ?_⟩
  have hk := h.known.after ho hg
  exact ⟨hk.snapshots, hk.handles, hk.accessors, hk.sites, hk.named⟩

theorem Fits.same (h : x.Fits K l) (hw : l.written o st = [])
    (ho : Ledger.keptOwner o st = []) (hg : l.keptOrigin o st = []) : Taken K x l st (o, x) :=
  h.memory .refl hw ho hg

theorem Fits.misuse (h : x.Fits K l) (st : Step) : Taken K x l st (.misuse, x) := by
  apply h.same
  · cases st <;> simp [Ledger.written, Outcome.isDone, Outcome.isTrue, Outcome.reached,
      Ledger.fillWrites]
  · cases st <;> simp [Ledger.keptOwner, Outcome.keepsTable]
  · cases st <;> simp [Ledger.keptOrigin, Outcome.keepsPage]

theorem Fits.site (h : x.Fits K l) (he : x.memory.Evolves w m') (hw : l.written o st = w)
    (ho : Ledger.keptOwner o st = []) (hg : l.keptOrigin o st = []) (i : Nat)
    {site : Sigma CallSite} (hb : site.2.Bound K)
    (hn : Operation.parse site.2.name = .ok site.2.operation) :
    Taken K x l st (o, { x with memory := m', sites := x.sites.setIfInBounds i site }) := by
  refine ⟨hw ▸ he, ⟨List.prefix_rfl, List.prefix_rfl, List.prefix_rfl⟩, ?_⟩
  have hk := h.known.after ho hg
  refine ⟨hk.snapshots, hk.handles, hk.accessors, ?_, ?_⟩
  · intro site' hs
    rcases Array.mem_or_eq_of_mem_setIfInBounds hs with hs | rfl
    · exact hk.sites site' hs
    · exact hb
  · intro site' hs
    rcases Array.mem_or_eq_of_mem_setIfInBounds hs with hs | rfl
    · exact hk.named site' hs
    · exact hn

theorem Fits.accessor (h : x.Fits K l) (he : x.memory.Evolves w m') (hw : l.written o st = w)
    (ho : Ledger.keptOwner o st = []) (hg : l.keptOrigin o st = []) {a : Linked}
    (ha : K a.guard.owner a.guard.table) :
    Taken K x l st (o, { x with memory := m', accessors := x.accessors.push a }) := by
  refine ⟨hw ▸ he, ⟨List.prefix_rfl, List.prefix_rfl, by simp⟩, ?_⟩
  have hk := h.known.after ho hg
  refine ⟨hk.snapshots, hk.handles, ?_, hk.sites, hk.named⟩
  intro b hb
  rcases Array.mem_push.mp hb with hb | rfl
  · exact hk.accessors b hb
  · exact ha

theorem Taken.keepPage {y : Session} {s : SpaceId} {q : PageId} {t : PageTable} {p : Page}
    (h : Taken K x l st (o, y)) (hw : l.written o st = l.written (y.keepPage p).1 st)
    (ho : Ledger.keptOwner (y.keepPage p).1 st = Ledger.keptOwner o st)
    (hold : l.keptOrigin o st = []) (hg : l.keptOrigin (y.keepPage p).1 st = [(s, q)])
    (ht : K s t) (hp : t.page? q = some p) : Taken K x l st (y.keepPage p) := by
  have hgrows : y.Grows (y.keepPage p).2 :=
    ⟨List.prefix_rfl, by simp [Session.keepPage], List.prefix_rfl⟩
  refine ⟨hw ▸ h.evolves, h.grows.trans hgrows, ?_⟩
  have hk := h.keeps
  refine ⟨?_, ?_, hk.accessors, hk.sites, hk.named⟩
  · have hs : List.Forall₂ (fun t s => K s t) y.snapshots.toList (l.owners ++ _) := hk.snapshots
    rw [← ho] at hs
    exact hs
  · have hh : List.Forall₂ (fun p o => ∃ t, K o.1 t ∧ t.page? o.2 = some p)
        y.handles.toList l.origins := by simpa [Ledger.after, hold] using hk.handles
    have hone : ∃ t, K (s, q).1 t ∧ t.page? (s, q).2 = some p := ⟨t, ht, hp⟩
    have happend := List.rel_append hh (.cons hone .nil)
    have hg' : l.keptOrigin (.page p (some y.handles.size)) st = [(s, q)] := hg
    simpa [Ledger.after, hg', Session.keepPage] using happend

end Results

end Session

end PagedMemory
