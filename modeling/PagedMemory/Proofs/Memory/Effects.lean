import PagedMemory.BumpAllocator
import PagedMemory.Session.Sweep
import PagedMemory.Proofs.Address
import PagedMemory.Proofs.Memory.Contents

/-! What the operations of a memory do to its storage: whether a page can be had, and
which cells are stored to. Nothing but a write stores anything. -/

set_option autoImplicit false

namespace PagedMemory

theorem Address.cell_eq_iff {s s' : SpaceId} {a b : Address} :
    Address.cell s a = Address.cell s' b ↔ s = s' ∧ a >>> 2 = b >>> 2 := by
  rw [← Address.page_index_eq_iff, cell, cell, Cell.mk.injEq]

namespace Memory

variable {m m' : Memory}

theorem lt_size_of_room {s : SpaceId}
    (room : (m.table s).size < (m.space s).config.maxPages.toNat) : s < m.spaces.size := by
  apply Nat.lt_of_not_le
  intro h
  have hm : m.space s = .missing := by simp [space, Array.getElem?_eq_none h]
  rw [hm] at room
  exact absurd room (Nat.not_lt_zero _)

theorem refusal?_of_grants {s : SpaceId} (h : m.supply.Grants s) (kind : PageKind) :
    m.refusal? s kind = none := by
  cases kind with
  | heap => rfl
  | direct => exact h _

/-- What can become of a request for a page of this kind. -/
inductive Allocates (m : Memory) (s : SpaceId) (kind : PageKind) :
    Except MemoryError Address × Memory → Prop where
  | full {m' : Memory} (full : (m.space s).config.maxPages.toNat ≤ (m.table s).size)
      (hs : m'.storage = m.storage) :
      Allocates m s kind (.error (.addressSpaceExhausted (m.table s).size), m')
  | refused {cause : String} {m' : Memory}
      (room : (m.table s).size < (m.space s).config.maxPages.toNat)
      (hrefused : m.refusal? s kind = some cause) (hs : m'.storage = m.storage) :
      Allocates m s kind (.error (.pageAllocation cause), m')
  | granted {m' : Memory} (room : (m.table s).size < (m.space s).config.maxPages.toNat)
      (hgranted : m.refusal? s kind = none) (hs : m'.storage = (m.extend s kind).storage) :
      Allocates m s kind (.ok (pageStart (UInt32.ofNat (m.table s).size)), m')

theorem allocates_allocatePage (m : Memory) (s : SpaceId) (kind : Option PageKind) :
    Allocates m s (kind.getD (m.space s).config.defaultKind) (m.allocatePage s kind) := by
  simp only [allocatePage]
  by_cases full : (m.space s).config.maxPages.toNat ≤ (m.table s).size
  · rw [if_pos full]
    exact .full full (by simp)
  · have room := Nat.lt_of_not_le full
    rw [if_neg full]
    cases h : m.refusal? s (kind.getD (m.space s).config.defaultKind) with
    | some cause => exact .refused room h (by simp)
    | none => exact .granted room h (by simp [storage_extend])

theorem allocatePage_of_full {s : SpaceId} (kind : Option PageKind)
    (full : (m.space s).config.maxPages.toNat ≤ (m.table s).size) :
    (m.allocatePage s kind).1 = .error (.addressSpaceExhausted (m.table s).size) := by
  have h := allocates_allocatePage m s kind
  generalize m.allocatePage s kind = r at h
  cases h with
  | full _ _ => rfl
  | refused room _ _ | granted room _ _ => exact absurd full (Nat.not_le_of_lt room)

theorem allocatePage_of_room {s : SpaceId} {kind : Option PageKind}
    (room : (m.table s).size < (m.space s).config.maxPages.toNat)
    (hgranted : m.refusal? s (kind.getD (m.space s).config.defaultKind) = none) :
    ∃ base m', m.allocatePage s kind = (.ok base, m') := by
  have h := allocates_allocatePage m s kind
  generalize m.allocatePage s kind = r at h
  cases h with
  | full full _ => exact absurd full (Nat.not_le_of_lt room)
  | refused _ hrefused _ => cases hgranted.symm.trans hrefused
  | granted _ _ _ => exact ⟨_, _, rfl⟩

theorem advance_allocatePage (m : Memory) (s : SpaceId) (kind : Option PageKind) :
    Advance m (m.allocatePage s kind).2 := by
  have h := allocates_allocatePage m s kind
  generalize m.allocatePage s kind = r at h
  cases h with
  | full _ hs | refused _ _ hs => exact .reported hs
  | granted room _ hs => exact .grown s _ (lt_size_of_room room) room hs

theorem config_allocatePage (m : Memory) (s : SpaceId) (kind : Option PageKind) (s' : SpaceId) :
    ((m.allocatePage s kind).2.space s').config = (m.space s').config := by
  have h := allocates_allocatePage m s kind
  generalize m.allocatePage s kind = r at h
  cases h with
  | full _ hs | refused _ _ hs => exact config_congr hs s'
  | granted _ _ hs => rw [config_congr hs, config_extend]

theorem size_table_extend {s : SpaceId} (hs : s < m.spaces.size) (kind : PageKind) :
    ((m.extend s kind).table s).size = (m.table s).size + 1 := by
  rw [table_extend_self hs]
  simp [nextTable, PageTable.extended, PageTable.size]

theorem allocatePage_eq_ok {s : SpaceId} {kind : Option PageKind} {base : Address}
    (h : m.allocatePage s kind = (.ok base, m')) :
    (m.table s).size < (m.space s).config.maxPages.toNat ∧
      base = pageStart (UInt32.ofNat (m.table s).size) ∧
      m'.storage = (m.extend s (kind.getD (m.space s).config.defaultKind)).storage := by
  have hr := allocates_allocatePage m s kind
  rw [h] at hr
  cases hr with
  | granted room _ hs => exact ⟨room, rfl, hs⟩

theorem Sound.size_le (hm : m.Sound) (s : SpaceId) : (m.table s).size ≤ 1048576 := by
  by_cases hs : s < m.spaces.size
  · exact Nat.le_trans (hm.bounded s) (hm.valid s hs).2
  · rw [table_of_size_le m (Nat.le_of_not_lt hs)]
    exact Nat.zero_le _

/-- Page ids have twenty bits, so that no page starts beyond the last address. -/
theorem Sound.toNat_of_allocatePage (hm : m.Sound) {s : SpaceId} {kind : Option PageKind}
    {base : Address} (h : m.allocatePage s kind = (.ok base, m')) :
    base.toNat = 4096 * (m.table s).size ∧ (m'.table s).size = (m.table s).size + 1 := by
  obtain ⟨room, rfl, hs⟩ := allocatePage_eq_ok h
  have hlt := lt_size_of_room room
  have hmax : (m.table s).size < 1048576 := Nat.lt_of_lt_of_le room (hm.valid s hlt).2
  refine ⟨Address.toNat_pageStart hmax, ?_⟩
  rw [table_congr hs, size_table_extend hlt]

theorem advance_reserve (m : Memory) (s : SpaceId) (size : Nat) (kind : Option PageKind) :
    Advance m (m.reserve s size kind).2 := by
  unfold reserve
  split
  · exact .reported (by simp)
  · exact advance_allocatePage m s kind

theorem advance_openValid (m : Memory) {c : Config} (hc : c.Valid) :
    Advance m (m.openValid c).2 := .opened c hc rfl

theorem advance_openSpace (m : Memory) (c : Config) : Advance m (m.openSpace c).2 := by
  unfold openSpace
  split
  · exact .reported rfl
  · rename_i h
    exact advance_openValid m ((Config.validate_eq_ok_iff c).mp h)

theorem advance_close (m : Memory) (s : SpaceId) : Advance m (m.close s) := .closed s rfl

theorem evolves_allocateMany (s : SpaceId) (kinds : Array (Option PageKind)) (n i : Nat)
    (last : Option Address) (m : Memory) : Evolves m [] (m.allocateMany s kinds n i last).2 := by
  induction n generalizing i last m with
  | zero => exact .refl
  | succ n ih =>
    have hstep := (advance_allocatePage m s (kinds[i % kinds.size]?.getD none)).evolves
    unfold allocateMany
    split
    · rename_i a m' h
      rw [h] at hstep
      exact hstep.trans (ih (i + 1) (some a) m')
    · rename_i e m' h
      rw [h] at hstep
      exact hstep

theorem evolves_allocateAll (s : SpaceId) (kind : Option PageKind) (n : Nat) (m : Memory) :
    Evolves m [] (m.allocateAll s kind n).2 := by
  induction n generalizing m with
  | zero => exact .refl
  | succ n ih =>
    exact (advance_allocatePage m s kind).evolves.trans (ih (m.allocatePage s kind).2)

/-- A table of a space, current or past, shows what its cells hold now. -/
theorem Past.readThrough? {s : SpaceId} {t : PageTable} (ht : m.Past s t) {a : Address}
    {v : Int32} (h : m.readThrough? t a = some v) : v = m.contents (a.cell s) := by
  obtain ⟨p, hp, rfl⟩ := Option.map_eq_some_iff.mp h
  exact (contents_of_page (c := a.cell s) (ht.page? hp)).symm

theorem Past.writeThrough? {s : SpaceId} {t : PageTable} (ht : m.Past s t) {a : Address}
    {v : Int32} (h : m.writeThrough? t a v = some m') : Evolves m [(a.cell s, v)] m' := by
  obtain ⟨p, hp, rfl⟩ := Option.map_eq_some_iff.mp h
  exact Evolves.refl.store v (c := a.cell s) (ht.page? hp) rfl

theorem store?_of_lt (p : Page) {n : Nat} (hn : n < elementsPerPage) (v : Int32) :
    m.store? p n v = some (m.store p ⟨n, hn⟩ v) := by
  rw [store?, dif_pos hn]

theorem store?_of_not_lt (p : Page) {n : Nat} (hn : ¬ n < elementsPerPage) (v : Int32) :
    m.store? p n v = none := by
  rw [store?, dif_neg hn]

theorem evolves_store {c : Cell} {p : Page} (hp : m.pageOf? c = some p) (v : Int32) :
    Evolves m [(c, v)] (m.store p c.element v) := Evolves.refl.store v hp rfl

end Memory

namespace BumpAllocator

theorem advance_claim (a : BumpAllocator) (m : Memory) (s : SpaceId) :
    Memory.Advance m (a.claim m s).2.2 := by
  have h := Memory.advance_allocatePage m s (a.policy.kind a.pages.size)
  unfold claim
  split <;> rename_i hr <;> rw [hr] at h
  · exact h
  · exact h.of_storage_eq (by simp)

theorem advance_pageFor (a : BumpAllocator) (m : Memory) (s : SpaceId) (size : Nat) :
    Memory.Advance m (a.pageFor m s size).2.2 := by
  unfold pageFor
  split
  · split
    · exact .reported rfl
    · exact advance_claim a m s
  · exact advance_claim a m s

theorem advance_malloc (a : BumpAllocator) (m : Memory) (s : SpaceId) (size : Nat) :
    Memory.Advance m (a.malloc m s size).2.2 := by
  have h := advance_pageFor a m s (rounded size)
  simp only [malloc]
  split
  · exact .reported rfl
  · split <;> rename_i hr <;> rw [hr] at h
    · exact h
    · exact h

end BumpAllocator

end PagedMemory
