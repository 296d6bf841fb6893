import PagedMemory.Proofs.BumpAllocator

/-! The pages of an allocator in the space that it is used with. They ascend, so that the one it
cuts from is the last of them, and each has the kind that the policy gives to its place. What a
request is granted begins in one of them, except where no bytes are asked of a page that is cut
to its end. -/

set_option autoImplicit false

namespace PagedMemory

theorem Address.toNat_pageStart_page (a : Address) :
    (pageStart a.page).toNat = 4096 * (a.toNat / 4096) := by
  have hstart := toNat_pageStart (toNat_page_lt a)
  rw [UInt32.ofNat_toNat, toNat_page] at hstart
  exact hstart

namespace Memory

variable {m m' : Memory} {s : SpaceId} {kind : PageKind} {p : PageId}

theorem Past.kindOf? {t : PageTable} (ht : m.Past s t) (hk : t.kindOf? p = some kind) :
    (m.table s).kindOf? p = some kind := by
  have hi := List.prefix_iff_getElem?.mp ht.isPrefix.1 p.toNat
  obtain ⟨hlt, rfl⟩ := Array.getElem?_eq_some_iff.mp hk
  simpa [PageTable.kindOf?] using hi hlt

theorem Sound.kindOf?_allocatePage (hm : m.Sound) {kind : Option PageKind} {base : Address}
    (h : m.allocatePage s kind = (.ok base, m')) :
    (m'.table s).kindOf? base.page = some (kind.getD (m.space s).config.defaultKind) := by
  have hbase := (hm.toNat_of_allocatePage h).1
  obtain ⟨room, _, hs⟩ := allocatePage_eq_ok h
  have hpage : base.page.toNat = (m.table s).kinds.size := by
    rw [Address.toNat_page, hbase, (hm.aligned s).kinds, Array.size_map, PageTable.size]
    omega
  rw [table_congr hs, table_extend_self (lt_size_of_room room)]
  simp [nextTable, PageTable.extended, PageTable.kindOf?, hpage]

theorem storage_of_allocatePage {kind : Option PageKind} {e : MemoryError}
    (h : m.allocatePage s kind = (.error e, m')) : m'.storage = m.storage := by
  have hr := allocates_allocatePage m s kind
  rw [h] at hr
  cases hr with
  | full _ hs | refused _ _ hs => exact hs

end Memory

namespace BumpAllocator

variable {a a' : BumpAllocator} {m m' : Memory} {s : SpaceId} {size : Nat} {base p : Address}

/-- The pages of an allocator that is used with this space alone. -/
structure Housed (a : BumpAllocator) (m : Memory) (s : SpaceId) : Prop where
  placed : a.Placed (m.table s).size
  ascending : a.pages.toList.Pairwise fun base base' => base.toNat < base'.toNat
  kinds : ∀ {i : Nat} {base : Address}, a.pages[i]? = some base →
    (m.table s).kindOf? base.page = some ((a.policy.kind i).getD (m.space s).config.defaultKind)

theorem housed_new (policy : PagePolicy) (m : Memory) (s : SpaceId) :
    Housed ⟨policy, none, 0, #[]⟩ m s :=
  ⟨placed_new policy _, .nil, fun h => by simp at h⟩

theorem Housed.evolves (h : a.Housed m s) (hm : m.Sound) {w : List (Cell × Int32)}
    (he : m.Evolves w m') : a.Housed m' s where
  placed := h.placed.mono (he.size_le hm s)
  ascending := h.ascending
  kinds := by
    intro i base hi
    have hk := h.kinds hi
    have hs := Memory.lt_size_of_kind hk
    rw [he.config hm hs]
    exact (he.past hm (hm.past_table hs)).kindOf? hk

theorem Housed.claim (h : a.Housed m s) (hm : m.Sound) {m₁ : Memory}
    (hr : m.allocatePage s (a.policy.kind a.pages.size) = (.ok base, m₁))
    (hs : m'.storage = m₁.storage) {r : Nat} (hle : r ≤ 4096) (hmod : r % 4 = 0) :
    Housed { a with current := some base, top := r, pages := a.pages.push base } m' s := by
  obtain ⟨hbase, hgrown⟩ := hm.toNat_of_allocatePage hr
  have hadvance := Memory.advance_allocatePage m s (a.policy.kind a.pages.size)
  rw [hr] at hadvance
  have hold := h.evolves hm (hadvance.of_storage_eq hs).evolves
  have hconfig := Memory.config_allocatePage m s (a.policy.kind a.pages.size) s
  rw [hr] at hconfig
  refine ⟨?_, ?_, ?_⟩
  · rw [Memory.table_congr hs, hgrown]
    exact h.placed.claim hbase hle hmod
  · rw [Array.toList_push]
    refine List.pairwise_append.mpr ⟨h.ascending, List.pairwise_singleton _ _, ?_⟩
    intro base₁ hmem base₂ hlast
    obtain rfl := List.mem_singleton.mp hlast
    obtain ⟨k, hk, hstart⟩ := h.placed.starts base₁ (Array.mem_toList_iff.mp hmem)
    omega
  · intro i base' hi
    rw [Array.getElem?_push] at hi
    split at hi
    · rename_i hlast
      obtain rfl := Option.some.inj hi
      rw [Memory.table_congr hs, Memory.config_congr hs, hconfig, hm.kindOf?_allocatePage hr, hlast]
    · exact hold.kinds hi

theorem Housed.malloc (h : a.Housed m s) (hm : m.Sound) (size : Nat) :
    (a.malloc m s size).2.1.Housed (a.malloc m s size).2.2 s := by
  have hanswer := answers_malloc a m s size
  have hadvance := advance_malloc a m s size
  generalize a.malloc m s size = r at hanswer hadvance
  have hmod := rounded_mod size
  cases hanswer with
  | tooLarge large => exact h
  | refused fits hr => exact h.evolves hm hadvance.evolves
  | cut fits hc left => exact ⟨h.placed.cut hc left hmod, h.ascending, h.kinds⟩
  | claimed fits needed hr hs => exact h.claim hm hr hs (rounded_le fits) hmod

structure Sole (a : BumpAllocator) (m : Memory) (s : SpaceId) : Prop where
  housed : a.Housed m s
  count : a.pages.size = (m.table s).size
  starts : ∀ {i : Nat} {base : Address}, a.pages[i]? = some base → base.toNat = 4096 * i

theorem sole_new (policy : PagePolicy) (hempty : (m.table s).size = 0) :
    Sole ⟨policy, none, 0, #[]⟩ m s :=
  ⟨housed_new policy m s, hempty.symm, fun h => by simp at h⟩

theorem Sole.malloc (h : a.Sole m s) (hm : m.Sound) (size : Nat) :
    (a.malloc m s size).2.1.Sole (a.malloc m s size).2.2 s := by
  have hhoused := h.housed.malloc hm size
  have hanswer := answers_malloc a m s size
  generalize a.malloc m s size = r at hhoused hanswer
  cases hanswer with
  | tooLarge large => exact h
  | refused fits hr =>
    have htable := Memory.table_congr (Memory.storage_of_allocatePage hr) s
    exact ⟨hhoused, htable ▸ h.count, h.starts⟩
  | cut fits hc left => exact ⟨hhoused, h.count, h.starts⟩
  | claimed fits needed hr hs =>
    obtain ⟨hbase, hgrown⟩ := hm.toNat_of_allocatePage hr
    refine ⟨hhoused, ?_, ?_⟩
    · rw [Memory.table_congr hs, hgrown, Array.size_push, h.count]
    · intro i base' hi
      rw [Array.getElem?_push] at hi
      split at hi
      · rename_i hlast
        obtain rfl := Option.some.inj hi
        rw [hbase, hlast, h.count]
      · exact h.starts hi

theorem policy_malloc (a : BumpAllocator) (m : Memory) (s : SpaceId) (size : Nat) :
    (a.malloc m s size).2.1.policy = a.policy := by
  have hanswer := answers_malloc a m s size
  generalize a.malloc m s size = r at hanswer
  cases hanswer <;> rfl

theorem Sole.next (h : a.Sole m s) (hm : m.Sound) {answer : Except MemoryError Address}
    (hr : a.malloc m s size = (answer, a', m')) :
    a'.Sole m' s ∧ a'.policy = a.policy ∧ m'.Sound := by
  have hsole := h.malloc hm size
  have hpolicy := policy_malloc a m s size
  have hsound := (advance_malloc a m s size).sound hm
  rw [hr] at hsole hpolicy hsound
  exact ⟨hsole, hpolicy, hsound⟩

/-- Then the policy decides of all kinds in the space. -/
theorem Sole.kindOf? (h : a.Sole m s) {q : PageId} (hq : q.toNat < (m.table s).size) :
    (m.table s).kindOf? q =
      some ((a.policy.kind q.toNat).getD (m.space s).config.defaultKind) := by
  rw [← h.count] at hq
  have hi := Array.getElem?_eq_getElem hq
  have hpage : Address.page a.pages[q.toNat] = q := by
    rw [← UInt32.toNat_inj, Address.toNat_page, h.starts hi]
    omega
  have hkind := h.housed.kinds hi
  rw [hpage] at hkind
  exact hkind

/-- The page that the allocator cuts from is cut to its end. -/
def Spent (a : BumpAllocator) : Prop := a.current ≠ none ∧ a.remaining = 0

theorem Housed.le_current (h : a.Housed m s) (hc : a.current = some base) {base' : Address}
    (hmem : base' ∈ a.pages) : base'.toNat ≤ base.toNat := by
  obtain ⟨before, hpages⟩ := Array.back?_eq_some_iff.mp (h.placed.current ▸ hc)
  have hascending := h.ascending
  rw [hpages, Array.toList_push] at hascending
  rw [hpages] at hmem
  rcases Array.mem_push.mp hmem with hbefore | rfl
  · exact Nat.le_of_lt ((List.pairwise_append.mp hascending).2.2 base'
      (Array.mem_toList_iff.mpr hbefore) base (List.mem_singleton_self base))
  · exact Nat.le_refl _

/-- The next address to cut is in the current page, and not beyond the last address there is,
exactly while anything of the page is left. -/
theorem Housed.pageStart_mem_iff (h : a.Housed m s) (hm : m.Sound) (hc : a.current = some base) :
    (pageStart (base + UInt32.ofNat a.top).page ∈ a.pages ∧
      base.toNat + a.top < UInt32.size) ↔ a.top < pageSize := by
  have hmem := h.placed.mem_of_current hc
  obtain ⟨k, hk, hbase⟩ := h.placed.starts base hmem
  have hsize := hm.size_le s
  have htop : (UInt32.ofNat a.top).toNat = a.top :=
    UInt32.toNat_ofNat_of_lt' (Nat.lt_of_le_of_lt h.placed.top_le (by decide))
  have hsum : base.toNat + a.top < UInt32.size →
      (base + UInt32.ofNat a.top).toNat = base.toNat + a.top := fun hlt => by
    rw [UInt32.toNat_add, htop, Nat.mod_eq_of_lt hlt]
  constructor
  · rintro ⟨hin, hlt⟩
    have hle := h.le_current hc hin
    rw [Address.toNat_pageStart_page, hsum hlt] at hle
    simp only [pageSize]
    omega
  · intro hleft
    have hlt : base.toNat + a.top < UInt32.size := by
      simp only [pageSize, UInt32.size] at hleft ⊢
      omega
    refine ⟨?_, hlt⟩
    have hstart : pageStart (base + UInt32.ofNat a.top).page = base := by
      rw [← UInt32.toNat_inj, Address.toNat_pageStart_page, hsum hlt]
      simp only [pageSize] at hleft
      omega
    rw [hstart]
    exact hmem

theorem Housed.granted (h : a.Housed m s) (hm : m.Sound)
    (hr : a.malloc m s size = (.ok p, a', m')) :
    ∃ base top, a'.current = some base ∧ a'.top = top + rounded size ∧
      p = base + UInt32.ofNat top ∧
      ((pageStart p.page ∈ a'.pages ∧ base.toNat + top < UInt32.size) ↔
        ¬ (size = 0 ∧ a.Spent)) := by
  have hanswer := answers_malloc a m s size
  have hhoused := h.malloc hm size
  rw [hr] at hanswer hhoused
  cases hanswer with
  | @cut fits base hc left =>
    refine ⟨base, a.top, hc, rfl, rfl, (h.pageStart_mem_iff hm hc).trans ?_⟩
    -- A request that fits in nothing is one for no bytes.
    have hrem := remaining_of_current hc
    have htop := h.placed.top_le
    have hsize := le_rounded size
    have hspent : a.Spent ↔ a.remaining = 0 := by simp [Spent, hc]
    rw [hspent, pageSize]
    omega
  | @claimed fits needed _ m₁ _ halloc hs =>
    have hzero : p + UInt32.ofNat 0 = p := by simp
    have hbase := (hm.toNat_of_allocatePage halloc).1
    have hstart : pageStart p.page = p := by
      rw [← UInt32.toNat_inj, Address.toNat_pageStart_page]
      omega
    refine ⟨p, 0, rfl, (Nat.zero_add _).symm, hzero.symm, iff_of_true ⟨?_, ?_⟩ ?_⟩
    · rw [hstart]
      exact Array.mem_push_self
    · exact UInt32.toNat_lt p
    · rintro ⟨rfl, hsome, _⟩
      rcases needed with hnone | hlt
      · exact hsome hnone
      · exact absurd hlt (Nat.not_lt_zero _)

theorem Housed.lt_of_pageStart_mem (h : a.Housed m s) (hp : pageStart p.page ∈ a.pages) :
    p.toNat < pageSize * (m.table s).size := by
  obtain ⟨k, hk, hstart⟩ := h.placed.starts _ hp
  rw [Address.toNat_pageStart_page] at hstart
  simp only [pageSize]
  omega

end BumpAllocator

end PagedMemory
