import PagedMemory.Proofs.Memory.Extent
import PagedMemory.Proofs.Session.Runs

/-! The extent of a space. Its mapped addresses are those below the end of its last page, and
no number that leads from an address to an element or from a page to its address is cut off on
the way, not even where the pages fill all addresses there are. -/

set_option autoImplicit false

namespace PagedMemory

namespace Session

/-- What is mapped in a space with `n` pages are the addresses below the end of page `n`, all of
which are below the limit of the space, and are all below it once the space is full. There an
access finds its page and its element in the page; elsewhere it fails. Growth answers the
address at which the pages ended, and fails in a full space or if the system has no page. -/
theorem mapped_iff_below_pages {x : Session} (hx : x.Reachable) {s : SpaceId}
    (hs : s < x.memory.spaces.size) :
    let m := x.memory
    let c := (m.space s).config
    let n := (m.table s).size
    (∀ a, ((∃ v, m.read s a = .ok v) ↔ a.toNat < pageSize * n) ∧
      ∀ v, (m.write s a v).1 = .ok () ↔ a.toNat < pageSize * n) ∧
    (∀ a p, (m.table s).pageAt? a = some p →
      let i := a.toNat % pageSize / elementSize
      (∃ v, m.load? p i = some v ∧ m.read s a = .ok v) ∧
        ∀ v, ∃ m', m.store? p i v = some m' ∧ m.write s a v = (.ok (), m')) ∧
    (n ≤ c.maxPages.toNat ∧ c.maxPages.toNat ≤ maxPages) ∧
    (∀ i < maxPages, (UInt32.ofNat i).toNat = i ∧
      (pageStart (UInt32.ofNat i)).toNat = pageSize * i) ∧
    (∀ kind base m', m.allocatePage s kind = (.ok base, m') →
      base.toNat = pageSize * n ∧ (m'.table s).size = n + 1) ∧
    (n < c.maxPages.toNat → ∀ kind, m.refusal? s (kind.getD c.defaultKind) = none →
      ∃ base m', m.allocatePage s kind = (.ok base, m')) ∧
    (n = c.maxPages.toNat → ∀ kind,
      (m.allocatePage s kind).1 = .error (.addressSpaceExhausted n)) ∧
    (∀ a v, m.read s a = .ok v → a.toNat < c.addressLimit.toNat) ∧
    (n = c.maxPages.toNat → ∀ a, a.toNat < c.addressLimit.toNat → ∃ v, m.read s a = .ok v) := by
  intro m c n
  obtain ⟨_, hf⟩ := hx.fits
  have hm : m.Sound := hf.sound
  have hvalid : c.Valid := hm.valid s hs
  have hbounded : n ≤ c.maxPages.toNat := hm.bounded s
  have hlimit := hvalid.toNat_addressLimit
  refine ⟨fun a => ⟨m.exists_read_iff s a, m.write_eq_ok_iff s a⟩, ?_, ⟨hbounded, hvalid.2⟩, ?_,
    fun kind base m' => hm.toNat_of_allocatePage, fun room kind => Memory.allocatePage_of_room room,
    ?_, ?_, ?_⟩
  · intro a p hp i
    refine ⟨⟨_, m.load?_of_address p a, Memory.read_of_page hp⟩, fun v => ?_⟩
    exact ⟨_, m.store?_of_address p a v, Memory.write_of_page hp v⟩
  · intro i hi
    have hsize : i < UInt32.size := Nat.lt_trans hi (by decide)
    exact ⟨UInt32.toNat_ofNat_of_lt' hsize, Address.toNat_pageStart hi⟩
  · intro hfull kind
    exact Memory.allocatePage_of_full kind (Nat.le_of_eq hfull.symm)
  · intro a v hv
    have hlt : a.toNat < pageSize * n := (m.exists_read_iff s a).mp ⟨v, hv⟩
    rw [hlimit]
    exact Nat.lt_of_lt_of_le hlt (Nat.mul_le_mul_left _ hbounded)
  · intro hfull a ha
    rw [hlimit, ← hfull] at ha
    exact (m.exists_read_iff s a).mpr ha

/-- A space of one page, which it has: its last byte is mapped and the next one is not. -/
theorem mapped_iff_below_pages_full :
    let x := ((start 1 {}).run [.openSpace { maxPages := 1 }, .allocate 0 none]).2
    x.Reachable ∧ 0 < x.memory.spaces.size ∧ (x.memory.table 0).size = 1 ∧
      (∃ v, x.memory.read 0 4095 = .ok v) ∧ (x.memory.write 0 4096 7).1 ≠ .ok () ∧
      ∀ kind, (x.memory.allocatePage 0 kind).1 = .error (.addressSpaceExhausted 1) := by
  intro x
  have hx : x.Reachable := ⟨1, {}, _, _, rfl⟩
  have hs : 0 < x.memory.spaces.size := by decide +kernel
  have hsize : (x.memory.table 0).size = 1 := by rfl
  have hmax : (x.memory.space 0).config.maxPages.toNat = 1 := by rfl
  obtain ⟨hmapped, _, _, _, _, _, hfull, _⟩ := mapped_iff_below_pages hx hs
  rw [hsize] at hmapped hfull
  refine ⟨hx, hs, hsize, (hmapped 4095).1.mpr (by decide), ?_, hfull hmax.symm⟩
  exact mt ((hmapped 4096).2 7).mp (by decide)

end Session

end PagedMemory
