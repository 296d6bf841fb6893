import PagedMemory.Proofs.BumpAllocator.EqualRequests
import PagedMemory.Proofs.MatrixTest.Products

/-! Where the matrices lie. Three requests of one size to a fresh space are granted exactly if
it may hold the pages that they take, and then give regions apart from each other. -/

set_option autoImplicit false

namespace PagedMemory.MatrixTest

open BumpAllocator (pagesFor regionStart Served Serves)

structure Regions (m : Memory) (s : SpaceId) (n : Nat) (a b c : Address) : Prop where
  sound : m.Sound
  first : m.Mapped s a (n * n)
  second : m.Mapped s b (n * n)
  third : m.Mapped s c (n * n)
  apartSecond : Apart (n * n) a b
  apartThird : Apart (n * n) b c
  apartFirst : Apart (n * n) c a

variable {m m' : Memory} {s : SpaceId} {n size : Nat} {a b c : Address}

structure Opened (m : Memory) (config : Config) (m' : Memory) : Prop where
  sound : m'.Sound
  known : m.spaces.size < m'.spaces.size
  config : (m'.space m.spaces.size).config = config
  empty : (m'.table m.spaces.size).size = 0
  zero : ∀ c : Cell, c.space = m.spaces.size → m'.contents c = 0
  supply : m'.supply = m.supply

theorem opened_openSpace (hm : m.Sound) {config : Config} (hvalid : config.Valid) :
    ∃ m', m.openSpace config = (.ok m.spaces.size, m') ∧ Opened m config m' := by
  have hok := (Config.validate_eq_ok_iff config).mpr hvalid
  have hopen : m.openSpace config = (.ok m.spaces.size, (m.openValid config).2) := by
    simp only [Memory.openSpace, hok]
    rfl
  have hadvance := Memory.advance_openValid m hvalid
  have hspace : (m.openValid config).2.space m.spaces.size =
      ⟨config, { enabled := config.statsEnabled }, .empty m.tokens.size, true, 0⟩ := by
    have hadd := Memory.space_addSpace m config m.spaces.size
    rw [if_pos rfl] at hadd
    exact hadd
  refine ⟨_, hopen, hadvance.sound hm, ?_, by rw [hspace], ?_, ?_, hadvance.supply⟩
  · have hsize : (m.openValid config).2.spaces.size = m.spaces.size + 1 :=
      Memory.size_spaces_addSpace m config
    omega
  · rw [Memory.table, hspace]
    rfl
  · intro c hc
    rw [hadvance.contents hm]
    refine Memory.contents_of_none ?_
    rw [Memory.pageOf?, hc, Memory.table_of_size_le m (Nat.le_refl _)]
    rfl

inductive Places (m : Memory) (s : SpaceId) (size : Nat) :
    Except MemoryError (Address × Address × Address) × Memory → Prop where
  | placed {a b c : Address} {m' : Memory}
      (room : pagesFor size 3 ≤ (m.space s).config.maxPages.toNat)
      (ha : a.toNat = regionStart size 0) (hb : b.toNat = regionStart size 1)
      (hc : c.toNat = regionStart size 2) (pages : (m'.table s).size = pagesFor size 3)
      (he : m.Evolves [] m') : Places m s size (.ok (a, b, c), m')
  | exhausted {m' : Memory} (full : (m.space s).config.maxPages.toNat < pagesFor size 3) :
      Places m s size
        (.error (.addressSpaceExhausted (m.space s).config.maxPages.toNat), m')
  | refused {cause : String} {m' : Memory} (hrefused : ¬ m.supply.Grants s) :
      Places m s size (.error (.pageAllocation cause), m')

theorem places_place (hm : m.Sound) (hs : s < m.spaces.size) (hempty : (m.table s).size = 0)
    (hpos : 0 < size) (fits : size ≤ pageSize) (hsize : size % 4 = 0) (policy : PagePolicy) :
    Places m s size (place m s policy size) := by
  have hsecond : pagesFor size 1 ≤ pagesFor size 2 :=
    BumpAllocator.pagesFor_le_succ hpos fits 1
  have hthird : pagesFor size 2 ≤ pagesFor size 3 :=
    BumpAllocator.pagesFor_le_succ hpos fits 2
  have hfirst := (BumpAllocator.served_new policy hpos fits hempty).malloc hm hpos fits hsize
  unfold place
  generalize BumpAllocator.malloc { policy := policy } m s size = r at hfirst
  cases hfirst with
  | exhausted full =>
    exact .exhausted (Nat.lt_of_lt_of_le full (Nat.le_trans hsecond hthird))
  | refused hrefused => exact .refused hrefused
  | @granted a alloc₁ m₁ _ ha served₁ he₁ =>
  have hconfig₁ := he₁.config hm hs
  have hserves := served₁.malloc (he₁.sound hm) hpos fits hsize
  dsimp only
  generalize alloc₁.malloc m₁ s size = r at hserves
  cases hserves with
  | exhausted full =>
    rw [hconfig₁] at full ⊢
    exact .exhausted (Nat.lt_of_lt_of_le full hthird)
  | refused hrefused => exact .refused (he₁.supply ▸ hrefused)
  | @granted b alloc₂ m₂ _ hb served₂ he₂ =>
  have he₁₂ : m.Evolves [] m₂ := he₁.trans he₂
  have hconfig₂ := he₁₂.config hm hs
  have hserves := served₂.malloc (he₁₂.sound hm) hpos fits hsize
  dsimp only
  generalize alloc₂.malloc m₂ s size = r at hserves
  cases hserves with
  | exhausted full =>
    rw [hconfig₂] at full ⊢
    exact .exhausted full
  | refused hrefused => exact .refused (he₁₂.supply ▸ hrefused)
  | granted room hc served₃ he₃ =>
    rw [hconfig₂] at room
    exact .placed room ha hb hc served₃.pages (he₁₂.trans he₃)

theorem regions_of_starts (hm : m.Sound) (hpos : 0 < n) (fits : n * n * 4 ≤ pageSize)
    (ha : a.toNat = regionStart (n * n * 4) 0) (hb : b.toNat = regionStart (n * n * 4) 1)
    (hc : c.toNat = regionStart (n * n * 4) 2)
    (pages : (m.table s).size = pagesFor (n * n * 4) 3) : Regions m s n a b c := by
  have hsize : n * n * 4 % 4 = 0 := Nat.mul_mod_left (n * n) 4
  have hbytes : 0 < n * n * 4 := Nat.mul_pos (Nat.mul_pos hpos hpos) (by decide)
  have hsecond : pagesFor (n * n * 4) 1 ≤ pagesFor (n * n * 4) 2 :=
    BumpAllocator.pagesFor_le_succ hbytes fits 1
  have hthird : pagesFor (n * n * 4) 2 ≤ pagesFor (n * n * 4) 3 :=
    BumpAllocator.pagesFor_le_succ hbytes fits 2
  -- Each region ends in a page that is there, and before the next one starts.
  have hmapped : ∀ {base : Address} {k : Nat}, base.toNat = regionStart (n * n * 4) k →
      pagesFor (n * n * 4) (k + 1) ≤ pagesFor (n * n * 4) 3 → m.Mapped s base (n * n) := by
    intro base k hbase hk
    have hend := BumpAllocator.regionStart_add_le hbytes fits k
    have hpages := Nat.mul_le_mul_left pageSize hk
    refine ⟨hbase ▸ BumpAllocator.regionStart_mod_four hsize k, ?_⟩
    rw [hbase, pages]
    simp only [pageSize] at hend hpages
    omega
  have hab : regionStart (n * n * 4) 0 + n * n * 4 ≤ regionStart (n * n * 4) 1 :=
    BumpAllocator.regionStart_succ_le hbytes fits 0
  have hbc : regionStart (n * n * 4) 1 + n * n * 4 ≤ regionStart (n * n * 4) 2 :=
    BumpAllocator.regionStart_succ_le hbytes fits 1
  rw [← ha, ← hb] at hab
  rw [← hb, ← hc] at hbc
  exact ⟨hm, hmapped ha (Nat.le_trans hsecond hthird), hmapped hb hthird,
    hmapped hc (Nat.le_refl _), .inl (by omega), .inl (by omega), .inr (by omega)⟩

end PagedMemory.MatrixTest
