import PagedMemory.Proofs.BumpAllocator

/-! Requests of one size. As many of them share a page as fit in it, so that it is known
beforehand where each of them lies and how many pages they take together. -/

set_option autoImplicit false

namespace PagedMemory.BumpAllocator

variable {size k : Nat}

def perPage (size : Nat) : Nat := pageSize / size

/-- The pages that `k` requests take. -/
def pagesFor (size k : Nat) : Nat := (k + (perPage size - 1)) / perPage size

/-- Where the `k`th request lies in a space that held no page before. -/
def regionStart (size k : Nat) : Nat :=
  pageSize * (k / perPage size) + k % perPage size * size

/-- The next request either shares the page of this one or starts a page. -/
theorem div_mod_succ {p : Nat} (hp : 0 < p) (k : Nat) :
    (k % p + 1 < p ∧ (k + 1) / p = k / p ∧ (k + 1) % p = k % p + 1) ∨
      (k % p + 1 = p ∧ (k + 1) / p = k / p + 1 ∧ (k + 1) % p = 0) := by
  have hsplit : k + 1 = p * (k / p) + (k % p + 1) := by
    rw [← Nat.add_assoc, Nat.div_add_mod]
  rcases Nat.lt_or_eq_of_le (Nat.succ_le_of_lt (Nat.mod_lt k hp)) with hlt | heq
  · refine .inl ⟨hlt, ?_, ?_⟩
    · rw [hsplit, Nat.mul_add_div hp, Nat.div_eq_of_lt hlt, Nat.add_zero]
    · rw [hsplit, Nat.mul_add_mod, Nat.mod_eq_of_lt hlt]
  · have hnext : k + 1 = p * (k / p) + p := hsplit.trans (congrArg _ heq)
    refine .inr ⟨heq, ?_, ?_⟩
    · rw [hnext, Nat.mul_add_div hp, Nat.div_self hp]
    · rw [hnext, Nat.mul_add_mod, Nat.mod_self]

theorem perPage_pos (hpos : 0 < size) (fits : size ≤ pageSize) : 0 < perPage size :=
  Nat.div_pos fits hpos

theorem perPage_mul_le (size : Nat) : perPage size * size ≤ pageSize := Nat.div_mul_le_self _ _

theorem lt_perPage_succ_mul (hpos : 0 < size) : pageSize < perPage size * size + size := by
  have h := Nat.lt_mul_div_succ pageSize hpos
  rw [Nat.mul_comm, Nat.succ_mul] at h
  exact h

section Fits
variable (hpos : 0 < size) (fits : size ≤ pageSize)
include hpos fits

theorem pagesFor_zero : pagesFor size 0 = 0 := by
  have hp := perPage_pos hpos fits
  exact Nat.div_eq_of_lt (by omega)

theorem pagesFor_succ (k : Nat) : pagesFor size (k + 1) = k / perPage size + 1 := by
  have hp := perPage_pos hpos fits
  have hsum : k + 1 + (perPage size - 1) = k + perPage size := by omega
  rw [pagesFor, hsum, Nat.add_div_right k hp]

theorem pagesFor_of_mod_eq_zero (hk : k % perPage size = 0) :
    pagesFor size k = k / perPage size := by
  have hp := perPage_pos hpos fits
  cases k with
  | zero => rw [pagesFor_zero hpos fits, Nat.zero_div]
  | succ j =>
    rcases div_mod_succ hp j with ⟨_, _, hmod⟩ | ⟨_, hdiv, _⟩
    · rw [hmod] at hk
      contradiction
    · rw [pagesFor_succ hpos fits, hdiv]

theorem regionStart_succ_le (k : Nat) : regionStart size k + size ≤ regionStart size (k + 1) := by
  have hp := perPage_pos hpos fits
  have hmul := perPage_mul_le size
  unfold regionStart
  rcases div_mod_succ hp k with ⟨_, hdiv, hmod⟩ | ⟨hlast, hdiv, hmod⟩
  · rw [hdiv, hmod, Nat.succ_mul]
    omega
  · have hrow : (k % perPage size + 1) * size = perPage size * size := congrArg (· * size) hlast
    rw [Nat.succ_mul] at hrow
    rw [hdiv, hmod, Nat.mul_succ]
    omega

theorem regionStart_add_le (k : Nat) :
    regionStart size k + size ≤ pageSize * pagesFor size (k + 1) := by
  have hp := perPage_pos hpos fits
  have hmul := perPage_mul_le size
  have hrow : (k % perPage size + 1) * size ≤ perPage size * size :=
    Nat.mul_le_mul_right size (Nat.succ_le_of_lt (Nat.mod_lt k hp))
  rw [Nat.succ_mul] at hrow
  rw [regionStart, pagesFor_succ hpos fits, Nat.mul_succ]
  omega

theorem pagesFor_le_succ (k : Nat) : pagesFor size k ≤ pagesFor size (k + 1) := by
  have hp := perPage_pos hpos fits
  exact Nat.div_le_div_right (by omega)

end Fits

theorem regionStart_mod_four (hsize : size % 4 = 0) (k : Nat) : regionStart size k % 4 = 0 := by
  have hrow : k % perPage size * size % 4 = 0 := by
    rw [Nat.mul_mod, hsize]
    rfl
  simp only [regionStart, pageSize]
  omega

theorem rounded_of_mod_eq_zero (h : size % 4 = 0) : rounded size = size := by
  simp only [rounded, elementSize]
  omega

/-- The allocator has served `k` requests, and all pages of the space are its own. -/
structure Served (m : Memory) (s : SpaceId) (a : BumpAllocator) (size k : Nat) : Prop where
  pages : (m.table s).size = pagesFor size k
  first : k = 0 → a.current = none
  last : ∀ j, k = j + 1 → ∃ base, a.current = some base ∧
    base.toNat = pageSize * (j / perPage size) ∧ a.top = (j % perPage size + 1) * size

variable {m : Memory} {s : SpaceId} {a : BumpAllocator}

theorem served_new (policy : PagePolicy) (hpos : 0 < size) (fits : size ≤ pageSize)
    (hempty : (m.table s).size = 0) : Served m s { policy := policy } size 0 where
  pages := hempty.trans (pagesFor_zero hpos fits).symm
  first := fun _ => rfl
  last := fun _ h => by contradiction

inductive Serves (m : Memory) (s : SpaceId) (size k : Nat) :
    Except MemoryError Address × BumpAllocator × Memory → Prop where
  | granted {base : Address} {a' : BumpAllocator} {m' : Memory}
      (room : pagesFor size (k + 1) ≤ (m.space s).config.maxPages.toNat)
      (hbase : base.toNat = regionStart size k) (served : Served m' s a' size (k + 1))
      (he : m.Evolves [] m') : Serves m s size k (.ok base, a', m')
  | exhausted {a' : BumpAllocator} {m' : Memory}
      (full : (m.space s).config.maxPages.toNat < pagesFor size (k + 1)) :
      Serves m s size k
        (.error (.addressSpaceExhausted (m.space s).config.maxPages.toNat), a', m')
  | refused {cause : String} {a' : BumpAllocator} {m' : Memory}
      (hrefused : ¬ m.supply.Grants s) :
      Serves m s size k (.error (.pageAllocation cause), a', m')

section Malloc
variable (hm : m.Sound) (h : a.Served m s size k) (hpos : 0 < size) (fits : size ≤ pageSize)
  (hsize : size % 4 = 0)
include hm h hpos fits hsize

theorem Served.malloc_of_mod_eq_zero (hk : k % perPage size = 0) :
    Serves m s size k (a.malloc m s size) := by
  have hp := perPage_pos hpos fits
  have hneeded : a.current = none ∨ a.remaining < size := by
    cases k with
    | zero => exact .inl (h.first rfl)
    | succ j =>
      obtain ⟨base, hc, _, htop⟩ := h.last j rfl
      have hlast := lt_perPage_succ_mul hpos
      rcases div_mod_succ hp j with ⟨_, _, hmod⟩ | ⟨heq, _, _⟩
      · rw [hmod] at hk
        contradiction
      · refine .inr ?_
        rw [remaining_of_current hc, htop, heq]
        simp only [pageSize] at hlast
        omega
  have hpages : pagesFor size (k + 1) = (m.table s).size + 1 := by
    rw [pagesFor_succ hpos fits, h.pages, pagesFor_of_mod_eq_zero hpos fits hk]
  have hbound := hm.bounded s
  unfold malloc
  rw [if_neg (Nat.not_lt.mpr fits), rounded_of_mod_eq_zero hsize]
  simp only [pageFor_of_needed hneeded]
  have hallocates := Memory.allocates_allocatePage m s (a.policy.kind a.pages.size)
  have hadvance := Memory.advance_allocatePage m s (a.policy.kind a.pages.size)
  cases hr : m.allocatePage s (a.policy.kind a.pages.size) with
  | mk answer m₁ =>
  rw [hr] at hallocates hadvance
  cases hallocates with
  | full full _ =>
    rw [claim_of_error hr, Nat.le_antisymm hbound full]
    exact .exhausted (by omega)
  | refused _ hrefused _ =>
    rw [claim_of_error hr]
    refine .refused fun hgrants => ?_
    cases (Memory.refusal?_of_grants hgrants _).symm.trans hrefused
  | granted room _ _ =>
    obtain ⟨hbase, hgrown⟩ := hm.toNat_of_allocatePage hr
    obtain ⟨m', hclaim, hs⟩ := claim_of_ok hr
    have hstart : (m.table s).size = k / perPage size := by
      rw [h.pages, pagesFor_of_mod_eq_zero hpos fits hk]
    rw [hclaim]
    refine .granted (by omega) ?_ ⟨?_, fun hzero => by contradiction, ?_⟩
      (hadvance.of_storage_eq hs).evolves
    · have hzero : pageStart (UInt32.ofNat (m.table s).size) + UInt32.ofNat 0 =
          pageStart (UInt32.ofNat (m.table s).size) := by simp
      rw [hzero, hbase, regionStart, hk, hstart, Nat.zero_mul, Nat.add_zero, pageSize]
    · rw [Memory.table_congr hs, hgrown, hpages]
    · intro j hj
      obtain rfl := Nat.succ.inj hj
      refine ⟨_, rfl, ?_, ?_⟩
      · rw [hbase, hstart, pageSize]
      · simp only [hk, Nat.zero_add, Nat.one_mul]

theorem Served.malloc_of_mod_ne_zero (hk : k % perPage size ≠ 0) :
    Serves m s size k (a.malloc m s size) := by
  have hp := perPage_pos hpos fits
  obtain ⟨j, rfl⟩ : ∃ j, k = j + 1 := Nat.exists_eq_succ_of_ne_zero fun hzero => by
    rw [hzero, Nat.zero_mod] at hk
    contradiction
  obtain ⟨base, hc, hbase, htop⟩ := h.last j rfl
  obtain ⟨hlt, hdiv, hmod⟩ : j % perPage size + 1 < perPage size ∧
      (j + 1) / perPage size = j / perPage size ∧
      (j + 1) % perPage size = j % perPage size + 1 := by
    rcases div_mod_succ hp j with hsame | ⟨_, _, hzero⟩
    · exact hsame
    · exact absurd hzero hk
  have hrow : (j % perPage size + 1 + 1) * size ≤ perPage size * size :=
    Nat.mul_le_mul_right size hlt
  rw [Nat.succ_mul, ← htop] at hrow
  have hmul := perPage_mul_le size
  have hleft : size ≤ a.remaining := by
    rw [remaining_of_current hc]
    simp only [pageSize] at hmul
    omega
  have hpages : pagesFor size (j + 1 + 1) = (m.table s).size := by
    rw [pagesFor_succ hpos fits, h.pages, pagesFor_succ hpos fits, hdiv]
  have hbound := hm.bounded s
  have hsizes := hm.size_le s
  unfold malloc
  rw [if_neg (Nat.not_lt.mpr fits), rounded_of_mod_eq_zero hsize]
  simp only [pageFor_of_left hc hleft]
  refine .granted (by omega) ?_ ⟨hpages.symm, fun hzero => by contradiction, ?_⟩ .refl
  · have hlast : j / perPage size + 1 ≤ 1048576 := by
      rw [← pagesFor_succ hpos fits, ← h.pages]
      exact hsizes
    have htopNat : (UInt32.ofNat a.top).toNat = a.top := by
      refine UInt32.toNat_ofNat_of_lt' ?_
      simp only [pageSize] at hmul
      rw [UInt32.size]
      omega
    simp only [pageSize] at hbase hmul
    rw [UInt32.toNat_add, htopNat, hbase, Nat.mod_eq_of_lt (by omega), regionStart, hdiv, hmod,
      htop, pageSize]
  · intro i hi
    obtain rfl := Nat.succ.inj hi
    refine ⟨base, hc, ?_, ?_⟩
    · rw [hbase, hdiv]
    · simp only
      rw [htop, hmod, Nat.succ_mul (j % perPage size + 1)]

theorem Served.malloc : Serves m s size k (a.malloc m s size) := by
  by_cases hk : k % perPage size = 0
  · exact h.malloc_of_mod_eq_zero hm hpos fits hsize hk
  · exact h.malloc_of_mod_ne_zero hm hpos fits hsize hk

end Malloc

end PagedMemory.BumpAllocator
