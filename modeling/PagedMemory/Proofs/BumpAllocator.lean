import PagedMemory.Proofs.Memory.Effects

/-! Bump allocation. Requests are cut one after another from pages that the allocator has
claimed for itself. A page is claimed only when there is none yet or what is left of the
last one is too small, and it is always the page that the space has just grown by. -/

set_option autoImplicit false

namespace PagedMemory

namespace BumpAllocator

variable {a : BumpAllocator} {m : Memory} {s : SpaceId} {size n : Nat}

theorem rounded_mod (size : Nat) : rounded size % 4 = 0 := by
  simp only [rounded, elementSize]
  omega

theorem le_rounded (size : Nat) : size ≤ rounded size := by
  simp only [rounded, elementSize]
  omega

theorem rounded_le (h : size ≤ pageSize) : rounded size ≤ pageSize := by
  simp only [rounded, elementSize, pageSize] at h ⊢
  omega

inductive Answers (a : BumpAllocator) (m : Memory) (s : SpaceId) (size : Nat) :
    Except MemoryError Address × BumpAllocator × Memory → Prop where
  | tooLarge (large : pageSize < size) :
      Answers a m s size (.error (.allocationTooLarge size pageSize), a, m)
  | refused (fits : size ≤ pageSize) {e : MemoryError} {m' : Memory}
      (hr : m.allocatePage s (a.policy.kind a.pages.size) = (.error e, m')) :
      Answers a m s size (.error e, a, m')
  | cut (fits : size ≤ pageSize) {base : Address} (hc : a.current = some base)
      (left : rounded size ≤ a.remaining) :
      Answers a m s size
        (.ok (base + UInt32.ofNat a.top), { a with top := a.top + rounded size }, m)
  | claimed (fits : size ≤ pageSize) (needed : a.current = none ∨ a.remaining < rounded size)
      {base : Address} {m₁ m' : Memory}
      (hr : m.allocatePage s (a.policy.kind a.pages.size) = (.ok base, m₁))
      (hs : m'.storage = m₁.storage) :
      Answers a m s size (.ok base,
        { a with current := some base, top := rounded size, pages := a.pages.push base }, m')

theorem pageFor_of_needed (needed : a.current = none ∨ a.remaining < size) :
    a.pageFor m s size = a.claim m s := by
  unfold pageFor
  rcases needed with hc | hlt
  · rw [hc]
  · split
    · rw [if_neg (Nat.not_le_of_lt hlt)]
    · rfl

theorem pageFor_of_left {base : Address} (hc : a.current = some base)
    (left : size ≤ a.remaining) : a.pageFor m s size = (.ok base, a, m) := by
  simp only [pageFor, hc, if_pos left]

theorem claim_of_error {e : MemoryError} {m' : Memory}
    (hr : m.allocatePage s (a.policy.kind a.pages.size) = (.error e, m')) :
    a.claim m s = (.error e, a, m') := by
  simp only [claim, hr]

theorem claim_of_ok {base : Address} {m₁ : Memory}
    (hr : m.allocatePage s (a.policy.kind a.pages.size) = (.ok base, m₁)) :
    ∃ m', a.claim m s =
      (.ok base, { a with current := some base, top := 0, pages := a.pages.push base }, m') ∧
      m'.storage = m₁.storage := by
  simp only [claim, hr]
  exact ⟨_, rfl, Memory.storage_note _ _⟩

theorem answers_malloc (a : BumpAllocator) (m : Memory) (s : SpaceId) (size : Nat) :
    Answers a m s size (a.malloc m s size) := by
  unfold malloc
  by_cases large : pageSize < size
  · rw [if_pos large]
    exact .tooLarge large
  rw [if_neg large]
  have fits := Nat.le_of_not_lt large
  by_cases needed : a.current = none ∨ a.remaining < rounded size
  · simp only [pageFor_of_needed needed]
    cases hr : m.allocatePage s (a.policy.kind a.pages.size) with
    | mk answer m₁ =>
      cases answer with
      | error e =>
        simp only [claim_of_error hr]
        exact .refused fits hr
      | ok base =>
        obtain ⟨m', hclaim, hs⟩ := claim_of_ok hr
        have hbase : base + UInt32.ofNat 0 = base := by simp
        simp only [hclaim, hbase, Nat.zero_add]
        exact .claimed fits needed hr hs
  · obtain ⟨hsome, hle⟩ := not_or.mp needed
    obtain ⟨base, hc⟩ := Option.ne_none_iff_exists'.mp hsome
    have left := Nat.le_of_not_lt hle
    simp only [pageFor_of_left hc left]
    exact .cut fits hc left

/-- The pages of an allocator are pages of a space that has `n` of them; it cuts from the
last one, by whole elements. -/
structure Placed (a : BumpAllocator) (n : Nat) : Prop where
  starts : ∀ base ∈ a.pages, ∃ k < n, base.toNat = 4096 * k
  current : a.current = a.pages.back?
  top_le : a.top ≤ 4096
  top_mod : a.top % 4 = 0

/-- The bytes lie in a page of the allocator, and before what is left of it. -/
def Contains (a : BumpAllocator) (start stop : Nat) : Prop :=
  ∃ base ∈ a.pages, base.toNat ≤ start ∧ stop ≤ base.toNat + 4096 ∧
    (a.current = some base → stop ≤ base.toNat + a.top)

theorem placed_new (policy : PagePolicy) (n : Nat) : Placed ⟨policy, none, 0, #[]⟩ n :=
  ⟨fun base h => by simp at h, rfl, Nat.zero_le _, rfl⟩

theorem Placed.mono (h : a.Placed n) {n' : Nat} (hn : n ≤ n') : a.Placed n' where
  starts := by
    intro base hbase
    obtain ⟨k, hk, hstart⟩ := h.starts base hbase
    exact ⟨k, Nat.lt_of_lt_of_le hk hn, hstart⟩
  current := h.current
  top_le := h.top_le
  top_mod := h.top_mod

theorem Placed.mem_of_current (h : a.Placed n) {base : Address} (hc : a.current = some base) :
    base ∈ a.pages := Array.mem_of_back? (h.current ▸ hc)

theorem Placed.current_eq_none_iff (h : a.Placed n) : a.current = none ↔ a.pages = #[] := by
  rw [h.current]
  simp

theorem remaining_of_current {base : Address} (hc : a.current = some base) :
    a.remaining = 4096 - a.top := by
  simp only [remaining, hc, pageSize]

theorem Placed.cut (h : a.Placed n) {base : Address} (hc : a.current = some base) {r : Nat}
    (left : r ≤ a.remaining) (hr : r % 4 = 0) : Placed { a with top := a.top + r } n where
  starts := h.starts
  current := h.current
  top_le := by
    have htop := h.top_le
    rw [remaining_of_current hc] at left
    simp only
    omega
  top_mod := by
    have htop := h.top_mod
    simp only
    omega

theorem Placed.claim (h : a.Placed n) {base : Address} (hbase : base.toNat = 4096 * n) {r : Nat}
    (hle : r ≤ 4096) (hr : r % 4 = 0) :
    Placed { a with current := some base, top := r, pages := a.pages.push base } (n + 1) where
  starts := by
    intro base' hmem
    rcases Array.mem_push.mp hmem with hmem | rfl
    · exact (h.mono (Nat.le_succ n)).starts base' hmem
    · exact ⟨n, Nat.lt_succ_self n, hbase⟩
  current := by simp
  top_le := hle
  top_mod := hr

theorem Contains.cut {start stop : Nat} (h : a.Contains start stop) (r : Nat) :
    Contains { a with top := a.top + r } start stop := by
  obtain ⟨base, hmem, hstart, hstop, hcurrent⟩ := h
  refine ⟨base, hmem, hstart, hstop, fun hc => ?_⟩
  have htop := hcurrent hc
  simp only
  omega

/-- A page just claimed is none of those before. -/
theorem Contains.claim {start stop : Nat} (h : a.Contains start stop) (hp : a.Placed n)
    {base : Address} (hbase : base.toNat = 4096 * n) (r : Nat) :
    Contains { a with current := some base, top := r, pages := a.pages.push base }
      start stop := by
  obtain ⟨base', hmem, hstart, hstop, _⟩ := h
  refine ⟨base', Array.mem_push.mpr (.inl hmem), hstart, hstop, fun hc => ?_⟩
  obtain ⟨k, hk, hstart'⟩ := hp.starts base' hmem
  cases hc
  omega

theorem Placed.toNat_cut (h : a.Placed n) (hn : n ≤ 1048576) {base : Address}
    (hc : a.current = some base) {r : Nat} (left : r ≤ a.remaining) (hr : 0 < r) :
    (base + UInt32.ofNat a.top).toNat = base.toNat + a.top := by
  obtain ⟨k, hk, hstart⟩ := h.starts base (h.mem_of_current hc)
  rw [remaining_of_current hc] at left
  have htop : (UInt32.ofNat a.top).toNat = a.top :=
    UInt32.toNat_ofNat_of_lt' (by rw [UInt32.size]; omega)
  rw [UInt32.toNat_add, htop, Nat.mod_eq_of_lt (by omega)]

theorem Placed.contains_cut (h : a.Placed n) {base : Address} (hc : a.current = some base)
    {r : Nat} (left : r ≤ a.remaining) :
    Contains { a with top := a.top + r } (base.toNat + a.top) (base.toNat + a.top + r) := by
  have htop := h.top_le
  rw [remaining_of_current hc] at left
  refine ⟨base, h.mem_of_current hc, by omega, by omega, fun _ => ?_⟩
  simp only
  omega

theorem contains_claim (a : BumpAllocator) (base : Address) {r : Nat} (hr : r ≤ 4096) :
    Contains { a with current := some base, top := r, pages := a.pages.push base }
      base.toNat (base.toNat + r) :=
  ⟨base, by simp, Nat.le_refl _, by omega, fun _ => Nat.le_refl _⟩

/-- A page is claimed exactly when there is none yet or what is left is too small. -/
theorem Placed.pages_malloc (h : a.Placed n) {p : Address} {a' : BumpAllocator} {m' : Memory}
    (hr : a.malloc m s size = (.ok p, a', m')) :
    if a.pages = #[] ∨ a.remaining < rounded size then ∃ base, a'.pages = a.pages.push base
      else a'.pages = a.pages := by
  have hanswer := answers_malloc a m s size
  rw [hr] at hanswer
  have hfirst := h.current_eq_none_iff
  cases hanswer with
  | @cut _ base hc left =>
    have hnot : ¬ (a.pages = #[] ∨ a.remaining < rounded size) := by
      rintro (hnone | hlt)
      · rw [hfirst.mpr hnone] at hc
        contradiction
      · omega
    rw [if_neg hnot]
  | claimed _ needed _ _ =>
    rw [if_pos (needed.imp_left hfirst.mp)]
    exact ⟨_, rfl⟩

theorem Placed.isSome_pageAt? {t : PageTable} (h : a.Placed t.size) {base : Address}
    (hbase : base ∈ a.pages) : (t.pageAt? base).isSome = true ∧ base.toNat % pageSize = 0 := by
  obtain ⟨k, hk, hstart⟩ := h.starts base hbase
  have hpage : (Address.page base).toNat = k := by
    rw [Address.toNat_page]
    omega
  refine ⟨?_, by simp only [pageSize]; omega⟩
  rw [PageTable.pageAt?, PageTable.page?, hpage, Array.getElem?_eq_getElem hk]
  rfl

end BumpAllocator

end PagedMemory
