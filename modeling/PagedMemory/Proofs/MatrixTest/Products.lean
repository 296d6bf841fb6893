import PagedMemory.MatrixTest
import PagedMemory.Proofs.ElementRun

/-! Products through call sites. The loops of a product do to three regions of paged memory
what the same loops do to plain arrays, as long as the region of the result is apart from
those of the factors. -/

set_option autoImplicit false

namespace PagedMemory.MatrixTest

def Apart (n : Nat) (base base' : Address) : Prop :=
  base.toNat + 4 * n ≤ base'.toNat ∨ base'.toNat + 4 * n ≤ base.toNat

structure Stores (m : Memory) (s : SpaceId) (n : Nat) (base : Address) (xs : Array Int32) :
    Prop where
  mapped : m.Mapped s base (n * n)
  size : xs.size = n * n
  holds : m.Holds s base xs

/-- What a product needs: its factors, and a place for the result apart from them. -/
structure Factors (m : Memory) (s : SpaceId) (n : Nat) (x y out : Address)
    (xs ys : Array Int32) : Prop where
  sound : m.Sound
  left : Stores m s n x xs
  right : Stores m s n y ys
  mapped : m.Mapped s out (n * n)
  apartLeft : Apart (n * n) out x
  apartRight : Apart (n * n) out y

structure Shows (m : Memory) (s : SpaceId) (n : Nat) (a b c : Address) (p : Plain) : Prop where
  sound : m.Sound
  first : Stores m s n a p.a
  second : Stores m s n b p.b
  third : Stores m s n c p.c
  apartSecond : Apart (n * n) a b
  apartThird : Apart (n * n) b c
  apartFirst : Apart (n * n) c a

structure Sites.Ready (m : Memory) (sites : Sites) : Prop where
  left : sites.left.Serving m
  right : sites.right.Serving m
  store : sites.store.Serving m

variable {m m' : Memory} {s : SpaceId} {n i j k : Nat} {a b c x y out base base' : Address}
  {xs ys : Array Int32} {p : Plain} {ks : List Nat} {value : Nat → Int32} {sites : Sites}

theorem index_lt (hi : i < n) (hj : j < n) : i * n + j < n * n := by
  have hrows : (i + 1) * n ≤ n * n := Nat.mul_le_mul_right n hi
  rw [Nat.succ_mul] at hrows
  omega

theorem row_of_index (hj : j < n) : (i * n + j) / n = i := by
  rw [Nat.mul_comm, Nat.mul_add_div (Nat.zero_lt_of_lt hj), Nat.div_eq_of_lt hj, Nat.add_zero]

theorem col_of_index (hj : j < n) : (i * n + j) % n = j := by
  rw [Nat.mul_comm, Nat.mul_add_mod, Nat.mod_eq_of_lt hj]

def places (n : Nat) (is : List Nat) : List Nat :=
  is.flatMap fun i => (List.range n).map fun j => i * n + j

theorem lt_of_mem_places {is : List Nat} (his : ∀ i ∈ is, i < n) (hk : k ∈ places n is) :
    k < n * n := by
  obtain ⟨i, hi, hk⟩ := List.mem_flatMap.mp hk
  obtain ⟨j, hj, rfl⟩ := List.mem_map.mp hk
  exact index_lt (his i hi) (List.mem_range.mp hj)

theorem mem_places (hk : k < n * n) : k ∈ places n (List.range n) := by
  have hn : 0 < n := Nat.pos_of_ne_zero fun hzero => by simp [hzero] at hk
  refine List.mem_flatMap.mpr ⟨k / n, List.mem_range.mpr (Nat.div_lt_of_lt_mul hk), ?_⟩
  refine List.mem_map.mpr ⟨k % n, List.mem_range.mpr (Nat.mod_lt k hn), ?_⟩
  rw [Nat.mul_comm]
  exact Nat.div_add_mod k n

namespace Plain

def product (n : Nat) (xs ys : Array Int32) (k : Nat) : Int32 := entry n xs ys (k / n) (k % n)

@[simp] theorem size_multiply (n : Nat) (xs ys : Array Int32) :
    (multiply n xs ys).size = n * n := by
  simp [multiply]

theorem getD_multiply (xs ys : Array Int32) (hk : k < n * n) :
    (multiply n xs ys).getD k 0 = product n xs ys k := by
  simp [multiply, product, hk]

end Plain

theorem Apart.symm {n : Nat} (h : Apart n base base') : Apart n base' base := Or.symm h

theorem Apart.cell_ne {n : Nat} (h : Apart n base base') (hm : m.Sound)
    (hbase : m.Mapped s base n) (hbase' : m.Mapped s base' n) {k k' : Nat} (hk : k < n)
    (hk' : k' < n) : elementCell s base k ≠ elementCell s base' k' := by
  intro hc
  have heq := hbase.eq_of_cell hbase' hm hk hk' hc
  unfold Apart at h
  omega

theorem Stores.of_written (h : Stores m s n base xs) (hm : m.Sound)
    (hout : m.Mapped s out (n * n)) (hapart : Apart (n * n) out base)
    (hw : m.Written s out ks value m') (hks : ∀ k ∈ ks, k < n * n) : Stores m' s n base xs where
  mapped := h.mapped.of_sameTables hw.tables
  size := h.size
  holds := by
    refine hw.holds_of_apart h.holds fun k hk k' hk' => ?_
    rw [h.size] at hk
    exact hapart.symm.cell_ne hm h.mapped hout hk (hks k' hk')

theorem Factors.of_written (h : Factors m s n x y out xs ys)
    (hw : m.Written s out ks value m') (hks : ∀ k ∈ ks, k < n * n) :
    Factors m' s n x y out xs ys where
  sound := hw.sound h.sound
  left := h.left.of_written h.sound h.mapped h.apartLeft hw hks
  right := h.right.of_written h.sound h.mapped h.apartRight hw hks
  mapped := h.mapped.of_sameTables hw.tables
  apartLeft := h.apartLeft
  apartRight := h.apartRight

theorem Factors.of_storage_eq (h : Factors m s n x y out xs ys) (hs : m'.storage = m.storage) :
    Factors m' s n x y out xs ys := by
  have hread : m.Written s out [] (fun _ => 0) m' := .of_storage_eq hs
  exact h.of_written hread fun _ hk => by contradiction

theorem Factors.cell_injective (h : Factors m s n x y out xs ys) {k' : Nat} (hk : k < n * n)
    (hk' : k' < n * n) (hc : elementCell s out k = elementCell s out k') : k = k' :=
  h.mapped.cell_injective h.sound hk hk' hc

theorem Sites.Ready.mono (h : sites.Ready m) (hm : m.Sound) {w : List (Cell × Int32)}
    (he : m.Evolves w m') : sites.Ready m' :=
  ⟨h.left.mono hm he, h.right.mono hm he, h.store.mono hm he⟩

theorem Sites.Ready.of_storage_eq (h : sites.Ready m) (hm : m.Sound)
    (hs : m'.storage = m.storage) : sites.Ready m' :=
  h.mono hm (Memory.evolves_of_storage_eq hs)

theorem Sites.ready (m : Memory) : Sites.Ready m {} :=
  ⟨CallSite.serving_getSite m, CallSite.serving_getSite m, CallSite.serving_setSite m⟩

/-- The inmost loop reads, and sums up what the plain one does. -/
theorem Factors.dot (h : Factors m s n x y out xs ys) (hsites : sites.Ready m) (hi : i < n)
    (hj : j < n) (ks : List Nat) (hks : ∀ k ∈ ks, k < n) (sum : Int32) :
    ∃ sites' m', Sites.dot s ⟨x, n⟩ ⟨y, n⟩ i j ks sum sites m =
        (.ok (ks.foldl (fun sum k => sum + xs.getD (i * n + k) 0 * ys.getD (k * n + j) 0) sum),
          sites', m') ∧
      m'.storage = m.storage ∧ sites'.Ready m' := by
  induction ks generalizing sum sites m with
  | nil => exact ⟨sites, m, rfl, rfl, hsites⟩
  | cons k ks ih =>
    have hk : k < n := hks k List.mem_cons_self
    have hleft := index_lt hi hk
    have hright := index_lt hk hj
    obtain ⟨left, m₁, hcall₁, hs₁, hserving₁⟩ := hsites.left.get h.sound h.left.mapped hleft
    have h₁ := h.of_storage_eq hs₁
    have hsites₁ := hsites.of_storage_eq h.sound hs₁
    obtain ⟨right, m₂, hcall₂, hs₂, hserving₂⟩ :=
      hsites₁.right.get h₁.sound h₁.right.mapped hright
    have h₂ := h₁.of_storage_eq hs₂
    have hsites₂ := hsites₁.of_storage_eq h₁.sound hs₂
    rw [h.left.holds _ (h.left.size.symm ▸ hleft)] at hcall₁
    rw [h₁.right.holds _ (h₁.right.size.symm ▸ hright)] at hcall₂
    have hready₂ : Sites.Ready m₂ { sites with left := left, right := right } :=
      ⟨hserving₁.mono h₁.sound (Memory.evolves_of_storage_eq hs₂), hserving₂, hsites₂.store⟩
    obtain ⟨sites', m', hrest, hs', hready⟩ :=
      ih h₂ hready₂ (fun k hk => hks k (List.mem_cons_of_mem _ hk))
        (sum + xs.getD (i * n + k) 0 * ys.getD (k * n + j) 0)
    refine ⟨sites', m', ?_, hs'.trans (hs₂.trans hs₁), hready⟩
    simp only [Sites.dot, Matrix.entry, hcall₁, hcall₂]
    exact hrest

theorem Factors.row (h : Factors m s n x y out xs ys) (hsites : sites.Ready m) (hi : i < n)
    (js : List Nat) (hjs : ∀ j ∈ js, j < n) :
    ∃ sites' m', Sites.row s ⟨x, n⟩ ⟨y, n⟩ ⟨out, n⟩ i js sites m = (.ok (), sites', m') ∧
      m.Written s out (js.map fun j => i * n + j) (Plain.product n xs ys) m' ∧
      sites'.Ready m' := by
  induction js generalizing sites m with
  | nil => exact ⟨sites, m, rfl, .of_storage_eq rfl, hsites⟩
  | cons j js ih =>
    have hj : j < n := hjs j List.mem_cons_self
    have hplace := index_lt hi hj
    obtain ⟨sites₁, m₁, hdot, hs₁, hready₁⟩ :=
      h.dot hsites hi hj (List.range n) (fun k hk => List.mem_range.mp hk) 0
    have h₁ := h.of_storage_eq hs₁
    have hread : m.Written s out [] (Plain.product n xs ys) m₁ := .of_storage_eq hs₁
    obtain ⟨store, m₂, hcall, hwritten, hserving⟩ :=
      hready₁.store.set h₁.sound h₁.mapped hplace (Plain.product n xs ys)
    obtain ⟨w, he⟩ := hwritten.evolves
    have hready₂ : Sites.Ready m₂ { sites₁ with store := store } :=
      ⟨hready₁.left.mono h₁.sound he, hready₁.right.mono h₁.sound he, hserving⟩
    have h₂ := h₁.of_written hwritten fun k hk => by
      obtain rfl := List.mem_singleton.mp hk
      exact hplace
    obtain ⟨sites', m', hrest, hrow, hready⟩ :=
      ih h₂ hready₂ fun j hj => hjs j (List.mem_cons_of_mem _ hj)
    have hvalue : Plain.product n xs ys (i * n + j) = Plain.entry n xs ys i j := by
      rw [Plain.product, row_of_index hj, col_of_index hj]
    rw [hvalue] at hcall
    refine ⟨sites', m', ?_, ?_, hready⟩
    · simp only [Sites.row, Matrix.entry, hdot]
      simp only [Plain.entry] at hcall
      simp only [hcall]
      exact hrest
    · refine hread.append (hwritten.append hrow ?_) fun k hk => by contradiction
      intro k hk k' hk' hc
      obtain rfl := List.mem_singleton.mp hk
      obtain ⟨j', hj', rfl⟩ := List.mem_map.mp hk'
      exact h.cell_injective hplace (index_lt hi (hjs j' (List.mem_cons_of_mem _ hj'))) hc

theorem Factors.rows (h : Factors m s n x y out xs ys) (hsites : sites.Ready m)
    (is : List Nat) (his : ∀ i ∈ is, i < n) :
    ∃ sites' m', Sites.rows s ⟨x, n⟩ ⟨y, n⟩ ⟨out, n⟩ is sites m = (.ok (), sites', m') ∧
      m.Written s out (places n is) (Plain.product n xs ys) m' ∧ sites'.Ready m' := by
  induction is generalizing sites m with
  | nil => exact ⟨sites, m, rfl, .of_storage_eq rfl, hsites⟩
  | cons i is ih =>
    have hi : i < n := his i List.mem_cons_self
    have hrest : ∀ i ∈ is, i < n := fun i hi => his i (List.mem_cons_of_mem _ hi)
    obtain ⟨sites₁, m₁, hrow, hwritten, hready₁⟩ :=
      h.row hsites hi (List.range n) fun j hj => List.mem_range.mp hj
    have hplaces : ∀ k ∈ (List.range n).map fun j => i * n + j, k < n * n := by
      intro k hk
      obtain ⟨j, hj, rfl⟩ := List.mem_map.mp hk
      exact index_lt hi (List.mem_range.mp hj)
    have h₁ := h.of_written hwritten hplaces
    obtain ⟨sites', m', hrows, hwritten', hready⟩ := ih h₁ hready₁ hrest
    refine ⟨sites', m', ?_, ?_, hready⟩
    · simp only [Sites.rows, hrow]
      exact hrows
    · exact hwritten.append hwritten' fun k hk k' hk' hc =>
        h.cell_injective (hplaces k hk) (lt_of_mem_places hrest hk') hc

theorem Shows.rotate (h : Shows m s n a b c p) : Shows m s n c a b ⟨p.c, p.a, p.b⟩ :=
  ⟨h.sound, h.third, h.first, h.second, h.apartFirst, h.apartSecond, h.apartThird⟩

theorem Shows.factors (h : Shows m s n a b c p) : Factors m s n a b c p.a p.b :=
  ⟨h.sound, h.first, h.second, h.third.mapped, h.apartFirst, h.apartThird.symm⟩

theorem Shows.multiply (h : Shows m s n a b c p) (hsites : sites.Ready m) :
    ∃ sites' m', Sites.multiply s ⟨a, n⟩ ⟨b, n⟩ ⟨c, n⟩ sites m = (.ok (), sites', m') ∧
      Shows m' s n a b c { p with c := Plain.multiply n p.a p.b } ∧
      Memory.SameTables m m' ∧ sites'.Ready m' := by
  have his : ∀ i ∈ List.range n, i < n := fun i hi => List.mem_range.mp hi
  obtain ⟨sites', m', hrows, hwritten, hready⟩ := h.factors.rows hsites (List.range n) his
  have hafter := h.factors.of_written hwritten fun k => lt_of_mem_places his
  refine ⟨sites', m', hrows, ?_, hwritten.tables, hready⟩
  refine ⟨hafter.sound, hafter.left, hafter.right, ⟨hafter.mapped, ?_, ?_⟩, h.apartSecond,
    h.apartThird, h.apartFirst⟩
  · exact Plain.size_multiply n p.a p.b
  · refine hwritten.holds fun k hk => ?_
    rw [Plain.size_multiply] at hk
    exact ⟨mem_places hk, (Plain.getD_multiply p.a p.b hk).symm⟩

/-- A round in memory is a round of the plain matrices. Each product overwrites the matrix
that is no factor of it. -/
theorem Shows.round (h : Shows m s n a b c p) (hsites : sites.Ready m) :
    ∃ sites' m', Sites.round s ⟨a, n⟩ ⟨b, n⟩ ⟨c, n⟩ sites m = (.ok (), sites', m') ∧
      Shows m' s n a b c (p.round n) ∧ Memory.SameTables m m' ∧ sites'.Ready m' := by
  obtain ⟨sites₁, m₁, hc, h₁, ht₁, hready₁⟩ := h.multiply hsites
  obtain ⟨sites₂, m₂, hb, h₂, ht₂, hready₂⟩ := h₁.rotate.multiply hready₁
  obtain ⟨sites₃, m₃, ha, h₃, ht₃, hready₃⟩ := h₂.rotate.multiply hready₂
  refine ⟨sites₃, m₃, ?_, h₃.rotate, (ht₁.trans ht₂).trans ht₃, hready₃⟩
  simp only [Sites.round, hc, hb, ha]

theorem Shows.rounds (h : Shows m s n a b c p) (hsites : sites.Ready m) (iterations : Nat) :
    ∃ sites' m', Sites.rounds s ⟨a, n⟩ ⟨b, n⟩ ⟨c, n⟩ iterations sites m =
        (.ok (), sites', m') ∧
      Shows m' s n a b c (Plain.rounds n iterations p) ∧ Memory.SameTables m m' ∧
      sites'.Ready m' := by
  induction iterations generalizing sites m p with
  | zero => exact ⟨sites, m, rfl, h, .refl m, hsites⟩
  | succ iterations ih =>
    obtain ⟨sites₁, m₁, hround, h₁, ht₁, hready₁⟩ := h.round hsites
    obtain ⟨sites', m', hrounds, h', ht', hready⟩ := ih h₁ hready₁
    refine ⟨sites', m', ?_, h', ht₁.trans ht', hready⟩
    simp only [Sites.rounds, hround]
    exact hrounds

end PagedMemory.MatrixTest
