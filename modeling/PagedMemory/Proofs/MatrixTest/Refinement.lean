import Mathlib.Algebra.GroupWithZero.Nat
import Mathlib.Algebra.Ring.Int.Defs
import PagedMemory.Proofs.MatrixTest.Layout
import PagedMemory.Proofs.Session.Runs

/-! The matrix test refines the same products of plain arrays: it fails for its arguments only,
and otherwise memory ends with the plain matrices and the report shows the last product. -/

set_option autoImplicit false

namespace PagedMemory.MatrixTest

open BumpAllocator (pagesFor regionStart)

def Plain.rows (n : Nat) (xs : Array Int32) : List (List Int32) :=
  (List.range n).map fun i => (List.range n).map fun j => xs.getD (i * n + j) 0

def plainRun (draw : Nat → List Int32) (o : Options) : Plain :=
  let n := o.size.toNat
  let data := draw (2 * (n * n))
  Plain.rounds n o.iterations.toNat
    ⟨(data.take (n * n)).toArray, (data.drop (n * n)).toArray, Array.replicate (n * n) 0⟩

variable {m m' : Memory} {s : SpaceId} {n : Nat} {a b c base : Address} {xs : Array Int32}
  {p : Plain}

theorem firstDifference_self (i : Nat) (vs : List Int32) : firstDifference i vs vs = none := by
  induction vs generalizing i with
  | nil => rfl
  | cons v vs ih => simp [firstDifference, ih]

theorem Stores.of_storage_eq (h : Stores m s n base xs) (hs : m'.storage = m.storage) :
    Stores m' s n base xs :=
  ⟨h.mapped.of_sameTables (Memory.sameTables_of_storage_eq hs), h.size, h.holds.of_storage_eq hs⟩

theorem Shows.of_storage_eq (h : Shows m s n a b c p) (hs : m'.storage = m.storage) :
    Shows m' s n a b c p :=
  ⟨h.sound.of_sameTables (Memory.sameTables_of_storage_eq hs), h.first.of_storage_eq hs,
    h.second.of_storage_eq hs, h.third.of_storage_eq hs, h.apartSecond, h.apartThird,
    h.apartFirst⟩

theorem Stores.read (h : Stores m s n base xs) (hm : m.Sound) {i j : Nat} (hi : i < n)
    (hj : j < n) : m.read s (Matrix.entry ⟨base, n⟩ i j) = .ok (xs.getD (i * n + j) 0) := by
  have hplace := index_lt hi hj
  exact h.holds.read hm h.mapped hplace (h.size.symm ▸ hplace)

theorem Stores.verify (h : Stores m s n base xs) (hm : m.Sound) (name : String) :
    ∃ m', MatrixTest.verify s name ⟨base, n⟩ xs m = (.ok (), m') ∧
      m'.storage = m.storage := by
  have hmapped : m.Mapped s base xs.size := h.size ▸ h.mapped
  obtain ⟨site', m', hread, hs⟩ :=
    (CallSite.serving_getSite m).readRun_array hm hmapped h.holds
  refine ⟨m', ?_, hs⟩
  rw [h.size] at hread
  simp only [MatrixTest.verify, hread, firstDifference_self]

theorem Shows.verifyAll (h : Shows m s n a b c p) :
    ∃ m', MatrixTest.verifyAll s
        [("A", ⟨a, n⟩, p.a), ("B", ⟨b, n⟩, p.b), ("C", ⟨c, n⟩, p.c)] m = (.ok (), m') ∧
      m'.storage = m.storage := by
  obtain ⟨m₁, ha, hs₁⟩ := h.first.verify h.sound "A"
  have h₁ := h.of_storage_eq hs₁
  obtain ⟨m₂, hb, hs₂⟩ := h₁.second.verify h₁.sound "B"
  have h₂ := h₁.of_storage_eq hs₂
  obtain ⟨m₃, hc, hs₃⟩ := h₂.third.verify h₂.sound "C"
  refine ⟨m₃, ?_, hs₃.trans (hs₂.trans hs₁)⟩
  simp only [MatrixTest.verifyAll, ha, hb, hc]

theorem chunks_drop (n r i : Nat) (h : (i + r) * n ≤ xs.size) :
    chunks n r (xs.toList.drop (i * n)) =
      (List.range' i r).map fun i => (List.range n).map fun j => xs.getD (i * n + j) 0 := by
  induction r generalizing i with
  | zero => rfl
  | succ r ih =>
    have hrest := ih (i + 1) (by rw [Nat.add_right_comm]; exact h)
    have hrow : (i + 1) * n ≤ xs.size :=
      Nat.le_trans (Nat.mul_le_mul_right n (by omega)) h
    rw [Nat.succ_mul] at hrow hrest
    have hfirst : (xs.toList.drop (i * n)).take n =
        (List.range n).map fun j => xs.getD (i * n + j) 0 := by
      apply List.ext_getElem
      · simp
        omega
      · intro j hj hj'
        have hlt : i * n + j < xs.size := by
          simp only [List.length_map, List.length_range] at hj'
          omega
        simp [hlt]
    simp only [chunks, List.drop_drop, List.range'_succ, List.map_cons, hfirst, hrest]

theorem chunks_eq_rows (h : xs.size = n * n) : chunks n n xs.toList = Plain.rows n xs := by
  have hle : (0 + n) * n ≤ xs.size := by
    rw [Nat.zero_add]
    exact Nat.le_of_eq h.symm
  have hall := chunks_drop n n 0 hle
  rw [Nat.zero_mul, List.drop_zero] at hall
  rw [hall, Plain.rows, List.range_eq_range']

theorem Regions.of_sameTables (h : Regions m s n a b c) (ht : Memory.SameTables m m') :
    Regions m' s n a b c :=
  ⟨h.sound.of_sameTables ht, h.first.of_sameTables ht, h.second.of_sameTables ht,
    h.third.of_sameTables ht, h.apartSecond, h.apartThird, h.apartFirst⟩

theorem Regions.fill (h : Regions m s n a b c) {vs ws : List Int32} (hv : vs.length = n * n)
    (hw : ws.length = n * n) (hzero : ∀ k < n * n, m.contents (elementCell s c k) = 0) :
    ∃ m', MatrixTest.fill s ⟨a, n⟩ ⟨b, n⟩ vs ws m = (.ok (), m') ∧
      Shows m' s n a b c ⟨vs.toArray, ws.toArray, Array.replicate (n * n) 0⟩ ∧
      Memory.SameTables m m' := by
  have hplaces : ∀ {k : Nat}, k ∈ List.range' 0 (n * n) → k < n * n := fun hk => by
    have hlt := (List.mem_range'_1.mp hk).2
    omega
  have hvsize : vs.toArray.size = n * n := hv
  have hwsize : ws.toArray.size = n * n := hw
  have hthird : Stores m s n c (Array.replicate (n * n) 0) := by
    refine ⟨h.third, Array.size_replicate, fun k hk => ?_⟩
    rw [Array.size_replicate] at hk
    simp [hzero k hk, hk]
  have hmapped : m.Mapped s a vs.toArray.size := hvsize ▸ h.first
  obtain ⟨_, m₁, hfirst, hwritten₁, hholds₁⟩ :=
    (CallSite.serving_setSite m).writeRun_array h.sound hmapped
  rw [hvsize] at hwritten₁
  have h₁ := h.of_sameTables hwritten₁.tables
  have hthird₁ := hthird.of_written h.sound h.first h.apartFirst.symm hwritten₁ fun k => hplaces
  have hmapped₁ : m₁.Mapped s b ws.toArray.size := hwsize ▸ h₁.second
  obtain ⟨_, m₂, hsecond, hwritten₂, hholds₂⟩ :=
    (CallSite.serving_setSite m₁).writeRun_array h₁.sound hmapped₁
  rw [hwsize] at hwritten₂
  have h₂ := h₁.of_sameTables hwritten₂.tables
  have hfirst₁ : Stores m₁ s n a vs.toArray := ⟨h₁.first, hvsize, hholds₁⟩
  have hfirst₂ := hfirst₁.of_written h₁.sound h₁.second h.apartSecond.symm hwritten₂
    fun k => hplaces
  have hthird₂ := hthird₁.of_written h₁.sound h₁.second h.apartThird hwritten₂ fun k => hplaces
  refine ⟨m₂, ?_, ⟨h₂.sound, hfirst₂, ⟨h₂.second, hwsize, hholds₂⟩, hthird₂, h.apartSecond,
    h.apartThird, h.apartFirst⟩, hwritten₁.tables.trans hwritten₂.tables⟩
  simp only [MatrixTest.fill, hfirst, hsecond]

structure Report.Describes (report : Report) (o : Options) (a b c : Address) (p : Plain) :
    Prop where
  matrices : report.matrices = [a, b, c]
  checksum : report.checksum = (p.c.toList.map Int32.toInt).sum
  result : report.result = if o.print then some (Plain.rows o.size.toNat p.c) else none

theorem foldl_toInt (vs : List Int32) (sum : Int) :
    vs.foldl (fun sum v => sum + v.toInt) sum = sum + (vs.map Int32.toInt).sum := by
  induction vs generalizing sum with
  | nil => simp
  | cons v vs ih => rw [List.foldl_cons, ih, List.map_cons, List.sum_cons, Int.add_assoc]

theorem Regions.exercise {o : Options} (h : Regions m s n a b c) (hn : o.size.toNat = n)
    {vs ws : List Int32} (hv : vs.length = n * n) (hw : ws.length = n * n)
    (hzero : ∀ k < n * n, m.contents (elementCell s c k) = 0) (hp : p =
      Plain.rounds n o.iterations.toNat ⟨vs.toArray, ws.toArray, Array.replicate (n * n) 0⟩) :
    ∃ report m', MatrixTest.exercise m s o ⟨a, n⟩ ⟨b, n⟩ ⟨c, n⟩ vs ws = (.ok report, m') ∧
      Shows m' s n a b c p ∧ report.Describes o a b c p ∧
      report.pages = (m.table s).size := by
  obtain rfl := hn
  obtain ⟨m₁, hfill, hshows₁, ht₁⟩ := h.fill hv hw hzero
  obtain ⟨sites, m₂, hrounds, hshows₂, ht₂, _⟩ :=
    hshows₁.rounds (Sites.ready m₁) o.iterations.toNat
  rw [← hp] at hshows₂
  obtain ⟨m₃, hverify, hs₃⟩ := hshows₂.verifyAll
  have hshows₃ := hshows₂.of_storage_eq hs₃
  simp only [MatrixTest.exercise, hfill, hrounds, ← hp, hverify]
  refine ⟨_, _, rfl, hshows₃.of_storage_eq (Memory.storage_note _ _), ⟨rfl, ?_, ?_⟩, ?_⟩
  · simp only [foldl_toInt, Int.zero_add]
  · simp only [chunks_eq_rows hshows₃.third.size]
  · have htable : m₃.table s = m.table s :=
      (Memory.table_congr hs₃ s).trans ((ht₂.table s).trans (ht₁.table s))
    simp only [htable, (h.sound.aligned s).kinds, PageTable.size]
    simp

/-- The two checked products come to the number of bytes, or to the largest word. -/
theorem bytes_eq (size : UInt64) :
    bytes size = if size.toNat * size.toNat * 4 ≤ pageSize then .ok (size.toNat * size.toNat * 4)
      else .error
        (.allocationTooLarge (min (size.toNat * size.toNat * 4) (2 ^ 64 - 1)) pageSize) := by
  have hpage : pageSize < UInt64.size := by decide
  have hword : UInt64.size = 2 ^ 64 := rfl
  unfold bytes
  cases hsquare : checkedMul size size with
  | none =>
    have hlarge := checkedMul_eq_none_iff.mp hsquare
    rw [if_neg (by omega), Nat.min_eq_right (by omega)]
    rfl
  | some n =>
    have hn := toNat_of_checkedMul hsquare
    cases hbytes : checkedMul n 4 with
    | none =>
      have hlarge := checkedMul_eq_none_iff.mp hbytes
      rw [hn, show (4 : UInt64).toNat = 4 from rfl] at hlarge
      simp only [Option.bind_some, hbytes]
      rw [if_neg (by omega), Nat.min_eq_right (by omega), hword]
    | some k =>
      have hk := toNat_of_checkedMul hbytes
      have hlt := k.toNat_lt
      rw [hn, show (4 : UInt64).toNat = 4 from rfl] at hk
      simp only [Option.bind_some, hbytes]
      rw [hk] at hlt ⊢
      rw [Nat.min_eq_left (by omega)]

theorem bytes_of_le {size : UInt64} (h : size.toNat * size.toNat * 4 ≤ pageSize) :
    bytes size = .ok (size.toNat * size.toNat * 4) := by
  rw [bytes_eq, if_pos h]

theorem bytes_of_lt {size : UInt64} (h : pageSize < size.toNat * size.toNat * 4) :
    bytes size = .error
      (.allocationTooLarge (min (size.toNat * size.toNat * 4) (2 ^ 64 - 1)) pageSize) := by
  rw [bytes_eq, if_neg (Nat.not_le_of_lt h)]

theorem runWith_of_zero (draw : Nat → List Int32) (m : Memory) {o : Options}
    (hn : o.size.toNat = 0) :
    (runWith draw m o).1 = .error (.validation "size must be > 0") := by
  simp only [runWith, if_pos hn]

theorem runWith_of_large (draw : Nat → List Int32) (m : Memory) {o : Options}
    (hpos : 0 < o.size.toNat) (large : pageSize < o.size.toNat * o.size.toNat * 4) :
    (runWith draw m o).1 = .error (.memory
      (.allocationTooLarge (min (o.size.toNat * o.size.toNat * 4) (2 ^ 64 - 1)) pageSize)) := by
  simp only [runWith, if_neg (Nat.ne_of_gt hpos), bytes_of_lt large]

theorem runWith_of_invalid (draw : Nat → List Int32) (m : Memory) {o : Options}
    (hpos : 0 < o.size.toNat) (fits : o.size.toNat * o.size.toNat * 4 ≤ pageSize)
    {e : ConfigError} (he : o.config.validate = .error e) :
    (runWith draw m o).1 = .error (.memory (.configuration e)) := by
  simp only [runWith, if_neg (Nat.ne_of_gt hpos), bytes_of_le fits, Memory.openSpace, he]

theorem runWith_of_fits (hm : m.Sound) (hgrants : m.supply.Grants m.spaces.size)
    {o : Options} (hn : o.size.toNat = n) (hpos : 0 < n)
    (fits : n * n * 4 ≤ pageSize) (hvalid : o.config.Valid) {draw : Nat → List Int32}
    (hdraw : ∀ k, (draw k).length = k) :
    (o.config.maxPages.toNat < pagesFor (n * n * 4) 3 →
      (runWith draw m o).1 =
        .error (.memory (.addressSpaceExhausted o.config.maxPages.toNat))) ∧
    (pagesFor (n * n * 4) 3 ≤ o.config.maxPages.toNat →
      ∃ a b c report, (runWith draw m o).1 = .ok report ∧
        Shows (runWith draw m o).2 m.spaces.size n a b c (plainRun draw o) ∧
        report.Describes o a b c (plainRun draw o) ∧ report.pages = pagesFor (n * n * 4) 3) := by
  obtain rfl := hn
  have hbytes := bytes_of_le fits
  obtain ⟨m₀, hopen, hopened⟩ := opened_openSpace hm hvalid
  have hconfig := hopened.config
  have hplaces := places_place hopened.sound hopened.known hopened.empty
    (Nat.mul_pos (Nat.mul_pos hpos hpos) (by decide)) fits (Nat.mul_mod_left _ 4)
    (if o.mixed then .alternate o.config.defaultKind else .default)
  have hdata := hdraw (2 * (o.size.toNat * o.size.toNat))
  simp only [runWith, if_neg (Nat.ne_of_gt hpos), hbytes, hopen]
  generalize place m₀ m.spaces.size
    (if o.mixed then .alternate o.config.defaultKind else .default)
    (o.size.toNat * o.size.toNat * 4) = r at hplaces
  cases hplaces with
  | exhausted full =>
    rw [hconfig] at full ⊢
    exact ⟨fun _ => rfl, fun room => absurd full (Nat.not_lt_of_le room)⟩
  | refused hrefused => exact absurd (hopened.supply ▸ hgrants) hrefused
  | @placed a b c m₁ room ha hb hc pages he =>
    rw [hconfig] at room
    refine ⟨fun full => absurd full (Nat.not_lt_of_le room), fun _ => ?_⟩
    have hregions := regions_of_starts (he.sound hopened.sound) hpos fits ha hb hc pages
    let m₂ := m₁.note (.progress (.matricesPlaced a b c))
    have hnote : m₂.storage = m₁.storage := Memory.storage_note _ _
    have hregions₂ := hregions.of_sameTables (Memory.sameTables_of_storage_eq hnote)
    have hzero₂ : ∀ k < o.size.toNat * o.size.toNat,
        m₂.contents (elementCell m.spaces.size c k) = 0 := by
      intro k _
      rw [Memory.contents_of_storage_eq hnote, he.contents hopened.sound]
      exact hopened.zero _ rfl
    obtain ⟨report, m', hrun, hshows, hdescribes, hpages⟩ :=
      hregions₂.exercise (o := o) rfl (by rw [List.length_take, hdata]; omega)
        (by rw [List.length_drop, hdata]; omega) hzero₂ (p := plainRun draw o) rfl
    refine ⟨a, b, c, report, ?_, ?_, hdescribes, ?_⟩
    · exact congrArg Prod.fst hrun
    · exact (congrArg Prod.snd hrun).symm ▸ hshows
    · rw [hpages, Memory.table_congr hnote, pages]

/-- The matrix test against plain arithmetic, in any memory that a session has reached. It
fails for a size of zero, for matrices that are larger than a page, for an invalid
configuration and for too few pages, and for nothing else as long as the system grants the
pages. Otherwise the three matrices in
memory are those that the same products of plain arrays end with, and the report shows the
sum and the rows of the last product. -/
theorem run_refines_plain {x : Session} (hx : x.Reachable)
    (hgrants : x.memory.supply.Grants x.memory.spaces.size) (o : Options)
    {draw : Nat → List Int32} (hdraw : ∀ k, (draw k).length = k) :
    let n := o.size.toNat
    let size := 4 * n * n
    let s := x.memory.spaces.size
    let p := plainRun draw o
    let answer := (runWith draw x.memory o).1
    let m := (runWith draw x.memory o).2
    (n = 0 → answer = .error (.validation "size must be > 0")) ∧
    (0 < n → pageSize < size →
      answer = .error (.memory (.allocationTooLarge (min size (2 ^ 64 - 1)) pageSize))) ∧
    (0 < n → size ≤ pageSize →
      (∀ e, o.config.validate = .error e → answer = .error (.memory (.configuration e))) ∧
      (o.config.Valid → o.config.maxPages.toNat < pagesFor size 3 →
        answer = .error (.memory (.addressSpaceExhausted o.config.maxPages.toNat))) ∧
      (o.config.Valid → pagesFor size 3 ≤ o.config.maxPages.toNat →
        ∃ a b c report, answer = .ok report ∧
          (∀ i < n, ∀ j < n,
            m.read s (Matrix.entry ⟨a, n⟩ i j) = .ok (p.a.getD (i * n + j) 0) ∧
            m.read s (Matrix.entry ⟨b, n⟩ i j) = .ok (p.b.getD (i * n + j) 0) ∧
            m.read s (Matrix.entry ⟨c, n⟩ i j) = .ok (p.c.getD (i * n + j) 0)) ∧
          report.Describes o a b c p ∧ report.pages = pagesFor size 3)) := by
  intro n size s p answer m
  obtain ⟨l, hfits⟩ := hx.fits
  have hsize : n * n * 4 = size := by
    rw [Nat.mul_comm, ← Nat.mul_assoc]
  refine ⟨runWith_of_zero draw x.memory, ?_, ?_⟩
  · intro hpos large
    rw [← hsize] at large ⊢
    exact runWith_of_large draw x.memory hpos large
  · intro hpos fits
    rw [← hsize] at fits ⊢
    refine ⟨fun e => runWith_of_invalid draw x.memory hpos fits,
      fun hvalid => (runWith_of_fits hfits.sound hgrants rfl hpos fits hvalid hdraw).1, ?_⟩
    intro hvalid room
    obtain ⟨a, b, c, report, hanswer, hshows, hdescribes, hpages⟩ :=
      (runWith_of_fits hfits.sound hgrants rfl hpos fits hvalid hdraw).2 room
    refine ⟨a, b, c, report, hanswer, ?_, hdescribes, hpages⟩
    intro i hi j hj
    exact ⟨hshows.first.read hshows.sound hi hj, hshows.second.read hshows.sound hi hj,
      hshows.third.read hshows.sound hi hj⟩

/-- Two by two matrices of the numbers from zero to seven. -/
theorem run_refines_plain_two_by_two :
    let draw : Nat → List Int32 := fun k => (List.range k).map fun i => Int32.ofNat i
    let o : Options := { size := 2, iterations := 1, print := true, mixed := true }
    let x := Session.start 1 {}
    x.Reachable ∧ x.memory.supply.Grants x.memory.spaces.size ∧ (∀ k, (draw k).length = k) ∧
      ∃ report, (runWith draw x.memory o).1 = .ok report ∧
        report.result = some [[6, 7], [26, 31]] ∧ report.checksum = 70 ∧ report.pages = 1 := by
  intro draw o x
  have hx : x.Reachable := ⟨1, {}, _, [], rfl⟩
  have hdraw : ∀ k, (draw k).length = k := fun k => by simp [draw]
  have hgrants := Supply.grants_unlimited x.memory.spaces.size
  refine ⟨hx, hgrants, hdraw, ?_⟩
  have h := run_refines_plain hx hgrants o hdraw
  obtain ⟨a, b, c, report, hanswer, _, hdescribes, hpages⟩ :=
    (h.2.2 (by decide) (by decide)).2.2 (by decide) (by decide)
  refine ⟨report, hanswer, hdescribes.result.trans ?_, hdescribes.checksum.trans ?_,
    hpages.trans ?_⟩
  · decide
  · decide
  · decide

end PagedMemory.MatrixTest
