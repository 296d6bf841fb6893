import Mathlib.Algebra.GroupWithZero.Nat
import PagedMemory.Keystream
import PagedMemory.MemoryTest
import PagedMemory.Proofs.MatrixTest.Layout
import PagedMemory.Proofs.MatrixTest.Switches
import PagedMemory.Proofs.Session.Runs

/-! The memory test. It passes if the configuration is valid and the numbers fit in a page, whatever
the numbers are, and fails only for being asked too much. Its numbers lie in the first page of the
space, each in a cell of its own, so that they are read back as written and no site relinks. -/

set_option autoImplicit false

namespace PagedMemory

variable {m m' : Memory} {s : SpaceId} {base : Address} {n i : Nat} {t : Bet}

def Memory.Aimed (m : Memory) (s : SpaceId) (base : Address) (n : Nat) (t : Bet) : Prop :=
  ∀ k < n, m.target? s (base.plusElements k).page = some t

namespace Memory

theorem Aimed.of_sameTables (h : m.Aimed s base n t) (ht : m.SameTables m') :
    m'.Aimed s base n t := by
  intro k hk
  rw [ht.target?]
  exact h k hk

theorem aimed_of_page {p : Page} (hm : m.Sound) (hmapped : m.Mapped s base n)
    (within : base.toNat % 4096 + 4 * n ≤ 4096) (hp : (m.table s).page? base.page = some p) :
    m.Aimed s base n ⟨s, (m.table s).generation, p.kind⟩ := by
  intro k hk
  have hpage : (base.plusElements k).page = base.page := by
    rw [← UInt32.toNat_inj, Address.toNat_page, Address.toNat_page,
      hmapped.toNat_plusElements hm hk]
    omega
  rw [hpage]
  exact target?_of_page hp

end Memory

namespace Shadow

theorem relinks_replicate (t : Bet) (n : Nat) :
    (({} : Shadow).run (.replicate n (.hit t))).relinks = 0 := by
  rcases Nat.eq_zero_or_pos n with rfl | hpos
  · rfl
  · rw [run_replicate _ _ hpos]
    rfl

end Shadow

namespace CallSite

theorem Serving.shadow_writeRun {site site' : CallSite .setElement} (h : site.Serving m)
    (hm : m.Sound) (ht : m.Aimed s base n t) {vs : List Int32} (hn : i + vs.length ≤ n)
    (hrun : CallSite.writeRun s base vs i site m = (.ok (), site', m')) :
    site'.shadow = site.shadow.run (.replicate vs.length (.hit t)) := by
  induction vs generalizing i site m with
  | nil =>
    cases hrun
    rfl
  | cons v vs ih =>
    rw [List.length_cons] at hn
    cases hcall : site.call m s (base.plusElements i, v) with
    | mk answer rest =>
      obtain ⟨site₁, m₁⟩ := rest
      simp only [CallSite.writeRun, hcall] at hrun
      cases answer with
      | error e => cases hrun
      | ok u =>
        obtain ⟨hserving, hsame, hfirst⟩ := h.after_call hm hcall (ht i (by omega))
        have hrest := ih hserving (hm.of_sameTables hsame) (ht.of_sameTables hsame) (i := i + 1)
          (by omega) hrun
        rw [hrest, hfirst, ← Shadow.run_append]
        rfl

end CallSite

namespace MemoryTest

open MatrixTest (opened_openSpace)

theorem check_of_contents (count : Nat) {site : CallSite .getElement} (h : site.Serving m)
    (hm : m.Sound) (hmapped : m.Mapped s base n) (ht : m.Aimed s base n t) (hn : i + count ≤ n) :
    ∃ site' m', check s base ((List.range' i count).map fun k =>
        m.contents (elementCell s base k)) i site m = (.ok (), site', m') ∧
      m'.storage = m.storage ∧ site'.shadow = site.shadow.run (.replicate count (.hit t)) := by
  induction count generalizing i site m with
  | zero => exact ⟨site, m, rfl, rfl, rfl⟩
  | succ count ih =>
    obtain ⟨site₁, m₁, hcall, hs, hserving⟩ := h.get hm hmapped (k := i) (by omega)
    obtain ⟨_, hsame, hfirst⟩ := h.after_call hm hcall (ht i (by omega))
    obtain ⟨site', m', hrest, hs', hshadow⟩ := ih (i := i + 1) hserving (hm.of_sameTables hsame)
      (hmapped.of_sameTables hsame) (ht.of_sameTables hsame) (by omega)
    refine ⟨site', m', ?_, hs'.trans hs, ?_⟩
    · simp only [Memory.contents_of_storage_eq hs] at hrest
      simp only [List.range'_succ, List.map_cons, check, hcall, if_true, hrest]
    · rw [hshadow, hfirst, ← Shadow.run_append]
      rfl

/-- Numbers written to a region of one page are read back, and both sites relink never. -/
theorem exercise_of_aimed (hm : m.Sound) {data : List Int32} (hmapped : m.Mapped s base data.length)
    (ht : m.Aimed s base data.length t) (count seed : UInt64) :
    ∃ m', exercise m s base count seed data =
        (.ok ⟨count, base, seed, 0, (m.table s).size⟩, m') ∧
      m.SameTables m' ∧ m'.Holds s base data.toArray := by
  let m₀ := m.note (.progress (.memoryTestRegion base count.toNat seed))
  have ht₀ : m.SameTables m₀ := Memory.sameTables_of_storage_eq (Memory.storage_note _ _)
  have hm₀ := hm.of_sameTables ht₀
  have hmapped₀ : m₀.Mapped s base data.toArray.size := hmapped.of_sameTables ht₀
  have hsetting := CallSite.serving_setSite m₀
  obtain ⟨set, m₁, hwriteArray, hwritten, hholds⟩ := hsetting.writeRun_array hm₀ hmapped₀
  have hwrite : CallSite.writeRun s base data 0 setSite m₀ = (.ok (), set, m₁) := hwriteArray
  have ht₁ := ht₀.trans hwritten.tables
  have hm₁ := hm.of_sameTables ht₁
  obtain ⟨get, m₂, hcheck, hs, hget⟩ := check_of_contents data.length
    (CallSite.serving_getSite m₁) hm₁ (hmapped.of_sameTables ht₁) (ht.of_sameTables ht₁)
    (Nat.le_of_eq (Nat.zero_add _))
  have hset := hsetting.shadow_writeRun hm₀ (ht.of_sameTables ht₀)
    (Nat.le_of_eq (Nat.zero_add _)) hwrite
  have hsetRelinks : set.relinks = 0 :=
    (congrArg Shadow.relinks hset).trans (Shadow.relinks_replicate t _)
  have hgetRelinks : get.relinks = 0 :=
    (congrArg Shadow.relinks hget).trans (Shadow.relinks_replicate t _)
  have htable : m₂.table s = m.table s := (Memory.table_congr hs s).trans (ht₁.table s)
  have hdata : ((List.range' 0 data.length).map fun k => m₁.contents (elementCell s base k)) =
      data := CallSite.contents_of_holds hholds
  rw [hdata] at hcheck
  let m' := m₂.note (.progress (.memoryTestPassed count.toNat base))
  have hs' : m'.storage = m₁.storage := (Memory.storage_note _ _).trans hs
  refine ⟨m', ?_, ht₁.trans (Memory.sameTables_of_storage_eq hs'), hholds.of_storage_eq hs'⟩
  simp only [exercise, hcheck, hsetRelinks, hgetRelinks, htable, hwrite, m₀, m']

theorem malloc_of_empty (hm : m.Sound) (hgrants : m.supply.Grants s)
    (hempty : (m.table s).size = 0) (room : 0 < (m.space s).config.maxPages.toNat) {size : Nat}
    (fits : size ≤ pageSize) :
    ∃ alloc m', BumpAllocator.malloc { policy := .default } m s size = (.ok 0, alloc, m') ∧
      m'.Sound ∧ (m'.table s).size = 1 := by
  have hanswer := BumpAllocator.answers_malloc { policy := .default } m s size
  generalize BumpAllocator.malloc { policy := .default } m s size = r at hanswer
  cases hanswer with
  | tooLarge large => exact absurd fits (Nat.not_le_of_lt large)
  | refused _ hr =>
    obtain ⟨base, m₁, hok⟩ :=
      Memory.allocatePage_of_room (hempty ▸ room) (Memory.refusal?_of_grants hgrants _)
    cases hok.symm.trans hr
  | cut _ hc _ => contradiction
  | @claimed _ _ base m₁ m' hr hs =>
    obtain ⟨hbase, hsize⟩ := hm.toNat_of_allocatePage hr
    rw [hempty] at hbase hsize
    obtain rfl : base = 0 := UInt32.toNat_inj.mp hbase
    have hm₁ := (Memory.advance_allocatePage m s none).sound hm
    rw [show m.allocatePage s none = (.ok 0, m₁) from hr] at hm₁
    exact ⟨_, m', rfl, hm₁.of_sameTables (Memory.sameTables_of_storage_eq hs),
      (congrArg PageTable.size (Memory.table_congr hs s)).trans hsize⟩

variable {count : UInt64} {config : Config} {draw : Nat → List Int32}

theorem bytes_of_lt (h : 4 * count.toNat < 2 ^ 64) : bytes count = .ok (4 * count.toNat) := by
  have hfour : (4 : UInt64).toNat = 4 := rfl
  have hword : UInt64.size = 2 ^ 64 := rfl
  unfold bytes
  cases hbytes : checkedMul count 4 with
  | none =>
    have hover := checkedMul_eq_none_iff.mp hbytes
    rw [hfour] at hover
    omega
  | some n =>
    dsimp only
    rw [toNat_of_checkedMul hbytes, hfour, Nat.mul_comm]

theorem bytes_of_le (h : 2 ^ 64 ≤ 4 * count.toNat) :
    bytes count = .error (.allocationTooLarge (min (4 * count.toNat) (2 ^ 64 - 1)) pageSize) := by
  have hfour : (4 : UInt64).toNat = 4 := rfl
  have hword : UInt64.size = 2 ^ 64 := rfl
  have hnone : checkedMul count 4 = none := by
    rw [checkedMul_eq_none_iff, hfour]
    omega
  simp only [bytes, hnone]
  rw [Nat.min_eq_right (by omega), hword]

def Found (m : Memory) (s : SpaceId) (data : List Int32) : Prop :=
  ∀ k v, data[k]? = some v → m.read s ((0 : Address).plusElements k) = .ok v

theorem runWith_of_overflow (draw : Nat → List Int32) (m : Memory) (config : Config) (seed : UInt64)
    (h : 2 ^ 64 ≤ 4 * count.toNat) : runWith draw m config count seed = (.error (.memory
      (.allocationTooLarge (min (4 * count.toNat) (2 ^ 64 - 1)) pageSize)), m) := by
  simp only [runWith, bytes_of_le h]

theorem runWith_of_invalid (draw : Nat → List Int32) (m : Memory) (seed : UInt64)
    (h : 4 * count.toNat < 2 ^ 64) {cause : ConfigError} (hc : config.validate = .error cause) :
    runWith draw m config count seed = (.error (.memory (.configuration cause)), m) := by
  simp only [runWith, bytes_of_lt h, Memory.openSpace, hc]

theorem runWith_of_large (draw : Nat → List Int32) (hm : m.Sound) (seed : UInt64)
    (h : 4 * count.toNat < 2 ^ 64) (hvalid : config.Valid) (large : pageSize < 4 * count.toNat) :
    ∃ m', runWith draw m config count seed = (.error (.memory
      (.allocationTooLarge (min (4 * count.toNat) (2 ^ 64 - 1)) pageSize)), m') := by
  obtain ⟨m₀, hopen, _⟩ := opened_openSpace hm hvalid
  have hmin : min (4 * count.toNat) (2 ^ 64 - 1) = 4 * count.toNat := by omega
  simp only [runWith, bytes_of_lt h, hopen, BumpAllocator.malloc, if_pos large, hmin]
  exact ⟨_, rfl⟩

theorem runWith_of_fits (hm : m.Sound) (hgrants : m.supply.Grants m.spaces.size)
    (seed : UInt64) (hvalid : config.Valid) (fits : 4 * count.toNat ≤ pageSize)
    (hdraw : (draw count.toNat).length ≤ count.toNat) :
    ∃ m', runWith draw m config count seed = (.ok ⟨count, 0, seed, 0, 1⟩, m') ∧
      Found m' m.spaces.size (draw count.toNat) := by
  have hpage : 4 * count.toNat ≤ 4096 := fits
  obtain ⟨m₀, hopen, hopened⟩ := opened_openSpace hm hvalid
  have room : 0 < (m₀.space m.spaces.size).config.maxPages.toNat := by
    rw [hopened.config]
    exact hvalid.1
  obtain ⟨alloc, m₁, hmalloc, hm₁, hsize⟩ :=
    malloc_of_empty hopened.sound (hopened.supply ▸ hgrants) hopened.empty room fits
  have hmapped : m₁.Mapped m.spaces.size 0 (draw count.toNat).length := by
    refine ⟨rfl, ?_⟩
    rw [hsize, UInt32.toNat_zero]
    omega
  have hpages : (0 : Address).page.toNat < (m₁.table m.spaces.size).pages.size := by
    have hone : (m₁.table m.spaces.size).pages.size = 1 := hsize
    rw [hone, Address.toNat_page, UInt32.toNat_zero]
    decide
  have haimed := Memory.aimed_of_page hm₁ hmapped
    (by rw [UInt32.toNat_zero]; omega) (Array.getElem?_eq_getElem hpages)
  obtain ⟨m', hexercise, htables, hholds⟩ := exercise_of_aimed hm₁ hmapped haimed count seed
  rw [hsize] at hexercise
  have hbytes : bytes count = .ok (4 * count.toNat) := bytes_of_lt (by omega)
  refine ⟨m', ?_, fun k v hv => ?_⟩
  · simp only [runWith, hbytes, hopen, hmalloc, hexercise]
  · obtain ⟨hk, rfl⟩ := List.getElem?_eq_some_iff.mp hv
    have hread := hholds.read (hm₁.of_sameTables htables) (hmapped.of_sameTables htables) hk hk
    rw [hread]
    simp [hk]

inductive Outcome (config : Config) (count seed : UInt64) (s : SpaceId) (data : List Int32) :
    Except ToolError Report × Memory → Prop where
  | tooLarge {m' : Memory} (large : pageSize < 4 * count.toNat)
      (first : config.Valid ∨ 2 ^ 64 ≤ 4 * count.toNat) :
      Outcome config count seed s data (.error (.memory
        (.allocationTooLarge (min (4 * count.toNat) (2 ^ 64 - 1)) pageSize)), m')
  | invalid {cause : ConfigError} {m' : Memory} (hc : config.validate = .error cause)
      (first : 4 * count.toNat < 2 ^ 64) :
      Outcome config count seed s data (.error (.memory (.configuration cause)), m')
  | passed {m' : Memory} (valid : config.Valid) (fits : 4 * count.toNat ≤ pageSize)
      (found : Found m' s data) :
      Outcome config count seed s data (.ok ⟨count, 0, seed, 0, 1⟩, m')

theorem outcome_runWith (hm : m.Sound) (hgrants : m.supply.Grants m.spaces.size)
    (config : Config) (count seed : UInt64)
    (hdraw : (draw count.toNat).length ≤ count.toNat) :
    Outcome config count seed m.spaces.size (draw count.toNat)
      (runWith draw m config count seed) := by
  rcases Nat.lt_or_ge (4 * count.toNat) (2 ^ 64) with hunder | hover
  · cases hc : config.validate with
    | error cause =>
      rw [runWith_of_invalid draw m seed hunder hc]
      exact .invalid hc hunder
    | ok u =>
      have valid := (Config.validate_eq_ok_iff config).mp hc
      rcases Nat.lt_or_ge pageSize (4 * count.toNat) with large | fits
      · obtain ⟨m', hrun⟩ := runWith_of_large draw hm seed hunder valid large
        rw [hrun]
        exact .tooLarge large (.inl valid)
      · obtain ⟨m', hrun, hfound⟩ := runWith_of_fits hm hgrants seed valid fits hdraw
        rw [hrun]
        exact .passed valid fits hfound
  · have hpage : pageSize < 2 ^ 64 := by decide
    rw [runWith_of_overflow draw m config seed hover]
    exact .tooLarge (Nat.lt_of_lt_of_le hpage hover) (.inr hover)

/-- The memory test passes exactly if the configuration is valid and the numbers fit in a page,
whichever numbers are drawn; the report is then of one page, from its start on, and of no relinks,
and the page holds the numbers. Otherwise the number of bytes is refused or the configuration is,
the latter first unless the number is one that 64 bits cannot hold. There is no other failure as
long as the system grants the page. -/
theorem run_passes_iff {x : Session} (hx : x.Reachable)
    (hgrants : x.memory.supply.Grants x.memory.spaces.size) (config : Config)
    (count seed : UInt64) {draw : Nat → List Int32}
    (hdraw : (draw count.toNat).length ≤ count.toNat) :
    let size := 4 * count.toNat
    let answer := (runWith draw x.memory config count seed).1
    let m := (runWith draw x.memory config count seed).2
    let tooLarge := MemoryError.allocationTooLarge (min size (2 ^ 64 - 1)) pageSize
    ((∃ report, answer = .ok report) ↔ config.Valid ∧ size ≤ pageSize) ∧
    (∀ report, answer = .ok report → report = ⟨count, 0, seed, 0, 1⟩ ∧
      ∀ k v, (draw count.toNat)[k]? = some v →
        m.read x.memory.spaces.size (report.base.plusElements k) = .ok v) ∧
    (∀ e, answer = .error e →
      e = .memory tooLarge ∨ ∃ cause, e = .memory (.configuration cause)) ∧
    (answer = .error (.memory tooLarge) ↔ pageSize < size ∧ (config.Valid ∨ 2 ^ 64 ≤ size)) ∧
    ∀ cause, answer = .error (.memory (.configuration cause)) ↔
      config.validate = .error cause ∧ size < 2 ^ 64 := by
  intro size answer m tooLarge
  obtain ⟨_, hf⟩ := hx.fits
  have houtcome : Outcome config count seed x.memory.spaces.size (draw count.toNat) (answer, m) :=
    outcome_runWith hf.sound hgrants config count seed hdraw
  have hnot : ∀ {cause : ConfigError}, config.validate = .error cause → ¬ config.Valid := by
    intro cause hc valid
    rw [(Config.validate_eq_ok_iff config).mpr valid] at hc
    contradiction
  generalize answer = a at houtcome
  generalize m = m' at houtcome
  cases houtcome with
  | tooLarge large first =>
    have hfits : ¬ (config.Valid ∧ size ≤ pageSize) := fun h => absurd h.2 (Nat.not_le_of_lt large)
    have hearlier : ∀ cause, ¬ (config.validate = .error cause ∧ size < 2 ^ 64) := fun cause h =>
      first.elim (fun valid => hnot h.1 valid) fun hover => absurd h.2 (Nat.not_lt_of_le hover)
    refine ⟨iff_of_false (by simp) hfits, by simp, fun e h => ?_, iff_of_true rfl ⟨large, first⟩,
      fun cause => iff_of_false (by simp) (hearlier cause)⟩
    exact .inl (Except.error.inj h).symm
  | @invalid cause _ hc hunder =>
    have hfits : ¬ (config.Valid ∧ size ≤ pageSize) := fun h => hnot hc h.1
    have hlater : ¬ (pageSize < size ∧ (config.Valid ∨ 2 ^ 64 ≤ size)) := fun h =>
      h.2.elim (hnot hc) (Nat.not_le_of_lt hunder)
    refine ⟨iff_of_false (by simp) hfits, by simp, fun e h => ?_,
      iff_of_false (by simp [tooLarge]) hlater, fun cause' => ?_⟩
    · exact .inr ⟨cause, (Except.error.inj h).symm⟩
    · rw [hc]
      exact ⟨fun h => ⟨by simpa using h, hunder⟩, fun h => by simpa using h.1⟩
  | passed valid fits found =>
    have hlarge : ¬ (pageSize < size ∧ (config.Valid ∨ 2 ^ 64 ≤ size)) := fun h =>
      absurd h.1 (Nat.not_lt_of_le fits)
    have hinvalid : ∀ cause, ¬ (config.validate = .error cause ∧ size < 2 ^ 64) := fun cause h =>
      hnot h.1 valid
    refine ⟨iff_of_true ⟨_, rfl⟩ ⟨valid, fits⟩, fun report h => ?_, by simp,
      iff_of_false (by simp) hlarge, fun cause => iff_of_false (by simp) (hinvalid cause)⟩
    obtain rfl := Except.ok.inj h
    exact ⟨rfl, found⟩

/-- A hundred numbers of the generator that the tools draw from. -/
theorem run_passes_hundred :
    let x := Session.start 1 {}
    x.Reachable ∧ x.memory.supply.Grants x.memory.spaces.size ∧
      (Keystream.ints 1 (100 : UInt64).toNat).length ≤ (100 : UInt64).toNat ∧
      (runWith (Keystream.ints 1) x.memory {} 100 1).1 = .ok ⟨100, 0, 1, 0, 1⟩ := by
  intro x
  have hx : x.Reachable := ⟨1, {}, _, [], rfl⟩
  have hdraw : (Keystream.ints 1 (100 : UInt64).toNat).length ≤ (100 : UInt64).toNat :=
    Nat.le_of_eq (Keystream.length_ints 1 _)
  have hgrants := Supply.grants_unlimited x.memory.spaces.size
  obtain ⟨hiff, hreport, _⟩ := run_passes_iff hx hgrants {} 100 1 hdraw
  obtain ⟨report, h⟩ := hiff.mpr ⟨by decide, by decide⟩
  exact ⟨hx, hgrants, hdraw, (hreport report h).1 ▸ h⟩

end MemoryTest

end PagedMemory
