import PagedMemory.ElementRun
import PagedMemory.Proofs.Call
import PagedMemory.Proofs.Memory.Effects

/-! Regions of consecutive elements, and what runs over them do. A region on mapped pages can
be written and read element by element without an error, whatever its sites have cached; its
elements are cells of their own, and no other cell is written. -/

set_option autoImplicit false

namespace PagedMemory

def elementCell (s : SpaceId) (base : Address) (k : Nat) : Cell :=
  Address.cell s (base.plusElements k)

namespace Memory

structure Mapped (m : Memory) (s : SpaceId) (base : Address) (n : Nat) : Prop where
  aligned : base.toNat % 4 = 0
  within : base.toNat + 4 * n ≤ 4096 * (m.table s).size

def Holds (m : Memory) (s : SpaceId) (base : Address) (xs : Array Int32) : Prop :=
  ∀ k < xs.size, m.contents (elementCell s base k) = xs.getD k 0

variable {m m' m'' : Memory} {s : SpaceId} {base base' : Address} {n n' k k' : Nat}

theorem Mapped.of_sameTables (h : m.Mapped s base n) (ht : SameTables m m') :
    m'.Mapped s base n := ⟨h.aligned, by rw [ht.table]; exact h.within⟩

theorem Mapped.toNat_plusElements (h : m.Mapped s base n) (hm : m.Sound) (hk : k < n) :
    (base.plusElements k).toNat = base.toNat + 4 * k := by
  have hsize := hm.size_le s
  have hwithin := h.within
  have hoffset : (UInt32.ofNat (k * elementSize)).toNat = k * elementSize := by
    refine UInt32.toNat_ofNat_of_lt' ?_
    rw [elementSize, UInt32.size]
    omega
  rw [Address.plusElements, UInt32.toNat_add, hoffset, elementSize,
    Nat.mod_eq_of_lt (by omega), Nat.mul_comm k]

theorem Mapped.page? (h : m.Mapped s base n) (hm : m.Sound) (hk : k < n) :
    ∃ p, (m.table s).page? (Address.page (base.plusElements k)) = some p := by
  have hwithin := h.within
  have hpage : (Address.page (base.plusElements k)).toNat < (m.table s).pages.size := by
    rw [Address.toNat_page, h.toNat_plusElements hm hk]
    simp only [PageTable.size] at hwithin
    omega
  exact ⟨_, Array.getElem?_eq_getElem hpage⟩

theorem Mapped.read (h : m.Mapped s base n) (hm : m.Sound) (hk : k < n) :
    m.read s (base.plusElements k) = .ok (m.contents (elementCell s base k)) := by
  obtain ⟨p, hp⟩ := h.page? hm hk
  have hcell : m.contents (elementCell s base k) = m.load p (Address.index (base.plusElements k)) :=
    contents_of_page hp
  simp only [Memory.read, readThrough?, PageTable.pageAt?, hp, Option.map_some, hcell]

/-- Elements of one cell are at one address. -/
theorem Mapped.eq_of_cell (h : m.Mapped s base n) (h' : m.Mapped s base' n') (hm : m.Sound)
    (hk : k < n) (hk' : k' < n') (hc : elementCell s base k = elementCell s base' k') :
    base.toNat + 4 * k = base'.toNat + 4 * k' := by
  have halign := h.aligned
  have halign' := h'.aligned
  have hshift := (Address.cell_eq_iff.mp hc).2
  have htwo : (2 : UInt32).toNat % 32 = 2 := rfl
  rw [← UInt32.toNat_inj, UInt32.toNat_shiftRight, UInt32.toNat_shiftRight, htwo,
    Nat.shiftRight_eq_div_pow, Nat.shiftRight_eq_div_pow, h.toNat_plusElements hm hk,
    h'.toNat_plusElements hm hk'] at hshift
  omega

theorem Mapped.cell_injective (h : m.Mapped s base n) (hm : m.Sound) (hk : k < n) (hk' : k' < n)
    (hc : elementCell s base k = elementCell s base k') : k = k' := by
  have heq := h.eq_of_cell h hm hk hk' hc
  omega

theorem Holds.read {xs : Array Int32} (h : m.Holds s base xs) (hm : m.Sound)
    (hmapped : m.Mapped s base n) (hk : k < n) (hx : k < xs.size) :
    m.read s (base.plusElements k) = .ok (xs.getD k 0) := by
  rw [hmapped.read hm hk, h k hx]

theorem Holds.of_storage_eq {xs : Array Int32} (h : m.Holds s base xs)
    (hs : m'.storage = m.storage) : m'.Holds s base xs := by
  intro k hk
  rw [contents_of_storage_eq hs]
  exact h k hk

/-- From one memory to the other the elements numbered `ks` have been written, and nothing
else has happened but reports. -/
structure Written (m : Memory) (s : SpaceId) (base : Address) (ks : List Nat)
    (value : Nat → Int32) (m' : Memory) : Prop where
  evolves : ∃ w, m.Evolves w m'
  tables : SameTables m m'
  others : ∀ c, (∀ k ∈ ks, c ≠ elementCell s base k) → m'.contents c = m.contents c
  values : ∀ k ∈ ks, m'.contents (elementCell s base k) = value k

variable {ks ks' : List Nat} {value : Nat → Int32}

theorem Written.of_storage_eq (h : m'.storage = m.storage) : m.Written s base [] value m' where
  evolves := ⟨[], evolves_of_storage_eq h⟩
  tables := sameTables_of_storage_eq h
  others := fun c _ => contents_of_storage_eq h c
  values := fun k hk => by contradiction

theorem Written.sound (h : m.Written s base ks value m') (hm : m.Sound) : m'.Sound :=
  hm.of_sameTables h.tables

/-- A later write of an element has the same value as an earlier one. -/
theorem Written.append (h : m.Written s base ks value m')
    (h' : m'.Written s base ks' value m'')
    (hinj : ∀ k ∈ ks, ∀ k' ∈ ks', elementCell s base k = elementCell s base k' → k = k') :
    m.Written s base (ks ++ ks') value m'' where
  evolves := by
    obtain ⟨w, he⟩ := h.evolves
    obtain ⟨w', he'⟩ := h'.evolves
    exact ⟨_, he.trans he'⟩
  tables := h.tables.trans h'.tables
  others := by
    intro c hc
    rw [h'.others c fun k hk => hc k (List.mem_append_right ks hk),
      h.others c fun k hk => hc k (List.mem_append_left ks' hk)]
  values := by
    intro k hk
    by_cases hlater : k ∈ ks'
    · exact h'.values k hlater
    · have hearlier : k ∈ ks := (List.mem_append.mp hk).resolve_right hlater
      rw [h'.others _ fun k' hk' hc => hlater (hinj k hearlier k' hk' hc ▸ hk')]
      exact h.values k hearlier

theorem written_one {p : Page} (hm : m.Sound)
    (hp : (m.table s).page? (Address.page (base.plusElements k)) = some p)
    (hs : m'.storage = (m.store p (Address.index (base.plusElements k)) (value k)).storage) :
    m.Written s base [k] value m' := by
  have hpage : m.pageOf? (elementCell s base k) = some p := hp
  have hcontents : ∀ c, m'.contents c =
      if c = elementCell s base k then value k else m.contents c := by
    intro c
    rw [contents_of_storage_eq hs]
    exact hm.contents_store hpage (value k) c
  refine ⟨⟨_, Evolves.refl.store (value k) hpage hs⟩, ?_, ?_, ?_⟩
  · exact (sameTables_store m p _ _).trans (sameTables_of_storage_eq hs)
  · intro c hc
    rw [hcontents, if_neg (hc k (List.mem_singleton_self k))]
  · intro k' hk'
    obtain rfl := List.mem_singleton.mp hk'
    rw [hcontents, if_pos rfl]

theorem Written.holds (h : m.Written s base ks value m') {xs : Array Int32}
    (hall : ∀ k < xs.size, k ∈ ks ∧ value k = xs.getD k 0) : m'.Holds s base xs := by
  intro k hk
  obtain ⟨hmem, hvalue⟩ := hall k hk
  rw [h.values k hmem, hvalue]

theorem Written.holds_of_apart (h : m.Written s base ks value m') {xs : Array Int32}
    (hx : m.Holds s base' xs)
    (hne : ∀ k < xs.size, ∀ k' ∈ ks, elementCell s base' k ≠ elementCell s base k') :
    m'.Holds s base' xs := by
  intro k hk
  rw [h.others _ (hne k hk)]
  exact hx k hk

end Memory

namespace CallSite

variable {sh : Shape} {m m' : Memory} {s : SpaceId} {base : Address} {n : Nat}

/-- A site that serves its shape, whatever it has cached in the past. -/
structure Serving (m : Memory) (site : CallSite sh) : Prop where
  bound : site.Bound m.Past
  serves : site.operation.Serves sh

theorem serving_getSite (m : Memory) : getSite.Serving m :=
  ⟨fun _ h => by contradiction, ⟨rfl, by decide, rfl⟩⟩

theorem serving_setSite (m : Memory) : setSite.Serving m :=
  ⟨fun _ h => by contradiction, ⟨rfl, by decide, rfl⟩⟩

theorem Serving.mono {site : CallSite sh} (h : site.Serving m) (hm : m.Sound)
    {w : List (Cell × Int32)} (he : m.Evolves w m') : site.Serving m' :=
  ⟨fun g hg => he.past hm (h.bound g hg), h.serves⟩

theorem Serving.call {site : CallSite sh} (h : site.Serving m) (hm : m.Sound) {args : sh.Args}
    {p : Page} (hp : (m.table s).page? (sh.page args) = some p) :
    ∃ site' m', site.call m s args = (.ok (m.perform p sh args).1, site', m') ∧
      m'.storage = (m.perform p sh args).2.storage ∧ site'.Serving m' := by
  obtain ⟨r, m', hcall, hs⟩ := call_of_page hm h.bound h.serves hp
  obtain ⟨hf, hl⟩ := call_spec s args hm h.bound
  rw [hcall] at hf hl
  exact ⟨_, m', hcall, hs, hf.past hm h.bound hl.evolves, h.serves⟩

theorem Serving.get {site : CallSite .getElement} (h : site.Serving m) (hm : m.Sound)
    (hmapped : m.Mapped s base n) {k : Nat} (hk : k < n) :
    ∃ site' m', site.call m s (base.plusElements k) =
        (.ok (m.contents (elementCell s base k)), site', m') ∧
      m'.storage = m.storage ∧ site'.Serving m' := by
  obtain ⟨p, hp⟩ := hmapped.page? hm hk
  have hpage : (m.table s).page? (Shape.page .getElement (base.plusElements k)) = some p := hp
  obtain ⟨site', m', hcall, hs, hserving⟩ := h.call hm hpage
  have hvalue : m.contents (elementCell s base k) =
      (m.perform p .getElement (base.plusElements k)).1 := Memory.contents_of_page hp
  exact ⟨site', m', by rw [hvalue]; exact hcall, hs, hserving⟩

theorem Serving.set {site : CallSite .setElement} (h : site.Serving m) (hm : m.Sound)
    (hmapped : m.Mapped s base n) {k : Nat} (hk : k < n) (value : Nat → Int32) :
    ∃ site' m', site.call m s (base.plusElements k, value k) = (.ok (), site', m') ∧
      m.Written s base [k] value m' ∧ site'.Serving m' := by
  obtain ⟨p, hp⟩ := hmapped.page? hm hk
  have hpage : (m.table s).page? (Shape.page .setElement (base.plusElements k, value k)) =
      some p := hp
  obtain ⟨site', m', hcall, hs, hserving⟩ := h.call hm hpage
  exact ⟨site', m', hcall, Memory.written_one hm hp hs, hserving⟩

theorem Serving.writeRun (value : Nat → Int32) (count i : Nat) {site : CallSite .setElement}
    (h : site.Serving m) (hm : m.Sound) (hmapped : m.Mapped s base n) (hn : i + count ≤ n) :
    ∃ site' m', writeRun s base ((List.range' i count).map value) i site m =
        (.ok (), site', m') ∧
      m.Written s base (List.range' i count) value m' ∧ site'.Serving m' := by
  induction count generalizing i site m with
  | zero => exact ⟨site, m, rfl, .of_storage_eq rfl, h⟩
  | succ count ih =>
    obtain ⟨site₁, m₁, hcall, hfirst, hserving⟩ := h.set hm hmapped (k := i) (by omega) value
    obtain ⟨site', m', hrest, hwritten, hserving'⟩ := ih (i + 1) hserving (hfirst.sound hm)
      (hmapped.of_sameTables hfirst.tables) (by omega)
    refine ⟨site', m', ?_, hfirst.append hwritten ?_, hserving'⟩
    · simp only [List.range'_succ, List.map_cons, CallSite.writeRun, hcall]
      exact hrest
    · intro k hk k' hk' hc
      obtain rfl := List.mem_singleton.mp hk
      obtain ⟨_, hlt⟩ := List.mem_range'_1.mp hk'
      exact hmapped.cell_injective hm (by omega) (by omega) hc

theorem Serving.readRun (count i : Nat) {site : CallSite .getElement} (h : site.Serving m)
    (hm : m.Sound) (hmapped : m.Mapped s base n) (hn : i + count ≤ n) :
    ∃ site' m', readRun s base count i site m = (.ok ((List.range' i count).map fun k =>
        m.contents (elementCell s base k)), site', m') ∧
      m'.storage = m.storage ∧ site'.Serving m' := by
  induction count generalizing i site m with
  | zero => exact ⟨site, m, rfl, rfl, h⟩
  | succ count ih =>
    obtain ⟨site₁, m₁, hcall, hs, hserving⟩ := h.get hm hmapped (k := i) (by omega)
    have htables := Memory.sameTables_of_storage_eq hs
    obtain ⟨site', m', hrest, hs', hserving'⟩ := ih (i + 1) hserving (hm.of_sameTables htables)
      (hmapped.of_sameTables htables) (by omega)
    refine ⟨site', m', ?_, hs'.trans hs, hserving'⟩
    simp only [List.range'_succ, List.map_cons, CallSite.readRun, hcall, hrest,
      Memory.contents_of_storage_eq hs]

theorem map_getD_range' (xs : Array Int32) :
    ((List.range' 0 xs.size).map fun k => xs.getD k 0) = xs.toList := by
  apply List.ext_getElem
  · simp
  · intro k hk hk'
    have hlt : k < xs.size := hk'
    rw [List.getElem_map, List.getElem_range', Nat.zero_add, Nat.one_mul]
    simp [hlt]

theorem contents_of_holds {xs : Array Int32} (hx : m.Holds s base xs) :
    ((List.range' 0 xs.size).map fun k => m.contents (elementCell s base k)) = xs.toList := by
  rw [← map_getD_range']
  apply List.map_congr_left
  intro k hk
  exact hx k (by simpa using (List.mem_range'_1.mp hk).2)

theorem Serving.writeRun_array {xs : Array Int32} {site : CallSite .setElement}
    (h : site.Serving m) (hm : m.Sound) (hmapped : m.Mapped s base xs.size) :
    ∃ site' m', CallSite.writeRun s base xs.toList 0 site m = (.ok (), site', m') ∧
      m.Written s base (List.range' 0 xs.size) (fun k => xs.getD k 0) m' ∧
      m'.Holds s base xs := by
  obtain ⟨site', m', hwrite, hwritten, _⟩ :=
    h.writeRun (fun k => xs.getD k 0) xs.size 0 hm hmapped (by omega)
  rw [map_getD_range'] at hwrite
  refine ⟨site', m', hwrite, hwritten, hwritten.holds fun k hk => ⟨?_, rfl⟩⟩
  exact List.mem_range'_1.mpr ⟨Nat.zero_le k, by omega⟩

theorem Serving.readRun_array {xs : Array Int32} {site : CallSite .getElement}
    (h : site.Serving m) (hm : m.Sound) (hmapped : m.Mapped s base xs.size)
    (hx : m.Holds s base xs) :
    ∃ site' m', CallSite.readRun s base xs.size 0 site m = (.ok xs.toList, site', m') ∧
      m'.storage = m.storage := by
  obtain ⟨site', m', hread, hs, _⟩ := h.readRun xs.size 0 hm hmapped (by omega)
  rw [contents_of_holds hx] at hread
  exact ⟨site', m', hread, hs⟩

end CallSite

end PagedMemory
