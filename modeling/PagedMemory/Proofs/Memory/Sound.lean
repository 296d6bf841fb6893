import PagedMemory.Proofs.Memory.Storage

/-! Sound memories. In a sound memory no frame belongs to two pages, and exactly the
current table of each space is marked as such. Past tables of a space are prefixes of its
current one. Both are kept by everything that can happen to a memory. -/

set_option autoImplicit false

namespace PagedMemory

/-- The array of kinds says what the pages say, and the generation counts them. -/
structure PageTable.Aligned (t : PageTable) : Prop where
  kinds : t.kinds = t.pages.map Page.kind
  generation : t.generation = t.pages.size

namespace PageTable

theorem empty_aligned (token : Nat) : (empty token).Aligned := ⟨by simp [empty], rfl⟩

theorem Aligned.extended {t : PageTable} (h : t.Aligned) (page : Page) (token : Nat) :
    (t.extended page token).Aligned := by
  constructor
  · simp [PageTable.extended, h.kinds]
  · simp [PageTable.extended, h.generation]

theorem Aligned.kindOf? {t : PageTable} (h : t.Aligned) (p : PageId) :
    t.kindOf? p = (t.page? p).map Page.kind := by
  simp only [PageTable.kindOf?, page?, h.kinds, Array.getElem?_map]

def IsPrefix (t u : PageTable) : Prop :=
  t.kinds.toList <+: u.kinds.toList ∧ t.pages.toList <+: u.pages.toList

theorem IsPrefix.refl (t : PageTable) : t.IsPrefix t := ⟨List.prefix_rfl, List.prefix_rfl⟩

theorem IsPrefix.trans {t u v : PageTable} (h : t.IsPrefix u) (h' : u.IsPrefix v) :
    t.IsPrefix v := ⟨h.1.trans h'.1, h.2.trans h'.2⟩

theorem isPrefix_extended (t : PageTable) (page : Page) (token : Nat) :
    t.IsPrefix (t.extended page token) := by
  constructor
  · simp [extended]
  · simp [extended]

theorem IsPrefix.getElem? {t u : PageTable} (h : t.IsPrefix u) {i : Nat} {p : Page}
    (hp : t.pages[i]? = some p) : u.pages[i]? = some p := by
  have hi := List.prefix_iff_getElem?.mp h.2 i
  obtain ⟨hlt, rfl⟩ := Array.getElem?_eq_some_iff.mp hp
  simpa using hi hlt

theorem IsPrefix.page? {t u : PageTable} (h : t.IsPrefix u) {p : PageId} {page : Page}
    (hp : t.page? p = some page) : u.page? p = some page := h.getElem? hp

end PageTable

namespace Memory

/-- What holds of a memory whatever was done to it. -/
structure Sound (m : Memory) : Prop where
  valid : ∀ s < m.spaces.size, (m.space s).config.Valid
  bounded : ∀ s, (m.table s).size ≤ (m.space s).config.maxPages.toNat
  aligned : ∀ s, (m.table s).Aligned
  framed : ∀ {s : SpaceId} {i : Nat} {p : Page}, (m.table s).pages[i]? = some p →
    p.frame < m.frames.size
  apart : ∀ {s s' : SpaceId} {i i' : Nat} {p p' : Page}, (m.table s).pages[i]? = some p →
    (m.table s').pages[i']? = some p' → p.frame = p'.frame → s = s' ∧ i = i'
  marked : ∀ s < m.spaces.size, m.tokens[(m.table s).token]? = some true
  marks : ∀ s < m.spaces.size, ∀ s' < m.spaces.size,
    (m.table s).token = (m.table s').token → s = s'

/-- A table that is or was the current one of a space. -/
structure Past (m : Memory) (s : SpaceId) (t : PageTable) : Prop where
  owner : s < m.spaces.size
  aligned : t.Aligned
  isPrefix : t.IsPrefix (m.table s)
  mark : t = m.table s ∨
    (t.generation < (m.table s).generation ∧ m.tokens[t.token]? = some false)

variable {m m' : Memory}

theorem Sound.past_table (hm : m.Sound) {s : SpaceId} (hs : s < m.spaces.size) :
    m.Past s (m.table s) := ⟨hs, hm.aligned s, .refl _, .inl rfl⟩

theorem Sound.isValid_table (hm : m.Sound) {s : SpaceId} (hs : s < m.spaces.size) :
    m.isValid (m.table s) = true := by
  simp [isValid, hm.marked s hs]

/-- Only the current table is valid. -/
theorem Past.isValid_iff {s : SpaceId} {t : PageTable} (ht : m.Past s t) (hm : m.Sound) :
    m.isValid t = true ↔ t = m.table s := by
  constructor
  · intro hv
    rcases ht.mark with h | ⟨_, h⟩
    · exact h
    · simp [isValid, h] at hv
  · rintro rfl
    exact hm.isValid_table ht.owner

theorem Past.page? {s : SpaceId} {t : PageTable} (ht : m.Past s t) {p : PageId} {page : Page}
    (hp : t.page? p = some page) : (m.table s).page? p = some page := ht.isPrefix.page? hp

theorem sound_empty (origin : Nat) (supply : Supply) :
    Sound { origin := origin, supply := supply } where
  valid := fun s hs => absurd hs (Nat.not_lt_zero s)
  bounded := fun s => Nat.le_refl 0
  aligned := fun s => PageTable.empty_aligned 0
  framed := by
    intro s i p hp
    simp [table, space, Space.missing, PageTable.empty] at hp
  apart := by
    intro s s' i i' p p' hp
    simp [table, space, Space.missing, PageTable.empty] at hp
  marked := fun s hs => absurd hs (Nat.not_lt_zero s)
  marks := fun s hs => absurd hs (Nat.not_lt_zero s)

structure SameTables (m m' : Memory) : Prop where
  spaces : m'.spaces.size = m.spaces.size
  config : ∀ s, (m'.space s).config = (m.space s).config
  table : ∀ s, m'.table s = m.table s
  frames : m'.frames.size = m.frames.size
  tokens : m'.tokens = m.tokens

theorem SameTables.refl (m : Memory) : SameTables m m :=
  ⟨rfl, fun _ => rfl, fun _ => rfl, rfl, rfl⟩

theorem SameTables.trans {m'' : Memory} (h : SameTables m m') (h' : SameTables m' m'') :
    SameTables m m'' where
  spaces := h'.spaces.trans h.spaces
  config := fun s => (h'.config s).trans (h.config s)
  table := fun s => (h'.table s).trans (h.table s)
  frames := h'.frames.trans h.frames
  tokens := h'.tokens.trans h.tokens

theorem Sound.of_sameTables (hm : m.Sound) (h : SameTables m m') : m'.Sound where
  valid := fun s hs => by
    rw [h.config]
    exact hm.valid s (h.spaces ▸ hs)
  bounded := fun s => by
    rw [h.config, h.table]
    exact hm.bounded s
  aligned := fun s => h.table s ▸ hm.aligned s
  framed := by
    intro s i p hp
    rw [h.table] at hp
    rw [h.frames]
    exact hm.framed hp
  apart := by
    intro s s' i i' p p' hp hp'
    rw [h.table] at hp hp'
    exact hm.apart hp hp'
  marked := fun s hs => by
    rw [h.table, h.tokens]
    exact hm.marked s (h.spaces ▸ hs)
  marks := fun s hs s' hs' => by
    rw [h.table, h.table]
    exact hm.marks s (h.spaces ▸ hs) s' (h.spaces ▸ hs')

theorem Past.of_sameTables {s : SpaceId} {t : PageTable} (ht : m.Past s t)
    (h : SameTables m m') : m'.Past s t where
  owner := h.spaces ▸ ht.owner
  aligned := ht.aligned
  isPrefix := h.table s ▸ ht.isPrefix
  mark := by
    rw [h.table, h.tokens]
    exact ht.mark

theorem sameTables_of_storage_eq (h : m'.storage = m.storage) : SameTables m m' where
  spaces := size_spaces_congr h
  config := config_congr h
  table := table_congr h
  frames := by rw [frames_congr h]
  tokens := tokens_congr h

theorem sameTables_store (m : Memory) (p : Page) (i : Fin elementsPerPage) (v : Int32) :
    SameTables m (m.store p i v) where
  spaces := rfl
  config := fun _ => rfl
  table := fun _ => rfl
  frames := by simp [store]
  tokens := rfl

theorem space_addSpace (m : Memory) (c : Config) (s : SpaceId) :
    (m.addSpace c).space s = if s = m.spaces.size then
      ⟨c, { enabled := c.statsEnabled }, .empty m.tokens.size, true, 0⟩ else m.space s := by
  simp only [space, addSpace, Array.getElem?_push]
  split
  · rfl
  · rfl

theorem table_addSpace_self (m : Memory) (c : Config) :
    (m.addSpace c).table m.spaces.size = .empty m.tokens.size := by
  rw [table, space_addSpace, if_pos rfl]

theorem table_addSpace_of_ne (m : Memory) (c : Config) {s : SpaceId} (h : s ≠ m.spaces.size) :
    (m.addSpace c).table s = m.table s := by
  rw [table, space_addSpace, if_neg h, table]

theorem size_spaces_addSpace (m : Memory) (c : Config) :
    (m.addSpace c).spaces.size = m.spaces.size + 1 := by
  simp [addSpace]

theorem lt_of_lt_addSpace {c : Config} {s : SpaceId} (hs : s < (m.addSpace c).spaces.size)
    (h : s ≠ m.spaces.size) : s < m.spaces.size := by
  rw [size_spaces_addSpace] at hs
  exact Nat.lt_of_le_of_ne (Nat.le_of_lt_succ hs) h

theorem table_of_size_le (m : Memory) {s : SpaceId} (h : m.spaces.size ≤ s) :
    m.table s = .empty 0 := by
  simp [table, space, Array.getElem?_eq_none h, Space.missing]

theorem lt_size_of_page {s : SpaceId} {p : PageId} {page : Page}
    (h : (m.table s).page? p = some page) : s < m.spaces.size := by
  apply Nat.lt_of_not_le
  intro hle
  rw [table_of_size_le m hle] at h
  simp [PageTable.page?, PageTable.empty] at h

theorem lt_size_of_kind {s : SpaceId} {p : PageId} {kind : PageKind}
    (h : (m.table s).kindOf? p = some kind) : s < m.spaces.size := by
  apply Nat.lt_of_not_le
  intro hle
  rw [table_of_size_le m hle] at h
  simp [PageTable.kindOf?, PageTable.empty] at h

theorem pages_addSpace (m : Memory) (c : Config) (s : SpaceId) :
    ((m.addSpace c).table s).pages = (m.table s).pages := by
  by_cases h : s = m.spaces.size
  · rw [h, table_addSpace_self, table_of_size_le m (Nat.le_refl _)]
    rfl
  · rw [table_addSpace_of_ne m c h]

theorem tokens_addSpace {c : Config} {i : Nat} {b : Bool} (h : m.tokens[i]? = some b) :
    (m.addSpace c).tokens[i]? = some b := by
  have hi : i < m.tokens.size := (Array.getElem?_eq_some_iff.mp h).1
  simpa [addSpace, Array.getElem?_push_lt hi, Array.getElem?_eq_getElem hi] using h

theorem Sound.addSpace (hm : m.Sound) {c : Config} (hc : c.Valid) : (m.addSpace c).Sound where
  valid := fun s hs => by
    by_cases h : s = m.spaces.size
    · rw [space_addSpace, if_pos h]
      exact hc
    · rw [space_addSpace, if_neg h]
      exact hm.valid s (lt_of_lt_addSpace hs h)
  bounded := fun s => by
    rw [table, space_addSpace]
    split
    · exact Nat.zero_le _
    · exact hm.bounded s
  aligned := fun s => by
    by_cases h : s = m.spaces.size
    · rw [h, table_addSpace_self]
      exact PageTable.empty_aligned _
    · rw [table_addSpace_of_ne m c h]
      exact hm.aligned s
  framed := by
    intro s i p hp
    rw [pages_addSpace] at hp
    exact hm.framed hp
  apart := by
    intro s s' i i' p p' hp hp'
    rw [pages_addSpace] at hp hp'
    exact hm.apart hp hp'
  marked := fun s hs => by
    by_cases h : s = m.spaces.size
    · rw [h, table_addSpace_self]
      simp [Memory.addSpace, PageTable.empty]
    · rw [table_addSpace_of_ne m c h]
      exact tokens_addSpace (hm.marked s (lt_of_lt_addSpace hs h))
  marks := by
    -- The mark of the new space is beyond all those in use.
    have hlt : ∀ s < m.spaces.size, (m.table s).token < m.tokens.size := fun s hs =>
      (Array.getElem?_eq_some_iff.mp (hm.marked s hs)).1
    intro s hs s' hs' ht
    by_cases h : s = m.spaces.size <;> by_cases h' : s' = m.spaces.size
    · rw [h, h']
    · have hl := hlt s' (lt_of_lt_addSpace hs' h')
      rw [h, table_addSpace_self, table_addSpace_of_ne m c h'] at ht
      simp only [PageTable.empty] at ht
      omega
    · have hl := hlt s (lt_of_lt_addSpace hs h)
      rw [h', table_addSpace_self, table_addSpace_of_ne m c h] at ht
      simp only [PageTable.empty] at ht
      omega
    · rw [table_addSpace_of_ne m c h, table_addSpace_of_ne m c h'] at ht
      exact hm.marks s (lt_of_lt_addSpace hs h) s' (lt_of_lt_addSpace hs' h') ht

theorem Past.addSpace {s : SpaceId} {t : PageTable} (ht : m.Past s t) (c : Config) :
    (m.addSpace c).Past s t := by
  have htable : (m.addSpace c).table s = m.table s :=
    table_addSpace_of_ne m c (Nat.ne_of_lt ht.owner)
  have hs : s < (m.addSpace c).spaces.size := by
    rw [size_spaces_addSpace]
    exact Nat.lt_succ_of_lt ht.owner
  refine ⟨hs, ht.aligned, htable ▸ ht.isPrefix, ?_⟩
  rw [htable]
  rcases ht.mark with h | ⟨hlt, h⟩
  · exact .inl h
  · exact .inr ⟨hlt, tokens_addSpace h⟩

theorem space_close (m : Memory) (s s' : SpaceId) :
    ∃ b, (m.close s).space s' = { m.space s' with isOpen := b } := by
  simp only [space, close, Array.getElem?_modify]
  split
  · cases m.spaces[s']? with
    | none => exact ⟨false, rfl⟩
    | some sp => exact ⟨false, rfl⟩
  · exact ⟨_, rfl⟩

theorem sameTables_close (m : Memory) (s : SpaceId) : SameTables m (m.close s) where
  spaces := by simp [close]
  config := fun s' => by
    obtain ⟨b, h⟩ := space_close m s s'
    rw [h]
  table := fun s' => by
    obtain ⟨b, h⟩ := space_close m s s'
    rw [table, h, table]
  frames := rfl
  tokens := rfl

end Memory

end PagedMemory
