import PagedMemory.Proofs.Memory.Sound

/-! Growth of a space, and all that can happen to a memory without touching an element:
reports, new and closed spaces, and growth. All of it keeps sound memories sound and past
tables past. -/

set_option autoImplicit false

namespace PagedMemory

namespace Memory

variable {m m' : Memory}

def nextTable (m : Memory) (s : SpaceId) (kind : PageKind) : PageTable :=
  (m.table s).extended ⟨kind, m.frames.size⟩ m.tokens.size

theorem space_extend (m : Memory) (s : SpaceId) (kind : PageKind) (s' : SpaceId) :
    (m.extend s kind).space s' = if s = s' ∧ s < m.spaces.size then
      { m.space s' with table := m.nextTable s kind } else m.space s' := by
  simp only [space, extend, nextTable, table, Array.getElem?_modify]
  by_cases h : s = s'
  · subst h
    by_cases hs : s < m.spaces.size
    · simp [hs]
    · simp [hs]
  · simp [h]

theorem table_extend_self {s : SpaceId} (hs : s < m.spaces.size) (kind : PageKind) :
    (m.extend s kind).table s = m.nextTable s kind := by
  rw [table, space_extend, if_pos ⟨rfl, hs⟩]

theorem table_extend_of_ne (m : Memory) {s s' : SpaceId} (h : s ≠ s') (kind : PageKind) :
    (m.extend s kind).table s' = m.table s' := by
  rw [table, space_extend, if_neg (fun hs => h hs.1), table]

theorem config_extend (m : Memory) (s : SpaceId) (kind : PageKind) (s' : SpaceId) :
    ((m.extend s kind).space s').config = (m.space s').config := by
  rw [space_extend]
  split
  · rfl
  · rfl

@[simp] theorem size_spaces_extend (m : Memory) (s : SpaceId) (kind : PageKind) :
    (m.extend s kind).spaces.size = m.spaces.size := by
  simp [extend]

@[simp] theorem size_frames_extend (m : Memory) (s : SpaceId) (kind : PageKind) :
    (m.extend s kind).frames.size = m.frames.size + 1 := by
  simp [extend]

theorem storage_extend (m : Memory) (s : SpaceId) (kind : PageKind) :
    (m.extend s kind).storage = m.storage.extend s kind := by
  have hspaces : ∀ t, (m.spaces.modify s fun sp => { sp with table := t }).map Space.storage =
      (m.spaces.map Space.storage).modify s fun sp => { sp with table := t } :=
    fun _ => map_storage_modify m.spaces s fun _ => rfl
  have htable : m.storage.table s = m.table s := table_storage m s
  unfold extend
  rw [htable]
  simp only [storage, hspaces]

theorem pages_extend {s : SpaceId} {kind : PageKind} {s' : SpaceId} {i : Nat} {p : Page}
    (h : ((m.extend s kind).table s').pages[i]? = some p) :
    (s' = s ∧ i = (m.table s).size ∧ p = ⟨kind, m.frames.size⟩) ∨
      (m.table s').pages[i]? = some p := by
  by_cases hs : s < m.spaces.size
  · by_cases hn : s = s'
    · subst hn
      rw [table_extend_self hs] at h
      simp only [nextTable, PageTable.extended, Array.getElem?_push] at h
      split at h
      · rename_i hi
        exact .inl ⟨rfl, hi, (Option.some.inj h).symm⟩
      · exact .inr h
    · rw [table_extend_of_ne m hn] at h
      exact .inr h
  · rw [table, space_extend, if_neg (fun hc => hs hc.2)] at h
    exact .inr h

theorem isPrefix_extend (m : Memory) (s : SpaceId) (kind : PageKind) (s' : SpaceId) :
    (m.table s').IsPrefix ((m.extend s kind).table s') := by
  rw [table, table, space_extend]
  split
  · rename_i h
    obtain ⟨rfl, _⟩ := h
    exact PageTable.isPrefix_extended _ _ _
  · exact .refl _

/-- Growth clears one mark and sets a new one. -/
theorem tokens_extend {s : SpaceId} {kind : PageKind} {i : Nat} (hi : i < m.tokens.size) :
    (m.extend s kind).tokens[i]? =
      if (m.table s).token = i then some false else m.tokens[i]? := by
  have hsize : i < (m.tokens.modify (m.table s).token fun _ => false).size := by simpa using hi
  simp only [extend, Array.getElem?_push_lt hsize, Array.getElem_modify]
  split
  · rfl
  · simp [hi]

theorem tokens_extend_size (m : Memory) (s : SpaceId) (kind : PageKind) :
    (m.extend s kind).tokens[m.tokens.size]? = some true := by
  have hsize : (m.tokens.modify (m.table s).token fun _ => false).size = m.tokens.size := by simp
  simp only [extend, Array.getElem?_push, hsize, if_pos]

theorem Sound.token_lt (hm : m.Sound) {s : SpaceId} (hs : s < m.spaces.size) :
    (m.table s).token < m.tokens.size :=
  (Array.getElem?_eq_some_iff.mp (hm.marked s hs)).1

theorem Sound.extend (hm : m.Sound) {s : SpaceId} (hs : s < m.spaces.size) (kind : PageKind)
    (room : (m.table s).size < (m.space s).config.maxPages.toNat) : (m.extend s kind).Sound where
  valid := fun s' hs' => by
    rw [config_extend]
    exact hm.valid s' (size_spaces_extend m s kind ▸ hs')
  bounded := fun s' => by
    rw [config_extend]
    by_cases h : s = s'
    · subst h
      rw [table_extend_self hs]
      simpa [nextTable, PageTable.extended, PageTable.size] using Nat.succ_le_of_lt room
    · rw [table_extend_of_ne m h]
      exact hm.bounded s'
  aligned := fun s' => by
    by_cases h : s = s'
    · subst h
      rw [table_extend_self hs]
      exact (hm.aligned s).extended _ _
    · rw [table_extend_of_ne m h]
      exact hm.aligned s'
  framed := by
    intro s' i p hp
    rw [size_frames_extend]
    rcases pages_extend hp with ⟨_, _, rfl⟩ | h
    · exact Nat.lt_succ_self _
    · exact Nat.lt_succ_of_lt (hm.framed h)
  apart := by
    -- The frame of the new page is beyond all those in use.
    intro s₁ s₂ i₁ i₂ p₁ p₂ hp₁ hp₂ hf
    rcases pages_extend hp₁ with ⟨h₁, hi₁, rfl⟩ | h₁ <;>
      rcases pages_extend hp₂ with ⟨h₂, hi₂, rfl⟩ | h₂
    · exact ⟨h₁.trans h₂.symm, hi₁.trans hi₂.symm⟩
    · exact absurd (hm.framed h₂) (by simp [← hf])
    · exact absurd (hm.framed h₁) (by simp [hf])
    · exact hm.apart h₁ h₂ hf
  marked := fun s' hs' => by
    rw [size_spaces_extend] at hs'
    by_cases h : s = s'
    · subst h
      rw [table_extend_self hs]
      exact tokens_extend_size m s kind
    · have hne : (m.table s).token ≠ (m.table s').token := fun ht =>
        h (hm.marks s hs s' hs' ht)
      rw [table_extend_of_ne m h, tokens_extend (hm.token_lt hs'), if_neg hne]
      exact hm.marked s' hs'
  marks := by
    intro s₁ hs₁ s₂ hs₂ ht
    rw [size_spaces_extend] at hs₁ hs₂
    have hlt₁ := hm.token_lt hs₁
    have hlt₂ := hm.token_lt hs₂
    by_cases h₁ : s = s₁ <;> by_cases h₂ : s = s₂
    · exact h₁.symm.trans h₂
    · subst h₁
      rw [table_extend_self hs, table_extend_of_ne m h₂] at ht
      simp only [nextTable, PageTable.extended] at ht
      omega
    · subst h₂
      rw [table_extend_self hs, table_extend_of_ne m h₁] at ht
      simp only [nextTable, PageTable.extended] at ht
      omega
    · rw [table_extend_of_ne m h₁, table_extend_of_ne m h₂] at ht
      exact hm.marks s₁ hs₁ s₂ hs₂ ht

theorem tokens_extend_false {s : SpaceId} {kind : PageKind} {i : Nat}
    (h : m.tokens[i]? = some false) : (m.extend s kind).tokens[i]? = some false := by
  rw [tokens_extend (Array.getElem?_eq_some_iff.mp h).1]
  split
  · rfl
  · exact h

theorem Past.extend {s : SpaceId} {t : PageTable} (ht : m.Past s t) (hm : m.Sound)
    (s' : SpaceId) (kind : PageKind) : (m.extend s' kind).Past s t where
  owner := by
    rw [size_spaces_extend]
    exact ht.owner
  aligned := ht.aligned
  isPrefix := ht.isPrefix.trans (isPrefix_extend m s' kind s)
  mark := by
    by_cases h : s' = s
    · subst h
      rw [table_extend_self ht.owner]
      refine .inr ⟨?_, ?_⟩
      · simp only [nextTable, PageTable.extended]
        rcases ht.mark with rfl | ⟨hlt, _⟩
        · exact Nat.lt_succ_self _
        · exact Nat.lt_succ_of_lt hlt
      · rcases ht.mark with rfl | ⟨_, hf⟩
        · rw [tokens_extend (hm.token_lt ht.owner), if_pos rfl]
        · exact tokens_extend_false hf
    · rw [table_extend_of_ne m h]
      rcases ht.mark with hc | ⟨hlt, hf⟩
      · exact .inl hc
      · exact .inr ⟨hlt, tokens_extend_false hf⟩

/-- One thing that can happen to a memory without touching an element. -/
inductive Advance (m m' : Memory) : Prop where
  | reported (h : m'.storage = m.storage)
  | opened (c : Config) (valid : c.Valid) (h : m'.storage = (m.addSpace c).storage)
  | closed (s : SpaceId) (h : m'.storage = (m.close s).storage)
  | grown (s : SpaceId) (kind : PageKind) (hs : s < m.spaces.size)
      (room : (m.table s).size < (m.space s).config.maxPages.toNat)
      (h : m'.storage = (m.extend s kind).storage)

theorem Advance.of_storage_eq {m'' : Memory} (h : Advance m m') (hs : m''.storage = m'.storage) :
    Advance m m'' := by
  cases h with
  | reported h => exact .reported (hs.trans h)
  | opened c valid h => exact .opened c valid (hs.trans h)
  | closed s h => exact .closed s (hs.trans h)
  | grown s kind lt room h => exact .grown s kind lt room (hs.trans h)

theorem Advance.sound (h : Advance m m') (hm : m.Sound) : m'.Sound := by
  cases h with
  | reported h => exact hm.of_sameTables (sameTables_of_storage_eq h)
  | opened c valid h => exact (hm.addSpace valid).of_sameTables (sameTables_of_storage_eq h)
  | closed s h =>
    exact (hm.of_sameTables (sameTables_close m s)).of_sameTables (sameTables_of_storage_eq h)
  | grown s kind hs room h =>
    exact (hm.extend hs kind room).of_sameTables (sameTables_of_storage_eq h)

theorem Advance.past (h : Advance m m') (hm : m.Sound) {s : SpaceId} {t : PageTable}
    (ht : m.Past s t) : m'.Past s t := by
  cases h with
  | reported h => exact ht.of_sameTables (sameTables_of_storage_eq h)
  | opened c valid h => exact (ht.addSpace c).of_sameTables (sameTables_of_storage_eq h)
  | closed s h =>
    exact (ht.of_sameTables (sameTables_close m s)).of_sameTables (sameTables_of_storage_eq h)
  | grown s kind hs room h =>
    exact (ht.extend hm s kind).of_sameTables (sameTables_of_storage_eq h)

end Memory

end PagedMemory
