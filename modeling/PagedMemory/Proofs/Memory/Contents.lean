import PagedMemory.Proofs.Memory.Growth

/-! Cells and what they hold. A cell is an element of a page of a space. Growth adds cells
that hold zero; a store changes the one cell that it names, since no two pages share a
frame. So after any history a cell holds what was last stored in it. -/

set_option autoImplicit false

namespace PagedMemory

structure Cell where
  space : SpaceId
  page : PageId
  element : Fin elementsPerPage
  deriving DecidableEq, Repr

def Address.cell (s : SpaceId) (a : Address) : Cell := ⟨s, Address.page a, Address.index a⟩

namespace Memory

variable {m m' m'' : Memory} {w w' : List (Cell × Int32)}

def pageOf? (m : Memory) (c : Cell) : Option Page := (m.table c.space).page? c.page

/-- What a cell holds; cells without a page count as zero. -/
def contents (m : Memory) (c : Cell) : Int32 :=
  match m.pageOf? c with
  | some p => m.load p c.element
  | none => 0

theorem contents_of_page {c : Cell} {p : Page} (h : m.pageOf? c = some p) :
    m.contents c = m.load p c.element := by
  simp only [contents, h]

theorem contents_of_none {c : Cell} (h : m.pageOf? c = none) : m.contents c = 0 := by
  simp only [contents, h]

theorem contents_of_storage_eq (h : m'.storage = m.storage) (c : Cell) :
    m'.contents c = m.contents c := by
  simp only [contents, pageOf?, table_congr h, load_congr h]

theorem contents_addSpace (m : Memory) (c : Config) (x : Cell) :
    (m.addSpace c).contents x = m.contents x := by
  simp only [contents, pageOf?, PageTable.page?, pages_addSpace]
  rfl

theorem contents_close (m : Memory) (s : SpaceId) (c : Cell) :
    (m.close s).contents c = m.contents c := by
  simp only [contents, pageOf?, (sameTables_close m s).table]
  rfl

theorem load_extend {p : Page} (hp : p.frame < m.frames.size) (s : SpaceId) (kind : PageKind)
    (i : Fin elementsPerPage) : (m.extend s kind).load p i = m.load p i := by
  simp only [load, extend, Array.getElem?_push_lt hp, Array.getElem?_eq_getElem hp]

theorem load_extend_new (m : Memory) (s : SpaceId) (kind k : PageKind)
    (i : Fin elementsPerPage) : (m.extend s kind).load ⟨k, m.frames.size⟩ i = 0 := by
  simp [load, extend, Frame.zero]

/-- Growth changes no cell, if cells without a page count as zero. -/
theorem Sound.contents_extend (hm : m.Sound) (s : SpaceId) (kind : PageKind) (c : Cell) :
    (m.extend s kind).contents c = m.contents c := by
  cases hp : (m.extend s kind).pageOf? c with
  | none =>
    cases hq : m.pageOf? c with
    | none => rw [contents_of_none hp, contents_of_none hq]
    | some q =>
      have hk := (isPrefix_extend m s kind c.space).page? hq
      rw [pageOf?, hk] at hp
      contradiction
  | some p =>
    rw [contents_of_page hp]
    rcases pages_extend hp with ⟨hs, hi, rfl⟩ | h
    · have hq : m.pageOf? c = none := by
        rw [pageOf?, PageTable.page?, hs, hi]
        exact Array.getElem?_eq_none (Nat.le_refl _)
      rw [load_extend_new, contents_of_none hq]
    · rw [load_extend (hm.framed h), contents_of_page h]

theorem Advance.contents (h : Advance m m') (hm : m.Sound) (c : Cell) :
    m'.contents c = m.contents c := by
  cases h with
  | reported h => exact contents_of_storage_eq h c
  | opened config _ h => rw [contents_of_storage_eq h, contents_addSpace]
  | closed s h => rw [contents_of_storage_eq h, contents_close]
  | grown s kind _ _ h => rw [contents_of_storage_eq h, hm.contents_extend]

theorem load_store {p : Page} (hp : p.frame < m.frames.size) (i : Fin elementsPerPage)
    (v : Int32) (q : Page) (j : Fin elementsPerPage) :
    (m.store p i v).load q j = if q.frame = p.frame ∧ j = i then v else m.load q j := by
  simp only [load, store, Array.getElem?_modify]
  by_cases hf : q.frame = p.frame
  · rw [hf, if_pos rfl, Array.getElem?_eq_getElem hp]
    simp only [Option.map_some, true_and, Fin.getElem_fin, Vector.getElem_set]
    by_cases hj : j = i
    · simp [hj]
    · have hv : (i : Nat) ≠ j := fun h => hj (Fin.ext h.symm)
      simp [hj, hv]
  · rw [if_neg (Ne.symm hf), if_neg (fun h => hf h.1)]

/-- A store changes its cell and no other. -/
theorem Sound.contents_store (hm : m.Sound) {c : Cell} {p : Page} (hp : m.pageOf? c = some p)
    (v : Int32) (x : Cell) :
    (m.store p c.element v).contents x = if x = c then v else m.contents x := by
  have hf : p.frame < m.frames.size := hm.framed hp
  cases hq : m.pageOf? x with
  | none =>
    have hne : x ≠ c := fun h => by
      rw [h, hp] at hq
      contradiction
    rw [contents_of_none (m := m.store p c.element v) hq, if_neg hne, contents_of_none hq]
  | some q =>
    rw [contents_of_page (m := m.store p c.element v) hq, load_store hf, contents_of_page hq]
    by_cases hx : x = c
    · subst hx
      rw [hp] at hq
      cases hq
      simp
    · have hne : ¬ (q.frame = p.frame ∧ x.element = c.element) := by
        rintro ⟨hframe, he⟩
        obtain ⟨hs, hi⟩ := hm.apart hq hp hframe
        have hpage : x.page = c.page := UInt32.toNat_inj.mp hi
        cases x
        cases c
        simp_all
      rw [if_neg hne, if_neg hx]

/-- What can become of a memory, with all stores on the way, the latest first. -/
inductive Evolves (m : Memory) : List (Cell × Int32) → Memory → Prop where
  | refl : Evolves m [] m
  | advance {w : List (Cell × Int32)} {m' m'' : Memory} (h : Evolves m w m')
      (next : Advance m' m'') : Evolves m w m''
  | store {w : List (Cell × Int32)} {m' m'' : Memory} {c : Cell} {p : Page} (v : Int32)
      (h : Evolves m w m') (hp : m'.pageOf? c = some p)
      (next : m''.storage = (m'.store p c.element v).storage) : Evolves m ((c, v) :: w) m''

theorem Evolves.trans (h : Evolves m w m') (h' : Evolves m' w' m'') :
    Evolves m (w' ++ w) m'' := by
  induction h' with
  | refl => exact h
  | advance _ next ih => exact ih.advance next
  | store v _ hp next ih => exact ih.store v hp next

theorem Advance.evolves (h : Advance m m') : Evolves m [] m' := Evolves.refl.advance h

theorem evolves_of_storage_eq (h : m'.storage = m.storage) : Evolves m [] m' :=
  (Advance.reported h).evolves

theorem Evolves.sound (h : Evolves m w m') (hm : m.Sound) : m'.Sound := by
  induction h with
  | refl => exact hm
  | advance _ next ih => exact next.sound ih
  | store v _ _ next ih =>
    exact (ih.of_sameTables (sameTables_store _ _ _ _)).of_sameTables
      (sameTables_of_storage_eq next)

theorem Evolves.past (h : Evolves m w m') (hm : m.Sound) {s : SpaceId} {t : PageTable}
    (ht : m.Past s t) : m'.Past s t := by
  induction h with
  | refl => exact ht
  | advance before next ih => exact next.past (before.sound hm) ih
  | store v _ _ next ih =>
    exact (ih.of_sameTables (sameTables_store _ _ _ _)).of_sameTables
      (sameTables_of_storage_eq next)

theorem Evolves.size_le (h : Evolves m w m') (hm : m.Sound) (s : SpaceId) :
    (m.table s).size ≤ (m'.table s).size := by
  by_cases hs : s < m.spaces.size
  · have hpages := (h.past hm (hm.past_table hs)).isPrefix.2.length_le
    simpa [PageTable.size] using hpages
  · rw [table_of_size_le m (Nat.le_of_not_lt hs)]
    exact Nat.zero_le _

theorem Advance.config (h : Advance m m') {s : SpaceId} (hs : s < m.spaces.size) :
    (m'.space s).config = (m.space s).config := by
  cases h with
  | reported h => exact config_congr h s
  | opened c _ h => rw [config_congr h, space_addSpace, if_neg (Nat.ne_of_lt hs)]
  | closed s' h => rw [config_congr h, (sameTables_close m s').config]
  | grown s' kind _ _ h => rw [config_congr h, config_extend]

theorem Evolves.config (h : Evolves m w m') (hm : m.Sound) {s : SpaceId}
    (hs : s < m.spaces.size) : (m'.space s).config = (m.space s).config := by
  induction h with
  | refl => rfl
  | advance before next ih =>
    rw [next.config (before.past hm (hm.past_table hs)).owner, ih]
  | store v _ _ next ih =>
    rw [config_congr next]
    exact ih

theorem Advance.supply (h : Advance m m') : m'.supply = m.supply := by
  cases h with
  | reported h | opened _ _ h | closed _ h | grown _ _ _ _ h => exact (supply_congr h).trans rfl

theorem Evolves.supply (h : Evolves m w m') : m'.supply = m.supply := by
  induction h with
  | refl => rfl
  | advance _ next ih => exact next.supply.trans ih
  | store v _ _ next ih => exact (supply_congr next).trans ih

theorem Evolves.full (h : Evolves m w m') (hm : m.Sound) {s : SpaceId} (hs : s < m.spaces.size)
    (full : (m.space s).config.maxPages.toNat ≤ (m.table s).size) :
    (m'.table s).size = (m.table s).size ∧
      (m'.space s).config.maxPages.toNat ≤ (m'.table s).size := by
  have hle := h.size_le hm s
  have hbound := (h.sound hm).bounded s
  rw [h.config hm hs] at hbound ⊢
  omega

/-- A cell holds what was last stored in it, or else what it held before. -/
theorem Evolves.contents (h : Evolves m w m') (hm : m.Sound) (c : Cell) :
    m'.contents c = (w.lookup c).getD (m.contents c) := by
  induction h with
  | refl => rfl
  | advance before next ih => rw [next.contents (before.sound hm), ih]
  | @store w m₁ m₂ x p v before hp next ih =>
    rw [contents_of_storage_eq next, (before.sound hm).contents_store hp, ih, List.lookup_cons]
    by_cases hc : c = x
    · simp [hc]
    · have hb : (c == x) = false := beq_eq_false_iff_ne.mpr hc
      simp only [if_neg hc, hb]

end Memory

end PagedMemory
