import PagedMemory.Proofs.Memory.Contents

/-! Accessors against the plain path. An accessor serves a page only if it was linked for
the space at hand and for the table that is current there, and the page has the kind that
it was linked for; then it does what looking the page up anew would do. -/

set_option autoImplicit false

namespace PagedMemory

namespace Shape

def page : (sh : Shape) → sh.Args → PageId
  | .getElement, a => Address.page a
  | .setElement, (a, _) => Address.page a
  | .lookupPage, p => p

def fault : (sh : Shape) → sh.Args → MemoryError
  | .getElement, a => .unmappedAddress a
  | .setElement, (a, _) => .unmappedAddress a
  | .lookupPage, p => .unmappedPage p

def stores (s : SpaceId) : (sh : Shape) → sh.Args → List (Cell × Int32)
  | .setElement, (a, v) => [(Address.cell s a, v)]
  | _, _ => []

end Shape

namespace Memory

def perform (m : Memory) (p : Page) : (sh : Shape) → sh.Args → sh.Output × Memory
  | .getElement, a => (m.load p (Address.index a), m)
  | .setElement, (a, v) => ((), m.store p (Address.index a) v)
  | .lookupPage, _ => (p, m)

/-- An access that looks its page up in the current table. -/
def plain (m : Memory) (s : SpaceId) :
    (sh : Shape) → sh.Args → Except MemoryError sh.Output × Memory
  | .getElement, a => (m.read s a, m)
  | .setElement, (a, v) => m.write s a v
  | .lookupPage, p =>
    let pages := (m.table s).pages
    if h : p.toNat < pages.size then (.ok pages[p.toNat], m) else (.error (.unmappedPage p), m)

variable {m m' : Memory} {s : SpaceId} {sh : Shape} {args : sh.Args}

theorem plain_of_page {p : Page} (h : (m.table s).page? (sh.page args) = some p) :
    m.plain s sh args = (.ok (m.perform p sh args).1, (m.perform p sh args).2) := by
  cases sh with
  | getElement =>
    have ha : (m.table s).pageAt? args = some p := h
    simp [plain, perform, read, readThrough?, ha]
  | setElement =>
    obtain ⟨a, v⟩ := args
    have ha : (m.table s).pageAt? a = some p := h
    simp [plain, perform, write, writeThrough?, ha]
  | lookupPage =>
    obtain ⟨hlt, hp⟩ := Array.getElem?_eq_some_iff.mp h
    have hlt' : UInt32.toNat args < (m.table s).pages.size := hlt
    have hp' : (m.table s).pages[UInt32.toNat args] = p := hp
    simp [plain, perform, hlt', hp']

theorem plain_of_none (h : (m.table s).page? (sh.page args) = none) :
    m.plain s sh args = (.error (sh.fault args), m) := by
  cases sh with
  | getElement =>
    have ha : (m.table s).pageAt? args = none := h
    simp [plain, Shape.fault, read, readThrough?, ha]
  | setElement =>
    obtain ⟨a, v⟩ := args
    have ha : (m.table s).pageAt? a = none := h
    simp [plain, Shape.fault, write, writeThrough?, ha]
  | lookupPage =>
    have hlt : ¬ UInt32.toNat args < (m.table s).pages.size :=
      Nat.not_lt_of_le (Array.getElem?_eq_none_iff.mp h)
    simp [plain, Shape.fault, hlt]

theorem perform_of_storage_eq (h : m'.storage = m.storage) (p : Page) (sh : Shape)
    (args : sh.Args) : (m'.perform p sh args).1 = (m.perform p sh args).1 ∧
      (m'.perform p sh args).2.storage = (m.perform p sh args).2.storage := by
  cases sh with
  | getElement => exact ⟨load_congr h p _, h⟩
  | setElement =>
    have hs : ∀ m : Memory, ∀ i v, (m.store p i v).storage = m.storage.store p i v :=
      fun _ _ _ => rfl
    refine ⟨rfl, ?_⟩
    simp only [perform]
    rw [hs, hs, h]
  | lookupPage => exact ⟨rfl, h⟩

theorem sameTables_perform (p : Page) (sh : Shape) (args : sh.Args) :
    SameTables m (m.perform p sh args).2 := by
  cases sh with
  | getElement => exact .refl m
  | setElement => exact sameTables_store m p _ _
  | lookupPage => exact .refl m

theorem evolves_perform {p : Page} (h : (m.table s).page? (sh.page args) = some p) :
    Evolves m (sh.stores s args) (m.perform p sh args).2 := by
  cases sh with
  | getElement => exact .refl
  | setElement =>
    obtain ⟨a, v⟩ := args
    exact Evolves.refl.store v (c := Address.cell s a) h rfl
  | lookupPage => exact .refl

end Memory

namespace Guard

variable {m : Memory} {s : SpaceId} {g : Guard}

/-- The page that an accessor with this guard serves, if any. -/
def served? (g : Guard) (m : Memory) (s : SpaceId) (p : PageId) : Option Page :=
  if g.holds m s then g.page? p else none

theorem page?_eq_some_iff (ha : g.table.Aligned) {p : PageId} {page : Page} :
    g.page? p = some page ↔ g.table.page? p = some page ∧ page.kind = g.kind := by
  unfold page?
  rw [ha.kindOf?]
  cases h : g.table.page? p with
  | none => simp
  | some q =>
    by_cases hk : q.kind = g.kind
    · simp only [Option.map_some, if_pos hk, Option.some.injEq]
      constructor
      · rintro rfl
        exact ⟨rfl, hk⟩
      · exact And.left
    · simp only [Option.map_some, if_neg hk, Option.some.injEq]
      constructor
      · intro h
        contradiction
      · rintro ⟨rfl, hq⟩
        exact absurd hq hk

theorem holds_iff (hm : m.Sound) (hg : m.Past g.owner g.table) :
    g.holds m s = true ↔ g.owner = s ∧ g.table = m.table s := by
  simp only [holds, Bool.and_eq_true, beq_iff_eq]
  constructor
  · rintro ⟨rfl, hv⟩
    exact ⟨rfl, (hg.isValid_iff hm).mp hv⟩
  · rintro ⟨rfl, ht⟩
    exact ⟨rfl, (hg.isValid_iff hm).mpr ht⟩

theorem served?_eq_some_iff (hm : m.Sound) (hg : m.Past g.owner g.table) {p : PageId}
    {page : Page} : g.served? m s p = some page ↔
      g.owner = s ∧ g.table = m.table s ∧
        (m.table s).page? p = some page ∧ page.kind = g.kind := by
  unfold served?
  by_cases hh : g.holds m s = true
  · obtain ⟨ho, ht⟩ := (holds_iff hm hg).mp hh
    rw [if_pos hh, page?_eq_some_iff hg.aligned, ht]
    simp [ho]
  · rw [if_neg hh]
    constructor
    · intro h
      contradiction
    · rintro ⟨ho, ht, _⟩
      exact absurd ((holds_iff hm hg).mpr ⟨ho, ht⟩) hh

/-- Who is served depends on the marks alone. -/
theorem served?_congr {m' : Memory} (h : m'.storage = m.storage) (p : PageId) :
    g.served? m' s p = g.served? m s p := by
  have hh : g.holds m' s = g.holds m s := by
    rw [holds, holds, Memory.isValid, Memory.isValid, Memory.tokens_congr h]
  rw [served?, served?, hh]

theorem fresh_served? {m' : Memory} (hm : m.Sound) (h : Memory.SameTables m m') {p : PageId}
    {page : Page} (hp : (m.table s).page? p = some page) :
    (Guard.mk s (m.table s) page.kind).served? m' s p = some page := by
  have hs := Memory.lt_size_of_page hp
  rw [← h.table s] at hp ⊢
  have hm' := hm.of_sameTables h
  exact (served?_eq_some_iff hm' (hm'.past_table (h.spaces ▸ hs))).mpr ⟨rfl, rfl, hp, rfl⟩

end Guard

namespace Memory

variable {m : Memory} {s : SpaceId} {g : Guard} {sh : Shape} {args : sh.Args}

theorem invoke_of_served {p : Page} (h : g.served? m s (sh.page args) = some p) :
    m.invoke s g sh args = (.value (m.perform p sh args).1, (m.perform p sh args).2) := by
  unfold Guard.served? at h
  split at h
  · rename_i hh
    cases sh with
    | getElement =>
      have hp : g.page? (Address.page args) = some p := h
      simp [invoke, perform, hh, hp]
    | setElement =>
      obtain ⟨a, v⟩ := args
      have hp : g.page? (Address.page a) = some p := h
      simp [invoke, perform, hh, hp]
    | lookupPage =>
      have hp : g.page? args = some p := h
      simp [invoke, perform, hh, hp]
  · contradiction

theorem invoke_of_not_served (h : g.served? m s (sh.page args) = none) :
    m.invoke s g sh args = (.relink, m) := by
  unfold Guard.served? at h
  split at h
  · rename_i hh
    cases sh with
    | getElement =>
      have hp : g.page? (Address.page args) = none := h
      simp [invoke, hh, hp]
    | setElement =>
      obtain ⟨a, v⟩ := args
      have hp : g.page? (Address.page a) = none := h
      simp [invoke, hh, hp]
    | lookupPage =>
      have hp : g.page? args = none := h
      simp [invoke, hh, hp]
  · rename_i hh
    cases sh with
    | getElement => simp [invoke, hh]
    | setElement =>
      obtain ⟨a, v⟩ := args
      simp [invoke, hh]
    | lookupPage => simp [invoke, hh]

end Memory

end PagedMemory
