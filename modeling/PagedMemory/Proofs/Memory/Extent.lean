import PagedMemory.Proofs.Access
import PagedMemory.Proofs.Memory.Effects

/-! The extent of a table. Its mapped addresses are those below the end of its last page, and an
access there finds its element in the page. -/

set_option autoImplicit false

namespace PagedMemory

/-- A valid configuration has few enough pages for its limit to be their end. -/
theorem Config.Valid.toNat_addressLimit {c : Config} (h : c.Valid) :
    c.addressLimit.toNat = pageSize * c.maxPages.toNat := by
  have hmax : c.maxPages.toNat ≤ 1048576 := h.2
  have hshift : (12 : UInt64).toNat % 64 = 12 := rfl
  rw [addressLimit, UInt64.toNat_shiftLeft, hshift, Nat.shiftLeft_eq, Nat.mod_eq_of_lt (by omega),
    pageSize]
  omega

theorem PageTable.isSome_pageAt?_iff (t : PageTable) (a : Address) :
    (t.pageAt? a).isSome = true ↔ a.toNat < pageSize * t.size := by
  have hpage : a.page.toNat < t.size ↔ a.toNat < pageSize * t.size := by
    rw [Address.toNat_page, pageSize]
    omega
  rw [pageAt?, page?, isSome_getElem?]
  exact hpage

namespace Memory

variable {m : Memory} {s : SpaceId} {a : Address} {p : Page}

theorem load?_of_address (m : Memory) (p : Page) (a : Address) :
    m.load? p (a.toNat % pageSize / elementSize) = some (m.load p a.index) := by
  have hindex : a.toNat % pageSize / elementSize = a.index := (Address.val_index a).symm
  rw [hindex, load?, dif_pos a.index.isLt]

theorem store?_of_address (m : Memory) (p : Page) (a : Address) (v : Int32) :
    m.store? p (a.toNat % pageSize / elementSize) v = some (m.store p a.index v) := by
  have hindex : a.toNat % pageSize / elementSize = a.index := (Address.val_index a).symm
  rw [hindex, store?_of_lt p a.index.isLt]

theorem read_of_page (h : (m.table s).pageAt? a = some p) :
    m.read s a = .ok (m.load p a.index) := by
  have hpage : (m.table s).page? (Shape.page .getElement a) = some p := h
  exact congrArg Prod.fst (plain_of_page hpage)

theorem write_of_page (h : (m.table s).pageAt? a = some p) (v : Int32) :
    m.write s a v = (.ok (), m.store p a.index v) := by
  have hpage : (m.table s).page? (Shape.page .setElement (a, v)) = some p := h
  exact plain_of_page hpage

theorem read_of_unmapped (h : (m.table s).pageAt? a = none) :
    m.read s a = .error (.unmappedAddress a) := by
  have hpage : (m.table s).page? (Shape.page .getElement a) = none := h
  exact congrArg Prod.fst (plain_of_none hpage)

theorem write_of_unmapped (h : (m.table s).pageAt? a = none) (v : Int32) :
    m.write s a v = (.error (.unmappedAddress a), m) := by
  have hpage : (m.table s).page? (Shape.page .setElement (a, v)) = none := h
  exact plain_of_none hpage

theorem exists_read_iff (m : Memory) (s : SpaceId) (a : Address) :
    (∃ v, m.read s a = .ok v) ↔ a.toNat < pageSize * (m.table s).size := by
  rw [← PageTable.isSome_pageAt?_iff]
  cases hp : (m.table s).pageAt? a with
  | none => simp [read_of_unmapped hp]
  | some p => simp [read_of_page hp]

theorem write_eq_ok_iff (m : Memory) (s : SpaceId) (a : Address) (v : Int32) :
    (m.write s a v).1 = .ok () ↔ a.toNat < pageSize * (m.table s).size := by
  rw [← PageTable.isSome_pageAt?_iff]
  cases hp : (m.table s).pageAt? a with
  | none => simp [write_of_unmapped hp]
  | some p => simp [write_of_page hp]

end Memory

end PagedMemory
