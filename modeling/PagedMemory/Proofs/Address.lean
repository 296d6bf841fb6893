import Mathlib.Logic.ExistsUnique
import PagedMemory.Address

/-! Addresses as numbers. A page and an offset are the quotient and the remainder of an address,
so that packing them is addition, and nothing is lost either way up to the last element of the
last page. -/

set_option autoImplicit false

namespace PagedMemory.Address

theorem toNat_page (a : Address) : (page a).toNat = a.toNat / 4096 := by
  have h : (12 : UInt32).toNat % 32 = 12 := rfl
  rw [page, UInt32.toNat_shiftRight, h, Nat.shiftRight_eq_div_pow]

theorem toNat_offset (a : Address) : (offset a).toNat = a.toNat % 4096 := by
  have h : indexMask.toNat = 2 ^ 12 - 1 := rfl
  rw [offset, UInt32.toNat_and, h, Nat.and_two_pow_sub_one_eq_mod]

theorem val_index (a : Address) : (index a : Nat) = a.toNat % 4096 / 4 := by
  have h : (2 : UInt32).toNat % 32 = 2 := rfl
  show (offset a >>> 2).toNat = _
  rw [UInt32.toNat_shiftRight, h, Nat.shiftRight_eq_div_pow, toNat_offset]

theorem isAligned_iff (a : Address) : a.isAligned = true ↔ a.toNat % 4 = 0 := by
  have h : (3 : UInt32).toNat = 2 ^ 2 - 1 := rfl
  rw [isAligned, beq_iff_eq, ← UInt32.toNat_inj, UInt32.toNat_and, h,
    Nat.and_two_pow_sub_one_eq_mod]
  rfl

/-- No bit of the offset meets one of the page. -/
theorem toNat_encode {p : PageId} {o : UInt32} (hp : p.toNat < maxPages)
    (ho : o.toNat < pageSize) : (encode p o).toNat = pageSize * p.toNat + o.toNat := by
  have hshift : (12 : UInt32).toNat % 32 = 12 := rfl
  have hpage : p.toNat <<< 12 < 2 ^ 32 := by
    rw [Nat.shiftLeft_eq]
    simp only [maxPages] at hp
    omega
  have hoffset : o.toNat < 2 ^ 12 := ho
  rw [encode, UInt32.toNat_or, UInt32.toNat_shiftLeft, hshift, Nat.mod_eq_of_lt hpage,
    ← Nat.shiftLeft_add_eq_or_of_lt hoffset, Nat.shiftLeft_eq, pageSize]
  omega

theorem toNat_pageStart {n : Nat} (h : n < 1048576) :
    (pageStart (UInt32.ofNat n)).toNat = 4096 * n := by
  have hn : (UInt32.ofNat n).toNat = n :=
    UInt32.toNat_ofNat_of_lt' (Nat.lt_trans h (by decide))
  rw [pageStart, toNat_encode (hn.symm ▸ h) (by decide), hn]
  rfl

theorem toNat_elementAddress {p : PageId} {i : UInt32} (hp : p.toNat < maxPages)
    (hi : i.toNat < elementsPerPage) :
    (elementAddress p i).toNat = pageSize * p.toNat + elementSize * i.toNat := by
  have hshift : (2 : UInt32).toNat % 32 = 2 := rfl
  have hi' : i.toNat < 1024 := hi
  have hoffset : (i <<< 2).toNat = elementSize * i.toNat := by
    rw [UInt32.toNat_shiftLeft, hshift, Nat.shiftLeft_eq, Nat.mod_eq_of_lt (by omega),
      elementSize]
    omega
  rw [elementAddress, toNat_encode hp (by rw [hoffset, elementSize, pageSize]; omega), hoffset]

/-- Page and element are what an address says above its two low bits. -/
theorem page_index_eq_iff {a b : Address} :
    (page a = page b ∧ index a = index b) ↔ a >>> 2 = b >>> 2 := by
  have h : (2 : UInt32).toNat % 32 = 2 := rfl
  rw [← UInt32.toNat_inj, toNat_page, toNat_page, ← Fin.val_inj, val_index, val_index,
    ← UInt32.toNat_inj, UInt32.toNat_shiftRight, UInt32.toNat_shiftRight, h,
    Nat.shiftRight_eq_div_pow, Nat.shiftRight_eq_div_pow]
  omega

theorem page_encode {p : PageId} {o : UInt32} (hp : p.toNat < maxPages)
    (ho : o.toNat < pageSize) : page (encode p o) = p := by
  rw [← UInt32.toNat_inj, toNat_page, toNat_encode hp ho]
  simp only [pageSize] at ho ⊢
  omega

theorem offset_encode {p : PageId} {o : UInt32} (hp : p.toNat < maxPages)
    (ho : o.toNat < pageSize) : offset (encode p o) = o := by
  rw [← UInt32.toNat_inj, toNat_offset, toNat_encode hp ho]
  simp only [pageSize] at ho ⊢
  omega

theorem toNat_page_lt (a : Address) : (page a).toNat < maxPages := by
  have ha := UInt32.toNat_lt a
  rw [toNat_page, maxPages]
  omega

theorem toNat_offset_lt (a : Address) : (offset a).toNat < pageSize := by
  rw [toNat_offset, pageSize]
  omega

theorem encode_page_offset (a : Address) : encode (page a) (offset a) = a := by
  rw [← UInt32.toNat_inj, toNat_encode (toNat_page_lt a) (toNat_offset_lt a), toNat_page,
    toNat_offset, pageSize]
  omega

theorem toNat_elementAddress_eq_add {p : PageId} {i : UInt32} (hp : p.toNat < maxPages)
    (hi : i.toNat < elementsPerPage) :
    (elementAddress p i).toNat = (pageStart p).toNat + i.toNat * elementSize := by
  have hstart : (pageStart p).toNat = pageSize * p.toNat := toNat_encode hp (by decide)
  rw [toNat_elementAddress hp hi, hstart, Nat.mul_comm elementSize]

theorem elementAddress_eq_plusElements {p : PageId} {i : UInt32} (hp : p.toNat < maxPages)
    (hi : i.toNat < elementsPerPage) :
    elementAddress p i = (pageStart p).plusElements i.toNat := by
  have hsum := toNat_elementAddress_eq_add hp hi
  have hlt : (pageStart p).toNat + i.toNat * elementSize < UInt32.size :=
    hsum ▸ UInt32.toNat_lt (elementAddress p i)
  have hbytes : (UInt32.ofNat (i.toNat * elementSize)).toNat = i.toNat * elementSize :=
    UInt32.toNat_ofNat_of_lt' (Nat.lt_of_le_of_lt (Nat.le_add_left _ _) hlt)
  rw [← UInt32.toNat_inj, plusElements, UInt32.toNat_add, hbytes, Nat.mod_eq_of_lt hlt, hsum]

theorem fields_elementAddress {p : PageId} {i : UInt32} (hp : p.toNat < maxPages)
    (hi : i.toNat < elementsPerPage) :
    (elementAddress p i).isAligned = true ∧ page (elementAddress p i) = p ∧
      (index (elementAddress p i) : Nat) = i.toNat := by
  have ha := toNat_elementAddress hp hi
  simp only [pageSize, elementSize, elementsPerPage] at ha hi
  refine ⟨?_, ?_, ?_⟩
  · rw [isAligned_iff, ha]
    omega
  · rw [← UInt32.toNat_inj, toNat_page, ha]
    omega
  · rw [val_index, ha]
    omega

theorem toNat_ofNat_index (a : Address) : (UInt32.ofNat (index a)).toNat = index a :=
  UInt32.toNat_ofNat_of_lt' (Nat.lt_trans (index a).isLt (by decide))

theorem toNat_ofNat_index_lt (a : Address) : (UInt32.ofNat (index a)).toNat < elementsPerPage := by
  rw [toNat_ofNat_index]
  exact (index a).isLt

theorem elementAddress_page_index {a : Address} (h : a.isAligned = true) :
    elementAddress (page a) (UInt32.ofNat (index a)) = a := by
  rw [← UInt32.toNat_inj, toNat_elementAddress (toNat_page_lt a) (toNat_ofNat_index_lt a),
    toNat_ofNat_index, toNat_page, val_index, pageSize, elementSize]
  have haligned := (isAligned_iff a).mp h
  omega

/-- The two forms of an address. Each address is packed from its page and offset, and these are
got back from whatever page and offset are packed. The address of an element is the start of the
page and four bytes for each element before it, a sum that is never carried off; the page and the
element are read from it again, and no two of them have the same one of the aligned addresses. -/
theorem packed_and_counted_forms_agree :
    (∀ a : Address, (page a).toNat < maxPages ∧ (offset a).toNat < pageSize ∧
      (index a : Nat) = (offset a).toNat / elementSize ∧ (index a : Nat) < elementsPerPage ∧
      encode (page a) (offset a) = a) ∧
    (∀ (p : PageId) (o : UInt32), p.toNat < maxPages → o.toNat < pageSize →
      page (encode p o) = p ∧ offset (encode p o) = o) ∧
    (∀ (p : PageId) (i : UInt32), p.toNat < maxPages → i.toNat < elementsPerPage →
      let a := elementAddress p i
      (pageStart p).toNat + i.toNat * elementSize < UInt32.size ∧
      a.toNat = (pageStart p).toNat + i.toNat * elementSize ∧
      a = (pageStart p).plusElements i.toNat ∧
      a.isAligned = true ∧ page a = p ∧ (index a : Nat) = i.toNat) ∧
    ∀ a : Address, a.isAligned = true → ∃! e : PageId × UInt32,
      e.1.toNat < maxPages ∧ e.2.toNat < elementsPerPage ∧ elementAddress e.1 e.2 = a := by
  refine ⟨fun a => ?_, fun p o hp ho => ⟨page_encode hp ho, offset_encode hp ho⟩,
    fun p i hp hi => ?_, fun a ha => ?_⟩
  · refine ⟨toNat_page_lt a, toNat_offset_lt a, ?_, (index a).isLt, encode_page_offset a⟩
    rw [val_index, toNat_offset, elementSize]
  · have hsum := toNat_elementAddress_eq_add hp hi
    exact ⟨hsum ▸ UInt32.toNat_lt _, hsum, elementAddress_eq_plusElements hp hi,
      fields_elementAddress hp hi⟩
  · refine ⟨(page a, UInt32.ofNat (index a)), ⟨toNat_page_lt a, toNat_ofNat_index_lt a,
      elementAddress_page_index ha⟩, ?_⟩
    rintro ⟨p, i⟩ ⟨hp, hi, rfl⟩
    obtain ⟨_, hpage, hindex⟩ := fields_elementAddress hp hi
    rw [hpage, hindex, UInt32.ofNat_toNat]

/-- The last element of the last page ends where the addresses do. -/
theorem packed_and_counted_forms_agree_topmost :
    let a := elementAddress 1048575 1023
    a.toNat + elementSize = UInt32.size ∧ a = (pageStart 1048575).plusElements 1023 ∧
      page a = 1048575 ∧ (index a : Nat) = 1023 := by
  intro a
  obtain ⟨_, hsum, hform, _, hpage, hindex⟩ :=
    packed_and_counted_forms_agree.2.2.1 1048575 1023 (by decide) (by decide)
  refine ⟨?_, hform, hpage, hindex⟩
  rw [hsum]
  decide

end PagedMemory.Address
