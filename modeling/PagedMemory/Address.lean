/-! Addresses of the flat 32-bit space: the upper twenty bits name a page, the lower
twelve a byte inside it. Elements are four bytes wide, and the two low bits of an
offset are ignored by element accesses. -/

set_option autoImplicit false

namespace PagedMemory

abbrev Address := UInt32
abbrev PageId := UInt32

def indexBits : Nat := 12
def pageSize : Nat := 4096
def indexMask : UInt32 := 0xfff
def elementSize : Nat := 4
def elementShift : Nat := 2
def elementsPerPage : Nat := 1024
def maxPages : Nat := 1048576

/-- Pack a page id and a byte offset; bits of the id above the twentieth are lost. -/
def encode (page : PageId) (offset : UInt32) : Address := (page <<< 12) ||| offset

namespace Address

def page (a : Address) : PageId := a >>> 12
def offset (a : Address) : UInt32 := a &&& indexMask

def index (a : Address) : Fin elementsPerPage :=
  ⟨(offset a >>> 2).toNat, by
    simp only [offset, indexMask, elementsPerPage, UInt32.toNat_shiftRight, UInt32.toNat_and]
    have h : a.toNat &&& (4095 : UInt32).toNat ≤ 4095 := Nat.and_le_right
    have h2 : (2 : UInt32).toNat % 32 = 2 := rfl
    rw [h2, Nat.shiftRight_eq_div_pow]
    omega⟩

def isAligned (a : Address) : Bool := a &&& 3 == 0

end Address

def pageStart (page : PageId) : Address := encode page 0

def elementAddress (page : PageId) (index : UInt32) : Address := encode page (index <<< 2)

def Address.plusElements (base : Address) (n : Nat) : Address := base + UInt32.ofNat (n * elementSize)

end PagedMemory
