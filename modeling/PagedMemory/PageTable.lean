import PagedMemory.Address
import PagedMemory.PageKind

/-! Page tables: immutable values that map page ids to pages. A table is extended by
building a new one. Kinds stand beside the pages in an array of their own, so that asking
for a kind does not touch the page. -/

set_option autoImplicit false

namespace PagedMemory

/-- A page: its kind, and the number of the frame that stores its elements. Two pages are
the same page when they share the frame. -/
structure Page where
  kind : PageKind
  frame : Nat
  deriving DecidableEq, Repr, Inhabited

structure PageTable where
  kinds : Array PageKind
  pages : Array Page
  /-- How many tables of the space came before this one. -/
  generation : Nat
  /-- The number of the mark that says whether this is still the latest table. -/
  token : Nat
  deriving DecidableEq, Repr, Inhabited

namespace PageTable

def empty (token : Nat) : PageTable := ⟨#[], #[], 0, token⟩

def extended (t : PageTable) (page : Page) (token : Nat) : PageTable :=
  ⟨t.kinds.push page.kind, t.pages.push page, t.generation + 1, token⟩

def size (t : PageTable) : Nat := t.pages.size
def isEmpty (t : PageTable) : Bool := t.pages.isEmpty
def kindOf? (t : PageTable) (p : PageId) : Option PageKind := t.kinds[p.toNat]?
def page? (t : PageTable) (p : PageId) : Option Page := t.pages[p.toNat]?
def pageAt? (t : PageTable) (a : Address) : Option Page := t.page? a.page
def countOf (t : PageTable) (k : PageKind) : Nat := t.kinds.toList.countP (· == k)

end PageTable

def neighboursDiffer : List PageKind → Bool
  | a :: b :: ks => a != b || neighboursDiffer (b :: ks)
  | _ => false

def PageTable.isHeterogeneous (t : PageTable) : Bool := neighboursDiffer t.kinds.toList

end PagedMemory
