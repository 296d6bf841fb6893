import PagedMemory.Memory

/-! Bump allocation: requests are cut from the current page one after another, and a
request that does not fit in what is left of it goes to a fresh page. Nothing is freed. -/

set_option autoImplicit false

namespace PagedMemory

inductive PagePolicy where
  | default
  | fixed (kind : PageKind)
  /-- This kind for the first page, and then in turn. -/
  | alternate (first : PageKind)
  deriving DecidableEq, Repr

/-- The kind of the page that comes after `n` others; `none` leaves it to the space. -/
def PagePolicy.kind (n : Nat) : PagePolicy → Option PageKind
  | .default => none
  | .fixed k => some k
  | .alternate first => some (if n % 2 = 0 then first else first.other)

structure BumpAllocator where
  policy : PagePolicy
  current : Option Address := none
  top : Nat := 0
  pages : Array Address := #[]
  deriving DecidableEq, Repr

namespace BumpAllocator

def remaining (a : BumpAllocator) : Nat :=
  match a.current with
  | some _ => pageSize - a.top
  | none => 0

def rounded (size : Nat) : Nat := (size + (elementSize - 1)) / elementSize * elementSize

def claim (a : BumpAllocator) (m : Memory) (s : SpaceId) :
    Except MemoryError Address × BumpAllocator × Memory :=
  match m.allocatePage s (a.policy.kind a.pages.size) with
  | (.error e, m) => (.error e, a, m)
  | (.ok base, m) =>
    let m := m.note (.progress (.pageClaimed base ((m.table s).kindOf? base.page)))
    (.ok base, { a with current := some base, top := 0, pages := a.pages.push base }, m)

/-- The page to cut from: the current one if the request fits in it. -/
def pageFor (a : BumpAllocator) (m : Memory) (s : SpaceId) (size : Nat) :
    Except MemoryError Address × BumpAllocator × Memory :=
  match a.current with
  | some base => if size ≤ a.remaining then (.ok base, a, m) else a.claim m s
  | none => a.claim m s

def malloc (a : BumpAllocator) (m : Memory) (s : SpaceId) (size : Nat) :
    Except MemoryError Address × BumpAllocator × Memory :=
  if pageSize < size then (.error (.allocationTooLarge size pageSize), a, m)
  else
    let size := rounded size
    match a.pageFor m s size with
    | (.error e, a, m) => (.error e, a, m)
    | (.ok base, a, m) => (.ok (base + UInt32.ofNat a.top), { a with top := a.top + size }, m)

end BumpAllocator

end PagedMemory
