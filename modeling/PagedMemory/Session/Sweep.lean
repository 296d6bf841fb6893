import PagedMemory.CallSite

/-! Sweeps: many pages allocated in a row, and many elements written or read at a distance
from each other. -/

set_option autoImplicit false

namespace PagedMemory

def Memory.allocateMany (s : SpaceId) (kinds : Array (Option PageKind)) :
    (n i : Nat) → Option Address → Memory → Except MemoryError (Option Address) × Memory
  | 0, _, last, m => (.ok last, m)
  | n + 1, i, _, m =>
    match m.allocatePage s (kinds[i % kinds.size]?.getD none) with
    | (.ok a, m) => allocateMany s kinds n (i + 1) (some a) m
    | (.error e, m) => (.error e, m)

def Memory.allocateAll (s : SpaceId) (kind : Option PageKind) :
    Nat → Memory → List (Except MemoryError Address) × Memory
  | 0, m => ([], m)
  | n + 1, m =>
    let (answer, m) := m.allocatePage s kind
    let (answers, m) := allocateAll s kind n m
    (answer :: answers, m)

namespace CallSite

/-- Set elements `stride` bytes apart to values `increment` apart; an error comes with its
place. -/
def fill (s : SpaceId) (stride : UInt32) (increment : Int32) :
    (n i : Nat) → Address → Int32 → CallSite .setElement → Memory →
      Except (Nat × MemoryError) Unit × CallSite .setElement × Memory
  | 0, _, _, _, site, m => (.ok (), site, m)
  | n + 1, i, a, v, site, m =>
    match site.call m s (a, v) with
    | (.ok (), site, m) => fill s stride increment n (i + 1) (a + stride) (v + increment) site m
    | (.error e, site, m) => (.error (i, e), site, m)

def scan (s : SpaceId) (stride : UInt32) :
    (n i : Nat) → Address → CallSite .getElement → Memory →
      Except (Nat × MemoryError) (List Int32) × CallSite .getElement × Memory
  | 0, _, _, site, m => (.ok [], site, m)
  | n + 1, i, a, site, m =>
    match site.call m s a with
    | (.error e, site, m) => (.error (i, e), site, m)
    | (.ok v, site, m) =>
      match scan s stride n (i + 1) (a + stride) site m with
      | (.ok vs, site, m) => (.ok (v :: vs), site, m)
      | (.error e, site, m) => (.error e, site, m)

end CallSite

/-- Each value counts as often as its place says, from one to a thousand and again. -/
def weightedSum (i : Nat) (total : Int) : List Int32 → Int
  | [] => total
  | v :: vs => weightedSum (i + 1) (total + v.toInt * (i % 1000 + 1)) vs

def Shape.args? : (sh : Shape) → List Value → Option sh.Args
  | .getElement, [.address a] => some a
  | .setElement, [.address a, .int v] => some (a, v)
  | .lookupPage, [.pageId p] => some p
  | _, _ => none

end PagedMemory
