import PagedMemory.BumpAllocator
import PagedMemory.Checked
import PagedMemory.ElementRun

/-! The memory test: numbers are written to a fresh region through one call site and read
back through another. -/

set_option autoImplicit false

namespace PagedMemory.MemoryTest

def defaultCount : UInt64 := 100

structure Report where
  count : UInt64
  base : Address
  seed : UInt64
  relinks : Nat
  pages : Nat
  deriving DecidableEq, Repr

def check (s : SpaceId) (base : Address) :
    List Int32 → Nat → CallSite .getElement → Memory →
      Except ToolError Unit × CallSite .getElement × Memory
  | [], _, site, m => (.ok (), site, m)
  | v :: vs, i, site, m =>
    match site.call m s (base.plusElements i) with
    | (.error e, site, m) => (.error (.memory e), site, m)
    | (.ok w, site, m) =>
      if w = v then check s base vs (i + 1) site m
      else (.error (.mismatch i v w (base.plusElements i)), site, m)

def bytes (count : UInt64) : Except MemoryError Nat :=
  match checkedMul count 4 with
  | some n => .ok n.toNat
  | none => .error (.allocationTooLarge (UInt64.size - 1) pageSize)

def exercise (m : Memory) (s : SpaceId) (base : Address) (count seed : UInt64)
    (data : List Int32) : Except ToolError Report × Memory :=
  let m := m.note (.progress (.memoryTestRegion base count.toNat seed))
  match CallSite.writeRun s base data 0 setSite m with
  | (.error e, _, m) => (.error (.memory e), m)
  | (.ok (), set, m) =>
    match check s base data 0 getSite m with
    | (.error e, _, m) => (.error e, m)
    | (.ok (), get, m) =>
      (.ok ⟨count, base, seed, set.relinks + get.relinks, (m.table s).size⟩,
        m.note (.progress (.memoryTestPassed count.toNat base)))

def runWith (draw : Nat → List Int32) (m : Memory) (config : Config) (count seed : UInt64) :
    Except ToolError Report × Memory :=
  match bytes count with
  | .error e => (.error (.memory e), m)
  | .ok size =>
    match m.openSpace config with
    | (.error e, m) => (.error (.memory e), m)
    | (.ok s, m) =>
      match BumpAllocator.malloc { policy := .default } m s size with
      | (.error e, _, m) => (.error (.memory e), m)
      | (.ok base, _, m) => exercise m s base count seed (draw count.toNat)

end PagedMemory.MemoryTest
