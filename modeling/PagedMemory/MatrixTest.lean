import PagedMemory.BumpAllocator
import PagedMemory.Checked
import PagedMemory.ElementRun

/-! The matrix test: three square matrices in paged memory are multiplied by one another
over and over through call sites, and the outcome is compared with the same products of
plain arrays. Arithmetic wraps at 32 bits. -/

set_option autoImplicit false

namespace PagedMemory.MatrixTest

def defaultSize : UInt64 := 30
def defaultIterations : UInt64 := 100

structure Matrix where
  base : Address
  size : Nat
  deriving DecidableEq, Repr

def Matrix.entry (x : Matrix) (row col : Nat) : Address := x.base.plusElements (row * x.size + col)

/-- The call sites of a product: one for each factor, one for the result. -/
structure Sites where
  left : CallSite .getElement := getSite
  right : CallSite .getElement := getSite
  store : CallSite .setElement := setSite

namespace Sites

def relinks (sites : Sites) : Nat := sites.left.relinks + sites.right.relinks + sites.store.relinks

def dot (s : SpaceId) (x y : Matrix) (i j : Nat) :
    List Nat → Int32 → Sites → Memory → Except MemoryError Int32 × Sites × Memory
  | [], sum, sites, m => (.ok sum, sites, m)
  | k :: ks, sum, sites, m =>
    match sites.left.call m s (x.entry i k) with
    | (.error e, left, m) => (.error e, { sites with left := left }, m)
    | (.ok a, left, m) =>
      match sites.right.call m s (y.entry k j) with
      | (.error e, right, m) => (.error e, { sites with left := left, right := right }, m)
      | (.ok b, right, m) =>
        dot s x y i j ks (sum + a * b) { sites with left := left, right := right } m

def row (s : SpaceId) (x y out : Matrix) (i : Nat) :
    List Nat → Sites → Memory → Except MemoryError Unit × Sites × Memory
  | [], sites, m => (.ok (), sites, m)
  | j :: js, sites, m =>
    match dot s x y i j (List.range x.size) 0 sites m with
    | (.error e, sites, m) => (.error e, sites, m)
    | (.ok sum, sites, m) =>
      match sites.store.call m s (out.entry i j, sum) with
      | (.error e, store, m) => (.error e, { sites with store := store }, m)
      | (.ok (), store, m) => row s x y out i js { sites with store := store } m

def rows (s : SpaceId) (x y out : Matrix) :
    List Nat → Sites → Memory → Except MemoryError Unit × Sites × Memory
  | [], sites, m => (.ok (), sites, m)
  | i :: is, sites, m =>
    match row s x y out i (List.range x.size) sites m with
    | (.error e, sites, m) => (.error e, sites, m)
    | (.ok (), sites, m) => rows s x y out is sites m

def multiply (s : SpaceId) (x y out : Matrix) (sites : Sites) (m : Memory) :
    Except MemoryError Unit × Sites × Memory :=
  rows s x y out (List.range x.size) sites m

/-- `c := a b`, then `b := c a`, then `a := b c`. -/
def round (s : SpaceId) (a b c : Matrix) (sites : Sites) (m : Memory) :
    Except MemoryError Unit × Sites × Memory :=
  match multiply s a b c sites m with
  | (.error e, sites, m) => (.error e, sites, m)
  | (.ok (), sites, m) =>
    match multiply s c a b sites m with
    | (.error e, sites, m) => (.error e, sites, m)
    | (.ok (), sites, m) => multiply s b c a sites m

def rounds (s : SpaceId) (a b c : Matrix) :
    Nat → Sites → Memory → Except MemoryError Unit × Sites × Memory
  | 0, sites, m => (.ok (), sites, m)
  | n + 1, sites, m =>
    match round s a b c sites m with
    | (.error e, sites, m) => (.error e, sites, m)
    | (.ok (), sites, m) => rounds s a b c n sites m

end Sites

/-- Plain matrices as arrays, row after row; what is outside counts as zero. -/
structure Plain where
  a : Array Int32
  b : Array Int32
  c : Array Int32
  deriving DecidableEq, Repr

namespace Plain

def entry (n : Nat) (x y : Array Int32) (i j : Nat) : Int32 :=
  (List.range n).foldl (fun sum k => sum + x.getD (i * n + k) 0 * y.getD (k * n + j) 0) 0

def multiply (n : Nat) (x y : Array Int32) : Array Int32 :=
  Array.ofFn fun e : Fin (n * n) => entry n x y (e.val / n) (e.val % n)

def round (n : Nat) (p : Plain) : Plain :=
  let c := multiply n p.a p.b
  let b := multiply n c p.a
  ⟨multiply n b c, b, c⟩

def rounds (n : Nat) : Nat → Plain → Plain
  | 0, p => p
  | k + 1, p => rounds n k (p.round n)

end Plain

structure Report where
  size : Nat
  iterations : Nat
  seed : UInt64
  relinks : Nat
  pages : Nat
  matrices : List Address
  checksum : Int
  result : Option (List (List Int32))
  deriving DecidableEq, Repr

structure Options where
  config : Config := {}
  size : UInt64 := defaultSize
  iterations : UInt64 := defaultIterations
  seed : UInt64 := 0
  print : Bool := false
  /-- Pages of both kinds in turn. -/
  mixed : Bool := false
  deriving DecidableEq, Repr

def bytes (size : UInt64) : Except MemoryError Nat :=
  match (checkedMul size size).bind (checkedMul · 4) with
  | some n =>
    if n.toNat ≤ pageSize then .ok n.toNat
    else .error (.allocationTooLarge n.toNat pageSize)
  | none => .error (.allocationTooLarge (UInt64.size - 1) pageSize)

/-- The first place where two lists differ, counted from `i`, with what stands there. -/
def firstDifference (i : Nat) : List Int32 → List Int32 → Option (Nat × Int32 × Int32)
  | x :: xs, y :: ys => if x = y then firstDifference (i + 1) xs ys else some (i, x, y)
  | _, _ => none

def verify (s : SpaceId) (name : String) (x : Matrix) (expected : Array Int32) (m : Memory) :
    Except ToolError Unit × Memory :=
  match CallSite.readRun s x.base (x.size * x.size) 0 getSite m with
  | (.error e, _, m) => (.error (.memory e), m)
  | (.ok actual, _, m) =>
    match firstDifference 0 actual expected.toList with
    | none => (.ok (), m)
    | some (n, v, w) =>
      let place := s!"{name}[{n / x.size}][{n % x.size}]"
      (.error (.verification s!"{place} is {v.toInt}, baseline has {w.toInt}"), m)

def verifyAll (s : SpaceId) : List (String × Matrix × Array Int32) → Memory →
    Except ToolError Unit × Memory
  | [], m => (.ok (), m)
  | (name, x, expected) :: rest, m =>
    match verify s name x expected m with
    | (.error e, m) => (.error e, m)
    | (.ok (), m) => verifyAll s rest m

def place (m : Memory) (s : SpaceId) (policy : PagePolicy) (size : Nat) :
    Except MemoryError (Address × Address × Address) × Memory :=
  match BumpAllocator.malloc { policy := policy } m s size with
  | (.error e, _, m) => (.error e, m)
  | (.ok a, alloc, m) =>
    match alloc.malloc m s size with
    | (.error e, _, m) => (.error e, m)
    | (.ok b, alloc, m) =>
      match alloc.malloc m s size with
      | (.error e, _, m) => (.error e, m)
      | (.ok c, _, m) => (.ok (a, b, c), m)

def fill (s : SpaceId) (a b : Matrix) (xs ys : List Int32) (m : Memory) :
    Except MemoryError Unit × Memory :=
  match CallSite.writeRun s a.base xs 0 setSite m with
  | (.error e, _, m) => (.error e, m)
  | (.ok (), _, m) =>
    match CallSite.writeRun s b.base ys 0 setSite m with
    | (.error e, _, m) => (.error e, m)
    | (.ok (), _, m) => (.ok (), m)

def chunks (n : Nat) : Nat → List Int32 → List (List Int32)
  | 0, _ => []
  | k + 1, xs => xs.take n :: chunks n k (xs.drop n)

def exercise (m : Memory) (s : SpaceId) (o : Options) (a b c : Matrix) (xs ys : List Int32) :
    Except ToolError Report × Memory :=
  let n := o.size.toNat
  match fill s a b xs ys m with
  | (.error e, m) => (.error (.memory e), m)
  | (.ok (), m) =>
    match Sites.rounds s a b c o.iterations.toNat {} m with
    | (.error e, _, m) => (.error (.memory e), m)
    | (.ok (), sites, m) =>
      let plain := Plain.rounds n o.iterations.toNat
        ⟨xs.toArray, ys.toArray, Array.replicate (n * n) 0⟩
      match verifyAll s [("A", a, plain.a), ("B", b, plain.b), ("C", c, plain.c)] m with
      | (.error e, m) => (.error e, m)
      | (.ok (), m) =>
        let kinds := (m.table s).kinds.toList
        let product := plain.c.toList
        let checksum := product.foldl (fun sum v => sum + v.toInt) 0
        let result := if o.print then some (chunks n n product) else none
        (.ok ⟨n, o.iterations.toNat, o.seed, sites.relinks, kinds.length,
            [a.base, b.base, c.base], checksum, result⟩,
          m.note (.progress (.productVerified n o.iterations.toNat sites.relinks kinds)))

/-- The test with numbers from any source, which is asked for as many as are needed. -/
def runWith (draw : Nat → List Int32) (m : Memory) (o : Options) : Except ToolError Report × Memory :=
  let n := o.size.toNat
  if n = 0 then (.error (.validation "size must be > 0"), m)
  else match bytes o.size with
  | .error e => (.error (.memory e), m)
  | .ok size =>
    match m.openSpace o.config with
    | (.error e, m) => (.error (.memory e), m)
    | (.ok s, m) =>
      let policy := if o.mixed then .alternate o.config.defaultKind else .default
      match place m s policy size with
      | (.error e, m) => (.error (.memory e), m)
      | (.ok (a, b, c), m) =>
        let m := m.note (.progress (.matricesPlaced a b c))
        let data := draw (2 * (n * n))
        exercise m s o ⟨a, n⟩ ⟨b, n⟩ ⟨c, n⟩ (data.take (n * n)) (data.drop (n * n))

end PagedMemory.MatrixTest
