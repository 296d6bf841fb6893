import PagedMemory.PageKind
import PagedMemory.Json

/-! Counters of what an address space did, and their forms for other programs to read. -/

set_option autoImplicit false

namespace PagedMemory

/-- What was counted. These are the values of 64-bit counters as long as none of them counts to
`2 ^ 64`. -/
structure Counters where
  heapPages : Nat := 0
  directPages : Nat := 0
  snapshotsPublished : Nat := 0
  links : Nat := 0
  linksRejected : Nat := 0
  relinks : Nat := 0
  allocationsRejected : Nat := 0
  deriving DecidableEq, Repr, Inhabited

namespace Counters

def pages (c : Counters) : Nat := c.heapPages + c.directPages

def fields (c : Counters) : List (String × Nat) := [
  ("heap_pages", c.heapPages),
  ("direct_pages", c.directPages),
  ("snapshots_published", c.snapshotsPublished),
  ("links", c.links),
  ("links_rejected", c.linksRejected),
  ("relinks", c.relinks),
  ("allocations_rejected", c.allocationsRejected)]

def values (c : Counters) : List Nat := c.fields.map Prod.snd

def metrics (c : Counters) : List (String × Nat) :=
  c.fields.map fun (name, n) => (s!"vmem_{name}_total", n)

def exposition (c : Counters) : String :=
  String.join (c.metrics.map fun (name, n) => s!"{name} {n}\n")

def toJson (c : Counters) : Json := .object (c.fields.map fun (name, n) => Json.member name (.ofNat n))

end Counters

inductive Countable where
  | page (kind : PageKind)
  | link | linkRejected | relink | allocationRejected
  deriving DecidableEq, Repr

/-- A new page also publishes a new snapshot. -/
def Counters.add (c : Counters) : Countable → Counters
  | .page .heap =>
    { c with heapPages := c.heapPages + 1, snapshotsPublished := c.snapshotsPublished + 1 }
  | .page .direct =>
    { c with directPages := c.directPages + 1, snapshotsPublished := c.snapshotsPublished + 1 }
  | .link => { c with links := c.links + 1 }
  | .linkRejected => { c with linksRejected := c.linksRejected + 1 }
  | .relink => { c with relinks := c.relinks + 1 }
  | .allocationRejected => { c with allocationsRejected := c.allocationsRejected + 1 }

structure Statistics where
  enabled : Bool := true
  counters : Counters := {}
  deriving DecidableEq, Repr, Inhabited

namespace Statistics

def record (s : Statistics) (what : Countable) : Statistics :=
  if s.enabled then { s with counters := s.counters.add what } else s

def reset (s : Statistics) : Statistics := { s with counters := {} }

end Statistics

end PagedMemory
