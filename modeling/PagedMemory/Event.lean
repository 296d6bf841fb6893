import PagedMemory.Address
import PagedMemory.PageKind
import PagedMemory.Json

/-! Structured events of an address space, with a text for people and a line of JSON for
programs. -/

set_option autoImplicit false

namespace PagedMemory

inductive Level where
  | error | warn | info | debug | trace
  deriving DecidableEq, Repr

/-- More detail is a higher rank. -/
def Level.rank : Level → Nat
  | .error => 0
  | .warn => 1
  | .info => 2
  | .debug => 3
  | .trace => 4

def Level.name : Level → String
  | .error => "ERROR"
  | .warn => "WARN"
  | .info => "INFO"
  | .debug => "DEBUG"
  | .trace => "TRACE"

def Level.passes (l limit : Level) : Bool := l.rank ≤ limit.rank

inductive Event where
  | pageAllocated (space : Nat) (page : PageId) (kind : PageKind)
  | snapshotPublished (space generation pages : Nat)
  | linked (space : Nat) (operation : String) (kind : PageKind) (generation : Nat)
  | linkRejected (space : Nat) (operation : String)
  | relinked (space : Nat) (operation : String) (relinks : Nat)
  | allocationRejected (space requested : Nat) (reason : String)
  deriving DecidableEq, Repr

namespace Event

def level : Event → Level
  | .allocationRejected .. => .warn
  | .pageAllocated .. => .info
  | .snapshotPublished .. | .linked .. | .linkRejected .. => .debug
  | .relinked .. => .trace

def space : Event → Nat
  | .pageAllocated s .. | .snapshotPublished s .. | .linked s .. | .linkRejected s ..
  | .relinked s .. | .allocationRejected s .. => s

def describe : Event → String
  | .pageAllocated _ p k =>
    s!"page {p.toNat} allocated ({k.name} page, start {Text.hex (pageStart p)})"
  | .snapshotPublished _ g n => s!"snapshot {g} published ({n} pages)"
  | .linked _ op k g => s!"linked {op} for {k.name} pages against snapshot {g}"
  | .linkRejected _ op => s!"{op} is not applicable"
  | .relinked _ op n => s!"{op} relinked ({n} so far)"
  | .allocationRejected _ r reason => s!"allocation of {r} bytes rejected: {reason}"

def human (e : Event) : String := s!"[VMEM] Space {e.space}: {e.describe}"

def type : Event → String
  | .pageAllocated .. => "page_allocated"
  | .snapshotPublished .. => "snapshot_published"
  | .linked .. => "linked"
  | .linkRejected .. => "link_rejected"
  | .relinked .. => "relinked"
  | .allocationRejected .. => "allocation_rejected"

def details : Event → List (List Char × Json)
  | .pageAllocated _ p k =>
    [Json.member "page_id" (.ofNat p.toNat), Json.member "kind" (.ofString k.name)]
  | .snapshotPublished _ g n => [Json.member "generation" (.ofNat g), Json.member "pages" (.ofNat n)]
  | .linked _ op k g =>
    [Json.member "operation" (.ofString op), Json.member "kind" (.ofString k.name),
      Json.member "generation" (.ofNat g)]
  | .linkRejected _ op => [Json.member "operation" (.ofString op)]
  | .relinked _ op n => [Json.member "operation" (.ofString op), Json.member "relinks" (.ofNat n)]
  | .allocationRejected _ r reason =>
    [Json.member "requested" (.ofNat r), Json.member "reason" (.ofString reason)]

def toJson (e : Event) : Json :=
  .object (Json.member "type" (.ofString e.type) :: Json.member "space" (.ofNat e.space) :: e.details)

def wire (e : Event) : List Char := e.toJson.compact

end Event

end PagedMemory
