import PagedMemory.Error
import PagedMemory.Event
import PagedMemory.Operation

/-! What the memory and its tools report while they work: structured events, diagnostic
lines of the memory, and progress lines of the tools, in the order in which they arise. -/

set_option autoImplicit false

namespace PagedMemory

inductive Diagnostic where
  | spaceCreated (space : Nat) (kind : PageKind) (maxPages : UInt64)
  | spaceExhausted (space pages : Nat)
  | reservationTooLarge (space size : Nat)
  | pagePlaced (space : Nat) (page : PageId) (kind : PageKind)
  | nameUnreadable (name : String) (cause : Operation.ParseError)
  | notApplicable (operation : String) (space : Nat)
  | linkFailed (operation : String) (space : Nat) (cause : MemoryError)
  | linked (operation : String) (signature : Signature) (space : Nat) (kind : PageKind)
      (generation : Nat)
  | relinking (name : String) (space relinks : Nat)
  deriving DecidableEq, Repr

namespace Diagnostic

def level : Diagnostic → Level
  | .spaceExhausted .. | .reservationTooLarge .. => .warn
  | .pagePlaced .. => .info
  | .relinking .. => .trace
  | _ => .debug

def text : Diagnostic → String
  | .spaceCreated s k n => s!"address space {s} created (default kind {k.name}, max {n.toNat} pages)"
  | .spaceExhausted s p => s!"address space {s} exhausted at {p} pages"
  | .reservationTooLarge s n => s!"address space {s}: {n} byte reservation exceeds page size"
  | .pagePlaced s p k => s!"address space {s}: page {p.toNat} ({k.name}) at {Text.hex (pageStart p)}"
  | .nameUnreadable name cause => s!"link {name}: {cause.message}"
  | .notApplicable op s => s!"link {op} in space {s}: not applicable"
  | .linkFailed op s cause => s!"link {op} in space {s}: {cause.message}"
  | .linked op sig s k g => s!"link {op} {sig.text} in space {s}: {k.name} pages, snapshot {g}"
  | .relinking name s n => s!"{name} relinking in space {s} ({n} so far)"

end Diagnostic

inductive Progress where
  | pageClaimed (base : Address) (kind : Option PageKind)
  | memoryTestRegion (base : Address) (count : Nat) (seed : UInt64)
  | memoryTestPassed (count : Nat) (base : Address)
  | matricesPlaced (a b c : Address)
  | productVerified (size iterations relinks : Nat) (kinds : List PageKind)
  deriving DecidableEq, Repr

namespace Progress

def level : Progress → Level
  | .memoryTestPassed .. | .productVerified .. => .info
  | _ => .debug

def kindTitle : PageKind → String
  | .heap => "Heap"
  | .direct => "Direct"

def text (elapsed : String) : Progress → String
  | .pageClaimed base kind =>
    let kind := (kind.map PageKind.name).getD "unknown"
    s!"new page {Text.hex base} ({kind})"
  | .memoryTestRegion base n seed =>
    s!"memtest region {Text.hex base}, {n} ints, seed {seed.toNat}"
  | .memoryTestPassed n base => s!"memtest passed: {n} ints at {Text.hex base}"
  | .matricesPlaced a b c => s!"a = {Text.hex a}, b = {Text.hex b}, c = {Text.hex c}"
  | .productVerified m i r kinds =>
    let kinds := String.intercalate ", " (kinds.map kindTitle)
    s!"matmul {m}x{m} x{i} verified in {elapsed} ms ({r} relinks, pages [{kinds}])"

end Progress

inductive Notice where
  | diagnostic (d : Diagnostic)
  | event (e : Event)
  | progress (p : Progress)
  deriving DecidableEq, Repr

def Notice.event? : Notice → Option Event
  | .event e => some e
  | _ => none

def Notice.diagnostic? : Notice → Option Diagnostic
  | .diagnostic d => some d
  | _ => none

end PagedMemory
