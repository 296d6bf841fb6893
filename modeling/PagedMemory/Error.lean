import PagedMemory.Config
import PagedMemory.Signature

/-! What can go wrong: in the memory itself, and in the tools that exercise it. -/

set_option autoImplicit false

namespace PagedMemory

inductive MemoryError where
  /-- No accessor serves the named operation, now or later. -/
  | unsupportedOperation (operation reason : String)
  | allocationTooLarge (requested capacity : Nat)
  | addressSpaceExhausted (pages : Nat)
  | unmappedAddress (address : Address)
  | unmappedPage (page : PageId)
  | pageAllocation (cause : String)
  | configuration (cause : ConfigError)
  | internal (cause : String)
  deriving DecidableEq, Repr

namespace MemoryError

def message : MemoryError → String
  | .unsupportedOperation op reason => s!"Unsupported operation {op}: {reason}"
  | .allocationTooLarge r c =>
    s!"Allocation too large: requested {r} bytes, page capacity is {c} bytes"
  | .addressSpaceExhausted p => s!"Address space exhausted: {p} pages already allocated"
  | .unmappedAddress a => s!"Unmapped address: {Text.hex a}"
  | .unmappedPage p => s!"Unmapped page: {p.toNat}"
  | .pageAllocation cause => s!"Page allocation failed: {cause}"
  | .configuration cause => s!"Configuration error: {cause.message}"
  | .internal cause => s!"Internal error: {cause}"

/-- The same request may succeed later. -/
def isRecoverable : MemoryError → Bool
  | .pageAllocation _ => true
  | _ => false

/-- The same request will always fail. -/
def isPermanent : MemoryError → Bool
  | .unsupportedOperation .. | .allocationTooLarge .. | .configuration _ => true
  | _ => false

def isBug : MemoryError → Bool
  | .internal _ => true
  | _ => false

def chain (e : MemoryError) : List String :=
  e.message :: match e with
    | .configuration cause => [cause.message]
    | _ => []

end MemoryError

inductive ToolError where
  | memory (e : MemoryError)
  | mismatch (index : Nat) (expected actual : Int32) (address : Address)
  | verification (text : String)
  | validation (text : String)
  | config (text : String)
  deriving DecidableEq, Repr

namespace ToolError

def message : ToolError → String
  | .memory e => e.message
  | .mismatch i expected actual address =>
    s!"memtest mismatch at element {i}: wrote {Text.hex expected.toUInt32}, read {Text.hex actual.toUInt32} (address {Text.hex address})"
  | .verification t => s!"Verification failed: {t}"
  | .validation t => s!"Validation error: {t}"
  | .config t => s!"Configuration error: {t}"

def chain : ToolError → List String
  | .memory e => e.chain
  | e => [e.message]

end ToolError

end PagedMemory
