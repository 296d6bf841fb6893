import PagedMemory.Address

/-! Storage that the system maps for a page. The system may refuse it, and what it gives has to
suit the elements of a page. -/

set_option autoImplicit false

namespace PagedMemory

/-- What the system answers to a request for storage. -/
inductive Mapping where
  | refused (cause : String)
  | placed (base : UInt64)
  deriving DecidableEq, Repr

namespace Mapping

def pointer (base : UInt64) : String := "0x" ++ String.ofList (Nat.toDigits 16 base.toNat)

def fault? : Mapping → Option String
  | .refused cause => some s!"failed to map direct page: {cause}"
  | .placed base =>
    if base.toNat % elementSize ≠ 0 then
      some s!"mapping at {pointer base} is not aligned for element access"
    else if base = 0 then some "mapping returned a null base"
    else none

end Mapping

end PagedMemory
