import PagedMemory.Address
import PagedMemory.Text.Number

/-! Shapes of calls: the types of the arguments and of the result, and argument values. -/

set_option autoImplicit false

namespace PagedMemory

inductive ValueType where
  | address | int | pageId | page | void
  deriving DecidableEq, Repr

def ValueType.text : ValueType → String
  | .address => "Address"
  | .int => "Int"
  | .pageId => "PageId"
  | .page => "Page"
  | .void => "Void"

inductive Value where
  | address (a : Address)
  | int (v : Int32)
  | pageId (p : PageId)
  deriving DecidableEq, Repr

def Value.type : Value → ValueType
  | .address _ => .address
  | .int _ => .int
  | .pageId _ => .pageId

def Value.text : Value → String
  | .address a => Text.hex a
  | .int v => String.ofList (Text.signedDecimal v.toInt)
  | .pageId p => s!"page {p.toNat}"

structure Signature where
  params : List ValueType
  returns : ValueType
  deriving DecidableEq, Repr

namespace Signature

def elementGet : Signature := ⟨[.address], .int⟩
def elementSet : Signature := ⟨[.address, .int], .void⟩
def pageLookup : Signature := ⟨[.pageId], .page⟩

def accepts (sig : Signature) (args : List Value) : Bool := args.map Value.type == sig.params

def text (sig : Signature) : String :=
  let params := String.intercalate ", " (sig.params.map ValueType.text)
  s!"({params}) -> {sig.returns.text}"

end Signature

end PagedMemory
