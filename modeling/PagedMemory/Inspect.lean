import PagedMemory.BumpAllocator
import PagedMemory.CallSite
import PagedMemory.Text.Printable

/-! Texts that show values for inspection: a record is its name with its fields in braces, a
variant its name with what it holds in parentheses, a list stands in brackets. -/

set_option autoImplicit false

namespace PagedMemory.Inspect

def record (name : String) (fields : List (String × String)) : String :=
  let body := String.intercalate ", " (fields.map fun (field, value) => s!"{field}: {value}")
  name ++ " \x7b " ++ body ++ " \x7d"

def variant (name value : String) : String := s!"{name}({value})"

def list (items : List String) : String :=
  let body := String.intercalate ", " items
  s!"[{body}]"

def option {α : Type} (inspect : α → String) : Option α → String
  | some v => variant "Some" (inspect v)
  | none => "None"

def codePoint (c : Char) : List Char := Nat.toDigits 16 c.toNat

def quotedChar (c : Char) : List Char :=
  if c = '"' then ['\\', '"']
  else if c = '\\' then ['\\', '\\']
  else if c = '\n' then ['\\', 'n']
  else if c = '\r' then ['\\', 'r']
  else if c = '\t' then ['\\', 't']
  else if c.toNat = 0 then ['\\', '0']
  else if Text.isHidden c then
    ['\\', 'u', '\x7b'] ++ codePoint c ++ ['\x7d']
  else [c]

def quoted (s : String) : String := String.ofList ('"' :: s.toList.flatMap quotedChar ++ ['"'])

def kind : PageKind → String := Progress.kindTitle

def config (c : Config) : String := record "VmemConfig" [
  ("default_page_kind", kind c.defaultKind),
  ("max_pages", s!"{c.maxPages.toNat}"),
  ("verbose", s!"{c.verbose}"),
  ("stats_enabled", s!"{c.statsEnabled}")]

def table (m : Memory) (t : PageTable) : String := record "PageTable" [
  ("generation", s!"{t.generation}"),
  ("pages", s!"{t.size}"),
  ("valid", s!"{m.isValid t}")]

def spaceId (m : Memory) (s : SpaceId) : String := variant "SpaceId" s!"{m.number s}"

def space (m : Memory) (s : SpaceId) : String := record "AddressSpace" [
  ("id", spaceId m s),
  ("snapshot", table m (m.table s)),
  ("config", config (m.space s).config)]

def page (p : Page) : String := record "Page" [
  ("kind", kind p.kind),
  ("words", s!"{elementsPerPage}")]

def handle (p : Page) : String := record "PageHandle" [("page", page p)]

def guard (m : Memory) (g : Guard) : String := record "Guard" [
  ("owner", spaceId m g.owner),
  ("generation", s!"{g.table.generation}"),
  ("kind", kind g.kind)]

def accessorName : Shape → String
  | .getElement => "ElementGetter"
  | .setElement => "ElementSetter"
  | .lookupPage => "PageGetter"

def accessor (m : Memory) (sh : Shape) (g : Guard) : String :=
  record (accessorName sh) [("guard", guard m g)]

def linkedName : Shape → String
  | .getElement => "Get"
  | .setElement => "Set"
  | .lookupPage => "Page"

def linked (m : Memory) (l : Linked) : String :=
  variant (linkedName l.shape) (accessor m l.shape l.guard)

def verb : Verb → String
  | .get => "Get"
  | .set => "Set"
  | .call => "Call"
  | .new => "New"
  | .remove => "Remove"

def nameSpace : Namespace → String
  | .property => "Property"
  | .element => "Element"
  | .method => "Method"

def operation (op : Operation) : String := record "Operation" [
  ("verb", verb op.verb),
  ("namespaces", list (op.namespaces.map nameSpace)),
  ("target", option quoted op.target)]

def signature (sig : Signature) : String := record "Signature" [
  ("params", list (sig.params.map ValueType.text)),
  ("returns", sig.returns.text)]

def callSite {sh : Shape} (m : Memory) (site : CallSite sh) : String := record "CallSite" [
  ("name", quoted site.name),
  ("operation", operation site.operation),
  ("signature", signature sh.signature),
  ("cached", option (accessor m sh) site.linked),
  ("relinks", s!"{site.relinks}")]

def policy : PagePolicy → String
  | .default => "Default"
  | .fixed k => variant "Fixed" (kind k)
  | .alternate k => variant "Alternate" (kind k)

def address (a : Address) : String := s!"{a.toNat}"

def allocator (a : BumpAllocator) : String := record "BumpAllocator" [
  ("policy", policy a.policy),
  ("current", option address a.current),
  ("top", s!"{a.top}"),
  ("pages", list (a.pages.toList.map address))]

end PagedMemory.Inspect
