import PagedMemory.Memory

/-! Resolution of operations to accessors. An accessor is bound to the space, the table and
the page kind that it was linked for. It answers a value as long as all three still hold,
and otherwise asks to be linked again; it is never repaired in place. -/

set_option autoImplicit false

namespace PagedMemory

inductive Shape where
  | getElement | setElement | lookupPage
  deriving DecidableEq, Repr

namespace Shape

def memoryTarget : String := "memory"
def pagesTarget : String := "pages"

def verb : Shape → Verb
  | .getElement | .lookupPage => .get
  | .setElement => .set

def target : Shape → String
  | .getElement | .setElement => memoryTarget
  | .lookupPage => pagesTarget

def signature : Shape → Signature
  | .getElement => .elementGet
  | .setElement => .elementSet
  | .lookupPage => .pageLookup

def all : List Shape := [.getElement, .setElement, .lookupPage]

def classify (op : Operation) (sig : Signature) : Option Shape :=
  if op.hasNamespace .element then
    all.find? fun sh => op.verb == sh.verb && op.target == some sh.target && sig == sh.signature
  else none

abbrev Args : Shape → Type
  | .getElement => Address
  | .setElement => Address × Int32
  | .lookupPage => PageId

abbrev Output : Shape → Type
  | .getElement => Int32
  | .setElement => Unit
  | .lookupPage => Page

def values : (sh : Shape) → sh.Args → List Value
  | .getElement, a => [.address a]
  | .setElement, (a, v) => [.address a, .int v]
  | .lookupPage, p => [.pageId p]

end Shape

inductive Access (α : Type) where
  | value (v : α)
  | relink
  deriving DecidableEq, Repr

structure Guard where
  owner : SpaceId
  table : PageTable
  kind : PageKind
  deriving DecidableEq, Repr

namespace Guard

def holds (g : Guard) (m : Memory) (s : SpaceId) : Bool := g.owner == s && m.isValid g.table

/-- The page of the bound table, if it has the kind linked for. The array of kinds is asked
first, and the page itself has to agree. -/
def page? (g : Guard) (p : PageId) : Option Page :=
  match g.table.kindOf? p with
  | none => none
  | some k =>
    if k = g.kind then
      match g.table.page? p with
      | some page => if page.kind = g.kind then some page else none
      | none => none
    else none

end Guard

structure Linked where
  shape : Shape
  guard : Guard
  deriving DecidableEq, Repr

def Linked.as? (l : Linked) (sh : Shape) : Option Guard :=
  if l.shape = sh then some l.guard else none

def Value.pageRequest? : Value → Option (PageId × MemoryError)
  | .address a => some (a.page, .unmappedAddress a)
  | .pageId p => some (p, .unmappedPage p)
  | .int _ => none

/-- The shape of a call, the page it is about, and the error if that page is not mapped;
nothing if no shape fits. -/
def Shape.request? (op : Operation) (sig : Signature) (args : List Value) :
    Option (Shape × PageId × MemoryError) := do
  let sh ← classify op sig
  if sig.accepts args then
    let first ← args.head?
    let (page, fault) ← first.pageRequest?
    some (sh, page, fault)
  else none

namespace Memory

def reject (m : Memory) (s : SpaceId) (operation : String) : Memory :=
  ((m.say (.notApplicable operation (m.number s))).count s .linkRejected).emit s
    (.linkRejected (m.number s) operation)

/-- Link an operation for a call with the given arguments. The accessor is bound to the
current table and to the kind of the page that the first argument names. -/
def link (m : Memory) (s : SpaceId) (op : Operation) (sig : Signature) (args : List Value) :
    Except MemoryError (Option Linked) × Memory :=
  match Shape.request? op sig args with
  | none => (.ok none, m.reject s op.text)
  | some (sh, page, fault) =>
    let table := m.table s
    match table.kindOf? page with
    | none => (.error fault, m.say (.linkFailed op.text (m.number s) fault))
    | some kind =>
      let m := m.say (.linked op.text sig (m.number s) kind table.generation)
      let m := m.count s .link
      let m := m.emit s (.linked (m.number s) op.text kind table.generation)
      (.ok (some ⟨sh, s, table, kind⟩), m)

def linkNamed (m : Memory) (s : SpaceId) (name : String) (sig : Signature) (args : List Value) :
    Except MemoryError (Option Linked) × Memory :=
  match Operation.parse name with
  | .ok op => m.link s op sig args
  | .error e => (.ok none, (m.say (.nameUnreadable name e)).reject s name)

def invoke (m : Memory) (s : SpaceId) (g : Guard) :
    (sh : Shape) → sh.Args → Access sh.Output × Memory
  | .getElement, a =>
    if g.holds m s then
      match g.page? (Address.page a) with
      | some page => (.value (m.load page (Address.index a)), m)
      | none => (.relink, m)
    else (.relink, m)
  | .setElement, (a, v) =>
    if g.holds m s then
      match g.page? (Address.page a) with
      | some page => (.value (), m.store page (Address.index a) v)
      | none => (.relink, m)
    else (.relink, m)
  | .lookupPage, p =>
    if g.holds m s then
      match g.page? p with
      | some page => (.value page, m)
      | none => (.relink, m)
    else (.relink, m)

end Memory

end PagedMemory
