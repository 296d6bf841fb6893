import PagedMemory.Link

/-! Call sites: a name, and the accessor that was last linked for it. A call goes to that
accessor first. When it asks to be linked again it is discarded, the operation is linked
anew, and the call is tried once more. -/

set_option autoImplicit false

namespace PagedMemory

structure CallSite (sh : Shape) where
  name : String
  operation : Operation
  linked : Option Guard := none
  /-- The value of a 64-bit counter below `2 ^ 64`. -/
  relinks : Nat := 0
  deriving DecidableEq, Repr

namespace CallSite

variable {sh : Shape}

def ofName (sh : Shape) (name : String) : Except MemoryError (CallSite sh) :=
  match Operation.parse name with
  | .ok op => .ok { name := name, operation := op }
  | .error e => .error (.unsupportedOperation name e.message)

def isLinked (site : CallSite sh) : Bool := site.linked.isSome

def unlink (site : CallSite sh) : CallSite sh := { site with linked := none }

def discard (site : CallSite sh) (m : Memory) (s : SpaceId) : CallSite sh × Memory :=
  let relinks := site.relinks + 1
  let m := m.count s .relink
  let m := m.say (.relinking site.name (m.number s) relinks)
  let m := m.emit s (.relinked (m.number s) site.name relinks)
  ({ site with linked := none, relinks := relinks }, m)

def relink (site : CallSite sh) (m : Memory) (s : SpaceId) (args : sh.Args) :
    Except MemoryError (CallSite sh) × Memory :=
  match m.link s site.operation sh.signature (sh.values args) with
  | (.error e, m) => (.error e, m)
  | (.ok none, m) =>
    (.error (.unsupportedOperation site.name s!"no implementation for {sh.signature.text}"), m)
  | (.ok (some l), m) =>
    match l.as? sh with
    | some g => (.ok { site with linked := some g }, m)
    | none => (.error (.internal s!"{site.name} resolved to the wrong accessor"), m)

inductive Stage (α : Type) where
  | invoke
  | resolve
  | done (answer : Except MemoryError α)
  deriving Repr

/-- One step of a call. Between two steps the memory may change. -/
def step (s : SpaceId) (args : sh.Args) (stage : Stage sh.Output) (site : CallSite sh)
    (m : Memory) : Stage sh.Output × CallSite sh × Memory :=
  match stage with
  | .invoke =>
    match site.linked with
    | none => (.resolve, site, m)
    | some g =>
      match m.invoke s g sh args with
      | (.value v, m) => (.done (.ok v), site, m)
      | (.relink, m) => let (site, m) := site.discard m s; (.resolve, site, m)
  | .resolve =>
    match site.relink m s args with
    | (.ok site, m) => (.invoke, site, m)
    | (.error e, m) => (.done (.error e), site, m)
  | .done answer => (.done answer, site, m)

def steps (s : SpaceId) (args : sh.Args) :
    Nat → Stage sh.Output → CallSite sh → Memory → Stage sh.Output × CallSite sh × Memory
  | 0, stage, site, m => (stage, site, m)
  | _ + 1, .done answer, site, m => (.done answer, site, m)
  | n + 1, stage, site, m =>
    let (stage, site, m) := step s args stage site m
    steps s args n stage site m

/-- A whole call. Undisturbed it takes three steps at most: a fresh accessor always answers. -/
def call (site : CallSite sh) (m : Memory) (s : SpaceId) (args : sh.Args) :
    Except MemoryError sh.Output × CallSite sh × Memory :=
  match steps s args 3 .invoke site m with
  | (.done answer, site, m) => (answer, site, m)
  | (_, site, m) => (.error (.internal s!"{site.name} did not settle"), site, m)

end CallSite

end PagedMemory
