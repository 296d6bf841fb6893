import PagedMemory.EventLog
import PagedMemory.Inspect
import PagedMemory.Session.Step
import PagedMemory.Session.Sweep

/-! Sessions: a client of the memory that keeps what it is given (tables, call sites,
accessors, pages, allocators) in lists. A session is driven by steps; each step has an
outcome, and one that fails leaves everything else in place. -/

set_option autoImplicit false

namespace PagedMemory

structure Session where
  memory : Memory := {}
  logOptions : EventLog.Options := {}
  snapshots : Array PageTable := #[]
  sites : Array (Sigma CallSite) := #[]
  accessors : Array Linked := #[]
  handles : Array Page := #[]
  allocators : Array BumpAllocator := #[]

namespace Session

def tableState (m : Memory) (t : PageTable) : TableState :=
  ⟨t.size, t.isEmpty, t.generation, m.isValid t, t.kinds.toList, t.countOf .heap,
    t.countOf .direct, t.isHeterogeneous⟩

def guardState (m : Memory) (g : Guard) : GuardState :=
  ⟨g.kind, m.number g.owner, g.table.generation, m.isValid g.table⟩

def eventLog (x : Session) : EventLog := (EventLog.ofOptions x.logOptions).logAll x.memory.events

def leave (x : Session) (answer : Outcome × Memory) : Outcome × Session :=
  (answer.1, { x with memory := answer.2 })

def onSpace (x : Session) (s : SpaceId) (f : Memory → Outcome × Session) : Outcome × Session :=
  if (x.memory.space s).isOpen then f x.memory else (.misuse, x)

def onKept {α : Type} (x : Session) (kept : Option α) (f : α → Outcome × Session) :
    Outcome × Session :=
  match kept with
  | some v => f v
  | none => (.misuse, x)

def keepPage (x : Session) (p : Page) : Outcome × Session :=
  (.page p (some x.handles.size), { x with handles := x.handles.push p })

def called (x : Session) : (sh : Shape) → sh.Output → Outcome × Session
  | .getElement, v => (.int v, x)
  | .setElement, () => (.done, x)
  | .lookupPage, p => x.keepPage p

def accessed (x : Session) : (sh : Shape) → Access sh.Output → Outcome × Session
  | .getElement, .value v => (.accessed v (v + 1), x)
  | .setElement, .value () => (.done, x)
  | .lookupPage, .value p => x.keepPage p
  | _, .relink => (.relink, x)

def callStep (x : Session) (i : Nat) (s : SpaceId) (args : List Value) : Outcome × Session :=
  x.onSpace s fun m => x.onKept x.sites[i]? fun ⟨sh, site⟩ =>
    x.onKept (sh.args? args) fun args =>
      match site.call m s args with
      | (answer, site, m) =>
        let x := { x with memory := m, sites := x.sites.setIfInBounds i ⟨sh, site⟩ }
        match answer with
        | .ok v => x.called sh v
        | .error e => (.failed e, x)

def fillStep (x : Session) (i : Nat) (s : SpaceId) (a : Address) (stride : UInt32) (count : Nat)
    (v increment : Int32) : Outcome × Session :=
  x.onSpace s fun m => x.onKept x.sites[i]? fun kept =>
    match kept with
    | ⟨.setElement, site⟩ =>
      match site.fill s stride increment count 0 a v m with
      | (answer, site, m) =>
        let x := { x with memory := m, sites := x.sites.setIfInBounds i ⟨.setElement, site⟩ }
        match answer with
        | .ok () => (.filled site.relinks, x)
        | .error (place, e) => (.stopped place e, x)
    | _ => (.misuse, x)

def scanStep (x : Session) (i : Nat) (s : SpaceId) (a : Address) (stride : UInt32)
    (count : Nat) : Outcome × Session :=
  x.onSpace s fun m => x.onKept x.sites[i]? fun kept =>
    match kept with
    | ⟨.getElement, site⟩ =>
      match site.scan s stride count 0 a m with
      | (answer, site, m) =>
        let x := { x with memory := m, sites := x.sites.setIfInBounds i ⟨.getElement, site⟩ }
        match answer with
        | .ok vs => (.scanned vs.head? vs.getLast? (weightedSum 0 0 vs) site.relinks, x)
        | .error (place, e) => (.stopped place e, x)
    | _ => (.misuse, x)

def keepLinked (x : Session) (answer : Except MemoryError (Option Linked) × Memory) :
    Outcome × Session :=
  let x := { x with memory := answer.2 }
  match answer.1 with
  | .error e => (.failed e, x)
  | .ok none => (.nothing, x)
  | .ok (some l) =>
    (.linked l.shape (guardState x.memory l.guard) x.accessors.size,
      { x with accessors := x.accessors.push l })

def linkStep (x : Session) (s : SpaceId) (name : String) (sig : Signature) (args : List Value)
    (parsed : Bool) : Outcome × Session :=
  x.onSpace s fun m =>
    if parsed then
      match Operation.parse name with
      | .ok op => x.keepLinked (m.link s op sig args)
      | .error e => (.unreadable e, x)
    else x.keepLinked (m.linkNamed s name sig args)

def invokeStep (x : Session) (i : Nat) (s : SpaceId) (args : List Value) : Outcome × Session :=
  x.onSpace s fun m => x.onKept x.accessors[i]? fun l =>
    x.onKept (l.shape.args? args) fun args =>
      match m.invoke s l.guard l.shape args with
      | (access, m) => { x with memory := m }.accessed l.shape access

def mallocStep (x : Session) (i : Nat) (s : SpaceId) (size : Nat) : Outcome × Session :=
  x.onSpace s fun m => x.onKept x.allocators[i]? fun a =>
    match a.malloc m s size with
    | (answer, a, m) =>
      (.allocated answer a.remaining a.pages.toList,
        { x with memory := m, allocators := x.allocators.setIfInBounds i a })

def threadsOutcome (answers : List (Except MemoryError Address)) : Outcome :=
  .threads (answers.filterMap Except.toOption)
    (answers.filterMap fun answer => match answer with
      | .ok _ => none
      | .error e => some e)

def inspect (x : Session) : Subject → Option String
  | .space s => if (x.memory.space s).isOpen then some (Inspect.space x.memory s) else none
  | .snapshot i => x.snapshots[i]?.map (Inspect.table x.memory)
  | .site i => x.sites[i]?.map fun ⟨_, site⟩ => Inspect.callSite x.memory site
  | .accessor i => x.accessors[i]?.map (Inspect.linked x.memory)
  | .handle i => x.handles[i]?.map Inspect.handle
  | .allocator i => x.allocators[i]?.map Inspect.allocator

def step (x : Session) : Step → Outcome × Session
  | .openSpace c =>
    match x.memory.openSpace c with
    | (answer, m) => x.leave (.ofExcept .spaceOpened answer, m)
  | .openDefault =>
    match x.memory.openValid {} with
    | (s, m) => x.leave (.spaceOpened s, m)
  | .closeSpace s => x.onSpace s fun m => x.leave (.done, m.close s)
  | .allocate s kind => x.onSpace s fun m =>
    match m.allocatePage s kind with
    | (answer, m) => x.leave (.ofExcept .address answer, m)
  | .allocateMany s kinds count => x.onSpace s fun m =>
    match m.allocateMany s kinds.toArray count 0 none with
    | (answer, m) => x.leave (.ofExcept (.ofOption .address) answer, m)
  -- Growth is one at a time, so all orders in which the threads may come give the same.
  | .allocateByThreads s threads each kind => x.onSpace s fun m =>
    match m.allocateAll s kind (threads * each) with
    | (answers, m) => x.leave (threadsOutcome answers, m)
  | .reserve s size kind => x.onSpace s fun m =>
    match m.reserve s size kind with
    | (answer, m) => x.leave (.ofExcept .address answer, m)
  | .read s a => x.onSpace s fun m => (.ofExcept .int (m.read s a), x)
  | .write s a v => x.onSpace s fun m =>
    match m.write s a v with
    | (answer, m) => x.leave (.ofExcept (fun _ => .done) answer, m)
  | .pageCount s => x.onSpace s fun m => (.number (m.table s).size, x)
  | .tableState s => x.onSpace s fun m => (.table (tableState m (m.table s)), x)
  | .config s => x.onSpace s fun m => (.config (m.space s).config, x)
  | .counters s => x.onSpace s fun m => (.counters (m.space s).statistics.counters, x)
  | .resetCounters s => x.onSpace s fun m => x.leave (.done, m.resetStatistics s)
  | .exposition s => x.onSpace s fun m => (.text (m.space s).statistics.counters.exposition, x)
  | .keepSnapshot s => x.onSpace s fun m =>
    (.snapshotKept x.snapshots.size, { x with snapshots := x.snapshots.push (m.table s) })
  | .snapshotState i => x.onKept x.snapshots[i]? fun t => (.table (tableState x.memory t), x)
  | .snapshotRead i a => x.onKept x.snapshots[i]? fun t =>
    (.ofOption .int (x.memory.readThrough? t a), x)
  | .snapshotWrite i a v => x.onKept x.snapshots[i]? fun t =>
    match x.memory.writeThrough? t a v with
    | some m => x.leave (.bool true, m)
    | none => (.bool false, x)
  | .snapshotKind i p => x.onKept x.snapshots[i]? fun t => (.ofOption .kind (t.kindOf? p), x)
  | .exposePage i p => x.onKept x.snapshots[i]? fun t =>
    match t.page? p with
    | some page => x.keepPage page
    | none => (.nothing, x)
  | .pageGet i p index => x.onKept x.snapshots[i]? fun t =>
    match t.page? p with
    | some page => match x.memory.load? page index with
      | some v => (.int v, x)
      | none => (.outOfRange, x)
    | none => (.nothing, x)
  | .pageSet i p index v => x.onKept x.snapshots[i]? fun t =>
    match t.page? p with
    | some page => match x.memory.store? page index v with
      | some m => x.leave (.done, m)
      | none => (.outOfRange, x)
    | none => (.nothing, x)
  | .samePage i p j q => x.onKept x.snapshots[i]? fun t => x.onKept x.snapshots[j]? fun u =>
    match t.page? p, u.page? q with
    | some page, some other => (.bool (page == other), x)
    | _, _ => (.nothing, x)
  | .newSite sh name =>
    match CallSite.ofName sh name with
    | .ok site => (.siteMade x.sites.size, { x with sites := x.sites.push ⟨sh, site⟩ })
    | .error e => (.failed e, x)
  | .siteState i => x.onKept x.sites[i]? fun ⟨_, site⟩ =>
    (.site site.name site.operation.text site.isLinked site.relinks, x)
  | .unlink i => x.onKept x.sites[i]? fun ⟨sh, site⟩ =>
    (.done, { x with sites := x.sites.setIfInBounds i ⟨sh, site.unlink⟩ })
  | .call i s args => x.callStep i s args
  | .fill i s a stride count v increment => x.fillStep i s a stride count v increment
  | .scan i s a stride count => x.scanStep i s a stride count
  | .link s name sig args parsed => x.linkStep s name sig args parsed
  | .cloneAccessor i => x.onKept x.accessors[i]? fun l =>
    (.accessorKept x.accessors.size, { x with accessors := x.accessors.push l })
  | .invoke i s args => x.invokeStep i s args
  | .guardState i s => x.onSpace s fun m => x.onKept x.accessors[i]? fun l =>
    (.guard (guardState m l.guard) (l.guard.holds m s), x)
  | .usableAs i => x.onKept x.accessors[i]? fun l =>
    (.flags (Shape.all.map fun sh => (l.as? sh).isSome), x)
  | .handleState i => x.onKept x.handles[i]? fun p => (.page p none, x)
  | .handleGet i index => x.onKept x.handles[i]? fun p =>
    (.ofOption .int (x.memory.load? p index), x)
  | .handleSet i index v => x.onKept x.handles[i]? fun p =>
    match x.memory.storeChecked p index v with
    | (answer, m) => x.leave (.ofExcept (fun _ => .done) answer, m)
  | .handleDump i => x.onKept x.handles[i]? fun p =>
    let all := x.memory.elements p
    (.elements all.length ((all.zipIdx.map Prod.swap).filter fun (_, v) => v != 0), x)
  | .handleIs i j p => x.onKept x.handles[i]? fun page => x.onKept x.snapshots[j]? fun t =>
    (.ofOption (fun other => .bool (page == other)) (t.page? p), x)
  | .newAllocator policy =>
    (.allocatorMade x.allocators.size, { x with allocators := x.allocators.push ⟨policy, none, 0, #[]⟩ })
  | .malloc i s size => x.mallocStep i s size
  | .inspect subject => x.onKept (x.inspect subject) fun t => (.text t, x)
  | .recordedEvents => (.events x.eventLog.events.toList, x)
  | .recordedCount => (.number x.eventLog.count, x)

def diagnosticsFrom (x : Session) (place : Nat) : List Diagnostic :=
  (x.memory.journal.extract place x.memory.journal.size).toList.filterMap Notice.diagnostic?

def observe (x : Session) (st : Step) : (Outcome × List Diagnostic) × Session :=
  let place := x.memory.journal.size
  let (outcome, x) := x.step st
  ((outcome, x.diagnosticsFrom place), x)

def run (x : Session) : List Step → List (Outcome × List Diagnostic) × Session
  | [] => ([], x)
  | st :: sts =>
    let (seen, x) := x.observe st
    let (rest, x) := x.run sts
    (seen :: rest, x)

end Session

end PagedMemory
