import PagedMemory.BumpAllocator
import PagedMemory.Link

/-! The steps of a session and their outcomes. Things that a session keeps are referred to
by the order in which they were kept. -/

set_option autoImplicit false

namespace PagedMemory

inductive Subject where
  | space (s : SpaceId)
  | snapshot (i : Nat)
  | site (i : Nat)
  | accessor (i : Nat)
  | handle (i : Nat)
  | allocator (i : Nat)
  deriving DecidableEq, Repr

inductive Step where
  | openSpace (config : Config)
  | openDefault
  | closeSpace (s : SpaceId)
  | allocate (s : SpaceId) (kind : Option PageKind)
  | allocateMany (s : SpaceId) (kinds : List (Option PageKind)) (count : Nat)
  /-- So many threads, each of which asks for so many pages. -/
  | allocateByThreads (s : SpaceId) (threads each : Nat) (kind : Option PageKind)
  | reserve (s : SpaceId) (size : Nat) (kind : Option PageKind)
  | read (s : SpaceId) (a : Address)
  | write (s : SpaceId) (a : Address) (v : Int32)
  | pageCount (s : SpaceId)
  | tableState (s : SpaceId)
  | config (s : SpaceId)
  | counters (s : SpaceId)
  | resetCounters (s : SpaceId)
  | exposition (s : SpaceId)
  | keepSnapshot (s : SpaceId)
  | snapshotState (i : Nat)
  | snapshotRead (i : Nat) (a : Address)
  | snapshotWrite (i : Nat) (a : Address) (v : Int32)
  | snapshotKind (i : Nat) (p : PageId)
  | exposePage (i : Nat) (p : PageId)
  | pageGet (i : Nat) (p : PageId) (index : Nat)
  | pageSet (i : Nat) (p : PageId) (index : Nat) (v : Int32)
  | samePage (i : Nat) (p : PageId) (j : Nat) (q : PageId)
  | newSite (shape : Shape) (name : String)
  | siteState (i : Nat)
  | unlink (i : Nat)
  | call (i : Nat) (s : SpaceId) (args : List Value)
  /-- Set `count` elements, `stride` bytes apart, to values `increment` apart. -/
  | fill (i : Nat) (s : SpaceId) (a : Address) (stride : UInt32) (count : Nat)
      (v increment : Int32)
  | scan (i : Nat) (s : SpaceId) (a : Address) (stride : UInt32) (count : Nat)
  /-- Link by name, or parse the name first and link the operation. -/
  | link (s : SpaceId) (name : String) (sig : Signature) (args : List Value) (parsed : Bool)
  | cloneAccessor (i : Nat)
  | invoke (i : Nat) (s : SpaceId) (args : List Value)
  | guardState (i : Nat) (s : SpaceId)
  | usableAs (i : Nat)
  | handleState (i : Nat)
  | handleGet (i : Nat) (index : Nat)
  | handleSet (i : Nat) (index : Nat) (v : Int32)
  | handleDump (i : Nat)
  | handleIs (i : Nat) (j : Nat) (p : PageId)
  | newAllocator (policy : PagePolicy)
  | malloc (i : Nat) (s : SpaceId) (size : Nat)
  | inspect (subject : Subject)
  | recordedEvents
  | recordedCount
  deriving DecidableEq, Repr

structure TableState where
  size : Nat
  isEmpty : Bool
  generation : Nat
  isValid : Bool
  kinds : List PageKind
  heap : Nat
  direct : Nat
  isHeterogeneous : Bool
  deriving DecidableEq, Repr

structure GuardState where
  kind : PageKind
  owner : Nat
  generation : Nat
  isValid : Bool
  deriving DecidableEq, Repr

inductive Outcome where
  | misuse
  | done
  | nothing
  | failed (e : MemoryError)
  | unreadable (e : Operation.ParseError)
  | outOfRange
  | spaceOpened (i : Nat)
  | snapshotKept (i : Nat)
  | siteMade (i : Nat)
  | accessorKept (i : Nat)
  | allocatorMade (i : Nat)
  | address (a : Address)
  | int (v : Int32)
  | accessed (v next : Int32)
  | bool (b : Bool)
  | number (n : Nat)
  | text (t : String)
  | kind (k : PageKind)
  | table (t : TableState)
  | config (c : Config)
  | counters (c : Counters)
  | events (es : List Event)
  | threads (addresses : List Address) (failed : List MemoryError)
  /-- A page, and its number if it was just kept. -/
  | page (p : Page) (kept : Option Nat)
  | site (name operation : String) (linked : Bool) (relinks : Nat)
  | filled (relinks : Nat)
  | scanned (first last : Option Int32) (weightedSum : Int) (relinks : Nat)
  | stopped (place : Nat) (e : MemoryError)
  | linked (shape : Shape) (g : GuardState) (i : Nat)
  | relink
  | guard (g : GuardState) (holds : Bool)
  | flags (bs : List Bool)
  | elements (size : Nat) (nonzero : List (Nat × Int32))
  | allocated (answer : Except MemoryError Address) (remaining : Nat) (pages : List Address)

namespace Outcome

def ofExcept {α : Type} (f : α → Outcome) : Except MemoryError α → Outcome
  | .ok v => f v
  | .error e => .failed e

def ofOption {α : Type} (f : α → Outcome) : Option α → Outcome
  | some v => f v
  | none => .nothing

end Outcome

end PagedMemory
